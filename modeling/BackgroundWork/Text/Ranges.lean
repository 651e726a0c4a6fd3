set_option autoImplicit false

/-!
Sets of code points as ranges.
-/

namespace BackgroundWork.Text

/-- A set of code points, as ranges that include both of their ends. -/
abbrev Ranges := List (Nat × Nat)

/-- Whether a character is in one of the ranges. -/
def Ranges.hold (ranges : Ranges) (c : Char) : Bool :=
  ranges.any fun range => range.1 ≤ c.toNat && c.toNat ≤ range.2

end BackgroundWork.Text
