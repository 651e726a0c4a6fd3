set_option autoImplicit false

/-!
Blank and control characters of Unicode text, and trimming. A text is blank when trimming leaves
nothing of it, that is, when all its characters are blank.
-/

namespace BackgroundWork.Text

/-- The characters with the Unicode property White_Space. -/
def isBlank (c : Char) : Bool :=
  let code := c.toNat
  (0x09 ≤ code && code ≤ 0x0D) || code == 0x20 || code == 0x85 || code == 0xA0 || code == 0x1680 ||
    (0x2000 ≤ code && code ≤ 0x200A) || code == 0x2028 || code == 0x2029 || code == 0x202F ||
    code == 0x205F || code == 0x3000

/-- The characters of the Unicode category Cc. -/
def isControl (c : Char) : Bool :=
  let code := c.toNat
  code < 0x20 || (0x7F ≤ code && code ≤ 0x9F)

/-- A text without its leading blanks. -/
def trimStart (text : List Char) : List Char :=
  text.dropWhile isBlank

/-- A text without its leading and trailing blanks. -/
def trim (text : List Char) : List Char :=
  (trimStart (trimStart text).reverse).reverse

/-- Nothing but blanks. -/
def allBlank (text : String) : Bool :=
  text.toList.all isBlank

theorem trimStart_eq_nil_iff (text : List Char) : trimStart text = [] ↔ text.all isBlank := by
  induction text with
  | nil => simp [trimStart]
  | cons c rest ih =>
    simp only [trimStart, List.dropWhile_cons, List.all_cons, Bool.and_eq_true] at ih ⊢
    split <;> simp_all

end BackgroundWork.Text
