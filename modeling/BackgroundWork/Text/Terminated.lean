import BackgroundWork.Text.Utf8

set_option autoImplicit false

/-!
Texts in shared memory: bytes that a zero ends, so that they hold none themselves.
-/

namespace BackgroundWork.Text

/-- Bytes that a zero ends. -/
structure Terminated where
  bytes : List UInt8
  zero_not_mem : 0 ∉ bytes
  deriving DecidableEq

namespace Terminated

/-- The bytes of a text; none if one of them is zero. -/
def ofText? (text : String) : Option Terminated :=
  let bytes := Utf8.encode text
  if h : 0 ∈ bytes then none else some ⟨bytes, h⟩

/-- The bytes before the first zero. -/
def cut (bytes : List UInt8) : Terminated where
  bytes := bytes.takeWhile (· != 0)
  zero_not_mem h := by
    have := List.all_eq_true.mp (List.all_takeWhile (l := bytes) (p := (· != 0))) 0 h
    simp at this

/-- The text that the bytes spell. -/
def text (terminated : Terminated) : Except Utf8.Fault String :=
  Utf8.decode terminated.bytes

/-- The text that the bytes spell, with replacement characters for what is ill-formed. -/
def lenientText (terminated : Terminated) : String :=
  Utf8.decodeLenient terminated.bytes

end Terminated
end BackgroundWork.Text
