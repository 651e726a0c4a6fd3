import BackgroundWork.Json.Codec
import BackgroundWork.Text.Blank
import BackgroundWork.Validation

set_option autoImplicit false

/-!
How urgent a document's compression is. A priority is read from what a user wrote, whatever the
case of its letters, and has one spelling towards the engine.
-/

namespace BackgroundWork.Compression

/-- How urgent a document's compression is. -/
inductive Priority where
  | high
  | normal
  | low
  | background
  deriving DecidableEq, Repr

namespace Priority

/-- The spelling of a priority. -/
def name : Priority → String
  | high => "HIGH"
  | normal => "NORMAL"
  | low => "LOW"
  | background => "BACKGROUND"

/-- The priorities by name. -/
def enumeration : Json.Enumeration Priority where
  names := [high, normal, low, background].map fun priority => (priority.name, priority)
  name := name

/-- A character in capitals. Of the characters outside ASCII only those are changed whose capitals
are ASCII letters. -/
def capitals (c : Char) : List Char :=
  match c with
  | 'ß' => ['S', 'S']
  | 'ı' => ['I']
  | 'ſ' => ['S']
  | 'ﬀ' => ['F', 'F']
  | 'ﬁ' => ['F', 'I']
  | 'ﬂ' => ['F', 'L']
  | 'ﬃ' => ['F', 'F', 'I']
  | 'ﬄ' => ['F', 'F', 'L']
  | 'ﬅ' | 'ﬆ' => ['S', 'T']
  | c => [c.toUpper]

/-- What a user may write for a priority, in capitals. -/
def spellings : List (String × Priority) :=
  [("HIGH", high), ("NORMAL", normal), ("LOW", low), ("BACKGROUND", background),
    ("BG", background)]

/-- The priority that a user wrote, blanks around it and the case of its letters aside. -/
def ofText (text : String) : Except ValidationError Priority :=
  let written := String.ofList ((Text.trim text.toList).flatMap capitals)
  match spellings.find? (·.1 == written) with
  | some (_, priority) => .ok priority
  | none => .error (.invalidValue "priority" "must be HIGH, NORMAL, LOW or BACKGROUND")

end Priority
end BackgroundWork.Compression
