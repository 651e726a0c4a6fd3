import BackgroundWork.Json.Value
import BackgroundWork.Text.Blank

set_option autoImplicit false

/-!
Checks made on input before anything reaches the engine. A form holds one field and collects the
faults of the checks applied to it; the verdict is the first of them.
-/

namespace BackgroundWork

open Json (Value)

/-- Why input was refused. -/
inductive ValidationError where
  | required (field : String)
  | maxLength (field : String) (max : Nat)
  | payloadTooLarge (call : String) (size max : Nat)
  | invalidValue (field reason : String)
  | custom (message : String)
  deriving DecidableEq, Repr

namespace ValidationError

/-- The wording of a refusal. -/
def message : ValidationError → String
  | required field => s!"Field '{field}' is required"
  | maxLength field max => s!"Field '{field}' cannot exceed {max} characters"
  | payloadTooLarge call size max => s!"Request for '{call}' is {size} bytes, limit is {max}"
  | invalidValue field reason => s!"Field '{field}' contains an invalid value: {reason}"
  | custom message => s!"Validation error: {message}"

/-- The kind of a refusal. -/
def kind : ValidationError → String
  | required .. => "Required"
  | maxLength .. => "MaxLength"
  | payloadTooLarge .. => "PayloadTooLarge"
  | invalidValue .. => "InvalidValue"
  | custom .. => "Custom"

/-- A refusal as data: its kind with its parts. -/
def toJson (error : ValidationError) : Value :=
  let natural (n : Nat) : Value := .number (.integer n)
  .object [(error.kind,
    match error with
    | required field => .object [("field", .string field)]
    | maxLength field max => .object [("field", .string field), ("max", natural max)]
    | payloadTooLarge call size max =>
      .object [("call", .string call), ("max", natural max), ("size", natural size)]
    | invalidValue field reason => .object [("field", .string field), ("reason", .string reason)]
    | custom message => .string message)]

end ValidationError

/-! ### Forms -/

/-- A check on a text field. -/
inductive Check where
  /-- The field is given and not blank. -/
  | required
  /-- The field has at most that many characters. -/
  | maxLength (max : Nat)
  /-- The field has no control characters. -/
  | noControlCharacters
  deriving DecidableEq, Repr

/-- What a check finds wrong with a field. Only `required` minds a field that is not given. -/
def Check.fault? (check : Check) (field : String) (value : Option String) :
    Option ValidationError :=
  match check, value with
  | .required, none => some (.required field)
  | .required, some text => if Text.allBlank text then some (.required field) else none
  | .maxLength _, none => none
  | .maxLength max, some text =>
    if max < text.toList.length then some (.maxLength field max) else none
  | .noControlCharacters, none => none
  | .noControlCharacters, some text =>
    if text.toList.any Text.isControl then
      some (.invalidValue field "must not contain control characters")
    else none

/-- A field under check, with the faults found so far in the order of the checks. -/
structure Form where
  field : String
  value : Option String
  faults : List ValidationError

namespace Form

/-- A field before any check. -/
def new (field : String) (value : Option String) : Form :=
  ⟨field, value, []⟩

/-- Applies one more check. -/
def apply (form : Form) (check : Check) : Form :=
  { form with faults := form.faults ++ (check.fault? form.field form.value).toList }

/-- Applies checks in order. -/
def applyAll (form : Form) (checks : List Check) : Form :=
  checks.foldl Form.apply form

/-- The first fault, if there is one. -/
def validate (form : Form) : Except ValidationError Unit :=
  match form.faults with
  | [] => .ok ()
  | fault :: _ => .error fault

end Form

/-- Refuses a request that is larger than `max` bytes. -/
def ensurePayloadWithin (call payload : String) (max : Nat) : Except ValidationError Unit :=
  if max < payload.utf8ByteSize then .error (.payloadTooLarge call payload.utf8ByteSize max)
  else .ok ()

end BackgroundWork
