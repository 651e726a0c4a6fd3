import BackgroundWork.Json.Codec
import BackgroundWork.Validation

set_option autoImplicit false

/-!
Names of documents. A name given by the user is validated before it is used; as JSON it is the
plain text, taken as it stands.
-/

namespace BackgroundWork

/-- The name of a document. -/
structure DocumentId where
  text : String
  deriving DecidableEq, Repr

namespace DocumentId

/-- The longest name that the engine accepts, in characters. -/
def maxLength : Nat := 128

/-- What a name must satisfy, in the order in which it is checked. -/
def checks : List Check := [.required, .maxLength maxLength, .noControlCharacters]

/-- A validated name. -/
def ofText (text : String) : Except ValidationError DocumentId :=
  match ((Form.new "document_id" (some text)).applyAll checks).validate with
  | .error error => .error error
  | .ok () => .ok ⟨text⟩

/-- A name as JSON. -/
def codec : Json.Codec DocumentId where
  decode depth text :=
    (Json.Codec.string.decode depth text).map fun (value, rest) => (⟨value⟩, rest)
  encode id := Json.Codec.string.encode id.text

end DocumentId
end BackgroundWork
