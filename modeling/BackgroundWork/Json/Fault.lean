import BackgroundWork.Numeric.Shortest
import BackgroundWork.Text.Quoted

set_option autoImplicit false

/-!
Why a text was refused as JSON, or as JSON of the wanted shape, and the wording of each cause.
-/

namespace BackgroundWork.Json

open Numeric

/-- What stood where something else was expected. -/
inductive Found where
  | null
  | bool (value : Bool)
  | integer (value : Int)
  | float (value : Binary64)
  | string (value : String)
  | sequence
  | map
  deriving DecidableEq, Repr

/-- The wording for what was found. -/
def Found.message : Found → String
  | .null => "null"
  | .bool value => s!"boolean `{value}`"
  | .integer value => "integer `" ++ String.ofList (intText value) ++ "`"
  | .float value => "floating point `" ++ String.ofList value.text ++ "`"
  | .string value => "string " ++ Text.quoted value
  | .sequence => "sequence"
  | .map => "map"

/-- Why a text was refused. -/
inductive Fault where
  /-- The text ends where a value is due. -/
  | endInValue
  | endInList
  | endInObject
  | endInString
  | expectedValue
  /-- A word that starts like a literal and is none. -/
  | brokenLiteral
  | expectedColon
  | expectedListEnd
  | expectedObjectEnd
  | keyNotString
  | trailingComma
  | trailingCharacters
  | invalidNumber
  | numberOutOfRange
  | invalidEscape
  | controlCharacter
  /-- Half of a surrogate pair on its own. -/
  | loneSurrogate
  /-- The first half of a surrogate pair with no escape after it. -/
  | unfinishedPair
  | tooDeep
  /-- A value of another kind. -/
  | wrongKind (found : Found) (expected : String)
  /-- An integer that does not fit. -/
  | wrongValue (value : Int) (expected : String)
  /-- A list that ends before all members of a record are given. -/
  | shortRecord (length : Nat) (record : String) (size : Nat)
  | unknownVariant (name : String) (variants : List String)
  | unknownField (name : String) (fields : List String)
  | duplicateField (name : String)
  | missingField (name : String)
  /-- A text of the right kind whose content is refused. -/
  | content (reason : String)
  deriving DecidableEq, Repr

/-- A choice of names, as messages list them. -/
def choice : List String → String
  | [] => "none"
  | [a] => s!"`{a}`"
  | [a, b] => s!"`{a}` or `{b}`"
  | names => "one of " ++ ", ".intercalate (names.map fun name => s!"`{name}`")

/-- The wording of a fault. -/
def Fault.message : Fault → String
  | .endInValue => "EOF while parsing a value"
  | .endInList => "EOF while parsing a list"
  | .endInObject => "EOF while parsing an object"
  | .endInString => "EOF while parsing a string"
  | .expectedValue => "expected value"
  | .brokenLiteral => "expected ident"
  | .expectedColon => "expected `:`"
  | .expectedListEnd => "expected `,` or `]`"
  | .expectedObjectEnd => "expected `,` or `\x7d`"
  | .keyNotString => "key must be a string"
  | .trailingComma => "trailing comma"
  | .trailingCharacters => "trailing characters"
  | .invalidNumber => "invalid number"
  | .numberOutOfRange => "number out of range"
  | .invalidEscape => "invalid escape"
  | .controlCharacter => "control character (\\u0000-\\u001F) found while parsing a string"
  | .loneSurrogate => "lone leading surrogate in hex escape"
  | .unfinishedPair => "unexpected end of hex escape"
  | .tooDeep => "recursion limit exceeded"
  | .wrongKind found expected => s!"invalid type: {found.message}, expected {expected}"
  | .wrongValue value expected =>
    "invalid value: " ++ (Found.integer value).message ++ s!", expected {expected}"
  | .shortRecord length record size =>
    s!"invalid length {length}, expected struct {record} with {size} " ++
      (if size = 1 then "element" else "elements")
  | .unknownVariant name variants => s!"unknown variant `{name}`, expected " ++ choice variants
  | .unknownField name fields => s!"unknown field `{name}`, expected " ++ choice fields
  | .duplicateField name => s!"duplicate field `{name}`"
  | .missingField name => s!"missing field `{name}`"
  | .content reason => reason

end BackgroundWork.Json
