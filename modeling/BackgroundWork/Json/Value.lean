import BackgroundWork.Json.Reader

set_option autoImplicit false

/-!
JSON values. The members of an object are kept in ascending order of their keys, the last of
several members with one key counting. A value is written compactly, and read with a limit on
nesting.
-/

namespace BackgroundWork.Json

open Numeric

/-- A JSON value. -/
inductive Value where
  | null
  | bool (value : Bool)
  | number (value : Number)
  | string (value : String)
  | list (items : List Value)
  | object (members : List (String × Value))
  deriving Inhabited

/-- Puts a member at its place among members in ascending order of their keys, instead of the one
with the same key. -/
def insertMember (key : String) (value : Value) : List (String × Value) → List (String × Value)
  | [] => [(key, value)]
  | (key', value') :: rest =>
    if key < key' then (key, value) :: (key', value') :: rest
    else if key = key' then (key, value) :: rest
    else (key', value') :: insertMember key value rest

namespace Value

/-- The object with the given members, in any order. -/
def ofMembers (members : List (String × Value)) : Value :=
  .object (members.foldl (fun sorted (key, value) => insertMember key value sorted) [])

/-- The member with the given key. -/
def get? (value : Value) (key : String) : Option Value :=
  match value with
  | .object members => (members.find? (·.1 == key)).map Prod.snd
  | _ => none

/-- The text of a string. -/
def asString? : Value → Option String
  | .string value => some value
  | _ => none

end Value

/-! ### Writing -/

/-- A control character as an escape of four digits. -/
def hexEscape (c : Char) : List Char :=
  let digits := Text.hexadecimal c.toNat
  ['\\', 'u'] ++ List.replicate (4 - digits.length) '0' ++ digits

/-- A character as it stands in a JSON string. -/
def stringChar (c : Char) : List Char :=
  if c == '"' then ['\\', '"']
  else if c == '\\' then ['\\', '\\']
  else if c == '\x08' then ['\\', 'b']
  else if c == '\x0c' then ['\\', 'f']
  else if c == '\n' then ['\\', 'n']
  else if c == '\r' then ['\\', 'r']
  else if c == '\t' then ['\\', 't']
  else if c.toNat < 0x20 then hexEscape c
  else [c]

/-- A text as a JSON string. -/
def stringText (value : String) : List Char :=
  '"' :: value.toList.flatMap stringChar ++ ['"']

/-- A truth value. -/
def boolText : Bool → List Char
  | true => ['t', 'r', 'u', 'e']
  | false => ['f', 'a', 'l', 's', 'e']

/-- The empty value. -/
def nullText : List Char := ['n', 'u', 'l', 'l']

/-- A finite number; the others have no JSON form and are written as the empty value. -/
def floatText {format : Format} (value : Binary format) : List Char :=
  if value.isFinite then value.text else nullText

/-- Parts separated by commas. -/
def commaSeparated : List (List Char) → List Char
  | [] => []
  | [part] => part
  | part :: parts => part ++ ',' :: commaSeparated parts

/-- A list of written values. -/
def listText (items : List (List Char)) : List Char :=
  '[' :: commaSeparated items ++ [']']

/-- A key and a written value. -/
def memberText (key : String) (value : List Char) : List Char :=
  stringText key ++ ':' :: value

/-- An object with written values, in the given order. -/
def objectText (members : List (String × List Char)) : List Char :=
  '\x7b' :: commaSeparated (members.map fun (key, value) => memberText key value) ++ ['\x7d']

/-- A number. -/
def Number.text : Number → List Char
  | .integer value => intText value
  | .float value => floatText value

mutual

/-- A value, compactly. -/
def Value.text : Value → List Char
  | .null => nullText
  | .bool value => boolText value
  | .number value => value.text
  | .string value => stringText value
  | .list items => listText (Value.texts items)
  | .object members => objectText (Value.memberTexts members)

/-- The elements of a list, each written. -/
def Value.texts : List Value → List (List Char)
  | [] => []
  | value :: values => value.text :: Value.texts values

/-- The members of an object, each value written. -/
def Value.memberTexts : List (String × Value) → List (String × List Char)
  | [] => []
  | (key, value) :: members => (key, value.text) :: Value.memberTexts members

end

/-! ### Reading -/

/-- A reader that knows how many more lists and objects may be opened. -/
abbrev Decoder (α : Type) := Nat → Reader α

/-- How deep lists and objects may be nested. -/
def depthLimit : Nat := 127

/-- The rest of a literal, as a value. -/
def literalAs {α : Type} (letters : List Char) (value : α) (text : List Char) : Reading α :=
  (literal letters text).map fun rest => (value, rest)

/-- Any value. -/
def Value.decode (depth : Nat) (text : List Char) : Reading Value :=
  match dropSpace text with
  | [] => .error .endInValue
  | 'n' :: rest => literalAs ['u', 'l', 'l'] .null rest
  | 't' :: rest => literalAs ['r', 'u', 'e'] (.bool true) rest
  | 'f' :: rest => literalAs ['a', 'l', 's', 'e'] (.bool false) rest
  | '"' :: rest => (Json.string rest).map fun (value, rest) => (.string value, rest)
  | '-' :: rest => (Json.number true rest).map fun (value, rest) => (.number value, rest)
  | '[' :: rest =>
    match depth with
    | 0 => .error .tooDeep
    | depth + 1 => (items (Value.decode depth) rest).map fun (values, rest) => (.list values, rest)
  | '\x7b' :: rest =>
    match depth with
    | 0 => .error .tooDeep
    | depth + 1 =>
      let member (sorted : List (String × Value)) (key : String) (text : List Char) :
          Reading (List (String × Value)) :=
        match colon text with
        | .error fault => .error fault
        | .ok rest =>
          (Value.decode depth rest).map fun (value, rest) => (insertMember key value sorted, rest)
      (members member [] rest).map fun (sorted, rest) => (.object sorted, rest)
  | c :: rest =>
    if isDigit c then (Json.number false (c :: rest)).map fun (value, rest) => (.number value, rest)
    else .error .expectedValue

/-- A whole text: one value, with nothing but blanks after it. -/
def decodeWith {α : Type} (decode : Decoder α) (text : String) : Except Fault α :=
  match decode depthLimit text.toList with
  | .error fault => .error fault
  | .ok (value, rest) => if (dropSpace rest).isEmpty then .ok value else .error .trailingCharacters

/-- Reads a text as a value. -/
def Value.ofText (text : String) : Except Fault Value :=
  decodeWith Value.decode text

/-- A value as text. -/
def Value.render (value : Value) : String :=
  String.ofList value.text

end BackgroundWork.Json
