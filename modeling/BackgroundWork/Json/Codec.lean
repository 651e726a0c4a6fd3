import BackgroundWork.Json.Value

set_option autoImplicit false

/-!
Codecs: how a type is written as JSON and read from it. Reading takes one value from the front of
a text and finds faults of form and of kind in the order in which they stand there.
-/

namespace BackgroundWork.Json

open Numeric

/-- How a type is written as JSON and read from it. -/
structure Codec (α : Type) where
  decode : Decoder α
  encode : α → List Char

namespace Codec

variable {α : Type}

/-- Reads a whole text. -/
def ofText (codec : Codec α) (text : String) : Except Fault α :=
  decodeWith codec.decode text

/-- Writes a value as text. -/
def render (codec : Codec α) (value : α) : String :=
  String.ofList (codec.encode value)

/-- Any JSON value. -/
def value : Codec Value where
  decode := Value.decode
  encode := Value.text

/-- A truth value. -/
def bool : Codec Bool where
  decode _ text :=
    match dropSpace text with
    | 't' :: rest => literalAs ['r', 'u', 'e'] true rest
    | 'f' :: rest => literalAs ['a', 'l', 's', 'e'] false rest
    | next => .error (mismatch "a boolean" next)
  encode := boolText

/-- A string, or a fault that names what was wanted instead. -/
def decodeString (expected : String) : Decoder String := fun _ text =>
  match dropSpace text with
  | '"' :: rest => Json.string rest
  | next => .error (mismatch expected next)

/-- A string. -/
def string : Codec String where
  decode := decodeString "a string"
  encode := stringText

/-- A string whose content `read` accepts. -/
def content {β : Type} (expected : String) (read : String → Except String β)
    (write : β → String) : Codec β where
  decode depth text :=
    match decodeString expected depth text with
    | .error fault => .error fault
    | .ok (value, rest) =>
      match read value with
      | .error reason => .error (.content reason)
      | .ok meant => .ok (meant, rest)
  encode value := stringText (write value)

/-- A number, or a fault that names what was wanted instead. -/
def decodeNumber (expected : String) : Decoder Number := fun _ text =>
  match dropSpace text with
  | '-' :: rest => number true rest
  | c :: rest =>
    if isDigit c then number false (c :: rest) else .error (mismatch expected (c :: rest))
  | [] => .error .endInValue

/-- An integer from `least` to `greatest`. -/
def decodeInteger (expected : String) (least greatest : Int) : Decoder Int := fun depth text =>
  match decodeNumber expected depth text with
  | .error fault => .error fault
  | .ok (.float found, _) => .error (.wrongKind (.float found) expected)
  | .ok (.integer value, rest) =>
    if least ≤ value && value ≤ greatest then .ok (value, rest)
    else .error (.wrongValue value expected)

/-- A signed integer of 64 bits. -/
def int64 : Codec Int64 where
  decode depth text :=
    (decodeInteger "i64" (-9223372036854775808) 9223372036854775807 depth text).map
      fun (value, rest) => (.ofInt value, rest)
  encode value := intText value.toInt

/-- A signed integer of 32 bits. -/
def int32 : Codec Int32 where
  decode depth text := (decodeInteger "i32" (-2147483648) 2147483647 depth text).map
    fun (value, rest) => (.ofInt value, rest)
  encode value := intText value.toInt

/-- An unsigned integer of 64 bits, which messages call by the given name. -/
def decodeWord (expected : String) : Codec UInt64 where
  decode depth text := (decodeInteger expected 0 18446744073709551615 depth text).map
    fun (value, rest) => (.ofNat value.toNat, rest)
  encode value := natText value.toNat

/-- An unsigned integer of 64 bits. -/
def uint64 : Codec UInt64 := decodeWord "u64"

/-- A count of things in memory. -/
def count : Codec UInt64 := decodeWord "usize"

/-- A floating-point number of the given format; integers are rounded to it. -/
def binary (format : Format) (expected : String) : Codec (Binary format) where
  decode depth text :=
    match decodeNumber expected depth text with
    | .error fault => .error fault
    | .ok (.integer value, rest) => .ok (.ofInt value, rest)
    | .ok (.float value, rest) => .ok (value.convert format, rest)
  encode := floatText

/-- A number in double precision. -/
def binary64 : Codec Binary64 := binary .binary64 "f64"

/-- A number in single precision. -/
def binary32 : Codec Binary32 := binary .binary32 "f32"

/-- A value that may be the empty one. -/
def option (codec : Codec α) : Codec (Option α) where
  decode depth text :=
    match dropSpace text with
    | 'n' :: rest => literalAs ['u', 'l', 'l'] none rest
    | next => (codec.decode depth next).map fun (value, rest) => (some value, rest)
  encode
    | none => nullText
    | some value => codec.encode value

/-- A list of values. -/
def list (codec : Codec α) : Codec (List α) where
  decode depth text :=
    match dropSpace text with
    | '[' :: rest =>
      match depth with
      | 0 => .error .tooDeep
      | depth + 1 => items (codec.decode depth) rest
    | next => .error (mismatch "a sequence" next)
  encode values := listText (values.map codec.encode)

end Codec

/-! ### Enumerations -/

/-- A type of named values. A value may be read under several names and is written under one. -/
structure Enumeration (α : Type) where
  /-- The names that are read, in the order in which messages list them. -/
  names : List (String × α)
  name : α → String

namespace Enumeration

variable {α : Type}

/-- The value of a name. -/
def ofName? (enumeration : Enumeration α) (name : String) : Option α :=
  (enumeration.names.find? (·.1 == name)).map Prod.snd

/-- The value of a name that was read. -/
def ofName (enumeration : Enumeration α) (name : String) : Except Fault α :=
  match enumeration.ofName? name with
  | some value => .ok value
  | none => .error (.unknownVariant name (enumeration.names.map Prod.fst))

/-- The rest of the text after an empty value, which is all that a named value carries. -/
def unit (text : List Char) : Except Fault (List Char) :=
  match dropSpace text with
  | 'n' :: rest => literal ['u', 'l', 'l'] rest
  | next => .error (mismatch "unit" next)

/-- The name that stands as a key, from behind the opening brace. -/
def key (text : List Char) : Reading String :=
  match dropSpace text with
  | '"' :: rest => Json.string rest
  | '\x7d' :: _ => .error .expectedValue
  | [] => .error .endInObject
  | _ => .error .keyNotString

/-- The name as the only key of an object, from behind the opening brace. -/
def decodeKeyed (enumeration : Enumeration α) (text : List Char) : Reading α :=
  match key text with
  | .error fault => .error fault
  | .ok (name, rest) =>
    match enumeration.ofName name with
    | .error fault => .error fault
    | .ok value =>
      match colon rest with
      | .error fault => .error fault
      | .ok rest =>
        match unit rest with
        | .error fault => .error fault
        | .ok rest =>
          match dropSpace rest with
          | '\x7d' :: rest => .ok (value, rest)
          | [] => .error .endInObject
          | _ => .error .expectedValue

/-- A name as a string, or as the key of an object whose only member is empty. -/
def codec (enumeration : Enumeration α) : Codec α where
  decode depth text :=
    match dropSpace text with
    | [] => .error .endInValue
    | '"' :: rest =>
      match Json.string rest with
      | .error fault => .error fault
      | .ok (name, rest) => (enumeration.ofName name).map fun value => (value, rest)
    | '\x7b' :: rest =>
      match depth with
      | 0 => .error .tooDeep
      | _ + 1 => enumeration.decodeKeyed rest
    | _ => .error .expectedValue
  encode value := stringText (enumeration.name value)

end Enumeration
end BackgroundWork.Json
