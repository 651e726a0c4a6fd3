import BackgroundWork.Json.Codec

set_option autoImplicit false

/-!
Records: types with named members. One description of the members serves for writing, which takes
them in order, and for reading, which accepts them in any order and under any of their names, or
as a list in order. While a record is read each member has a place that is empty or filled.
-/

namespace BackgroundWork.Json

/-- A member of a record. -/
structure Field (β : Type) where
  name : String
  /-- Further names under which the member is read. -/
  aliases : List String
  codec : Codec β
  /-- The value of a member that is not given; without it the member must be given. -/
  absent : Option β

/-- A member that must be given. -/
def Field.required {β : Type} (name : String) (codec : Codec β) : Field β :=
  ⟨name, [], codec, none⟩

/-- A member that may be left out. -/
def Field.withDefault {β : Type} (name : String) (codec : Codec β) (absent : β) : Field β :=
  ⟨name, [], codec, some absent⟩

/-- A member that may be left out or empty. -/
def Field.optional {β : Type} (name : String) (codec : Codec β) : Field (Option β) :=
  .withDefault name codec.option none

/-- A member with further names. -/
def Field.orNamed {β : Type} (field : Field β) (aliases : List String) : Field β :=
  { field with aliases := aliases }

/-- Whether a key names the member. -/
def Field.isNamed {β : Type} (field : Field β) (key : String) : Bool :=
  field.name == key || field.aliases.contains key

/-- The members of a record, in order. -/
inductive Fields : List Type → Type 1 where
  | nil : Fields []
  | cons {β : Type} {βs : List Type} (field : Field β) (fields : Fields βs) : Fields (β :: βs)

/-- A value for each member. -/
@[reducible] def Values : List Type → Type
  | [] => Unit
  | β :: βs => β × Values βs

/-- A place for each member. -/
@[reducible] def Places : List Type → Type
  | [] => Unit
  | β :: βs => Option β × Places βs

/-- All places empty. -/
def Places.empty : (βs : List Type) → Places βs
  | [] => ()
  | _ :: βs => (none, Places.empty βs)

namespace Fields

/-- The names of the members. -/
def names {βs : List Type} : Fields βs → List String
  | .nil => []
  | .cons field fields => field.name :: fields.names

/-- How many members there are. -/
def size {βs : List Type} : Fields βs → Nat
  | .nil => 0
  | .cons _ fields => fields.size + 1

/-- Reads the member with the given key into its place, from behind the key. A member that was
given before is refused before its value is looked at. None if no member has that name. -/
def put {βs : List Type} (depth : Nat) (fields : Fields βs) (places : Places βs) (key : String) :
    Option (Reader (Places βs)) :=
  match fields, places with
  | .nil, _ => none
  | .cons field fields, (place, places) =>
    if field.isNamed key then
      some fun text =>
        if place.isSome then .error (.duplicateField field.name)
        else
          match colon text with
          | .error fault => .error fault
          | .ok rest =>
            (field.codec.decode depth rest).map fun (value, rest) => ((some value, places), rest)
    else
      (fields.put depth places key).map fun read text =>
        (read text).map fun (places, rest) => ((place, places), rest)

/-- The values in the places; the first member that is neither given nor has a default is
missing. -/
def close {βs : List Type} (fields : Fields βs) (places : Places βs) : Except Fault (Values βs) :=
  match fields, places with
  | .nil, _ => .ok ()
  | .cons field fields, (place, places) =>
    match place.or field.absent with
    | none => .error (.missingField field.name)
    | some value => (fields.close places).map fun values => (value, values)

/-- Reads the members from a list, from behind its opening bracket. `read` counts the members read
before; a list that ends too early leaves the rest to their defaults. -/
def ofList {βs : List Type} (record : String) (size depth read : Nat) (fields : Fields βs)
    (text : List Char) : Reading (Values βs) :=
  match fields with
  | .nil => .ok ((), text)
  | .cons field fields =>
    match nextItem (read == 0) text with
    | .error fault => .error fault
    | .ok none =>
      match field.absent with
      | none => .error (.shortRecord read record size)
      | some value =>
        (fields.ofList record size depth (read + 1) text).map
          fun (values, rest) => ((value, values), rest)
    | .ok (some next) =>
      match field.codec.decode depth next with
      | .error fault => .error fault
      | .ok (value, rest) =>
        (fields.ofList record size depth (read + 1) rest).map
          fun (values, rest) => ((value, values), rest)

/-- The members of an object, written in order. -/
def encode {βs : List Type} (fields : Fields βs) (values : Values βs) :
    List (String × List Char) :=
  match fields, values with
  | .nil, _ => []
  | .cons field fields, (value, values) =>
    (field.name, field.codec.encode value) :: fields.encode values

end Fields

/-- A type with named members. -/
structure Record (α : Type) where
  name : String
  types : List Type
  fields : Fields types
  make : Values types → α
  parts : α → Values types
  /-- Whether members that nobody asked for are refused. -/
  isClosed : Bool

namespace Record

variable {α : Type}

/-- Takes a member of the object. One that nobody asked for is passed over. -/
def member (record : Record α) (depth : Nat) : Member (Places record.types) :=
  fun places key text =>
    match record.fields.put depth places key with
    | some read => read text
    | none =>
      if record.isClosed then .error (.unknownField key record.fields.names)
      else
        match colon text with
        | .error fault => .error fault
        | .ok rest => (skipValue rest).map fun rest => (places, rest)

/-- The record as an object, from behind the opening brace. -/
def decodeObject (record : Record α) (depth : Nat) (text : List Char) : Reading α :=
  match members (record.member depth) (Places.empty record.types) text with
  | .error fault => .error fault
  | .ok (places, rest) => (record.fields.close places).map fun values => (record.make values, rest)

/-- The record as a list of its members in order, from behind the opening bracket. -/
def decodeList (record : Record α) (depth : Nat) (text : List Char) : Reading α :=
  match record.fields.ofList record.name record.fields.size depth 0 text with
  | .error fault => .error fault
  | .ok (values, rest) => (endList rest).map fun rest => (record.make values, rest)

/-- A record is an object or a list, and is written as an object. -/
def codec (record : Record α) : Codec α where
  decode depth text :=
    match dropSpace text with
    | '[' :: rest =>
      match depth with
      | 0 => .error .tooDeep
      | depth + 1 => record.decodeList depth rest
    | '\x7b' :: rest =>
      match depth with
      | 0 => .error .tooDeep
      | depth + 1 => record.decodeObject depth rest
    | next => .error (mismatch ("struct " ++ record.name) next)
  encode value := objectText (record.fields.encode (record.parts value))

end Record
end BackgroundWork.Json
