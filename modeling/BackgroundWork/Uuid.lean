import BackgroundWork.Json.Codec

set_option autoImplicit false

/-!
Identifiers of 128 bits, as 32 hexadecimal digits. They are written in five groups and read with
or without the hyphens, in braces or after a URN scheme, and in either case.
-/

namespace BackgroundWork

/-- An identifier of 32 hexadecimal digits. -/
structure Uuid where
  digits : List (Fin 16)
  length_digits : digits.length = 32
  deriving DecidableEq

namespace Uuid

/-- The widths of the groups. -/
def groupWidths : List Nat := [8, 4, 4, 4, 12]

/-- Where each group starts in the written form. -/
def groupStarts : List Nat := [0, 9, 14, 19, 24]

/-- Why a text is no identifier. -/
inductive Fault where
  | length (found : Nat)
  | character (found : Char) (index : Nat)
  | groupCount (found : Nat)
  | groupLength (group expected found : Nat)
  deriving DecidableEq, Repr

/-- The wording of a fault. -/
def Fault.message (fault : Fault) : String :=
  "UUID parsing failed: " ++
    match fault with
    | .length found => s!"invalid length: found {found}"
    | .character found index => s!"invalid character: found `{found}` at {index}"
    | .groupCount found => s!"invalid group count: expected 5, found {found}"
    | .groupLength group expected found =>
      s!"invalid group length in group {group}: expected {expected}, found {found}"

/-- A hexadecimal digit of either case. -/
def digit? (c : Char) : Option (Fin 16) :=
  match Json.hexDigit? c with
  | some value => if h : value < 16 then some ⟨value, h⟩ else none
  | none => none

/-- The given number of digits from the front of a text. -/
def takeDigits : Nat → List Char → Option (List (Fin 16) × List Char)
  | 0, text => some ([], text)
  | _ + 1, [] => none
  | n + 1, c :: text =>
    match digit? c, takeDigits n text with
    | some value, some (values, rest) => some (value :: values, rest)
    | _, _ => none

/-- The digits of a text made of groups of the given widths with hyphens between them. -/
def groups : List Nat → List Char → Option (List (Fin 16))
  | [], text => if text.isEmpty then some [] else none
  | [width], text =>
    match takeDigits width text with
    | some (values, []) => some values
    | _ => none
  | width :: widths, text =>
    match takeDigits width text with
    | some (values, '-' :: rest) => (groups widths rest).map (values ++ ·)
    | _ => none

/-- What stands around the groups of a written identifier. -/
inductive Wrapping where
  | bare
  | braces
  /-- A URN scheme in front. -/
  | scheme
  deriving DecidableEq, Repr

/-- How many characters stand before the groups. -/
def Wrapping.before : Wrapping → Nat
  | .bare => 0
  | .braces => 1
  | .scheme => 9

/-- How many characters stand before and behind the groups. -/
def Wrapping.around : Wrapping → Nat
  | .bare => 0
  | .braces => 2
  | .scheme => 9

/-- The characters of the URN scheme. -/
def schemeChars : List Char := ['u', 'r', 'n', ':', 'u', 'u', 'i', 'd', ':']

/-- What stands around the groups of a text, and the part inside. The scheme counts in any
case. -/
def unwrap (text : List Char) : Wrapping × List Char :=
  match text with
  | '\x7b' :: rest =>
    if rest.getLast? = some '\x7d' then (.braces, rest.dropLast) else (.bare, text)
  | _ =>
    if (text.take 9).map Char.toLower = schemeChars then (.scheme, text.drop 9) else (.bare, text)

/-- The digits of a text of one of the accepted forms. -/
def digits? (text : List Char) : Option (List (Fin 16)) :=
  match unwrap text with
  | (.bare, _) => (groups [32] text).or (groups groupWidths text)
  | (_, inner) => groups groupWidths inner

/-- The first character that is neither a digit nor a hyphen, and the byte at which it stands. -/
def strayCharacter? (index : Nat) : List Char → Option (Char × Nat)
  | [] => none
  | c :: rest =>
    if c = '-' || (digit? c).isSome then strayCharacter? (index + c.utf8Size) rest
    else some (c, index)

/-- Where the hyphens stand, given where the text starts. -/
def hyphens (index : Nat) : List Char → List Nat
  | [] => []
  | c :: rest => if c = '-' then index :: hyphens (index + 1) rest else hyphens (index + 1) rest

/-- The first group that does not end where the next one starts; the last group takes what is
left. -/
def wrongGroup (length group : Nat) : List Nat → List Nat → Fault
  | start :: next :: starts, bound :: bounds =>
    if bound + 1 = next then wrongGroup length (group + 1) (next :: starts) bounds
    else .groupLength group (next - 1 - start) (bound - start)
  | start :: _, _ => .groupLength group 12 (length - start)
  | [], _ => .groupLength group 12 length

/-- Why a text of none of the accepted forms is refused: for being longer than all of them, else
for a stray character, else for the number of groups, else for the first group of the wrong
length. A text as long as the form with hyphens is taken for that form, whatever it starts with,
and where the groups have their full length a stray character is counted from the first of
them. -/
def fault (text : List Char) : Fault :=
  let length := Json.byteLength text
  let (wrapping, inner) := if length = 36 then (.bare, text) else unwrap text
  let full := length = 36 + wrapping.around
  if 45 < length then .length length
  else
    match strayCharacter? (if full then 0 else wrapping.before) inner with
    | some (c, index) => .character c index
    | none =>
      let bounds := hyphens 0 inner
      if bounds.isEmpty && wrapping = .bare && !full then .length length
      else if bounds.length ≠ 4 then .groupCount (bounds.length + 1)
      else wrongGroup length 0 groupStarts bounds

/-- Reads an identifier. -/
def ofText (text : String) : Except Fault Uuid :=
  match digits? text.toList with
  | some digits => if h : digits.length = 32 then .ok ⟨digits, h⟩ else .error (fault text.toList)
  | none => .error (fault text.toList)

/-- A hexadecimal digit in lower case. -/
def digitChar (value : Fin 16) : Char :=
  if value.val < 10 then Char.ofNat ('0'.toNat + value.val)
  else Char.ofNat ('a'.toNat + (value.val - 10))

/-- Digits in groups of the given widths, with hyphens between them. -/
def grouped : List Nat → List (Fin 16) → List Char
  | [], _ => []
  | [width], values => (values.take width).map digitChar
  | width :: widths, values =>
    (values.take width).map digitChar ++ '-' :: grouped widths (values.drop width)

/-- An identifier in lower case, in five groups. -/
def text (id : Uuid) : String :=
  String.ofList (grouped groupWidths id.digits)

/-- An identifier as a JSON string. -/
def codec : Json.Codec Uuid :=
  .content "a formatted UUID string" (fun value => (ofText value).mapError Fault.message) text

end Uuid
end BackgroundWork
