set_option autoImplicit false

/-!
Reading bytes as UTF-8. The bytes are first cut into characters and ill-formed parts, each of the
latter as long as it could still begin a character; the strict reading refuses the first
ill-formed part and the lenient one puts a replacement character in its place.
-/

namespace BackgroundWork.Text.Utf8

/-- A piece of a byte sequence. -/
inductive Piece where
  /-- A character, written in as few bytes as it takes. -/
  | char (c : Char)
  /-- The given number of bytes that begin no character together with the byte after them. -/
  | ill (width : Nat)
  /-- The given number of bytes that begin a character which the end of the input cuts off. -/
  | cut (width : Nat)
  deriving DecidableEq, Repr

/-- A byte that continues a character. -/
def isTail (b : UInt8) : Bool :=
  0x80 ≤ b && b ≤ 0xBF

/-- The least and the greatest second byte after a lead byte of three or four bytes: what is left
out would be a longer form than needed, a surrogate, or above the last code point. -/
def secondRange (lead : UInt8) : UInt8 × UInt8 :=
  if lead == 0xE0 then (0xA0, 0xBF)
  else if lead == 0xED then (0x80, 0x9F)
  else if lead == 0xF0 then (0x90, 0xBF)
  else if lead == 0xF4 then (0x80, 0x8F)
  else (0x80, 0xBF)

/-- Whether `b` may be the second byte after `lead`. -/
def isSecond (lead b : UInt8) : Bool :=
  (secondRange lead).1 ≤ b && b ≤ (secondRange lead).2

/-- The code point whose leading bits are `high` and whose further six-bit groups are the tails. -/
def assemble (high : Nat) (tails : List UInt8) : Char :=
  Char.ofNat (tails.foldl (fun code b => code * 64 + b.toNat % 64) high)

/-- The bytes as characters and ill-formed parts. -/
def pieces : List UInt8 → List Piece
  | [] => []
  | a :: rest =>
    if a < 0x80 then .char (Char.ofNat a.toNat) :: pieces rest
    else if 0xC2 ≤ a && a ≤ 0xDF then
      match rest with
      | [] => [.cut 1]
      | b :: rest =>
        if isTail b then .char (assemble (a.toNat % 32) [b]) :: pieces rest
        else .ill 1 :: pieces (b :: rest)
    else if 0xE0 ≤ a && a ≤ 0xEF then
      match rest with
      | [] => [.cut 1]
      | b :: rest =>
        if isSecond a b then
          match rest with
          | [] => [.cut 2]
          | c :: rest =>
            if isTail c then .char (assemble (a.toNat % 16) [b, c]) :: pieces rest
            else .ill 2 :: pieces (c :: rest)
        else .ill 1 :: pieces (b :: rest)
    else if 0xF0 ≤ a && a ≤ 0xF4 then
      match rest with
      | [] => [.cut 1]
      | b :: rest =>
        if isSecond a b then
          match rest with
          | [] => [.cut 2]
          | c :: rest =>
            if isTail c then
              match rest with
              | [] => [.cut 3]
              | d :: rest =>
                if isTail d then .char (assemble (a.toNat % 8) [b, c, d]) :: pieces rest
                else .ill 3 :: pieces (d :: rest)
            else .ill 2 :: pieces (c :: rest)
        else .ill 1 :: pieces (b :: rest)
    else .ill 1 :: pieces rest

/-- Why bytes are no UTF-8: where the ill-formed part starts, and its width unless the end of the
input cuts it off. -/
structure Fault where
  index : Nat
  width : Option Nat
  deriving DecidableEq, Repr

/-- The wording of a fault. -/
def Fault.message (fault : Fault) : String :=
  match fault.width with
  | some width => s!"invalid utf-8 sequence of {width} bytes from index {fault.index}"
  | none => s!"incomplete utf-8 byte sequence from index {fault.index}"

/-- The characters of pieces that start at `index`, or the first ill-formed part. -/
def charsFrom (index : Nat) : List Piece → Except Fault (List Char)
  | [] => .ok []
  | .char c :: rest => (charsFrom (index + c.utf8Size) rest).map (c :: ·)
  | .ill width :: _ => .error ⟨index, some width⟩
  | .cut _ :: _ => .error ⟨index, none⟩

/-- The text that the bytes spell, or the first ill-formed part. -/
def decode (bytes : List UInt8) : Except Fault String :=
  (charsFrom 0 (pieces bytes)).map String.ofList

/-- The character a piece is shown as. -/
def Piece.shown : Piece → Char
  | .char c => c
  | .ill _ | .cut _ => '\uFFFD'

/-- The text that the bytes spell, with a replacement character for each ill-formed part. -/
def decodeLenient (bytes : List UInt8) : String :=
  String.ofList ((pieces bytes).map Piece.shown)

/-- The bytes of a text. -/
def encode (text : String) : List UInt8 :=
  text.toUTF8.toList

end BackgroundWork.Text.Utf8
