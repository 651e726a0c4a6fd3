import BackgroundWork.Json.Fault

set_option autoImplicit false

/-!
Reading the parts of JSON that hold no other value: blanks, literals, strings and numbers. Each
reader takes a text and returns what it read and the rest of the text, and stops at the first
fault. Beside each reader stands the rule by which a value that nobody asked for is passed over:
its extent is checked, its content is not.
-/

namespace BackgroundWork.Json

open Numeric

/-- What a reader returns: the value read and the rest of the text, or the first fault. -/
abbrev Reading (α : Type) := Except Fault (α × List Char)

/-- The characters that may stand between tokens. -/
def isSpace (c : Char) : Bool :=
  c == ' ' || c == '\t' || c == '\n' || c == '\r'

/-- The text from its first character that is no blank. -/
def dropSpace (text : List Char) : List Char :=
  text.dropWhile isSpace

theorem dropSpace_length_le (text : List Char) : (dropSpace text).length ≤ text.length :=
  (List.dropWhile_sublist _).length_le

/-- The rest of the text after the remaining letters of a literal. -/
def literal : List Char → List Char → Except Fault (List Char)
  | [], text => .ok text
  | _ :: _, [] => .error .endInValue
  | expected :: letters, c :: text =>
    if c = expected then literal letters text else .error .brokenLiteral

theorem literal_length_le {letters text rest : List Char} (h : literal letters text = .ok rest) :
    rest.length ≤ text.length := by
  induction letters generalizing text with
  | nil => simp_all [literal]
  | cons expected letters ih =>
    cases text with
    | nil => simp [literal] at h
    | cons c text =>
      simp only [literal] at h
      split at h
      · have := ih h
        simp only [List.length_cons]
        omega
      · simp at h

/-! ### Strings -/

/-- The value of a hexadecimal digit of either case. -/
def hexDigit? (c : Char) : Option Nat :=
  if '0' ≤ c && c ≤ '9' then some (c.toNat - '0'.toNat)
  else if 'a' ≤ c && c ≤ 'f' then some (c.toNat - 'a'.toNat + 10)
  else if 'A' ≤ c && c ≤ 'F' then some (c.toNat - 'A'.toNat + 10)
  else none

/-- How many bytes a text takes. -/
def byteLength (text : List Char) : Nat :=
  text.foldl (fun length c => length + c.utf8Size) 0

/-- A UTF-16 code unit in four hexadecimal digits. A text of less than four bytes ends too early;
else what stands there is no digit. -/
def codeUnit : List Char → Reading Nat
  | a :: b :: c :: d :: rest =>
    match hexDigit? a, hexDigit? b, hexDigit? c, hexDigit? d with
    | some a, some b, some c, some d => .ok (((a * 16 + b) * 16 + c) * 16 + d, rest)
    | _, _, _, _ => .error .invalidEscape
  | text => if byteLength text < 4 then .error .endInString else .error .invalidEscape

theorem codeUnit_length_lt {text rest : List Char} {code : Nat}
    (h : codeUnit text = .ok (code, rest)) : rest.length < text.length := by
  unfold codeUnit at h
  split at h
  · split at h
    · simp only [Except.ok.injEq, Prod.mk.injEq] at h
      rw [← h.2]
      simp only [List.length_cons]
      omega
    · simp at h
  · split at h <;> simp at h

/-- The character that a single letter after the backslash stands for. -/
def shortEscape? : Char → Option Char
  | '"' => some '"'
  | '\\' => some '\\'
  | '/' => some '/'
  | 'b' => some '\x08'
  | 'f' => some '\x0c'
  | 'n' => some '\n'
  | 'r' => some '\r'
  | 't' => some '\t'
  | _ => none

/-- The second half of a surrogate pair, as an escape of its own. -/
def lowSurrogate : List Char → Reading Nat
  | [] => .error .endInString
  | '\\' :: [] => .error .endInString
  | '\\' :: 'u' :: rest =>
    match codeUnit rest with
    | .error fault => .error fault
    | .ok (code, rest) =>
      if 0xDC00 ≤ code && code ≤ 0xDFFF then .ok (code, rest) else .error .loneSurrogate
  | _ => .error .unfinishedPair

theorem lowSurrogate_length_lt {text rest : List Char} {code : Nat}
    (h : lowSurrogate text = .ok (code, rest)) : rest.length < text.length := by
  unfold lowSurrogate at h
  split at h <;> try (simp at h; done)
  split at h <;> try (simp at h; done)
  rename_i heq
  have := codeUnit_length_lt heq
  split at h <;> simp only [Except.ok.injEq, Prod.mk.injEq, reduceCtorEq] at h
  rw [← h.2]
  simp only [List.length_cons]
  omega

/-- The character of an escape, from behind the backslash. -/
def escape : List Char → Reading Char
  | [] => .error .endInString
  | 'u' :: rest =>
    match codeUnit rest with
    | .error fault => .error fault
    | .ok (code, rest) =>
      if 0xDC00 ≤ code && code ≤ 0xDFFF then .error .loneSurrogate
      else if 0xD800 ≤ code && code ≤ 0xDBFF then
        match lowSurrogate rest with
        | .error fault => .error fault
        | .ok (low, rest) =>
          .ok (Char.ofNat ((code - 0xD800) * 0x400 + (low - 0xDC00) + 0x10000), rest)
      else .ok (Char.ofNat code, rest)
  | c :: rest =>
    match shortEscape? c with
    | some meant => .ok (meant, rest)
    | none => .error .invalidEscape

theorem escape_length_lt {text rest : List Char} {c : Char}
    (h : escape text = .ok (c, rest)) : rest.length < text.length := by
  unfold escape at h
  split at h
  · simp at h
  · split at h <;> try (simp at h; done)
    rename_i heq
    have := codeUnit_length_lt heq
    split at h <;> try (simp at h; done)
    split at h
    · split at h <;> try (simp at h; done)
      rename_i heq'
      have := lowSurrogate_length_lt heq'
      simp only [Except.ok.injEq, Prod.mk.injEq] at h
      rw [← h.2]
      simp only [List.length_cons]
      omega
    · simp only [Except.ok.injEq, Prod.mk.injEq] at h
      rw [← h.2]
      simp only [List.length_cons]
      omega
  · split at h <;> simp only [Except.ok.injEq, Prod.mk.injEq, reduceCtorEq] at h
    rw [← h.2]
    simp

/-- The characters of a string, from behind the opening quote. -/
def stringChars (text : List Char) : Reading (List Char) :=
  match text with
  | [] => .error .endInString
  | '"' :: rest => .ok ([], rest)
  | '\\' :: rest =>
    match h : escape rest with
    | .error fault => .error fault
    | .ok (c, rest') =>
      have : rest'.length < rest.length := escape_length_lt h
      (stringChars rest').map fun (chars, rest) => (c :: chars, rest)
  | c :: rest =>
    if c.toNat < 0x20 then .error .controlCharacter
    else (stringChars rest).map fun (chars, rest) => (c :: chars, rest)
termination_by text.length

/-- A string, from behind the opening quote. -/
def string (text : List Char) : Reading String :=
  (stringChars text).map fun (chars, rest) => (String.ofList chars, rest)

/-- The rest after an escape that is passed over: surrogates need not be paired. -/
def skipEscape : List Char → Except Fault (List Char)
  | [] => .error .endInString
  | 'u' :: rest => (codeUnit rest).map Prod.snd
  | c :: rest => if (shortEscape? c).isSome then .ok rest else .error .invalidEscape

theorem skipEscape_length_lt {text rest : List Char} (h : skipEscape text = .ok rest) :
    rest.length < text.length := by
  unfold skipEscape at h
  split at h
  · simp at h
  · rename_i text
    cases heq : codeUnit text with
    | error => simp [heq, Except.map] at h
    | ok value =>
      have : value.2.length < text.length := codeUnit_length_lt heq
      simp only [heq, Except.map, Except.ok.injEq] at h
      rw [← h]
      simp only [List.length_cons]
      omega
  · split at h <;> simp only [Except.ok.injEq, reduceCtorEq] at h
    simp [h]

/-- The rest after a string that is passed over, from behind the opening quote. -/
def skipString (text : List Char) : Except Fault (List Char) :=
  match text with
  | [] => .error .endInString
  | '"' :: rest => .ok rest
  | '\\' :: rest =>
    match h : skipEscape rest with
    | .error fault => .error fault
    | .ok rest' =>
      have : rest'.length < rest.length := skipEscape_length_lt h
      skipString rest'
  | c :: rest => if c.toNat < 0x20 then .error .controlCharacter else skipString rest
termination_by text.length

theorem skipString_length_lt {text rest : List Char} (h : skipString text = .ok rest) :
    rest.length < text.length := by
  fun_induction skipString text with
  | case1 => simp at h
  | case2 => simp_all
  | case3 => simp at h
  | case4 _ _ heq this ih =>
    have := skipEscape_length_lt heq
    have := ih h
    simp only [List.length_cons]
    omega
  | case5 => simp at h
  | case6 _ _ _ _ _ ih =>
    have := ih h
    simp only [List.length_cons]
    omega

/-! ### Numbers -/

/-- A number: an integer of at most 64 bits, or a double. -/
inductive Number where
  | integer (value : Int)
  | float (value : Binary64)
  deriving DecidableEq, Repr

/-- A decimal digit. -/
def isDigit (c : Char) : Bool :=
  '0' ≤ c && c ≤ '9'

/-- The value of a decimal digit. -/
def digitValue (c : Char) : Nat :=
  c.toNat - '0'.toNat

/-- Appends digits to a significand as long as it stays within 64 bits; returns how many digits
were left over. -/
def absorb (significand : Nat) : List Char → Nat × Nat
  | [] => (significand, 0)
  | c :: digits =>
    let next := significand * 10 + digitValue c
    if next < 18446744073709551616 then absorb next digits else (significand, digits.length + 1)

/-- The greatest power of ten below infinity is `10 ^ 308`. -/
def greatestPower : Nat := 308

/-- The double nearest to a power of ten. -/
def powerOfTen (exponent : Nat) : Binary64 :=
  .ofNat (Nat.pow 10 exponent)

/-- `x * 10 ^ exponent`, by one multiplication or division if the power is a double, else by
dividing by the greatest power first. Nothing that rounds to infinity is a number. -/
def scaleByPower (x : Binary64) (exponent : Int) : Except Fault Binary64 :=
  if exponent.natAbs ≤ greatestPower then
    if 0 ≤ exponent then
      let product := x.times (powerOfTen exponent.natAbs)
      if product.isFinite then .ok product else .error .numberOutOfRange
    else .ok (x.dividedBy (powerOfTen exponent.natAbs))
  else if x.magnitude = 0 then .ok x
  else if 0 ≤ exponent then .error .numberOutOfRange
  else scaleByPower (x.dividedBy (powerOfTen greatestPower)) (exponent + greatestPower)
termination_by exponent.natAbs
decreasing_by simp only [greatestPower] at *; omega

/-- The double of a sign, a significand and a decimal exponent. -/
def float (negative : Bool) (significand : Nat) (exponent : Int) : Except Fault Number :=
  (scaleByPower (.ofNat significand) exponent).map fun x => .float { x with negative := negative }

/-- The number that digits without fraction and exponent stand for. Zero with a minus sign, and
integers of more than 64 bits, are doubles. -/
def wholeNumber (negative : Bool) (significand leftOver : Nat) : Except Fault Number :=
  if leftOver ≠ 0 then float negative significand leftOver
  else if !negative then .ok (.integer significand)
  else if significand = 0 || 9223372036854775808 < significand then float true significand 0
  else .ok (.integer (-significand))

/-- The value of exponent digits, or none if it needs more than 31 bits. -/
def exponentValue? (digits : List Char) : Option Nat :=
  let value := digits.foldl (fun value c => value * 10 + digitValue c) 0
  if value < 2147483648 then some value else none

/-- The sign and the digits of an exponent, from behind its letter. -/
def exponentDigits (text : List Char) : Reading (Bool × List Char) :=
  let (negative, text) := match text with
    | '+' :: rest => (false, rest)
    | '-' :: rest => (true, rest)
    | _ => (false, text)
  let digits := text.takeWhile isDigit
  if digits.isEmpty then .error (if text.isEmpty then .endInValue else .invalidNumber)
  else .ok ((negative, digits), text.dropWhile isDigit)

/-- A number with fraction or exponent, whose digits so far are a significand and a power of ten;
`text` starts where the exponent may. -/
def withExponent (negative : Bool) (significand : Nat) (exponent : Int) (text : List Char) :
    Reading Number :=
  match text with
  | 'e' :: rest | 'E' :: rest =>
    match exponentDigits rest with
    | .error fault => .error fault
    | .ok ((down, digits), rest) =>
      match exponentValue? digits with
      | some value =>
        (float negative significand (if down then exponent - value else exponent + value)).map
          fun number => (number, rest)
      | none =>
        if significand ≠ 0 && !down then .error .numberOutOfRange
        else .ok (.float ⟨negative, 0⟩, rest)
  | _ => (float negative significand exponent).map fun number => (number, text)

/-- A number, from behind its minus sign if it has one. -/
def number (negative : Bool) (text : List Char) : Reading Number :=
  let digits := text.takeWhile isDigit
  let rest := text.dropWhile isDigit
  if digits.isEmpty then .error (if text.isEmpty then .endInValue else .invalidNumber)
  else if 1 < digits.length && digits.head? == some '0' then .error .invalidNumber
  else
    let (significand, leftOver) := absorb 0 digits
    match rest with
    | '.' :: rest =>
      let fraction := rest.takeWhile isDigit
      let rest := rest.dropWhile isDigit
      if fraction.isEmpty then .error (if rest.isEmpty then .endInValue else .invalidNumber)
      else
        let (significand, unused) := absorb significand fraction
        withExponent negative significand (leftOver - (fraction.length - unused)) rest
    | 'e' :: _ | 'E' :: _ => withExponent negative significand leftOver rest
    | _ => (wholeNumber negative significand leftOver).map fun number => (number, rest)

/-- The rest after one or more digits. -/
def skipDigits (text : List Char) : Except Fault (List Char) :=
  if (text.takeWhile isDigit).isEmpty then .error .invalidNumber else .ok (text.dropWhile isDigit)

/-- The rest after an exponent that is passed over, if there is one. -/
def skipExponent : List Char → Except Fault (List Char)
  | 'e' :: '+' :: rest | 'e' :: '-' :: rest | 'E' :: '+' :: rest | 'E' :: '-' :: rest
  | 'e' :: rest | 'E' :: rest => skipDigits rest
  | text => .ok text

/-- The rest after a number that is passed over, from behind its minus sign if it has one. Its
size does not matter. -/
def skipNumber (text : List Char) : Except Fault (List Char) :=
  let digits := text.takeWhile isDigit
  if 1 < digits.length && digits.head? == some '0' then .error .invalidNumber
  else
    match skipDigits text with
    | .error fault => .error fault
    | .ok ('.' :: rest) =>
      match skipDigits rest with
      | .error fault => .error fault
      | .ok rest => skipExponent rest
    | .ok rest => skipExponent rest

theorem skipDigits_length_lt {text rest : List Char} (h : skipDigits text = .ok rest) :
    rest.length < text.length := by
  unfold skipDigits at h
  split at h
  · simp at h
  · rename_i hne
    simp only [Except.ok.injEq] at h
    have key := congrArg List.length (List.takeWhile_append_dropWhile (p := isDigit) (l := text))
    rw [List.length_append, h] at key
    have : 0 < (text.takeWhile isDigit).length := by
      cases hd : text.takeWhile isDigit with
      | nil => simp [hd] at hne
      | cons => simp
    omega

theorem skipExponent_length_le {text rest : List Char} (h : skipExponent text = .ok rest) :
    rest.length ≤ text.length := by
  unfold skipExponent at h
  split at h
  case h_7 =>
    simp only [Except.ok.injEq] at h
    simp [h]
  all_goals
    have := skipDigits_length_lt h
    simp only [List.length_cons]
    omega

theorem skipNumber_length_lt {text rest : List Char} (h : skipNumber text = .ok rest) :
    rest.length < text.length := by
  unfold skipNumber at h
  simp only at h
  split at h
  · simp at h
  · split at h
    · simp at h
    · rename_i heq
      have := skipDigits_length_lt heq
      split at h
      · simp at h
      · rename_i heq'
        have := skipDigits_length_lt heq'
        have := skipExponent_length_le h
        simp only [List.length_cons] at *
        omega
    · rename_i rest' _ heq
      have := skipDigits_length_lt heq
      have := skipExponent_length_le h
      omega

end BackgroundWork.Json
