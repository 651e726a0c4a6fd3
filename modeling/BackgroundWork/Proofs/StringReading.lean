import BackgroundWork.Json.Codec
import Mathlib.Data.List.TakeWhile

set_option autoImplicit false

/-!
The strings of JSON. A character stands in a string as itself or as an escape: a letter of the
table, its number in four hexadecimal digits, or the numbers of its two surrogates. Reading a
string accepts exactly what spells characters in this way, and writing one spells its characters.

Main statements: `stringChars_eq_ok_iff`, and `string_ofText_eq_ok_iff` for whole texts.
-/

namespace BackgroundWork.Json

theorem map_eq_ok_iff {α β : Type} {make : α → β} {result : Except Fault α} {value : β} :
    result.map make = .ok value ↔ ∃ found, result = .ok found ∧ make found = value := by
  cases result <;> simp [Except.map]

/-! ### Numbers of characters -/

/-- A hexadecimal digit, of either case, and its value. -/
def HexDigit (c : Char) (n : Nat) : Prop :=
  n < 16 ∧ (c = n.digitChar ∨ c = n.digitChar.toUpper)

instance (c : Char) (n : Nat) : Decidable (HexDigit c n) :=
  inferInstanceAs (Decidable (_ ∧ _))

theorem hexDigit?_eq_some_iff {c : Char} {n : Nat} : hexDigit? c = some n ↔ HexDigit c n := by
  constructor
  · intro read
    have table : ∀ k : Fin 128, ∀ n ∈ hexDigit? (Char.ofNat k), HexDigit (Char.ofNat k) n := by
      decide
    have small : c.toNat < 128 := by
      unfold hexDigit? at read
      simp only [Bool.and_eq_true, decide_eq_true_eq, Char.le_def, UInt32.le_iff_toNat_le] at read
      have nine : ('9' : Char).val.toNat = 57 := rfl
      have lower : ('f' : Char).val.toNat = 102 := rfl
      have upper : ('F' : Char).val.toNat = 70 := rfl
      have number : c.val.toNat = c.toNat := rfl
      split at read
      · omega
      split at read
      · omega
      split at read
      · omega
      · cases read
    have here := table ⟨c.toNat, small⟩
    rw [Char.ofNat_toNat] at here
    exact here n read
  · rintro ⟨small, shown⟩
    have table : ∀ n : Fin 16, hexDigit? n.val.digitChar = some n.val ∧
        hexDigit? n.val.digitChar.toUpper = some n.val := by decide
    obtain ⟨lower, upper⟩ := table ⟨n, small⟩
    obtain rfl | rfl := shown
    · exact lower
    · exact upper

/-- Four hexadecimal digits and the number that they stand for. -/
inductive HexCode : List Char → Nat → Prop
  | digits {a b c d : Char} {i j k l : Nat} (first : HexDigit a i) (second : HexDigit b j)
      (third : HexDigit c k) (fourth : HexDigit d l) :
      HexCode [a, b, c, d] (((i * 16 + j) * 16 + k) * 16 + l)

theorem HexCode.lt {digits : List Char} {code : Nat} (number : HexCode digits code) :
    code < 65536 := by
  obtain ⟨⟨first, -⟩, ⟨second, -⟩, ⟨third, -⟩, ⟨fourth, -⟩⟩ := number
  omega

theorem codeUnit_eq_ok_iff {text rest : List Char} {code : Nat} :
    codeUnit text = .ok (code, rest) ↔ ∃ digits, text = digits ++ rest ∧ HexCode digits code := by
  constructor
  · intro read
    unfold codeUnit at read
    split at read
    · split at read
      next a b c d after i j k l first second third fourth =>
        simp only [Except.ok.injEq, Prod.mk.injEq] at read
        obtain ⟨rfl, rfl⟩ := read
        exact ⟨_, rfl, .digits (hexDigit?_eq_some_iff.1 first) (hexDigit?_eq_some_iff.1 second)
          (hexDigit?_eq_some_iff.1 third) (hexDigit?_eq_some_iff.1 fourth)⟩
      next => cases read
    · split at read <;> cases read
  · rintro ⟨_, rfl, first, second, third, fourth⟩
    simp only [codeUnit, List.cons_append, List.nil_append, hexDigit?_eq_some_iff.2 first,
      hexDigit?_eq_some_iff.2 second, hexDigit?_eq_some_iff.2 third,
      hexDigit?_eq_some_iff.2 fourth]

/-! ### Characters -/

/-- The letters that stand for a character behind a backslash. -/
def shortEscapes : List (Char × Char) :=
  [('"', '"'), ('\\', '\\'), ('/', '/'), ('b', '\x08'), ('f', '\x0c'), ('n', '\n'), ('r', '\r'),
    ('t', '\t')]

theorem shortEscape?_eq_some_iff {letter c : Char} :
    shortEscape? letter = some c ↔ (letter, c) ∈ shortEscapes := by
  constructor
  · intro meant
    unfold shortEscape? at meant
    split at meant <;> cases meant <;> decide
  · intro among
    simp only [shortEscapes, List.mem_cons, Prod.mk.injEq, List.not_mem_nil, or_false] at among
    rcases among with h | h | h | h | h | h | h | h
    all_goals
      obtain ⟨rfl, rfl⟩ := h
      rfl

/-- What stands for a character in a string. -/
inductive Spells : List Char → Char → Prop
  | plain {c : Char} (shown : 0x20 ≤ c.toNat) (quote : c ≠ '"') (backslash : c ≠ '\\') :
      Spells [c] c
  | short {letter c : Char} (meant : (letter, c) ∈ shortEscapes) : Spells ['\\', letter] c
  | numbered {digits : List Char} {c : Char} (number : HexCode digits c.toNat) :
      Spells ('\\' :: 'u' :: digits) c
  /-- A character beyond the first plane, by its surrogates. -/
  | paired {first second : List Char} {high low : Nat} {c : Char} (leading : HexCode first high)
      (trailing : HexCode second low) (isHigh : 0xD800 ≤ high ∧ high ≤ 0xDBFF)
      (isLow : 0xDC00 ≤ low ∧ low ≤ 0xDFFF)
      (whole : c.toNat = (high - 0xD800) * 0x400 + (low - 0xDC00) + 0x10000) :
      Spells ('\\' :: 'u' :: (first ++ '\\' :: 'u' :: second)) c

/-- What stands for characters in a string, one after the other. -/
inductive SpellsAll : List Char → List Char → Prop
  | nil : SpellsAll [] []
  | cons {letters later : List Char} {c : Char} {chars : List Char} (first : Spells letters c)
      (rest : SpellsAll later chars) : SpellsAll (letters ++ later) (c :: chars)

theorem toNat_ofNat {n : Nat} (valid : n.isValidChar) : (Char.ofNat n).toNat = n := by
  rw [Char.ofNat, dif_pos valid]
  rfl

theorem not_surrogate (c : Char) : ¬(0xD800 ≤ c.toNat ∧ c.toNat ≤ 0xDFFF) := by
  have valid : c.toNat.isValidChar := c.valid
  omega

/-- The number of a character in an escape, from behind its backslash. -/
theorem escape_numbered {digits rest : List Char} {c : Char} (number : HexCode digits c.toNat) :
    escape ('u' :: (digits ++ rest)) = .ok (c, rest) := by
  have read : codeUnit (digits ++ rest) = .ok (c.toNat, rest) :=
    codeUnit_eq_ok_iff.2 ⟨digits, rfl, number⟩
  have notLow : (0xDC00 ≤ c.toNat && c.toNat ≤ 0xDFFF) = false := by
    have := not_surrogate c
    simp
    omega
  have notHigh : (0xD800 ≤ c.toNat && c.toNat ≤ 0xDBFF) = false := by
    have := not_surrogate c
    simp
    omega
  simp only [escape, read, notLow, notHigh, Bool.false_eq_true, ↓reduceIte, Char.ofNat_toNat]

/-- The numbers of two surrogates in an escape, from behind its backslash. -/
theorem escape_paired {first second rest : List Char} {high low : Nat} {c : Char}
    (leading : HexCode first high) (trailing : HexCode second low)
    (isHigh : 0xD800 ≤ high ∧ high ≤ 0xDBFF) (isLow : 0xDC00 ≤ low ∧ low ≤ 0xDFFF)
    (whole : c.toNat = (high - 0xD800) * 0x400 + (low - 0xDC00) + 0x10000) :
    escape ('u' :: (first ++ '\\' :: 'u' :: (second ++ rest))) = .ok (c, rest) := by
  have read : codeUnit (first ++ '\\' :: 'u' :: (second ++ rest)) =
      .ok (high, '\\' :: 'u' :: (second ++ rest)) := codeUnit_eq_ok_iff.2 ⟨first, rfl, leading⟩
  have readLow : codeUnit (second ++ rest) = .ok (low, rest) :=
    codeUnit_eq_ok_iff.2 ⟨second, rfl, trailing⟩
  have notLow : (0xDC00 ≤ high && high ≤ 0xDFFF) = false := by
    simp
    omega
  have surrogate : (0xD800 ≤ high && high ≤ 0xDBFF) = true := by simpa using isHigh
  have surrogate' : (0xDC00 ≤ low && low ≤ 0xDFFF) = true := by simpa using isLow
  simp only [escape, read, notLow, surrogate, lowSurrogate, readLow, surrogate',
    Bool.false_eq_true, ↓reduceIte, ← whole, Char.ofNat_toNat]

theorem lowSurrogate_eq_ok {text rest : List Char} {low : Nat}
    (read : lowSurrogate text = .ok (low, rest)) :
    ∃ digits, text = '\\' :: 'u' :: (digits ++ rest) ∧ HexCode digits low ∧
      0xDC00 ≤ low ∧ low ≤ 0xDFFF := by
  unfold lowSurrogate at read
  split at read
  · cases read
  · cases read
  · split at read
    · cases read
    next code after unit =>
      split at read
      next inside =>
        simp only [Except.ok.injEq, Prod.mk.injEq] at read
        obtain ⟨rfl, rfl⟩ := read
        obtain ⟨digits, rfl, number⟩ := codeUnit_eq_ok_iff.1 unit
        exact ⟨digits, rfl, number, by simpa using inside⟩
      next => cases read
  · cases read

/-- An escape is read exactly if it spells a character. -/
theorem escape_eq_ok_iff {text rest : List Char} {c : Char} :
    escape text = .ok (c, rest) ↔
      ∃ letters, text = letters ++ rest ∧ Spells ('\\' :: letters) c := by
  constructor
  · intro read
    unfold escape at read
    split at read
    · cases read
    · split at read
      · cases read
      next text code after unit =>
        obtain ⟨digits, rfl, number⟩ := codeUnit_eq_ok_iff.1 unit
        have small := number.lt
        split at read
        · cases read
        next notLow =>
          split at read
          next isHigh =>
            simp only [Bool.and_eq_true, decide_eq_true_eq] at isHigh
            split at read
            · cases read
            next low behind paired =>
              obtain ⟨second, rfl, trailing, isLow⟩ := lowSurrogate_eq_ok paired
              simp only [Except.ok.injEq, Prod.mk.injEq] at read
              obtain ⟨rfl, rfl⟩ := read
              refine ⟨'u' :: (digits ++ '\\' :: 'u' :: second), by simp,
                .paired number trailing isHigh isLow (toNat_ofNat (.inr ?_))⟩
              omega
          next notHigh =>
            simp only [Bool.and_eq_true, decide_eq_true_eq] at notLow notHigh
            simp only [Except.ok.injEq, Prod.mk.injEq] at read
            obtain ⟨rfl, rfl⟩ := read
            have value : (Char.ofNat code).toNat = code := toNat_ofNat (by omega)
            exact ⟨'u' :: digits, rfl, .numbered (value.symm ▸ number)⟩
    · split at read
      next letter after _ _ meant short =>
        simp only [Except.ok.injEq, Prod.mk.injEq] at read
        obtain ⟨rfl, rfl⟩ := read
        exact ⟨[letter], rfl, .short (shortEscape?_eq_some_iff.1 short)⟩
      next => cases read
  · rintro ⟨letters, rfl, spells⟩
    cases spells with
    | plain shown quote backslash => exact absurd rfl backslash
    | @short letter c meant =>
      have read := shortEscape?_eq_some_iff.2 meant
      have unlike : letter ≠ 'u' := by
        rintro rfl
        exact absurd read nofun
      simp only [List.cons_append, List.nil_append]
      unfold escape
      split
      · exact absurd ‹letter :: rest = []› nofun
      · exact absurd (List.cons.inj ‹_›).1 unlike
      next other after _ same =>
        obtain ⟨rfl, rfl⟩ := List.cons.inj same
        rw [read]
    | numbered number => exact escape_numbered number
    | paired leading trailing isHigh isLow whole =>
      rw [List.cons_append, List.append_assoc]
      exact escape_paired leading trailing isHigh isLow whole

/-! ### Strings -/

theorem stringChars_plain {c : Char} (shown : 0x20 ≤ c.toNat) (quote : c ≠ '"')
    (backslash : c ≠ '\\') (rest : List Char) :
    stringChars (c :: rest) = (stringChars rest).map fun (chars, rest) => (c :: chars, rest) := by
  rw [stringChars.eq_def]
  split
  · exact absurd ‹c :: rest = []› (List.cons_ne_nil _ _)
  · exact absurd (List.cons.inj ‹_›).1 quote
  · exact absurd (List.cons.inj ‹_›).1 backslash
  next other after _ _ same =>
    obtain ⟨rfl, rfl⟩ := List.cons.inj same
    rw [if_neg (Nat.not_lt.2 shown)]

theorem stringChars_escaped {c : Char} {letters rest : List Char}
    (meant : escape (letters ++ rest) = .ok (c, rest)) :
    stringChars ('\\' :: letters ++ rest) =
      (stringChars rest).map fun (chars, rest) => (c :: chars, rest) := by
  rw [List.cons_append, stringChars]
  split
  · rename_i fault refused
    have clash := meant.symm.trans refused
    cases clash
  · rename_i other after read
    have same := meant.symm.trans read
    simp only [Except.ok.injEq, Prod.mk.injEq] at same
    obtain ⟨rfl, rfl⟩ := same
    rfl

/-- What spells a character is read as that character. -/
theorem stringChars_spelled {letters : List Char} {c : Char} (spells : Spells letters c)
    (rest : List Char) :
    stringChars (letters ++ rest) =
      (stringChars rest).map fun (chars, rest) => (c :: chars, rest) := by
  have escaped : ∀ {behind}, letters = '\\' :: behind →
      stringChars (letters ++ rest) =
        (stringChars rest).map fun (chars, rest) => (c :: chars, rest) := by
    rintro behind rfl
    exact stringChars_escaped (escape_eq_ok_iff.2 ⟨behind, rfl, spells⟩)
  cases spells with
  | plain shown quote backslash => exact stringChars_plain shown quote backslash rest
  | short meant => exact escaped rfl
  | numbered number => exact escaped rfl
  | paired leading trailing isHigh isLow whole => exact escaped rfl

/-- A string is read exactly if what stands before its closing quote spells its characters. -/
theorem stringChars_eq_ok_iff {text chars rest : List Char} :
    stringChars text = .ok (chars, rest) ↔
      ∃ letters, text = letters ++ '"' :: rest ∧ SpellsAll letters chars := by
  constructor
  · intro read
    fun_induction stringChars text generalizing chars with
    | case1 => cases read
    | case2 after =>
      simp only [Except.ok.injEq, Prod.mk.injEq] at read
      obtain ⟨rfl, rfl⟩ := read
      exact ⟨[], rfl, .nil⟩
    | case3 => cases read
    | case4 after c behind escaped shorter ih =>
      obtain ⟨first, rfl, spells⟩ := escape_eq_ok_iff.1 escaped
      obtain ⟨⟨chars, last⟩, later, same⟩ := map_eq_ok_iff.1 read
      cases same
      obtain ⟨letters, rfl, all⟩ := ih later
      exact ⟨'\\' :: first ++ letters, by simp, .cons spells all⟩
    | case5 => cases read
    | case6 c after quote backslash shown ih =>
      obtain ⟨⟨chars, last⟩, later, same⟩ := map_eq_ok_iff.1 read
      cases same
      obtain ⟨letters, rfl, all⟩ := ih later
      exact ⟨[c] ++ letters, rfl, .cons (.plain (by omega) quote backslash) all⟩
  · rintro ⟨letters, rfl, all⟩
    induction all with
    | nil => rw [List.nil_append, stringChars]
    | cons first later ih =>
      rw [List.append_assoc, stringChars_spelled first, ih]
      rfl

/-! ### Written strings -/

theorem hexEscape_eq {c : Char} (control : c.toNat < 0x20) :
    hexEscape c = ['\\', 'u', '0', '0', (c.toNat / 16).digitChar, (c.toNat % 16).digitChar] := by
  have digits : ∀ n : Fin 32, hexEscape (Char.ofNat n) =
      ['\\', 'u', '0', '0', (n.val / 16).digitChar, (n.val % 16).digitChar] := by decide
  have here := digits ⟨c.toNat, control⟩
  rwa [Char.ofNat_toNat] at here

/-- What is written for a character spells it. -/
theorem spells_stringChar (c : Char) : Spells (stringChar c) c := by
  -- Seven characters have short escapes, the other controls are written by their numbers.
  by_cases short : c = '"' ∨ c = '\\' ∨ c = '\x08' ∨ c = '\x0c' ∨ c = '\n' ∨ c = '\r' ∨ c = '\t'
  · rcases short with rfl | rfl | rfl | rfl | rfl | rfl | rfl
    all_goals exact .short (by decide)
  · simp only [not_or] at short
    obtain ⟨quote, backslash, backspace, feed, line, carriage, tab⟩ := short
    by_cases control : c.toNat < 0x20
    · have written : stringChar c = hexEscape c := by
        simp [stringChar, quote, backslash, backspace, feed, line, carriage, tab, control]
      have zero : HexDigit '0' 0 := by decide
      have high : HexDigit (c.toNat / 16).digitChar (c.toNat / 16) := ⟨by omega, .inl rfl⟩
      have low : HexDigit (c.toNat % 16).digitChar (c.toNat % 16) := ⟨by omega, .inl rfl⟩
      have value : ((0 * 16 + 0) * 16 + c.toNat / 16) * 16 + c.toNat % 16 = c.toNat := by omega
      have number := HexCode.digits zero zero high low
      rw [value] at number
      rw [written, hexEscape_eq control]
      exact .numbered number
    · have plain : stringChar c = [c] := by
        simp [stringChar, quote, backslash, backspace, feed, line, carriage, tab, control]
      rw [plain]
      exact .plain (Nat.not_lt.1 control) quote backslash

theorem spellsAll_flatMap (chars : List Char) : SpellsAll (chars.flatMap stringChar) chars := by
  induction chars with
  | nil => exact .nil
  | cons c chars ih => exact .cons (spells_stringChar c) ih

theorem string_written (value : String) (rest : List Char) :
    Json.string (value.toList.flatMap stringChar ++ '"' :: rest) = .ok (value, rest) := by
  have read : stringChars (value.toList.flatMap stringChar ++ '"' :: rest) =
      .ok (value.toList, rest) :=
    stringChars_eq_ok_iff.2 ⟨_, rfl, spellsAll_flatMap value.toList⟩
  simp only [Json.string, read, Except.map, String.ofList_toList]

/-! ### Whole texts -/

/-- Nothing but blanks. -/
def AllSpace (text : List Char) : Prop :=
  ∀ c ∈ text, isSpace c = true

theorem dropSpace_eq_cons_iff {text rest : List Char} {c : Char} (shown : isSpace c = false) :
    dropSpace text = c :: rest ↔ ∃ before, AllSpace before ∧ text = before ++ c :: rest := by
  constructor
  · intro dropped
    refine ⟨text.takeWhile isSpace, List.all_eq_true.1 List.all_takeWhile, ?_⟩
    rw [← dropped]
    exact List.takeWhile_append_dropWhile.symm
  · rintro ⟨before, blank, rfl⟩
    rw [dropSpace, List.dropWhile_append_of_pos blank]
    exact List.dropWhile_cons_of_neg (by simp [shown])

/-- A whole text is read exactly if a value stands at its front and only blanks behind it. -/
theorem decodeWith_eq_ok_iff {α : Type} {decode : Decoder α} {text : String} {value : α} :
    decodeWith decode text = .ok value ↔
      ∃ after, decode depthLimit text.toList = .ok (value, after) ∧ AllSpace after := by
  unfold decodeWith
  cases decode depthLimit text.toList with
  | error fault => simp
  | ok reading =>
    obtain ⟨found, rest⟩ := reading
    have blank : (dropSpace rest).isEmpty = true ↔ AllSpace rest := by
      rw [List.isEmpty_iff]
      exact List.dropWhile_eq_nil_iff
    simp only [Except.ok.injEq, Prod.mk.injEq]
    constructor
    · intro read
      split at read
      next ended =>
        cases read
        exact ⟨rest, ⟨rfl, rfl⟩, blank.1 ended⟩
      next => cases read
    · rintro ⟨after, ⟨rfl, rfl⟩, ended⟩
      rw [if_pos (blank.2 ended)]

/-- A text that is a JSON string, with blanks around it, and the text that it spells. -/
def Spelled (text value : String) : Prop :=
  ∃ before letters after, AllSpace before ∧ AllSpace after ∧ SpellsAll letters value.toList ∧
    text.toList = before ++ '"' :: (letters ++ '"' :: after)

theorem decodeString_eq_ok_iff (expected : String) (depth : Nat) {value : String}
    {text rest : List Char} :
    Codec.decodeString expected depth text = .ok (value, rest) ↔
      ∃ before letters, AllSpace before ∧ SpellsAll letters value.toList ∧
        text = before ++ '"' :: (letters ++ '"' :: rest) := by
  have opened : ∀ behind, dropSpace text = '"' :: behind ↔
      ∃ before, AllSpace before ∧ text = before ++ '"' :: behind :=
    fun behind => dropSpace_eq_cons_iff rfl
  constructor
  · intro read
    unfold Codec.decodeString at read
    split at read
    next behind quoted =>
      obtain ⟨before, blank, rfl⟩ := (opened behind).1 quoted
      obtain ⟨⟨chars, last⟩, read, same⟩ := map_eq_ok_iff.1 read
      cases same
      obtain ⟨letters, rfl, all⟩ := stringChars_eq_ok_iff.1 read
      exact ⟨before, letters, blank, by rwa [String.toList_ofList], rfl⟩
    next => cases read
  · rintro ⟨before, letters, blank, all, whole⟩
    have quoted := (opened (letters ++ '"' :: rest)).2 ⟨before, blank, whole⟩
    have chars : stringChars (letters ++ '"' :: rest) = .ok (value.toList, rest) :=
      stringChars_eq_ok_iff.2 ⟨letters, rfl, all⟩
    simp only [Codec.decodeString, quoted, Json.string, chars, Except.map, String.ofList_toList]

theorem string_ofText_eq_ok_iff {text value : String} :
    Codec.string.ofText text = .ok value ↔ Spelled text value := by
  constructor
  · intro read
    obtain ⟨after, read, ended⟩ := decodeWith_eq_ok_iff.1 read
    obtain ⟨before, letters, blank, all, whole⟩ := (decodeString_eq_ok_iff _ depthLimit).1 read
    exact ⟨before, letters, after, blank, ended, all, whole⟩
  · rintro ⟨before, letters, after, blank, ended, all, whole⟩
    have read : Codec.string.decode depthLimit text.toList = .ok (value, after) :=
      (decodeString_eq_ok_iff _ depthLimit).2 ⟨before, letters, blank, all, whole⟩
    exact decodeWith_eq_ok_iff.2 ⟨after, read, ended⟩

end BackgroundWork.Json
