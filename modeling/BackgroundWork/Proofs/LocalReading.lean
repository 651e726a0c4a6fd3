import BackgroundWork.Json.Codec
import BackgroundWork.Proofs.FloatReading
import BackgroundWork.Proofs.JsonGrammar

set_option autoImplicit false

/-!
What a codec reads is settled by the text of the value alone. Blanks before it do not count, what
stands behind it makes no difference unless a number goes on there, and the text that is left is
the one that would be left if the value were passed over. So where a value of the grammar stands,
a codec takes that value or none.

Main statement: `Codec.IsLocal.decode_form`, with an instance for each kind of member that is read.
-/

namespace BackgroundWork.Json

open Numeric

namespace Codec

variable {α : Type}

/-- A codec for which only the text of the value counts. -/
structure IsLocal (codec : Codec α) : Prop where
  blank : ∀ depth {gap : List Char} (text : List Char), AllSpace gap →
    codec.decode depth (gap ++ text) = codec.decode depth text
  /-- No value of the kind is nested twice. -/
  shallow : ∀ depth other text, codec.decode (depth + 1) text = codec.decode (other + 1) text
  passes : ∀ {depth : Nat} {text rest : List Char} {value : α},
    codec.decode depth text = .ok (value, rest) → Passes text rest
  front : ∀ {depth : Nat} {text rest : List Char} {value : α},
    codec.decode depth text = .ok (value, rest) →
      ∃ front, text = front ++ rest ∧ ∀ other, EndsNumber other →
        codec.decode depth (front ++ other) = .ok (value, other)

namespace IsLocal

variable {codec : Codec α} (isLocal : codec.IsLocal) {depth : Nat} {value : α}
  {text rest : List Char}

include isLocal

theorem decode_dropSpace (depth : Nat) (text : List Char) :
    codec.decode depth (dropSpace text) = codec.decode depth text := by
  have same := isLocal.blank depth (dropSpace text)
    (List.all_eq_true.1 (List.all_takeWhile (p := isSpace) (l := text)))
  rw [dropSpace, List.takeWhile_append_dropWhile] at same
  exact same.symm

/-- Nothing is no value. -/
theorem decode_nil : codec.decode depth [] ≠ .ok (value, rest) := by
  intro read
  have passed := (isLocal.passes read).skipValue
  rw [skipValue, skipFrom] at passed
  cases passed

/-- A value that is read starts with its first character that is no blank. -/
theorem front_shown (read : codec.decode depth text = .ok (value, rest)) :
    ∃ gap c front, AllSpace gap ∧ isSpace c = false ∧ text = gap ++ c :: (front ++ rest) ∧
      ∀ other, EndsNumber other →
        codec.decode depth (c :: (front ++ other)) = .ok (value, other) := by
  obtain ⟨front, rfl, reads⟩ := isLocal.front read
  have split : front.takeWhile isSpace ++ dropSpace front = front :=
    List.takeWhile_append_dropWhile
  have blank : AllSpace (front.takeWhile isSpace) := List.all_eq_true.1 List.all_takeWhile
  cases shown : dropSpace front with
  | nil =>
    have nothing := reads [] trivial
    rw [← split, shown, List.append_assoc, isLocal.blank _ _ blank] at nothing
    exact absurd nothing isLocal.decode_nil
  | cons c letters =>
    have visible : isSpace c = false := by
      have stopped := List.head?_dropWhile_not isSpace front
      rw [show front.dropWhile isSpace = c :: letters from shown] at stopped
      simpa using stopped
    refine ⟨front.takeWhile isSpace, c, letters, blank, visible, ?_, fun other ends => ?_⟩
    · rw [← List.cons_append, ← shown, ← List.append_assoc, split]
    · have whole := reads other ends
      rw [← split, shown, List.append_assoc, isLocal.blank _ _ blank] at whole
      exact whole

/-- Where a value of the grammar stands, the codec takes that value whole or nothing. -/
theorem decode_form (form : Form text) (ends : EndsNumber rest) {gap other : List Char}
    (blank : AllSpace gap) :
    codec.decode depth (gap ++ (text ++ rest)) = .ok (value, other) ↔
      codec.decode depth text = .ok (value, []) ∧ other = rest := by
  rw [isLocal.blank _ _ blank]
  constructor
  · intro read
    have passed : Passes ([] ++ (text ++ rest)) other := isLocal.passes read
    obtain rfl := form.rest_eq ends allSpace_nil passed
    obtain ⟨front, shape, reads⟩ := isLocal.front read
    obtain rfl := List.append_cancel_right shape
    have alone := reads [] trivial
    rw [List.append_nil] at alone
    exact ⟨alone, rfl⟩
  · rintro ⟨read, rfl⟩
    obtain ⟨front, rfl, reads⟩ := isLocal.front read
    rw [List.append_nil]
    exact reads other ends

/-- A value of the grammar that is read alone is read at any depth but the last. -/
theorem ofText_form (form : Form text) :
    codec.ofText (String.ofList text) = .ok value ↔
      codec.decode (depth + 1) text = .ok (value, []) := by
  have same : codec.decode depthLimit text = codec.decode (depth + 1) text :=
    isLocal.shallow 126 depth text
  rw [ofText, decodeWith_eq_ok_iff, String.toList_ofList, same]
  constructor
  · rintro ⟨after, read, -⟩
    have whole : codec.decode (depth + 1) ([] ++ (text ++ [])) = .ok (value, after) := by
      rwa [List.nil_append, List.append_nil]
    have ends : EndsNumber [] := trivial
    exact ((isLocal.decode_form form ends allSpace_nil).1 whole).1
  · intro read
    exact ⟨[], read, allSpace_nil⟩

end IsLocal

/-! ### Strings -/

theorem string_isLocal : string.IsLocal where
  blank depth gap text blank := by
    simp only [string, decodeString, dropSpace_append blank]
  shallow depth other text := rfl
  passes := by
    intro depth text rest value read
    obtain ⟨before, letters, blank, all, rfl⟩ := (decodeString_eq_ok_iff _ depth).1 read
    exact passes_string all.form blank
  front := by
    intro depth text rest value read
    obtain ⟨before, letters, blank, all, rfl⟩ := (decodeString_eq_ok_iff _ depth).1 read
    refine ⟨before ++ '"' :: (letters ++ ['"']), by simp, fun other _ => ?_⟩
    exact (decodeString_eq_ok_iff _ depth).2 ⟨before, letters, blank, all, by simp⟩

/-! ### Numbers -/

theorem passes_decodeNumber {expected : String} {depth : Nat} {text rest : List Char}
    {value : Number} (taken : decodeNumber expected depth text = .ok (value, rest)) :
    Passes text rest := by
  obtain ⟨behind, minus, read⟩ | ⟨c, behind, digit, shown, read⟩ := decodeNumber_eq_ok_iff.1 taken
  · obtain ⟨front, -, passed, -⟩ := number_front read
    exact passes_scalar minus (by decide) (by decide) passed
  · obtain ⟨front, -, passed, -⟩ := number_front read
    exact passes_digit digit shown passed

/-- A codec that reads a number and makes something of it. -/
def OfNumber (codec : Codec α) (expected : String) (make : Number → Except Fault α) : Prop :=
  ∀ depth text, codec.decode depth text =
    match decodeNumber expected depth text with
    | .error fault => .error fault
    | .ok (number, rest) => (make number).map fun value => (value, rest)

theorem OfNumber.isLocal {codec : Codec α} {expected : String} {make : Number → Except Fault α}
    (ofNumber : codec.OfNumber expected make) : codec.IsLocal := by
  have taken : ∀ {depth text rest value}, codec.decode depth text = .ok (value, rest) ↔
      ∃ number, decodeNumber expected depth text = .ok (number, rest) ∧
        make number = .ok value := by
    intro depth text rest value
    rw [ofNumber]
    constructor
    · intro read
      split at read
      · cases read
      next number after found =>
        obtain ⟨made, makes, same⟩ := map_eq_ok_iff.1 read
        cases same
        exact ⟨number, found, makes⟩
    · rintro ⟨number, found, makes⟩
      simp only [found, makes, Except.map]
  refine ⟨?_, ?_, ?_, ?_⟩
  · intro depth gap text blank
    rw [ofNumber, ofNumber]
    simp only [decodeNumber, dropSpace_append blank]
  · intro depth other text
    rw [ofNumber, ofNumber]
    rfl
  · intro depth text rest value read
    obtain ⟨number, found, -⟩ := taken.1 read
    exact passes_decodeNumber found
  · intro depth text rest value read
    obtain ⟨number, found, makes⟩ := taken.1 read
    obtain ⟨front, rfl, reads⟩ := decodeNumber_front found
    exact ⟨front, rfl, fun other ends => taken.2 ⟨number, reads other ends, makes⟩⟩

/-- The integer that a number is, if it lies within bounds. -/
def integerWithin (expected : String) (least greatest : Int) : Number → Except Fault Int
  | .float found => .error (.wrongKind (.float found) expected)
  | .integer value =>
    if least ≤ value && value ≤ greatest then .ok value else .error (.wrongValue value expected)

theorem decodeInteger_eq (expected : String) (least greatest : Int) (depth : Nat)
    (text : List Char) :
    decodeInteger expected least greatest depth text =
      match decodeNumber expected depth text with
      | .error fault => .error fault
      | .ok (number, rest) =>
        (integerWithin expected least greatest number).map fun value => (value, rest) := by
  unfold decodeInteger integerWithin
  cases decodeNumber expected depth text with
  | error fault => rfl
  | ok found =>
    obtain ⟨number, rest⟩ := found
    cases number with
    | float value => rfl
    | integer value =>
      dsimp only
      split <;> rfl

/-- A codec that reads an integer within bounds. -/
theorem isLocal_of_integer {codec : Codec α} {expected : String} {least greatest : Int}
    (make : Int → α)
    (ofInteger : ∀ depth text, codec.decode depth text =
      (decodeInteger expected least greatest depth text).map
        fun (value, rest) => (make value, rest)) : codec.IsLocal := by
  have ofNumber : codec.OfNumber expected
      fun number => (integerWithin expected least greatest number).map make := by
    intro depth text
    rw [ofInteger, decodeInteger_eq]
    cases decodeNumber expected depth text with
    | error fault => rfl
    | ok found =>
      dsimp only
      cases integerWithin expected least greatest found.1 <;> rfl
  exact ofNumber.isLocal

theorem int64_isLocal : int64.IsLocal :=
  isLocal_of_integer Int64.ofInt fun _ _ => rfl

theorem word_isLocal (expected : String) : (decodeWord expected).IsLocal :=
  isLocal_of_integer (fun value => .ofNat value.toNat) fun _ _ => rfl

theorem binary_isLocal (format : Format) (expected : String) :
    (binary format expected).IsLocal := by
  have ofNumber : (binary format expected).OfNumber expected
      fun number => .ok (number.nearest format) := by
    intro depth text
    simp only [binary]
    cases decodeNumber expected depth text with
    | error fault => rfl
    | ok found =>
      obtain ⟨number, rest⟩ := found
      cases number <;> rfl
  exact ofNumber.isLocal

/-! ### Optional values -/

theorem literal_eq_ok_iff {letters text rest : List Char} :
    literal letters text = .ok rest ↔ text = letters ++ rest := by
  induction letters generalizing text with
  | nil => simp [literal]
  | cons expected letters ih =>
    cases text with
    | nil => simp [literal]
    | cons c text =>
      rw [literal, List.cons_append, List.cons.injEq]
      by_cases same : c = expected
      · rw [if_pos same, ih]
        exact (and_iff_right same).symm
      · rw [if_neg same]
        simp [same]

/-- The empty value after blanks. -/
theorem null_shown_iff {text rest : List Char} :
    (∃ behind, dropSpace text = 'n' :: behind ∧ literal ['u', 'l', 'l'] behind = .ok rest) ↔
      ∃ gap, AllSpace gap ∧ text = gap ++ (nullText ++ rest) := by
  constructor
  · rintro ⟨behind, shown, word⟩
    obtain ⟨gap, blank, rfl⟩ := (dropSpace_eq_cons_iff rfl).1 shown
    obtain rfl := literal_eq_ok_iff.1 word
    exact ⟨gap, blank, rfl⟩
  · rintro ⟨gap, blank, rfl⟩
    refine ⟨['u', 'l', 'l'] ++ rest, ?_, literal_eq_ok_iff.2 rfl⟩
    rw [dropSpace_append blank]
    rfl

/-- What an optional value is read from: the empty value, or what its content is read from. -/
theorem option_decode_iff {codec : Codec α} (isLocal : codec.IsLocal) {depth : Nat}
    {text rest : List Char} {value : Option α} :
    codec.option.decode depth text = .ok (value, rest) ↔
      (value = none ∧ ∃ gap, AllSpace gap ∧ text = gap ++ (nullText ++ rest)) ∨
        ∃ held, value = some held ∧ (dropSpace text).head? ≠ some 'n' ∧
          codec.decode depth text = .ok (held, rest) := by
  rw [← null_shown_iff]
  simp only [option]
  constructor
  · intro read
    split at read
    next behind shown =>
      obtain ⟨after, word, same⟩ := map_eq_ok_iff.1 read
      cases same
      exact .inl ⟨rfl, behind, shown, word⟩
    next filled =>
      obtain ⟨⟨held, after⟩, taken, same⟩ := map_eq_ok_iff.1 read
      cases same
      rw [isLocal.decode_dropSpace] at taken
      refine .inr ⟨held, rfl, ?_, taken⟩
      intro first
      obtain ⟨behind, shown⟩ := List.head?_eq_some_iff.1 first
      exact filled behind shown
  · rintro (⟨rfl, behind, shown, word⟩ | ⟨held, rfl, filled, taken⟩)
    · simp only [shown]
      exact map_eq_ok_iff.2 ⟨_, word, rfl⟩
    · split
      next behind shown => exact absurd (by rw [shown]; rfl) filled
      next =>
        rw [isLocal.decode_dropSpace, taken]
        rfl

theorem option_isLocal {codec : Codec α} (isLocal : codec.IsLocal) : codec.option.IsLocal where
  blank depth gap text blank := by
    simp only [option, dropSpace_append blank]
  shallow depth other text := by
    simp only [option, isLocal.shallow depth other]
  passes := by
    intro depth text rest value read
    obtain ⟨-, gap, blank, rfl⟩ | ⟨held, -, -, taken⟩ := (option_decode_iff isLocal).1 read
    · exact passes_null blank
    · exact isLocal.passes taken
  front := by
    intro depth text rest value read
    obtain ⟨rfl, gap, blank, rfl⟩ | ⟨held, rfl, filled, taken⟩ := (option_decode_iff isLocal).1 read
    · refine ⟨gap ++ nullText, by simp, fun other _ => ?_⟩
      exact (option_decode_iff isLocal).2 (.inl ⟨rfl, gap, blank, by simp⟩)
    · obtain ⟨gap, c, front, blank, visible, rfl, reads⟩ := isLocal.front_shown taken
      have first (other : List Char) : dropSpace (gap ++ c :: other) = c :: other := by
        rw [dropSpace_append blank, dropSpace_cons visible]
      refine ⟨gap ++ c :: front, by simp, fun other ends => ?_⟩
      rw [List.append_assoc, List.cons_append]
      refine (option_decode_iff isLocal).2 (.inr ⟨held, rfl, ?_, ?_⟩)
      · rw [first] at filled ⊢
        exact filled
      · rw [isLocal.blank _ _ blank]
        exact reads other ends

end Codec

/-! ### Enumerations -/

theorem colon_eq_ok_iff {text rest : List Char} :
    colon text = .ok rest ↔ ∃ gap, AllSpace gap ∧ text = gap ++ ':' :: rest := by
  rw [← dropSpace_eq_cons_iff rfl]
  unfold colon
  constructor
  · intro read
    split at read
    · cases read
    next behind shown =>
      cases read
      exact shown
    · cases read
  · intro shown
    simp only [shown]

theorem colon_shown {gap : List Char} (blank : AllSpace gap) (rest : List Char) :
    colon (gap ++ ':' :: rest) = .ok rest :=
  colon_eq_ok_iff.2 ⟨gap, blank, rfl⟩

namespace Enumeration

variable {α : Type} {enumeration : Enumeration α}

theorem key_eq_ok_iff {text rest : List Char} {name : String} :
    key text = .ok (name, rest) ↔
      ∃ gap letters, AllSpace gap ∧ SpellsAll letters name.toList ∧
        text = gap ++ '"' :: (letters ++ '"' :: rest) := by
  rw [← decodeString_eq_ok_iff "" 0]
  unfold key Codec.decodeString
  split
  next behind shown => simp only [shown]
  all_goals
    constructor
    · intro read
      cases read
    · intro read
      simp_all

theorem unit_eq_ok_iff {text rest : List Char} :
    unit text = .ok rest ↔ ∃ gap, AllSpace gap ∧ text = gap ++ (nullText ++ rest) := by
  rw [← Codec.null_shown_iff]
  unfold unit
  constructor
  · intro read
    split at read
    next behind shown => exact ⟨behind, shown, read⟩
    · cases read
  · rintro ⟨behind, shown, word⟩
    simp only [shown, word]

/-- A named value as a key: an object with one member, whose value is the empty one. -/
theorem decodeKeyed_eq_ok_iff {text rest : List Char} {value : α} :
    enumeration.decodeKeyed text = .ok (value, rest) ↔
      ∃ (entry : Entry) (name : String), entry.IsSpaced ∧ SpellsAll entry.letters name.toList ∧
        entry.value = nullText ∧ enumeration.ofName name = .ok value ∧
        text = entry.text ++ '\x7d' :: rest := by
  unfold decodeKeyed
  constructor
  · intro read
    split at read
    · cases read
    next name quoted named =>
      obtain ⟨before, letters, beforeBlank, all, rfl⟩ := key_eq_ok_iff.1 named
      split at read
      · cases read
      next meant known =>
        split at read
        · cases read
        next pointed found =>
          obtain ⟨behind, behindBlank, rfl⟩ := colon_eq_ok_iff.1 found
          split at read
          · cases read
          next emptied empty =>
            obtain ⟨between, betweenBlank, rfl⟩ := unit_eq_ok_iff.1 empty
            split at read
            next last closed =>
              cases read
              obtain ⟨after, afterBlank, rfl⟩ := (dropSpace_eq_cons_iff rfl).1 closed
              exact ⟨⟨before, letters, behind, between, nullText, after⟩, name,
                ⟨beforeBlank, behindBlank, betweenBlank, afterBlank⟩, all, rfl, known,
                by simp [Entry.text, Entry.tail]⟩
            · cases read
            · cases read
  · rintro ⟨⟨before, letters, behind, between, empty, after⟩, name,
      ⟨beforeBlank, behindBlank, betweenBlank, afterBlank⟩, all, isEmpty, known, rfl⟩
    have shape : (Entry.mk before letters behind between empty after).text ++ '\x7d' :: rest =
        before ++ '"' :: (letters ++ '"' :: (behind ++ ':' ::
          (between ++ (nullText ++ (after ++ '\x7d' :: rest))))) := by
      have isEmpty : empty = nullText := isEmpty
      simp [Entry.text, Entry.tail, isEmpty]
    have named := key_eq_ok_iff.2 ⟨before, letters, beforeBlank, all, shape⟩
    have found : unit (between ++ (nullText ++ (after ++ '\x7d' :: rest))) =
        .ok (after ++ '\x7d' :: rest) := unit_eq_ok_iff.2 ⟨between, betweenBlank, rfl⟩
    have closed : dropSpace (after ++ '\x7d' :: rest) = '\x7d' :: rest :=
      (dropSpace_eq_cons_iff rfl).2 ⟨after, afterBlank, rfl⟩
    simp only [named, known, colon_shown behindBlank, found, closed]

/-- A named value is a string, or an object whose only member is the empty value. -/
inductive Named (enumeration : Enumeration α) (value : α) (rest : List Char) :
    Nat → List Char → Prop
  | string {depth : Nat} {gap letters : List Char} {name : String} (blank : AllSpace gap)
      (all : SpellsAll letters name.toList) (known : enumeration.ofName name = .ok value) :
      Named enumeration value rest depth (gap ++ '"' :: (letters ++ '"' :: rest))
  | keyed {depth : Nat} {gap : List Char} {entry : Entry} {name : String} (blank : AllSpace gap)
      (spaced : entry.IsSpaced) (all : SpellsAll entry.letters name.toList)
      (isEmpty : entry.value = nullText) (known : enumeration.ofName name = .ok value) :
      Named enumeration value rest (depth + 1) (gap ++ '\x7b' :: (entry.text ++ '\x7d' :: rest))

theorem decode_eq_ok_iff {depth : Nat} {text rest : List Char} {value : α} :
    enumeration.codec.decode depth text = .ok (value, rest) ↔
      Named enumeration value rest depth text := by
  constructor
  · intro read
    simp only [codec] at read
    split at read
    · cases read
    next behind quoted =>
      obtain ⟨gap, blank, rfl⟩ := (dropSpace_eq_cons_iff rfl).1 quoted
      split at read
      · cases read
      next name after named =>
        obtain ⟨⟨chars, last⟩, spelled, same⟩ := map_eq_ok_iff.1 named
        cases same
        obtain ⟨letters, rfl, all⟩ := stringChars_eq_ok_iff.1 spelled
        obtain ⟨meant, known, same⟩ := map_eq_ok_iff.1 read
        cases same
        exact .string blank (by rwa [String.toList_ofList]) known
    next behind opened =>
      obtain ⟨gap, blank, rfl⟩ := (dropSpace_eq_cons_iff rfl).1 opened
      split at read
      · cases read
      next inner =>
        obtain ⟨entry, name, spaced, all, isEmpty, known, rfl⟩ := decodeKeyed_eq_ok_iff.1 read
        exact .keyed blank spaced all isEmpty known
    · cases read
  · intro named
    cases named with
    | @string _ gap letters name blank all known =>
      have quoted : dropSpace (gap ++ '"' :: (letters ++ '"' :: rest)) =
          '"' :: (letters ++ '"' :: rest) := (dropSpace_eq_cons_iff rfl).2 ⟨gap, blank, rfl⟩
      have read : stringChars (letters ++ '"' :: rest) = .ok (name.toList, rest) :=
        stringChars_eq_ok_iff.2 ⟨letters, rfl, all⟩
      simp only [codec, quoted, Json.string, read, Except.map, String.ofList_toList, known]
    | @keyed depth gap entry name blank spaced all isEmpty known =>
      have opened : dropSpace (gap ++ '\x7b' :: (entry.text ++ '\x7d' :: rest)) =
          '\x7b' :: (entry.text ++ '\x7d' :: rest) :=
        (dropSpace_eq_cons_iff rfl).2 ⟨gap, blank, rfl⟩
      have read : enumeration.decodeKeyed (entry.text ++ '\x7d' :: rest) = .ok (value, rest) :=
        decodeKeyed_eq_ok_iff.2 ⟨entry, name, spaced, all, isEmpty, known, rfl⟩
      simp only [codec, opened, read]

theorem codec_isLocal (enumeration : Enumeration α) : enumeration.codec.IsLocal where
  blank depth gap text blank := by
    simp only [codec, dropSpace_append blank]
  shallow depth other text := rfl
  passes := by
    intro depth text rest value read
    cases decode_eq_ok_iff.1 read with
    | string blank all known => exact passes_string all.form blank
    | @keyed depth gap entry name blank spaced all isEmpty known =>
      have shown : dropSpace (gap ++ '\x7b' :: (entry.text ++ '\x7d' :: rest)) =
          objectOf [entry] [] ++ rest := by
        rw [dropSpace_append blank, dropSpace_cons rfl]
        simp [objectOf, commaSeparated]
      refine passes_object allSpace_nil (List.forall_mem_singleton.2 spaced)
        (List.forall_mem_singleton.2 all.form) (List.forall_mem_singleton.2 ?_) shown
      intro gap rest blank ends
      rw [isEmpty]
      exact passes_null blank
  front := by
    intro depth text rest value read
    cases decode_eq_ok_iff.1 read with
    | @string _ gap letters name blank all known =>
      refine ⟨gap ++ '"' :: (letters ++ ['"']), by simp, fun other _ => ?_⟩
      have shape : gap ++ '"' :: (letters ++ ['"']) ++ other =
          gap ++ '"' :: (letters ++ '"' :: other) := by simp
      rw [shape]
      exact decode_eq_ok_iff.2 (.string blank all known)
    | @keyed depth gap entry name blank spaced all isEmpty known =>
      refine ⟨gap ++ '\x7b' :: (entry.text ++ ['\x7d']), by simp, fun other _ => ?_⟩
      have shape : gap ++ '\x7b' :: (entry.text ++ ['\x7d']) ++ other =
          gap ++ '\x7b' :: (entry.text ++ '\x7d' :: other) := by simp
      rw [shape]
      exact decode_eq_ok_iff.2 (.keyed blank spaced all isEmpty known)

end Enumeration

/-! ### Lists -/

namespace Codec

variable {α : Type} {codec : Codec α}

/-- Behind an element stands the next comma or the closing bracket. -/
theorem endsNumber_elements {item : Reader α} {text rest : List Char} {values : List α}
    (elements : Elements item false text values rest) : EndsNumber text := by
  have first : ∃ c behind, (c = ',' ∨ c = ']' ∨ c = '\x7d') ∧ dropSpace text = c :: behind := by
    cases elements with
    | closed shown => exact ⟨_, _, .inr (.inl rfl), shown⟩
    | more found _ _ =>
      obtain ⟨behind, comma, -, -⟩ := nextItem_later.1 found
      exact ⟨_, _, .inl rfl, comma⟩
  obtain ⟨c, behind, mark, shown⟩ := first
  have visible : isSpace c = false := by rcases mark with rfl | rfl | rfl <;> rfl
  obtain ⟨gap, blank, rfl⟩ := (dropSpace_eq_cons_iff visible).1 shown
  exact endsNumber_append blank (endsNumber_cons mark behind)

/-- Where an element may stand, one with nothing but blanks before it does. -/
theorem startsItem_shown {gap : List Char} {c : Char} (blank : AllSpace gap)
    (visible : isSpace c = false) (unclosed : c ≠ ']') (behind : List Char) :
    dropSpace (gap ++ c :: behind) = c :: behind ∧ StartsItem (c :: behind) := by
  refine ⟨by rw [dropSpace_append blank, dropSpace_cons visible], List.cons_ne_nil _ _, ?_⟩
  intro rest same
  exact unclosed (List.cons.inj same).1

section

variable (isLocal : codec.IsLocal) {depth : Nat} {text rest : List Char} {values : List α}

include isLocal

/-- An element stands where the list goes on, and reaches as far as its own characters say. -/
theorem element_shown {behind after : List Char} {value : α}
    (taken : codec.decode depth (dropSpace behind) = .ok (value, after))
    (starts : StartsItem (dropSpace behind)) :
    ∃ gap c front, AllSpace gap ∧ isSpace c = false ∧ c ≠ ']' ∧
      behind = gap ++ c :: (front ++ after) ∧ ∀ other, EndsNumber other →
        codec.decode depth (c :: (front ++ other)) = .ok (value, other) := by
  rw [isLocal.decode_dropSpace] at taken
  obtain ⟨gap, c, front, blank, visible, rfl, reads⟩ := isLocal.front_shown taken
  refine ⟨gap, c, front, blank, visible, ?_, rfl, reads⟩
  rintro rfl
  refine starts.2 (front ++ after) ?_
  rw [dropSpace_append blank, dropSpace_cons rfl]

theorem elements_front {first : Bool}
    (elements : Elements (codec.decode depth) first text values rest) :
    ∃ front, text = front ++ rest ∧
      ∀ other, Elements (codec.decode depth) first (front ++ other) values other := by
  induction elements with
  | closed shown =>
    obtain ⟨gap, blank, rfl⟩ := (dropSpace_eq_cons_iff rfl).1 shown
    refine ⟨gap ++ [']'], by simp, fun other => .closed ?_⟩
    rw [List.append_assoc, dropSpace_append blank]
    rfl
  | @more first text next after rest value values found taken later ih =>
    obtain ⟨further, rfl, others⟩ := ih
    have ends (other : List Char) : EndsNumber (further ++ other) :=
      endsNumber_elements (others other)
    cases first with
    | true =>
      obtain ⟨rfl, starts⟩ := nextItem_first.1 found
      obtain ⟨gap, c, front, blank, visible, unclosed, rfl, reads⟩ :=
        element_shown isLocal taken starts
      refine ⟨gap ++ c :: (front ++ further), by simp, fun other => ?_⟩
      obtain ⟨shown, starts⟩ := startsItem_shown blank visible unclosed
        (front ++ (further ++ other))
      have shape : gap ++ c :: (front ++ further) ++ other =
          gap ++ c :: (front ++ (further ++ other)) := by simp
      rw [shape]
      exact .more (nextItem_first.2 ⟨shown.symm, starts⟩) (reads _ (ends other)) (others other)
    | false =>
      obtain ⟨behind, comma, rfl, starts⟩ := nextItem_later.1 found
      obtain ⟨before, blankBefore, rfl⟩ := (dropSpace_eq_cons_iff rfl).1 comma
      obtain ⟨gap, c, front, blank, visible, unclosed, rfl, reads⟩ :=
        element_shown isLocal taken starts
      refine ⟨before ++ ',' :: (gap ++ c :: (front ++ further)), by simp, fun other => ?_⟩
      obtain ⟨shown, starts⟩ := startsItem_shown blank visible unclosed
        (front ++ (further ++ other))
      have shape : before ++ ',' :: (gap ++ c :: (front ++ further)) ++ other =
          before ++ ',' :: (gap ++ c :: (front ++ (further ++ other))) := by simp
      have comma : dropSpace (before ++ ',' :: (gap ++ c :: (front ++ (further ++ other)))) =
          ',' :: (gap ++ c :: (front ++ (further ++ other))) :=
        (dropSpace_eq_cons_iff rfl).2 ⟨before, blankBefore, rfl⟩
      rw [shape]
      exact .more (nextItem_later.2 ⟨_, comma, shown.symm, starts⟩) (reads _ (ends other))
        (others other)

theorem skipFrom_elements {opened : List Bracket}
    (elements : Elements (codec.decode depth) false text values rest) :
    skipFrom .continuation (.list :: opened) text = skipFrom .continuation opened rest := by
  generalize later : false = first at elements
  induction elements with
  | closed shown =>
    obtain ⟨gap, blank, rfl⟩ := (dropSpace_eq_cons_iff rfl).1 shown
    rw [skipFrom_blank blank]
    exact skipFrom_close _
  | more found taken others ih =>
    subst later
    obtain ⟨behind, comma, rfl, -⟩ := nextItem_later.1 found
    obtain ⟨before, blankBefore, rfl⟩ := (dropSpace_eq_cons_iff rfl).1 comma
    rw [isLocal.decode_dropSpace] at taken
    rw [skipFrom_blank blankBefore, skipFrom_comma, ← ih rfl]
    exact isLocal.passes taken _

theorem list_decode_iff :
    codec.list.decode depth text = .ok (values, rest) ↔
      ∃ inner behind, depth = inner + 1 ∧ dropSpace text = '[' :: behind ∧
        Elements (codec.decode inner) true behind values rest := by
  have leaves : ∀ depth, LeavesSuffix (codec.decode depth) := by
    intro depth text value rest read
    obtain ⟨front, rfl, -⟩ := isLocal.front read
    exact List.suffix_append _ _
  constructor
  · intro read
    simp only [list] at read
    split at read
    next behind opened =>
      split at read
      · cases read
      next inner => exact ⟨inner, behind, rfl, opened, (items_eq_ok_iff (leaves inner)).1 read⟩
    · cases read
  · rintro ⟨inner, behind, rfl, opened, elements⟩
    have read := (items_eq_ok_iff (leaves inner)).2 elements
    simp only [list, opened, read]

end

/-- A list of values that are not nested, whatever the depth. -/
theorem list_isLocal (isLocal : codec.IsLocal)
    (flat : ∀ depth other text, codec.decode depth text = codec.decode other text) :
    codec.list.IsLocal where
  blank depth gap text blank := by
    simp only [list, dropSpace_append blank]
  shallow depth other text := by
    have same : codec.decode depth = codec.decode other := funext (flat depth other)
    simp only [list, same]
  passes := by
    intro depth text rest values read opened
    obtain ⟨inner, behind, rfl, shown, elements⟩ := (list_decode_iff isLocal).1 read
    cases elements with
    | closed closed => exact skipFrom_emptyList shown closed
    | more found taken later =>
      obtain ⟨rfl, starts⟩ := nextItem_first.1 found
      obtain ⟨gap, c, front, blank, visible, unclosed, rfl, -⟩ :=
        element_shown isLocal taken starts
      obtain ⟨filled, -⟩ := startsItem_shown blank visible unclosed (front ++ _)
      rw [isLocal.decode_dropSpace] at taken
      rw [skipFrom_list shown filled unclosed, isLocal.passes taken]
      exact skipFrom_elements isLocal later
  front := by
    intro depth text rest values read
    obtain ⟨inner, behind, rfl, shown, elements⟩ := (list_decode_iff isLocal).1 read
    obtain ⟨gap, blank, rfl⟩ := (dropSpace_eq_cons_iff rfl).1 shown
    obtain ⟨front, rfl, others⟩ := elements_front isLocal elements
    refine ⟨gap ++ '[' :: front, by simp, fun other _ => ?_⟩
    refine (list_decode_iff isLocal).2 ⟨inner, front ++ other, rfl, ?_, others other⟩
    rw [List.append_assoc, dropSpace_append blank]
    rfl

end Codec

end BackgroundWork.Json
