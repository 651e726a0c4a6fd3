import BackgroundWork.Json.Value
import BackgroundWork.Proofs.StringReading

set_option autoImplicit false

/-!
What is written as JSON reads back. A number reads back by its digits; lists and objects follow
from their parts. A member of an object is found by its key, wherever it was written.
-/

namespace BackgroundWork.Json

open Numeric (natText intText)

/-! ### Numbers -/

/-- No number goes on into the text. -/
def EndsNumber : List Char → Prop
  | [] => True
  | c :: _ => isDigit c = false ∧ c ≠ '.' ∧ c ≠ 'e' ∧ c ≠ 'E'

theorem digit_ne {c other : Char} (digit : isDigit c = true) (none : isDigit other = false) :
    c ≠ other := by
  rintro rfl
  exact absurd digit (by simp [none])

theorem isSpace_digit {c : Char} (digit : isDigit c = true) : isSpace c = false := by
  have blank : c ≠ ' ' := digit_ne digit rfl
  have tab : c ≠ '\t' := digit_ne digit rfl
  have line : c ≠ '\n' := digit_ne digit rfl
  have carriage : c ≠ '\r' := digit_ne digit rfl
  simp [isSpace, blank, tab, line, carriage]

theorem isDigit_natText {n : Nat} : ∀ c ∈ natText n, isDigit c = true := by
  intro c written
  have digit := Nat.isDigit_of_mem_toDigits (by decide) (Nat.le_refl 10) written
  simpa [Char.isDigit, isDigit, Char.le_def] using digit

theorem natText_head {n : Nat} (positive : 0 < n) : (natText n).head? ≠ some '0' := by
  induction n using Nat.strongRecOn with
  | _ n ih =>
    unfold natText at ih ⊢
    rw [Nat.toDigits_eq_if (by decide)]
    by_cases small : n < 10
    · rw [if_pos small]
      have digits : ∀ d : Fin 10, 0 < d.val → d.val.digitChar ≠ '0' := by decide
      simpa using digits ⟨n, small⟩ positive
    · have higher := ih (n / 10) (by omega) (by omega)
      rw [if_neg small, List.head?_append]
      cases first : (Nat.toDigits 10 (n / 10)).head? with
      | none => exact absurd (List.head?_eq_none_iff.1 first) Nat.toDigits_ne_nil
      | some c =>
        rw [first] at higher
        exact higher

theorem le_ofDigitChars (digits : List Char) (n : Nat) : n ≤ Nat.ofDigitChars 10 digits n := by
  induction digits generalizing n with
  | nil => exact Nat.le_refl n
  | cons c digits ih =>
    rw [Nat.ofDigitChars_cons]
    have rest := ih (10 * n + (c.toNat - '0'.toNat))
    omega

theorem absorb_eq {digits : List Char} {n : Nat}
    (fits : Nat.ofDigitChars 10 digits n < 18446744073709551616) :
    absorb n digits = (Nat.ofDigitChars 10 digits n, 0) := by
  induction digits generalizing n with
  | nil => rfl
  | cons c digits ih =>
    rw [Nat.ofDigitChars_cons] at fits ⊢
    have next : n * 10 + digitValue c = 10 * n + (c.toNat - '0'.toNat) := by
      rw [Nat.mul_comm, digitValue]
    have inside := le_ofDigitChars digits (10 * n + (c.toNat - '0'.toNat))
    rw [absorb, next, if_pos (by omega)]
    exact ih fits

theorem absorb_natText {n : Nat} (fits : n < 18446744073709551616) :
    absorb 0 (natText n) = (n, 0) := by
  have whole : Nat.ofDigitChars 10 (natText n) 0 = n := Nat.ofDigitChars_ten_toDigits
  rw [absorb_eq (whole.symm ▸ fits), whole]

theorem number_written {n : Nat} (fits : n < 18446744073709551616) (negative : Bool)
    {rest : List Char} (ends : EndsNumber rest) :
    number negative (natText n ++ rest) =
      (wholeNumber negative n 0).map fun number => (number, rest) := by
  have taken : rest.takeWhile isDigit = [] := by
    cases rest with
    | nil => rfl
    | cons c rest => rw [List.takeWhile_cons_of_neg (by simp [ends.1])]
  have dropped : rest.dropWhile isDigit = rest := by
    cases rest with
    | nil => rfl
    | cons c rest => rw [List.dropWhile_cons_of_neg (by simp [ends.1])]
  have absorbed := absorb_natText fits
  have nonempty : (natText n).isEmpty = false := by
    rw [List.isEmpty_eq_false_iff]
    exact Nat.toDigits_ne_nil
  have plain : (1 < (natText n).length && (natText n).head? == some '0') = false := by
    by_cases zero : n = 0
    · rw [zero]
      rfl
    · simp [natText_head (Nat.pos_of_ne_zero zero)]
  unfold number
  simp only [List.takeWhile_append_of_pos isDigit_natText, taken, List.append_nil,
    List.dropWhile_append_of_pos isDigit_natText, dropped, nonempty, plain, absorbed,
    Bool.false_eq_true, ↓reduceIte]
  cases rest with
  | nil => rfl
  | cons c rest =>
    obtain ⟨_, point, lower, upper⟩ := ends
    split
    · exact absurd (List.cons.inj ‹_›).1 point
    · exact absurd (List.cons.inj ‹_›).1 lower
    · exact absurd (List.cons.inj ‹_›).1 upper
    · rfl

theorem wholeNumber_minus {n : Nat} (positive : 0 < n) (fits : n ≤ 9223372036854775808) :
    wholeNumber true n 0 = .ok (.integer (-n)) := by
  have zero : n ≠ 0 := by omega
  have wide : ¬9223372036854775808 < n := by omega
  simp [wholeNumber, zero, wide]

/-! ### Written values -/

theorem dropSpace_cons {c : Char} (shown : isSpace c = false) (rest : List Char) :
    dropSpace (c :: rest) = c :: rest :=
  List.dropWhile_cons_of_neg (by simp [shown])

/-- A text that reads as a value wherever no number goes on behind it, if at most `depth` lists
and objects are opened. -/
structure Written (depth : Nat) where
  text : List Char
  value : Value
  starts : ∃ c letters, text = c :: letters ∧ isSpace c = false ∧ c ≠ ']'
  reads : ∀ rest, EndsNumber rest → Value.decode depth (text ++ rest) = .ok (value, rest)

namespace Written

variable {depth : Nat}

/-- The empty value. -/
def null : Written depth where
  text := nullText
  value := .null
  starts := ⟨_, _, rfl, rfl, by decide⟩
  reads rest _ := by rw [Value.decode.eq_def]; rfl

/-- A truth value. -/
def bool (value : Bool) : Written depth where
  text := boolText value
  value := .bool value
  starts := by cases value <;> exact ⟨_, _, rfl, rfl, by decide⟩
  reads rest _ := by cases value <;> (rw [Value.decode.eq_def]; rfl)

theorem decode_quote (rest : List Char) :
    Value.decode depth ('"' :: rest) =
      (Json.string rest).map fun (value, rest) => (.string value, rest) := by
  rw [Value.decode.eq_def]
  rfl

/-- A string. -/
def string (value : String) : Written depth where
  text := stringText value
  value := .string value
  starts := ⟨_, _, rfl, rfl, by decide⟩
  reads rest _ := by
    rw [stringText, List.append_assoc, List.cons_append, List.singleton_append, decode_quote,
      string_written]
    rfl

theorem decode_digit {c : Char} (digit : isDigit c = true) (rest : List Char) :
    Value.decode depth (c :: rest) =
      (Json.number false (c :: rest)).map fun (value, rest) => (.number value, rest) := by
  rw [Value.decode.eq_def, dropSpace_cons (isSpace_digit digit)]
  split
  · exact absurd ‹c :: rest = []› (List.cons_ne_nil _ _)
  iterate 7 exact absurd (List.cons.inj ‹_›).1 (digit_ne digit rfl)
  · rename_i same
    obtain ⟨rfl, rfl⟩ := List.cons.inj same
    rw [if_pos digit]

theorem decode_minus (rest : List Char) :
    Value.decode depth ('-' :: rest) =
      (Json.number true rest).map fun (value, rest) => (.number value, rest) := by
  rw [Value.decode.eq_def]
  rfl

theorem natText_starts (n : Nat) :
    ∃ c letters, natText n = c :: letters ∧ isDigit c = true := by
  cases written : natText n with
  | nil => exact absurd written Nat.toDigits_ne_nil
  | cons c letters => exact ⟨c, letters, rfl, isDigit_natText (n := n) c (by simp [written])⟩

/-- A number without sign. -/
def natural (n : Nat) (fits : n < 18446744073709551616) : Written depth where
  text := natText n
  value := .number (.integer n)
  starts := by
    obtain ⟨c, letters, written, digit⟩ := natText_starts n
    exact ⟨c, letters, written, isSpace_digit digit, digit_ne digit rfl⟩
  reads rest ends := by
    obtain ⟨c, letters, written, digit⟩ := natText_starts n
    have read := number_written fits false ends
    rw [written, List.cons_append] at read ⊢
    rw [decode_digit digit, read]
    rfl

/-- An integer of 64 bits. -/
def integer (i : Int) (least : -9223372036854775808 ≤ i) (greatest : i < 9223372036854775808) :
    Written depth where
  text := intText i
  value := .number (.integer i)
  starts := by
    unfold intText
    by_cases negative : i < 0
    · rw [if_pos negative]
      exact ⟨_, _, rfl, rfl, by decide⟩
    · rw [if_neg negative]
      exact (natural i.natAbs (by omega) : Written depth).starts
  reads rest ends := by
    unfold intText
    by_cases negative : i < 0
    · have value : -(i.natAbs : Int) = i := by omega
      rw [if_pos negative, List.cons_append, decode_minus, number_written (by omega) true ends,
        wholeNumber_minus (by omega) (by omega), value]
      rfl
    · have value : (i.natAbs : Int) = i := by omega
      have read := (natural i.natAbs (by omega) : Written depth).reads rest ends
      rw [if_neg negative, ← value]
      exact read

end Written

/-! ### Lists -/

theorem commaSeparated_cons (part : List Char) (parts : List (List Char)) :
    commaSeparated (part :: parts) = part ++ parts.flatMap fun part => ',' :: part := by
  induction parts generalizing part with
  | nil => simp [commaSeparated]
  | cons next parts ih =>
    have first : commaSeparated (part :: next :: parts) =
        part ++ ',' :: commaSeparated (next :: parts) := rfl
    rw [first, ih, List.flatMap_cons, List.cons_append]

section

variable {α : Type} {item : Reader α} {c : Char} {letters rest : List Char} {first : α}

theorem moreItems_comma (shown : isSpace c = false) (unlike : c ≠ ']')
    (read : item (c :: letters) = .ok (first, rest)) (shorter : rest.length ≤ letters.length) :
    moreItems item (',' :: c :: letters) =
      (moreItems item rest).map fun (items, rest) => (first :: items, rest) := by
  have consumed : rest.length < (',' :: c :: letters).length := by
    simp only [List.length_cons]
    omega
  rw [moreItems.eq_def, dropSpace_cons rfl]
  simp only [dropSpace_cons shown]
  split
  · exact absurd ‹c :: letters = []› (List.cons_ne_nil _ _)
  · exact absurd (List.cons.inj ‹_›).1 unlike
  · simp only [read, consumed, ↓reduceIte]

theorem items_cons (shown : isSpace c = false) (unlike : c ≠ ']')
    (read : item (c :: letters) = .ok (first, rest)) :
    items item (c :: letters) =
      (moreItems item rest).map fun (items, rest) => (first :: items, rest) := by
  rw [items, dropSpace_cons shown]
  split
  · exact absurd ‹c :: letters = []› (List.cons_ne_nil _ _)
  · exact absurd (List.cons.inj ‹_›).1 unlike
  · simp only [read]

/-- Texts that are read as values, one after the other. -/
inductive ItemsRead (item : Reader α) : List (List Char) → List α → Prop
  | nil : ItemsRead item [] []
  | cons {c : Char} {letters : List Char} {value : α} {texts : List (List Char)}
      {values : List α} (shown : isSpace c = false) (unlike : c ≠ ']')
      (read : ∀ rest, EndsNumber rest → item (c :: (letters ++ rest)) = .ok (value, rest))
      (reads : ItemsRead item texts values) :
      ItemsRead item ((c :: letters) :: texts) (value :: values)

theorem endsNumber_furtherItems (texts : List (List Char)) (rest : List Char) :
    EndsNumber (texts.flatMap (fun text => ',' :: text) ++ ']' :: rest) := by
  cases texts with
  | nil => exact ⟨rfl, by decide, by decide, by decide⟩
  | cons text texts => exact ⟨rfl, by decide, by decide, by decide⟩

theorem moreItems_read {texts : List (List Char)} {values : List α}
    (reads : ItemsRead item texts values) (rest : List Char) :
    moreItems item (texts.flatMap (fun text => ',' :: text) ++ ']' :: rest) =
      .ok (values, rest) := by
  induction reads with
  | nil =>
    rw [List.flatMap_nil, List.nil_append, moreItems]
    rfl
  | @cons c letters value texts values shown unlike read reads ih =>
    have first := read _ (endsNumber_furtherItems texts rest)
    rw [List.flatMap_cons, List.append_assoc, List.cons_append, List.cons_append,
      moreItems_comma shown unlike first (by simp), ih]
    rfl

theorem items_read {texts : List (List Char)} {values : List α}
    (reads : ItemsRead item texts values) (rest : List Char) :
    items item (commaSeparated texts ++ ']' :: rest) = .ok (values, rest) := by
  cases reads with
  | nil => rfl
  | @cons c letters value texts values shown unlike read reads =>
    have first := read _ (endsNumber_furtherItems texts rest)
    rw [commaSeparated_cons, List.append_assoc, List.cons_append,
      items_cons shown unlike first, moreItems_read reads]
    rfl

end

namespace Written

variable {depth : Nat}

theorem itemsRead_written (values : List (Written depth)) :
    ItemsRead (Value.decode depth) (values.map (·.text)) (values.map (·.value)) := by
  induction values with
  | nil => exact .nil
  | cons value values ih =>
    obtain ⟨c, letters, written, shown, unlike⟩ := value.starts
    have read := value.reads
    simp only [List.map_cons, written] at read ⊢
    exact .cons shown unlike read ih

theorem decode_bracket (rest : List Char) :
    Value.decode (depth + 1) ('[' :: rest) =
      (items (Value.decode depth) rest).map fun (values, rest) => (.list values, rest) := by
  rw [Value.decode.eq_def]
  rfl

/-- A list. -/
def list (values : List (Written depth)) : Written (depth + 1) where
  text := listText (values.map (·.text))
  value := .list (values.map (·.value))
  starts := ⟨_, _, rfl, rfl, by decide⟩
  reads rest _ := by
    have read := items_read (itemsRead_written values) rest
    rw [listText, List.append_assoc, List.cons_append, List.singleton_append, decode_bracket, read]
    rfl

end Written

/-! ### Objects -/

section

variable {σ : Type} {member : Member σ} {state next : σ} {key : String} {behind rest : List Char}

theorem keyed_written (read : member state key behind = .ok (next, rest)) :
    keyed member state (stringText key ++ behind) = .ok (next, rest) := by
  have key := string_written key behind
  rw [stringText, List.append_assoc, List.cons_append, List.singleton_append]
  simp only [keyed, key, read]

theorem moreMembers_comma (read : member state key behind = .ok (next, rest))
    (shorter : rest.length ≤ behind.length) :
    moreMembers member state (',' :: (stringText key ++ behind)) =
      moreMembers member next rest := by
  have consumed : rest.length < (',' :: (stringText key ++ behind)).length := by
    simp only [List.length_cons, List.length_append]
    omega
  have whole := keyed_written read
  obtain ⟨letters, quoted⟩ : ∃ letters, stringText key ++ behind = '"' :: letters := ⟨_, rfl⟩
  rw [quoted] at consumed whole ⊢
  rw [moreMembers.eq_def, dropSpace_cons rfl]
  simp only [dropSpace_cons (show isSpace '"' = false from rfl)]
  split
  · rename_i ended
    exact absurd ended (List.cons_ne_nil _ _)
  · exact absurd (List.cons.inj ‹_›).1 (by decide)
  · simp only [whole, consumed, ↓reduceIte]

theorem members_cons (read : member state key behind = .ok (next, rest)) :
    members member state (stringText key ++ behind) = moreMembers member next rest := by
  have whole := keyed_written read
  obtain ⟨letters, quoted⟩ : ∃ letters, stringText key ++ behind = '"' :: letters := ⟨_, rfl⟩
  rw [quoted] at whole ⊢
  rw [members, dropSpace_cons rfl]
  split
  · rename_i ended
    exact absurd ended (List.cons_ne_nil _ _)
  · exact absurd (List.cons.inj ‹_›).1 (by decide)
  · simp only [whole]

/-- Members with their texts that, read one after the other, take the state from one to another. -/
inductive MembersRead (member : Member σ) : σ → List (String × List Char) → σ → Prop
  | nil (state : σ) : MembersRead member state [] state
  | cons {state next last : σ} {key : String} {letters : List Char}
      {later : List (String × List Char)}
      (read : ∀ rest, EndsNumber rest →
        member state key (':' :: (letters ++ rest)) = .ok (next, rest))
      (reads : MembersRead member next later last) :
      MembersRead member state ((key, letters) :: later) last

/-- The text of members after the first. -/
def furtherMembers (members : List (String × List Char)) : List Char :=
  members.flatMap fun (key, letters) => ',' :: memberText key letters

theorem endsNumber_furtherMembers (members : List (String × List Char)) (rest : List Char) :
    EndsNumber (furtherMembers members ++ '\x7d' :: rest) := by
  cases members with
  | nil => exact ⟨rfl, by decide, by decide, by decide⟩
  | cons member members => exact ⟨rfl, by decide, by decide, by decide⟩

theorem objectText_append (members : List (String × List Char)) (rest : List Char) :
    objectText members ++ rest = '\x7b' ::
      (commaSeparated (members.map fun (key, letters) => memberText key letters) ++
        '\x7d' :: rest) := by
  simp [objectText]

theorem commaSeparated_members (key : String) (letters : List Char)
    (members : List (String × List Char)) (rest : List Char) :
    commaSeparated (((key, letters) :: members).map fun (key, letters) => memberText key letters) ++
        '\x7d' :: rest =
      stringText key ++ ':' :: (letters ++ (furtherMembers members ++ '\x7d' :: rest)) := by
  simp [commaSeparated_cons, furtherMembers, memberText, List.flatMap_map]

theorem moreMembers_read {members : List (String × List Char)} {last : σ}
    (reads : MembersRead member state members last) (rest : List Char) :
    moreMembers member state (furtherMembers members ++ '\x7d' :: rest) = .ok (last, rest) := by
  induction reads with
  | nil state =>
    rw [furtherMembers, List.flatMap_nil, List.nil_append, moreMembers]
    rfl
  | @cons state next last key letters members read reads ih =>
    have first := read _ (endsNumber_furtherMembers members rest)
    have text : furtherMembers ((key, letters) :: members) ++ '\x7d' :: rest =
        ',' :: (stringText key ++
          ':' :: (letters ++ (furtherMembers members ++ '\x7d' :: rest))) := by
      simp [furtherMembers, memberText]
    rw [text, moreMembers_comma first (by simp; omega), ih]

theorem members_read {written : List (String × List Char)} {last : σ}
    (reads : MembersRead member state written last) (rest : List Char) :
    members member state
        (commaSeparated (written.map fun (key, letters) => memberText key letters) ++
          '\x7d' :: rest) =
      .ok (last, rest) := by
  cases reads with
  | nil => rfl
  | @cons _ next _ key letters later read reads =>
    have first := read _ (endsNumber_furtherMembers later rest)
    rw [commaSeparated_members, members_cons first, moreMembers_read reads]

end

/-- Puts a member that is read among those read before. -/
def putMember (depth : Nat) : Member (List (String × Value)) := fun sorted key text =>
  match colon text with
  | .error fault => .error fault
  | .ok rest =>
    (Value.decode depth rest).map fun (value, rest) => (insertMember key value sorted, rest)

namespace Written

variable {depth : Nat}

theorem decode_brace (rest : List Char) :
    Value.decode (depth + 1) ('\x7b' :: rest) =
      (members (putMember depth) [] rest).map fun (sorted, rest) => (.object sorted, rest) := by
  rw [Value.decode.eq_def]
  rfl

/-- The members put among those before, one after the other. -/
def putAll (sorted : List (String × Value)) (members : List (String × Written depth)) :
    List (String × Value) :=
  members.foldl (fun sorted (key, value) => insertMember key value.value sorted) sorted

theorem putMember_written (sorted : List (String × Value)) (key : String) (value : Written depth)
    {rest : List Char} (ends : EndsNumber rest) :
    putMember depth sorted key (':' :: (value.text ++ rest)) =
      .ok (insertMember key value.value sorted, rest) := by
  have colon : colon (':' :: (value.text ++ rest)) = .ok (value.text ++ rest) := rfl
  simp only [putMember, colon, value.reads rest ends, Except.map]

theorem membersRead_written (sorted : List (String × Value))
    (members : List (String × Written depth)) :
    MembersRead (putMember depth) sorted (members.map fun (key, value) => (key, value.text))
      (putAll sorted members) := by
  induction members generalizing sorted with
  | nil => exact .nil sorted
  | cons member members ih =>
    obtain ⟨key, value⟩ := member
    exact .cons (fun rest ends => putMember_written sorted key value ends) (ih _)

/-- An object. -/
def object (members : List (String × Written depth)) : Written (depth + 1) where
  text := objectText (members.map fun (key, value) => (key, value.text))
  value := .ofMembers (members.map fun (key, value) => (key, value.value))
  starts := ⟨_, _, rfl, rfl, by decide⟩
  reads rest _ := by
    have put : Value.ofMembers (members.map fun (key, value) => (key, value.value)) =
        .object (putAll [] members) := by
      rw [Value.ofMembers, List.foldl_map]
      rfl
    have read := members_read (membersRead_written [] members) rest
    rw [put, objectText_append, decode_brace, read]
    rfl

/-- A value that is written out reads back from a whole text. -/
theorem ofText (written : Written depthLimit) :
    Value.ofText (String.ofList written.text) = .ok written.value := by
  have read := written.reads [] trivial
  rw [List.append_nil] at read
  simp only [Value.ofText, decodeWith, String.toList_ofList, read]
  rfl

end Written

/-! ### Members of objects -/

theorem find?_insertMember (key : String) (value : Value) (sorted : List (String × Value)) :
    (insertMember key value sorted).find? (·.1 == key) = some (key, value) := by
  induction sorted with
  | nil => simp [insertMember]
  | cons member sorted ih =>
    unfold insertMember
    by_cases before : key < member.1
    · simp [before]
    · by_cases same : key = member.1
      · simp [same]
      · have unlike : (member.1 == key) = false := by simpa using Ne.symm same
        simp only [before, same, ↓reduceIte, List.find?_cons, unlike, ih]

theorem find?_insertMember_of_ne {key other : String} (unlike : key ≠ other) (value : Value)
    (sorted : List (String × Value)) :
    (insertMember key value sorted).find? (·.1 == other) = sorted.find? (·.1 == other) := by
  have passed : (key == other) = false := by simpa using unlike
  induction sorted with
  | nil => simp [insertMember, unlike]
  | cons member sorted ih =>
    unfold insertMember
    by_cases before : key < member.1
    · simp only [before, ↓reduceIte, List.find?_cons, passed]
    · by_cases same : key = member.1
      · have passed' : (member.1 == other) = false := same ▸ passed
        simp only [same, String.lt_irrefl, ↓reduceIte, List.find?_cons, passed']
      · simp only [before, same, ↓reduceIte, List.find?_cons, ih]

theorem find?_insertAll_of_not_mem {members : List (String × Value)} {key : String}
    (absent : ∀ member ∈ members, member.1 ≠ key) (sorted : List (String × Value)) :
    (members.foldl (fun sorted (key, value) => insertMember key value sorted) sorted).find?
        (·.1 == key) = sorted.find? (·.1 == key) := by
  induction members generalizing sorted with
  | nil => rfl
  | cons member members ih =>
    have unlike : member.1 ≠ key := absent member (by simp)
    rw [List.foldl_cons, ih (fun other among => absent other (by simp [among])),
      find?_insertMember_of_ne unlike]

theorem find?_insertAll {members : List (String × Value)}
    (distinct : (members.map Prod.fst).Nodup) {key : String} {value : Value}
    (among : (key, value) ∈ members) (sorted : List (String × Value)) :
    (members.foldl (fun sorted (key, value) => insertMember key value sorted) sorted).find?
        (·.1 == key) = some (key, value) := by
  induction members generalizing sorted with
  | nil => exact absurd among (by simp)
  | cons member members ih =>
    rw [List.map_cons, List.nodup_cons] at distinct
    rw [List.foldl_cons]
    obtain rfl | later := List.mem_cons.1 among
    · have absent : ∀ member ∈ members, member.1 ≠ key :=
        fun other later same => distinct.1 (List.mem_map.2 ⟨other, later, same⟩)
      rw [find?_insertAll_of_not_mem absent, find?_insertMember]
    · exact ih distinct.2 later _

/-- Where keys are distinct every member is found. -/
theorem Value.get?_ofMembers {members : List (String × Value)}
    (distinct : (members.map Prod.fst).Nodup) {key : String} {value : Value}
    (among : (key, value) ∈ members) : (Value.ofMembers members).get? key = some value := by
  simp only [Value.get?, Value.ofMembers, find?_insertAll distinct among, Option.map_some]

end BackgroundWork.Json
