import BackgroundWork.Uuid

set_option autoImplicit false

/-!
Identifiers are read back from their text. Each group of digits is read up to the hyphen behind
it. A text in groups starts with a digit, so it stands bare, and it is none of the other accepted
forms, since the form without hyphens finds one after eight digits.

Main statement: `Uuid.ofText_text`.
-/

namespace BackgroundWork.Uuid

theorem digit?_digitChar (value : Fin 16) : digit? (digitChar value) = some value := by
  revert value
  decide

theorem takeDigits_map (values : List (Fin 16)) (rest : List Char) :
    takeDigits values.length (values.map digitChar ++ rest) = some (values, rest) := by
  induction values with
  | nil => rfl
  | cons value values ih =>
    simp only [List.length_cons, List.map_cons, List.cons_append, takeDigits, digit?_digitChar, ih]

/-- The digits of a text in groups are read group by group. -/
theorem groups_grouped {widths : List Nat} (nonempty : widths ≠ []) {values : List (Fin 16)}
    (whole : values.length = widths.foldr (· + ·) 0) :
    groups widths (grouped widths values) = some values := by
  induction widths generalizing values with
  | nil => exact absurd rfl nonempty
  | cons width widths ih =>
    rw [List.foldr_cons] at whole
    have first : (values.take width).length = width := List.length_take_of_le (by omega)
    have read := takeDigits_map (values.take width)
    rw [first] at read
    cases widths with
    | nil =>
      have all : values.take width = values := List.take_of_length_le (by simp_all)
      have alone := read []
      rw [List.append_nil] at alone
      simp only [grouped, groups, alone]
      rw [all]
    | cons next widths =>
      have later : (values.drop width).length = (next :: widths).foldr (· + ·) 0 := by
        rw [List.length_drop]
        omega
      have rest := ih (List.cons_ne_nil _ _) later
      simp only [grouped, groups, read, rest, Option.map_some, List.take_append_drop]

/-- Digits are not read across a hyphen. -/
theorem takeDigits_hyphen {values : List (Fin 16)} {n : Nat} (more : values.length < n)
    (rest : List Char) : takeDigits n (values.map digitChar ++ '-' :: rest) = none := by
  induction values generalizing n with
  | nil =>
    obtain ⟨n, rfl⟩ := Nat.exists_eq_succ_of_ne_zero (Nat.ne_of_gt more)
    rfl
  | cons value values ih =>
    obtain ⟨n, rfl⟩ := Nat.exists_eq_succ_of_ne_zero (Nat.ne_of_gt (Nat.zero_lt_of_lt more))
    have stuck := ih (Nat.lt_of_succ_lt_succ more)
    simp only [List.map_cons, List.cons_append, takeDigits, digit?_digitChar, stuck]

/-- A text that starts with a digit stands bare. -/
theorem unwrap_digit (value : Fin 16) (rest : List Char) :
    unwrap (digitChar value :: rest) = (.bare, digitChar value :: rest) := by
  have brace : digitChar value ≠ '\x7b' := by
    revert value
    decide
  have letter : (digitChar value).toLower ≠ 'u' := by
    revert value
    decide
  have scheme : ((digitChar value :: rest).take 9).map Char.toLower ≠ schemeChars := by
    rw [List.take_succ_cons, List.map_cons]
    exact fun same => letter (List.cons.inj same).1
  unfold unwrap
  split
  · exact absurd (List.cons.inj ‹_›).1 brace
  · rw [if_neg scheme]

/-- An identifier is read back from its text. -/
theorem ofText_text (id : Uuid) : ofText id.text = .ok id := by
  obtain ⟨digits, length⟩ := id
  have written : (Uuid.text ⟨digits, length⟩).toList = grouped groupWidths digits := by
    rw [text, String.toList_ofList]
  have read : groups groupWidths (grouped groupWidths digits) = some digits :=
    groups_grouped (by decide) length
  have parted : grouped groupWidths digits =
      (digits.take 8).map digitChar ++ '-' :: grouped [4, 4, 4, 12] (digits.drop 8) := rfl
  have first : (digits.take 8).length = 8 := List.length_take_of_le (by omega)
  have stuck : groups [32] (grouped groupWidths digits) = none := by
    have short : (digits.take 8).length < 32 := by omega
    rw [parted, groups, takeDigits_hyphen short]
  obtain ⟨value, rest, starts⟩ : ∃ value rest,
      grouped groupWidths digits = digitChar value :: rest := by
    cases taken : digits.take 8 with
    | nil => simp [taken] at first
    | cons value values => exact ⟨value, _, by rw [parted, taken]; rfl⟩
  have bare : unwrap (grouped groupWidths digits) = (.bare, grouped groupWidths digits) := by
    rw [starts]
    exact unwrap_digit value rest
  simp only [ofText, written, digits?, bare, stuck, read, Option.none_or, length, ↓reduceDIte]

end BackgroundWork.Uuid
