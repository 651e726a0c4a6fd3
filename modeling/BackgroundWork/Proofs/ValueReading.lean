import BackgroundWork.Json.Codec
import BackgroundWork.Proofs.JsonReading
import Mathlib.Data.List.DropRight

set_option autoImplicit false

/-!
How JSON values are read. The first character decides what a value is, and what is left behind it
is a suffix of the text, so that a list is its elements one after the other up to the closing
bracket.
-/

namespace BackgroundWork.Json

/-! ### The first character -/

/-- What a value is by the first character of its text, and what is left behind it. -/
inductive ValueRead (depth : Nat) : List Char → Value → List Char → Prop
  | null {behind rest : List Char} (word : literal ['u', 'l', 'l'] behind = .ok rest) :
      ValueRead depth ('n' :: behind) .null rest
  | yes {behind rest : List Char} (word : literal ['r', 'u', 'e'] behind = .ok rest) :
      ValueRead depth ('t' :: behind) (.bool true) rest
  | no {behind rest : List Char} (word : literal ['a', 'l', 's', 'e'] behind = .ok rest) :
      ValueRead depth ('f' :: behind) (.bool false) rest
  | string {behind rest : List Char} {text : String}
      (read : Json.string behind = .ok (text, rest)) :
      ValueRead depth ('"' :: behind) (.string text) rest
  | minus {behind rest : List Char} {value : Number}
      (read : number true behind = .ok (value, rest)) :
      ValueRead depth ('-' :: behind) (.number value) rest
  | digit {c : Char} {behind rest : List Char} {value : Number} (digit : isDigit c = true)
      (read : number false (c :: behind) = .ok (value, rest)) :
      ValueRead depth (c :: behind) (.number value) rest
  | list {inner : Nat} {behind rest : List Char} {values : List Value} (deep : depth = inner + 1)
      (read : items (Value.decode inner) behind = .ok (values, rest)) :
      ValueRead depth ('[' :: behind) (.list values) rest
  | object {inner : Nat} {behind rest : List Char} {sorted : List (String × Value)}
      (deep : depth = inner + 1)
      (read : members (putMember inner) [] behind = .ok (sorted, rest)) :
      ValueRead depth ('\x7b' :: behind) (.object sorted) rest

theorem decode_dropSpace (depth : Nat) (text : List Char) :
    Value.decode depth (dropSpace text) = Value.decode depth text := by
  have dropped : dropSpace (dropSpace text) = dropSpace text := List.dropWhile_idempotent _ text
  rw [Value.decode.eq_def, Value.decode.eq_def depth text, dropped]

theorem decode_eq_ok_iff {depth : Nat} {text rest : List Char} {value : Value} :
    Value.decode depth text = .ok (value, rest) ↔ ValueRead depth (dropSpace text) value rest := by
  constructor
  · intro read
    rw [Value.decode.eq_def] at read
    split at read
    · cases read
    next behind first =>
      obtain ⟨after, word, same⟩ := map_eq_ok_iff.1 read
      cases same
      exact first ▸ .null word
    next behind first =>
      obtain ⟨after, word, same⟩ := map_eq_ok_iff.1 read
      cases same
      exact first ▸ .yes word
    next behind first =>
      obtain ⟨after, word, same⟩ := map_eq_ok_iff.1 read
      cases same
      exact first ▸ .no word
    next behind first =>
      obtain ⟨⟨text, after⟩, read, same⟩ := map_eq_ok_iff.1 read
      cases same
      exact first ▸ .string read
    next behind first =>
      obtain ⟨⟨number, after⟩, read, same⟩ := map_eq_ok_iff.1 read
      cases same
      exact first ▸ .minus read
    next behind first =>
      split at read
      · cases read
      next inner =>
        obtain ⟨⟨values, after⟩, read, same⟩ := map_eq_ok_iff.1 read
        cases same
        exact first ▸ .list rfl read
    next behind first =>
      split at read
      · cases read
      next inner =>
        obtain ⟨⟨sorted, after⟩, read, same⟩ := map_eq_ok_iff.1 read
        cases same
        exact first ▸ .object rfl read
    next c behind _ _ _ _ _ _ _ first =>
      split at read
      next digit =>
        obtain ⟨⟨number, after⟩, read, same⟩ := map_eq_ok_iff.1 read
        cases same
        exact first ▸ .digit digit read
      · cases read
  · intro read
    rw [← decode_dropSpace]
    generalize dropSpace text = front at read
    cases read with
    | null word =>
      rw [Value.decode.eq_def]
      exact map_eq_ok_iff.2 ⟨_, word, rfl⟩
    | yes word =>
      rw [Value.decode.eq_def]
      exact map_eq_ok_iff.2 ⟨_, word, rfl⟩
    | no word =>
      rw [Value.decode.eq_def]
      exact map_eq_ok_iff.2 ⟨_, word, rfl⟩
    | string read =>
      rw [Written.decode_quote, read]
      rfl
    | minus read =>
      rw [Written.decode_minus, read]
      rfl
    | digit digit read =>
      rw [Written.decode_digit digit, read]
      rfl
    | list deep read =>
      rw [deep, Written.decode_bracket, read]
      rfl
    | object deep read =>
      rw [deep, Written.decode_brace, read]
      rfl

/-! ### What is left behind a value -/

theorem literal_suffix {letters text rest : List Char} (read : literal letters text = .ok rest) :
    rest <:+ text := by
  induction letters generalizing text with
  | nil =>
    cases read
    exact List.suffix_refl _
  | cons expected letters ih =>
    cases text with
    | nil => cases read
    | cons c text =>
      rw [literal] at read
      split at read
      · exact (ih read).trans (List.suffix_cons c text)
      · cases read

theorem string_suffix {text rest : List Char} {value : String}
    (read : Json.string text = .ok (value, rest)) : rest <:+ text := by
  obtain ⟨⟨chars, after⟩, read, same⟩ := map_eq_ok_iff.1 read
  cases same
  obtain ⟨letters, rfl, -⟩ := stringChars_eq_ok_iff.1 read
  exact (List.suffix_cons _ _).trans (List.suffix_append _ _)

theorem exponentDigits_suffix {text rest : List Char} {exponent : Bool × List Char}
    (read : exponentDigits text = .ok (exponent, rest)) : rest <:+ text := by
  unfold exponentDigits at read
  split at read
  next negative behind signed =>
    have within : behind <:+ text := by
      split at signed <;> cases signed
      · exact List.suffix_cons _ _
      · exact List.suffix_cons _ _
      · exact List.suffix_refl _
    simp only at read
    split at read
    · cases read
    · cases read
      exact (List.dropWhile_suffix _).trans within

theorem withExponent_suffix {negative : Bool} {significand : Nat} {exponent : Int}
    {text rest : List Char} {value : Number}
    (read : withExponent negative significand exponent text = .ok (value, rest)) :
    rest <:+ text := by
  unfold withExponent at read
  split at read
  -- Both letters go the same way.
  iterate 2
    · split at read
      · cases read
      next exponent =>
        have within := exponentDigits_suffix exponent
        split at read
        · obtain ⟨number, -, same⟩ := map_eq_ok_iff.1 read
          cases same
          exact within.trans (List.suffix_cons _ _)
        · split at read
          · cases read
          · cases read
            exact within.trans (List.suffix_cons _ _)
  · obtain ⟨number, -, same⟩ := map_eq_ok_iff.1 read
    cases same
    exact List.suffix_refl _

theorem number_suffix {negative : Bool} {text rest : List Char} {value : Number}
    (read : number negative text = .ok (value, rest)) : rest <:+ text := by
  unfold number at read
  extract_lets digits behind at read
  have dropped : behind <:+ text := List.dropWhile_suffix _
  clear_value behind
  split at read
  · cases read
  split at read
  · cases read
  split at read
  split at read
  next fractional =>
    extract_lets fraction after at read
    have within : after <:+ text :=
      ((List.dropWhile_suffix _).trans (List.suffix_cons _ _)).trans dropped
    clear_value after
    split at read
    · cases read
    · exact (withExponent_suffix read).trans within
  · exact (withExponent_suffix read).trans dropped
  · exact (withExponent_suffix read).trans dropped
  · obtain ⟨number, -, same⟩ := map_eq_ok_iff.1 read
    cases same
    exact dropped

/-- What reads values and leaves a suffix of its text. -/
def LeavesSuffix {α : Type} (read : Reader α) : Prop :=
  ∀ text value rest, read text = .ok (value, rest) → rest <:+ text

theorem dropSpace_suffix {text front : List Char} (shown : dropSpace text = front) :
    front <:+ text :=
  shown ▸ List.dropWhile_suffix _

/-- What is left behind the first character of a text after blanks. -/
theorem behind_suffix {text behind : List Char} {c : Char} (shown : dropSpace text = c :: behind) :
    behind <:+ text :=
  (List.suffix_cons c behind).trans (dropSpace_suffix shown)

section

variable {α σ : Type} {item : Reader α} {member : Member σ}

theorem moreItems_suffix (leaves : LeavesSuffix item) : LeavesSuffix (moreItems item) := by
  intro text values rest read
  fun_induction moreItems item text generalizing values with
  | case2 text behind closed =>
    cases read
    exact behind_suffix closed
  | case6 text behind comma first after _ _ _ taken ih =>
    obtain ⟨⟨others, last⟩, later, same⟩ := map_eq_ok_iff.1 read
    cases same
    have within : after <:+ dropSpace behind := leaves _ _ _ taken
    exact ((ih _ later).trans within).trans ((dropSpace_suffix rfl).trans (behind_suffix comma))
  | _ => cases read

theorem items_suffix (leaves : LeavesSuffix item) : LeavesSuffix (items item) := by
  intro text values rest read
  unfold items at read
  split at read
  · cases read
  next behind closed =>
    cases read
    exact behind_suffix closed
  · split at read
    · cases read
    next first after taken =>
      obtain ⟨⟨others, last⟩, later, same⟩ := map_eq_ok_iff.1 read
      cases same
      exact ((moreItems_suffix leaves _ _ _ later).trans (leaves _ _ _ taken)).trans
        (dropSpace_suffix rfl)

theorem keyed_suffix (leaves : ∀ state key, LeavesSuffix (member state key)) (state : σ) :
    LeavesSuffix (keyed member state) := by
  intro text next rest read
  unfold keyed at read
  split at read
  · split at read
    · cases read
    next key behind named =>
      exact ((leaves _ _ _ _ _ read).trans (string_suffix named)).trans (List.suffix_cons _ _)
  · cases read

theorem moreMembers_suffix (leaves : ∀ state key, LeavesSuffix (member state key)) (state : σ) :
    LeavesSuffix (moreMembers member state) := by
  intro text last rest read
  fun_induction moreMembers member state text with
  | case2 state text behind closed =>
    cases read
    exact behind_suffix closed
  | case6 state text behind comma next after _ _ _ taken ih =>
    have within : after <:+ dropSpace behind := keyed_suffix leaves _ _ _ _ taken
    exact ((ih read).trans within).trans ((dropSpace_suffix rfl).trans (behind_suffix comma))
  | _ => cases read

theorem members_suffix (leaves : ∀ state key, LeavesSuffix (member state key)) (state : σ) :
    LeavesSuffix (members member state) := by
  intro text last rest read
  unfold members at read
  split at read
  · cases read
  next behind closed =>
    cases read
    exact behind_suffix closed
  · split at read
    · cases read
    next next after taken =>
      exact ((moreMembers_suffix leaves _ _ _ _ read).trans (keyed_suffix leaves _ _ _ _ taken)).trans
        (dropSpace_suffix rfl)

end

theorem colon_suffix {text behind : List Char} (read : colon text = .ok behind) :
    behind <:+ text := by
  unfold colon at read
  split at read
  · cases read
  next found =>
    cases read
    exact behind_suffix found
  · cases read

theorem putMember_suffix {depth : Nat} (leaves : LeavesSuffix (Value.decode depth))
    (sorted : List (String × Value)) (key : String) : LeavesSuffix (putMember depth sorted key) := by
  intro text next rest read
  unfold putMember at read
  split at read
  · cases read
  next behind found =>
    obtain ⟨⟨value, after⟩, read, same⟩ := map_eq_ok_iff.1 read
    cases same
    exact (leaves _ _ _ read).trans (colon_suffix found)

theorem ValueRead.suffix {depth : Nat} {text rest : List Char} {value : Value}
    (read : ValueRead depth text value rest)
    (inner : ∀ below, depth = below + 1 → LeavesSuffix (Value.decode below)) : rest <:+ text := by
  have behind {c : Char} {text rest : List Char} (within : rest <:+ text) : rest <:+ c :: text :=
    within.trans (List.suffix_cons c text)
  cases read with
  | null word => exact behind (literal_suffix word)
  | yes word => exact behind (literal_suffix word)
  | no word => exact behind (literal_suffix word)
  | string read => exact behind (string_suffix read)
  | minus read => exact behind (number_suffix read)
  | digit digit read => exact number_suffix read
  | list deep read => exact behind (items_suffix (inner _ deep) _ _ _ read)
  | object deep read =>
    exact behind (members_suffix (putMember_suffix (inner _ deep)) _ _ _ _ read)

/-- A value leaves a suffix of its text. -/
theorem decode_suffix (depth : Nat) : LeavesSuffix (Value.decode depth) := by
  induction depth with
  | zero =>
    intro text value rest read
    exact ((decode_eq_ok_iff.1 read).suffix nofun).trans (dropSpace_suffix rfl)
  | succ depth ih =>
    intro text value rest read
    have inner : ∀ below, depth + 1 = below + 1 → LeavesSuffix (Value.decode below) := by
      rintro below deep
      cases deep
      exact ih
    exact ((decode_eq_ok_iff.1 read).suffix inner).trans (dropSpace_suffix rfl)

/-! ### Lists -/

section

variable {α : Type} {item : Reader α}

/-- What a value of a list starts with. -/
def StartsItem (text : List Char) : Prop :=
  text ≠ [] ∧ ∀ rest, text ≠ ']' :: rest

theorem nextItem_eq_none_iff {first : Bool} {text : List Char} :
    nextItem first text = .ok none ↔ ∃ rest, dropSpace text = ']' :: rest := by
  unfold nextItem
  grind

/-- The first element stands where the list opens. -/
theorem nextItem_first {text next : List Char} :
    nextItem true text = .ok (some next) ↔ next = dropSpace text ∧ StartsItem next := by
  unfold nextItem StartsItem
  grind

/-- A later element stands behind a comma. -/
theorem nextItem_later {text next : List Char} :
    nextItem false text = .ok (some next) ↔
      ∃ behind, dropSpace text = ',' :: behind ∧ next = dropSpace behind ∧ StartsItem next := by
  unfold nextItem StartsItem
  grind

/-- Elements that stand one after the other up to the closing bracket. -/
inductive Elements (item : Reader α) : Bool → List Char → List α → List Char → Prop
  | closed {first : Bool} {text rest : List Char} (shown : dropSpace text = ']' :: rest) :
      Elements item first text [] rest
  | more {first : Bool} {text next after rest : List Char} {value : α} {values : List α}
      (found : nextItem first text = .ok (some next)) (taken : item next = .ok (value, after))
      (later : Elements item false after values rest) :
      Elements item first text (value :: values) rest

/-- A list that closes has no further elements. -/
theorem Elements.of_closed {first : Bool} {text rest last : List Char} {values : List α}
    (elements : Elements item first text values last) (shown : dropSpace text = ']' :: rest) :
    values = [] ∧ last = rest := by
  cases elements with
  | closed other =>
    rw [shown] at other
    exact ⟨rfl, (List.cons.inj other).2.symm⟩
  | more found taken later =>
    have ends : nextItem first text = .ok none := nextItem_eq_none_iff.2 ⟨rest, shown⟩
    rw [found] at ends
    cases ends

theorem moreItems_eq_ok_iff (leaves : LeavesSuffix item) {text rest : List Char}
    {values : List α} :
    moreItems item text = .ok (values, rest) ↔ Elements item false text values rest := by
  constructor
  · intro read
    fun_induction moreItems item text generalizing values with
    | case2 text behind closed =>
      cases read
      exact .closed closed
    | case6 text behind comma first after _ filled unclosed taken ih =>
      obtain ⟨⟨others, last⟩, later, same⟩ := map_eq_ok_iff.1 read
      cases same
      exact .more (nextItem_later.2 ⟨behind, comma, rfl, filled, unclosed⟩) taken (ih later)
    | _ => cases read
  · intro elements
    generalize later : false = first at elements
    induction elements with
    | closed shown =>
      rw [moreItems.eq_def]
      simp only [shown]
    | @more first text next after rest value values found taken others ih =>
      subst later
      obtain ⟨behind, comma, rfl, starts⟩ := nextItem_later.1 found
      have shorter : after.length < text.length := by
        have within := (leaves _ _ _ taken).trans (dropSpace_suffix rfl)
        exact within.length_le.trans_lt (dropSpace_cons_length_lt comma)
      rw [moreItems.eq_def]
      simp only [comma]
      split
      next ended => exact absurd ended starts.1
      next tail closed => exact absurd closed (starts.2 _)
      next => simp only [taken, shorter, ↓reduceIte, ih rfl, Except.map]

theorem items_eq_ok_iff (leaves : LeavesSuffix item) {text rest : List Char} {values : List α} :
    items item text = .ok (values, rest) ↔ Elements item true text values rest := by
  unfold items
  constructor
  · intro read
    split at read
    · cases read
    next behind closed =>
      cases read
      exact .closed closed
    next filled unclosed =>
      split at read
      · cases read
      next first after taken =>
        obtain ⟨⟨others, last⟩, later, same⟩ := map_eq_ok_iff.1 read
        cases same
        exact .more (nextItem_first.2 ⟨rfl, filled, unclosed⟩) taken
          ((moreItems_eq_ok_iff leaves).1 later)
  · intro elements
    cases elements with
    | closed shown => simp only [shown]
    | more found taken others =>
      obtain ⟨rfl, starts⟩ := nextItem_first.1 found
      split
      next ended => exact absurd ended starts.1
      next tail closed => exact absurd closed (starts.2 _)
      next => simp only [taken, (moreItems_eq_ok_iff leaves).2 others, Except.map]

end

/-! ### Values of a kind -/

section

variable {depth : Nat} {text rest : List Char}

theorem decode_null_iff :
    Value.decode depth text = .ok (.null, rest) ↔
      ∃ behind, dropSpace text = 'n' :: behind ∧ literal ['u', 'l', 'l'] behind = .ok rest := by
  rw [decode_eq_ok_iff]
  generalize dropSpace text = front
  constructor
  · intro read
    cases read with
    | null word => exact ⟨_, rfl, word⟩
  · rintro ⟨behind, rfl, word⟩
    exact .null word

theorem decode_string_iff {value : String} :
    Value.decode depth text = .ok (.string value, rest) ↔
      ∃ behind, dropSpace text = '"' :: behind ∧ Json.string behind = .ok (value, rest) := by
  rw [decode_eq_ok_iff]
  generalize dropSpace text = front
  constructor
  · intro read
    cases read with
    | string read => exact ⟨_, rfl, read⟩
  · rintro ⟨behind, rfl, read⟩
    exact .string read

/-- A list is its elements, each a value that is nested less deeply. -/
theorem decode_list_iff {values : List Value} :
    Value.decode depth text = .ok (.list values, rest) ↔
      ∃ inner behind, depth = inner + 1 ∧ dropSpace text = '[' :: behind ∧
        Elements (Value.decode inner) true behind values rest := by
  rw [decode_eq_ok_iff]
  generalize dropSpace text = front
  constructor
  · intro read
    cases read with
    | @list inner behind _ _ deep read =>
      exact ⟨inner, behind, deep, rfl, (items_eq_ok_iff (decode_suffix inner)).1 read⟩
  · rintro ⟨inner, behind, deep, rfl, elements⟩
    exact .list deep ((items_eq_ok_iff (decode_suffix inner)).2 elements)

end

end BackgroundWork.Json
