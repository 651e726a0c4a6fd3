import BackgroundWork.Json.Record
import BackgroundWork.Proofs.ValueReading

set_option autoImplicit false

/-!
What typed reading has to do with JSON values. A codec reads some of the values, each as what it
means, and leaves the same text behind. A record is read from a list too, element by element, and
the members that the list is too short for take their defaults.

Main statement: `Record.codec_ofText_listed`.
-/

namespace BackgroundWork.Json

/-! ### Codecs -/

namespace Codec

variable {α : Type} {codec : Codec α} {means : Value → α → Prop}

/-- Which values a codec reads, and what each of them means. -/
def Reads (codec : Codec α) (means : Value → α → Prop) : Prop :=
  ∀ depth text meant rest, codec.decode depth text = .ok (meant, rest) ↔
    ∃ value, Value.decode depth text = .ok (value, rest) ∧ means value meant

theorem value_reads : value.Reads Eq := by
  intro depth text meant rest
  simp [value]

theorem string_reads : string.Reads fun value text => value = .string text := by
  intro depth text meant rest
  simp only [exists_eq_right, decode_string_iff]
  unfold string decodeString
  constructor
  · intro read
    simp only at read
    split at read
    next behind quoted => exact ⟨behind, quoted, read⟩
    · cases read
  · rintro ⟨behind, quoted, read⟩
    simp only [quoted, read]

/-- What a value means that may be the empty one. -/
def Optional (means : Value → α → Prop) (value : Value) : Option α → Prop
  | none => value = .null
  | some meant => value ≠ .null ∧ means value meant

theorem option_reads (reads : codec.Reads means) : codec.option.Reads (Optional means) := by
  intro depth text meant rest
  constructor
  · intro read
    unfold option at read
    simp only at read
    split at read
    next behind empty =>
      obtain ⟨after, word, same⟩ := map_eq_ok_iff.1 read
      cases same
      exact ⟨.null, decode_null_iff.2 ⟨behind, empty, word⟩, rfl⟩
    next filled =>
      obtain ⟨⟨held, after⟩, taken, same⟩ := map_eq_ok_iff.1 read
      cases same
      obtain ⟨value, read, means⟩ := (reads _ _ _ _).1 taken
      rw [decode_dropSpace] at read
      refine ⟨value, read, ?_, means⟩
      rintro rfl
      obtain ⟨behind, empty, -⟩ := decode_null_iff.1 read
      exact filled behind empty
  · rintro ⟨value, read, means⟩
    unfold option
    simp only
    cases meant with
    | none =>
      obtain rfl := means
      obtain ⟨behind, empty, word⟩ := decode_null_iff.1 read
      simp only [empty]
      exact map_eq_ok_iff.2 ⟨_, word, rfl⟩
    | some meant =>
      obtain ⟨filled, means⟩ := means
      split
      next behind empty =>
        have how := decode_eq_ok_iff.1 read
        rw [empty] at how
        cases how with
        | null word => exact absurd rfl filled
        | digit digit read => exact absurd digit (by decide)
      next =>
        have read : codec.decode depth (dropSpace text) = .ok (meant, rest) :=
          (reads _ _ _ _).2 ⟨value, by rw [decode_dropSpace]; exact read, means⟩
        exact map_eq_ok_iff.2 ⟨_, read, rfl⟩

end Codec

/-! ### Records as lists -/

/-- What a value means, for each member. -/
@[reducible] def Meanings : List Type → Type
  | [] => Unit
  | β :: βs => (Value → β → Prop) × Meanings βs

namespace Fields

/-- Each member reads the values that mean something for it. -/
def Reads : {βs : List Type} → Fields βs → Meanings βs → Prop
  | [], .nil, () => True
  | _ :: _, .cons field fields, (means, meanings) => field.codec.Reads means ∧ fields.Reads meanings

/-- What the elements of a list mean for the members, in order. A member behind the last element
takes its default. -/
def Lists : {βs : List Type} → Fields βs → Meanings βs → List Value → Values βs → Prop
  | [], .nil, (), values, () => values = []
  | _ :: _, .cons field fields, (_, meanings), [], (part, parts) =>
    field.absent = some part ∧ fields.Lists meanings [] parts
  | _ :: _, .cons _ fields, (means, meanings), value :: values, (part, parts) =>
    means value part ∧ fields.Lists meanings values parts

theorem endList_eq_ok_iff {text rest : List Char} :
    endList text = .ok rest ↔ dropSpace text = ']' :: rest := by
  unfold endList
  grind

theorem ofList_eq_ok_iff {βs : List Type} {fields : Fields βs} {meanings : Meanings βs}
    (each : fields.Reads meanings) (record : String) (size depth count : Nat)
    {text last : List Char} {parts : Values βs} :
    (∃ rest, fields.ofList record size depth count text = .ok (parts, rest) ∧
        endList rest = .ok last) ↔
      ∃ values, Elements (Value.decode depth) (count == 0) text values last ∧
        fields.Lists meanings values parts := by
  induction fields generalizing count text with
  | nil =>
    constructor
    · rintro ⟨rest, read, ended⟩
      cases read
      exact ⟨[], .closed (endList_eq_ok_iff.1 ended), rfl⟩
    · rintro ⟨values, elements, rfl⟩
      cases elements with
      | closed shown => exact ⟨text, rfl, endList_eq_ok_iff.2 shown⟩
  | @cons β βs field fields ih =>
    obtain ⟨means, meanings⟩ := meanings
    obtain ⟨part, parts⟩ := parts
    obtain ⟨reads, each⟩ := each
    rw [ofList]
    constructor
    · rintro ⟨rest, read, ended⟩
      split at read
      · cases read
      next closed =>
        obtain ⟨tail, shown⟩ := nextItem_eq_none_iff.1 closed
        split at read
        · cases read
        next default absent =>
          obtain ⟨⟨others, after⟩, later, same⟩ := map_eq_ok_iff.1 read
          cases same
          obtain ⟨values, elements, lists⟩ := (ih each (count + 1)).1 ⟨_, later, ended⟩
          obtain ⟨rfl, rfl⟩ := elements.of_closed shown
          exact ⟨[], .closed shown, absent, lists⟩
      next next found =>
        split at read
        · cases read
        next first behind taken =>
          obtain ⟨⟨others, after⟩, later, same⟩ := map_eq_ok_iff.1 read
          cases same
          obtain ⟨value, taken, meant⟩ := (reads _ _ _ _).1 taken
          obtain ⟨values, elements, lists⟩ := (ih each (count + 1)).1 ⟨_, later, ended⟩
          exact ⟨value :: values, .more found taken elements, meant, lists⟩
    · rintro ⟨values, elements, lists⟩
      cases elements with
      | closed shown =>
        obtain ⟨absent, lists⟩ := lists
        obtain ⟨rest, later, ended⟩ := (ih each (count + 1)).2 ⟨[], .closed shown, lists⟩
        refine ⟨rest, ?_, ended⟩
        simp only [nextItem_eq_none_iff.2 ⟨_, shown⟩, absent, later, Except.map]
      | more found taken others =>
        obtain ⟨meant, lists⟩ := lists
        obtain ⟨rest, later, ended⟩ := (ih each (count + 1)).2 ⟨_, others, lists⟩
        refine ⟨rest, ?_, ended⟩
        simp only [found, (reads _ _ _ _).2 ⟨_, taken, meant⟩, later, Except.map]

end Fields

namespace Record

variable {α : Type} {record : Record α}

theorem codec_listed {meanings : Meanings record.types} (each : record.fields.Reads meanings)
    {depth : Nat} {text rest : List Char} {meant : α}
    (unlike : (dropSpace text).head? ≠ some '\x7b') :
    record.codec.decode depth text = .ok (meant, rest) ↔
      ∃ values parts, Value.decode depth text = .ok (.list values, rest) ∧
        record.fields.Lists meanings values parts ∧ meant = record.make parts := by
  simp only [decode_list_iff]
  unfold codec
  constructor
  · intro read
    simp only at read
    split at read
    next behind opened =>
      split at read
      · cases read
      next inner =>
        unfold decodeList at read
        split at read
        · cases read
        next parts after taken =>
          obtain ⟨last, ended, same⟩ := map_eq_ok_iff.1 read
          cases same
          obtain ⟨values, elements, lists⟩ :=
            (Fields.ofList_eq_ok_iff each _ _ inner 0).1 ⟨_, taken, ended⟩
          exact ⟨values, parts, ⟨inner, behind, rfl, opened, elements⟩, lists, rfl⟩
    next behind opened => exact absurd (by rw [opened]; rfl) unlike
    · cases read
  · rintro ⟨values, parts, ⟨inner, behind, rfl, opened, elements⟩, lists, rfl⟩
    obtain ⟨after, taken, ended⟩ :=
      (Fields.ofList_eq_ok_iff each record.name record.fields.size inner 0).2
        ⟨values, elements, lists⟩
    simp only [opened, decodeList, taken, ended, Except.map]

/-- A text that opens no brace is read as a record exactly if it is a list whose elements mean
something for the members. -/
theorem codec_ofText_listed {meanings : Meanings record.types}
    (each : record.fields.Reads meanings) {text : String} {meant : α}
    (unlike : (dropSpace text.toList).head? ≠ some '\x7b') :
    record.codec.ofText text = .ok meant ↔
      ∃ values parts, Value.ofText text = .ok (.list values) ∧
        record.fields.Lists meanings values parts ∧ meant = record.make parts := by
  simp only [Codec.ofText, Value.ofText, decodeWith_eq_ok_iff]
  constructor
  · rintro ⟨after, taken, blank⟩
    obtain ⟨values, parts, read, lists, rfl⟩ := (codec_listed each unlike).1 taken
    exact ⟨values, parts, ⟨after, read, blank⟩, lists, rfl⟩
  · rintro ⟨values, parts, ⟨after, read, blank⟩, lists, rfl⟩
    exact ⟨after, (codec_listed each unlike).2 ⟨values, parts, read, lists, rfl⟩, blank⟩

end Record
end BackgroundWork.Json
