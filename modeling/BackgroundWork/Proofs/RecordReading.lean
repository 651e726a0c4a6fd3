import BackgroundWork.Json.Record
import BackgroundWork.Proofs.CodecReading

set_option autoImplicit false

/-!
A record that is written out reads back. Each member that is read fills one place and leaves the
places before it as they were; after the last member every place holds what was written. This
needs that no member is read under the name of a later one. A record that takes no further
members refuses an object that starts with another key.

Main statement: `Record.codec_readsBack`.
-/

namespace BackgroundWork.Json

/-! ### Places that are filled -/

/-- The places that hold the given values. -/
def Places.full : {βs : List Type} → Values βs → Places βs
  | [], () => ()
  | _ :: _, (value, values) => (some value, Places.full values)

namespace Fields

/-- Whether no member is read under the name of a later one. -/
def isSeparate {βs : List Type} : Fields βs → Bool
  | .nil => true
  | .cons field fields => fields.names.all (fun name => !field.isNamed name) && fields.isSeparate

/-- What is written for each of the values reads back. -/
def ReadsBack (depth : Nat) : {βs : List Type} → Fields βs → Values βs → Prop
  | [], .nil, () => True
  | _ :: _, .cons field fields, (value, values) =>
    field.codec.ReadsBack depth value ∧ fields.ReadsBack depth values

/-- Written members, read one after the other, take the places from one filling to another. -/
inductive Fills (depth : Nat) {βs : List Type} (fields : Fields βs) :
    Places βs → List (String × List Char) → Places βs → Prop
  | nil (places : Places βs) : Fills depth fields places [] places
  | cons {places next last : Places βs} {key : String} {letters : List Char}
      {members : List (String × List Char)} {read : Reader (Places βs)}
      (named : fields.put depth places key = some read)
      (taken : ∀ rest, EndsNumber rest → read (':' :: (letters ++ rest)) = .ok (next, rest))
      (later : Fills depth fields next members last) :
      Fills depth fields places ((key, letters) :: members) last

variable {β : Type} {βs : List Type} {field : Field β} {fields : Fields βs} {depth : Nat}

/-- Members that a field is not asked for pass by its place. -/
theorem Fills.behind {first last : Places βs} {members : List (String × List Char)}
    (fills : fields.Fills depth first members last) (place : Option β)
    (unlike : ∀ member ∈ members, field.isNamed member.1 = false) :
    (Fields.cons field fields).Fills depth (place, first) members (place, last) := by
  induction fills with
  | nil places => exact .nil _
  | @cons places next last key letters members read named taken later ih =>
    obtain ⟨other, others⟩ := List.forall_mem_cons.1 unlike
    have passed : (Fields.cons field fields).put depth (place, places) key =
        some fun text => (read text).map fun reading => ((place, reading.1), reading.2) := by
      simp only [put, other, named, Bool.false_eq_true, ↓reduceIte, Option.map_some]
    refine .cons passed (fun rest ends => ?_) (ih others)
    rw [taken rest ends]
    rfl

theorem names_of_encode (fields : Fields βs) (values : Values βs) :
    ∀ member ∈ fields.encode values, member.1 ∈ fields.names := by
  induction fields with
  | nil => simp [encode]
  | cons field fields ih =>
    obtain ⟨value, values⟩ := values
    intro member written
    obtain rfl | later := List.mem_cons.1 written
    · exact List.mem_cons_self
    · exact List.mem_cons_of_mem _ (ih values member later)

/-- The members as they are written fill every place. -/
theorem encode_fills (fields : Fields βs) {values : Values βs} (separate : fields.isSeparate = true)
    (each : fields.ReadsBack depth values) :
    fields.Fills depth (Places.empty βs) (fields.encode values) (Places.full values) := by
  induction fields with
  | nil => exact .nil _
  | @cons γ βs field fields ih =>
    obtain ⟨value, values⟩ := values
    obtain ⟨first, others⟩ := each
    rw [isSeparate, Bool.and_eq_true, List.all_eq_true] at separate
    obtain ⟨other, separate⟩ := separate
    have unlike : ∀ member ∈ fields.encode values, field.isNamed member.1 = false := by
      intro member written
      simpa using other _ (names_of_encode fields values member written)
    have later := (ih separate others).behind (some value) unlike
    have named : field.isNamed field.name = true := by simp [Field.isNamed]
    refine .cons (by simp only [put, Places.empty, named, ↓reduceIte]; rfl) (fun rest ends => ?_)
      later
    have colon : colon (':' :: (field.codec.encode value ++ rest)) =
        .ok (field.codec.encode value ++ rest) := rfl
    simp only [Option.isSome_none, Bool.false_eq_true, ↓reduceIte, colon, first.reads rest ends,
      Except.map]

/-- Full places are closed without a default. -/
theorem close_full (fields : Fields βs) (values : Values βs) :
    fields.close (Places.full values) = .ok values := by
  induction fields with
  | nil => rfl
  | cons field fields ih =>
    obtain ⟨value, values⟩ := values
    simp only [close, Places.full, Option.some_or, ih, Except.map]

end Fields

/-! ### Members read one after the other -/

/-- A fault of the first member is one of the object. -/
theorem members_refused {σ : Type} {member : Member σ} {state : σ} {key : String}
    {behind : List Char} {fault : Fault} (refused : member state key behind = .error fault) :
    members member state (stringText key ++ behind) = .error fault := by
  have whole : keyed member state (stringText key ++ behind) = .error fault := by
    have key := string_written key behind
    rw [stringText, List.append_assoc, List.cons_append, List.singleton_append]
    simp only [keyed, key, refused]
  obtain ⟨letters, quoted⟩ : ∃ letters, stringText key ++ behind = '"' :: letters := ⟨_, rfl⟩
  rw [quoted] at whole ⊢
  rw [members, dropSpace_cons rfl]
  split
  · rename_i ended
    exact absurd ended (List.cons_ne_nil _ _)
  · exact absurd (List.cons.inj ‹_›).1 (by decide)
  · simp only [whole]

namespace Record

variable {α : Type} {record : Record α} {depth : Nat}

/-- What fills places, a record reads. -/
theorem membersRead_of_fills {first last : Places record.types}
    {members : List (String × List Char)}
    (fills : record.fields.Fills depth first members last) :
    MembersRead (record.member depth) first members last := by
  induction fills with
  | nil places => exact .nil places
  | cons named taken later ih =>
    refine .cons (fun rest ends => ?_) ih
    simp only [Record.member, named, taken rest ends]

theorem decode_brace (text : List Char) :
    record.codec.decode (depth + 1) ('\x7b' :: text) = record.decodeObject depth text :=
  rfl

theorem codec_isPresent : record.codec.IsPresent := by
  intro value
  simp [codec, objectText]

/-- A record reads back if its members do, no member goes by the name of a later one, and its
parts make it up again. -/
theorem codec_readsBack {value : α} (separate : record.fields.isSeparate = true)
    (whole : record.make (record.parts value) = value)
    (each : record.fields.ReadsBack depth (record.parts value)) :
    record.codec.ReadsBack (depth + 1) value where
  starts := ⟨_, _, rfl, rfl, by decide⟩
  reads rest _ := by
    have fills := record.fields.encode_fills separate each
    have filled := members_read (membersRead_of_fills fills) rest
    have closed := record.fields.close_full (record.parts value)
    show record.codec.decode (depth + 1) (objectText _ ++ rest) = _
    rw [objectText_append, decode_brace, decodeObject, filled]
    simp only [closed, Except.map, whole]

/-- A record that takes no further members refuses an object that starts with one. -/
theorem decode_refuses_unknown (closed : record.isClosed = true) {key : String}
    (unknown : record.fields.put depth (Places.empty record.types) key = none)
    (letters : List Char) (members : List (String × List Char)) :
    record.codec.decode (depth + 1) (objectText ((key, letters) :: members)) =
      .error (.unknownField key record.fields.names) := by
  obtain ⟨behind, text⟩ : ∃ behind, objectText ((key, letters) :: members) =
      '\x7b' :: (stringText key ++ behind) := by
    have text := objectText_append ((key, letters) :: members) []
    rw [List.append_nil, commaSeparated_members] at text
    exact ⟨_, text⟩
  have member : record.member depth (Places.empty record.types) key behind =
      .error (.unknownField key record.fields.names) := by
    simp only [Record.member, unknown, closed, ↓reduceIte]
  rw [text, decode_brace, decodeObject, members_refused member]

end Record
end BackgroundWork.Json
