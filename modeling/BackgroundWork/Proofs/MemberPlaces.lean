import BackgroundWork.Proofs.LocalReading
import BackgroundWork.Proofs.RecordReading
import Mathlib.Data.List.Perm.Basic

set_option autoImplicit false

/-!
How the members of an object fill the places of a record. A member enters the place of the first
field that its key names, if that is empty, and passes if no field is named. Two members that
enter one after the other enter in the other order too, so that order and spelling make no
difference; a field whose place is filled refuses every further member.

Main statements: `Runs.respelled`, `runs_again`.
-/

namespace BackgroundWork.Json

namespace Fields

variable {βs : List Type}

/-! ### Members and their fields -/

/-- The name of the field that takes a key, if one does. -/
def nameOf? : {βs : List Type} → Fields βs → String → Option String
  | _, .nil, _ => none
  | _, .cons field fields, key => if field.isNamed key then some field.name else fields.nameOf? key

/-- Whether a text, on its own, is a value of the field that takes the key. Where no field takes
the key any text will do. -/
def Takes : {βs : List Type} → Fields βs → String → List Char → Prop
  | _, .nil, _, _ => True
  | _, .cons field fields, key, text =>
    if field.isNamed key then ∃ value, field.codec.ofText (String.ofList text) = .ok value
    else fields.Takes key text

/-- Whether the place of the field that takes the key is filled. -/
def IsFilled : {βs : List Type} → Fields βs → Places βs → String → Prop
  | [], .nil, (), _ => False
  | _ :: _, .cons field fields, (place, places), key =>
    if field.isNamed key then place.isSome = true else fields.IsFilled places key

/-- The member with the given key and value takes the places from one filling to another. -/
def Enters (depth : Nat) (key : String) (text : List Char) :
    {βs : List Type} → Fields βs → Places βs → Places βs → Prop
  | [], .nil, (), () => True
  | _ :: _, .cons field fields, (place, places), (next, nexts) =>
    if field.isNamed key then
      place = none ∧ nexts = places ∧
        ∃ value, field.codec.decode depth text = .ok (value, []) ∧ next = some value
    else next = place ∧ fields.Enters depth key text places nexts

/-- Each field reads by the text of its value alone. -/
def AreLocal : {βs : List Type} → Fields βs → Prop
  | [], .nil => True
  | _ :: _, .cons field fields => field.codec.IsLocal ∧ fields.AreLocal

section

variable {β : Type} {field : Field β} {fields : Fields βs} {key other : String}

theorem nameOf?_mem {name : String} (named : fields.nameOf? key = some name) :
    name ∈ fields.names := by
  induction fields with
  | nil => cases named
  | cons field fields ih =>
    rw [nameOf?] at named
    split at named
    · cases named
      exact List.mem_cons_self
    · exact List.mem_cons_of_mem _ (ih named)

/-- A field that takes a key goes by another name than the later ones. -/
theorem nameOf?_ne_name (separate : (Fields.cons field fields).isSeparate = true) :
    fields.nameOf? key ≠ some field.name := by
  intro named
  rw [isSeparate, Bool.and_eq_true, List.all_eq_true] at separate
  have unlike := separate.1 field.name (nameOf?_mem named)
  simp [Field.isNamed] at unlike

theorem isSeparate_tail (separate : (Fields.cons field fields).isSeparate = true) :
    fields.isSeparate = true := by
  rw [isSeparate, Bool.and_eq_true] at separate
  exact separate.2

/-- Keys of one field name the same field at each place of the list. -/
theorem isNamed_eq_of_nameOf?_eq (separate : (Fields.cons field fields).isSeparate = true)
    (same : (Fields.cons field fields).nameOf? key = (Fields.cons field fields).nameOf? other) :
    field.isNamed key = field.isNamed other := by
  simp only [nameOf?] at same
  cases here : field.isNamed key <;> cases there : field.isNamed other
  · rfl
  · rw [here, there] at same
    exact absurd same (nameOf?_ne_name separate)
  · rw [here, there] at same
    exact absurd same.symm (nameOf?_ne_name separate)
  · rfl

end

/-! ### One member -/

section

variable {β : Type} {depth : Nat} {field : Field β} {fields : Fields βs} {key other : String}
  {text text' : List Char} {place nextPlace : Option β} {places next last : Places βs}

theorem enters_here (named : field.isNamed key = true) :
    (Fields.cons field fields).Enters depth key text (place, places) (nextPlace, next) ↔
      place = none ∧ next = places ∧
        ∃ value, field.codec.decode depth text = .ok (value, []) ∧ nextPlace = some value := by
  simp only [Enters, named, ↓reduceIte]

theorem enters_later (unlike : field.isNamed key = false) :
    (Fields.cons field fields).Enters depth key text (place, places) (nextPlace, next) ↔
      nextPlace = place ∧ fields.Enters depth key text places next := by
  simp only [Enters, unlike, Bool.false_eq_true, ↓reduceIte]

theorem isFilled_here (named : field.isNamed key = true) :
    (Fields.cons field fields).IsFilled (place, places) key ↔ place.isSome = true := by
  simp only [IsFilled, named, ↓reduceIte]

theorem isFilled_later (unlike : field.isNamed key = false) :
    (Fields.cons field fields).IsFilled (place, places) key ↔ fields.IsFilled places key := by
  simp only [IsFilled, unlike, Bool.false_eq_true, ↓reduceIte]

theorem nameOf?_later (unlike : field.isNamed key = false) :
    (Fields.cons field fields).nameOf? key = fields.nameOf? key := by
  simp only [nameOf?, unlike, Bool.false_eq_true, ↓reduceIte]

/-- A member whose key names no field leaves the places as they are. -/
theorem enters_unknown (unknown : fields.nameOf? key = none) :
    fields.Enters depth key text places places := by
  induction fields with
  | nil => trivial
  | cons field fields ih =>
    obtain ⟨place, places⟩ := places
    cases unlike : field.isNamed key with
    | true => simp [nameOf?, unlike] at unknown
    | false => exact (enters_later unlike).2 ⟨rfl, ih (nameOf?_later unlike ▸ unknown)⟩

/-- Another name of the same field does as well. -/
theorem Enters.renamed (separate : fields.isSeparate = true)
    (same : fields.nameOf? key = fields.nameOf? other)
    (enters : fields.Enters depth key text places next) :
    fields.Enters depth other text places next := by
  induction fields with
  | nil => trivial
  | cons field fields ih =>
    obtain ⟨place, places⟩ := places
    obtain ⟨nextPlace, next⟩ := next
    have named := isNamed_eq_of_nameOf?_eq separate same
    cases there : field.isNamed other with
    | true => exact (enters_here there).2 ((enters_here (named.trans there)).1 enters)
    | false =>
      have unlike := named.trans there
      obtain ⟨kept, later⟩ := (enters_later unlike).1 enters
      rw [nameOf?_later unlike, nameOf?_later there] at same
      exact (enters_later there).2 ⟨kept, ih (isSeparate_tail separate) same later⟩

/-- Two members that enter one after the other enter in the other order too. -/
theorem Enters.commute (first : fields.Enters depth key text places next)
    (second : fields.Enters depth other text' next last) :
    ∃ between, fields.Enters depth other text' places between ∧
      fields.Enters depth key text between last := by
  induction fields with
  | nil => exact ⟨(), trivial, trivial⟩
  | cons field fields ih =>
    obtain ⟨place, places⟩ := places
    obtain ⟨nextPlace, next⟩ := next
    obtain ⟨lastPlace, last⟩ := last
    cases here : field.isNamed key with
    | true =>
      obtain ⟨rfl, rfl, value, read, rfl⟩ := (enters_here here).1 first
      cases there : field.isNamed other with
      | true => exact absurd ((enters_here there).1 second).1 (Option.some_ne_none value)
      | false =>
        obtain ⟨rfl, after⟩ := (enters_later there).1 second
        exact ⟨(none, last), (enters_later there).2 ⟨rfl, after⟩,
          (enters_here here).2 ⟨rfl, rfl, value, read, rfl⟩⟩
    | false =>
      obtain ⟨rfl, before⟩ := (enters_later here).1 first
      cases there : field.isNamed other with
      | true =>
        obtain ⟨rfl, rfl, value, read, rfl⟩ := (enters_here there).1 second
        exact ⟨(some value, places), (enters_here there).2 ⟨rfl, rfl, value, read, rfl⟩,
          (enters_later here).2 ⟨rfl, before⟩⟩
      | false =>
        obtain ⟨rfl, after⟩ := (enters_later there).1 second
        obtain ⟨between, earlier, later⟩ := ih before after
        exact ⟨(lastPlace, between), (enters_later there).2 ⟨rfl, earlier⟩,
          (enters_later here).2 ⟨rfl, later⟩⟩

/-! ### Filled places -/

/-- A member that is no value of its field, or comes to a filled place, does not enter; every other
does. -/
theorem enters_iff (isLocal : fields.AreLocal) (form : Form text) :
    (∃ next, fields.Enters (depth + 1) key text places next) ↔
      fields.Takes key text ∧ ¬fields.IsFilled places key := by
  induction fields with
  | nil => exact ⟨fun _ => ⟨trivial, id⟩, fun _ => ⟨(), trivial⟩⟩
  | cons field fields ih =>
    obtain ⟨place, places⟩ := places
    obtain ⟨first, others⟩ := isLocal
    cases named : field.isNamed key with
    | true =>
      simp only [Takes, named, ↓reduceIte, isFilled_here named, Option.not_isSome_iff_eq_none]
      constructor
      · rintro ⟨⟨nextPlace, next⟩, enters⟩
        obtain ⟨rfl, rfl, value, read, rfl⟩ := (enters_here named).1 enters
        exact ⟨⟨value, (first.ofText_form form).2 read⟩, rfl⟩
      · rintro ⟨⟨value, read⟩, rfl⟩
        exact ⟨(some value, places),
          (enters_here named).2 ⟨rfl, rfl, value, (first.ofText_form form).1 read, rfl⟩⟩
    | false =>
      simp only [Takes, named, Bool.false_eq_true, ↓reduceIte, isFilled_later named, ← ih others]
      constructor
      · rintro ⟨⟨nextPlace, next⟩, enters⟩
        exact ⟨next, ((enters_later named).1 enters).2⟩
      · rintro ⟨next, enters⟩
        exact ⟨(place, next), (enters_later named).2 ⟨rfl, enters⟩⟩

/-- A member that enters fills the place of its own field and no other. -/
theorem Enters.isFilled_iff (separate : fields.isSeparate = true)
    (enters : fields.Enters depth key text places next) (other : String) :
    fields.IsFilled next other ↔
      fields.IsFilled places other ∨
        ∃ name, fields.nameOf? key = some name ∧ fields.nameOf? other = some name := by
  induction fields with
  | nil => simp [IsFilled, nameOf?]
  | cons field fields ih =>
    obtain ⟨place, places⟩ := places
    obtain ⟨nextPlace, next⟩ := next
    have distinct (key : String) : fields.nameOf? key ≠ some field.name := nameOf?_ne_name separate
    cases here : field.isNamed key with
    | true =>
      obtain ⟨rfl, rfl, value, read, rfl⟩ := (enters_here here).1 enters
      cases there : field.isNamed other with
      | true => simp [isFilled_here there, nameOf?, here, there]
      | false => simp [isFilled_later there, nameOf?, here, there, distinct other]
    | false =>
      obtain ⟨rfl, later⟩ := (enters_later here).1 enters
      cases there : field.isNamed other with
      | true => simp [isFilled_here there, nameOf?, here, there, distinct key]
      | false =>
        rw [isFilled_later there, isFilled_later there, nameOf?_later here, nameOf?_later there]
        exact ih (isSeparate_tail separate) later

end

/-! ### Members one after the other -/

/-- What becomes of members, each a key and the text of a value, that come one after the other:
all enter, or one comes to a place that is filled. -/
inductive Runs (depth : Nat) (fields : Fields βs) :
    Places βs → List (String × List Char) → Except Fault (Places βs) → Prop
  | done (places : Places βs) : Runs depth fields places [] (.ok places)
  | enter {places next : Places βs} {key : String} {text : List Char}
      {members : List (String × List Char)} {result : Except Fault (Places βs)}
      (enters : fields.Enters depth key text places next)
      (later : Runs depth fields next members result) :
      Runs depth fields places ((key, text) :: members) result
  | clash {places : Places βs} {key name : String} {text : List Char}
      {members : List (String × List Char)} (filled : fields.IsFilled places key)
      (named : fields.nameOf? key = some name) :
      Runs depth fields places ((key, text) :: members) (.error (.duplicateField name))

/-- Members that are the same but for their order, the spelling of their keys, and members that no
field takes. -/
inductive Respelled (fields : Fields βs) :
    List (String × List Char) → List (String × List Char) → Prop
  | permuted {members others : List (String × List Char)} (order : members.Perm others) :
      Respelled fields members others
  /-- The name or an alias of the same field in place of the key. -/
  | renamed (before after : List (String × List Char)) {key other name : String}
      (text : List Char) (named : fields.nameOf? key = some name)
      (alike : fields.nameOf? other = some name) :
      Respelled fields (before ++ (key, text) :: after) (before ++ (other, text) :: after)
  | inserted (before after : List (String × List Char)) {key : String} {text : List Char}
      (unknown : fields.nameOf? key = none) (form : Form text) :
      Respelled fields (before ++ after) (before ++ (key, text) :: after)
  | trans {members between others : List (String × List Char)}
      (first : Respelled fields members between) (second : Respelled fields between others) :
      Respelled fields members others

section

variable {depth : Nat} {fields : Fields βs} {places next last : Places βs} {key name : String}
  {text : List Char} {members before after others : List (String × List Char)}
  {result : Except Fault (Places βs)}

theorem runs_cons_iff :
    fields.Runs depth places ((key, text) :: members) (.ok last) ↔
      ∃ next, fields.Enters depth key text places next ∧
        fields.Runs depth next members (.ok last) := by
  constructor
  · intro runs
    cases runs with
    | enter enters later => exact ⟨_, enters, later⟩
  · rintro ⟨next, enters, later⟩
    exact .enter enters later

theorem Runs.append (first : fields.Runs depth places before (.ok next))
    (second : fields.Runs depth next after result) :
    fields.Runs depth places (before ++ after) result := by
  induction before generalizing places with
  | nil =>
    cases first
    exact second
  | cons member before ih =>
    obtain ⟨mid, enters, later⟩ := runs_cons_iff.1 first
    exact .enter enters (ih later)

theorem runs_append_iff :
    fields.Runs depth places (before ++ after) (.ok last) ↔
      ∃ next, fields.Runs depth places before (.ok next) ∧
        fields.Runs depth next after (.ok last) := by
  constructor
  · intro runs
    induction before generalizing places with
    | nil => exact ⟨places, .done places, runs⟩
    | cons member before ih =>
      obtain ⟨mid, enters, later⟩ := runs_cons_iff.1 runs
      obtain ⟨next, first, second⟩ := ih later
      exact ⟨next, .enter enters first, second⟩
  · rintro ⟨next, first, second⟩
    exact first.append second

/-- The order in which members come makes no difference. -/
theorem Runs.permuted (order : members.Perm others)
    (runs : fields.Runs depth places members (.ok last)) :
    fields.Runs depth places others (.ok last) := by
  induction order generalizing places with
  | nil => exact runs
  | cons member order ih =>
    obtain ⟨next, enters, later⟩ := runs_cons_iff.1 runs
    exact .enter enters (ih later)
  | swap first second members =>
    obtain ⟨next, entersSecond, runs⟩ := runs_cons_iff.1 runs
    obtain ⟨nexts, entersFirst, later⟩ := runs_cons_iff.1 runs
    obtain ⟨between, earlier, afterwards⟩ := entersSecond.commute entersFirst
    exact .enter earlier (.enter afterwards later)
  | trans first second ihFirst ihSecond => exact ihSecond (ihFirst runs)

/-- Members fill the same places however they are spelled. -/
theorem Runs.respelled (separate : fields.isSeparate = true)
    (respelled : fields.Respelled members others)
    (runs : fields.Runs depth places members (.ok last)) :
    fields.Runs depth places others (.ok last) := by
  induction respelled with
  | permuted order => exact runs.permuted order
  | renamed before after text named alike =>
    obtain ⟨next, first, runs⟩ := runs_append_iff.1 runs
    obtain ⟨nexts, enters, later⟩ := runs_cons_iff.1 runs
    exact first.append (.enter (enters.renamed separate (named.trans alike.symm)) later)
  | inserted before after unknown form =>
    obtain ⟨next, first, later⟩ := runs_append_iff.1 runs
    exact first.append (.enter (enters_unknown unknown) later)
  | trans first second ihFirst ihSecond => exact ihSecond (ihFirst runs)

/-- After members that all enter, the places of their fields are filled and no others are. -/
theorem Runs.isFilled_iff (separate : fields.isSeparate = true)
    (runs : fields.Runs depth places members (.ok last)) (other : String) :
    fields.IsFilled last other ↔
      fields.IsFilled places other ∨ ∃ member ∈ members, ∃ name,
        fields.nameOf? member.1 = some name ∧ fields.nameOf? other = some name := by
  induction members generalizing places with
  | nil =>
    cases runs
    simp
  | cons member members ih =>
    obtain ⟨next, enters, later⟩ := runs_cons_iff.1 runs
    rw [ih later, enters.isFilled_iff separate]
    simp only [List.mem_cons, exists_eq_or_imp, or_assoc]

/-- Members that all enter, one of them into the place of the field, come to a clash there if that
place is filled before. Until then they enter as they did. -/
theorem runs_filled (isLocal : fields.AreLocal) (separate : fields.isSeparate = true)
    (forms : ∀ member ∈ members, Form member.2) {filled : Places βs}
    (same : ∀ other, fields.IsFilled filled other ↔
      fields.IsFilled places other ∨ fields.nameOf? other = some name)
    (runs : fields.Runs (depth + 1) places members (.ok last))
    (again : ∃ member ∈ members, fields.nameOf? member.1 = some name) :
    fields.Runs (depth + 1) filled members (.error (.duplicateField name)) := by
  induction members generalizing places filled with
  | nil =>
    obtain ⟨member, among, -⟩ := again
    exact absurd among (by simp)
  | cons member members ih =>
    obtain ⟨other, text⟩ := member
    obtain ⟨form, forms⟩ := List.forall_mem_cons.1 forms
    by_cases here : fields.nameOf? other = some name
    · exact .clash ((same other).2 (.inr here)) here
    · obtain ⟨next, enters, later⟩ := runs_cons_iff.1 runs
      obtain ⟨takes, free⟩ := (enters_iff isLocal form).1 ⟨next, enters⟩
      have still : ¬fields.IsFilled filled other := by
        rw [same]
        exact not_or.2 ⟨free, here⟩
      obtain ⟨after, entersAfter⟩ := (enters_iff isLocal form).2 ⟨takes, still⟩
      refine .enter entersAfter (ih forms (fun key => ?_) later ?_)
      · rw [entersAfter.isFilled_iff separate, enters.isFilled_iff separate, same]
        exact or_right_comm
      · obtain ⟨member, among, isSame⟩ := again
        obtain rfl | among := List.mem_cons.1 among
        · exact absurd isSame here
        · exact ⟨member, among, isSame⟩

/-- A further member for a field that is given before or behind it is a clash. -/
theorem runs_again (isLocal : fields.AreLocal) (separate : fields.isSeparate = true)
    (forms : ∀ member ∈ before ++ after, Form member.2) (form : Form text)
    (named : fields.nameOf? key = some name) (takes : fields.Takes key text)
    (given : ∃ member ∈ before ++ after, fields.nameOf? member.1 = some name)
    (runs : fields.Runs (depth + 1) (Places.empty βs) (before ++ after) (.ok last)) :
    fields.Runs (depth + 1) (Places.empty βs) (before ++ (key, text) :: after)
      (.error (.duplicateField name)) := by
  obtain ⟨next, first, later⟩ := runs_append_iff.1 runs
  refine first.append ?_
  by_cases filled : fields.IsFilled next key
  · exact .clash filled named
  · obtain ⟨nexts, enters⟩ := (enters_iff isLocal form).2 ⟨takes, filled⟩
    refine .enter enters (runs_filled isLocal separate
      (fun member among => forms member (List.mem_append_right before among))
      (fun other => ?_) later ?_)
    · rw [enters.isFilled_iff separate, named]
      simp
    · obtain ⟨member, among, isSame⟩ := given
      obtain earlier | behind := List.mem_append.1 among
      · refine absurd ?_ filled
        exact (first.isFilled_iff separate key).2 (.inr ⟨member, earlier, name, isSame, named⟩)
      · exact ⟨member, behind, isSame⟩

end

end Fields

end BackgroundWork.Json
