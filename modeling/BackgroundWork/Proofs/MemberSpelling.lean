import BackgroundWork.Compression.Summary
import BackgroundWork.Proofs.MemberPlaces
import BackgroundWork.Telemetry.DeviceState

set_option autoImplicit false

/-!
The order and the spelling of the members of an object. A record is read alike from every text that
gives the same members, in any order, under any of their names, with any blanks between them and
with any further members that no field takes. A second member for one field is refused by the name
of that field, wherever it stands.

Main statements: `Record.isLenient`, `summary_and_capabilities_isLenient`.
-/

namespace BackgroundWork.Json

/-! ### One member in a text -/

/-- A member of a text with the key that its letters spell and the text of its value. -/
structure Entry.Holds (entry : Entry) (member : String × List Char) : Prop where
  spaced : entry.IsSpaced
  key : SpellsAll entry.letters member.1.toList
  value : entry.value = member.2
  form : Form member.2

/-- A member as the grammar has it. -/
structure Entry.IsForm (entry : Entry) : Prop where
  spaced : entry.IsSpaced
  key : StringForm entry.letters
  value : Form entry.value

theorem Entry.Holds.isForm {entry : Entry} {member : String × List Char}
    (holds : entry.Holds member) : entry.IsForm :=
  ⟨holds.spaced, holds.key.form, holds.value ▸ holds.form⟩

theorem Entry.Holds.isForm_all {entries : List Entry} {members : List (String × List Char)}
    (holds : List.Forall₂ Entry.Holds entries members) : ∀ entry ∈ entries, entry.IsForm := by
  induction holds with
  | nil => exact nofun
  | cons first _ ih => exact List.forall_mem_cons.2 ⟨first.isForm, ih⟩

theorem Entry.Holds.form_of_mem {entries : List Entry} {members : List (String × List Char)}
    (holds : List.Forall₂ Entry.Holds entries members) : ∀ member ∈ members, Form member.2 := by
  induction holds with
  | nil => exact nofun
  | cons first _ ih => exact List.forall_mem_cons.2 ⟨first.form, ih⟩

/-- A member of a text has one key and one value. -/
theorem Entry.Holds.unique {entry : Entry} {member other : String × List Char}
    (holds : entry.Holds member) (holds' : entry.Holds other) : member = other := by
  have first : stringChars (entry.letters ++ ['"']) = .ok (member.1.toList, []) :=
    stringChars_eq_ok_iff.2 ⟨entry.letters, rfl, holds.key⟩
  have second : stringChars (entry.letters ++ ['"']) = .ok (other.1.toList, []) :=
    stringChars_eq_ok_iff.2 ⟨entry.letters, rfl, holds'.key⟩
  have same := first.symm.trans second
  simp only [Except.ok.injEq, Prod.mk.injEq, and_true, String.toList_inj] at same
  exact Prod.ext same (holds.value.symm.trans holds'.value)

theorem Entry.Holds.unique_all {entries : List Entry} {members others : List (String × List Char)}
    (holds : List.Forall₂ Entry.Holds entries members)
    (holds' : List.Forall₂ Entry.Holds entries others) : members = others := by
  induction holds generalizing others with
  | nil =>
    cases holds'
    rfl
  | cons first _ ih =>
    cases holds' with
    | cons first' later' => rw [first.unique first', ih later']

section

variable {σ : Type} {member : Member σ} {state next : σ} {letters rest : List Char} {key : String}

theorem keyed_spelled (all : SpellsAll letters key.toList) :
    keyed member state ('"' :: (letters ++ '"' :: rest)) = member state key rest := by
  have read : stringChars (letters ++ '"' :: rest) = .ok (key.toList, rest) :=
    stringChars_eq_ok_iff.2 ⟨letters, rfl, all⟩
  simp only [keyed, Json.string, read, Except.map, String.ofList_toList]

/-- A member that is read has a key that its letters spell. -/
theorem keyed_form (spelled : StringForm letters) {other : List Char}
    (read : keyed member state ('"' :: (letters ++ '"' :: rest)) = .ok (next, other)) :
    ∃ key, SpellsAll letters key.toList ∧ member state key rest = .ok (next, other) := by
  simp only [keyed] at read
  split at read
  · cases read
  next key behind named =>
    obtain ⟨⟨chars, last⟩, quoted, same⟩ := map_eq_ok_iff.1 named
    cases same
    obtain ⟨front, shape, all⟩ := stringChars_eq_ok_iff.1 quoted
    -- Both ways of passing the string end at its closing quote.
    have here := skipString_form spelled rest
    rw [shape, skipString_form all.form] at here
    cases here
    obtain rfl := List.append_cancel_right shape
    exact ⟨String.ofList chars, by rwa [String.toList_ofList], read⟩

variable {entry : Entry} (spaced : entry.IsSpaced) {more gap : List Char}

include spaced

theorem members_entry :
    members member state (entry.text ++ more) =
      match keyed member state ('"' :: (entry.letters ++ '"' :: (entry.tail ++ more))) with
      | .error fault => .error fault
      | .ok (next, rest) => moreMembers member next rest := by
  unfold members
  rw [Entry.dropSpace_text spaced]
  rfl

theorem moreMembers_entry (blank : AllSpace gap) :
    moreMembers member state (gap ++ ',' :: (entry.text ++ more)) =
      match keyed member state ('"' :: (entry.letters ++ '"' :: (entry.tail ++ more))) with
      | .error fault => .error fault
      | .ok (next, rest) =>
        if rest.length < (gap ++ ',' :: (entry.text ++ more)).length then
          moreMembers member next rest
        else .error .expectedValue := by
  have comma : dropSpace (gap ++ ',' :: (entry.text ++ more)) = ',' :: (entry.text ++ more) := by
    rw [dropSpace_append blank, dropSpace_cons rfl]
  rw [moreMembers.eq_def]
  simp only [comma, Entry.dropSpace_text spaced]
  rfl

end

namespace Fields

/-! ### Reading a member into its place -/

/-- Takes the member with the given key into its place, or passes it over where no field takes
the key. -/
def take {βs : List Type} (depth : Nat) (fields : Fields βs) : Member (Places βs) :=
  fun places key text =>
    match fields.put depth places key with
    | some read => read text
    | none =>
      match colon text with
      | .error fault => .error fault
      | .ok rest => (skipValue rest).map fun rest => (places, rest)

variable {βs : List Type} {β : Type} {depth : Nat} {field : Field β} {fields : Fields βs}
  {key : String} {place : Option β} {places next : Places βs}

theorem take_free (named : field.isNamed key = true) {gap : List Char} (blank : AllSpace gap)
    (rest : List Char) :
    (Fields.cons field fields).take depth (none, places) key (gap ++ ':' :: rest) =
      (field.codec.decode depth rest).map fun (value, rest) => ((some value, places), rest) := by
  simp only [take, put, named, colon_shown blank, Option.isSome_none, Bool.false_eq_true,
    ↓reduceIte]

theorem take_again (named : field.isNamed key = true) (value : β) (text : List Char) :
    (Fields.cons field fields).take depth (some value, places) key text =
      .error (.duplicateField field.name) := by
  simp only [take, put, named, Option.isSome_some, ↓reduceIte]

theorem take_later (unlike : field.isNamed key = false) (text : List Char) :
    (Fields.cons field fields).take depth (place, places) key text =
      (fields.take depth places key text).map fun (places, rest) => ((place, places), rest) := by
  simp only [take, put, unlike, Bool.false_eq_true, ↓reduceIte]
  cases fields.put depth places key with
  | some read => rfl
  | none =>
    simp only [Option.map_none]
    cases colon text with
    | error fault => rfl
    | ok rest =>
      dsimp only
      cases skipValue rest <;> rfl

/-- A member of a text is taken exactly if it enters, and it is taken whole. -/
theorem take_entry_iff (isLocal : fields.AreLocal) {entry : Entry} {text : List Char}
    (holds : entry.Holds (key, text)) {more rest : List Char} (ends : EndsNumber more) :
    fields.take depth places key (entry.tail ++ more) = .ok (next, rest) ↔
      fields.Enters depth key text places next ∧ rest = entry.after ++ more := by
  obtain ⟨⟨-, behind, between, after⟩, -, rfl, form⟩ := holds
  have endsValue : EndsNumber (entry.after ++ more) := endsNumber_append after ends
  rw [Entry.tail_append]
  induction fields with
  | nil =>
    have passed := (form.passes entry.between _ between endsValue).skipValue
    simp only [take, put, colon_shown behind, passed, Except.map, Except.ok.injEq, Prod.mk.injEq,
      Enters]
    constructor
    · rintro ⟨-, rfl⟩
      exact ⟨trivial, rfl⟩
    · rintro ⟨-, rfl⟩
      exact ⟨trivial, rfl⟩
  | cons field fields ih =>
    obtain ⟨place, places⟩ := places
    obtain ⟨nextPlace, next⟩ := next
    obtain ⟨first, others⟩ := isLocal
    cases named : field.isNamed key with
    | true =>
      rw [enters_here named]
      cases place with
      | some value => simp [take_again named]
      | none =>
        simp only [take_free named behind, map_eq_ok_iff, true_and]
        constructor
        · rintro ⟨⟨value, last⟩, read, same⟩
          cases same
          obtain ⟨alone, rfl⟩ := (first.decode_form form endsValue between).1 read
          exact ⟨⟨rfl, value, alone, rfl⟩, rfl⟩
        · rintro ⟨⟨rfl, value, alone, rfl⟩, rfl⟩
          exact ⟨(value, _), (first.decode_form form endsValue between).2 ⟨alone, rfl⟩, rfl⟩
    | false =>
      rw [take_later named, enters_later named, map_eq_ok_iff]
      constructor
      · rintro ⟨⟨last, behind⟩, read, same⟩
        cases same
        obtain ⟨enters, rfl⟩ := (ih others).1 read
        exact ⟨⟨rfl, enters⟩, rfl⟩
      · rintro ⟨⟨rfl, enters⟩, rfl⟩
        exact ⟨(next, _), (ih others).2 ⟨enters, rfl⟩, rfl⟩

/-- A member that comes to a filled place is refused before its value is looked at. -/
theorem take_filled {name : String} (named : fields.nameOf? key = some name)
    (filled : fields.IsFilled places key) (text : List Char) :
    fields.take depth places key text = .error (.duplicateField name) := by
  induction fields with
  | nil => cases named
  | cons field fields ih =>
    obtain ⟨place, places⟩ := places
    cases here : field.isNamed key with
    | true =>
      rw [nameOf?, if_pos here] at named
      cases named
      obtain ⟨value, rfl⟩ := Option.isSome_iff_exists.1 ((isFilled_here here).1 filled)
      exact take_again here value text
    | false =>
      rw [nameOf?_later here] at named
      rw [take_later here, ih named ((isFilled_later here).1 filled)]
      rfl

/-! ### Reading the members of a text -/

/-- The members behind the first, with the blanks before the closing brace. -/
def further (entries : List Entry) (gap rest : List Char) : List Char :=
  (entries.map Entry.text).flatMap (fun part => ',' :: part) ++ (gap ++ '\x7d' :: rest)

theorem endsNumber_further (entries : List Entry) {gap : List Char} (blank : AllSpace gap)
    (rest : List Char) : EndsNumber (further entries gap rest) :=
  endsNumber_furtherParts (entries.map Entry.text) blank .object rest

theorem further_cons (entry : Entry) (entries : List Entry) (gap rest : List Char) :
    further (entry :: entries) gap rest = ',' :: (entry.text ++ further entries gap rest) := by
  simp [further]

/-- What is left behind a member is shorter than the text from its comma on. -/
theorem shorter_entry (entry : Entry) (before more : List Char) :
    (entry.after ++ more).length < (before ++ ',' :: (entry.text ++ more)).length := by
  simp only [Entry.text, Entry.tail, List.length_append, List.length_cons]
  omega

theorem moreMembers_closed {before gap : List Char} (blank : AllSpace before)
    (blankGap : AllSpace gap) (rest : List Char) :
    moreMembers (fields.take depth) places (before ++ further [] gap rest) =
      .ok (places, rest) := by
  have closed : dropSpace (before ++ further [] gap rest) = '\x7d' :: rest := by
    rw [further, List.map_nil, List.flatMap_nil, List.nil_append, dropSpace_append blank,
      dropSpace_append blankGap, dropSpace_cons rfl]
  rw [moreMembers.eq_def]
  simp only [closed]

/-- Reading the members of a text does what their run says. -/
theorem moreMembers_runs (isLocal : fields.AreLocal) {entries : List Entry}
    {members : List (String × List Char)} {result : Except Fault (Places βs)}
    (holds : List.Forall₂ Entry.Holds entries members)
    (runs : fields.Runs depth places members result) {before gap : List Char}
    (blank : AllSpace before) (blankGap : AllSpace gap) (rest : List Char) :
    moreMembers (fields.take depth) places (before ++ further entries gap rest) =
      result.map fun last => (last, rest) := by
  induction holds generalizing places before with
  | nil =>
    cases runs
    exact moreMembers_closed blank blankGap rest
  | @cons entry member entries members first others ih =>
    rw [further_cons, moreMembers_entry first.spaced blank, keyed_spelled first.key]
    cases runs with
    | enter enters later =>
      have taken := (take_entry_iff isLocal first (endsNumber_further entries blankGap rest)).2
        ⟨enters, rfl⟩
      simp only [taken, shorter_entry, ↓reduceIte]
      exact ih later first.spaced.after
    | clash filled named =>
      simp only [take_filled named filled]
      rfl

/-- A member of the grammar that is read has a key, and enters. -/
theorem enters_of_keyed (isLocal : fields.AreLocal) {entry : Entry} (isForm : entry.IsForm)
    {more rest : List Char} (ends : EndsNumber more)
    (read : keyed (fields.take depth) places
      ('"' :: (entry.letters ++ '"' :: (entry.tail ++ more))) = .ok (next, rest)) :
    ∃ member, entry.Holds member ∧ fields.Enters depth member.1 member.2 places next ∧
      rest = entry.after ++ more := by
  obtain ⟨key, all, taken⟩ := keyed_form isForm.key read
  have holds : entry.Holds (key, entry.value) := ⟨isForm.spaced, all, rfl, isForm.value⟩
  obtain ⟨enters, whole⟩ := (take_entry_iff isLocal holds ends).1 taken
  exact ⟨_, holds, enters, whole⟩

/-- Members of the grammar that are read all have keys, and all enter. -/
theorem runs_of_moreMembers (isLocal : fields.AreLocal) {entries : List Entry}
    (forms : ∀ entry ∈ entries, entry.IsForm) {before gap : List Char} (blank : AllSpace before)
    (blankGap : AllSpace gap) {rest other : List Char} {last : Places βs}
    (read : moreMembers (fields.take depth) places (before ++ further entries gap rest) =
      .ok (last, other)) :
    ∃ members, List.Forall₂ Entry.Holds entries members ∧
      fields.Runs depth places members (.ok last) ∧ other = rest := by
  induction entries generalizing places before with
  | nil =>
    rw [moreMembers_closed blank blankGap] at read
    cases read
    exact ⟨[], .nil, .done _, rfl⟩
  | cons entry entries ih =>
    obtain ⟨first, others⟩ := List.forall_mem_cons.1 forms
    rw [further_cons, moreMembers_entry first.spaced blank] at read
    split at read
    · cases read
    next next behind taken =>
      obtain ⟨member, holds, enters, rfl⟩ :=
        enters_of_keyed isLocal first (endsNumber_further entries blankGap rest) taken
      rw [if_pos (shorter_entry entry before _)] at read
      obtain ⟨members, holdsAll, runs, rfl⟩ := ih others first.spaced.after read
      exact ⟨member :: members, .cons holds holdsAll, .enter enters runs, rfl⟩

/-- All members of an object, from behind its opening brace. -/
def inner (entries : List Entry) (gap rest : List Char) : List Char :=
  commaSeparated (entries.map Entry.text) ++ (gap ++ '\x7d' :: rest)

theorem inner_cons (entry : Entry) (entries : List Entry) (gap rest : List Char) :
    inner (entry :: entries) gap rest = entry.text ++ further entries gap rest := by
  rw [inner, List.map_cons, commaSeparated_cons, List.append_assoc, further]

theorem members_closed {gap : List Char} (blank : AllSpace gap) (rest : List Char) :
    members (fields.take depth) places (inner [] gap rest) = .ok (places, rest) := by
  have closed : dropSpace (inner [] gap rest) = '\x7d' :: rest := by
    rw [inner, List.map_nil, commaSeparated, List.nil_append, dropSpace_append blank,
      dropSpace_cons rfl]
  unfold Json.members
  simp only [closed]

theorem members_runs (isLocal : fields.AreLocal) {entries : List Entry}
    {members : List (String × List Char)} {result : Except Fault (Places βs)}
    (holds : List.Forall₂ Entry.Holds entries members)
    (runs : fields.Runs depth places members result) {gap : List Char} (blank : AllSpace gap)
    (rest : List Char) :
    Json.members (fields.take depth) places (inner entries gap rest) =
      result.map fun last => (last, rest) := by
  cases holds with
  | nil =>
    cases runs
    exact members_closed blank rest
  | @cons entry member entries members first others =>
    rw [inner_cons, members_entry first.spaced, keyed_spelled first.key]
    cases runs with
    | enter enters later =>
      have taken := (take_entry_iff isLocal first (endsNumber_further entries blank rest)).2
        ⟨enters, rfl⟩
      simp only [taken]
      exact moreMembers_runs isLocal others later first.spaced.after blank rest
    | clash filled named =>
      simp only [take_filled named filled]
      rfl

theorem runs_of_members (isLocal : fields.AreLocal) {entries : List Entry}
    (forms : ∀ entry ∈ entries, entry.IsForm) {gap : List Char} (blank : AllSpace gap)
    {rest other : List Char} {last : Places βs}
    (read : Json.members (fields.take depth) places (inner entries gap rest) = .ok (last, other)) :
    ∃ members, List.Forall₂ Entry.Holds entries members ∧
      fields.Runs depth places members (.ok last) ∧ other = rest := by
  cases entries with
  | nil =>
    rw [members_closed blank] at read
    cases read
    exact ⟨[], .nil, .done _, rfl⟩
  | cons entry entries =>
    obtain ⟨first, others⟩ := List.forall_mem_cons.1 forms
    rw [inner_cons, members_entry first.spaced] at read
    split at read
    · cases read
    next next behind taken =>
      obtain ⟨member, holds, enters, rfl⟩ :=
        enters_of_keyed isLocal first (endsNumber_further entries blank rest) taken
      obtain ⟨members, holdsAll, runs, rfl⟩ :=
        runs_of_moreMembers isLocal others first.spaced.after blank read
      exact ⟨member :: members, .cons holds holdsAll, .enter enters runs, rfl⟩

end Fields

/-! ### Whole texts -/

/-- A text that is a JSON object, with blanks around it. -/
def IsObjectText (text : String) : Prop :=
  ∃ before entries gap after, AllSpace before ∧ AllSpace gap ∧ AllSpace after ∧
    (∀ entry ∈ entries, entry.IsForm) ∧
    text.toList = before ++ (objectOf entries gap ++ after)

/-- A text that is a JSON object with the given members, each a key and the text of a value, in
the given order. -/
def HasMembers (text : String) (members : List (String × List Char)) : Prop :=
  ∃ before entries gap after, AllSpace before ∧ AllSpace gap ∧ AllSpace after ∧
    List.Forall₂ Entry.Holds entries members ∧
    text.toList = before ++ (objectOf entries gap ++ after)

theorem HasMembers.isObjectText {text : String} {members : List (String × List Char)}
    (has : HasMembers text members) : IsObjectText text := by
  obtain ⟨before, entries, gap, after, blank, blankGap, blankAfter, holds, shape⟩ := has
  exact ⟨before, entries, gap, after, blank, blankGap, blankAfter, Entry.Holds.isForm_all holds,
    shape⟩

/-- What is written as an object has the members that were written. -/
theorem hasMembers_objectText {members : List (String × List Char)}
    (forms : ∀ member ∈ members, Form member.2) :
    HasMembers (String.ofList (objectText members)) members := by
  let entry (member : String × List Char) : Entry :=
    ⟨[], member.1.toList.flatMap stringChar, [], [], member.2, []⟩
  have holds : ∀ member ∈ members, (entry member).Holds member := fun member among =>
    ⟨⟨allSpace_nil, allSpace_nil, allSpace_nil, allSpace_nil⟩, spellsAll_flatMap _, rfl,
      forms member among⟩
  refine ⟨[], members.map entry, [], [], allSpace_nil, allSpace_nil, allSpace_nil, ?_, ?_⟩
  · exact List.forall₂_map_left_iff.2 (List.forall₂_same.2 holds)
  · simp [objectText, objectOf, entry, Entry.text, Entry.tail, memberText, stringText,
      Function.comp_def]

namespace Record

variable {α : Type} {record : Record α}

theorem member_eq_take (isOpen : record.isClosed = false) (depth : Nat) :
    record.member depth = record.fields.take depth := by
  funext places key text
  simp only [member, Fields.take, isOpen, Bool.false_eq_true, ↓reduceIte]
  cases record.fields.put depth places key with
  | some read => rfl
  | none => cases colon text <;> rfl

/-- A record is read from the text of an object from behind its opening brace. -/
theorem decode_objectText {text : String} {before gap after : List Char} {entries : List Entry}
    (blank : AllSpace before) (shape : text.toList = before ++ (objectOf entries gap ++ after)) :
    record.codec.decode depthLimit text.toList =
      record.decodeObject 126 (Fields.inner entries gap after) := by
  have opened : dropSpace text.toList = '\x7b' :: Fields.inner entries gap after := by
    rw [shape, dropSpace_append blank, objectOf, List.cons_append, dropSpace_cons rfl]
    simp [Fields.inner]
  simp only [codec, opened, depthLimit]

variable {text : String} {written : List (String × List Char)}

/-- A text is read as what its members come to. -/
theorem ofText_of_runs (isOpen : record.isClosed = false) (isLocal : record.fields.AreLocal)
    {places : Places record.types} {values : Values record.types} (has : HasMembers text written)
    (runs : record.fields.Runs 126 (Places.empty record.types) written (.ok places))
    (closed : record.fields.close places = .ok values) :
    record.codec.ofText text = .ok (record.make values) := by
  obtain ⟨before, entries, gap, after, blank, blankGap, blankAfter, holds, shape⟩ := has
  refine decodeWith_eq_ok_iff.2 ⟨after, ?_, blankAfter⟩
  rw [decode_objectText blank shape, decodeObject, member_eq_take isOpen,
    Fields.members_runs isLocal holds runs blankGap]
  simp only [Except.map, closed]

/-- A text whose members clash is refused. -/
theorem ofText_of_clash (isOpen : record.isClosed = false) (isLocal : record.fields.AreLocal)
    {fault : Fault} (has : HasMembers text written)
    (runs : record.fields.Runs 126 (Places.empty record.types) written (.error fault)) :
    record.codec.ofText text = .error fault := by
  obtain ⟨before, entries, gap, after, blank, blankGap, blankAfter, holds, shape⟩ := has
  have refused : record.codec.decode depthLimit text.toList = .error fault := by
    rw [decode_objectText blank shape, decodeObject, member_eq_take isOpen,
      Fields.members_runs isLocal holds runs blankGap]
    rfl
  simp only [Codec.ofText, decodeWith, refused]

/-- The members of a text that is read have keys, and the text is read as what they come to. -/
theorem runs_of_ofText (isOpen : record.isClosed = false) (isLocal : record.fields.AreLocal)
    {before gap after : List Char} {entries : List Entry} (blank : AllSpace before)
    (blankGap : AllSpace gap) (forms : ∀ entry ∈ entries, entry.IsForm)
    (shape : text.toList = before ++ (objectOf entries gap ++ after)) {value : α}
    (read : record.codec.ofText text = .ok value) :
    ∃ members places values, List.Forall₂ Entry.Holds entries members ∧
      record.fields.Runs 126 (Places.empty record.types) members (.ok places) ∧
      record.fields.close places = .ok values ∧ record.make values = value := by
  obtain ⟨rest, read, -⟩ := decodeWith_eq_ok_iff.1 read
  rw [decode_objectText blank shape, decodeObject, member_eq_take isOpen] at read
  split at read
  · cases read
  next places behind taken =>
    obtain ⟨values, closed, same⟩ := map_eq_ok_iff.1 read
    cases same
    obtain ⟨members, holds, runs, -⟩ := Fields.runs_of_members isLocal forms blankGap taken
    exact ⟨members, places, values, holds, runs, closed, rfl⟩

/-- Whether a record is read from a JSON object by the members alone. The object has members, if it
is read at all. Any text with the same members, in any order and under any names of their fields,
and with any further members that no field takes, is read as the same value; and a further member
for a field that is given already, whatever its spelling and wherever it stands, is refused with
the name of the field. -/
def IsLenient (record : Record α) : Prop :=
  ∀ text value, IsObjectText text → record.codec.ofText text = .ok value →
    (∃ members, HasMembers text members) ∧
      ∀ members, HasMembers text members →
        (∀ others text', record.fields.Respelled members others → HasMembers text' others →
          record.codec.ofText text' = .ok value) ∧
        (∀ before after key name added text', members = before ++ after →
          (∃ member ∈ members, record.fields.nameOf? member.1 = some name) →
          record.fields.nameOf? key = some name → Form added → record.fields.Takes key added →
          HasMembers text' (before ++ (key, added) :: after) →
          record.codec.ofText text' = .error (.duplicateField name))

/-- A record that takes further members is read by its members alone, if each of them is read by
the text of its value and no two go by one name. -/
theorem isLenient (isOpen : record.isClosed = false) (isLocal : record.fields.AreLocal)
    (separate : record.fields.isSeparate = true) : record.IsLenient := by
  intro text value object read
  constructor
  · obtain ⟨before, entries, gap, after, blank, blankGap, blankAfter, forms, shape⟩ := object
    obtain ⟨members, -, -, holds, -⟩ :=
      runs_of_ofText isOpen isLocal blank blankGap forms shape read
    exact ⟨members, before, entries, gap, after, blank, blankGap, blankAfter, holds, shape⟩
  · intro members has
    have ⟨before, entries, gap, after, blank, blankGap, blankAfter, holds, shape⟩ := has
    obtain ⟨found, places, values, holdsFound, runs, closed, rfl⟩ :=
      runs_of_ofText isOpen isLocal blank blankGap (Entry.Holds.isForm_all holds) shape read
    obtain rfl := Entry.Holds.unique_all holdsFound holds
    constructor
    · intro others text' respelled hasOthers
      exact ofText_of_runs isOpen isLocal hasOthers (runs.respelled separate respelled) closed
    · rintro earlier later key name added text' rfl given named form takes hasMore
      exact ofText_of_clash isOpen isLocal hasMore (Fields.runs_again isLocal separate
        (Entry.Holds.form_of_mem holds) form named takes given runs)

end Record

end BackgroundWork.Json

/-! ### Summaries and capabilities -/

namespace BackgroundWork

open Json

theorem summary_areLocal : Compression.Summary.record.fields.AreLocal :=
  ⟨Codec.option_isLocal Codec.string_isLocal, Codec.int64_isLocal, Codec.int64_isLocal,
    Codec.binary_isLocal _ _, Codec.option_isLocal Codec.string_isLocal,
    Codec.option_isLocal (Enumeration.codec_isLocal _), Codec.option_isLocal Codec.int64_isLocal,
    trivial⟩

theorem capabilities_areLocal : Telemetry.DeviceCapabilities.record.fields.AreLocal :=
  ⟨Codec.string_isLocal, Codec.word_isLocal _, Codec.word_isLocal _,
    Codec.list_isLocal Codec.string_isLocal fun _ _ _ => rfl, trivial⟩

/-- The summaries and the capabilities that the engine sends are read by their members alone,
however these are ordered and spelled, and a member that is given twice is refused by its name. -/
theorem summary_and_capabilities_isLenient :
    Compression.Summary.record.IsLenient ∧ Telemetry.DeviceCapabilities.record.IsLenient :=
  ⟨Record.isLenient rfl summary_areLocal (by decide),
    Record.isLenient rfl capabilities_areLocal (by decide)⟩

/-- Capabilities that are given under another name and behind a member that no field takes, and
capabilities with one member under two names. -/
theorem capabilities_isLenient_respelled :
    Telemetry.DeviceCapabilities.record.codec.ofText (String.ofList
        (objectText [("label", nullText), ("device_type", stringText "phone")])) =
      .ok ⟨"phone", 0, 0, []⟩ ∧
    Telemetry.DeviceCapabilities.record.codec.ofText (String.ofList
        (objectText [("device_type", stringText "tablet"), ("deviceType", stringText "phone")])) =
      .error (.duplicateField "device_type") := by
  have quoted (text : String) : Form (stringText text) := .string (spellsAll_flatMap _).form
  have forms : ∀ member ∈ [("deviceType", stringText "phone")], Form member.2 := by
    simp [quoted]
  have has := hasMembers_objectText forms
  have read : Telemetry.DeviceCapabilities.record.codec.ofText (String.ofList
      (objectText [("deviceType", stringText "phone")])) = .ok ⟨"phone", 0, 0, []⟩ := by
    decide +kernel
  obtain ⟨respelled, twice⟩ :=
    (summary_and_capabilities_isLenient.2 _ _ has.isObjectText read).2 _ has
  constructor
  · refine respelled _ _ (.trans (.renamed [] [] _ rfl rfl) (.inserted [] _ rfl .null))
      (hasMembers_objectText ?_)
    simp [quoted, Form.null]
  · refine twice [] _ "device_type" "device_type" (stringText "tablet") _ rfl
      ⟨_, List.mem_cons_self, rfl⟩ rfl (quoted _) ?_ (hasMembers_objectText ?_)
    · have tablet : Codec.string.ReadsBack depthLimit "tablet" := Codec.string_readsBack "tablet"
      exact ⟨"tablet", tablet.ofText_render⟩
    · simp [quoted]

end BackgroundWork
