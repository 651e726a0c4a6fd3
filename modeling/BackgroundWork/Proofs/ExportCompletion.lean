import BackgroundWork.Export.AtEngine
import BackgroundWork.Proofs.ClientRuns
import BackgroundWork.Proofs.ExportTraffic
import BackgroundWork.Proofs.JsonReading

set_option autoImplicit false

/-!
What an export leaves behind, whatever the engine answers. On each way through an export the end
decides what was done to the selection and what was shown to the user, and the job was submitted
with the very path that the end names. Main statement: the selection is cleared and the file shown
exactly by the exports that completed and wrote records, and nothing is done for an empty selection.
-/

namespace BackgroundWork.Export

open Engine (Invocation invocation? Bridge.interface)
open Json (Value Written depthLimit)
open Program (Goes Spelled goes_done goes_ask)

/-! ### Requests -/

/-- The options as they read back. -/
def CsvOptions.written {depth : Nat} (options : CsvOptions) : Written (depth + 1) :=
  .object [
    ("delimiter", .natural options.delimiter.toNat
      (by have := options.delimiter.toNat_lt; omega)),
    ("quote_char", .natural options.quoteChar.toNat
      (by have := options.quoteChar.toNat_lt; omega)),
    ("escape_char", options.escapeChar.elim .null fun char =>
      .natural char.toNat (by have := char.toNat_lt; omega)),
    ("compress", .bool options.compress)]

/-- The options as they read back. -/
def ParquetOptions.written {depth : Nat} (options : ParquetOptions) : Written (depth + 1) :=
  .object [("compression", .string options.compression.name),
    ("row_group_size", .natural options.rowGroupSize.toNat options.rowGroupSize.toNat_lt),
    ("enable_statistics", .bool options.enableStatistics)]

/-- A format as it reads back. -/
def Format.written {depth : Nat} : Format → Written (depth + 3)
  | jsonLines => .string "jsonLines"
  | csv options => .object [("csv", .object [("_0", options.written)])]
  | parquet options => .object [("parquet", .object [("_0", options.written)])]

theorem Format.written_text {depth : Nat} (format : Format) :
    (format.written : Written (depth + 3)).text = format.encode := by
  cases format with
  | jsonLines => rfl
  | csv options => cases options with | mk delimiter quote escape compress => cases escape <;> rfl
  | parquet options => rfl

namespace Request

/-- A request as it reads back. -/
def written (request : Request) : Written depthLimit :=
  .object [("ids", .list (request.ids.map .string)),
    ("include_blobs", .bool request.includeBlobs),
    ("target_path", .string request.targetPath),
    ("format", request.format.written)]

theorem written_text (request : Request) : request.written.text = request.options := by
  have ids : (request.ids.map (Written.string : String → Written 125)).map (·.text) =
      request.ids.map Json.stringText := by
    rw [List.map_map]
    rfl
  have format : (request.format.written : Written 126).text = request.format.encode :=
    request.format.written_text
  unfold options
  rw [← ids, ← format]
  rfl

theorem ofText_options (request : Request) :
    ∃ value, Value.ofText (String.ofList request.options) = .ok value ∧
      value.get? "target_path" = some (.string request.targetPath) := by
  refine ⟨request.written.value, ?_, ?_⟩
  · rw [← written_text]
    exact request.written.ofText
  · refine Value.get?_ofMembers ?_
      (List.mem_cons_of_mem _ (List.mem_cons_of_mem _ (List.mem_cons_self ..)))
    exact (by decide : ["ids", "include_blobs", "target_path", "format"].Nodup)

end Request

/-! ### Ways through an export -/

/-- What was asked for on the way, with its answer. -/
abbrev Process.Event := (Surroundings.interface.sum Capability.interface).Event

/-- What was asked for on the way of an export whose job runs in the engine. -/
abbrev EngineEvent := (Surroundings.interface.sum Bridge.interface).Event

/-- What was asked of the surroundings, in order. -/
def outward {J : Interface} (events : List (Surroundings.interface.sum J).Event) :
    List Surroundings.Op :=
  events.filterMap fun event =>
    match event.op with
    | .inl op => some op
    | .inr _ => none

/-- What was asked of whatever runs the job, in order. -/
def about (events : List Process.Event) : List Capability.Op :=
  events.filterMap fun event =>
    match event.op with
    | .inl _ => none
    | .inr op => some op

/-- How a job is followed to its end. -/
inductive Following (path : String) : List Process.Event → Except ServiceError Outcome → Prop
  | exported (job : Uuid) (total : Int64) :
      Following path [⟨.inl .clearSelection, ()⟩, ⟨.inl (.reveal path), ()⟩]
        (.ok (.exported job path total))
  | noRecords (job : Uuid) :
      Following path [⟨.inl .clearSelection, ()⟩] (.ok (.noRecordsExported job path))
  | failed (error : ServiceError) : Following path [] (.error error)
  | unchecked (phase : Phase) (intervalMs : Nat) (job : Uuid) (error : ServiceError) :
      Following path [⟨.inl (.publish phase), ()⟩, ⟨.inl (.sleep intervalMs), ()⟩,
        ⟨.inr (.poll job), .error error⟩] (.error error)
  | checked (phase : Phase) (intervalMs : Nat) (job : Uuid) (next : Job)
      {later : List Process.Event} {result : Except ServiceError Outcome}
      (rest : Following path later result) :
      Following path (⟨.inl (.publish phase), ()⟩ :: ⟨.inl (.sleep intervalMs), ()⟩ ::
        ⟨.inr (.poll job), .ok next⟩ :: later) result

section

variable {path : String} {events : List Process.Event} {result : Except ServiceError Outcome}

theorem goes_finish {job : Job} (goes : Goes (Process.finish path job) events result) :
    Following path events result := by
  obtain ⟨answer, later, rfl, rest⟩ := goes_ask.1 goes
  cases held : job.totalEntities with
  | none =>
    simp only [held] at rest
    obtain ⟨rfl, rfl⟩ := goes_done.1 rest
    exact .noRecords job.id
  | some total =>
    simp only [held] at rest
    by_cases positive : 0 < total
    · rw [if_pos positive] at rest
      obtain ⟨shown, last, rfl, ended⟩ := goes_ask.1 rest
      obtain ⟨rfl, rfl⟩ := goes_done.1 ended
      exact .exported job.id total
    · rw [if_neg positive] at rest
      obtain ⟨rfl, rfl⟩ := goes_done.1 rest
      exact .noRecords job.id

theorem goes_follow {intervalMs left : Nat} {attempts : UInt32} {job : Job}
    (goes : Goes (Process.follow intervalMs path attempts left job) events result) :
    Following path events result := by
  -- Induction on the checks that are left. Only a job that is not done uses one up.
  induction left generalizing attempts job events with
  | zero =>
    unfold Process.follow at goes
    cases status : job.status with
    | completed =>
      simp only [status] at goes
      exact goes_finish goes
    | failed | requested | inProgress =>
      simp only [status] at goes
      obtain ⟨rfl, rfl⟩ := goes_done.1 goes
      exact .failed _
  | succ left ih =>
    unfold Process.follow at goes
    cases status : job.status with
    | completed =>
      simp only [status] at goes
      exact goes_finish goes
    | failed =>
      simp only [status] at goes
      obtain ⟨rfl, rfl⟩ := goes_done.1 goes
      exact .failed _
    | requested | inProgress =>
      simp only [status] at goes
      obtain ⟨published, afterPublish, rfl, sleeps⟩ := goes_ask.1 goes
      obtain ⟨slept, afterSleep, rfl, polls⟩ := goes_ask.1 sleeps
      obtain ⟨answer, later, rfl, rest⟩ := goes_ask.1 polls
      cases answer with
      | error error =>
        obtain ⟨rfl, rfl⟩ := goes_done.1 rest
        exact .unchecked _ _ _ error
      | ok next => exact .checked _ _ _ next (ih rest)

end

/-- How an export goes that was let in. -/
inductive Starting (assignment : Assignment) :
    List Process.Event → Except ServiceError Outcome → Prop
  | uncreated (stamp message : String) :
      Starting assignment [⟨.inl .stamp, stamp⟩,
        ⟨.inl (.createDirectory (Path.directory assignment.documents assignment.domain)),
          .error message⟩] (.error (.io message))
  | unsubmitted (stamp : String) (error : ServiceError) :
      Starting assignment [⟨.inl .stamp, stamp⟩,
        ⟨.inl (.createDirectory (Path.directory assignment.documents assignment.domain)), .ok ()⟩,
        ⟨.inl (.publish .submitting), ()⟩,
        ⟨.inr (.submit (assignment.request stamp)), .error error⟩] (.error error)
  | followed (stamp : String) (job : Job) {later : List Process.Event}
      {result : Except ServiceError Outcome}
      (rest : Following (assignment.path stamp) later result) :
      Starting assignment (⟨.inl .stamp, stamp⟩ ::
        ⟨.inl (.createDirectory (Path.directory assignment.documents assignment.domain)), .ok ()⟩ ::
        ⟨.inl (.publish .submitting), ()⟩ ::
        ⟨.inr (.submit (assignment.request stamp)), .ok job⟩ :: later) result

theorem goes_start {settings : PollSettings} {assignment : Assignment}
    {events : List Process.Event} {result : Except ServiceError Outcome}
    (goes : Goes (Process.start settings assignment) events result) :
    Starting assignment events result := by
  obtain ⟨stamp, afterStamp, rfl, creates⟩ := goes_ask.1 goes
  obtain ⟨created, afterCreation, rfl, submits⟩ := goes_ask.1 creates
  cases created with
  | error message =>
    obtain ⟨rfl, rfl⟩ := goes_done.1 submits
    exact .uncreated stamp message
  | ok _ =>
    obtain ⟨published, afterPublish, rfl, submission⟩ := goes_ask.1 submits
    obtain ⟨answer, later, rfl, rest⟩ := goes_ask.1 submission
    cases answer with
    | error error =>
      obtain ⟨rfl, rfl⟩ := goes_done.1 rest
      exact .unsubmitted stamp error
    | ok job => exact .followed stamp job (goes_follow rest)

/-! ### What is left behind -/

/-- The selection after what an export asked for. -/
def Selection.after (selection : Selection) (ops : List Surroundings.Op) : Selection :=
  if .clearSelection ∈ ops then .empty else selection

/-- The files that are shown to the user. -/
def revealed (ops : List Surroundings.Op) : List String :=
  ops.filterMap fun
    | .reveal path => some path
    | _ => none

/-- The file that an export names at its end, if its job completed. -/
def completed? : Except ServiceError Outcome → Option String
  | .ok (.exported _ path _) | .ok (.noRecordsExported _ path) => some path
  | .ok .noSelection | .error _ => none

/-- The file that an export names at its end, if it wrote records. -/
def exported? : Except ServiceError Outcome → Option String
  | .ok (.exported _ path _) => some path
  | .ok (.noRecordsExported ..) | .ok .noSelection | .error _ => none

/-- The end of an export agrees with what was done on the way. -/
structure Settled (path : String) (result : Except ServiceError Outcome)
    (ops : List Surroundings.Op) : Prop where
  cleared : .clearSelection ∈ ops ↔ (completed? result).isSome
  shown : revealed ops = (exported? result).toList
  named : ∀ file, completed? result = some file → file = path

section

variable {path : String} {result : Except ServiceError Outcome} {ops : List Surroundings.Op}

theorem settled_of_error (error : ServiceError) : Settled path (.error error) [] where
  cleared := by simp [completed?]
  shown := rfl
  named := nofun

theorem Settled.behind (settled : Settled path result ops) (first : List Surroundings.Op)
    (keeps : .clearSelection ∉ first) (hides : revealed first = []) :
    Settled path result (first ++ ops) where
  cleared := by rw [List.mem_append, ← settled.cleared, or_iff_right keeps]
  shown := by
    rw [← settled.shown, ← List.nil_append (revealed ops), ← hides]
    exact List.filterMap_append
  named := settled.named

theorem Following.settled {events : List Process.Event}
    (following : Following path events result) : Settled path result (outward events) := by
  induction following with
  | exported job total =>
    refine ⟨iff_of_true (List.mem_cons_self ..) rfl, rfl, fun file same => ?_⟩
    exact (Option.some.inj same).symm
  | noRecords job =>
    refine ⟨iff_of_true (List.mem_cons_self ..) rfl, rfl, fun file same => ?_⟩
    exact (Option.some.inj same).symm
  | failed error => exact settled_of_error error
  | unchecked phase intervalMs job error =>
    exact (settled_of_error error).behind [.publish phase, .sleep intervalMs] (by simp) rfl
  | checked phase intervalMs job next rest ih =>
    exact ih.behind [.publish phase, .sleep intervalMs] (by simp) rfl

theorem Following.polls {events : List Process.Event}
    (following : Following path events result) :
    ∀ op ∈ about events, ∃ job, op = .poll job := by
  induction following with
  | exported job total => exact nofun
  | noRecords job => exact nofun
  | failed error => exact nofun
  | unchecked phase intervalMs job error => exact List.forall_mem_cons.2 ⟨⟨job, rfl⟩, nofun⟩
  | checked phase intervalMs job next rest ih => exact List.forall_mem_cons.2 ⟨⟨job, rfl⟩, ih⟩

end

/-- An export submits one job, under the path that its end names, and then only checks it. -/
theorem Starting.settled {assignment : Assignment} {events : List Process.Event}
    {result : Except ServiceError Outcome} (starting : Starting assignment events result) :
    ∃ stamp, Settled (assignment.path stamp) result (outward events) ∧
      ((∃ checks, about events = .submit (assignment.request stamp) :: checks ∧
        ∀ op ∈ checks, ∃ job, op = .poll job) ∨
      about events = [] ∧ completed? result = none) := by
  let directory := Path.directory assignment.documents assignment.domain
  cases starting with
  | uncreated stamp message =>
    exact ⟨stamp, (settled_of_error _).behind [.stamp, .createDirectory directory] (by simp) rfl,
      .inr ⟨rfl, rfl⟩⟩
  | unsubmitted stamp error =>
    exact ⟨stamp, (settled_of_error error).behind
      [.stamp, .createDirectory directory, .publish .submitting] (by simp) rfl,
      .inl ⟨[], rfl, nofun⟩⟩
  | followed stamp job rest =>
    exact ⟨stamp, rest.settled.behind
      [.stamp, .createDirectory directory, .publish .submitting] (by simp) rfl,
      .inl ⟨_, rfl, rest.polls⟩⟩

/-! ### At the engine -/

/-- How an operation on the job enters the engine. -/
def Capability.Op.entry (domain : Domain) : Capability.Op → Invocation
  | .submit request =>
    ⟨.exportByIds domain, String.ofList request.options, some request.authToken⟩
  | .poll job => ⟨.getExportStatus, statusRequest job, none⟩

/-- The entries into the engine, in order. -/
def entries (events : List EngineEvent) : List Invocation :=
  events.filterMap fun event =>
    match event.op with
    | .inl _ => none
    | .inr op => invocation? op

theorem entries_inRight (events : List Bridge.interface.Event) :
    entries (events.map Interface.Event.inRight) =
        events.filterMap (fun event => invocation? event.op) ∧
      outward (J := Bridge.interface) (events.map Interface.Event.inRight) = [] := by
  constructor
  · rw [entries, List.filterMap_map]
    rfl
  · rw [outward, List.filterMap_map]
    exact List.filterMap_eq_nil_iff.2 fun _ _ => rfl

theorem goes_entry {domain : Domain} {op : Capability.Op} {events : List Bridge.interface.Event}
    {answer : Except ServiceError Job} (goes : Goes (Capability.atEngine domain op) events answer) :
    events.filterMap (fun event => invocation? event.op) = [op.entry domain] := by
  cases op with
  | submit request =>
    change Goes (Engine.Client.callJson Job.envelope.codec (.exportByIds domain)
      (.ok (String.ofList request.options)) (some request.authToken)) events answer at goes
    exact (Engine.Client.goes_callJson goes).entries
  | poll job =>
    change Goes (Engine.Client.callJson Job.envelope.codec .getExportStatus
      (.ok (statusRequest job)) none) events answer at goes
    exact (Engine.Client.goes_callJson goes).entries

theorem outward_append {J : Interface} (first later : List (Surroundings.interface.sum J).Event) :
    outward (first ++ later) = outward first ++ outward later :=
  List.filterMap_append

theorem entries_append (first later : List EngineEvent) :
    entries (first ++ later) = entries first ++ entries later :=
  List.filterMap_append

/-- What an operation of an export means where its job runs in the engine. -/
def Process.meaning (domain : Domain) :
    (op : (Surroundings.interface.sum Capability.interface).Op) →
      Program (Surroundings.interface.sum Bridge.interface)
        ((Surroundings.interface.sum Capability.interface).Answer op)
  | .inl op => .ask (.inl op) .done
  | .inr op => (Capability.atEngine domain op).inRight

theorem goes_spelled {domain : Domain} {process : Process} {events : List EngineEvent}
    {result : Except ServiceError Outcome} (goes : Goes (process.atEngine domain) events result) :
    ∃ outer, process.Goes outer result ∧ Spelled (Process.meaning domain) outer events := by
  have meaning : process.atEngine domain = process.translate (Process.meaning domain) := by
    unfold Process.atEngine Program.translateRight
    congr 1
    funext op
    cases op <;> rfl
  rw [meaning] at goes
  exact goes.of_translate

/-- An operation on the surroundings stands for itself, one on the job for one entry. -/
theorem outward_entries_of_spelled {domain : Domain} {outer : List Process.Event}
    {events : List EngineEvent} (spelled : Spelled (Process.meaning domain) outer events) :
    outward events = outward outer ∧
      entries events = (about outer).map (Capability.Op.entry domain) := by
  induction spelled with
  | nil => exact ⟨rfl, rfl⟩
  | @cons event part outer inner meant rest ih =>
    obtain ⟨op, answer⟩ := event
    rw [outward_append, entries_append, ih.1, ih.2]
    cases op with
    | inl op =>
      obtain ⟨received, later, rfl, ended⟩ := goes_ask.1 meant
      obtain ⟨rfl, rfl⟩ := goes_done.1 ended
      exact ⟨rfl, rfl⟩
    | inr op =>
      obtain ⟨inside, within, rfl⟩ := Goes.of_inRight meant
      have entered := entries_inRight inside
      rw [entered.1, entered.2, goes_entry within]
      exact ⟨rfl, rfl⟩

theorem goes_atEngine {domain : Domain} {process : Process} {events : List EngineEvent}
    {result : Except ServiceError Outcome} (goes : Goes (process.atEngine domain) events result) :
    ∃ outer, process.Goes outer result ∧ outward events = outward outer ∧
      entries events = (about outer).map (Capability.Op.entry domain) := by
  obtain ⟨outer, within, spelled⟩ := goes_spelled goes
  exact ⟨outer, within, outward_entries_of_spelled spelled⟩

/-! ### The whole export -/

/-- A whole export whose job runs in the engine: its end, and what it asked for. -/
def exportRun {σ : Type} (settings : PollSettings) (coordinator : Coordinator)
    (assignment : Assignment)
    (handle : (Surroundings.interface.sum Bridge.interface).Handler σ) (state : σ) :
    Except ServiceError Outcome × List EngineEvent :=
  match coordinator.enter assignment.selection with
  | .answered result => (result, [])
  | .entered _ =>
    let process := (Process.start settings assignment).atEngine assignment.domain
    ((process.run handle state).1, process.events handle state)

theorem enter_of_empty (coordinator : Coordinator) {selection : Selection}
    (nothing : selection.isEmpty = true) :
    coordinator.enter selection = .answered (.ok .noSelection) := by
  rw [Coordinator.enter, if_pos nothing]

theorem completed?_of_answered {coordinator : Coordinator} {selection : Selection}
    {result : Except ServiceError Outcome}
    (entry : coordinator.enter selection = .answered result) :
    completed? result = none ∧ exported? result = none := by
  unfold Coordinator.enter at entry
  split at entry
  · cases entry
    exact ⟨rfl, rfl⟩
  split at entry
  · cases entry
    exact ⟨rfl, rfl⟩
  · cases entry

theorem exportRun_settled {σ : Type} (settings : PollSettings) (coordinator : Coordinator)
    (assignment : Assignment)
    (handle : (Surroundings.interface.sum Bridge.interface).Handler σ) (state : σ) :
    let result := (exportRun settings coordinator assignment handle state).1
    let events := (exportRun settings coordinator assignment handle state).2
    ∃ stamp, Settled (assignment.path stamp) result (outward events) ∧
      ((∃ checks, entries events =
          (Capability.Op.submit (assignment.request stamp)).entry assignment.domain :: checks ∧
        ∀ entry ∈ checks, entry.call = .getExportStatus) ∨
      entries events = [] ∧ completed? result = none) := by
  intro result events
  cases entry : coordinator.enter assignment.selection with
  | answered answer =>
    have whole : exportRun settings coordinator assignment handle state = (answer, []) := by
      rw [exportRun, entry]
    obtain ⟨incomplete, hidden⟩ := completed?_of_answered entry
    have ended : result = answer := congrArg Prod.fst whole
    have silent : events = [] := congrArg Prod.snd whole
    rw [ended, silent]
    refine ⟨"", ⟨?_, ?_, ?_⟩, .inr ⟨rfl, incomplete⟩⟩
    · simp [incomplete, outward]
    · rw [hidden]
      rfl
    · rw [incomplete]
      exact nofun
  | entered next =>
    let process := (Process.start settings assignment).atEngine assignment.domain
    have whole : exportRun settings coordinator assignment handle state =
        ((process.run handle state).1, process.events handle state) := by
      rw [exportRun, entry]
    have goes : Goes process events result := by
      have ended : result = (process.run handle state).1 := congrArg Prod.fst whole
      have asked : events = process.events handle state := congrArg Prod.snd whole
      rw [ended, asked]
      exact Program.goes_run handle process state
    obtain ⟨outer, within, same, entered⟩ := goes_atEngine goes
    obtain ⟨stamp, settled, submitted⟩ := (goes_start within).settled
    rw [same, entered]
    refine ⟨stamp, settled, ?_⟩
    obtain ⟨checks, about, polls⟩ | ⟨about, incomplete⟩ := submitted
    · rw [about]
      refine .inl ⟨_, rfl, fun entry among => ?_⟩
      obtain ⟨op, found, rfl⟩ := List.mem_map.1 among
      obtain ⟨job, rfl⟩ := polls op found
      rfl
    · rw [about]
      exact .inr ⟨rfl, incomplete⟩

/-- An export clears the selection if its job completed, and leaves it as it was otherwise. It shows
one file if records were written, and none otherwise. The file that its end names is the one that
the job was submitted with. An empty selection has nothing done, whatever goes on at the
coordinator. -/
theorem export_all_or_nothing {σ : Type} (settings : PollSettings) (coordinator : Coordinator)
    (assignment : Assignment)
    (handle : (Surroundings.interface.sum Bridge.interface).Handler σ) (state : σ) :
    let result := (exportRun settings coordinator assignment handle state).1
    let events := (exportRun settings coordinator assignment handle state).2
    assignment.selection.after (outward events) =
      (if (completed? result).isSome then .empty else assignment.selection) ∧
    revealed (outward events) = (exported? result).toList ∧
    (∀ file, completed? result = some file →
      ∃ submission checks value, entries events = submission :: checks ∧
        submission.call = .exportByIds assignment.domain ∧
        (∀ entry ∈ checks, entry.call = .getExportStatus) ∧
        Value.ofText submission.payload = .ok value ∧
        value.get? "target_path" = some (.string file)) ∧
    (assignment.selection.isEmpty = true →
      result = .ok .noSelection ∧ events = [] ∧
        ∀ history,
          let traffic := Traffic.of settings history
          let next := traffic.move settings (.call assignment)
          next.coordinator = traffic.coordinator ∧ next.written = traffic.written ∧
            next.calls = traffic.calls ++
              [.new assignment.selection (.answered (.ok .noSelection))]) := by
  intro result events
  obtain ⟨stamp, settled, submitted⟩ :=
    exportRun_settled settings coordinator assignment handle state
  refine ⟨?_, settled.shown, fun file completed => ?_, fun nothing => ?_⟩
  · unfold Selection.after
    by_cases cleared : .clearSelection ∈ outward events
    · rw [if_pos cleared, if_pos (settled.cleared.1 cleared)]
    · rw [if_neg cleared, if_neg (mt settled.cleared.2 cleared)]
  · obtain ⟨checks, entered, polls⟩ | ⟨_, incomplete⟩ := submitted
    · obtain rfl := settled.named file completed
      obtain ⟨value, read, path⟩ := (assignment.request stamp).ofText_options
      exact ⟨_, checks, value, entered, rfl, polls, read, path⟩
    · exact absurd (incomplete.symm.trans completed) nofun
  · have entry := enter_of_empty coordinator nothing
    have whole : exportRun settings coordinator assignment handle state =
        (.ok .noSelection, []) := by
      rw [exportRun, entry]
    refine ⟨congrArg Prod.fst whole, congrArg Prod.snd whole, ?_⟩
    intro history traffic next
    have added : next = traffic.add (.new assignment.selection (.answered (.ok .noSelection)))
        traffic.coordinator := by
      have entry := enter_of_empty traffic.coordinator nothing
      simp only [next, Traffic.move, Traffic.receive, entry]
    rw [added]
    exact ⟨rfl, rfl, rfl⟩

end BackgroundWork.Export
