import Mathlib.Data.List.Chain
import BackgroundWork.Proofs.ExportCompletion
import BackgroundWork.Proofs.ExportJourney
import BackgroundWork.Proofs.ReplyClassification

set_option autoImplicit false

/-!
Which job an export asks about. Each check names the job of the reply before it, and the end names
the job of the last reply, so an export that is told of another job goes on with that one. It
keeps to the job that it submitted as long as every reply is about the job that was asked about.

Main statement: `checks_follow_replies`.
-/

namespace BackgroundWork.Export

open Engine (Bridge.interface)
open Program (Goes Spelled goes_done goes_ask)

/-- What was asked of whatever runs the job, with its answer. -/
abbrev Exchange := Capability.interface.Event

/-- What was asked about the job, if an event is about it. -/
def exchange? : Process.Event → Option Exchange
  | ⟨.inl _, _⟩ => none
  | ⟨.inr op, answer⟩ => some ⟨op, answer⟩

/-- What was asked about the job on the way of an export, in order. -/
def exchanges (events : List Process.Event) : List Exchange :=
  events.filterMap exchange?

/-- Whether one exchange asks about the job that the other told of. -/
def Exchange.Follows (before after : Exchange) : Prop :=
  ∃ job, before.answer = .ok job ∧ after.op = .poll job.id

/-- Whether a check was answered, if at all, about the job that it names. -/
def Exchange.IsFaithful (exchange : Exchange) : Prop :=
  ∀ id job, exchange.op = .poll id → exchange.answer = .ok job → job.id = id

/-- The job that an end names. -/
def named? : Except ServiceError Outcome → Option Uuid
  | .ok (.exported id ..) | .ok (.noRecordsExported id _) => some id
  | .error (.jobFailed id _) | .error (.timeout id _) => some id
  | .ok .noSelection | .error _ => none

/-- Whether an exchange that fails does so without naming a job. -/
def Exchange.IsAnonymous (exchange : Exchange) : Prop :=
  ∀ error, exchange.answer = .error error → named? (.error error) = none

/-! ### Following a job -/

/-- The last answer about a job that was told of before. -/
def lastAnswer (job : Job) (asked : List Exchange) : Except ServiceError Job :=
  match asked.getLast? with
  | none => .ok job
  | some last => last.answer

theorem getLast?_told (op : Capability.Op) (job : Job) (asked : List Exchange) :
    ∃ last, (⟨op, .ok job⟩ :: asked : List Exchange).getLast? = some last ∧
      last.answer = lastAnswer job asked := by
  rw [List.getLast?_cons]
  refine ⟨_, rfl, ?_⟩
  unfold lastAnswer
  cases asked.getLast? <;> rfl

/-- What is asked about a job, and how it ends, once it was told of: the checks follow each other,
the first of them names the job, and the end names the job that was told of last. -/
structure Tracked (job : Job) (asked : List Exchange) (result : Except ServiceError Outcome) :
    Prop where
  first : ∀ check ∈ asked.head?, check.op = .poll job.id
  chain : asked.IsChain Exchange.Follows
  named : ∀ id, named? result = some id →
    ∃ last, lastAnswer job asked = .ok last ∧ last.id = id

section

variable {path : String} {events : List Process.Event} {result : Except ServiceError Outcome}
  {job : Job}

/-- An end that names the job, if any, is tracked where nothing more is asked. -/
theorem tracked_nil (same : ∀ id, named? result = some id → job.id = id) :
    Tracked job [] result where
  first := by simp
  chain := .nil
  named id naming := ⟨job, rfl, same id naming⟩

theorem goes_finish_tracked (goes : Goes (Process.finish path job) events result) :
    Tracked job (exchanges events) result := by
  obtain ⟨cleared, later, rfl, rest⟩ := goes_ask.1 goes
  have silent : exchanges (⟨.inl .clearSelection, cleared⟩ :: later) = exchanges later := rfl
  have nothing : ∀ {ended : Except ServiceError Outcome}, named? ended = some job.id →
      Tracked job [] ended := by
    intro ended naming
    refine tracked_nil fun id same => ?_
    rw [naming] at same
    exact Option.some.inj same
  rw [silent]
  cases total : job.totalEntities with
  | none =>
    simp only [total] at rest
    obtain ⟨rfl, rfl⟩ := goes_done.1 rest
    exact nothing rfl
  | some count =>
    simp only [total] at rest
    by_cases positive : 0 < count
    · rw [if_pos positive] at rest
      obtain ⟨shown, last, rfl, ended⟩ := goes_ask.1 rest
      obtain ⟨rfl, rfl⟩ := goes_done.1 ended
      exact nothing rfl
    · rw [if_neg positive] at rest
      obtain ⟨rfl, rfl⟩ := goes_done.1 rest
      exact nothing rfl

/-- A check of a job in progress, with what follows it. -/
theorem Tracked.check {next : Job} {asked : List Exchange} (tracked : Tracked next asked result) :
    Tracked job (⟨.poll job.id, .ok next⟩ :: asked) result where
  first check here := by
    obtain rfl := Option.some.inj here
    rfl
  chain := List.isChain_cons.2 ⟨fun check here => ⟨next, rfl, tracked.first check here⟩,
    tracked.chain⟩
  named id naming := by
    obtain ⟨last, told, same⟩ := tracked.named id naming
    obtain ⟨exchange, ends, answered⟩ := getLast?_told (.poll job.id) next asked
    refine ⟨last, ?_, same⟩
    rw [lastAnswer, ends, ← told]
    exact answered

theorem goes_follow_tracked {intervalMs left : Nat} {attempts : UInt32}
    (goes : Goes (Process.follow intervalMs path attempts left job) events result)
    (anonymous : ∀ exchange ∈ exchanges events, exchange.IsAnonymous) :
    Tracked job (exchanges events) result := by
  -- Induction on the checks that are left. The reply to a check takes the place of the job.
  induction left generalizing attempts job events with
  | zero =>
    unfold Process.follow at goes
    cases status : job.status with
    | completed =>
      simp only [status] at goes
      exact goes_finish_tracked goes
    | failed | requested | inProgress =>
      simp only [status] at goes
      obtain ⟨rfl, rfl⟩ := goes_done.1 goes
      exact tracked_nil fun id naming => Option.some.inj naming
  | succ left ih =>
    unfold Process.follow at goes
    cases status : job.status with
    | completed =>
      simp only [status] at goes
      exact goes_finish_tracked goes
    | failed =>
      simp only [status] at goes
      obtain ⟨rfl, rfl⟩ := goes_done.1 goes
      exact tracked_nil fun id naming => Option.some.inj naming
    | requested | inProgress =>
      simp only [status] at goes
      obtain ⟨published, afterPublish, rfl, sleeps⟩ := goes_ask.1 goes
      obtain ⟨slept, afterSleep, rfl, polls⟩ := goes_ask.1 sleeps
      obtain ⟨answer, later, rfl, rest⟩ := goes_ask.1 polls
      cases answer with
      | error error =>
        obtain ⟨rfl, rfl⟩ := goes_done.1 rest
        have unnamed := anonymous ⟨.poll job.id, .error error⟩ (.head _) error rfl
        exact ⟨fun check here => by obtain rfl := Option.some.inj here; rfl, .singleton _,
          fun id naming => absurd (unnamed.symm.trans naming) nofun⟩
      | ok next =>
        have later_anonymous : ∀ exchange ∈ exchanges later, exchange.IsAnonymous :=
          fun exchange among => anonymous exchange (.tail _ among)
        exact (ih rest later_anonymous).check

end

/-! ### The whole export -/

/-- What an export asks about its job: a submission first, then checks that follow the replies, and
the end names the job of the last reply. -/
structure Tracking (assignment : Assignment) (asked : List Exchange)
    (result : Except ServiceError Outcome) : Prop where
  submitted : ∀ submission ∈ asked.head?,
    ∃ stamp, submission.op = .submit (assignment.request stamp)
  chain : asked.IsChain Exchange.Follows
  named : ∀ id, named? result = some id →
    ∃ last ∈ asked.getLast?, ∃ job : Job, last.answer = .ok job ∧ job.id = id

section

variable {settings : PollSettings} {assignment : Assignment} {events : List Process.Event}
  {result : Except ServiceError Outcome}

theorem named?_of_answered {coordinator : Coordinator} {selection : Selection}
    (entry : coordinator.enter selection = .answered result) : named? result = none := by
  unfold Coordinator.enter at entry
  split at entry
  · cases entry
    rfl
  split at entry
  · cases entry
    rfl
  · cases entry

/-- An end that names no job is tracked where nothing is asked about one. -/
theorem tracking_nil (unnamed : named? result = none) : Tracking assignment [] result where
  submitted := by simp
  chain := .nil
  named := by simp [unnamed]

theorem goes_start_tracked (goes : Goes (Process.start settings assignment) events result)
    (anonymous : ∀ exchange ∈ exchanges events, exchange.IsAnonymous) :
    Tracking assignment (exchanges events) result := by
  obtain ⟨stamp, afterStamp, rfl, creates⟩ := goes_ask.1 goes
  obtain ⟨created, afterCreation, rfl, submits⟩ := goes_ask.1 creates
  cases created with
  | error message =>
    obtain ⟨rfl, rfl⟩ := goes_done.1 submits
    exact tracking_nil rfl
  | ok _ =>
    obtain ⟨published, afterPublish, rfl, submission⟩ := goes_ask.1 submits
    obtain ⟨answer, later, rfl, rest⟩ := goes_ask.1 submission
    cases answer with
    | error error =>
      obtain ⟨rfl, rfl⟩ := goes_done.1 rest
      have unnamed := anonymous ⟨.submit (assignment.request stamp), .error error⟩ (.head _) error
        rfl
      exact ⟨fun submission here => by obtain rfl := Option.some.inj here; exact ⟨stamp, rfl⟩,
        .singleton _, fun id naming => absurd (unnamed.symm.trans naming) nofun⟩
    | ok job =>
      have tracked := goes_follow_tracked rest fun exchange among =>
        anonymous exchange (.tail _ among)
      refine ⟨fun submission here => ?_, List.isChain_cons.2 ⟨fun check here => ?_, tracked.chain⟩,
        fun id naming => ?_⟩
      · obtain rfl := Option.some.inj here
        exact ⟨stamp, rfl⟩
      · exact ⟨job, rfl, tracked.first check here⟩
      · obtain ⟨last, told, same⟩ := tracked.named id naming
        obtain ⟨exchange, ends, answered⟩ :=
          getLast?_told (.submit (assignment.request stamp)) job (exchanges later)
        exact ⟨exchange, ends, last, answered.trans told, same⟩

end

/-- Where every check is answered about the job that it names, all checks name the job of the
first reply, and so do all replies. -/
theorem keeps_to_first {first : Exchange} {asked : List Exchange} {job : Job}
    (chain : (first :: asked).IsChain Exchange.Follows) (told : first.answer = .ok job)
    (faithful : ∀ exchange ∈ asked, exchange.IsFaithful) :
    (∀ check ∈ asked, check.op = .poll job.id) ∧
      ∀ last ∈ (first :: asked).getLast?, ∀ other : Job, last.answer = .ok other →
        other.id = job.id := by
  induction asked generalizing first job with
  | nil =>
    refine ⟨by simp, fun last here other answered => ?_⟩
    cases here
    have answered : first.answer = .ok other := answered
    rw [told] at answered
    rw [Except.ok.inj answered]
  | cons next asked ih =>
    obtain ⟨follows, chain⟩ := List.isChain_cons_cons.1 chain
    obtain ⟨now, later⟩ := List.forall_mem_cons.1 faithful
    obtain ⟨same, answered, asks⟩ := follows
    rw [told] at answered
    obtain rfl := Except.ok.inj answered
    cases reply : (next.answer : Except ServiceError Job) with
    | error error =>
      -- Nothing is asked after a check that fails.
      cases asked with
      | nil =>
        refine ⟨fun check among => ?_, fun last here other answered => ?_⟩
        · obtain rfl := List.mem_singleton.1 among
          exact asks
        · obtain rfl := Option.some.inj here
          exact absurd (reply.symm.trans answered) nofun
      | cons check asked =>
        obtain ⟨further, answered, _⟩ := (List.isChain_cons_cons.1 chain).1
        exact absurd (reply.symm.trans answered) nofun
    | ok told_next =>
      have id_eq : told_next.id = job.id := now job.id told_next asks reply
      obtain ⟨checks, replies⟩ := ih chain reply later
      rw [id_eq] at checks replies
      refine ⟨List.forall_mem_cons.2 ⟨asks, checks⟩, fun last here => ?_⟩
      rw [List.getLast?_cons_cons] at here
      exact replies last here

/-! ### At the engine -/

theorem about_eq (events : List Process.Event) : about events = (exchanges events).map (·.op) := by
  unfold about exchanges
  rw [List.map_filterMap]
  congr 1
  funext event
  obtain ⟨op, answer⟩ := event
  cases op <;> rfl

/-- An operation on the job that fails at the engine does so without naming a job. -/
theorem anonymous_of_goes {domain : Domain} {op : Capability.Op}
    {events : List Bridge.interface.Event} {answer : Except ServiceError Job}
    (goes : Goes (Capability.atEngine domain op) events answer) :
    Exchange.IsAnonymous ⟨op, answer⟩ := by
  have calling : ∃ call payload token, Engine.Client.Calling call (.ok payload) token
      (Engine.Reply.decode Job.envelope.codec) events answer := by
    cases op with
    | submit request => exact ⟨_, _, _, Engine.Client.goes_callJson goes⟩
    | poll job => exact ⟨_, _, _, Engine.Client.goes_callJson goes⟩
  obtain ⟨call, payload, token, calling⟩ := calling
  intro error failed
  have failed : answer = .error error := failed
  cases calling with
  | unencodable refused => exact absurd refused nofun
  | sent encoded sending =>
    cases sending with
    | panicked panic =>
      cases failed
      rfl
    | @received raw _ _ receiving =>
      cases receiving with
      | unreadable read =>
        cases failed
        rfl
      | @received reading asking body lastError read asked =>
        have decoded : Engine.Reply.decode Job.envelope.codec _ = .error error := failed
        have decoding := Engine.Reply.decoding Job.envelope.codec
          { call, status := raw.status, body, lastError }
        rw [decoded] at decoding
        cases decoding <;> rfl

theorem anonymous_of_spelled {domain : Domain} {outer : List Process.Event}
    {events : List EngineEvent} (spelled : Spelled (Process.meaning domain) outer events) :
    ∀ exchange ∈ exchanges outer, exchange.IsAnonymous := by
  induction spelled with
  | nil => simp [exchanges]
  | @cons event part outer inner meant rest ih =>
    obtain ⟨op, answer⟩ := event
    cases op with
    | inl op => exact ih
    | inr op =>
      obtain ⟨inside, within, _⟩ := Goes.of_inRight meant
      exact List.forall_mem_cons.2 ⟨anonymous_of_goes within, ih⟩

/-- Whatever the engine answers, an export enters it with the submission first and then with checks
that each name the job of the reply before, and its end names the job of the last reply. Where
every check is answered about the job that it names, each check and the end name the job that the
submission was answered with. -/
theorem checks_follow_replies {σ : Type} (settings : PollSettings) (coordinator : Coordinator)
    (assignment : Assignment)
    (handle : (Surroundings.interface.sum Bridge.interface).Handler σ) (state : σ) :
    let result := (exportRun settings coordinator assignment handle state).1
    let events := (exportRun settings coordinator assignment handle state).2
    ∃ outer, Spelled (Process.meaning assignment.domain) outer events ∧
      entries events = (exchanges outer).map (·.op.entry assignment.domain) ∧
      Tracking assignment (exchanges outer) result ∧
      ∀ submission checks job, exchanges outer = submission :: checks →
        submission.answer = .ok job → (∀ check ∈ checks, check.IsFaithful) →
        (∀ check ∈ checks, check.op = .poll job.id) ∧
          ∀ id, named? result = some id → id = job.id := by
  intro result events
  obtain ⟨outer, spelled, tracking⟩ : ∃ outer,
      Spelled (Process.meaning assignment.domain) outer events ∧
        Tracking assignment (exchanges outer) result := by
    cases entry : coordinator.enter assignment.selection with
    | answered answer =>
      have whole : exportRun settings coordinator assignment handle state = (answer, []) := by
        rw [exportRun, entry]
      have ended : result = answer := congrArg Prod.fst whole
      have silent : events = [] := congrArg Prod.snd whole
      rw [ended, silent]
      exact ⟨[], .nil, tracking_nil (named?_of_answered entry)⟩
    | entered next =>
      let process := (Process.start settings assignment).atEngine assignment.domain
      have whole : exportRun settings coordinator assignment handle state =
          ((process.run handle state).1, process.events handle state) := by
        rw [exportRun, entry]
      have goes : Goes process events result := by
        have ended : result = (process.run handle state).1 := congrArg Prod.fst whole
        have asked : events = process.events handle state := congrArg Prod.snd whole
        rw [ended, asked]
        exact Program.goes_run handle process state
      obtain ⟨outer, within, spelled⟩ := goes_spelled goes
      exact ⟨outer, spelled, goes_start_tracked within (anonymous_of_spelled spelled)⟩
  have entered : entries events = (exchanges outer).map (·.op.entry assignment.domain) := by
    rw [(outward_entries_of_spelled spelled).2, about_eq, List.map_map]
    rfl
  refine ⟨outer, spelled, entered, tracking, fun submission checks job asked told faithful => ?_⟩
  have chain := tracking.chain
  rw [asked] at chain
  obtain ⟨polls, replies⟩ := keeps_to_first chain told faithful
  refine ⟨polls, fun id naming => ?_⟩
  obtain ⟨last, ends, other, answered, same⟩ := tracking.named id naming
  rw [asked] at ends
  rw [← same]
  exact replies last ends other answered

/-- The job that a check names. -/
def checked? : Asked → Option Uuid
  | .inr (.poll job) => some job
  | .inr (.submit _) | .inl _ => none

/-- A first check that is answered about another job. The second check names that one and so does
the end, and the selection is cleared for it, while the job that was submitted is not done. -/
theorem check_follows_other_job :
    let submitted : Uuid := ⟨List.replicate 32 10, rfl⟩
    let other : Uuid := ⟨List.replicate 32 11, rfl⟩
    let script : Script :=
      ⟨"0", .ok (), fun
        | 0 => .ok ⟨submitted, .requested, none, none, none, none, none⟩
        | 1 => .ok ⟨other, .inProgress, none, none, none, none, none⟩
        | _ => .ok ⟨other, .completed, some 3, none, none, none, none⟩⟩
    let assignment : Assignment :=
      ⟨"/", .projects, Selection.empty.insert "a", false, .jsonLines, "token"⟩
    let (result, journey) := script.run ⟨30, 1000⟩ .new assignment
    other ≠ submitted ∧ journey.asked.filterMap checked? = [submitted, other] ∧
      named? result = some other ∧ journey.selection = .empty :=
  ⟨by decide, rfl, rfl, rfl⟩

end BackgroundWork.Export
