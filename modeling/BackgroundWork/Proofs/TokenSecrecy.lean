import BackgroundWork.Proofs.ExportCompletion

set_option autoImplicit false

/-!
What the token of an export reaches. Two exports that differ only in the token ask for the same,
but for the token in the submission, and as long as the engine answers the same they go the same
way. Main statement: with an engine whose answers do not depend on the token, two exports with
different tokens look the same from outside, and each hands its token to the engine with the
submission only.
-/

namespace BackgroundWork.Export

open Engine (Bridge.interface Client.callJson Invocation RawReply invocation?)
open Program (Goes Spelled goes_ask goes_done goes_run spelled_cons)

/-! ### Exports that differ in the token -/

/-- A computation on the way of an export whose job runs in the engine. -/
abbrev EngineProgram (α : Type) :=
  Program (Surroundings.interface.sum Bridge.interface) α

/-- What answers an export whose job runs in the engine. -/
abbrev EngineHandler (σ : Type) :=
  (Surroundings.interface.sum Bridge.interface).Handler σ

/-- Two programs ask for the same and go on alike, but may hand the engine different tokens. -/
inductive Alike {α : Type} : EngineProgram α → EngineProgram α → Prop
  | done (value : α) : Alike (.done value) (.done value)
  | ask (op : (Surroundings.interface.sum Bridge.interface).Op)
      {next nextToo : (Surroundings.interface.sum Bridge.interface).Answer op → EngineProgram α}
      (later : ∀ answer, Alike (next answer) (nextToo answer)) :
      Alike (.ask op next) (.ask op nextToo)
  | enter (call : Engine.Call) (payload token other : String)
      {next nextToo : Except String RawReply → EngineProgram α}
      (later : ∀ answer, Alike (next answer) (nextToo answer)) :
      Alike (.ask (.inr (.invoke call payload (some token))) next)
        (.ask (.inr (.invoke call payload (some other))) nextToo)

section

variable {α β : Type}

theorem Alike.refl (program : EngineProgram α) : Alike program program := by
  induction program with
  | done value => exact .done value
  | ask op next ih => exact .ask op ih

theorem Alike.bind {first firstToo : EngineProgram α} {after afterToo : α → EngineProgram β}
    (start : Alike first firstToo) (later : ∀ value, Alike (after value) (afterToo value)) :
    Alike (first.bind after) (firstToo.bind afterToo) := by
  induction start with
  | done value => exact later value
  | ask op _ ih => exact .ask op ih
  | enter call payload token other _ ih => exact .enter call payload token other ih

theorem alike_callJson (codec : Json.Codec α) (call : Engine.Call)
    (payload token other : String) :
    Alike (Client.callJson codec call (.ok payload) (some token)).inRight
      (Client.callJson codec call (.ok payload) (some other)).inRight :=
  .enter call payload token other fun _ => .refl _

end

/-- The token stays beside the request and shows in none of its texts. -/
theorem Assignment.request_texts (assignment : Assignment) (token stamp : String) :
    let changed := { assignment with authToken := token }
    (changed.request stamp).options = (assignment.request stamp).options ∧
      (changed.request stamp).text = (assignment.request stamp).text :=
  ⟨rfl, rfl⟩

theorem alike_start (settings : PollSettings) (assignment : Assignment) (token : String) :
    Alike ((Process.start settings assignment).atEngine assignment.domain)
      ((Process.start settings { assignment with authToken := token }).atEngine
        assignment.domain) := by
  refine .ask (.inl .stamp) fun stamp => .ask (.inl (.createDirectory _)) fun created => ?_
  cases created with
  | error message => exact .refl _
  | ok _ =>
    refine .ask (.inl (.publish .submitting)) fun _ => ?_
    exact (alike_callJson _ (.exportByIds assignment.domain) _ assignment.authToken token).bind
      fun _ => .refl _

/-! ### Engines that do not look at the token -/

/-- Whatever is asked for in states that are alike is answered the same, whichever token the engine
is handed, and leads to states that are alike. -/
structure TokenBlind {σ : Type} (handle : EngineHandler σ) (alike : σ → σ → Prop) : Prop where
  same : ∀ op {state start}, alike state start →
    (handle op start).1 = (handle op state).1 ∧ alike (handle op state).2 (handle op start).2
  other : ∀ call payload token other {state start}, alike state start →
    let reply : Except String RawReply × σ :=
      handle (.inr (.invoke call payload (some token))) state
    let replyToo : Except String RawReply × σ :=
      handle (.inr (.invoke call payload (some other))) start
    replyToo.1 = reply.1 ∧ alike reply.2 replyToo.2

/-- An event without the token that the engine was handed. -/
def withoutToken : EngineEvent → EngineEvent
  | ⟨.inr (.invoke call payload _), answer⟩ => ⟨.inr (.invoke call payload none), answer⟩
  | event => event

theorem Alike.run {α σ : Type} {program programToo : EngineProgram α}
    {handle : EngineHandler σ} {alike : σ → σ → Prop}
    (twins : Alike program programToo) (blind : TokenBlind handle alike) {state start : σ}
    (near : alike state start) :
    (programToo.run handle start).1 = (program.run handle state).1 ∧
      (programToo.events handle start).map withoutToken =
        (program.events handle state).map withoutToken := by
  -- Induction on the programs. The states stay alike, so the next answers are the same.
  induction twins generalizing state start with
  | done value => exact ⟨rfl, rfl⟩
  | ask op later ih =>
    obtain ⟨answer, near⟩ := blind.same op near
    obtain ⟨ended, asked⟩ := ih (handle op state).1 near
    simp only [Program.run, Program.events, answer, List.map_cons]
    exact ⟨ended, congrArg _ asked⟩
  | enter call payload token other later ih =>
    obtain ⟨answer, near⟩ := blind.other call payload token other near
    obtain ⟨ended, asked⟩ := ih _ near
    simp only [Program.run, Program.events, answer, List.map_cons]
    exact ⟨ended, congrArg _ asked⟩

/-! ### What an export looks like -/

/-- A whole export as it looks to all who are not handed its token. -/
structure View where
  /-- The entries into the engine with their payloads, in order. -/
  calls : List (Engine.Call × String)
  /-- The phases that callers see one after the other. -/
  phases : List Phase
  result : Except ServiceError Outcome
  /-- The wording of the result. -/
  text : String
  /-- What is selected afterwards. -/
  selection : Selection
  /-- The files that are shown to the user. -/
  shown : List String

/-- An entry into the engine without its token. -/
def bare (entry : Invocation) : Invocation := { entry with token := none }

/-- How an export looks that came to a result after some events. -/
def View.of (coordinator : Coordinator) (selection : Selection)
    (result : Except ServiceError Outcome) (events : List EngineEvent) : View where
  calls := (entries events).map fun entry => (entry.call, entry.payload)
  phases :=
    match coordinator.enter selection with
    | .answered _ => []
    | .entered _ =>
      (outward events).filterMap (fun op => phase? (.inl op)) ++ [Coordinator.lastPhase result]
  result := result
  text :=
    match result with
    | .ok outcome => outcome.message
    | .error error => error.message
  selection := selection.after (outward events)
  shown := revealed (outward events)

theorem outward_withoutToken (events : List EngineEvent) :
    outward (events.map withoutToken) = outward events := by
  rw [outward, outward, List.filterMap_map]
  congr 1
  funext event
  rcases event with ⟨_ | (_ | _ | _ | _), _⟩ <;> rfl

theorem entries_withoutToken (events : List EngineEvent) :
    entries (events.map withoutToken) = (entries events).map bare := by
  rw [entries, entries, List.filterMap_map, List.map_filterMap]
  congr 1
  funext event
  rcases event with ⟨_ | (_ | _ | _ | _), _⟩ <;> rfl

section

variable {events eventsToo : List EngineEvent}

theorem entries_alike (same : eventsToo.map withoutToken = events.map withoutToken) :
    (entries eventsToo).map bare = (entries events).map bare := by
  rw [← entries_withoutToken, same, entries_withoutToken]

theorem View.of_alike (coordinator : Coordinator) (selection : Selection)
    (result : Except ServiceError Outcome)
    (same : eventsToo.map withoutToken = events.map withoutToken) :
    View.of coordinator selection result eventsToo =
      View.of coordinator selection result events := by
  have asked : outward eventsToo = outward events := by
    rw [← outward_withoutToken, same, outward_withoutToken]
  have entered := congrArg (List.map fun entry => (entry.call, entry.payload)) (entries_alike same)
  rw [List.map_map, List.map_map] at entered
  unfold View.of
  rw [asked]
  congr 1

end

/-! ### Where the token goes -/

/-- An export that begins at a stamp hands the engine its token with the submission, which is the
first entry, and checks without a token. -/
structure Submits (assignment : Assignment) (stamp : String) (checks : List Invocation)
    (events : List EngineEvent) : Prop where
  told : events.head? = some ⟨.inl .stamp, stamp⟩
  entered : entries events =
    ⟨.exportByIds assignment.domain, String.ofList (assignment.request stamp).options,
      some assignment.authToken⟩ :: checks
  plain : ∀ check ∈ checks, check.call = .getExportStatus ∧ check.token = none

/-- An export that submits nothing was not let in or could not create its directory. -/
structure Abstains (coordinator : Coordinator) (assignment : Assignment)
    (result : Except ServiceError Outcome) (events : List EngineEvent) : Prop where
  silent : entries events = []
  stopped : coordinator.enter assignment.selection = .answered result ∨
    ∃ message, result = .error (.io message)

theorem Starting.submission {assignment : Assignment} {outer : List Process.Event}
    {result : Except ServiceError Outcome} (starting : Starting assignment outer result) :
    ∃ stamp later, outer = ⟨.inl .stamp, stamp⟩ :: later ∧
      ((∃ checks, about outer = .submit (assignment.request stamp) :: checks ∧
        ∀ op ∈ checks, ∃ job, op = .poll job) ∨
      about outer = [] ∧ ∃ message, result = .error (.io message)) := by
  cases starting with
  | uncreated stamp message => exact ⟨stamp, _, rfl, .inr ⟨rfl, message, rfl⟩⟩
  | unsubmitted stamp error => exact ⟨stamp, _, rfl, .inl ⟨[], rfl, nofun⟩⟩
  | followed stamp job rest => exact ⟨stamp, _, rfl, .inl ⟨_, rfl, rest.polls⟩⟩

section

variable {σ : Type} (settings : PollSettings) (coordinator : Coordinator)
  (assignment : Assignment) (handle : EngineHandler σ) (state : σ)

theorem submits_or_abstains :
    let result := (exportRun settings coordinator assignment handle state).1
    let events := (exportRun settings coordinator assignment handle state).2
    (∃ stamp checks, Submits assignment stamp checks events) ∨
      Abstains coordinator assignment result events := by
  cases entry : coordinator.enter assignment.selection with
  | answered answer =>
    simp only [exportRun, entry]
    exact .inr ⟨rfl, .inl entry⟩
  | entered next =>
    simp only [exportRun, entry]
    have goes := goes_run handle
      ((Process.start settings assignment).atEngine assignment.domain) state
    obtain ⟨outer, within, spelled⟩ := goes_spelled goes
    obtain ⟨_, entered⟩ := outward_entries_of_spelled spelled
    obtain ⟨stamp, later, rfl, submission⟩ := (goes_start within).submission
    obtain ⟨checks, about, polls⟩ | ⟨about, stopped⟩ := submission
    · -- The stamp is asked of the surroundings, so it is spelled out as itself.
      obtain ⟨part, rest, whole, meant, _⟩ := spelled_cons.1 spelled
      obtain ⟨_, _, rfl, ended⟩ := goes_ask.1 meant
      obtain ⟨rfl, rfl⟩ := goes_done.1 ended
      rw [about] at entered
      refine .inl ⟨stamp, checks.map (Capability.Op.entry assignment.domain), ?_, entered, ?_⟩
      · rw [whole]
        rfl
      · intro check among
        obtain ⟨op, found, rfl⟩ := List.mem_map.1 among
        obtain ⟨job, rfl⟩ := polls op found
        exact ⟨rfl, rfl⟩
    · rw [about] at entered
      exact .inr ⟨entered, .inr stopped⟩

variable {handle} {state}

theorem exportRun_alike (token : String) {alike : σ → σ → Prop} {start : σ}
    (blind : TokenBlind handle alike) (near : alike state start) :
    let first := exportRun settings coordinator assignment handle state
    let second := exportRun settings coordinator { assignment with authToken := token } handle start
    second.1 = first.1 ∧ second.2.map withoutToken = first.2.map withoutToken := by
  cases entry : coordinator.enter assignment.selection with
  | answered answer =>
    simp only [exportRun, entry, and_self]
  | entered next =>
    simp only [exportRun, entry]
    exact (alike_start settings assignment token).run blind near

end

theorem map_bare {checks : List Invocation} (plain : ∀ check ∈ checks, check.token = none) :
    checks.map bare = checks := by
  refine (List.map_congr_left fun check among => ?_).trans (List.map_id checks)
  rw [bare, ← plain check among]
  rfl

theorem Submits.alike {assignment changed : Assignment} {stamp stampToo : String}
    {checks checksToo : List Invocation} {events eventsToo : List EngineEvent}
    (submits : Submits assignment stamp checks events)
    (submitsToo : Submits changed stampToo checksToo eventsToo)
    (same : eventsToo.map withoutToken = events.map withoutToken) :
    stampToo = stamp ∧ checksToo = checks := by
  constructor
  · have told := congrArg List.head? same
    rw [List.head?_map, List.head?_map, submits.told, submitsToo.told] at told
    exact eq_of_heq (Interface.Event.mk.inj (Option.some.inj told)).2
  · have entered := entries_alike same
    rw [submits.entered, submitsToo.entered, List.map_cons, List.map_cons] at entered
    rw [← map_bare fun check among => (submits.plain check among).2,
      ← map_bare fun check among => (submitsToo.plain check among).2]
    exact (List.cons.inj entered).2

/-- The token of an export reaches the engine with its one submission and goes nowhere else. Two
exports that differ in the token look the same from outside if the engine answers them the same:
they ask for the same and are answered the same, token aside, and their requests have one text. -/
theorem token_reaches_submission_only {σ : Type} (settings : PollSettings)
    (coordinator : Coordinator) (assignment : Assignment) (token : String)
    {handle : EngineHandler σ} {alike : σ → σ → Prop} {state start : σ}
    (blind : TokenBlind handle alike) (near : alike state start) :
    let changed := { assignment with authToken := token }
    let first := exportRun settings coordinator assignment handle state
    let second := exportRun settings coordinator changed handle start
    View.of coordinator assignment.selection second.1 second.2 =
        View.of coordinator assignment.selection first.1 first.2 ∧
      second.2.map withoutToken = first.2.map withoutToken ∧
      ((∃ stamp checks, Submits assignment stamp checks first.2 ∧
          Submits changed stamp checks second.2 ∧
          (changed.request stamp).text = (assignment.request stamp).text) ∨
        Abstains coordinator assignment first.1 first.2 ∧
          Abstains coordinator changed second.1 second.2) := by
  intro changed first second
  obtain ⟨ended, asked⟩ :=
    exportRun_alike settings coordinator assignment token blind near
  refine ⟨?_, asked, ?_⟩
  · rw [ended]
    exact View.of_alike coordinator assignment.selection first.1 asked
  have entered := entries_alike asked
  obtain ⟨stamp, checks, submits⟩ | abstains :=
    submits_or_abstains settings coordinator assignment handle state
  · obtain ⟨stampToo, checksToo, submitsToo⟩ | abstainsToo :=
      submits_or_abstains settings coordinator changed handle start
    · obtain ⟨rfl, rfl⟩ := submits.alike submitsToo asked
      exact .inl ⟨_, _, submits, submitsToo, (assignment.request_texts token _).2⟩
    · rw [abstainsToo.silent, submits.entered] at entered
      cases entered
  · have silent : entries second.2 = [] := by
      rw [abstains.silent] at entered
      exact List.map_eq_nil_iff.1 entered
    obtain ⟨stampToo, checksToo, submitsToo⟩ | abstainsToo :=
      submits_or_abstains settings coordinator changed handle start
    · rw [submitsToo.entered] at silent
      cases silent
    · exact .inr ⟨abstains, abstainsToo⟩

/-- An engine that keeps a record of its entries, tokens included, and rejects them all. -/
def recorder : EngineHandler (List Invocation)
  | .inl .stamp, record => ("7", record)
  | .inl (.createDirectory _), record => (.ok (), record)
  | .inl (.publish _), record | .inl (.sleep _), record | .inl .clearSelection, record
  | .inl (.reveal _), record => ((), record)
  | .inr (.invoke call payload token), record =>
    (.ok (.statusOnly 208), record ++ [⟨call, payload, token⟩])
  | .inr (.read _), record => (⟨[], List.not_mem_nil⟩, record)
  | .inr (.release _), record => ((), record)
  | .inr .lastError, record => (some "disk full", record)

theorem recorder_blind :
    TokenBlind recorder fun record recordToo => recordToo.map bare = record.map bare where
  same := by
    intro op record recordToo near
    match op with
    | .inl .stamp | .inl (.createDirectory _) | .inl (.publish _) | .inl (.sleep _)
    | .inl .clearSelection | .inl (.reveal _) => exact ⟨rfl, near⟩
    | .inr (.invoke call payload token) => exact ⟨rfl, by simp [recorder, near]⟩
    | .inr (.read _) | .inr (.release _) | .inr .lastError => exact ⟨rfl, near⟩
  other := by
    intro call payload token other record recordToo near
    exact ⟨rfl, by simp [recorder, near, bare]⟩

/-- Two exports at an engine that keeps their tokens. -/
theorem token_reaches_submission_only_recorded :
    let assignment : Assignment :=
      ⟨"/docs", .projects, Selection.empty.insert "a", false, .jsonLines, "token-1"⟩
    let changed := { assignment with authToken := "token-2" }
    let first := exportRun ⟨30, 1000⟩ .new assignment recorder []
    let second := exportRun ⟨30, 1000⟩ .new changed recorder []
    first.1 = .error (.engineRejected "export_projects_by_ids" 208 "disk full") ∧
      second.1 = first.1 ∧
      (entries first.2).map (·.token) = [some "token-1"] ∧
      (entries second.2).map (·.token) = [some "token-2"] := by
  intro assignment changed first second
  obtain ⟨looks, _, _⟩ := token_reaches_submission_only ⟨30, 1000⟩ .new assignment "token-2"
    recorder_blind (rfl : ([] : List Invocation).map bare = [].map bare)
  refine ⟨?_, congrArg View.result looks, ?_, ?_⟩
  · decide +kernel
  · rfl
  · rfl

end BackgroundWork.Export
