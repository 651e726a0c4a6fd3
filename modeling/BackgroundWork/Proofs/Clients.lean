import BackgroundWork.Compression.Documents
import BackgroundWork.Proofs.ProgramRuns
import BackgroundWork.Proofs.TurnLedger

set_option autoImplicit false

/-!
The coordinator among its clients. Any number of calls are under way at once. Each does what its
program says, one operation at a time and in any order with the others, with the worker's turns,
with the reports of pulls and with the system's announcements; a call that has sent a request
waits until it is answered. Whatever happens, the journal only goes on, and so does each call.
-/

namespace BackgroundWork.Compression

open Program (Passes)

/-! ### Calls -/

/-- What calls ask for: the worker, what is shared with it, and the engine. -/
@[reducible] def Service : Interface :=
  Handle.interface.sum (Documents.coordination.sum Engine.Bridge.interface)

/-- What clients can have done. -/
inductive Task where
  | start
  | stop
  | lifecycle (event : LifecycleEvent)
  | snapshot
  | shutDown
  | queue (documentId : String) (priority : Priority)
  | updatePriority (documentId : String) (priority : Priority)
  | compress (maxBytes : Nat) (documentId : String) (config : Option Config)
  | cancel (documentId : String)
  | status (documentId : String)
  | refreshStatus
  | refreshQueue

namespace Task

/-- What a client gets in the end, if there is no error. -/
@[reducible] def Value : Task → Type
  | start | stop | lifecycle _ | shutDown => Unit
  | snapshot => Snapshot
  | queue .. => QueueOutcome
  | updatePriority .. | cancel _ => Bool
  | compress .. => Summary
  | status _ => DocumentHistory
  | refreshStatus => ComprehensiveStatus
  | refreshQueue => QueueStatus

/-- What is done for a client. -/
def program : (task : Task) → Program Service (Except ServiceError task.Value)
  | start => (Handle.dispatch .start).inLeft
  | stop => (Handle.dispatch .stop).inLeft
  | lifecycle event => (Handle.dispatch (.lifecycle event)).inLeft
  | snapshot => Handle.snapshot.inLeft
  | shutDown => Handle.shutDown.inLeft
  | queue documentId priority => (Documents.queue documentId priority).inRight
  | updatePriority documentId priority => (Documents.updatePriority documentId priority).inRight
  | compress maxBytes documentId config => (Documents.compress maxBytes documentId config).inRight
  | cancel documentId => (Documents.cancel documentId).inRight
  | status documentId => (Documents.status documentId).inRight
  | refreshStatus => Documents.refreshStatus.inRight
  | refreshQueue => Documents.refreshQueue.inRight

/-- The request that is sent to the worker for a client, if one is. -/
def request? : Task → Option CallerRequest
  | start => some .start
  | stop => some .stop
  | lifecycle event => some (.lifecycle event)
  | snapshot => some .snapshot
  | shutDown => some .shutdown
  | queue .. | updatePriority .. | compress .. | cancel _ | status _ | refreshStatus
  | refreshQueue => none

end Task

/-- The request that a program asks the worker next, if it does. -/
def asked? {α : Type} : Program Service α → Option CallerRequest
  | .ask (.inl (.ask request)) _ => some request
  | _ => none

/-- A call of a client. -/
structure Call where
  task : Task
  /-- What was asked for so far, with the answers. -/
  events : List Service.Event
  /-- What is still to be done. -/
  rest : Program Service (Except ServiceError task.Value)

namespace Call

/-- A call at first. -/
def new (task : Task) : Call := ⟨task, [], task.program⟩

/-- A call goes on with the answer to an operation. -/
def proceed (call : Call) (op : Service.Op) (answer : Service.Answer op)
    (next : Service.Answer op → Program Service (Except ServiceError call.task.Value)) : Call :=
  { call with
    events := call.events ++ [⟨op, answer⟩]
    rest := next answer }

/-- The request that a call asks the worker next, if it does. -/
def request? (call : Call) : Option CallerRequest :=
  asked? call.rest

/-- A call that asks the worker goes on with its answer. -/
def hear (call : Call) (answer : Answer) : Call :=
  match call.rest with
  | .ask (.inl (.ask request)) next => call.proceed (.inl (.ask request)) answer next
  | _ => call

/-- Whether a call has come to its end. -/
def isDone (call : Call) : Bool :=
  match call.rest with
  | .done _ => true
  | .ask .. => false

end Call

/-! ### How calls stand -/

/-- How a call stands that sends one request. -/
inductive Requesting {α : Type} (request : CallerRequest)
    (shown : Answer → Except ServiceError α) :
    List Service.Event → Program Service (Except ServiceError α) → Prop
  | asks : Requesting request shown []
      (.ask (.inl (.ask request)) fun (answer : Answer) => .done (shown answer))
  | told (answer : Answer) :
      Requesting request shown [⟨.inl (.ask request), answer⟩] (.done (shown answer))

/-- How a call stands that shuts the worker down. -/
inductive ShuttingDown :
    List Service.Event → Program Service (Except ServiceError Unit) → Prop
  | asks : ShuttingDown [] Task.shutDown.program
  | joins (answer : Answer) :
      ShuttingDown [⟨.inl (.ask .shutdown), answer⟩] (.ask (.inl .join) .done)
  | told (answer : Answer) (result : Except ServiceError Unit) :
      ShuttingDown [⟨.inl (.ask .shutdown), answer⟩, ⟨.inl .join, result⟩] (.done result)

theorem requesting_of_passes {α : Type} {request : CallerRequest}
    {shown : Answer → Except ServiceError α} {events : List Service.Event}
    {rest : Program Service (Except ServiceError α)}
    (passes : Passes (.ask (.inl (.ask request)) fun (answer : Answer) => .done (shown answer) :
      Program Service (Except ServiceError α)) events rest) :
    Requesting request shown events rest := by
  cases passes with
  | here => exact .asks
  | ask later =>
    cases later
    exact .told _

theorem shuttingDown_of_passes {events : List Service.Event}
    {rest : Program Service (Except ServiceError Unit)}
    (passes : Passes Task.shutDown.program events rest) : ShuttingDown events rest := by
  change Passes (.ask (.inl (.ask .shutdown)) fun _ => .ask (.inl .join) .done :
    Program Service (Except ServiceError Unit)) events rest at passes
  cases passes with
  | here => exact .asks
  | ask later =>
    cases later with
    | here => exact .joins _
    | ask last =>
      cases last
      exact .told _ _

theorem outcome_of_lost (answer : Answer) (lost : answer = .dropped ∨ answer = .refused) :
    ∃ message, answer.outcome = .error (.coordinatorUnavailable message) := by
  rcases lost with rfl | rfl <;> exact ⟨_, rfl⟩

theorem shown_of_lost (answer : Answer) (lost : answer = .dropped ∨ answer = .refused) :
    ∃ message, answer.shown = .error (.coordinatorUnavailable message) := by
  rcases lost with rfl | rfl <;> exact ⟨_, rfl⟩

theorem Requesting.unasked {α : Type} {request other : CallerRequest}
    {shown : Answer → Except ServiceError α} {events : List Service.Event}
    {rest : Program Service (Except ServiceError α)}
    (requesting : Requesting request shown events rest) (asks : asked? rest = some other) :
    events = [] ∧ some request = some other := by
  cases requesting with
  | asks => exact ⟨rfl, asks⟩
  | told => cases asks

theorem ShuttingDown.unasked {request : CallerRequest} {events : List Service.Event}
    {rest : Program Service (Except ServiceError Unit)} (shuttingDown : ShuttingDown events rest)
    (asks : asked? rest = some request) : events = [] ∧ some .shutdown = some request := by
  cases shuttingDown with
  | asks => exact ⟨rfl, asks⟩
  | joins | told => cases asks

/-- Documents are dealt with without a request to the worker. -/
theorem asked?_of_action {α : Type} {action : Documents.Action α} {events : List Service.Event}
    {rest : Program Service (Except ServiceError α)}
    (passes : Passes (action.inRight : Program Service (Except ServiceError α)) events rest) :
    asked? rest = none := by
  obtain ⟨inner, rfl⟩ := passes.of_inRight
  cases inner <;> rfl

namespace Call

variable {call : Call} {request : CallerRequest}

theorem rest_of_request (asks : call.request? = some request) :
    ∃ next, call.rest = .ask (.inl (.ask request)) next ∧
      ∀ answer, call.hear answer = call.proceed (.inl (.ask request)) answer next := by
  unfold request? asked? at asks
  split at asks
  · rename_i next rest
    cases asks
    refine ⟨next, rest, ?_⟩
    intro answer
    simp only [hear, rest]
  · cases asks

theorem hear_of_quiet (quiet : call.request? = none) (answer : Answer) :
    call.hear answer = call := by
  unfold hear
  split
  · rename_i rest
    cases (congrArg asked? rest).symm.trans quiet
  · rfl

/-- A call that asks the worker has asked for nothing before. -/
theorem events_of_request (passes : Passes call.task.program call.events call.rest)
    (asks : call.request? = some request) :
    call.events = [] ∧ call.task.request? = some request := by
  obtain ⟨task, events, rest⟩ := call
  cases task with
  | start | stop | lifecycle | snapshot => exact (requesting_of_passes passes).unasked asks
  | shutDown => exact (shuttingDown_of_passes passes).unasked asks
  | queue | updatePriority | compress | cancel | status | refreshStatus | refreshQueue =>
    have quiet : asked? rest = none := asked?_of_action passes
    cases quiet.symm.trans asks

end Call

/-! ### Exchanges -/

/-- What the engine answers. -/
abbrev EngineAnswers := (op : Engine.Bridge.Op) → Engine.Bridge.interface.Answer op

/-- The calls of all clients, numbered as they came, and the journal of the worker. -/
structure Exchange where
  journal : Journal
  calls : List Call

namespace Exchange

/-- What can happen among the clients, the worker, the engine and the system. -/
inductive Move where
  /-- A client has something done. -/
  | call (task : Task)
  /-- A call does its next operation, and the engine answers as given if it is asked. -/
  | proceed (number : Nat) (engine : EngineAnswers)
  /-- A pull of the worker's reports. -/
  | report (update : CacheUpdate)
  /-- The system runs the handler that it was given with the request of a number. -/
  | announce (grant : Nat)
  | turn (moment : Moment)
  /-- The last client is gone. -/
  | close
  | cancel

/-- How an operation of a call is answered, and the journal after it. A request is sent under the
number of the call, and is not answered while it waits; the end of the worker is not answered while
it runs. -/
def serve (journal : Journal) (number : Nat) (engine : EngineAnswers) :
    (op : Service.Op) → Option (Service.Answer op) × Journal
  | .inl (.ask request) =>
    if number ∈ journal.coordinator.commands.map Prod.fst then (none, journal)
    else
      match journal.coordinator.send number request.command with
      | .ok _ => (none, journal.move (.send number request))
      | .error (answer : Answer) => (some answer, journal)
  | .inl .join =>
    match journal.coordinator.join? with
    | some (result, _) => (some result, journal.move .join)
    | none => (none, journal)
  | .inr (.inl .phase) => (some journal.coordinator.worker.phase, journal)
  | .inr (.inl (.post update)) => (some (), journal.move (.report update))
  | .inr (.inr op) => (some (engine op), journal)

/-- A call does its next operation. -/
def drive (exchange : Exchange) (number : Nat) (engine : EngineAnswers) : Exchange :=
  match exchange.calls[number]? with
  | none => exchange
  | some call =>
    match call.rest with
    | .done _ => exchange
    | .ask op next =>
      match serve exchange.journal number engine op with
      | (none, journal) => { exchange with journal }
      | (some answer, journal) =>
        { journal, calls := exchange.calls.set number (call.proceed op answer next) }

/-- Something happens to the worker, and the calls that it answers go on. -/
def around (exchange : Exchange) (next : Compression.Move) : Exchange where
  journal := exchange.journal.move next
  calls := exchange.calls.mapIdx fun number call =>
    ((exchange.journal.run.answers next).lookup number).elim call call.hear

/-- A move. Nobody calls once the last client is gone, and a client stays for its calls. -/
def move (exchange : Exchange) : Move → Exchange
  | .call task =>
    if exchange.journal.coordinator.isOpen then
      { exchange with calls := exchange.calls ++ [.new task] }
    else exchange
  | .proceed number engine => exchange.drive number engine
  | .report update => exchange.around (.report update)
  | .announce grant => exchange.around (.announce grant)
  | .turn moment => exchange.around (.turn moment)
  | .close => if exchange.calls.all Call.isDone then exchange.around .close else exchange
  | .cancel => exchange.around .cancel

/-- An exchange at first. -/
def new (settings : CoordinatorSettings) : Exchange := ⟨.new settings, []⟩

/-- The exchange after moves. -/
def moves (exchange : Exchange) (later : List Move) : Exchange :=
  later.foldl move exchange

/-- The exchange that moves lead to. -/
def of (settings : CoordinatorSettings) (history : List Move) : Exchange :=
  (new settings).moves history

/-! ### What moves come to -/

/-- How an operation of a call can be answered at once, and the journal after it. -/
inductive Serving (journal : Journal) : (op : Service.Op) → Service.Answer op → Journal → Prop
  | refused (request : CallerRequest) (ended : journal.coordinator.life ≠ .running) :
      Serving journal (.inl (.ask request)) Answer.refused journal
  | joined {result : Except ServiceError Unit} (joining : Joining journal.coordinator result) :
      Serving journal (.inl .join) result (journal.move .join)
  | phase : Serving journal (.inr (.inl .phase)) journal.coordinator.worker.phase journal
  | posted (update : CacheUpdate) :
      Serving journal (.inr (.inl (.post update))) () (journal.move (.report update))
  | engine (op : Engine.Bridge.Op) (answer : Engine.Bridge.interface.Answer op) :
      Serving journal (.inr (.inr op)) answer journal

/-- What a move can come to. -/
inductive Exchanging : Exchange → Exchange → Prop
  | ignored {exchange : Exchange} : Exchanging exchange exchange
  | called {exchange : Exchange} (task : Task) :
      Exchanging exchange { exchange with calls := exchange.calls ++ [.new task] }
  | sent {exchange : Exchange} {number : Nat} {call : Call} {request : CallerRequest}
      (found : exchange.calls[number]? = some call) (asks : call.request? = some request)
      (fresh : number ∉ exchange.journal.coordinator.commands.map Prod.fst)
      (running : exchange.journal.coordinator.life = .running) :
      Exchanging exchange
        { exchange with journal := exchange.journal.move (.send number request) }
  | answered {exchange : Exchange} {number : Nat} {call : Call} {op : Service.Op}
      {next : Service.Answer op → Program Service (Except ServiceError call.task.Value)}
      {answer : Service.Answer op} {journal : Journal}
      (found : exchange.calls[number]? = some call) (asks : call.rest = .ask op next)
      (serving : Serving exchange.journal op answer journal) :
      Exchanging exchange
        { journal, calls := exchange.calls.set number (call.proceed op answer next) }
  | around {exchange : Exchange} {next : Compression.Move}
      (unsent : (exchange.journal.move next).sent = exchange.journal.sent) :
      Exchanging exchange (exchange.around next)

section

variable {exchange after : Exchange} {journal : Journal} {number : Nat} {engine : EngineAnswers}

theorem serve_ask (request : CallerRequest) :
    serve journal number engine (.inl (.ask request)) =
      if number ∈ journal.coordinator.commands.map Prod.fst then (none, journal)
      else if journal.coordinator.isRunning then (none, journal.move (.send number request))
      else (some Answer.refused, journal) := by
  unfold serve Coordinator.send
  cases journal.coordinator.isRunning <;> rfl

theorem serving_of_serve {op : Service.Op} {answer : Service.Answer op} {later : Journal}
    (served : serve journal number engine op = (some answer, later)) :
    Serving journal op answer later := by
  match op with
  | .inl (.ask request) =>
    rw [serve_ask] at served
    split at served
    · cases served
    · split at served
      · cases served
      · rename_i ended
        cases served
        exact .refused request (mt isRunning_iff.mpr ended)
  | .inl .join =>
    unfold serve at served
    cases joined : journal.coordinator.join? with
    | none =>
      rw [joined] at served
      cases served
    | some joining =>
      rw [joined] at served
      cases served
      exact .joined (joining_of_join joined).2
  | .inr (.inl .phase) =>
    cases served
    exact .phase
  | .inr (.inl (.post update)) =>
    cases served
    exact .posted update
  | .inr (.inr op) =>
    cases served
    exact .engine op _

/-- An operation that is not answered at once is the end of the worker, or a request that waits
or is sent. -/
theorem unserved_of_serve {op : Service.Op} {later : Journal}
    (served : serve journal number engine op = (none, later)) :
    later = journal ∨ ∃ request, op = .inl (.ask request) ∧
      number ∉ journal.coordinator.commands.map Prod.fst ∧
      journal.coordinator.life = .running ∧ later = journal.move (.send number request) := by
  match op with
  | .inl (.ask request) =>
    rw [serve_ask] at served
    split at served
    · cases served
      exact .inl rfl
    · rename_i fresh
      split at served
      · rename_i runs
        cases served
        exact .inr ⟨request, rfl, fresh, isRunning_iff.mp runs, rfl⟩
      · cases served
  | .inl .join =>
    unfold serve at served
    cases joined : journal.coordinator.join? with
    | none =>
      rw [joined] at served
      cases served
      exact .inl rfl
    | some joining =>
      rw [joined] at served
      cases served
  | .inr (.inl .phase) | .inr (.inl (.post update)) | .inr (.inr op) => cases served

theorem exchanging_drive (exchange : Exchange) (number : Nat) (engine : EngineAnswers) :
    Exchanging exchange (exchange.drive number engine) := by
  unfold drive
  cases found : exchange.calls[number]? with
  | none => exact .ignored
  | some call =>
    cases asks : call.rest with
    | done value =>
      simp only [asks]
      exact .ignored
    | ask op next =>
      simp only [asks]
      cases served : serve exchange.journal number engine op with
      | mk answer? later =>
        cases answer? with
        | none =>
          obtain rfl | ⟨request, rfl, fresh, running, rfl⟩ := unserved_of_serve served
          · exact .ignored
          · exact .sent found (congrArg asked? asks) fresh running
        | some answer => exact .answered found asks (serving_of_serve served)

theorem sent_move_of_not_send {journal : Journal} {next : Compression.Move}
    (unsent : journal.run.sends next = []) : (journal.move next).sent = journal.sent := by
  simp [Journal.move, unsent]

theorem exchanging (exchange : Exchange) (next : Move) :
    Exchanging exchange (exchange.move next) := by
  cases next with
  | call task =>
    simp only [move]
    split
    · exact .called task
    · exact .ignored
  | proceed number engine => exact exchanging_drive exchange number engine
  | report | announce | turn | cancel => exact .around (sent_move_of_not_send rfl)
  | close =>
    simp only [move]
    split
    · exact .around (sent_move_of_not_send rfl)
    · exact .ignored

end

/-- What every move keeps holds after moves. -/
theorem keeps (Kept : Exchange → Prop) {exchange : Exchange} (first : Kept exchange)
    (move : ∀ {before after}, Kept before → Exchanging before after → Kept after)
    (later : List Move) : Kept (exchange.moves later) :=
  List.foldlRecOn later Exchange.move first fun before kept next _ =>
    move kept (before.exchanging next)

/-! ### How an exchange goes on -/

section

variable {exchange after : Exchange}

theorem moves_append (exchange : Exchange) (first second : List Move) :
    exchange.moves (first ++ second) = (exchange.moves first).moves second :=
  List.foldl_append

theorem Serving.follows {journal after : Journal} {op : Service.Op} {answer : Service.Answer op}
    (serving : Serving journal op answer after) : journal.Follows after := by
  cases serving with
  | refused | phase | engine => exact .refl journal
  | joined | posted => exact .move journal _

theorem Exchanging.follows (exchanging : Exchanging exchange after) :
    exchange.journal.Follows after.journal := by
  cases exchanging with
  | ignored | called => exact .refl _
  | sent | around => exact .move _ _
  | answered found asks serving => exact serving.follows

theorem follows_moves (exchange : Exchange) (later : List Move) :
    exchange.journal.Follows (exchange.moves later).journal :=
  keeps (fun after => exchange.journal.Follows after.journal) (.refl _)
    (fun follows exchanging => follows.trans exchanging.follows) later

/-- How a call came to be as it is after a move. -/
inductive Stems (exchange after : Exchange) (number : Nat) : Call → Prop
  | made (absent : exchange.calls[number]? = none) (task : Task) :
      Stems exchange after number (.new task)
  | left {call : Call} (found : exchange.calls[number]? = some call) :
      Stems exchange after number call
  | answered {call : Call} {op : Service.Op}
      {next : Service.Answer op → Program Service (Except ServiceError call.task.Value)}
      {answer : Service.Answer op} (found : exchange.calls[number]? = some call)
      (asks : call.rest = .ask op next)
      (serving : Serving exchange.journal op answer after.journal) :
      Stems exchange after number (call.proceed op answer next)
  | heard {call : Call} {request : CallerRequest}
      {next : Answer → Program Service (Except ServiceError call.task.Value)} {answer : Answer}
      {move : Compression.Move} (found : exchange.calls[number]? = some call)
      (asks : call.rest = .ask (.inl (.ask request)) next)
      (given : (number, answer) ∈ exchange.journal.run.answers move)
      (moved : after.journal = exchange.journal.move move)
      (unsent : (exchange.journal.move move).sent = exchange.journal.sent) :
      Stems exchange after number (call.proceed (.inl (.ask request)) answer next)

theorem stems_hear {next : Compression.Move} {number : Nat} {call : Call} {answer : Answer}
    (unsent : (exchange.journal.move next).sent = exchange.journal.sent)
    (found : exchange.calls[number]? = some call)
    (given : (number, answer) ∈ exchange.journal.run.answers next) :
    Stems exchange (exchange.around next) number (call.hear answer) := by
  cases asks : call.request? with
  | none =>
    rw [Call.hear_of_quiet asks]
    exact .left found
  | some request =>
    obtain ⟨after, rest, heard⟩ := Call.rest_of_request asks
    rw [heard]
    exact .heard found rest given rfl unsent

/-- A call whose number is answered hears an answer. -/
theorem heard_around {next : Compression.Move} {number : Nat} {call : Call}
    (found : exchange.calls[number]? = some call)
    (told : number ∈ (exchange.journal.run.answers next).map Prod.fst) :
    ∃ answer, (exchange.around next).calls[number]? = some (call.hear answer) := by
  have mapped : (exchange.around next).calls[number]? = exchange.calls[number]?.map _ :=
    List.getElem?_mapIdx
  rw [found] at mapped
  cases given : (exchange.journal.run.answers next).lookup number with
  | none =>
    obtain ⟨entry, among, rfl⟩ := List.mem_map.mp told
    simpa using List.lookup_eq_none_iff.mp given entry among
  | some answer =>
    refine ⟨answer, mapped.trans ?_⟩
    rw [given]
    rfl

theorem Exchanging.stems {number : Nat} {call : Call} (exchanging : Exchanging exchange after)
    (found : after.calls[number]? = some call) : Stems exchange after number call := by
  cases exchanging with
  | ignored | sent => exact .left found
  | called task =>
    rw [List.getElem?_append] at found
    split at found
    · exact .left found
    · rename_i beyond
      rw [List.getElem?_singleton] at found
      split at found
      · cases found
        exact .made (List.getElem?_eq_none (Nat.le_of_not_lt beyond)) task
      · cases found
  | @answered other caller op next answer journal same asks serving =>
    by_cases own : other = number
    · subst own
      obtain ⟨bound, _⟩ := List.getElem?_eq_some_iff.mp same
      rw [List.getElem?_set_self bound] at found
      cases found
      exact .answered same asks serving
    · rw [List.getElem?_set_ne own] at found
      exact .left found
  | @around next unsent =>
    have mapped : (exchange.calls.mapIdx _)[number]? = some call := found
    rw [List.getElem?_mapIdx] at mapped
    obtain ⟨before, same, rfl⟩ := Option.map_eq_some_iff.mp mapped
    cases given : (exchange.journal.run.answers next).lookup number with
    | none => exact .left same
    | some answer =>
      obtain ⟨first, later, split, _⟩ := List.lookup_eq_some_iff.mp given
      refine stems_hear unsent same ?_
      rw [split]
      exact List.mem_append_right _ List.mem_cons_self

theorem Exchanging.found {number : Nat} {call : Call} (exchanging : Exchanging exchange after)
    (found : exchange.calls[number]? = some call) : ∃ later, after.calls[number]? = some later := by
  obtain ⟨bound, _⟩ := List.getElem?_eq_some_iff.mp found
  refine ⟨_, List.getElem?_eq_getElem ?_⟩
  cases exchanging with
  | ignored | sent => exact bound
  | called =>
    rw [List.length_append]
    exact Nat.lt_add_right _ bound
  | answered => rwa [List.length_set]
  | around =>
    change _ < (exchange.calls.mapIdx _).length
    rwa [List.length_mapIdx]

/-- A call remains the call of its client, and takes nothing back. -/
structure Continues (call later : Call) : Prop where
  task : later.task = call.task
  events : call.events <+: later.events

theorem Stems.continues {number : Nat} {call later : Call}
    (stems : Stems exchange after number later)
    (found : exchange.calls[number]? = some call) : Continues call later := by
  cases stems with
  | made absent => cases absent.symm.trans found
  | left same =>
    cases found.symm.trans same
    exact ⟨rfl, List.prefix_rfl⟩
  | answered same | heard same =>
    cases found.symm.trans same
    exact ⟨rfl, List.prefix_append _ _⟩

theorem Exchanging.call {number : Nat} {call : Call} (exchanging : Exchanging exchange after)
    (found : exchange.calls[number]? = some call) :
    ∃ later, after.calls[number]? = some later ∧ Continues call later := by
  obtain ⟨later, still⟩ := exchanging.found found
  exact ⟨later, still, (exchanging.stems still).continues found⟩

theorem call_moves {number : Nat} {call : Call} (found : exchange.calls[number]? = some call)
    (later : List Move) :
    ∃ last, (exchange.moves later).calls[number]? = some last ∧ Continues call last := by
  refine keeps (fun after => ∃ last, after.calls[number]? = some last ∧ Continues call last)
    ⟨call, found, rfl, List.prefix_rfl⟩ ?_ later
  rintro before after ⟨middle, known, first⟩ exchanging
  obtain ⟨last, still, second⟩ := exchanging.call known
  exact ⟨last, still, second.task.trans first.task, first.events.trans second.events⟩

end

end Exchange
end BackgroundWork.Compression
