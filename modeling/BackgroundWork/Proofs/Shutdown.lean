import BackgroundWork.Proofs.ClientOrder

set_option autoImplicit false

/-!
Shutting the worker down. Once it has taken the command it is torn down; what comes later does not
reach it any more, and requests that it did not take fail. A call that shuts it down joins its end
only when it is gone, and each turn of a worker that others wait for takes one thing off the
backlog, so that the call gets there. Main statement: the end is final for everybody, and whoever
shuts the worker down returns when it is torn down.
-/

namespace BackgroundWork.Compression.Exchange

open Program (Passes)

/-! ### Requests after the end -/

section

variable {settings : CoordinatorSettings} {exchange : Exchange} {number : Nat} {call : Call}
  {engine : EngineAnswers}

theorem drive_done {value : Except ServiceError call.task.Value}
    (found : exchange.calls[number]? = some call) (ended : call.rest = .done value) :
    exchange.drive number engine = exchange := by
  unfold drive
  simp only [found, ended]

theorem drive_served {op : Service.Op} {answer : Service.Answer op} {later : Journal}
    {next : Service.Answer op → Program Service (Except ServiceError call.task.Value)}
    (found : exchange.calls[number]? = some call) (asks : call.rest = .ask op next)
    (served : serve exchange.journal number engine op = (some answer, later)) :
    exchange.drive number engine =
      { journal := later, calls := exchange.calls.set number (call.proceed op answer next) } := by
  unfold drive
  simp only [found, asks, served]

theorem drive_unserved {op : Service.Op} {later : Journal}
    {next : Service.Answer op → Program Service (Except ServiceError call.task.Value)}
    (found : exchange.calls[number]? = some call) (asks : call.rest = .ask op next)
    (served : serve exchange.journal number engine op = (none, later)) :
    exchange.drive number engine = { exchange with journal := later } := by
  unfold drive
  simp only [found, asks, served]

/-- The worker that has ended refuses every request. -/
theorem serve_ask_of_ended (orderly : Orderly settings exchange)
    (ended : exchange.journal.coordinator.life ≠ .running) (request : CallerRequest) :
    serve exchange.journal number engine (.inl (.ask request)) =
      (some Answer.refused, exchange.journal) := by
  have idle : number ∉ exchange.journal.coordinator.commands.map Prod.fst := by
    rw [orderly.clear.commands ended]
    exact List.not_mem_nil
  rw [serve_ask]
  exact (if_neg idle).trans (if_neg (mt isRunning_iff.mp ended))

/-- A call that has come to an error of the coordinator. -/
def Unavailable (exchange : Exchange) (number : Nat) : Prop :=
  ∃ call message, exchange.calls[number]? = some call ∧
    call.rest = .done (.error (.coordinatorUnavailable message))

theorem unavailable_of_requesting {task : Task} {request : CallerRequest}
    {shown : Answer → Except ServiceError task.Value} {events : List Service.Event}
    {rest : Program Service (Except ServiceError task.Value)}
    (refuses : ∀ answer, answer = .dropped ∨ answer = .refused →
      ∃ message, shown answer = .error (.coordinatorUnavailable message))
    (orderly : Orderly settings exchange)
    (ended : exchange.journal.coordinator.life ≠ .running)
    (found : exchange.calls[number]? = some ⟨task, events, rest⟩)
    (untaken : .command number request.command ∉ exchange.journal.taken)
    (requesting : Requesting request shown events rest) :
    Unavailable (exchange.drive number engine) number := by
  cases requesting with
  | asks =>
    obtain ⟨message, refused⟩ := refuses .refused (.inr rfl)
    obtain ⟨bound, _⟩ := List.getElem?_eq_some_iff.mp found
    rw [drive_served found rfl (serve_ask_of_ended orderly ended request)]
    refine ⟨_, message, List.getElem?_set_self bound, ?_⟩
    exact congrArg Program.done refused
  | told answer =>
    rw [drive_done found rfl]
    cases orderly.genuine number _ found _ List.mem_cons_self with
    | accepted taken => exact absurd taken untaken
    | lost lost =>
      obtain ⟨message, refused⟩ := refuses answer lost
      exact ⟨_, message, found, congrArg Program.done refused⟩

/-- Whoever asks a worker that has ended for anything but its end is told that it is gone. -/
theorem unavailable_of_ended {request : CallerRequest} (orderly : Orderly settings exchange)
    (ended : exchange.journal.coordinator.life ≠ .running)
    (found : exchange.calls[number]? = some call) (requests : call.task.request? = some request)
    (other : call.task ≠ .shutDown)
    (untaken : .command number request.command ∉ exchange.journal.taken) (engine : EngineAnswers) :
    Unavailable (exchange.drive number engine) number := by
  have passes := orderly.passes call (List.mem_of_getElem? found)
  obtain ⟨task, events, rest⟩ := call
  cases task with
  | start | stop | lifecycle =>
    cases requests
    exact unavailable_of_requesting outcome_of_lost orderly ended found untaken
      (requesting_of_passes passes)
  | snapshot =>
    cases requests
    exact unavailable_of_requesting shown_of_lost orderly ended found untaken
      (requesting_of_passes passes)
  | shutDown => exact absurd rfl other
  | queue | updatePriority | compress | cancel | status | refreshStatus | refreshQueue =>
    cases requests

/-- Nothing was taken of a call that is yet to come. -/
theorem Orderly.untaken_of_later (orderly : Orderly settings exchange) (command : Command)
    (later : exchange.calls.length ≤ number) :
    .command number command ∉ exchange.journal.taken := by
  intro taken
  obtain ⟨left, sent, _⟩ := orderly.accounted.sent
  have among : (number, command) ∈ exchange.journal.sent := by
    rw [sent]
    exact List.mem_append_left _ (List.mem_filterMap.mpr ⟨_, taken, rfl⟩)
  obtain ⟨call, found, _⟩ := orderly.sent number (List.mem_map_of_mem among)
  have absent := List.getElem?_eq_none later
  cases absent.symm.trans found

end

/-! ### Calls that shut the worker down -/

section

variable {settings : CoordinatorSettings} {exchange after : Exchange} {number : Nat} {call : Call}
  {engine : EngineAnswers}

/-- Whoever has joined the end of the worker, or was answered, found it ended. -/
theorem Orderly.ended_of_answered {answer : Answer} (orderly : Orderly settings exchange)
    (found : exchange.calls[number]? = some call)
    (told : (⟨.inl (.ask .shutdown), answer⟩ : Service.Event) ∈ call.events) :
    exchange.journal.coordinator.life ≠ .running := by
  cases orderly.genuine number call found _ told with
  | accepted taken =>
    rw [(orderly.accounted.shutDown number taken).1]
    nofun
  | lost _ ended => exact ended

theorem returned_of_ended
    (unfailed : ∀ failure, exchange.journal.coordinator.life ≠ .failed failure)
    (ended : exchange.journal.coordinator.life ≠ .running) :
    exchange.journal.coordinator.life = .returned := by
  cases life : exchange.journal.coordinator.life with
  | running => exact absurd life ended
  | returned => rfl
  | failed failure => exact absurd life (unfailed failure)

theorem Orderly.tornDown (orderly : Orderly settings exchange)
    (returned : exchange.journal.coordinator.life = .returned) :
    exchange.journal.run.TornDown := by
  obtain ⟨moves, same⟩ := orderly.journal
  rw [same] at returned ⊢
  exact Journal.tornDown returned

/-- A call that has shut the worker down has succeeded, and finds it torn down. -/
theorem Orderly.shut_down {events : List Service.Event} {result : Except ServiceError Unit}
    (orderly : Orderly settings exchange)
    (found : exchange.calls[number]? = some ⟨.shutDown, events, .done result⟩)
    (unfailed : ∀ failure, exchange.journal.coordinator.life ≠ .failed failure) :
    result = .ok () ∧ exchange.journal.coordinator.life = .returned := by
  have passes := orderly.passes _ (List.mem_of_getElem? found)
  cases shuttingDown_of_passes passes with
  | told answer =>
    have joined := orderly.genuine number _ found _ (List.mem_cons_of_mem _ List.mem_cons_self)
    cases joined with
    | joined ended clean =>
      have returned := returned_of_ended unfailed ended
      exact ⟨clean returned, returned⟩

end

/-! ### The backlog -/

/-- How much waits for the worker. -/
def backlog (journal : Journal) : Nat :=
  journal.coordinator.internal.length + journal.coordinator.commands.length

/-- A move adds at most one thing to what waits for a worker that runs on. -/
theorem backlog_record {journal after : Journal} {answers : List (Nat × Answer)}
    (recording : journal.Recording after answers)
    (running : after.coordinator.life = .running) : backlog after ≤ backlog journal + 1 := by
  unfold backlog
  cases recording with
  | unmoved unmoved =>
    rw [unmoved.coordinator]
    exact Nat.le_succ _
  | posted | sent =>
    simp only [List.length_append, List.length_singleton]
    omega
  | turned _ first dealt =>
    obtain ⟨internal, commands⟩ := dealt.waiting running
    have waiting := first.waiting
    simp only [Journal.coordinator, Run.take] at *
    rw [internal, commands, waiting.1, waiting.2, List.length_append, List.length_append]
    omega
  | cancelled runs =>
    have cancelled : journal.coordinator.cancel = _ := if_pos (isRunning_iff.mpr runs)
    change journal.coordinator.cancel.coordinator.life = .running at running
    rw [cancelled] at running
    cases running

/-- A turn takes something from what waits for a worker that runs on, if a command does. -/
theorem backlog_turn {journal : Journal} {moment : Moment}
    (waits : journal.coordinator.commands ≠ [])
    (running : (journal.move (.turn moment)).coordinator.life = .running) :
    backlog (journal.move (.turn moment)) + 1 = backlog journal := by
  have runs := (Journal.Follows.move journal (.turn moment)).running running
  cases turned : journal.coordinator.turn? moment with
  | none =>
    unfold Coordinator.turn? at turned
    rw [if_pos (isRunning_iff.mpr runs)] at turned
    split at turned
    · cases turned
    · cases turned
    · rename_i idle
      exact absurd idle waits
  | some progress =>
    obtain ⟨_, item, rest, _, first, dealt⟩ := dealt_of_turn turned
    have after : (journal.move (.turn moment)).coordinator = progress.coordinator := by
      simp [Journal.move, Run.move, Run.take, turned]
    rw [after] at running
    obtain ⟨internal, commands⟩ := dealt.waiting running
    unfold backlog
    rw [after, internal, commands]
    cases first with
    | internal waiting =>
      simp only [waiting, List.length_cons]
      omega
    | command quiet waiting =>
      simp only [waiting, List.length_cons]
      omega
    | tick _ idle | leave _ idle => exact absurd idle waits

theorem backlog_exchange {exchange after : Exchange} (exchanging : Exchanging exchange after)
    (running : after.journal.coordinator.life = .running) :
    backlog after.journal ≤ backlog exchange.journal + 1 := by
  cases exchanging with
  | ignored | called => exact Nat.le_succ _
  | sent | around => exact backlog_record (exchange.journal.recording _) running
  | answered found asks serving =>
    cases serving with
    | refused | phase | engine => exact Nat.le_succ _
    | joined | posted => exact backlog_record (exchange.journal.recording _) running

/-! ### Getting there -/

/-- Whether a move is a turn of the worker. -/
def Move.isTurn : Move → Bool
  | .turn _ => true
  | _ => false

/-- The call of a number shuts the worker down, and has sent its request or was refused. -/
def Begun (exchange : Exchange) (number : Nat) : Prop :=
  ∃ call, exchange.calls[number]? = some call ∧ call.task = .shutDown ∧
    (number ∈ exchange.journal.sent.map Prod.fst ∨ call.events ≠ [])

section

variable {settings : CoordinatorSettings} {exchange after : Exchange} {number : Nat}
  {engine : EngineAnswers}

theorem Begun.moves (begun : Begun exchange number) (later : List Move) :
    Begun (exchange.moves later) number := by
  obtain ⟨call, found, task, sent⟩ := begun
  obtain ⟨last, still, same, events⟩ := call_moves found later
  refine ⟨last, still, same.trans task, sent.imp ?_ ?_⟩
  · intro earlier
    exact ((follows_moves exchange later).sent.map Prod.fst).subset earlier
  · intro told empty
    rw [empty] at events
    exact told (List.prefix_nil.mp events)

/-- As long as the worker runs, the command of a call that shuts it down waits. -/
theorem Begun.waits (begun : Begun exchange number) (orderly : Orderly settings exchange)
    (running : exchange.journal.coordinator.life = .running) :
    exchange.journal.coordinator.commands ≠ [] := by
  obtain ⟨⟨task, events, rest⟩, found, shuts, sent⟩ := begun
  cases shuts
  have untold : events = [] := by
    have passes := orderly.passes _ (List.mem_of_getElem? found)
    cases shuttingDown_of_passes passes with
    | asks => rfl
    | joins | told =>
      exact absurd running (orderly.ended_of_answered found List.mem_cons_self)
  obtain ⟨other, same, waits⟩ := orderly.sent number (sent.resolve_right fun told => told untold)
  cases found.symm.trans same
  have queued := waits.resolve_right fun told => told untold
  intro empty
  rw [empty] at queued
  cases queued

/-- A call that shuts the worker down begins with its first step. -/
theorem begun_drive {events : List Service.Event}
    {rest : Program Service (Except ServiceError Unit)} (orderly : Orderly settings exchange)
    (found : exchange.calls[number]? = some ⟨.shutDown, events, rest⟩) (engine : EngineAnswers) :
    Begun (exchange.drive number engine) number := by
  have passes := orderly.passes _ (List.mem_of_getElem? found)
  cases shuttingDown_of_passes passes with
  | asks =>
    by_cases running : exchange.journal.coordinator.life = .running
    · have runs := isRunning_iff.mpr running
      have asked := @serve_ask exchange.journal number engine .shutdown
      by_cases waits : number ∈ exchange.journal.coordinator.commands.map Prod.fst
      · rw [drive_unserved found rfl (asked.trans (if_pos waits))]
        refine ⟨_, found, rfl, .inl ?_⟩
        obtain ⟨left, sent, same⟩ := orderly.accounted.sent
        rw [sent, same running, List.map_append]
        exact List.mem_append_right _ waits
      · rw [drive_unserved found rfl ((asked.trans (if_neg waits)).trans (if_pos runs))]
        refine ⟨_, found, rfl, .inl ?_⟩
        rw [Journal.move_send running, List.map_append]
        exact List.mem_append_right _ (List.mem_singleton.mpr rfl)
    · obtain ⟨bound, _⟩ := List.getElem?_eq_some_iff.mp found
      rw [drive_served found rfl (serve_ask_of_ended orderly running .shutdown)]
      exact ⟨_, List.getElem?_set_self bound, rfl, .inr (List.cons_ne_nil _ _)⟩
  | joins | told =>
    obtain ⟨later, still, task, events⟩ := (exchange.exchanging (.proceed number engine)).call found
    refine ⟨later, still, task, .inr ?_⟩
    intro empty
    rw [empty] at events
    cases List.prefix_nil.mp events

theorem join_of_ended {coordinator : Coordinator} (ended : coordinator.life ≠ .running) :
    ∃ result later, coordinator.join? = some (result, later) := by
  unfold Coordinator.join?
  by_cases again : coordinator.isJoined = true
  · rw [if_pos again]
    exact ⟨_, _, rfl⟩
  · rw [if_neg again]
    cases life : coordinator.life with
    | running => exact absurd life ended
    | returned | failed => exact ⟨_, _, rfl⟩

/-- A call that has begun ends with its next step once the worker has ended. -/
theorem Begun.ends (begun : Begun exchange number) (orderly : Orderly settings exchange)
    (ended : exchange.journal.coordinator.life ≠ .running) (engine : EngineAnswers) :
    ∃ events result,
      (exchange.drive number engine).calls[number]? = some ⟨.shutDown, events, .done result⟩ := by
  obtain ⟨⟨task, events, rest⟩, found, shuts, sent⟩ := begun
  cases shuts
  have passes := orderly.passes _ (List.mem_of_getElem? found)
  cases shuttingDown_of_passes passes with
  | asks =>
    obtain ⟨other, same, waits⟩ := orderly.sent number (sent.resolve_right fun told => told rfl)
    cases found.symm.trans same
    have queued := waits.resolve_right fun told => told rfl
    rw [orderly.clear.commands ended] at queued
    cases queued
  | joins answer =>
    obtain ⟨result, later, joined⟩ := join_of_ended ended
    have served : serve exchange.journal number engine (.inl .join) =
        (some result, exchange.journal.move .join) := by
      unfold serve
      simp only [joined]
      rfl
    obtain ⟨bound, _⟩ := List.getElem?_eq_some_iff.mp found
    rw [drive_served found rfl served]
    exact ⟨_, result, List.getElem?_set_self bound⟩
  | told answer result =>
    rw [drive_done found rfl]
    exact ⟨_, result, found⟩

/-- Turns outdo what waits and what else happens. -/
theorem Begun.outrun (begun : Begun exchange number) (orderly : Orderly settings exchange)
    (later : List Move)
    (running : (exchange.moves later).journal.coordinator.life = .running) :
    backlog (exchange.moves later).journal + later.countP Move.isTurn ≤
      backlog exchange.journal + later.countP (fun next => !next.isTurn) := by
  induction later generalizing exchange with
  | nil => exact Nat.le_refl _
  | cons next later ih =>
    have exchanging := exchange.exchanging next
    have after := (follows_moves (exchange.move next) later).running running
    have before := exchanging.follows.running after
    have waits := begun.waits orderly before
    have rest : backlog ((exchange.move next).moves later).journal + later.countP Move.isTurn ≤
        backlog (exchange.move next).journal + later.countP (fun next => !next.isTurn) :=
      ih (begun.moves [next]) (orderly.move exchanging) running
    change backlog ((exchange.move next).moves later).journal + _ ≤ _
    cases turns : next.isTurn with
    | true =>
      have taken : backlog (exchange.move next).journal + 1 = backlog exchange.journal := by
        cases next with
        | turn moment => exact backlog_turn waits after
        | call | proceed | report | announce | close | cancel => cases turns
      rw [List.countP_cons_of_pos turns, List.countP_cons_of_neg (by simp [turns])]
      omega
    | false =>
      have added := backlog_exchange exchanging after
      rw [List.countP_cons_of_neg (by simp [turns]), List.countP_cons_of_pos (by simp [turns])]
      omega

/-- Once there were more turns than what waited and what else happened, a worker that a call shuts
down has ended. -/
theorem ended_of_outrun {rest : Program Service (Except ServiceError Unit)}
    {events : List Service.Event} (orderly : Orderly settings exchange)
    (found : exchange.calls[number]? = some ⟨.shutDown, events, rest⟩) (later : List Move)
    (engine : EngineAnswers)
    (outrun : backlog exchange.journal + later.countP (fun next => !next.isTurn) <
      later.countP Move.isTurn) :
    ((exchange.drive number engine).moves later).journal.coordinator.life ≠ .running := by
  intro running
  have begun := begun_drive orderly found engine
  have first : Orderly settings (exchange.drive number engine) :=
    orderly.moves [.proceed number engine]
  have runs := (follows_moves (exchange.drive number engine) later).running running
  have began : backlog (exchange.drive number engine).journal ≤ backlog exchange.journal + 1 :=
    backlog_exchange (exchange.exchanging (.proceed number engine)) runs
  have left := begun.outrun first later running
  -- Its command still waits, so that the backlog is not empty.
  have waits := List.length_pos_iff.mpr
    ((begun.moves later).waits (first.moves later) running)
  unfold backlog at *
  omega

end

/-- Once the worker has taken the command to shut down, at whatever place among the requests,
reports, announcements and other calls, it is torn down: inactive, without timer and window,
monitoring off and the phase in the foreground. That was the last thing that it took. Whatever
comes later leaves it and all that it did as it is, and whoever asks it for something later, or did
and was not served by then, is told that it is not available. A call that has shut it down, whether
it was the first, a repeated or a concurrent one, has succeeded and finds it torn down, unless it
crashed or was cancelled; and such a call comes to its end as soon as the worker had more turns than
there was waiting for it and happened otherwise. -/
theorem shutdown_is_final (settings : CoordinatorSettings) (history : List Move) :
    let exchange := of settings history
    (∀ ticket, .command ticket .shutdown ∈ exchange.journal.taken →
      exchange.journal.run.TornDown ∧
        (∃ earlier, exchange.journal.taken = earlier ++ [.command ticket .shutdown]) ∧
        ∀ later, let after := exchange.moves later
          exchange.journal.Unmoved after.journal ∧
            ∀ (number : Nat) call request engine, after.calls[number]? = some call →
              call.task.request? = some request → call.task ≠ .shutDown →
              exchange.calls.length ≤ number ∨
                .command number request.command ∉ exchange.journal.taken →
              Unavailable (after.drive number engine) number) ∧
      (∀ (number : Nat) events result,
        exchange.calls[number]? = some ⟨.shutDown, events, .done result⟩ →
        (∀ failure, exchange.journal.coordinator.life ≠ .failed failure) →
        result = .ok () ∧ exchange.journal.run.TornDown) ∧
      ∀ (number : Nat) events rest, exchange.calls[number]? = some ⟨.shutDown, events, rest⟩ →
        ∀ later engine, backlog exchange.journal + later.countP (fun next => !next.isTurn) <
            later.countP Move.isTurn →
          let after := exchange.moves (.proceed number engine :: later ++ [.proceed number engine])
          (∀ failure, after.journal.coordinator.life ≠ .failed failure) →
          ∃ events, after.calls[number]? = some ⟨.shutDown, events, .done (.ok ())⟩ ∧
            after.journal.run.TornDown := by
  intro exchange
  have orderly : Orderly settings exchange := .of settings history
  refine ⟨?_, ?_, ?_⟩
  · intro ticket taken
    obtain ⟨returned, last⟩ := orderly.accounted.shutDown ticket taken
    have ended : exchange.journal.coordinator.life ≠ .running := by
      rw [returned]
      nofun
    refine ⟨orderly.tornDown returned, last, ?_⟩
    intro later after
    have unmoved := (follows_moves exchange later).ended ended
    refine ⟨unmoved, ?_⟩
    intro number call request engine found requests other beyond
    refine unavailable_of_ended (orderly.moves later) ?_ found requests other ?_ engine
    · rwa [unmoved.life]
    · rw [unmoved.taken]
      exact beyond.elim (orderly.untaken_of_later _) id
  · intro number events result found unfailed
    obtain ⟨succeeded, returned⟩ := orderly.shut_down found unfailed
    exact ⟨succeeded, orderly.tornDown returned⟩
  · intro number events rest found later engine outdone after unfailed
    have begun := begun_drive orderly found engine
    have ended := ended_of_outrun orderly found later engine outdone
    have middle : Orderly settings ((exchange.drive number engine).moves later) :=
      orderly.moves (.proceed number engine :: later)
    have last : Orderly settings after := orderly.moves _
    have same : after =
        ((exchange.drive number engine).moves later).drive number engine :=
      moves_append exchange (_ :: later) [_]
    obtain ⟨events, result, done⟩ := (begun.moves later).ends middle ended engine
    rw [← same] at done
    obtain ⟨rfl, returned⟩ := last.shut_down done unfailed
    exact ⟨events, done, last.tornDown returned⟩

/-- Two clients shut the worker down at once, and a third wants a snapshot in between. -/
example :
    let silent : EngineAnswers := fun
      | .invoke .. => .error "unreachable"
      | .read _ => Text.Terminated.cut []
      | .release _ => ()
      | .lastError => none
    let exchange := of Settings.default.coordinator
      [.call .start, .call .shutDown, .call .snapshot, .call .shutDown, .proceed 0 silent,
        .proceed 1 silent, .proceed 2 silent, .proceed 3 silent, .turn (.calm none),
        .turn (.calm none), .proceed 3 silent, .proceed 1 silent]
    exchange.calls.map Call.isDone = [true, true, true, true] ∧
      exchange.journal.taken = [.command 0 (.dispatch .start), .command 1 .shutdown] := by
  decide +kernel

end BackgroundWork.Compression.Exchange
