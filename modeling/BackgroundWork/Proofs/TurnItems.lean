import BackgroundWork.Proofs.CoordinatorSteps
import BackgroundWork.Proofs.LifecyclePhase
import BackgroundWork.Proofs.ActiveResources

set_option autoImplicit false

/-!
What the worker takes in a turn and what comes of it. `First` says what is taken of all that
waits, and `Dealt` has one rule for each way to deal with it, down to the handlers' own result.
Whoever no longer waits after a turn is answered in it, and a worker that ends in order is left
like one that was stopped.
-/

namespace BackgroundWork.Compression

open Background

/-! ### What the worker takes -/

/-- What the worker takes in a turn. -/
inductive Item where
  | internal (event : Event)
  | command (ticket : Nat) (command : Command)
  | tick
  /-- There is nobody left who could send anything. -/
  | leave
  deriving DecidableEq

namespace Item

/-- The event that is handled with an item, if one is. -/
def event? : Item → Option Event
  | .internal event => some event
  | .command _ (.dispatch event) => some event
  | .tick => some .telemetryTick
  | .command _ .snapshot | .command _ .shutdown | .leave => none

/-- The report or announcement that an item is, if it is one. -/
def internal? : Item → Option Event
  | .internal event => some event
  | .command .. | .tick | .leave => none

/-- The command that an item is, with its ticket, if it is one. -/
def command? : Item → Option (Nat × Command)
  | .command ticket asked => some (ticket, asked)
  | .internal _ | .tick | .leave => none

/-- The ticket of an item, if a caller sent it. -/
def ticket? (item : Item) : Option Nat :=
  item.command?.map Prod.fst

end Item

/-- What the worker takes in its next turn, if it takes one: the oldest report or announcement,
else the oldest command, else a timer that is due. -/
def Coordinator.item? (coordinator : Coordinator) (now : Nat) : Option Item :=
  if coordinator.isRunning then
    match coordinator.internal, coordinator.commands with
    | event :: _, _ => some (.internal event)
    | [], (ticket, command) :: _ => some (.command ticket command)
    | [], [] =>
      if coordinator.isOpen then (coordinator.tick? now).map fun _ => .tick else some .leave
  else none

/-- What the worker takes first of all that waits, and the coordinator without it. -/
inductive First (now : Nat) : Coordinator → Item → Coordinator → Prop
  | internal {coordinator : Coordinator} {event : Event} {rest : List Event}
      (waiting : coordinator.internal = event :: rest) :
      First now coordinator (.internal event) { coordinator with internal := rest }
  | command {coordinator : Coordinator} {ticket : Nat} {command : Command}
      {rest : List (Nat × Command)} (quiet : coordinator.internal = [])
      (waiting : coordinator.commands = (ticket, command) :: rest) :
      First now coordinator (.command ticket command) { coordinator with commands := rest }
  | tick {coordinator : Coordinator} {timer : Timer} (quiet : coordinator.internal = [])
      (idle : coordinator.commands = []) (timed : coordinator.worker.timer = some timer) :
      First now coordinator .tick
        { coordinator with
          worker := { coordinator.worker with timer := some (timer.next now) } }
  | leave {coordinator : Coordinator} (quiet : coordinator.internal = [])
      (idle : coordinator.commands = []) : First now coordinator .leave coordinator

/-- What a turn comes to, given what the worker takes and the coordinator without it. -/
inductive Dealt (moment : Moment) : Coordinator → Item → Progress → Prop
  | handled {rest : Coordinator} {item : Item} {event : Event} {turn : Turn}
      (due : item.event? = some event)
      (handled : rest.worker.handle rest.settings moment event = .ok turn) :
      Dealt moment rest item
        ⟨{ rest with worker := turn.worker }, turn.effects,
          item.ticket?.toList.map fun ticket => (ticket, .handled)⟩
  | crashed {rest : Coordinator} {item : Item} {event : Event} {crash : Crash}
      (due : item.event? = some event)
      (crashed : rest.worker.handle rest.settings moment event = .error crash) :
      Dealt moment rest item
        (rest.finish (.failed (.panicked crash.message)) crash.turn
          (item.ticket?.toList.map fun ticket => (ticket, .dropped)) rest.commands)
  | shown {rest : Coordinator} (ticket : Nat) :
      Dealt moment rest (.command ticket .snapshot)
        ⟨rest, [], [(ticket, .snapshot rest.worker.snapshot)]⟩
  | shutDown {rest : Coordinator} (ticket : Nat) :
      Dealt moment rest (.command ticket .shutdown)
        (rest.finish .returned rest.worker.tearDown [(ticket, .handled)] rest.commands)
  | left {rest : Coordinator} (idle : rest.commands = []) :
      Dealt moment rest .leave (rest.finish .returned rest.worker.tearDown [] rest.commands)

section

variable {coordinator rest : Coordinator} {item : Item} {moment : Moment} {progress : Progress}

theorem dealt_of_handle {event : Event} {ticket : Option Nat} (due : item.event? = some event)
    (sender : item.ticket? = ticket) :
    Dealt moment rest item (rest.handle moment event ticket) := by
  subst sender
  unfold Coordinator.handle
  cases outcome : rest.worker.handle rest.settings moment event with
  | ok turn => exact .handled due outcome
  | error crash => exact .crashed due outcome

theorem dealt_of_take (ticket : Nat) (command : Command) :
    Dealt moment rest (.command ticket command) (rest.take moment ticket command) := by
  cases command with
  | dispatch event => exact dealt_of_handle rfl rfl
  | snapshot => exact .shown ticket
  | shutdown => exact .shutDown ticket

/-- A turn deals with the first of all that waits. -/
theorem dealt_of_turn (turned : coordinator.turn? moment = some progress) :
    coordinator.life = .running ∧ ∃ item rest, coordinator.item? moment.now = some item ∧
      First moment.now coordinator item rest ∧ Dealt moment rest item progress := by
  have running := (turning_of_turn turned).1
  refine ⟨running, ?_⟩
  have runs : coordinator.isRunning = true := isRunning_iff.2 running
  unfold Coordinator.turn? at turned
  unfold Coordinator.item?
  rw [if_pos runs] at turned ⊢
  cases queued : coordinator.internal with
  | cons event rest =>
    simp only [queued, Option.some.injEq] at turned
    subst turned
    exact ⟨.internal event, _, rfl, .internal queued, dealt_of_handle rfl rfl⟩
  | nil =>
    cases sent : coordinator.commands with
    | cons entry rest =>
      obtain ⟨ticket, command⟩ := entry
      simp only [queued, sent, Option.some.injEq] at turned
      subst turned
      refine ⟨.command ticket command, _, rfl, .command queued sent, ?_⟩
      have dealt : Dealt moment { coordinator with commands := rest } _ _ :=
        dealt_of_take ticket command
      simpa only [queued] using dealt
    | nil =>
      simp only [queued, sent] at turned
      cases isOpen : coordinator.isOpen with
      | false =>
        rw [isOpen] at turned
        cases turned
        refine ⟨.leave, coordinator, by simp, .leave queued sent, ?_⟩
        have dealt : Dealt moment coordinator .leave _ := .left sent
        rwa [sent] at dealt
      | true =>
        rw [isOpen] at turned
        obtain ⟨rest, ticked, rfl⟩ := Option.map_eq_some_iff.mp turned
        refine ⟨.tick, rest, by simp [ticked], ?_, dealt_of_handle rfl rfl⟩
        cases taking_of_tick queued sent isOpen ticked with
        | internal waiting => cases queued.symm.trans waiting
        | ticked _ _ _ timed => exact .tick queued sent timed

theorem item?_of_idle (idle : coordinator.turn? moment = none) :
    coordinator.item? moment.now = none := by
  unfold Coordinator.turn? at idle
  unfold Coordinator.item?
  by_cases runs : coordinator.isRunning = true
  · rw [if_pos runs] at idle ⊢
    cases queued : coordinator.internal with
    | cons event rest =>
      rw [queued] at idle
      cases idle
    | nil =>
      cases sent : coordinator.commands with
      | cons command rest =>
        rw [queued, sent] at idle
        cases idle
      | nil =>
        rw [queued, sent] at idle
        by_cases isOpen : coordinator.isOpen = true
        · have quiet : coordinator.tick? moment.now = none :=
            Option.map_eq_none_iff.mp ((if_pos isOpen).symm.trans idle)
          simp [isOpen, quiet]
        · rw [if_neg isOpen] at idle
          cases idle
  · rw [if_neg runs]

/-! ### What callers are told -/

/-- What a command that the worker takes is answered. -/
inductive Reply (worker : Worker) : Command → Answer → Prop
  | handled (event : Event) : Reply worker (.dispatch event) .handled
  | shown : Reply worker .snapshot (.snapshot worker.snapshot)
  | shutDown : Reply worker .shutdown .handled

theorem turnedAway_tickets (coordinator : Coordinator) (commands : List (Nat × Command)) :
    (coordinator.turnedAway commands).map Prod.fst = commands.map Prod.fst := by
  have whole := commands.take_append_drop coordinator.settings.commandQueueDepth
  calc (coordinator.turnedAway commands).map Prod.fst
      = (commands.take coordinator.settings.commandQueueDepth ++
          commands.drop coordinator.settings.commandQueueDepth).map Prod.fst := by
        simp [Coordinator.turnedAway, Function.comp_def]
    _ = commands.map Prod.fst := by rw [whole]

theorem error_of_turnedAway {commands : List (Nat × Command)} {ticket : Nat} {answer : Answer}
    (given : (ticket, answer) ∈ coordinator.turnedAway commands) :
    answer = .dropped ∨ answer = .refused := by
  rcases List.mem_append.mp given with queued | waiting
  · obtain ⟨_, _, same⟩ := List.mem_map.mp queued
    cases same
    exact .inl rfl
  · obtain ⟨_, _, same⟩ := List.mem_map.mp waiting
    cases same
    exact .inr rfl

theorem First.tickets {now : Nat} (first : First now coordinator item rest) :
    coordinator.commands.map Prod.fst = item.ticket?.toList ++ rest.commands.map Prod.fst := by
  cases first with
  | internal | tick | leave => rfl
  | command quiet waiting =>
    rw [waiting]
    rfl

/-- Whoever no longer waits after a turn is answered in it. -/
theorem Dealt.tickets (dealt : Dealt moment rest item progress) :
    progress.answers.map Prod.fst ++ progress.coordinator.commands.map Prod.fst =
      item.ticket?.toList ++ rest.commands.map Prod.fst := by
  cases dealt with
  | handled => simp [Function.comp_def]
  | crashed => simp [Coordinator.finish, turnedAway_tickets, Function.comp_def]
  | shown => rfl
  | shutDown => simp [Coordinator.finish, turnedAway_tickets, Item.ticket?, Item.command?]
  | left => simp [Coordinator.finish, turnedAway_tickets, Item.ticket?, Item.command?]

/-- Every answer is the one to the command that was taken, or tells of the worker's end. -/
theorem Dealt.answered (dealt : Dealt moment rest item progress) {ticket : Nat}
    {answer : Answer} (given : (ticket, answer) ∈ progress.answers) :
    (∃ command, item = .command ticket command ∧ Reply rest.worker command answer) ∨
      (answer = .dropped ∨ answer = .refused) ∧ progress.coordinator.life ≠ .running := by
  cases dealt with
  | handled due handled =>
    obtain ⟨sender, sent, same⟩ := List.mem_map.mp given
    cases same
    cases item with
    | command number command =>
      cases List.mem_singleton.mp sent
      cases command with
      | dispatch event => exact .inl ⟨_, rfl, .handled event⟩
      | snapshot | shutdown => cases due
    | internal | tick | leave => cases sent
  | crashed crash =>
    right
    rcases List.mem_append.mp given with own | other
    · obtain ⟨sender, sent, same⟩ := List.mem_map.mp own
      cases same
      exact ⟨.inl rfl, nofun⟩
    · exact ⟨error_of_turnedAway other, nofun⟩
  | shown number =>
    cases List.mem_singleton.mp given
    exact .inl ⟨_, rfl, .shown⟩
  | shutDown number =>
    rcases List.mem_append.mp given with own | other
    · cases List.mem_singleton.mp own
      exact .inl ⟨_, rfl, .shutDown⟩
    · exact .inr ⟨error_of_turnedAway other, nofun⟩
  | left idle =>
    rcases List.mem_append.mp given with own | other
    · cases own
    · exact .inr ⟨error_of_turnedAway other, nofun⟩

theorem Dealt.joined (dealt : Dealt moment rest item progress) :
    progress.coordinator.isJoined = rest.isJoined := by
  cases dealt <;> rfl

theorem Dealt.commands (dealt : Dealt moment rest item progress) :
    progress.coordinator.commands ⊆ rest.commands := by
  cases dealt with
  | handled | shown => exact List.Subset.refl _
  | crashed | shutDown | left => exact List.nil_subset _

/-- What waits for a worker that runs on is what was not taken. -/
theorem Dealt.waiting (dealt : Dealt moment rest item progress)
    (running : progress.coordinator.life = .running) :
    progress.coordinator.internal = rest.internal ∧
      progress.coordinator.commands = rest.commands := by
  cases dealt with
  | handled | shown => exact ⟨rfl, rfl⟩
  | crashed | shutDown | left => cases running

end

/-- What waiting for the end of the worker comes to. -/
inductive Joining (coordinator : Coordinator) : Except ServiceError Unit → Prop
  | again (joined : coordinator.isJoined = true) : Joining coordinator (.ok ())
  | returned (ended : coordinator.life = .returned) : Joining coordinator (.ok ())
  | failed {failure : TaskFailure} (ended : coordinator.life = .failed failure) :
      Joining coordinator
        (.error (.unknown s!"coordinator worker failed: {failure.message}"))

theorem joining_of_join {coordinator after : Coordinator} {result : Except ServiceError Unit}
    (joined : coordinator.join? = some (result, after)) :
    after = { coordinator with isJoined := true } ∧ Joining coordinator result := by
  unfold Coordinator.join? at joined
  by_cases again : coordinator.isJoined = true
  · rw [if_pos again] at joined
    cases joined
    refine ⟨?_, .again again⟩
    rw [← again]
  · rw [if_neg again] at joined
    cases ended : coordinator.life with
    | running =>
      rw [ended] at joined
      cases joined
    | returned =>
      rw [ended] at joined
      cases joined
      exact ⟨rfl, .returned ended⟩
    | failed failure =>
      rw [ended] at joined
      cases joined
      exact ⟨rfl, .failed ended⟩

theorem First.frame {now : Nat} {coordinator rest : Coordinator} {item : Item}
    (first : First now coordinator item rest) :
    rest.settings = coordinator.settings ∧ rest.life = coordinator.life ∧
      rest.isJoined = coordinator.isJoined := by
  cases first <;> exact ⟨rfl, rfl, rfl⟩

theorem First.reached {settings : CoordinatorSettings} {history : List Handled} {now : Nat}
    {coordinator rest : Coordinator} {item : Item} (first : First now coordinator item rest)
    (reached : Reached settings history coordinator.worker) :
    Reached settings history rest.worker := by
  cases first with
  | tick quiet idle timed => exact reached.advance timed now
  | internal | command | leave => exact reached

/-- What waits is what is taken, followed by the rest. -/
theorem First.waiting {now : Nat} {coordinator rest : Coordinator} {item : Item}
    (first : First now coordinator item rest) :
    coordinator.internal = item.internal?.toList ++ rest.internal ∧
      coordinator.commands = item.command?.toList ++ rest.commands := by
  cases first with
  | internal waiting => exact ⟨waiting, rfl⟩
  | command quiet waiting => exact ⟨rfl, waiting⟩
  | tick | leave => exact ⟨rfl, rfl⟩

/-! ### The end of the worker -/

theorem finish_of_free {turn : Turn} (free : turn.worker.held = none) (coordinator : Coordinator)
    (life : Life) (answers : List (Nat × Answer)) (left : List (Nat × Command)) :
    coordinator.finish life turn answers left =
      ⟨{ coordinator with worker := turn.worker, life, internal := [], commands := [] },
        turn.effects, answers ++ coordinator.turnedAway left⟩ := by
  have same : { turn.worker with held := none } = turn.worker := by rw [← free]
  unfold Coordinator.finish
  rw [same, free]
  simp

/-- Nothing is left of what an active worker has. -/
structure Worker.Stopped (worker : Worker) : Prop where
  inactive : worker.isActive = false
  timer : worker.timer = none
  held : worker.held = none
  monitoring : worker.probe.isMonitoring = false
  phase : worker.phase = .foreground

section

variable {settings : CoordinatorSettings} {history : List Handled} {worker : Worker}

theorem Reached.stopped (reached : Reached settings history worker)
    (inactive : worker.isActive = false) : worker.Stopped := by
  obtain ⟨timer, monitoring⟩ := reached.tallied.inStep
  have phase := reached.settled.phase
  refine ⟨inactive, ?_, reached.settled.free_of_inactive inactive, monitoring.trans inactive, ?_⟩
  · simpa [inactive] using timer
  · simpa [Worker.duePhase, inactive] using phase

theorem tearDown_inactive (worker : Worker) : worker.tearDown.worker.isActive = false := by
  unfold Worker.tearDown
  cases active : worker.isActive with
  | true => rw [stop_of_active active]
  | false =>
    rw [stop_of_inactive active]
    exact active

/-- The end of all activity goes like a stop. -/
theorem Reached.tearDown (reached : Reached settings history worker) :
    Reached settings
      (history ++ [⟨.stop, worker, worker.tearDown.worker, worker.tearDown.effects⟩])
      worker.tearDown.worker :=
  reached.handle (.calm none) .stop rfl

end

end BackgroundWork.Compression
