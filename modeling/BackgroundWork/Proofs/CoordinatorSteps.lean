import BackgroundWork.Compression.Coordinator
import BackgroundWork.Proofs.WorkerSteps

set_option autoImplicit false

/-!
What the worker can do with one of its turns. `Taking` says which event it takes from what waits;
`Turning` has one rule for each way the turn can end. Later proofs go by these rules.
-/

namespace BackgroundWork.Compression

/-- Which event the worker takes, under which ticket if a caller sent it, and what stays. -/
inductive Taking (now : Nat) : Coordinator → Event → Option Nat → Coordinator → Prop
  | internal {coordinator : Coordinator} {event : Event} {rest : List Event}
      (waiting : coordinator.internal = event :: rest) :
      Taking now coordinator event none { coordinator with internal := rest }
  | dispatched {coordinator : Coordinator} {ticket : Nat} {event : Event}
      {rest : List (Nat × Command)} (quiet : coordinator.internal = [])
      (waiting : coordinator.commands = (ticket, .dispatch event) :: rest) :
      Taking now coordinator event (some ticket) { coordinator with commands := rest }
  | ticked {coordinator : Coordinator} {timer : Timer} (quiet : coordinator.internal = [])
      (idle : coordinator.commands = []) (isOpen : coordinator.isOpen = true)
      (timed : coordinator.worker.timer = some timer) (due : timer.isDue now = true) :
      Taking now coordinator .telemetryTick none
        { coordinator with
          worker := { coordinator.worker with timer := some (timer.next now) } }

/-- What a turn can come to. -/
inductive Turning (moment : Moment) : Coordinator → Progress → Prop
  | handled {coordinator rest : Coordinator} {event : Event} {ticket : Option Nat}
      {after : Worker} {effects : List Effect}
      (taking : Taking moment.now coordinator event ticket rest)
      (handling : Handling rest.settings moment rest.worker event after effects) :
      Turning moment coordinator
        ⟨{ rest with worker := after }, effects,
          ticket.toList.map fun ticket => (ticket, .handled)⟩
  | crashed {coordinator rest : Coordinator} {event : Event} {ticket : Option Nat}
      {crash : Crash} (taking : Taking moment.now coordinator event ticket rest)
      (crashing : Crashing rest.settings moment rest.worker event crash.turn) :
      Turning moment coordinator
        (rest.finish (.failed (.panicked crash.message)) crash.turn
          (ticket.toList.map fun ticket => (ticket, .dropped)) rest.commands)
  | shown {coordinator : Coordinator} {ticket : Nat} {rest : List (Nat × Command)}
      (quiet : coordinator.internal = [])
      (waiting : coordinator.commands = (ticket, .snapshot) :: rest) :
      Turning moment coordinator
        ⟨{ coordinator with commands := rest }, [],
          [(ticket, .snapshot coordinator.worker.snapshot)]⟩
  | shutDown {coordinator : Coordinator} {ticket : Nat} {rest : List (Nat × Command)}
      (quiet : coordinator.internal = [])
      (waiting : coordinator.commands = (ticket, .shutdown) :: rest) :
      Turning moment coordinator
        ({ coordinator with commands := rest }.finish .returned coordinator.worker.tearDown
          [(ticket, .handled)] rest)
  | letGo {coordinator : Coordinator} (quiet : coordinator.internal = [])
      (idle : coordinator.commands = []) (closed : coordinator.isOpen = false) :
      Turning moment coordinator
        (coordinator.finish .returned coordinator.worker.tearDown [] [])

variable {coordinator rest : Coordinator} {moment : Moment} {progress : Progress}

theorem isRunning_iff : coordinator.isRunning = true ↔ coordinator.life = .running := by
  simp [Coordinator.isRunning]

theorem Taking.turning {event : Event} {ticket : Option Nat}
    (taking : Taking moment.now coordinator event ticket rest) :
    Turning moment coordinator (rest.handle moment event ticket) := by
  unfold Coordinator.handle
  cases outcome : rest.worker.handle rest.settings moment event with
  | ok turn => exact .handled taking (handling_of_ok outcome)
  | error crash => exact .crashed taking (crashing_of_error outcome)

theorem taking_of_tick {now : Nat} (quiet : coordinator.internal = [])
    (idle : coordinator.commands = []) (isOpen : coordinator.isOpen = true)
    (ticked : coordinator.tick? now = some rest) :
    Taking now coordinator .telemetryTick none rest := by
  unfold Coordinator.tick? at ticked
  cases timed : coordinator.worker.timer with
  | none =>
    rw [timed] at ticked
    cases ticked
  | some timer =>
    simp only [timed] at ticked
    by_cases due : timer.isDue now = true
    · rw [if_pos due] at ticked
      cases ticked
      exact .ticked quiet idle isOpen timed due
    · rw [if_neg due] at ticked
      cases ticked

/-- Only a worker that runs takes turns. -/
theorem turning_of_turn (turned : coordinator.turn? moment = some progress) :
    coordinator.life = .running ∧ Turning moment coordinator progress := by
  unfold Coordinator.turn? at turned
  by_cases running : coordinator.isRunning = true
  · refine ⟨isRunning_iff.mp running, ?_⟩
    rw [if_pos running] at turned
    split at turned
    · rename_i waiting
      cases turned
      exact (Taking.internal waiting).turning
    · rename_i ticket command commands quiet waiting
      cases turned
      cases command with
      | dispatch event => exact (Taking.dispatched quiet waiting).turning
      | snapshot => exact .shown quiet waiting
      | shutdown => exact .shutDown quiet waiting
    · rename_i quiet idle
      by_cases isOpen : coordinator.isOpen = true
      · rw [if_pos isOpen] at turned
        obtain ⟨rest, ticked, rfl⟩ := Option.map_eq_some_iff.mp turned
        exact (taking_of_tick quiet idle isOpen ticked).turning
      · rw [if_neg isOpen] at turned
        cases turned
        exact .letGo quiet idle (by simpa using isOpen)
  · rw [if_neg running] at turned
    cases turned

/-- Taking an event changes the worker by its timer at most. -/
theorem Taking.frame {now : Nat} {event : Event} {ticket : Option Nat}
    (taking : Taking now coordinator event ticket rest) :
    rest.settings = coordinator.settings ∧ rest.life = coordinator.life ∧
      rest.worker = { coordinator.worker with timer := rest.worker.timer } := by
  cases taking <;> exact ⟨rfl, rfl, rfl⟩

theorem Taking.waiting {now : Nat} {event : Event} {ticket : Option Nat}
    (taking : Taking now coordinator event ticket rest) :
    rest.internal ⊆ coordinator.internal ∧ rest.commands ⊆ coordinator.commands := by
  cases taking with
  | internal waiting =>
    rw [waiting]
    exact ⟨List.subset_cons_self _ _, List.Subset.refl _⟩
  | dispatched _ waiting =>
    rw [waiting]
    exact ⟨List.Subset.refl _, List.subset_cons_self _ _⟩
  | ticked => exact ⟨List.Subset.refl _, List.Subset.refl _⟩

theorem Turning.settings (turning : Turning moment coordinator progress) :
    progress.coordinator.settings = coordinator.settings := by
  cases turning with
  | handled taking | crashed taking => exact taking.frame.1
  | shown | shutDown | letGo => rfl

/-- A turn adds nothing to what waits. -/
theorem Turning.waiting (turning : Turning moment coordinator progress) :
    progress.coordinator.internal ⊆ coordinator.internal ∧
      progress.coordinator.commands ⊆ coordinator.commands := by
  cases turning with
  | handled taking => exact taking.waiting
  | shown quiet waiting =>
    rw [waiting]
    exact ⟨List.Subset.refl _, List.subset_cons_self _ _⟩
  | crashed | shutDown | letGo => exact ⟨List.nil_subset _, List.nil_subset _⟩

/-- A worker that has ended holds no window, and nothing waits for it. -/
structure Coordinator.ClearAtEnd (coordinator : Coordinator) : Prop where
  held : coordinator.life ≠ .running → coordinator.worker.held = none
  internal : coordinator.life ≠ .running → coordinator.internal = []
  commands : coordinator.life ≠ .running → coordinator.commands = []

theorem Coordinator.ClearAtEnd.of_running (running : coordinator.life = .running) :
    coordinator.ClearAtEnd :=
  ⟨fun gone => absurd running gone, fun gone => absurd running gone,
    fun gone => absurd running gone⟩

theorem finish_clearAtEnd (coordinator : Coordinator) (life : Life) (turn : Turn)
    (answers : List (Nat × Answer)) (left : List (Nat × Command)) :
    (coordinator.finish life turn answers left).coordinator.ClearAtEnd :=
  ⟨fun _ => rfl, fun _ => rfl, fun _ => rfl⟩

theorem Turning.clearAtEnd (turning : Turning moment coordinator progress)
    (running : coordinator.life = .running) : progress.coordinator.ClearAtEnd := by
  cases turning with
  | handled taking => exact .of_running (taking.frame.2.1.trans running)
  | shown => exact .of_running running
  | crashed | shutDown | letGo => exact finish_clearAtEnd _ _ _ _ _

/-- What is handed to the worker is left to wait. -/
theorem post_frame (coordinator : Coordinator) (event : Event) :
    coordinator.post event =
      { coordinator with internal := (coordinator.post event).internal } := by
  unfold Coordinator.post
  split <;> rfl

theorem mem_post {event waiting : Event}
    (member : waiting ∈ (coordinator.post event).internal) :
    waiting ∈ coordinator.internal ∨ waiting = event := by
  unfold Coordinator.post at member
  split at member
  · simpa using member
  · exact .inl member

theorem post_clearAtEnd (clear : coordinator.ClearAtEnd) (event : Event) :
    (coordinator.post event).ClearAtEnd := by
  by_cases running : coordinator.life = .running
  · rw [post_frame]
    exact .of_running running
  · have ignored : coordinator.post event = coordinator :=
      if_neg (mt isRunning_iff.mp running)
    rw [ignored]
    exact clear

/-- Cancelling only takes from what there is. -/
theorem cancel_frame (coordinator : Coordinator) :
    coordinator.cancel.coordinator.settings = coordinator.settings ∧
      coordinator.cancel.coordinator.internal ⊆ coordinator.internal ∧
      coordinator.cancel.coordinator.commands ⊆ coordinator.commands := by
  unfold Coordinator.cancel
  split
  · exact ⟨rfl, List.nil_subset _, List.nil_subset _⟩
  · exact ⟨rfl, List.Subset.refl _, List.Subset.refl _⟩

theorem cancel_clearAtEnd (clear : coordinator.ClearAtEnd) :
    coordinator.cancel.coordinator.ClearAtEnd := by
  unfold Coordinator.cancel
  split
  · exact finish_clearAtEnd _ _ _ _ _
  · exact clear

end BackgroundWork.Compression
