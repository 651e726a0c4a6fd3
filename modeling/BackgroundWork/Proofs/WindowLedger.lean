import BackgroundWork.Compression.Snapshot
import BackgroundWork.Proofs.CoordinatorRun
import BackgroundWork.Proofs.WindowSteps

set_option autoImplicit false

/-!
The windows of a run. Whatever the worker handles, it asks for a window only while it holds none
and lets go only of the one it holds, and it never ends with one in hand. A ledger of the dealings
with the system goes along with the worker's state. Main statement: the system's open tasks are
the window that is held, and every window is ended once, right after it was granted.
-/

namespace BackgroundWork.Compression

open Background

/-! ### One turn -/

/-- How the system sees the end of the window that may be held. -/
def endings (held : Option HeldBudget) : List WindowEvent :=
  held.toList.map fun held => .ended held.budget.task

/-- What one turn can do about windows, and how the system sees it. -/
inductive WindowChange (seconds : UInt32) :
    WindowState → WindowState → List WindowEvent → Prop
  | kept (state : WindowState) : WindowChange seconds state state []
  | closed (state : WindowState) :
      WindowChange seconds state { state with held := none } (endings state.held)
  | refused (asked granted : Nat) :
      WindowChange seconds ⟨none, asked, granted⟩ ⟨none, asked + 1, granted⟩
        [.refused (asked + 1)]
  | granted (asked granted : Nat) (task : TaskId) :
      WindowChange seconds ⟨none, asked, granted⟩
        ⟨some (.granted (asked + 1) task seconds), asked + 1, granted + 1⟩
        [.granted (asked + 1) task]

section

variable {settings : CoordinatorSettings} {moment : Moment} {worker after : Worker}
  {event : Event} {effects : List Effect}

theorem windowEvents_windowEffects (window : Option TaskId) (effects : List Effect) :
    windowEvents window (windowEffects effects) = windowEvents window effects := by
  refine filterMap_windowEffects (fun effect blind => ?_) effects
  cases effect with
  | askWindow | endTask => cases blind
  | setMonitoring | pull | push => rfl

theorem windowEvents_closing (window : Option TaskId) (held : Option HeldBudget) :
    windowEvents window (closing held) = endings held := by
  cases held <;> rfl

theorem windowEvents_endTask (window : Option TaskId) (held : Option HeldBudget) :
    windowEvents window (held.toList.map fun held => .endTask held.budget.task) =
      endings held := by
  cases held <;> rfl

theorem Dealing.windowChange {seconds : UInt32} {window : Option TaskId}
    {state after : WindowState} (dealing : Dealing seconds window state after effects) :
    WindowChange seconds state after (windowEvents window effects) := by
  cases dealing with
  | left leaving =>
    cases leaving with
    | kept => exact .kept state
    | closed =>
      rw [windowEvents_closing]
      exact .closed state
  | refused => exact .refused _ _
  | granted _ _ task => exact .granted _ _ task

theorem Handling.windowChange (handling : Handling settings moment worker event after effects) :
    WindowChange settings.backgroundGrantSeconds worker.windowState after.windowState
      (windowEvents moment.window effects) := by
  rw [← windowEvents_windowEffects]
  exact handling.dealing.windowChange

/-- A turn in which no window was asked for. With what is then still held ended, all that was
held is. -/
structure Parting (worker : Worker) (turn : Turn) : Prop where
  asked : turn.worker.grantsAsked = worker.grantsAsked
  granted : turn.worker.budgetGrants = worker.budgetGrants
  ended : ∀ window,
    windowEvents window turn.effects ++ endings turn.worker.held = endings worker.held

theorem Leaving.ended {state after : WindowState} (leaving : Leaving state after effects)
    (window : Option TaskId) :
    windowEvents window effects ++ endings after.held = endings state.held := by
  cases leaving with
  | kept => rfl
  | closed =>
    rw [windowEvents_closing]
    exact List.append_nil _

theorem Leaving.parting {turn : Turn}
    (leaving : Leaving worker.windowState turn.worker.windowState (windowEffects turn.effects)) :
    Parting worker turn where
  asked := leaving.frame.1
  granted := leaving.frame.2
  ended window := by
    rw [← windowEvents_windowEffects]
    exact leaving.ended window

end

section

variable {coordinator rest : Coordinator} {moment : Moment} {progress : Progress}

theorem Taking.windowState {now : Nat} {event : Event} {ticket : Option Nat}
    (taking : Taking now coordinator event ticket rest) :
    rest.worker.windowState = coordinator.worker.windowState := by
  rw [taking.frame.2.2]
  rfl

theorem Parting.finish {turn : Turn} (parting : Parting coordinator.worker turn)
    (seconds : UInt32) (window : Option TaskId) (life : Life) (answers : List (Nat × Answer))
    (left : List (Nat × Command)) :
    WindowChange seconds coordinator.worker.windowState
      (coordinator.finish life turn answers left).coordinator.worker.windowState
      (windowEvents window (coordinator.finish life turn answers left).effects) := by
  obtain ⟨asked, granted, ended⟩ := parting
  have change : WindowChange seconds _ _ _ := .closed coordinator.worker.windowState
  unfold Worker.windowState at change ⊢
  rw [Coordinator.finish_effects]
  simp only [Coordinator.finish, windowEvents_append, windowEvents_endTask, ended, asked, granted]
  exact change

theorem Turning.windowChange (turning : Turning moment coordinator progress) :
    WindowChange coordinator.settings.backgroundGrantSeconds coordinator.worker.windowState
      progress.coordinator.worker.windowState
      (windowEvents moment.window progress.effects) := by
  cases turning with
  | handled taking handling =>
    obtain ⟨configured, _, _⟩ := taking.frame
    rw [← configured, ← taking.windowState]
    exact handling.windowChange
  | crashed taking crashing =>
    obtain ⟨configured, _, _⟩ := taking.frame
    rw [← configured, ← taking.windowState]
    exact crashing.leaving.parting.finish _ _ _ _ _
  | shown => exact .kept _
  | shutDown | letGo => exact (tearDown_leaving coordinator.worker).parting.finish _ _ _ _ _

theorem cancel_windowChange (coordinator : Coordinator) (seconds : UInt32) :
    WindowChange seconds coordinator.worker.windowState
      coordinator.cancel.coordinator.worker.windowState
      (windowEvents none coordinator.cancel.effects) := by
  unfold Coordinator.cancel
  split
  · have parting : Parting coordinator.worker (.new coordinator.worker) :=
      ⟨rfl, rfl, fun _ => rfl⟩
    exact parting.finish _ _ _ _ _
  · exact .kept _

end

/-! ### The ledger -/

/-- Whether a window was granted. -/
def WindowEvent.isGranted : WindowEvent → Bool
  | granted .. => true
  | refused _ | ended _ => false

/-- The tasks that are open at the system after the given dealings. -/
def openTasks (log : List WindowEvent) : List TaskId :=
  log.foldl (fun tasks event =>
    match event with
    | .granted _ task => tasks ++ [task]
    | .refused _ => tasks
    | .ended task => tasks.erase task) []

/-- The dealings so far agree with what the worker knows. -/
structure Ledger (seconds : UInt32) (log : List WindowEvent) (state : WindowState) : Prop where
  asked : log.filterMap WindowEvent.asked? = List.range' 1 state.asked
  granted : log.countP WindowEvent.isGranted = state.granted
  tasks : openTasks log = state.held.toList.map (·.budget.task)
  last : ∀ held, state.held = some held →
    held.budget.grantedSeconds = seconds ∧
      ∃ earlier, log = earlier ++ [.granted held.grant held.budget.task]
  followed : ∀ {before grant task after}, log = before ++ .granted grant task :: after →
    (after = [] ∧ state.held = some (.granted grant task seconds)) ∨
      ∃ later, after = .ended task :: later
  preceded : ∀ {before task after}, log = before ++ .ended task :: after →
    ∃ earlier grant, before = earlier ++ [.granted grant task]

/-- A place in a list with a new last entry is at the new entry or in the list before. -/
theorem snoc_split {α : Type} {log before after : List α} {entry last : α}
    (split : log ++ [last] = before ++ entry :: after) :
    (after = [] ∧ log = before ∧ last = entry) ∨
      ∃ later, after = later ++ [last] ∧ log = before ++ entry :: later := by
  rcases List.eq_nil_or_concat after with rfl | ⟨later, final, rfl⟩
  · obtain ⟨same, rfl⟩ := List.append_singleton_inj.mp split
    exact .inl ⟨rfl, same, rfl⟩
  · rw [List.concat_eq_append, ← List.cons_append, ← List.append_assoc] at split
    obtain ⟨same, rfl⟩ := List.append_singleton_inj.mp split
    exact .inr ⟨later, List.concat_eq_append, same⟩

namespace Ledger

variable {seconds : UInt32} {log events : List WindowEvent} {state after : WindowState}

theorem new : Ledger seconds [] ⟨none, 0, 0⟩ where
  asked := rfl
  granted := rfl
  tasks := rfl
  last := by intro held absent; cases absent
  followed := by intro before _ _ _ split; cases before <;> cases split
  preceded := by intro before _ _ split; cases before <;> cases split

/-- The end of the window that is held. -/
theorem end_held {held : HeldBudget} {asked granted : Nat}
    (ledger : Ledger seconds log ⟨some held, asked, granted⟩) :
    Ledger seconds (log ++ [.ended held.budget.task]) ⟨none, asked, granted⟩ := by
  obtain ⟨duration, earlier, last⟩ := ledger.last held rfl
  have tasks : openTasks log = [held.budget.task] := ledger.tasks
  constructor
  · rw [List.filterMap_append, ledger.asked]
    exact List.append_nil _
  · rw [List.countP_append, ledger.granted]
    rfl
  · unfold openTasks at tasks ⊢
    rw [List.foldl_append, tasks]
    change [held.budget.task].erase held.budget.task = []
    rw [List.erase_cons_head]
  · intro _ absent
    cases absent
  · intro before grant task after split
    obtain ⟨_, _, other⟩ | ⟨later, rfl, inside⟩ := snoc_split split
    · cases other
    · obtain ⟨rfl, held⟩ | ⟨later, rfl⟩ := ledger.followed inside
      · cases held
        exact .inr ⟨[], rfl⟩
      · exact .inr ⟨later ++ [.ended _], rfl⟩
  · intro before task after split
    obtain ⟨_, rfl, same⟩ | ⟨later, _, inside⟩ := snoc_split split
    · cases same
      exact ⟨earlier, held.grant, last⟩
    · exact ledger.preceded inside

/-- The answer to a request for a window, while none is held. -/
theorem ask {asked granted : Nat} (ledger : Ledger seconds log ⟨none, asked, granted⟩)
    (window : Option TaskId) :
    Ledger seconds (log ++ [window.elim (.refused (asked + 1)) (.granted (asked + 1))])
      ⟨window.map fun task => .granted (asked + 1) task seconds, asked + 1,
        granted + window.toList.length⟩ := by
  have tasks : openTasks log = [] := ledger.tasks
  constructor
  · rw [List.filterMap_append, ledger.asked, List.range'_1_concat, Nat.add_comm 1 asked]
    cases window <;> rfl
  · rw [List.countP_append, ledger.granted]
    cases window <;> rfl
  · unfold openTasks at tasks ⊢
    rw [List.foldl_append, tasks]
    cases window <;> rfl
  · intro held holds
    obtain ⟨task, rfl, rfl⟩ := Option.map_eq_some_iff.mp holds
    exact ⟨rfl, log, rfl⟩
  · intro before grant task after split
    obtain ⟨rfl, _, same⟩ | ⟨later, rfl, inside⟩ := snoc_split split
    · cases window with
      | none => cases same
      | some task =>
        cases same
        exact .inl ⟨rfl, rfl⟩
    · obtain ⟨_, absent⟩ | ⟨later, rfl⟩ := ledger.followed inside
      · cases absent
      · exact .inr ⟨_, rfl⟩
  · intro before task after split
    obtain ⟨_, _, same⟩ | ⟨later, _, inside⟩ := snoc_split split
    · cases window <;> cases same
    · exact ledger.preceded inside

theorem change (ledger : Ledger seconds log state)
    (change : WindowChange seconds state after events) : Ledger seconds (log ++ events) after := by
  cases change with
  | kept =>
    rw [List.append_nil]
    exact ledger
  | closed =>
    obtain ⟨held, asked, granted⟩ := state
    cases held with
    | none =>
      rw [show endings none = [] from rfl, List.append_nil]
      exact ledger
    | some held => exact ledger.end_held
  | refused => exact ledger.ask none
  | granted _ _ task => exact ledger.ask (some task)

end Ledger

/-! ### Runs -/

/-- The dealings of a run agree with what its worker knows. -/
def Run.Booked (settings : CoordinatorSettings) (run : Run) : Prop :=
  Ledger settings.backgroundGrantSeconds run.windows run.coordinator.worker.windowState

theorem Moving.booked {settings : CoordinatorSettings} {run after : Run}
    (booked : run.Booked settings) (sound : Sound settings run) (moving : Moving run after) :
    after.Booked settings := by
  unfold Run.Booked at booked ⊢
  cases moving with
  | turned running turning =>
    have change := turning.windowChange
    rw [sound.configured] at change
    rw [Run.windows_take]
    exact booked.change change
  | cancelled =>
    rw [Run.windows_take]
    exact booked.change (cancel_windowChange _ _)
  | reported | announced =>
    rw [post_frame]
    exact booked
  | ignored | sent | closed | joined => exact booked

theorem Run.booked (settings : CoordinatorSettings) (moves : List Move) :
    (Run.of settings moves).Booked settings := by
  have kept := Run.keeps (fun run => Sound settings run ∧ run.Booked settings)
    ⟨.new settings, .new⟩
    (fun ⟨sound, booked⟩ moving => ⟨sound.move moving, moving.booked booked sound⟩) moves
  exact kept.2

/-- Whatever callers, pulls and the system do, and whichever tasks the system grants, at any time
of a run the open tasks are the one of the window that is held; as many windows were granted as
the snapshot says; a window that was granted is still held or was ended next of all dealings;
nothing else was ended; and once the worker has ended, however that came about, no task is open
and every window was ended. -/
theorem windows_balanced (settings : CoordinatorSettings) (moves : List Move) :
    let run := Run.of settings moves
    let worker := run.coordinator.worker
    openTasks run.windows = worker.held.toList.map (·.budget.task) ∧
      run.windows.countP WindowEvent.isGranted = worker.snapshot.budgetGrants ∧
      (∀ before grant task after, run.windows = before ++ .granted grant task :: after →
        (after = [] ∧ worker.held = some (.granted grant task settings.backgroundGrantSeconds)) ∨
          ∃ later, after = .ended task :: later) ∧
      (∀ before task after, run.windows = before ++ .ended task :: after →
        ∃ earlier grant, before = earlier ++ [.granted grant task]) ∧
      (run.coordinator.life ≠ .running →
        openTasks run.windows = [] ∧
          ∀ before grant task after, run.windows = before ++ .granted grant task :: after →
            ∃ later, after = .ended task :: later) := by
  intro run worker
  have ledger : Ledger _ run.windows worker.windowState := Run.booked settings moves
  have sound := Sound.of settings moves
  have tasks : openTasks run.windows = worker.held.toList.map (·.budget.task) := ledger.tasks
  refine ⟨tasks, ledger.granted, ?_, ?_, ?_⟩
  · intro before grant task after split
    exact ledger.followed split
  · intro before task after split
    exact ledger.preceded split
  · intro gone
    have free : worker.held = none := sound.clear.held gone
    refine ⟨by rw [tasks, free]; rfl, ?_⟩
    intro before grant task after split
    obtain ⟨_, held⟩ | ended := ledger.followed split
    · have absent := free.symm.trans held
      cases absent
    · exact ended

/-- A window is refused at the start, one is granted later, and the worker is cancelled while the
ends of both wait. -/
example :
    (Run.of Settings.default.coordinator
      [.send 0 (.lifecycle .enteredBackground), .send 1 .start, .turn (.calm none),
        .turn (.calm none), .send 2 (.lifecycle .enteredBackground), .turn (.calm (some ⟨7⟩)),
        .announce 1, .announce 2, .cancel]).windows =
      [.refused 1, .granted 2 ⟨7⟩, .ended ⟨7⟩] := by
  decide +kernel

end BackgroundWork.Compression
