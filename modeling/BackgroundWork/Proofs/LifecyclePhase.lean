import BackgroundWork.Compression.Snapshot
import BackgroundWork.Proofs.WorkerHistory

set_option autoImplicit false

/-!
The published phase. It is a function of what the worker knows: whether it is active, where the
application is, and whether a window is held. Main statement: after every history the phase, the
window and the place of the application fit together.
-/

namespace BackgroundWork.Compression

open Background

/-- Whether an event says where the application is. -/
def Event.isPlace (event : Event) : Bool :=
  event == .lifecycle .enteredBackground || event == .lifecycle .becameActive

/-- The last event of a history that said where the application is, whether or not the worker was
active then. -/
def latestPlace (history : List Handled) : Option Event :=
  ((history.map (·.event)).filter Event.isPlace).getLast?

theorem latestPlace_snoc (history : List Handled) (last : Handled) :
    latestPlace (history ++ [last]) =
      if last.event.isPlace then some last.event else latestPlace history := by
  unfold latestPlace
  by_cases place : last.event.isPlace = true
  · simp [place]
  · simp [place]

/-- Everything about the place of the application that handling an event changes. -/
theorem handling_place {settings : CoordinatorSettings} {moment : Moment} {worker after : Worker}
    {event : Event} {effects : List Effect}
    (handling : Handling settings moment worker event after effects) :
    after.inBackground =
      if event.isPlace then event == .lifecycle .enteredBackground else worker.inBackground := by
  cases handling with
  | startedBehind _ _ _ _ opening => rw [opening.frame]; rfl
  | placed event => cases event <;> rfl
  | wentBehind _ _ opening => rw [opening.frame]; rfl
  | reported due => rcases due with rfl | rfl <;> rfl
  | _ => rfl

/-- The phase that callers are to see. -/
def Worker.duePhase (worker : Worker) : BudgetPhase :=
  if worker.isActive && worker.inBackground then
    match worker.held with
    | some held => .budgeted held.budget.grantedSeconds
    | none => .expired
  else .foreground

/-- A window is only held in the background by an active worker and lasts as long as the settings
say, and the phase is up to date. -/
structure Settled (settings : CoordinatorSettings) (worker : Worker) : Prop where
  window : ∀ held, worker.held = some held →
    worker.isActive = true ∧ worker.inBackground = true ∧
      held.budget.grantedSeconds = settings.backgroundGrantSeconds
  phase : worker.phase = worker.duePhase

namespace Settled

variable {settings : CoordinatorSettings} {moment : Moment} {worker after : Worker}
  {event : Event} {effects : List Effect}

theorem new (settings : CoordinatorSettings) : Settled settings .new where
  window := by intro held holds; cases holds
  phase := rfl

theorem free_of_inactive (settled : Settled settings worker) (inactive : worker.isActive = false) :
    worker.held = none := by
  cases holds : worker.held with
  | none => rfl
  | some held =>
    have active := (settled.window held holds).1
    rw [inactive] at active
    cases active

/-- Whatever the system answers, the phase is up to date once a window was asked for in the
background. -/
theorem of_opening {window : Option TaskId}
    (opening : Opening settings.backgroundGrantSeconds window worker after effects)
    (active : worker.isActive = true) (behind : worker.inBackground = true)
    (settled : ∀ held, worker.held = some held →
      held.budget.grantedSeconds = settings.backgroundGrantSeconds ∧
        worker.phase = .budgeted settings.backgroundGrantSeconds) :
    Settled settings after := by
  cases opening with
  | kept held =>
    obtain ⟨window, holds⟩ := Option.isSome_iff_exists.mp held
    obtain ⟨seconds, phase⟩ := settled window holds
    refine ⟨?_, ?_⟩
    · intro other same
      rw [holds] at same
      cases same
      exact ⟨active, behind, seconds⟩
    · simp [Worker.duePhase, active, behind, holds, seconds, phase]
  | refused free =>
    refine ⟨?_, ?_⟩
    · intro held holds
      simp [free] at holds
    · simp [Worker.duePhase, active, behind, free]
  | granted task free =>
    refine ⟨?_, ?_⟩
    · intro held holds
      cases holds
      exact ⟨active, behind, rfl⟩
    · simp [Worker.duePhase, active, behind]

theorem of_free (free : worker.held = none) (phase : worker.phase = worker.duePhase) :
    Settled settings worker where
  window := by intro held holds; rw [free] at holds; cases holds
  phase := phase

/-- Each rule of handling keeps the phase up to date. An inactive worker holds no window, so that
becoming active in the background always asks for one. -/
theorem handle (settled : Settled settings worker)
    (handling : Handling settings moment worker event after effects) :
    Settled settings after := by
  cases handling with
  | startedAgain | stoppedAgain | tickedInactive | stale => exact settled
  | startedInFront inactive front timed =>
    refine of_free (settled.free_of_inactive inactive) ?_
    simpa [Worker.duePhase, Worker.activated, inactive, front] using settled.phase
  | startedBehind inactive behind timed read opening =>
    refine of_opening opening rfl behind ?_
    intro held holds
    have free := settled.free_of_inactive inactive
    rw [Worker.activated, free] at holds
    cases holds
  | stopped active => exact of_free rfl rfl
  | placed event inactive =>
    refine of_free (settled.free_of_inactive inactive) ?_
    simpa [Worker.duePhase, inactive] using settled.phase
  | wentBehind active read opening =>
    refine of_opening opening active rfl ?_
    intro held holds
    change worker.held = some held at holds
    obtain ⟨_, behind, seconds⟩ := settled.window held holds
    refine ⟨seconds, ?_⟩
    have phase := settled.phase
    simpa [Worker.duePhase, Worker.noting, active, behind, holds, seconds] using phase
  | cameBack active read =>
    refine of_free rfl ?_
    simp [Worker.duePhase, Worker.noting]
  | warned active read | reported due active read | refreshed update =>
    exact ⟨settled.window, settled.phase⟩
  | expired held holds =>
    obtain ⟨active, behind, _⟩ := settled.window held holds
    refine of_free rfl ?_
    simp [Worker.duePhase, active, behind]

end Settled

theorem Reached.settled {settings : CoordinatorSettings} {history : List Handled}
    {worker : Worker} (reached : Reached settings history worker) : Settled settings worker := by
  refine Reached.keeps (fun _ worker => Settled settings worker) reached ?_ ?_ ?_
  · exact .new settings
  · intro _ _ _ _ _ _ settled handling
    exact settled.handle handling
  · intro _ _ _ _ settled _
    exact ⟨settled.window, settled.phase⟩

theorem Reached.place {settings : CoordinatorSettings} {history : List Handled}
    {worker : Worker} (reached : Reached settings history worker) :
    worker.inBackground = true ↔
      latestPlace history = some (.lifecycle .enteredBackground) := by
  refine Reached.keeps (fun history worker => worker.inBackground = true ↔
    latestPlace history = some (.lifecycle .enteredBackground)) reached ?_ ?_ ?_
  · simp [Worker.new, latestPlace]
  · intro history worker moment event after effects before handling
    rw [handling_place handling, latestPlace_snoc]
    by_cases place : event.isPlace = true
    · simp [place]
    · simpa [place] using before
  · intro _ _ _ _ before _
    exact before

/-- After every history and whatever the system answered: the application counts as being in the
background as the last event about its place says, also if the worker was inactive then, and the
phase and the window that is held say the same about the execution in the background. -/
theorem phase_follows_lifecycle {settings : CoordinatorSettings} {history : List Handled}
    {worker : Worker} (reached : Reached settings history worker) :
    (worker.inBackground = true ↔
        latestPlace history = some (.lifecycle .enteredBackground)) ∧
      (worker.phase = .foreground ↔ ¬(worker.isActive = true ∧ worker.inBackground = true)) ∧
      ((∃ seconds, worker.phase = .budgeted seconds) ↔ worker.held.isSome = true) ∧
      (∀ seconds, worker.phase = .budgeted seconds →
        seconds = settings.backgroundGrantSeconds ∧
          worker.snapshot.budgetGrantedSeconds = some seconds) ∧
      (worker.phase = .expired ↔
        worker.isActive = true ∧ worker.inBackground = true ∧ worker.held = none) ∧
      (worker.held.isSome = true → worker.isActive = true ∧ worker.inBackground = true) := by
  refine ⟨reached.place, ?_⟩
  obtain ⟨window, phase⟩ := reached.settled
  rw [phase]
  by_cases managed : worker.isActive = true ∧ worker.inBackground = true
  · obtain ⟨active, behind⟩ := managed
    cases holds : worker.held with
    | none => simp [Worker.duePhase, active, behind, holds]
    | some held =>
      have seconds := (window held holds).2.2
      simp [Worker.duePhase, Worker.snapshot, active, behind, holds, seconds]
  · have free : worker.held = none := by
      cases holds : worker.held with
      | none => rfl
      | some held =>
        obtain ⟨active, behind, _⟩ := window held holds
        exact absurd ⟨active, behind⟩ managed
    have due : worker.duePhase = .foreground := by
      unfold Worker.duePhase
      rw [if_neg (by simpa using managed)]
    rw [due]
    refine ⟨by simpa using managed, by simp [free], by simp, ?_, by simp [free]⟩
    simpa using fun active behind => absurd ⟨active, behind⟩ managed

/-- In the background before the start, refused a window then, and granted one when the
application is said to enter the background again. -/
theorem phase_follows_lifecycle_after_refusal :
    ∃ history worker, Reached Settings.default.coordinator history worker ∧
      worker.held.isSome = true ∧ (∃ seconds, worker.phase = .budgeted seconds) ∧
      worker.isActive = true ∧ worker.inBackground = true := by
  have reached : Reached Settings.default.coordinator _ _ :=
    ((Reached.new.handle (.calm none) (.lifecycle .enteredBackground) rfl).handle
      (.calm none) .start rfl).handle (.calm (some ⟨7⟩)) (.lifecycle .enteredBackground) rfl
  obtain ⟨_, _, phase, _, _, behind⟩ := phase_follows_lifecycle reached
  exact ⟨_, _, reached, rfl, phase.mpr rfl, behind rfl⟩

end BackgroundWork.Compression
