import BackgroundWork.Proofs.WorkerSteps

set_option autoImplicit false

/-!
What the worker does about windows with one event. It asks for a window only while it holds none,
tells the engine of one that was granted, and closes only the window that it holds. A turn that
crashes asked for none.
-/

namespace BackgroundWork.Compression

open Background

/-- What a worker knows about its windows. -/
structure WindowState where
  held : Option HeldBudget
  asked : Nat
  granted : Nat

/-- What a worker knows about its windows. -/
def Worker.windowState (worker : Worker) : WindowState :=
  ⟨worker.held, worker.grantsAsked, worker.budgetGrants⟩

/-! ### Effects -/

/-- Whether an effect is about a window. -/
def Effect.isWindow : Effect → Bool
  | .askWindow _ | .endTask _ | .push (.budget _) => true
  | _ => false

/-- The effects that are about windows, in order. -/
def windowEffects (effects : List Effect) : List Effect :=
  effects.filter Effect.isWindow

@[simp] theorem windowEffects_append (first second : List Effect) :
    windowEffects (first ++ second) = windowEffects first ++ windowEffects second :=
  List.filter_append first second

/-- A view that shows nothing else shows all that it does in the effects about windows. -/
theorem filterMap_windowEffects {α : Type} {view : Effect → Option α}
    (blind : ∀ effect, effect.isWindow = false → view effect = none) (effects : List Effect) :
    (windowEffects effects).filterMap view = effects.filterMap view := by
  unfold windowEffects
  rw [List.filterMap_filter]
  congr 1
  funext effect
  cases window : effect.isWindow with
  | true => rfl
  | false => exact (blind effect window).symm

@[simp] theorem windowEffects_closing (held : Option HeldBudget) :
    windowEffects (closing held) = closing held := by
  cases held <;> rfl

@[simp] theorem windowEffects_switching (probe : Telemetry.Probe) (enabled : Bool) :
    windowEffects (switching probe enabled) = [] := by
  unfold switching
  cases (probe.setMonitoring enabled).2 <;> rfl

@[simp] theorem windowEffects_activation (worker : Worker) :
    windowEffects worker.activation = [] := by
  unfold Worker.activation
  rw [windowEffects_append, windowEffects_append, windowEffects_switching]
  cases worker.capabilitiesRequested <;> rfl

/-! ### One event -/

/-- The window is left alone or closed. -/
inductive Leaving : WindowState → WindowState → List Effect → Prop
  | kept (state : WindowState) : Leaving state state []
  | closed (state : WindowState) :
      Leaving state { state with held := none } (closing state.held)

theorem Leaving.frame {state after : WindowState} {effects : List Effect}
    (leaving : Leaving state after effects) :
    after.asked = state.asked ∧ after.granted = state.granted := by
  cases leaving <;> exact ⟨rfl, rfl⟩

/-- What one event can come to about windows, when the system answers with the given one. -/
inductive Dealing (seconds : UInt32) :
    Option TaskId → WindowState → WindowState → List Effect → Prop
  | left {window : Option TaskId} {state after : WindowState} {effects : List Effect}
      (leaving : Leaving state after effects) : Dealing seconds window state after effects
  | refused (asked granted : Nat) :
      Dealing seconds none ⟨none, asked, granted⟩ ⟨none, asked + 1, granted⟩
        [.askWindow (asked + 1)]
  | granted (asked granted : Nat) (task : TaskId) :
      Dealing seconds (some task) ⟨none, asked, granted⟩
        ⟨some (.granted (asked + 1) task seconds), asked + 1, granted + 1⟩
        [.askWindow (asked + 1), .push (.budget seconds)]

variable {settings : CoordinatorSettings} {moment : Moment} {worker after : Worker}
  {event : Event} {effects : List Effect}

theorem Opening.dealing {seconds : UInt32} {window : Option TaskId}
    (opening : Opening seconds window worker after effects) :
    Dealing seconds window worker.windowState after.windowState (windowEffects effects) := by
  cases opening with
  | kept held => exact .left (.kept _)
  | refused free =>
    unfold Worker.windowState
    rw [free]
    exact .refused _ _
  | granted task free =>
    unfold Worker.windowState
    rw [free]
    exact .granted _ _ task

theorem Handling.dealing (handling : Handling settings moment worker event after effects) :
    Dealing settings.backgroundGrantSeconds moment.window worker.windowState after.windowState
      (windowEffects effects) := by
  cases handling with
  | startedInFront =>
    rw [windowEffects_activation]
    exact .left (.kept _)
  | startedBehind _ _ _ _ opening =>
    rw [windowEffects_append, windowEffects_activation]
    exact opening.dealing
  | stopped =>
    rw [windowEffects_append, windowEffects_switching, List.append_nil, windowEffects_closing]
    exact .left (.closed worker.windowState)
  | wentBehind _ _ opening => exact opening.dealing
  | cameBack =>
    rw [windowEffects_append, windowEffects_closing]
    change Dealing _ _ _ _ (closing worker.held ++ [])
    rw [List.append_nil]
    exact .left (.closed worker.windowState)
  | expired held holds =>
    rw [windowEffects_closing, ← holds]
    exact .left (.closed worker.windowState)
  | startedAgain | stoppedAgain | placed | warned | reported | tickedInactive | stale
  | refreshed => exact .left (.kept _)

theorem Crashing.leaving {turn : Turn}
    (crashing : Crashing settings moment worker event turn) :
    Leaving worker.windowState turn.worker.windowState (windowEffects turn.effects) := by
  cases crashing with
  | untimed =>
    rw [windowEffects_switching]
    exact .kept _
  | startedUnread =>
    rw [windowEffects_activation]
    exact .kept _
  | cameBackUnread =>
    rw [windowEffects_closing]
    exact .closed worker.windowState
  | wentBehindUnread | warnedUnread | unreported => exact .kept _

theorem tearDown_leaving (worker : Worker) :
    Leaving worker.windowState worker.tearDown.worker.windowState
      (windowEffects worker.tearDown.effects) := by
  unfold Worker.tearDown
  cases active : worker.isActive with
  | false =>
    rw [stop_of_inactive active]
    exact .kept _
  | true =>
    rw [stop_of_active active, windowEffects_append, windowEffects_closing,
      windowEffects_switching, List.append_nil]
    exact .closed worker.windowState

end BackgroundWork.Compression
