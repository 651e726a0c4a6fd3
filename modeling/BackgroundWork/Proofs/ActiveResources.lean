import BackgroundWork.Proofs.WorkerHistory

set_option autoImplicit false

/-!
What an active worker has and an inactive one has not: the telemetry timer, battery monitoring and
a say about the device. Each rule of handling keeps the resources in step with the flag and adds
to the effects what the counters count. Main statement: after every history the resources, the
calls to the system and the counters are as the flag and the starts say.
-/

namespace BackgroundWork.Compression

open Telemetry (DeviceState)

/-! ### Views of the effects -/

/-- The calls by which the system was told to switch battery monitoring. -/
def monitoringCalls (effects : List Effect) : List Bool :=
  effects.filterMap fun
    | .setMonitoring enabled => some enabled
    | _ => none

/-- The states of the device that the engine was told. -/
def deviceStates (effects : List Effect) : List DeviceState :=
  effects.filterMap fun
    | .push (.deviceState state) => some state
    | _ => none

/-- Whether a push is about the device or the application, and so only for an active worker. -/
def Push.isTelemetry : Push → Bool
  | .deviceState _ | .memoryPressure _ | .lifecycle _ => true
  | .budget _ | .visibility _ => false

/-- Whether all telemetry comes while monitoring is on, given how monitoring is before. -/
def pushedWhileOn (isOn : Bool) : List Effect → Bool
  | [] => true
  | .setMonitoring enabled :: rest => pushedWhileOn enabled rest
  | .push push :: rest => (!push.isTelemetry || isOn) && pushedWhileOn isOn rest
  | .pull _ :: rest | .askWindow _ :: rest | .endTask _ :: rest => pushedWhileOn isOn rest

/-- On, off, on and so forth. -/
def alternation (count : Nat) : List Bool :=
  (List.range count).map fun index => index % 2 == 0

theorem monitoringCalls_append (first second : List Effect) :
    monitoringCalls (first ++ second) = monitoringCalls first ++ monitoringCalls second :=
  List.filterMap_append

theorem deviceStates_append (first second : List Effect) :
    deviceStates (first ++ second) = deviceStates first ++ deviceStates second :=
  List.filterMap_append

theorem pushedWhileOn_append (isOn : Bool) (first second : List Effect) :
    pushedWhileOn isOn (first ++ second) =
      (pushedWhileOn isOn first &&
        pushedWhileOn ((monitoringCalls first).getLast?.getD isOn) second) := by
  induction first generalizing isOn with
  | nil => rfl
  | cons effect rest ih =>
    cases effect with
    | setMonitoring enabled =>
      change pushedWhileOn enabled (rest ++ second) = (pushedWhileOn enabled rest &&
        pushedWhileOn ((enabled :: monitoringCalls rest).getLast?.getD isOn) second)
      rw [ih, List.getLast?_cons]
      rfl
    | push push => simp [pushedWhileOn, ih, monitoringCalls, Bool.and_assoc]
    | pull | askWindow | endTask => simp [pushedWhileOn, ih, monitoringCalls]

/-- Effects that switch nothing are in order if telemetry among them is permitted. -/
theorem pushedWhileOn_of_permitted {isOn : Bool} {effects : List Effect}
    (calls : monitoringCalls effects = [])
    (permitted : ∀ push, .push push ∈ effects → push.isTelemetry = true → isOn = true) :
    pushedWhileOn isOn effects = true := by
  induction effects with
  | nil => rfl
  | cons effect rest ih =>
    have later := fun still => ih still fun push member =>
      permitted push (List.mem_cons_of_mem _ member)
    cases effect with
    | setMonitoring enabled => cases calls
    | push push =>
      change ((!push.isTelemetry || isOn) && pushedWhileOn isOn rest) = true
      rw [later calls, Bool.and_true]
      cases telemetry : push.isTelemetry with
      | false => rfl
      | true => exact permitted push List.mem_cons_self telemetry
    | pull | askWindow | endTask => exact later calls

theorem alternation_succ (count : Nat) :
    alternation (count + 1) = alternation count ++ [count % 2 == 0] := by
  simp [alternation, List.range_succ]

/-! ### One event -/

/-- Whether an event made the worker active. -/
def Handled.isActivation (handled : Handled) : Bool :=
  handled.event == .start && !handled.before.isActive

/-- The resources of a worker are those that its flag says. -/
structure InStep (worker : Worker) : Prop where
  timer : worker.timer.isSome = worker.isActive
  monitoring : worker.probe.isMonitoring = worker.isActive

/-- What the views show of the effects of one event, given the worker before and after it. -/
structure Shown (worker : Worker) (event : Event) (after : Worker) (effects : List Effect) :
    Prop where
  calls : monitoringCalls effects =
    if after.isActive = worker.isActive then [] else [after.isActive]
  telemetry : pushedWhileOn worker.isActive effects = true
  flagged : ∀ push, .push push ∈ effects → push.isTelemetry = true →
    after.isActive = true ∧ (worker.isActive = true ∨ event = .start)
  starts : after.timerStarts =
    worker.timerStarts + if event == .start && !worker.isActive then 1 else 0
  statuses : effects.count (.pull .status) =
    if event == .start && !worker.isActive then 1 else 0
  capabilities : effects.count (.pull .capabilities) =
    if event == .start && !worker.isActive && !worker.capabilitiesRequested then 1 else 0
  requested : after.capabilitiesRequested =
    (worker.capabilitiesRequested || event == .start && !worker.isActive)
  reported : after.lastDeviceState = (deviceStates effects).getLast?.or worker.lastDeviceState

section

variable {settings : CoordinatorSettings} {moment : Moment} {worker after : Worker}
  {event : Event} {effects : List Effect}

theorem InStep.handle (inStep : InStep worker)
    (handling : Handling settings moment worker event after effects) : InStep after := by
  obtain ⟨timer, monitoring⟩ := inStep
  cases handling with
  | startedBehind _ _ _ _ opening => rw [opening.frame]; exact ⟨rfl, rfl⟩
  | wentBehind _ _ opening => rw [opening.frame]; exact ⟨timer, monitoring⟩
  | startedInFront | stopped => exact ⟨rfl, rfl⟩
  | _ => exact ⟨timer, monitoring⟩

theorem switching_of_ne {probe : Telemetry.Probe} {enabled : Bool}
    (other : probe.isMonitoring = !enabled) :
    switching probe enabled = [.setMonitoring enabled] := by
  obtain ⟨isMonitoring⟩ := probe
  subst other
  cases enabled <;> rfl

theorem activation_of_inactive (inStep : InStep worker) (inactive : worker.isActive = false) :
    worker.activation =
      .setMonitoring true ::
        ((if worker.capabilitiesRequested then [] else [.pull .capabilities]) ++
          [.pull .status]) := by
  have off : worker.probe.isMonitoring = !true := inStep.monitoring.trans inactive
  rw [Worker.activation, switching_of_ne off]
  rfl

/-- An event that neither starts nor stops the worker. -/
theorem Shown.of_still (still : after.isActive = worker.isActive)
    (starts : after.timerStarts = worker.timerStarts)
    (requested : after.capabilitiesRequested = worker.capabilitiesRequested)
    (again : (event == .start && !worker.isActive) = false)
    (calls : monitoringCalls effects = []) (pulls : ∀ subject, .pull subject ∉ effects)
    (permitted : ∀ push, .push push ∈ effects → push.isTelemetry = true →
      worker.isActive = true)
    (reported : after.lastDeviceState =
      (deviceStates effects).getLast?.or worker.lastDeviceState) :
    Shown worker event after effects where
  calls := by rw [calls, if_pos still]
  telemetry := pushedWhileOn_of_permitted calls permitted
  flagged := by
    intro push member telemetry
    have active := permitted push member telemetry
    exact ⟨still.trans active, .inl active⟩
  starts := by rw [again, starts]; rfl
  statuses := by rw [again]; exact List.count_eq_zero.mpr (pulls .status)
  capabilities := by
    rw [again, Bool.false_and]
    exact List.count_eq_zero.mpr (pulls .capabilities)
  requested := by rw [again, requested, Bool.or_false]
  reported := reported

/-- An event that does nothing. -/
theorem Shown.of_idle (still : after.isActive = worker.isActive)
    (starts : after.timerStarts = worker.timerStarts)
    (requested : after.capabilitiesRequested = worker.capabilitiesRequested)
    (reported : after.lastDeviceState = worker.lastDeviceState)
    (again : (event == .start && !worker.isActive) = false) : Shown worker event after [] :=
  .of_still still starts requested again rfl (by simp) (by simp) reported

theorem InStep.shown (inStep : InStep worker)
    (handling : Handling settings moment worker event after effects) :
    Shown worker event after effects := by
  cases handling with
  | startedAgain active => exact .of_idle rfl rfl rfl rfl (by simp [active])
  | startedInFront inactive front timed =>
    rw [activation_of_inactive inStep inactive]
    constructor <;> cases requested : worker.capabilitiesRequested <;>
      simp [monitoringCalls, deviceStates, pushedWhileOn, Worker.activated, inactive]
  | startedBehind inactive behind timed read opening =>
    rw [activation_of_inactive inStep inactive, opening.frame]
    obtain rfl | ⟨grant, rfl⟩ | ⟨grant, rfl⟩ := opening.effects_cases <;>
      constructor <;> cases requested : worker.capabilitiesRequested <;>
      simp [monitoringCalls, deviceStates, pushedWhileOn, Worker.activated, Worker.noting,
        Push.isTelemetry, inactive]
  | stoppedAgain inactive => exact .of_idle rfl rfl rfl rfl rfl
  | stopped active =>
    have on : worker.probe.isMonitoring = !false := inStep.monitoring.trans active
    rw [switching_of_ne on]
    obtain free | ⟨task, closed⟩ := closing_cases worker.held
    · rw [free]
      constructor <;> simp [monitoringCalls, deviceStates, pushedWhileOn, active]
    · rw [closed]
      constructor <;>
        simp [monitoringCalls, deviceStates, pushedWhileOn, Push.isTelemetry, active]
  | placed event inactive => exact .of_idle rfl rfl rfl rfl rfl
  | wentBehind active read opening =>
    rw [opening.frame]
    obtain rfl | ⟨grant, rfl⟩ | ⟨grant, rfl⟩ := opening.effects_cases <;>
      exact .of_still rfl rfl rfl rfl rfl (by simp) (fun _ _ _ => active) rfl
  | cameBack active read =>
    obtain free | ⟨task, closed⟩ := closing_cases worker.held
    · rw [free]
      exact .of_still rfl rfl rfl rfl rfl (by simp) (fun _ _ _ => active) rfl
    · rw [closed]
      exact .of_still rfl rfl rfl rfl rfl (by simp) (fun _ _ _ => active) rfl
  | warned active read =>
    exact .of_still rfl rfl rfl rfl rfl (by simp) (fun _ _ _ => active) rfl
  | reported due active read =>
    rcases due with rfl | rfl <;>
      exact .of_still rfl rfl rfl rfl rfl (by simp) (fun _ _ _ => active) rfl
  | tickedInactive inactive => exact .of_idle rfl rfl rfl rfl rfl
  | expired held holds =>
    exact .of_still rfl rfl rfl rfl rfl (by simp [closing])
      (by simp [closing, Push.isTelemetry]) rfl
  | stale other => exact .of_idle rfl rfl rfl rfl rfl
  | refreshed update => exact .of_idle rfl rfl rfl rfl rfl

end

/-! ### Histories -/

/-- What the flag and the starts say about a history. -/
structure Tallied (history : List Handled) (worker : Worker) : Prop where
  inStep : InStep worker
  calls : monitoringCalls (effectsOf history) =
    alternation (monitoringCalls (effectsOf history)).length
  parity : worker.isActive = ((monitoringCalls (effectsOf history)).length % 2 == 1)
  telemetry : pushedWhileOn false (effectsOf history) = true
  flagged : ∀ handled ∈ history, ∀ push, .push push ∈ handled.effects →
    push.isTelemetry = true →
    handled.after.isActive = true ∧ (handled.before.isActive = true ∨ handled.event = .start)
  starts : worker.timerStarts = history.countP Handled.isActivation
  statuses : (effectsOf history).count (.pull .status) = worker.timerStarts
  capabilities : (effectsOf history).count (.pull .capabilities) = min 1 worker.timerStarts
  requested : worker.capabilitiesRequested = decide (0 < worker.timerStarts)
  reported : worker.lastDeviceState = (deviceStates (effectsOf history)).getLast?

theorem alternation_last (count : Nat) :
    (alternation count).getLast?.getD false = (count % 2 == 1) := by
  cases count with
  | zero => rfl
  | succ count =>
    rw [alternation_succ, List.getLast?_concat, Option.getD_some, Bool.eq_iff_iff]
    simp only [beq_iff_eq]
    omega

namespace Tallied

variable {history : List Handled} {worker after : Worker} {event : Event}
  {effects : List Effect}

theorem lastCall (tallied : Tallied history worker) :
    (monitoringCalls (effectsOf history)).getLast?.getD false = worker.isActive := by
  rw [tallied.calls, alternation_last]
  exact tallied.parity.symm

theorem new : Tallied [] .new where
  inStep := ⟨rfl, rfl⟩
  calls := rfl
  parity := rfl
  telemetry := rfl
  flagged := by intro handled member; cases member
  starts := rfl
  statuses := rfl
  capabilities := rfl
  requested := rfl
  reported := rfl

/-- The calls go on alternating, since only a change of the flag is told to the system. -/
theorem calls_snoc (tallied : Tallied history worker)
    (shown : Shown worker event after effects) :
    monitoringCalls (effectsOf history ++ effects) =
        alternation (monitoringCalls (effectsOf history ++ effects)).length ∧
      after.isActive = ((monitoringCalls (effectsOf history ++ effects)).length % 2 == 1) := by
  have parity := tallied.parity
  rw [monitoringCalls_append, shown.calls]
  by_cases same : after.isActive = worker.isActive
  · rw [if_pos same, List.append_nil, same]
    exact ⟨tallied.calls, parity⟩
  · rw [if_neg same, List.length_append, List.length_singleton, alternation_succ,
      ← tallied.calls]
    have switched : after.isActive = !worker.isActive := by
      cases flag : after.isActive <;> simp_all
    have next : after.isActive =
        ((monitoringCalls (effectsOf history)).length % 2 == 0) := by
      rw [switched, parity, Bool.eq_iff_iff]
      simp only [Bool.not_eq_true', beq_eq_false_iff_ne, beq_iff_eq]
      omega
    refine ⟨by rw [next], ?_⟩
    rw [next, Bool.eq_iff_iff]
    simp only [beq_iff_eq]
    omega

theorem handle (tallied : Tallied history worker) (shown : Shown worker event after effects)
    (inStep : InStep after) :
    Tallied (history ++ [⟨event, worker, after, effects⟩]) after := by
  obtain ⟨calls, parity⟩ := tallied.calls_snoc shown
  have starts := shown.starts
  have requested := tallied.requested
  constructor
  · exact inStep
  · simpa using calls
  · simpa using parity
  · rw [effectsOf_snoc, pushedWhileOn_append, tallied.telemetry, tallied.lastCall,
      shown.telemetry]
    rfl
  · intro handled member
    rcases List.mem_append.mp member with earlier | last
    · exact tallied.flagged handled earlier
    · cases List.mem_singleton.mp last
      exact shown.flagged
  · rw [starts, tallied.starts, List.countP_append, List.countP_singleton]
    rfl
  · rw [effectsOf_snoc, List.count_append, tallied.statuses, shown.statuses, starts]
  · rw [effectsOf_snoc, List.count_append, tallied.capabilities, shown.capabilities, starts,
      requested]
    by_cases activation : (event == .start && !worker.isActive) = true
    · simp only [activation, Bool.true_and, ↓reduceIte, Bool.not_eq_true', decide_eq_false_iff_not]
      split <;> omega
    · simp [activation]
  · rw [shown.requested, starts, requested]
    cases activation : event == .start && !worker.isActive <;> simp
  · rw [effectsOf_snoc, deviceStates_append, List.getLast?_append, ← tallied.reported]
    exact shown.reported

end Tallied

theorem Reached.tallied {settings : CoordinatorSettings} {history : List Handled}
    {worker : Worker} (reached : Reached settings history worker) : Tallied history worker := by
  refine Reached.keeps Tallied reached .new ?_ ?_
  · intro _ _ _ _ _ _ tallied handling
    exact tallied.handle (tallied.inStep.shown handling) (tallied.inStep.handle handling)
  · intro _ _ _ next tallied timed
    obtain ⟨timer, monitoring⟩ := tallied.inStep
    rw [timed] at timer
    exact { tallied with inStep := ⟨timer, monitoring⟩ }

/-- After every history there is a timer, and monitoring is on, exactly if the worker is active;
the system was told to switch monitoring on, off, on and so forth, at last as the flag says; each
start of an inactive worker counts once, asks for the status once and, the first time, for the
capabilities; nothing about the device or the application was told to the engine but by an active
worker, between a switch on and the next switch off; and the last state of the device is the one
that the engine was told last. -/
theorem resources_follow_active {settings : CoordinatorSettings} {history : List Handled}
    {worker : Worker} (reached : Reached settings history worker) :
    (worker.timer.isSome = true ↔ worker.isActive = true) ∧
      (worker.isActive = true ↔ worker.probe.isMonitoring = true) ∧
      monitoringCalls (effectsOf history) =
        alternation (monitoringCalls (effectsOf history)).length ∧
      (monitoringCalls (effectsOf history)).getLast?.getD false = worker.isActive ∧
      worker.timerStarts = history.countP Handled.isActivation ∧
      (effectsOf history).count (.pull .capabilities) = min 1 worker.timerStarts ∧
      (effectsOf history).count (.pull .status) = worker.timerStarts ∧
      (∀ handled ∈ history, ∀ push, .push push ∈ handled.effects → push.isTelemetry = true →
        handled.after.isActive = true ∧
          (handled.before.isActive = true ∨ handled.event = .start)) ∧
      pushedWhileOn false (effectsOf history) = true ∧
      worker.lastDeviceState = (deviceStates (effectsOf history)).getLast? := by
  have tallied := reached.tallied
  obtain ⟨timer, monitoring⟩ := tallied.inStep
  refine ⟨?_, ?_, tallied.calls, tallied.lastCall, tallied.starts, tallied.capabilities,
    tallied.statuses, tallied.flagged, tallied.telemetry, tallied.reported⟩
  · rw [timer]
  · rw [monitoring]

/-- Started, stopped with the application in the background, and started there again. -/
theorem resources_follow_active_restarted :
    ∃ history worker, Reached Settings.default.coordinator history worker ∧
      worker.timer.isSome = true ∧ worker.probe.isMonitoring = true ∧
      monitoringCalls (effectsOf history) = [true, false, true] ∧
      history.countP Handled.isActivation = 2 ∧
      (effectsOf history).count (.pull .capabilities) = 1 ∧
      (effectsOf history).count (.pull .status) = 2 := by
  have reached : Reached Settings.default.coordinator _ _ :=
    ((((Reached.new.handle (.calm none) .start rfl).handle
      (.calm (some ⟨1⟩)) (.lifecycle .enteredBackground) rfl).handle
      (.calm none) .stop rfl).handle
      (.calm none) (.lifecycle .memoryWarning) rfl).handle (.calm (some ⟨2⟩)) .start rfl
  obtain ⟨timer, monitoring, _, _, starts, capabilities, statuses, _⟩ :=
    resources_follow_active reached
  exact ⟨_, _, reached, timer.mpr rfl, monitoring.mp rfl, rfl, starts.symm, capabilities,
    statuses⟩

end BackgroundWork.Compression
