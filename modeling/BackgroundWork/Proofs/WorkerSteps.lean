import BackgroundWork.Compression.Worker

set_option autoImplicit false

/-!
What the worker can do with one event. `Handling` has one rule for each way through the handlers,
with all that the worker changes and does on it; `Crashing` has the ways that end half-way. Later
proofs go by these rules and leave the handlers closed.
-/

namespace BackgroundWork.Compression

open Background
open Telemetry (DeviceState MemoryPressureEvent Probe)

/-! ### Windows -/

/-- What asking for a window comes to when the system answers with the given one. -/
inductive Opening (seconds : UInt32) :
    Option TaskId → Worker → Worker → List Effect → Prop
  | kept {window : Option TaskId} {worker : Worker} (held : worker.held.isSome = true) :
      Opening seconds window worker worker []
  | refused {worker : Worker} (free : worker.held = none) :
      Opening seconds none worker
        { worker with grantsAsked := worker.grantsAsked + 1, phase := .expired }
        [.askWindow (worker.grantsAsked + 1)]
  | granted {worker : Worker} (task : TaskId) (free : worker.held = none) :
      Opening seconds (some task) worker
        { worker with
          grantsAsked := worker.grantsAsked + 1
          held := some (.granted (worker.grantsAsked + 1) task seconds)
          budgetGrants := worker.budgetGrants + 1
          phase := .budgeted seconds }
        [.askWindow (worker.grantsAsked + 1), .push (.budget seconds)]

/-- What is done to close the window that may be held. -/
def closing : Option HeldBudget → List Effect
  | none => []
  | some held => [.push (.budget 0), .endTask held.budget.task]

/-- Asking for a window leaves everything else as it is. -/
theorem Opening.frame {seconds : UInt32} {window : Option TaskId} {worker after : Worker}
    {effects : List Effect} (opening : Opening seconds window worker after effects) :
    after =
      { worker with
        held := after.held
        grantsAsked := after.grantsAsked
        budgetGrants := after.budgetGrants
        phase := after.phase } := by
  cases opening <;> rfl

theorem Opening.effects_cases {seconds : UInt32} {window : Option TaskId}
    {worker after : Worker} {effects : List Effect}
    (opening : Opening seconds window worker after effects) :
    effects = [] ∨ (∃ grant, effects = [.askWindow grant]) ∨
      ∃ grant, effects = [.askWindow grant, .push (.budget seconds)] := by
  cases opening with
  | kept => exact .inl rfl
  | refused => exact .inr (.inl ⟨_, rfl⟩)
  | granted => exact .inr (.inr ⟨_, rfl⟩)

theorem closing_cases (held : Option HeldBudget) :
    closing held = [] ∨ ∃ task, closing held = [.push (.budget 0), .endTask task] := by
  cases held with
  | none => exact .inl rfl
  | some held => exact .inr ⟨held.budget.task, rfl⟩

theorem beginBudget_opening (turn : Turn) (seconds : UInt32) (window : Option TaskId) :
    ∃ worker effects, Opening seconds window turn.worker worker effects ∧
      turn.beginBudget seconds window = ⟨worker, turn.effects ++ effects⟩ := by
  unfold Turn.beginBudget
  split
  · rename_i held
    exact ⟨_, _, .kept held, by simp⟩
  · rename_i absent
    have free : turn.worker.held = none := by simpa using absent
    cases window with
    | none => exact ⟨_, _, .refused free, rfl⟩
    | some task =>
      refine ⟨_, _, .granted task free, ?_⟩
      simp [Turn.publish, Turn.modify, Turn.emit]

theorem endBudget_eq (turn : Turn) :
    turn.endBudget =
      ⟨{ turn.worker with held := none }, turn.effects ++ closing turn.worker.held⟩ := by
  obtain ⟨⟨_, _, _, _, _, held, _, _, _, _, _, _⟩, effects⟩ := turn
  cases held with
  | none => simp [Turn.endBudget, closing]
  | some held => simp [Turn.endBudget, Turn.modify, Turn.emit, closing]

/-! ### Monitoring and reports -/

/-- What the system is told when monitoring is switched. -/
def switching (probe : Probe) (enabled : Bool) : List Effect :=
  (probe.setMonitoring enabled).2.toList.map .setMonitoring

theorem setMonitoring_eq (turn : Turn) (enabled : Bool) :
    turn.setMonitoring enabled =
      ⟨{ turn.worker with probe := ⟨enabled⟩ },
        turn.effects ++ switching turn.worker.probe enabled⟩ := by
  obtain ⟨worker, effects⟩ := turn
  unfold Turn.setMonitoring switching Probe.setMonitoring
  by_cases same : worker.probe.isMonitoring = enabled
  · subst same
    simp [Turn.modify]
  · simp [same, Turn.modify, Turn.emit]

/-- A worker that has reported a state of the device. -/
def Worker.noting (worker : Worker) (state : DeviceState) : Worker :=
  { worker with lastDeviceState := some state }

theorem reportDevice_active {turn : Turn} (active : turn.worker.isActive = true)
    (signals : Telemetry.Signals) :
    turn.reportDevice signals =
      match signals.deviceState with
      | .error message => .error ⟨message, turn⟩
      | .ok state =>
        .ok ⟨turn.worker.noting state, turn.effects ++ [.push (.deviceState state)]⟩ := by
  unfold Turn.reportDevice
  rw [if_pos active]
  cases signals.deviceState <;> rfl

theorem reportDevice_inactive {turn : Turn} (inactive : turn.worker.isActive = false)
    (signals : Telemetry.Signals) : turn.reportDevice signals = .ok turn := by
  simp [Turn.reportDevice, inactive]

/-! ### Events -/

/-- A worker that has become active with a timer. -/
def Worker.activated (worker : Worker) (timer : Timer) : Worker :=
  { worker with
    isActive := true
    probe := ⟨true⟩
    timer := some timer
    timerStarts := worker.timerStarts + 1
    capabilitiesRequested := true }

/-- What becoming active does, before the place of the application counts. -/
def Worker.activation (worker : Worker) : List Effect :=
  switching worker.probe true ++
    (if worker.capabilitiesRequested then [] else [.pull .capabilities]) ++ [.pull .status]

variable {settings : CoordinatorSettings} {moment : Moment} {worker : Worker} {event : Event}

/-- What handling an event comes to: the worker after it, and what was done. -/
inductive Handling (settings : CoordinatorSettings) (moment : Moment) :
    Worker → Event → Worker → List Effect → Prop
  | startedAgain {worker : Worker} (active : worker.isActive = true) :
      Handling settings moment worker .start worker []
  | startedInFront {worker : Worker} {timer : Timer} (inactive : worker.isActive = false)
      (front : worker.inBackground = false)
      (timed : Timer.start moment.now settings.telemetryIntervalMs = .ok timer) :
      Handling settings moment worker .start (worker.activated timer) worker.activation
  | startedBehind {worker after : Worker} {timer : Timer} {state : DeviceState}
      {effects : List Effect} (inactive : worker.isActive = false)
      (behind : worker.inBackground = true)
      (timed : Timer.start moment.now settings.telemetryIntervalMs = .ok timer)
      (read : moment.signals.deviceState = .ok state)
      (opening : Opening settings.backgroundGrantSeconds moment.window
        ((worker.activated timer).noting state) after effects) :
      Handling settings moment worker .start after
        (worker.activation ++ .push (.deviceState state) :: effects)
  | stoppedAgain {worker : Worker} (inactive : worker.isActive = false) :
      Handling settings moment worker .stop worker []
  | stopped {worker : Worker} (active : worker.isActive = true) :
      Handling settings moment worker .stop
        { worker with
          isActive := false
          probe := ⟨false⟩
          timer := none
          held := none
          phase := .foreground }
        (closing worker.held ++ switching worker.probe false)
  | placed {worker : Worker} (event : LifecycleEvent) (inactive : worker.isActive = false) :
      Handling settings moment worker (.lifecycle event)
        { worker with inBackground := Turn.place event worker.inBackground } []
  | wentBehind {worker after : Worker} {state : DeviceState} {effects : List Effect}
      (active : worker.isActive = true) (read : moment.signals.deviceState = .ok state)
      (opening : Opening settings.backgroundGrantSeconds moment.window
        ({ worker with inBackground := true }.noting state) after effects) :
      Handling settings moment worker (.lifecycle .enteredBackground) after
        (.push (.deviceState state) :: .push (.lifecycle .enteringBackground) :: effects)
  | cameBack {worker : Worker} {state : DeviceState} (active : worker.isActive = true)
      (read : moment.signals.deviceState = .ok state) :
      Handling settings moment worker (.lifecycle .becameActive)
        ({ worker with inBackground := false, held := none, phase := .foreground }.noting state)
        (closing worker.held ++
          [.push (.deviceState state), .push (.lifecycle .becomingActive)])
  | warned {worker : Worker} {state : DeviceState} (active : worker.isActive = true)
      (read : moment.signals.deviceState = .ok state) :
      Handling settings moment worker (.lifecycle .memoryWarning)
        (worker.noting state)
        [.push (.memoryPressure (.lowMemory moment.signals.availableMemoryMb)),
          .push (.deviceState state)]
  | reported {worker : Worker} {event : Event} {state : DeviceState}
      (due : event = .lifecycle .thermalStateChanged ∨ event = .telemetryTick)
      (active : worker.isActive = true) (read : moment.signals.deviceState = .ok state) :
      Handling settings moment worker event (worker.noting state)
        [.push (.deviceState state)]
  | tickedInactive {worker : Worker} (inactive : worker.isActive = false) :
      Handling settings moment worker .telemetryTick worker []
  | expired {worker : Worker} (held : HeldBudget) (holds : worker.held = some held) :
      Handling settings moment worker (.budgetExpired held.grant)
        { worker with held := none, phase := .expired } (closing (some held))
  | stale {worker : Worker} {grant : Nat} (other : worker.held.map (·.grant) ≠ some grant) :
      Handling settings moment worker (.budgetExpired grant) worker []
  | refreshed {worker : Worker} (update : CacheUpdate) :
      Handling settings moment worker (.refreshed update)
        { worker with cache := worker.cache.apply update } []

/-- A crash while an event is handled: the event, and what was done before. -/
inductive Crashing (settings : CoordinatorSettings) (moment : Moment) :
    Worker → Event → Turn → Prop
  | untimed {worker : Worker} {fault : Timer.Fault} (inactive : worker.isActive = false)
      (failed : Timer.start moment.now settings.telemetryIntervalMs = .error fault) :
      Crashing settings moment worker .start
        ⟨{ worker with isActive := true, probe := ⟨true⟩ }, switching worker.probe true⟩
  | startedUnread {worker : Worker} {timer : Timer} {message : String}
      (inactive : worker.isActive = false) (behind : worker.inBackground = true)
      (timed : Timer.start moment.now settings.telemetryIntervalMs = .ok timer)
      (unread : moment.signals.deviceState = .error message) :
      Crashing settings moment worker .start ⟨worker.activated timer, worker.activation⟩
  | wentBehindUnread {worker : Worker} {message : String} (active : worker.isActive = true)
      (unread : moment.signals.deviceState = .error message) :
      Crashing settings moment worker (.lifecycle .enteredBackground)
        ⟨{ worker with inBackground := true }, []⟩
  | cameBackUnread {worker : Worker} {message : String} (active : worker.isActive = true)
      (unread : moment.signals.deviceState = .error message) :
      Crashing settings moment worker (.lifecycle .becameActive)
        ⟨{ worker with inBackground := false, held := none, phase := .foreground },
          closing worker.held⟩
  | warnedUnread {worker : Worker} {message : String} (active : worker.isActive = true)
      (unread : moment.signals.deviceState = .error message) :
      Crashing settings moment worker (.lifecycle .memoryWarning)
        ⟨worker, [.push (.memoryPressure (.lowMemory moment.signals.availableMemoryMb))]⟩
  | unreported {worker : Worker} {event : Event} {message : String}
      (due : event = .lifecycle .thermalStateChanged ∨ event = .telemetryTick)
      (active : worker.isActive = true)
      (unread : moment.signals.deviceState = .error message) :
      Crashing settings moment worker event ⟨worker, []⟩

/-- What the handlers' result says: one of the rules for what came of the event. -/
def Fate (settings : CoordinatorSettings) (moment : Moment) (worker : Worker) (event : Event) :
    Except Crash Turn → Prop
  | .ok turn => Handling settings moment worker event turn.worker turn.effects
  | .error crash => Crashing settings moment worker event crash.turn

theorem start_eq (inactive : worker.isActive = false) :
    (Turn.new worker).start settings moment =
      match Timer.start moment.now settings.telemetryIntervalMs with
      | .error fault => .error ⟨fault.message,
          ⟨{ worker with isActive := true, probe := ⟨true⟩ }, switching worker.probe true⟩⟩
      | .ok timer =>
        if worker.inBackground then
          ((⟨worker.activated timer, worker.activation⟩ : Turn).reportDevice moment.signals).map
            fun turn => turn.beginBudget settings.backgroundGrantSeconds moment.window
        else .ok ⟨worker.activated timer, worker.activation⟩ := by
  cases timed : Timer.start moment.now settings.telemetryIntervalMs with
  | error fault => simp [Turn.start, Turn.new, Turn.modify, inactive, setMonitoring_eq, timed]
  | ok timer =>
    cases requested : worker.capabilitiesRequested <;>
      simp [Turn.start, Turn.new, Turn.modify, Turn.emit, Worker.activated, Worker.activation,
        inactive, requested, setMonitoring_eq, timed]

theorem start_fate (settings : CoordinatorSettings) (moment : Moment) (worker : Worker) :
    Fate settings moment worker .start ((Turn.new worker).start settings moment) := by
  cases active : worker.isActive with
  | true =>
    simp only [Turn.start, Turn.new, active, ↓reduceIte]
    exact .startedAgain active
  | false =>
    rw [start_eq active]
    cases timed : Timer.start moment.now settings.telemetryIntervalMs with
    | error fault => exact .untimed active timed
    | ok timer =>
      cases behind : worker.inBackground with
      | false => exact .startedInFront active behind timed
      | true =>
        simp only [↓reduceIte]
        rw [reportDevice_active rfl]
        cases read : moment.signals.deviceState with
        | error message => exact .startedUnread active behind timed read
        | ok state =>
          obtain ⟨after, effects, opening, opened⟩ := beginBudget_opening
            ⟨(worker.activated timer).noting state,
              worker.activation ++ [.push (.deviceState state)]⟩
            settings.backgroundGrantSeconds moment.window
          simp only [Except.map, opened, List.append_assoc, List.singleton_append]
          exact .startedBehind active behind timed read opening

theorem stop_of_inactive (inactive : worker.isActive = false) :
    (Turn.new worker).stop = Turn.new worker := by
  unfold Turn.stop
  exact if_neg (by simp [Turn.new, inactive])

theorem stop_of_active (active : worker.isActive = true) :
    (Turn.new worker).stop =
      ⟨{ worker with
          isActive := false
          probe := ⟨false⟩
          timer := none
          held := none
          phase := .foreground },
        closing worker.held ++ switching worker.probe false⟩ := by
  have ended : (Turn.new worker).stop = _ := if_pos active
  simp only [Turn.new, Turn.modify, endBudget_eq, Turn.publish, setMonitoring_eq,
    List.nil_append] at ended
  rw [Turn.new, ended]

theorem stop_fate (settings : CoordinatorSettings) (moment : Moment) (worker : Worker) :
    Fate settings moment worker .stop (.ok (Turn.new worker).stop) := by
  cases active : worker.isActive with
  | false =>
    rw [stop_of_inactive active]
    exact .stoppedAgain active
  | true =>
    rw [stop_of_active active]
    exact .stopped active

theorem follow_fate (settings : CoordinatorSettings) (moment : Moment) (worker : Worker)
    (event : LifecycleEvent) :
    Fate settings moment worker (.lifecycle event)
      ((Turn.new worker).follow settings moment event) := by
  cases active : worker.isActive with
  | false =>
    have ignored : (Turn.new worker).follow settings moment event = _ :=
      if_neg (by simp [Turn.new, Turn.modify, active])
    rw [ignored]
    exact .placed event active
  | true =>
    have followed : (Turn.new worker).follow settings moment event = _ := if_pos active
    rw [followed]
    cases event with
    | enteredBackground =>
      simp only [Turn.new, Turn.modify, Turn.place]
      rw [reportDevice_active active]
      cases read : moment.signals.deviceState with
      | error message => exact .wentBehindUnread active read
      | ok state =>
        obtain ⟨after, effects, opening, opened⟩ := beginBudget_opening
          ⟨{ worker with inBackground := true }.noting state,
            [.push (.deviceState state), .push (.lifecycle .enteringBackground)]⟩
          settings.backgroundGrantSeconds moment.window
        simp only [Except.map, Turn.emit, List.nil_append, List.cons_append, opened]
        exact .wentBehind active read opening
    | becameActive =>
      simp only [Turn.new, Turn.modify, Turn.place, endBudget_eq, Turn.publish, List.nil_append]
      rw [reportDevice_active active]
      cases read : moment.signals.deviceState with
      | error message => exact .cameBackUnread active read
      | ok state =>
        simp only [Except.map, Turn.emit, List.append_assoc, List.singleton_append]
        exact .cameBack active read
    | memoryWarning =>
      simp only [Turn.new, Turn.modify, Turn.emit, Turn.place, List.nil_append]
      rw [reportDevice_active active]
      cases read : moment.signals.deviceState with
      | error message => exact .warnedUnread active read
      | ok state => exact .warned active read
    | thermalStateChanged =>
      simp only [Turn.new, Turn.modify, Turn.place]
      rw [reportDevice_active active]
      cases read : moment.signals.deviceState with
      | error message => exact .unreported (.inl rfl) active read
      | ok state => exact .reported (.inl rfl) active read

theorem tick_fate (settings : CoordinatorSettings) (moment : Moment) (worker : Worker) :
    Fate settings moment worker .telemetryTick
      ((Turn.new worker).reportDevice moment.signals) := by
  cases active : worker.isActive with
  | false =>
    rw [reportDevice_inactive active]
    exact .tickedInactive active
  | true =>
    rw [reportDevice_active active]
    cases read : moment.signals.deviceState with
    | error message => exact .unreported (.inr rfl) active read
    | ok state => exact .reported (.inr rfl) active read

theorem expire_of_held {held : HeldBudget} (holds : worker.held = some held) :
    (Turn.new worker).expire held.grant =
      ⟨{ worker with held := none, phase := .expired }, closing (some held)⟩ := by
  simp only [Turn.expire, Turn.new, Turn.modify, Turn.publish, holds, ↓reduceIte,
    endBudget_eq, List.nil_append]

theorem expire_of_other {grant : Nat} (other : worker.held.map (·.grant) ≠ some grant) :
    (Turn.new worker).expire grant = Turn.new worker := by
  unfold Turn.expire
  cases holds : worker.held with
  | none => simp only [Turn.new, holds]
  | some held =>
    have foreign : ¬ held.grant = grant := by simpa [holds] using other
    simp only [Turn.new, holds, foreign, ↓reduceIte]

theorem expire_fate (settings : CoordinatorSettings) (moment : Moment) (worker : Worker)
    (grant : Nat) :
    Fate settings moment worker (.budgetExpired grant) (.ok ((Turn.new worker).expire grant)) := by
  by_cases own : worker.held.map (·.grant) = some grant
  · obtain ⟨held, holds, rfl⟩ := Option.map_eq_some_iff.mp own
    rw [expire_of_held holds]
    exact .expired held holds
  · rw [expire_of_other own]
    exact .stale own

theorem handle_fate (settings : CoordinatorSettings) (moment : Moment) (worker : Worker)
    (event : Event) :
    Fate settings moment worker event (worker.handle settings moment event) := by
  cases event with
  | start => exact start_fate settings moment worker
  | stop => exact stop_fate settings moment worker
  | lifecycle event => exact follow_fate settings moment worker event
  | telemetryTick => exact tick_fate settings moment worker
  | budgetExpired grant => exact expire_fate settings moment worker grant
  | refreshed update => exact .refreshed update

theorem handling_of_ok {turn : Turn} (handled : worker.handle settings moment event = .ok turn) :
    Handling settings moment worker event turn.worker turn.effects := by
  have fate := handle_fate settings moment worker event
  rwa [handled] at fate

theorem crashing_of_error {crash : Crash}
    (crashed : worker.handle settings moment event = .error crash) :
    Crashing settings moment worker event crash.turn := by
  have fate := handle_fate settings moment worker event
  rwa [crashed] at fate

/-- A moment at the clock's origin with a full battery, and the window that the system grants. -/
def Moment.calm (window : Option TaskId) : Moment where
  now := 0
  signals :=
    { battery := .ok .one
      isCharging := false
      thermalState := .nominal
      appState := .active
      physicalBytes := 0
      residentBytes := 0 }
  window := window

end BackgroundWork.Compression
