import BackgroundWork.Background.Budget
import BackgroundWork.Compression.Push
import BackgroundWork.Compression.StatusCache
import BackgroundWork.Compression.Timer
import BackgroundWork.Settings
import BackgroundWork.Telemetry.Probe

set_option autoImplicit false

/-!
The worker that follows the application's lifecycle. While it is active it has a telemetry timer,
keeps battery monitoring on and tells the engine what happens to the device; while the application
is also in the background it holds a window, unless the system refused one or closed it. Handling
an event yields the new state and what is to be done, in order. Handling can crash half-way, and
then what was done before stays done.
-/

namespace BackgroundWork.Compression

open Background
open Telemetry (DeviceState MemoryPressureEvent Probe Signals)

/-- What the engine is asked for when the worker becomes active. -/
inductive Pull where
  | capabilities
  | status
  deriving DecidableEq, Repr

/-- What the worker has to handle. -/
inductive Event where
  | start
  | stop
  | lifecycle (event : LifecycleEvent)
  | telemetryTick
  /-- The system announced the end of the window that was asked for under this number. -/
  | budgetExpired (grant : Nat)
  | refreshed (update : CacheUpdate)
  deriving DecidableEq

/-- What the worker has done. -/
inductive Effect where
  | setMonitoring (enabled : Bool)
  | pull (subject : Pull)
  | push (push : Push)
  /-- Asks the system for a window; its expiry is announced under the given number. -/
  | askWindow (grant : Nat)
  | endTask (task : TaskId)
  deriving DecidableEq

/-- What the worker finds when it handles an event. -/
structure Moment where
  /-- The clock, in milliseconds. -/
  now : Nat
  signals : Signals
  /-- The window that the system grants if it is asked for one. -/
  window : Option TaskId

/-- A window that the worker holds, with the number under which it was asked for. Its task was not
ended. -/
structure HeldBudget where
  grant : Nat
  budget : Budget
  live : budget.isEnded = false
  deriving DecidableEq, Repr

namespace HeldBudget

/-- The window of a task that the system has granted to the request of a number. -/
def granted (grant : Nat) (task : TaskId) (seconds : UInt32) : HeldBudget where
  grant := grant
  budget := .granted task seconds
  live := rfl

@[simp] theorem task_granted (grant : Nat) (task : TaskId) (seconds : UInt32) :
    (granted grant task seconds).budget.task = task := rfl

@[simp] theorem grantedSeconds_granted (grant : Nat) (task : TaskId) (seconds : UInt32) :
    (granted grant task seconds).budget.grantedSeconds = seconds := rfl

/-- A window that is held is one that was granted. -/
theorem eq_granted (held : HeldBudget) :
    held = granted held.grant held.budget.task held.budget.grantedSeconds := by
  obtain ⟨grant, ⟨task, seconds, isEnded⟩, live⟩ := held
  cases live
  rfl

/-- A window that the worker holds ends its task exactly once when it is let go of, be it released
or dropped. -/
@[simp] theorem release_eq (held : HeldBudget) : held.budget.release = [held.budget.task] :=
  Budget.release_of_live held.live

@[simp] theorem drop_eq (held : HeldBudget) : held.budget.drop = [held.budget.task] :=
  Budget.drop_of_live held.live

end HeldBudget

/-- The state of the worker. Its three counters have no bound here. Where the worker runs they are
64 bits wide, which no device lives long enough to use up. -/
structure Worker where
  isActive : Bool
  inBackground : Bool
  probe : Probe
  timer : Option Timer
  timerStarts : Nat
  held : Option HeldBudget
  /-- How often a window was asked for. -/
  grantsAsked : Nat
  /-- How many windows were granted. -/
  budgetGrants : Nat
  capabilitiesRequested : Bool
  lastDeviceState : Option DeviceState
  cache : StatusCache
  /-- How callers see the execution in the background. -/
  phase : BudgetPhase
  deriving DecidableEq

/-- The worker at first: inactive, in the foreground. -/
def Worker.new : Worker where
  isActive := false
  inBackground := false
  probe := .new
  timer := none
  timerStarts := 0
  held := none
  grantsAsked := 0
  budgetGrants := 0
  capabilitiesRequested := false
  lastDeviceState := none
  cache := .empty
  phase := .foreground

/-- What handling an event has come to. -/
structure Turn where
  worker : Worker
  /-- What was done, in order. -/
  effects : List Effect
  deriving DecidableEq

/-- A crash while an event was handled. -/
structure Crash where
  message : String
  turn : Turn
  deriving DecidableEq

namespace Turn

/-- A turn in which nothing was done yet. -/
def new (worker : Worker) : Turn := ⟨worker, []⟩

/-- Does something. -/
def emit (turn : Turn) (effect : Effect) : Turn :=
  { turn with effects := turn.effects ++ [effect] }

/-- Changes the state. -/
def modify (turn : Turn) (change : Worker → Worker) : Turn :=
  { turn with worker := change turn.worker }

/-- Switches battery monitoring, unless it is as wanted. -/
def setMonitoring (turn : Turn) (enabled : Bool) : Turn :=
  let (probe, change) := turn.worker.probe.setMonitoring enabled
  let turn := turn.modify fun worker => { worker with probe }
  match change with
  | some enabled => turn.emit (.setMonitoring enabled)
  | none => turn

/-- Tells callers of the phase. -/
def publish (turn : Turn) (phase : BudgetPhase) : Turn :=
  turn.modify fun worker => { worker with phase }

/-- Tells the engine of the device's state. Only an active worker does. -/
def reportDevice (turn : Turn) (signals : Signals) : Except Crash Turn :=
  if turn.worker.isActive then
    match signals.deviceState with
    | .error message => .error ⟨message, turn⟩
    | .ok state =>
      .ok ((turn.modify fun worker => { worker with lastDeviceState := some state }).emit
        (.push (.deviceState state)))
  else .ok turn

/-- Asks for a window, unless one is held. Each request has a number of its own. -/
def beginBudget (turn : Turn) (seconds : UInt32) (window : Option TaskId) : Turn :=
  if turn.worker.held.isSome then turn
  else
    let grant := turn.worker.grantsAsked + 1
    let turn := (turn.modify fun worker => { worker with grantsAsked := grant }).emit
      (.askWindow grant)
    match window with
    | none => turn.publish .expired
    | some task =>
      ((turn.modify fun worker =>
        { worker with
          held := some (.granted grant task seconds)
          budgetGrants := worker.budgetGrants + 1 }).emit
        (.push (.budget seconds))).publish (.budgeted seconds)

/-- Releases the window that is held, if one is. The engine is told first. -/
def endBudget (turn : Turn) : Turn :=
  match turn.worker.held with
  | none => turn
  | some held =>
    let turn := (turn.modify fun worker => { worker with held := none }).emit (.push (.budget 0))
    held.budget.release.foldl (fun turn task => turn.emit (.endTask task)) turn

/-- Becomes active, unless it is. The device's capabilities are asked for only the first time. -/
def start (settings : CoordinatorSettings) (moment : Moment) (turn : Turn) : Except Crash Turn :=
  if turn.worker.isActive then .ok turn
  else
    let turn := (turn.modify fun worker => { worker with isActive := true }).setMonitoring true
    match Timer.start moment.now settings.telemetryIntervalMs with
    | .error fault => .error ⟨fault.message, turn⟩
    | .ok timer =>
      let turn := turn.modify fun worker =>
        { worker with timer := some timer, timerStarts := worker.timerStarts + 1 }
      let turn :=
        if turn.worker.capabilitiesRequested then turn
        else (turn.modify fun worker => { worker with capabilitiesRequested := true }).emit
          (.pull .capabilities)
      let turn := turn.emit (.pull .status)
      if turn.worker.inBackground then
        (turn.reportDevice moment.signals).map fun turn =>
          turn.beginBudget settings.backgroundGrantSeconds moment.window
      else .ok turn

/-- Becomes inactive, unless it is. -/
def stop (turn : Turn) : Turn :=
  if turn.worker.isActive then
    let turn := (turn.modify fun worker => { worker with timer := none }).endBudget
    ((turn.publish .foreground).setMonitoring false).modify fun worker =>
      { worker with isActive := false }
  else turn

/-- The place of the application after an event. -/
def place (event : LifecycleEvent) (inBackground : Bool) : Bool :=
  match event with
  | .enteredBackground => true
  | .becameActive => false
  | .memoryWarning | .thermalStateChanged => inBackground

/-- Follows the application's lifecycle. An inactive worker only keeps track of the place of the
application. -/
def follow (settings : CoordinatorSettings) (moment : Moment) (event : LifecycleEvent)
    (turn : Turn) : Except Crash Turn :=
  let turn := turn.modify fun worker =>
    { worker with inBackground := place event worker.inBackground }
  if turn.worker.isActive then
    match event with
    | .enteredBackground =>
      (turn.reportDevice moment.signals).map fun turn =>
        (turn.emit (.push (.lifecycle .enteringBackground))).beginBudget
          settings.backgroundGrantSeconds moment.window
    | .becameActive =>
      ((turn.endBudget.publish .foreground).reportDevice moment.signals).map fun turn =>
        turn.emit (.push (.lifecycle .becomingActive))
    | .memoryWarning =>
      let pressure := MemoryPressureEvent.lowMemory moment.signals.availableMemoryMb
      (turn.emit (.push (.memoryPressure pressure))).reportDevice moment.signals
    | .thermalStateChanged => turn.reportDevice moment.signals
  else .ok turn

/-- Takes in that a window is closing. Only the window that is held is of interest. -/
def expire (grant : Nat) (turn : Turn) : Turn :=
  match turn.worker.held with
  | some held => if held.grant = grant then turn.endBudget.publish .expired else turn
  | none => turn

/-- Handles an event. -/
def handle (settings : CoordinatorSettings) (moment : Moment) (event : Event) (turn : Turn) :
    Except Crash Turn :=
  match event with
  | .start => turn.start settings moment
  | .stop => .ok turn.stop
  | .lifecycle event => turn.follow settings moment event
  | .telemetryTick => turn.reportDevice moment.signals
  | .budgetExpired grant => .ok (turn.expire grant)
  | .refreshed update =>
    .ok (turn.modify fun worker => { worker with cache := worker.cache.apply update })

end Turn

namespace Worker

/-- Handles an event. -/
def handle (settings : CoordinatorSettings) (moment : Moment) (event : Event) (worker : Worker) :
    Except Crash Turn :=
  (Turn.new worker).handle settings moment event

/-- Ends all activity for good. -/
def tearDown (worker : Worker) : Turn :=
  (Turn.new worker).stop

end Worker
end BackgroundWork.Compression
