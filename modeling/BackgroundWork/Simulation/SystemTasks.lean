import BackgroundWork.Background.SystemHost
import BackgroundWork.Simulation.Device
import BackgroundWork.Simulation.Windows

set_option autoImplicit false

/-!
Background tasks at a system that calls back with the contexts it was given: while it answers a
request, while a task runs, or while it ends a task.
-/

namespace BackgroundWork.Simulation.SystemTasks

open Background Telemetry

/-- Settings of the system; those that are not given stay as they are. -/
structure Change where
  signals : SignalChange
  nextTask : Option Int32
  expiresInBegin : Option Bool
  expiresInEnd : Option Bool

/-- What is done with the system or through the application's side of it. -/
inductive Step where
  | set (change : Change)
  | signals
  /-- Tells the system directly whether to monitor the battery. -/
  | monitoring (enabled : Bool)
  /-- Switches monitoring through the probe. -/
  | setMonitoring (enabled : Bool)
  | snapshot
  | begin (name : String)
  | endTask (task : Int32)
  | budget (name : String) (seconds : UInt32)
  | release (name : String)
  /-- The system calls back with the context of a running task. -/
  | expire (task : Int32)
  /-- The system calls back without a context. -/
  | expireNothing

/-- What a step yields. -/
inductive Result where
  | nothing
  | flag (value : Bool)
  | signals (device : Device)
  | state (state : DeviceState)
  | task (task : TaskId)
  | budget (budget : Budget)

/-- What is seen after a step. -/
structure Report where
  result : Result
  /-- What the system saw since the step before. -/
  log : List String
  /-- The numbers of the running tasks, in ascending order. -/
  running : List Int32
  /-- The names whose handlers were run so far. -/
  fired : List String

/-- The system and the application's side of it. -/
structure World where
  device : Device
  probe : Probe
  nextTask : Int32
  /-- The running tasks, in ascending order, with the addresses of their contexts. -/
  running : List (Int32 × Nat)
  expiresInBegin : Bool
  expiresInEnd : Bool
  /-- Whether the system was ever given a callback. -/
  wasAsked : Bool
  log : List String
  host : SystemHost String
  held : HeldWindows
  fired : List String

namespace World

/-- A system without tasks. -/
def new : World where
  device := .new
  probe := .new
  nextTask := 1
  running := []
  expiresInBegin := false
  expiresInEnd := false
  wasAsked := false
  log := []
  host := .new
  held := []
  fired := []

/-- Notes what the system saw. -/
def note (world : World) (entry : String) : World :=
  { world with log := world.log ++ [entry] }

/-- Applies settings. -/
def set (world : World) (change : Change) : World :=
  { world with
    device := world.device.set change.signals
    nextTask := change.nextTask.getD world.nextTask
    expiresInBegin := change.expiresInBegin.getD world.expiresInBegin
    expiresInEnd := change.expiresInEnd.getD world.expiresInEnd }

/-- The system calls back, and the handler it thereby reaches is run. -/
def callBack (world : World) (context : Option Nat) : World :=
  let (handler, host) := world.host.callBack context
  { world with host, fired := world.fired ++ handler.toList }

/-- A task at its place among tasks in ascending order, instead of the one with its number. -/
def insertTask (task : Int32) (context : Nat) : List (Int32 × Nat) → List (Int32 × Nat)
  | [] => [(task, context)]
  | (other, otherContext) :: rest =>
    if task < other then (task, context) :: (other, otherContext) :: rest
    else if task = other then (task, context) :: rest
    else (other, otherContext) :: insertTask task context rest

/-- The system answers a request for a task. -/
def answerRequest (world : World) (name : Text.Terminated) (context : Nat) : Int32 × World :=
  let task := world.nextTask
  let number := String.ofList (Numeric.intText task.toInt)
  let world := { world.note s!"begin {number} {name.lenientText}" with wasAsked := true }
  let world := if world.expiresInBegin then world.callBack (some context) else world
  if task = SystemHost.refusal then (task, world)
  else
    (task,
      { world with
        running := insertTask task context world.running
        nextTask := task + 1 })

/-- Asks for a task whose expiry handler notes the name. -/
def begin (world : World) (name : String) : Option TaskId × World :=
  match world.host.prepare name name with
  | none => (none, world)
  | some (name, context, host) =>
    let (answer, world) := { world with host }.answerRequest name context
    let (task, host) := world.host.settle context answer
    (task, { world with host })

/-- Ends a task: first the system does, and then its context is given up. -/
def endTask (world : World) (task : TaskId) : World :=
  let number := String.ofList (Numeric.intText task.number.toInt)
  let world := world.note s!"end {number}"
  let world :=
    match world.running.find? (·.1 == task.number) with
    | some (_, context) => if world.expiresInEnd then world.callBack (some context) else world
    | none => world
  { world with
    running := world.running.filter (·.1 != task.number)
    host := world.host.forget task }

/-- Tells the system whether to monitor the battery. -/
def monitor (world : World) (enabled : Bool) : World :=
  { world.note s!"monitoring {enabled}" with device := world.device.toggle enabled }

/-- Performs a step. -/
def perform (world : World) : Step → Result × World
  | .set change => (.nothing, world.set change)
  | .signals => (.signals world.device, world)
  | .monitoring enabled => (.nothing, world.monitor enabled)
  | .setMonitoring enabled =>
    let (probe, change) := world.probe.setMonitoring enabled
    let world := { world with probe }
    (.flag probe.isMonitoring, (change.map world.monitor).getD world)
  | .snapshot =>
    match world.device.signals.deviceState with
    | .error _ => (.nothing, world)
    | .ok state => (.state state, world)
  | .begin name =>
    match world.begin name with
    | (none, world) => (.nothing, world)
    | (some task, world) => (.task task, world)
  | .endTask task => (.nothing, world.endTask ⟨task⟩)
  | .budget name seconds =>
    match world.begin name with
    | (none, world) => (.nothing, world)
    | (some task, world) =>
      let budget := Budget.granted task seconds
      (.budget budget, { world with held := world.held ++ [(name, budget)] })
  | .release name =>
    match world.held.take? name with
    | none => (.flag false, world)
    | some (budget, held) => (.flag true, budget.release.foldl endTask { world with held })
  | .expire task =>
    match world.running.find? (·.1 == task) with
    | none => (.flag false, world)
    | some (_, context) => (.flag true, world.callBack (some context))
  | .expireNothing => (.flag world.wasAsked, world.callBack none)

end World

/-- The reports of steps in a world. -/
def reports (world : World) : List Step → List Report
  | [] => []
  | step :: steps =>
    let (result, world) := world.perform step
    ⟨result, world.log, world.running.map Prod.fst, world.fired⟩ ::
      reports { world with log := [] } steps

/-- The reports of steps at a new system. -/
def run (steps : List Step) : List Report :=
  reports .new steps

end BackgroundWork.Simulation.SystemTasks
