import BackgroundWork.Compression.Coordinator
import BackgroundWork.Compression.Documents
import BackgroundWork.Compression.Handle
import BackgroundWork.Compression.Publisher
import BackgroundWork.Compression.Subject
import BackgroundWork.Export.Coordinator
import BackgroundWork.Simulation.Device
import BackgroundWork.Simulation.Disk
import BackgroundWork.Simulation.Host
import BackgroundWork.Simulation.ScriptedEngine

set_option autoImplicit false

/-!
The services in a world of their own: a scripted engine, a device, a system that grants tasks, a
disk and a clock. Between two steps everything runs that can: the worker takes turns until nothing
waits for it, then its pulls are performed, and then the publisher sends what it has. The clock
moves only when it is told to. It is a clock for rehearsals, and it lets nothing wait longer than
thirty years: not an export, and not a timer from one due time to the next. The first due time of a
timer is as far off as it is asked for.
-/

namespace BackgroundWork.Simulation

open Compression (Answer Command Effect Progress Publisher Pull)
open Engine (Call)

/-- A call that entered the engine. -/
structure CallRecord where
  call : Call
  payload : String
  token : Option String
  /-- How the export stood that was running or ran last; none if there was none. -/
  phase : Option Export.Phase

/-- The exports of one domain below one directory. -/
structure ExportDesk where
  domain : Export.Domain
  documents : String
  coordinator : Export.Coordinator

/-- The services and all that surrounds them. -/
structure World where
  settings : Settings
  /-- The clock, in milliseconds. -/
  now : Nat
  engine : ScriptedEngine
  device : Device
  /-- The handler of a task announces the end of the window asked for under a number. -/
  host : Host Nat
  disk : Disk
  coordinator : Compression.Coordinator
  /-- The publisher, until it ends. -/
  publisher : Option Publisher
  /-- What was asked of the engine for the worker and is not performed. -/
  pulls : List Pull
  /-- What commands were answered. -/
  answers : List (Nat × Answer)
  desks : List (String × ExportDesk)
  /-- How the export stands that is running or ran last, also when its desk was set up anew. -/
  exportPhase : Option Export.Phase
  /-- The calls since the last report whose answers are waited for. -/
  calls : List CallRecord
  /-- The calls since the last report by which the engine is only told something. -/
  pushes : List CallRecord

namespace World

/-- What the clock shows at first. -/
def origin : Nat := 1000000

/-- The longest wait, in milliseconds: thirty years of 365 days. -/
def longestWait : Nat := 30 * 365 * 86400 * 1000

/-- How long a wait takes that is asked for. -/
def wait (milliseconds : Nat) : Nat :=
  min milliseconds longestWait

/-- New services. -/
def new (settings : Settings) : World where
  settings := settings
  now := origin
  engine := .new
  device := .new
  host := .new
  disk := .new
  coordinator := .new settings.coordinator
  publisher := some (.new settings.coordinator.publisherQueueDepth)
  pulls := []
  answers := []
  desks := []
  exportPhase := none
  calls := []
  pushes := []

/-! ### The engine -/

/-- The desk of a name. -/
def desk? (world : World) (name : String) : Option ExportDesk :=
  (world.desks.find? (·.1 == name)).map Prod.snd

/-- Puts a desk under a name. -/
def setDesk (world : World) (name : String) (desk : ExportDesk) : World :=
  { world with desks := (name, desk) :: world.desks.filter (·.1 != name) }

/-- Notes a call that enters the engine. -/
def note (world : World) (call : Call) (payload : String) (token : Option String) : World :=
  let record := { call, payload, token, phase := world.exportPhase }
  if call.isPush then { world with pushes := world.pushes ++ [record] }
  else { world with calls := world.calls ++ [record] }

/-- What the world answers at the boundary to the engine. -/
def atBridge (op : Engine.Bridge.interface.Op) (world : World) :
    Engine.Bridge.interface.Answer op × World :=
  let world :=
    match op with
    | .invoke call payload token => world.note call payload token
    | _ => world
  let (answer, engine) := world.engine.answer op
  (answer, { world with engine })

/-- What a program at the boundary comes to. -/
def runEngine {α : Type} (world : World) (program : Program Engine.Bridge.interface α) :
    α × World :=
  program.run atBridge world

/-- What the world answers to a request about documents. -/
def atCoordination
    (op : (Compression.Documents.coordination.sum Engine.Bridge.interface).Op) (world : World) :
    (Compression.Documents.coordination.sum Engine.Bridge.interface).Answer op × World :=
  match op with
  | .inl .phase => (world.coordinator.worker.phase, world)
  | .inl (.post update) =>
    ((), { world with coordinator := world.coordinator.post (.refreshed update) })
  | .inr op => world.atBridge op

/-- What a request about documents comes to. -/
def runAction {α : Type} (world : World) (action : Compression.Documents.Action α) :
    Except ServiceError α × World :=
  action.run atCoordination world

/-! ### The worker -/

/-- Hands the publisher a push. -/
def submit (world : World) (push : Compression.Push) : World :=
  { world with publisher := world.publisher.map fun publisher => publisher.submit push }

/-- The end of a window is announced to the worker. -/
def announce (world : World) (grant : Nat) : World :=
  { world with coordinator := world.coordinator.post (.budgetExpired grant) }

/-- The system is asked for a window. -/
def askWindow (world : World) (grant : Nat) : World :=
  let (announced, host) := world.host.ask world.settings.coordinator.backgroundTaskName grant
  announced.toList.foldl announce { world with host }

/-- What the worker has done happens in the world. -/
def apply (world : World) : Effect → World
  | .setMonitoring enabled => { world with device := world.device.toggle enabled }
  | .pull subject => { world with pulls := world.pulls ++ [subject] }
  | .push push => world.submit push
  | .askWindow grant => world.askWindow grant
  | .endTask task => { world with host := world.host.endTask task }

/-- The worker's timer on the clock of the world, which cuts its period short. -/
def timed (coordinator : Compression.Coordinator) : Compression.Coordinator :=
  { coordinator with
    worker.timer := coordinator.worker.timer.map fun timer =>
      { timer with period := wait timer.period } }

/-- What a turn of the worker came to happens in the world. -/
def take (world : World) (progress : Progress) : World :=
  progress.effects.foldl apply
    { world with
      coordinator := timed progress.coordinator
      answers := world.answers ++ progress.answers }

/-- What the worker finds now. -/
def moment (world : World) : Compression.Moment where
  now := world.now
  signals := world.device.signals
  window := world.host.nextTask?

/-- Turns of the worker until nothing waits for it, at most the given number. -/
def turns : Nat → World → World
  | 0, world => world
  | most + 1, world =>
    match world.coordinator.turn? world.moment with
    | none => world
    | some progress => turns most (world.take progress)

/-- More turns than the worker can take at once: one for each thing that waits, another for each
command since it can lead to an announcement, one for each tick of a timer that is late within
the tolerance, and the last. -/
def turnLimit (world : World) : Nat :=
  world.coordinator.internal.length + 2 * world.coordinator.commands.length +
    Compression.Timer.tolerance + 2

/-- The worker's turns. -/
def work (world : World) : World :=
  world.turns world.turnLimit

/-- The publisher sends what it has, at most the given number of pushes. -/
def sendPushes : Nat → World → World
  | 0, world => world
  | most + 1, world =>
    match world.publisher.bind Publisher.take? with
    | none => world
    | some (push, publisher) =>
      sendPushes most ({ world with publisher := some publisher }.runEngine push.send).2

/-- The publisher sends what it has. -/
def publish (world : World) : World :=
  world.sendPushes ((world.publisher.map (·.waiting.length)).getD 0)

/-- A pull is performed, and what it brings in is handed to the worker. -/
def pull (world : World) (pull : Pull) : World :=
  (world.runAction pull.subject.pull).2

/-- Everything runs that can. Reports that pulls bring in lead to no further pulls. -/
def settle (world : World) : World :=
  let world := world.work
  (world.pulls.foldl pull { world with pulls := [] }).work.publish

/-! ### The clock -/

/-- The time at which the worker's timer is due. -/
def due? (world : World) : Option Nat :=
  if world.coordinator.isRunning then world.coordinator.worker.timer.map (·.due) else none

/-- Lets time pass up to a moment, with a halt at each of at most the given number of times at
which the timer is due. -/
def passTo (target : Nat) : Nat → World → World
  | 0, world => { world with now := target }
  | most + 1, world =>
    match world.due? with
    | none => { world with now := target }
    | some due =>
      if due ≤ target then passTo target most { world with now := max world.now due }.settle
      else { world with now := target }

/-- Waits while time passes. The timer is due at most once in a millisecond. -/
def advance (world : World) (milliseconds : Nat) : World :=
  let milliseconds := wait milliseconds
  world.passTo (world.now + milliseconds) (milliseconds + 1)

/-- Moves the clock at once. -/
def jump (world : World) (milliseconds : Nat) : World :=
  { world with now := world.now + milliseconds }

/-! ### Commands -/

/-- Sends the worker a command and waits for the answer. -/
def command (world : World) (command : Command) : Answer × World :=
  match world.coordinator.send 0 command with
  | .error answer => (answer, world)
  | .ok coordinator =>
    let world := { world with coordinator, answers := [] }.settle
    ((world.answers.lookup 0).getD .dropped, world)

/-- What the world answers to callers. -/
def atHandle (op : Compression.Handle.interface.Op) (world : World) :
    Compression.Handle.interface.Answer op × World :=
  match op with
  | .ask request => world.command request.command
  | .join =>
    match world.coordinator.join? with
    | none => (.ok (), world)
    | some (result, coordinator) => (result, { world with coordinator })

/-- What a caller's dealing with the coordinator comes to. -/
def runHandle {α : Type} (world : World) (program : Program Compression.Handle.interface α) :
    α × World :=
  program.run atHandle world

/-- Lets go of the services. The worker and the publisher end in order. -/
def letGo (world : World) : World :=
  { { world with coordinator := world.coordinator.close }.settle with publisher := none }

/-- Ends everything that runs, wherever it is. -/
def interrupt (world : World) : World :=
  { world.take world.coordinator.cancel with publisher := none, pulls := [] }

end World
end BackgroundWork.Simulation
