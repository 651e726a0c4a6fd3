import BackgroundWork.Simulation.Exporting

set_option autoImplicit false

/-!
Sessions: steps through the life of the services, with a report on each. A session may go on after
everything that runs was interrupted.
-/

namespace BackgroundWork.Simulation

open Compression (Config LifecycleEvent Priority Snapshot)
open Engine (Call Client.Request)

/-- What stands in the way of a desk's directory. -/
inductive Obstacle where
  | nothing
  /-- The documents directory is a plain file. -/
  | documents
  /-- The domain's directory is a plain file. -/
  | directory

/-- A step of a session. -/
inductive Step where
  | script (call : Call) (reply : ScriptedReply)
  | setLastError (text : Option String)
  /-- Sets signals, and with which message reading the battery fails from then on, if it does. -/
  | signals (change : SignalChange) (failure : Option String)
  | host (refuses expiresAtOnce : Option Bool)
  | expire (task : Option Nat)
  | advance (milliseconds : Nat)
  | jump (milliseconds : Nat)
  | start
  | stop
  | lifecycle (event : LifecycleEvent)
  | snapshot
  | shutDown
  | queue (id : String) (priority : Priority)
  | updatePriority (id : String) (priority : Priority)
  | compress (id : String) (config : Option Config)
  | cancel (id : String)
  | documentStatus (id : String)
  | refreshStatus
  | refreshQueue
  | visibility (values : List Bool)
  | settings
  | telemetry
  | send (call : Call) (payload : String) (token : Option String)
  /-- The answer is decoded by a codec that writes it again. -/
  | json (call : Call) (request : Client.Request) (token : Option String)
      (codec : Json.Codec (List Char))
  | status (call : Call) (request : Client.Request)
  | fetch (call : Call) (codec : Json.Codec (List Char))
  | newDesk (name : String) (domain : Export.Domain) (documents : String) (obstacle : Obstacle)
  | runExport (order : ExportOrder)
  | exportPhase (name : String)
  | letGo

/-- What a step yields. -/
inductive Result where
  | nothing
  | flag (value : Bool)
  | unit (outcome : Except ServiceError Unit)
  | snapshot (outcome : Except ServiceError Snapshot)
  | queued (outcome : Except ServiceError Compression.QueueOutcome)
  | changed (outcome : Except ServiceError Bool)
  | compressed (outcome : Except ServiceError Compression.Summary)
  | history (outcome : Except ServiceError Compression.DocumentHistory)
  | status (outcome : Except ServiceError Compression.ComprehensiveStatus)
  | queueStatus (outcome : Except ServiceError Compression.QueueStatus)
  | reply (outcome : Except ServiceError Engine.Reply)
  | data (outcome : Except ServiceError (List Char))
  | settings (settings : Settings)
  | telemetry (reading : Except String Telemetry.DeviceState)
  | desk (desk : ExportDesk)
  | exported (report : ExportReport)
  | exportPhase (phase : Export.Phase)

/-- What is seen after a step. -/
structure StepReport where
  result : Result
  calls : List CallRecord
  pushes : List CallRecord
  /-- What the system saw since the step before. -/
  hostLog : List String
  budgetPhase : Background.BudgetPhase
  outstanding : List Nat
  device : Device

/-- What is seen of a session. -/
structure SessionReport where
  steps : List StepReport
  afterwards : Option (List StepReport)
  /-- How many responses the engine handed out. -/
  buffers : Nat
  /-- How many of them were not given back. -/
  buffersOutstanding : Nat
  lastErrorReads : Nat

namespace World

/-- The result of a caller's dealing with the coordinator. -/
def handled {α : Type} (world : World) (wrap : Except ServiceError α → Result)
    (program : Program Compression.Handle.interface (Except ServiceError α)) : Result × World :=
  let (outcome, world) := world.runHandle program
  (wrap outcome, world)

/-- The result of a request about documents. -/
def document {α : Type} (world : World) (wrap : Except ServiceError α → Result)
    (action : Compression.Documents.Action α) : Result × World :=
  let (outcome, world) := world.runAction action
  (wrap outcome, world)

/-- The result of a program at the boundary to the engine. -/
def engineCall {α : Type} (world : World) (wrap : Except ServiceError α → Result)
    (program : Program Engine.Bridge.interface (Except ServiceError α)) : Result × World :=
  let (outcome, world) := world.runEngine program
  (wrap outcome, world)

/-- Sets up a desk. -/
def newDesk (world : World) (name : String) (domain : Export.Domain) (documents : String)
    (obstacle : Obstacle) : Result × World :=
  let desk : ExportDesk := { domain, documents, coordinator := .new }
  let disk :=
    match obstacle with
    | .nothing => world.disk
    | .documents => world.disk.block documents
    | .directory => world.disk.block (Export.Path.directory documents domain)
  (.desk desk, { world.setDesk name desk with disk })

/-- Performs a step, after which other things may still have to run. -/
def perform (world : World) : Step → Result × World
  | .script call reply => (.nothing, { world with engine := world.engine.add call reply })
  | .setLastError text =>
    (.nothing, { world with engine := { world.engine with lastError := text } })
  | .signals change failure =>
    (.nothing, { world with device := { world.device.set change with batteryFailure := failure } })
  | .host refuses expiresAtOnce =>
    (.nothing,
      { world with
        host :=
          { world.host with
            refuses := refuses.getD world.host.refuses
            expiresAtOnce := expiresAtOnce.getD world.host.expiresAtOnce } })
  | .expire task =>
    let (announced, host) := world.host.expire task
    (.flag announced.isSome, announced.toList.foldl announce { world with host })
  | .advance milliseconds => (.nothing, world.advance milliseconds)
  | .jump milliseconds => (.nothing, world.jump milliseconds)
  | .start => world.handled .unit (Compression.Handle.dispatch .start)
  | .stop => world.handled .unit (Compression.Handle.dispatch .stop)
  | .lifecycle event => world.handled .unit (Compression.Handle.dispatch (.lifecycle event))
  | .snapshot => world.handled .snapshot Compression.Handle.snapshot
  | .shutDown => world.handled .unit Compression.Handle.shutDown
  | .queue id priority => world.document .queued (Compression.Documents.queue id priority)
  | .updatePriority id priority =>
    world.document .changed (Compression.Documents.updatePriority id priority)
  | .compress id config =>
    world.document .compressed
      (Compression.Documents.compress world.settings.coordinator.maxCompressRequestBytes id config)
  | .cancel id => world.document .changed (Compression.Documents.cancel id)
  | .documentStatus id => world.document .history (Compression.Documents.status id)
  | .refreshStatus => world.document .status Compression.Documents.refreshStatus
  | .refreshQueue => world.document .queueStatus Compression.Documents.refreshQueue
  | .visibility values =>
    (.nothing, values.foldl (fun world isVisible => world.submit (.visibility isVisible)) world)
  | .settings => (.settings world.settings, world)
  | .telemetry => (.telemetry world.device.signals.deviceState, world)
  | .send call payload token =>
    world.engineCall .reply (Engine.Client.send call payload token)
  | .json call request token codec =>
    world.engineCall .data (Engine.Client.callJson codec call request token)
  | .status call request => world.engineCall .unit (Engine.Client.callStatus call request)
  | .fetch call codec => world.engineCall .data (Engine.Client.fetch codec call)
  | .newDesk name domain documents obstacle => world.newDesk name domain documents obstacle
  | .runExport order =>
    match world.runExport order with
    | (none, world) => (.nothing, world)
    | (some report, world) => (.exported report, world)
  | .exportPhase name =>
    match world.desk? name with
    | none => (.nothing, world)
    | some desk => (.exportPhase desk.coordinator.phase, world)
  | .letGo => (.nothing, world.letGo)

/-- What is seen after a step, with lists that start anew. -/
def report (world : World) (result : Result) : StepReport × World :=
  let (hostLog, host) := world.host.takeLog
  ({ result
     calls := world.calls
     pushes := world.pushes
     hostLog
     budgetPhase := world.coordinator.worker.phase
     outstanding := host.outstanding
     device := world.device },
    { world with host, calls := [], pushes := [] })

/-- The reports on steps. -/
def follow (world : World) : List Step → List StepReport × World
  | [] => ([], world)
  | step :: steps =>
    let (result, world) := world.perform step
    let (report, world) := world.settle.report result
    let (reports, world) := world.follow steps
    (report :: reports, world)

end World

/-- The report on a session, which may go on after an interruption. -/
def runSession (settings : Settings) (steps : List Step) (afterwards : Option (List Step)) :
    SessionReport :=
  let (reports, world) := (World.new settings).follow steps
  let (later, world) : Option (List StepReport) × World :=
    match afterwards with
    | none => (none, world)
    | some steps =>
      let (reports, world) := world.interrupt.follow steps
      (some reports, world)
  { steps := reports
    afterwards := later
    buffers := world.engine.buffers
    buffersOutstanding := world.engine.memory.length
    lastErrorReads := world.engine.lastErrorReads }

end BackgroundWork.Simulation
