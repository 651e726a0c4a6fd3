import BackgroundWork.Export.AtEngine
import BackgroundWork.Simulation.World

set_option autoImplicit false

/-!
Exports in the world of the services. While an export sleeps time passes for all that runs, and a
second export may be tried at the same desk. When an export and the worker's timer are due at one
moment the export goes on first. An export can be abandoned at a deadline; what it was waiting for
then still comes to its end, but the export does not go on.
-/

namespace BackgroundWork.Simulation

open Export (Capability.atEngine Outcome Phase Process Selection)

/-- An export to be run. -/
structure ExportOrder where
  /-- The name of the desk. -/
  desk : String
  ids : List String
  includeBlobs : Bool
  format : Export.Format
  authToken : String
  /-- After how many milliseconds the export is abandoned. -/
  abandonAfter : Option Nat
  /-- What a second export is tried with while the first one sleeps for the first time. -/
  overlapIds : Option (List String)

/-- What became of a second export. -/
structure Overlap where
  result : Except ServiceError Outcome
  selection : Selection
  phase : Phase

/-- An export on its way through the world. -/
structure Trip where
  world : World
  selection : Selection
  /-- The files that were shown to the user. -/
  revealed : List String
  overlap : Option Overlap

/-- What is seen of an export. -/
structure ExportReport where
  /-- None if the export was abandoned. -/
  result : Option (Except ServiceError Outcome)
  selection : Selection
  elapsed : Nat
  phase : Phase
  revealed : List String
  directoryExists : Bool
  overlap : Option Overlap

namespace Trip

/-- How the current second is written. -/
def stamp : String := "<now>"

/-- Changes the coordinator of a desk. -/
def updateDesk (trip : Trip) (name : String)
    (change : Export.Coordinator → Export.Coordinator) : Trip :=
  match trip.world.desk? name with
  | none => trip
  | some desk =>
    let coordinator := change desk.coordinator
    { trip with
      world :=
        { trip.world.setDesk name { desk with coordinator } with
          exportPhase := some coordinator.phase } }

/-- Tries a second export, unless one was tried. -/
def tryOverlap (trip : Trip) (order : ExportOrder) : Trip :=
  match trip.overlap, order.overlapIds, trip.world.desk? order.desk with
  | none, some ids, some desk =>
    let selection := Selection.ofList ids
    match desk.coordinator.enter selection with
    | .entered _ => trip
    | .answered result =>
      { trip with overlap := some { result, selection, phase := desk.coordinator.phase } }
  | _, _, _ => trip

/-- Whether a deadline has come. -/
def isOver (trip : Trip) : Option Nat → Bool
  | none => false
  | some deadline => deadline ≤ trip.world.now

/-- Lets time pass up to a moment. -/
def passTo (trip : Trip) (target : Nat) : Trip :=
  { trip with world := trip.world.advance (target - trip.world.now) }

/-- Lets time pass up to a moment at which the export goes on, ahead of all else that is due
then. -/
def wakeAt (trip : Trip) (moment : Nat) : Trip :=
  let trip := trip.passTo (moment - 1)
  { trip with world := trip.world.jump (moment - trip.world.now) }

/-- Takes an export through the world. The outcome is none if it is abandoned. -/
def follow (order : ExportOrder) (domain : Export.Domain) (deadline : Option Nat) :
    Process → Trip → Option (Except ServiceError Outcome) × Trip
  | .done result, trip => (some result, trip)
  | .ask (.inl .stamp) next, trip => follow order domain deadline (next stamp) trip
  | .ask (.inl (.createDirectory path)) next, trip =>
    let (answer, disk) := trip.world.disk.create path
    let trip := { trip with world := { trip.world with disk } }
    let answer := answer.mapError Disk.Fault.message
    if trip.isOver deadline then (none, trip) else follow order domain deadline (next answer) trip
  | .ask (.inl (.publish phase)) next, trip =>
    follow order domain deadline (next ())
      (trip.updateDesk order.desk fun coordinator => coordinator.publish phase)
  | .ask (.inl (.sleep milliseconds)) next, trip =>
    let trip := trip.tryOverlap order
    let wake := trip.world.now + World.wait milliseconds
    match deadline with
    | some moment =>
      if moment < wake then (none, trip.passTo moment)
      else follow order domain deadline (next ()) (trip.wakeAt wake)
    | none => follow order domain deadline (next ()) (trip.wakeAt wake)
  | .ask (.inl .clearSelection) next, trip =>
    follow order domain deadline (next ()) { trip with selection := .empty }
  | .ask (.inl (.reveal path)) next, trip =>
    follow order domain deadline (next ()) { trip with revealed := trip.revealed ++ [path] }
  | .ask (.inr op) next, trip =>
    let (answer, world) := trip.world.runEngine (Capability.atEngine domain op)
    let trip := { trip with world }
    if trip.isOver deadline then (none, trip) else follow order domain deadline (next answer) trip

end Trip

namespace World

/-- Runs an export at a desk. -/
def exportAt (world : World) (order : ExportOrder) (desk : ExportDesk) :
    Option (Except ServiceError Outcome) × Trip :=
  let selection := Selection.ofList order.ids
  let trip : Trip := { world, selection, revealed := [], overlap := none }
  match desk.coordinator.enter selection with
  | .answered result => (some result, trip)
  | .entered coordinator =>
    let assignment : Export.Assignment :=
      { documents := desk.documents
        domain := desk.domain
        selection
        includeBlobs := order.includeBlobs
        format := order.format
        authToken := order.authToken }
    let deadline := order.abandonAfter.map fun milliseconds => world.now + milliseconds
    let (result, trip) :=
      Trip.follow order desk.domain deadline (Process.start world.settings.poll assignment)
        (trip.updateDesk order.desk fun _ => coordinator)
    (result, trip.updateDesk order.desk fun coordinator =>
      match result with
      | some result => coordinator.finish result
      | none => coordinator.abandon)

/-- Runs an export and reports on it; none if there is no such desk. -/
def runExport (world : World) (order : ExportOrder) : Option ExportReport × World :=
  match world.desk? order.desk with
  | none => (none, world)
  | some desk =>
    let (result, trip) :=
      { world with exportPhase := some desk.coordinator.phase }.exportAt order desk
    let after := ((trip.world.desk? order.desk).getD desk).coordinator
    (some
      { result
        selection := trip.selection
        elapsed := trip.world.now - world.now
        phase := after.phase
        revealed := trip.revealed
        directoryExists :=
          trip.world.disk.isDirectory (Export.Path.directory desk.documents desk.domain)
        overlap := trip.overlap },
      trip.world)

end World
end BackgroundWork.Simulation
