import BackgroundWork.Simulation.Host

set_option autoImplicit false

/-!
Windows that are opened and closed by hand at a system that can refuse them and announce their
end. Windows are known by the names under which they were asked for, the oldest first.
-/

namespace BackgroundWork.Simulation

open Background (Budget)

/-- Windows that are held, by the names under which they were asked for. -/
abbrev HeldWindows := List (String × Budget)

/-- Takes the oldest window of a name. -/
def HeldWindows.take? (held : HeldWindows) (name : String) : Option (Budget × HeldWindows) :=
  (held.find? (·.1 == name)).map fun (_, budget) => (budget, held.eraseP (·.1 == name))

namespace Windows

/-- What is done with windows or with the system. -/
inductive Step where
  | begin (name : String) (seconds : UInt32)
  | release (name : String)
  | refuse (refuses : Bool)
  | expire (task : Option Nat)

/-- What a step yields. -/
inductive Result where
  | nothing
  | opened (budget : Budget)
  | flag (value : Bool)

/-- What is seen after a step. -/
structure Report where
  result : Result
  /-- What the system saw since the step before. -/
  log : List String
  outstanding : List Nat
  /-- The names of the windows whose end was announced so far. -/
  fired : List String

/-- The system and the windows that are held. -/
structure World where
  host : Host String
  held : HeldWindows
  fired : List String

/-- Performs a step. -/
def World.perform (world : World) : Step → Result × World
  | .begin name seconds =>
    let granted := world.host.nextTask?
    let (announced, host) := world.host.ask name name
    let world := { world with host, fired := world.fired ++ announced.toList }
    match granted with
    | none => (.nothing, world)
    | some task =>
      let budget := Budget.granted task seconds
      (.opened budget, { world with held := world.held ++ [(name, budget)] })
  | .release name =>
    match world.held.take? name with
    | none => (.flag false, world)
    | some (budget, held) =>
      (.flag true, { world with host := budget.release.foldl Host.endTask world.host, held })
  | .refuse refuses => (.nothing, { world with host := { world.host with refuses } })
  | .expire task =>
    let (announced, host) := world.host.expire task
    (.flag announced.isSome, { world with host, fired := world.fired ++ announced.toList })

/-- The reports of steps in a world. -/
def reports (world : World) : List Step → List Report
  | [] => []
  | step :: steps =>
    let (result, world) := world.perform step
    let (log, host) := world.host.takeLog
    let world := { world with host }
    ⟨result, log, host.outstanding, world.fired⟩ :: reports world steps

/-- The reports of steps at a new system. -/
def run (steps : List Step) : List Report :=
  reports ⟨.new, [], []⟩ steps

end Windows
end BackgroundWork.Simulation
