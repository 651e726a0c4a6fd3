import BackgroundWork.Simulation.Device

set_option autoImplicit false

/-!
A probe on a device whose signals are set step by step.
-/

namespace BackgroundWork.Simulation.Probing

open Telemetry

/-- What is done with the device or its probe. -/
inductive Step where
  | set (change : SignalChange)
  | setMonitoring (enabled : Bool)
  | snapshot
  | availableMemory
  | lowMemory

/-- What a step yields. -/
inductive Result where
  | nothing
  | state (state : DeviceState)
  | availableMb (amount : UInt64)
  | pressure (event : MemoryPressureEvent)

/-- What is seen after a step. -/
structure Report where
  result : Result
  isMonitoring : Bool
  device : Device

/-- A device with its probe. -/
structure World where
  device : Device
  probe : Probe

/-- Performs a step. -/
def World.perform (world : World) : Step → Result × World
  | .set change => (.nothing, { world with device := world.device.set change })
  | .setMonitoring enabled =>
    let (probe, device) := world.device.setMonitoring world.probe enabled
    (.nothing, ⟨device, probe⟩)
  | .snapshot =>
    match world.device.signals.deviceState with
    | .error _ => (.nothing, world)
    | .ok state => (.state state, world)
  | .availableMemory => (.availableMb world.device.signals.availableMemoryMb, world)
  | .lowMemory => (.pressure (.lowMemory world.device.signals.availableMemoryMb), world)

/-- The reports of steps in a world. -/
def reports (world : World) : List Step → List Report
  | [] => []
  | step :: steps =>
    let (result, world) := world.perform step
    ⟨result, world.probe.isMonitoring, world.device⟩ :: reports world steps

/-- The reports of steps on a new device. -/
def run (steps : List Step) : List Report :=
  reports ⟨.new, .new⟩ steps

end BackgroundWork.Simulation.Probing
