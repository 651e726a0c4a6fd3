import BackgroundWork.Telemetry.DeviceState

set_option autoImplicit false

/-!
Reading the device. The signals are what the system reports; a probe turns them into a device
state, and switches the battery monitoring of the system on and off.
-/

namespace BackgroundWork.Telemetry

open Numeric

/-- What the system reports at a moment. The battery sensor may fail with a message. -/
structure Signals where
  battery : Except String Binary32
  isCharging : Bool
  thermalState : ThermalState
  appState : AppState
  physicalBytes : UInt64
  residentBytes : UInt64

namespace Signals

/-- The bytes of a megabyte. -/
def bytesPerMb : Nat := 1048576

/-- The memory that is not in use, in whole megabytes; never below zero. -/
def availableMemoryMb (signals : Signals) : UInt64 :=
  .ofNat ((signals.physicalBytes.toNat - signals.residentBytes.toNat) / bytesPerMb)

/-- A level of an unknown battery counts as full, and none counts as more than full. -/
def normalizeBattery (level : Binary32) : Binary32 :=
  if level.isUndefined || level.isNegative then .one
  else if (Binary.one : Binary32).magnitude < level.magnitude && !level.negative then
    .one
  else level

/-- The state of the device. -/
def deviceState (signals : Signals) : Except String DeviceState :=
  signals.battery.map fun level =>
    { batteryLevel := normalizeBattery level
      isCharging := signals.isCharging
      thermalState := signals.thermalState
      appState := signals.appState
      availableMemoryMb := signals.availableMemoryMb }

end Signals

/-- Whether a probe has battery monitoring on. -/
structure Probe where
  isMonitoring : Bool
  deriving DecidableEq, Repr

namespace Probe

/-- A probe at first. -/
def new : Probe := ⟨false⟩

/-- Switches monitoring on or off. The system is only told of a change; the answer is what it is
told. -/
def setMonitoring (probe : Probe) (enabled : Bool) : Probe × Option Bool :=
  if probe.isMonitoring = enabled then (probe, none) else (⟨enabled⟩, some enabled)

end Probe
end BackgroundWork.Telemetry
