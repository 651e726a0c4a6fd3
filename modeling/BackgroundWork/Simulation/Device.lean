import BackgroundWork.Telemetry.Probe

set_option autoImplicit false

/-!
A device whose signals can be set.
-/

namespace BackgroundWork.Simulation

open Numeric Telemetry

/-- New readings for some of the signals. -/
structure SignalChange where
  battery : Option Binary32
  isCharging : Option Bool
  thermalState : Option Int32
  appState : Option Int32
  physicalBytes : Option UInt64
  residentBytes : Option UInt64

/-- A device. -/
structure Device where
  battery : Binary32
  /-- The message with which reading the battery fails. -/
  batteryFailure : Option String
  isCharging : Bool
  thermalState : ThermalState
  appState : AppState
  physicalBytes : UInt64
  residentBytes : UInt64
  /-- Whether the system was told last to monitor the battery. -/
  monitoring : Bool
  /-- How often the system was told. -/
  toggles : Nat

namespace Device

/-- A device with a battery at three quarters that is neither charging nor hot, in use, with three
of its four gigabytes free. -/
def new : Device where
  battery := ⟨false, Format.binary32.nearest 3 4⟩
  batteryFailure := none
  isCharging := false
  thermalState := .nominal
  appState := .active
  physicalBytes := 4294967296
  residentBytes := 1073741824
  monitoring := false
  toggles := 0

/-- Sets some of the signals. -/
def set (device : Device) (change : SignalChange) : Device :=
  { device with
    battery := change.battery.getD device.battery
    isCharging := change.isCharging.getD device.isCharging
    thermalState := (change.thermalState.map ThermalState.ofRaw).getD device.thermalState
    appState := (change.appState.map AppState.ofRaw).getD device.appState
    physicalBytes := change.physicalBytes.getD device.physicalBytes
    residentBytes := change.residentBytes.getD device.residentBytes }

/-- The signals of the device. -/
def signals (device : Device) : Signals where
  battery :=
    match device.batteryFailure with
    | some message => .error message
    | none => .ok device.battery
  isCharging := device.isCharging
  thermalState := device.thermalState
  appState := device.appState
  physicalBytes := device.physicalBytes
  residentBytes := device.residentBytes

/-- Tells the system whether to monitor the battery. -/
def toggle (device : Device) (enabled : Bool) : Device :=
  { device with monitoring := enabled, toggles := device.toggles + 1 }

/-- Switches monitoring through a probe. -/
def setMonitoring (device : Device) (probe : Probe) (enabled : Bool) : Probe × Device :=
  let (probe, change) := probe.setMonitoring enabled
  (probe, (change.map device.toggle).getD device)

end Device
end BackgroundWork.Simulation
