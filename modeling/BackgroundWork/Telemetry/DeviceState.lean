import BackgroundWork.Json.Record

set_option autoImplicit false

/-!
What the engine is told about the device: its battery, heat, application state and memory, and
what the engine tells about the device in turn.
-/

namespace BackgroundWork.Telemetry

open Json Numeric

/-- How hot the device is. -/
inductive ThermalState where
  | nominal
  | fair
  | serious
  | critical
  deriving DecidableEq, Repr

namespace ThermalState

/-- The state of a raw system value; an unknown value counts as the worst. -/
def ofRaw (value : Int32) : ThermalState :=
  if value = 0 then nominal else if value = 1 then fair else if value = 2 then serious
  else critical

/-- The spelling of a state. -/
def name : ThermalState → String
  | nominal => "Nominal"
  | fair => "Fair"
  | serious => "Serious"
  | critical => "Critical"

/-- The states by name. -/
def enumeration : Enumeration ThermalState where
  names := [nominal, fair, serious, critical].map fun state => (state.name, state)
  name := name

end ThermalState

/-- Whether the application is in front of the user. -/
inductive AppState where
  | active
  | background
  | inactive
  deriving DecidableEq, Repr

namespace AppState

/-- The state of a raw system value; an unknown value counts as a transition. -/
def ofRaw (value : Int32) : AppState :=
  if value = 0 then active else if value = 2 then background else inactive

/-- The spelling of a state. -/
def name : AppState → String
  | active => "Active"
  | background => "Background"
  | inactive => "Inactive"

/-- The states by name. -/
def enumeration : Enumeration AppState where
  names := [active, background, inactive].map fun state => (state.name, state)
  name := name

end AppState

/-- A reading of the device's resources. The battery level is a fraction of one. -/
structure DeviceState where
  batteryLevel : Binary32
  isCharging : Bool
  thermalState : ThermalState
  appState : AppState
  availableMemoryMb : UInt64
  deriving DecidableEq

/-- A reading as a record. -/
def DeviceState.record : Record DeviceState where
  name := "DeviceState"
  types := [Binary32, Bool, ThermalState, AppState, UInt64]
  fields :=
    .cons (.required "battery_level" .binary32) <|
    .cons (.required "is_charging" .bool) <|
    .cons (.required "thermal_state" ThermalState.enumeration.codec) <|
    .cons (.required "app_state" AppState.enumeration.codec) <|
    .cons (.required "available_memory_mb" .uint64) .nil
  make := fun (batteryLevel, isCharging, thermalState, appState, availableMemoryMb, ()) =>
    { batteryLevel, isCharging, thermalState, appState, availableMemoryMb }
  parts state := (state.batteryLevel, state.isCharging, state.thermalState, state.appState,
    state.availableMemoryMb, ())
  isClosed := false

/-- How pressing a shortage of memory is. -/
inductive MemoryPressureLevel where
  | warning
  | critical
  deriving DecidableEq, Repr

namespace MemoryPressureLevel

/-- The spelling of a level. -/
def name : MemoryPressureLevel → String
  | warning => "warning"
  | critical => "critical"

/-- The levels by name. -/
def enumeration : Enumeration MemoryPressureLevel where
  names := [warning, critical].map fun level => (level.name, level)
  name := name

end MemoryPressureLevel

/-- Where the use of memory is heading. -/
inductive MemoryTrend where
  | stable
  | increasing
  deriving DecidableEq, Repr

namespace MemoryTrend

/-- The spelling of a trend. -/
def name : MemoryTrend → String
  | stable => "stable"
  | increasing => "increasing"

/-- The trends by name. -/
def enumeration : Enumeration MemoryTrend where
  names := [stable, increasing].map fun trend => (trend.name, trend)
  name := name

end MemoryTrend

/-- A shortage of memory. -/
structure MemoryPressureEvent where
  level : MemoryPressureLevel
  availableMemoryMb : UInt64
  trend : MemoryTrend
  deriving DecidableEq, Repr

namespace MemoryPressureEvent

/-- What a low-memory notice of the system is taken for: the worst level, and rising. -/
def lowMemory (availableMemoryMb : UInt64) : MemoryPressureEvent :=
  ⟨.critical, availableMemoryMb, .increasing⟩

/-- A shortage as a record. -/
def record : Record MemoryPressureEvent where
  name := "MemoryPressureEvent"
  types := [MemoryPressureLevel, UInt64, MemoryTrend]
  fields :=
    .cons (.required "level" MemoryPressureLevel.enumeration.codec) <|
    .cons (.required "available_memory_mb" .uint64) <|
    .cons (.required "trend" MemoryTrend.enumeration.codec) .nil
  make := fun (level, availableMemoryMb, trend, ()) => { level, availableMemoryMb, trend }
  parts event := (event.level, event.availableMemoryMb, event.trend, ())
  isClosed := false

end MemoryPressureEvent

/-- What the engine detected about the device. -/
structure DeviceCapabilities where
  deviceType : String
  safeConcurrency : UInt64
  memoryLimitMb : UInt64
  recommendations : List String
  deriving DecidableEq, Repr

/-- Capabilities as a record. -/
def DeviceCapabilities.record : Record DeviceCapabilities where
  name := "DeviceCapabilities"
  types := [String, UInt64, UInt64, List String]
  fields :=
    .cons ((Field.withDefault "device_type" .string "").orNamed ["deviceType"]) <|
    .cons ((Field.withDefault "safe_concurrency" .count 0).orNamed
      ["safeConcurrency", "max_concurrent_jobs"]) <|
    .cons ((Field.withDefault "memory_limit_mb" .uint64 0).orNamed ["memoryLimitMB"]) <|
    .cons (.withDefault "recommendations" Codec.string.list []) .nil
  make := fun (deviceType, safeConcurrency, memoryLimitMb, recommendations, ()) =>
    { deviceType, safeConcurrency, memoryLimitMb, recommendations }
  parts value := (value.deviceType, value.safeConcurrency, value.memoryLimitMb,
    value.recommendations, ())
  isClosed := false

end BackgroundWork.Telemetry
