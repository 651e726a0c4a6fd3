import BackgroundWork.Proofs.EngineCalls
import BackgroundWork.Proofs.NumberWriting

set_option autoImplicit false

/-!
What the engine learns from a push. Each kind of push enters at an entry point of its own, and its
payload reads as an object whose members are the data of the push, each under its key.

Main statement: `carries_invocation`.
-/

namespace BackgroundWork.Compression

open Engine (Call Invocation)
open Json Numeric
open Telemetry (AppState DeviceState MemoryPressureEvent MemoryPressureLevel MemoryTrend
  ThermalState)

/-! ### What is told -/

/-- What the engine reads for the level of the battery: nothing if it is not finite, and else what
a decimal is read as that rounds to the level and has its sign. -/
inductive ReadsLevel (level : Binary32) : Value → Prop
  | unknown (unknown : level.isFinite = false) : ReadsLevel level .null
  | known (decimal : Decimal) {number : Number}
      (rounds : decimal.roundsTo .binary32 level.magnitude = true)
      (read : float level.negative decimal.digits decimal.exponent = .ok number) :
      ReadsLevel level (.number number)

/-- A number without sign. -/
def natural (n : Nat) : Value :=
  .number (.integer n)

/-- The engine's word for the heat of the device. -/
def thermalWord : ThermalState → String
  | .nominal => "Nominal"
  | .fair => "Fair"
  | .serious => "Serious"
  | .critical => "Critical"

/-- The engine's word for the place of the application. -/
def appWord : AppState → String
  | .active => "Active"
  | .background => "Background"
  | .inactive => "Inactive"

/-- The engine's word for how pressing a shortage of memory is. -/
def pressureWord : MemoryPressureLevel → String
  | .warning => "warning"
  | .critical => "critical"

/-- The engine's word for where the use of memory is heading. -/
def trendWord : MemoryTrend → String
  | .stable => "stable"
  | .increasing => "increasing"

/-- The engine's word for a change between foreground and background. -/
def hintWord : LifecycleHint → String
  | .enteringBackground => "entering_background"
  | .becomingActive => "becoming_active"

/-- The entry point for a push, and what the engine is to read there. -/
inductive Tells : Push → Call → Value → Prop
  | deviceState (state : DeviceState) {level : Value} (reads : ReadsLevel state.batteryLevel level) :
      Tells (.deviceState state) .updateDeviceState
        (.ofMembers [("battery_level", level), ("is_charging", .bool state.isCharging),
          ("thermal_state", .string (thermalWord state.thermalState)),
          ("app_state", .string (appWord state.appState)),
          ("available_memory_mb", natural state.availableMemoryMb.toNat)])
  | budget (seconds : UInt32) :
      Tells (.budget seconds) .handleBackgroundTaskExtension
        (.ofMembers [("granted_seconds", natural seconds.toNat)])
  | memoryPressure (event : MemoryPressureEvent) :
      Tells (.memoryPressure event) .handleEnhancedMemoryWarning
        (.ofMembers [("level", .string (pressureWord event.level)),
          ("available_memory_mb", natural event.availableMemoryMb.toNat),
          ("trend", .string (trendWord event.trend))])
  | visibility (isVisible : Bool) :
      Tells (.visibility isVisible) .handleContentVisibility
        (.ofMembers [("is_visible", .bool isVisible)])
  | lifecycle (hint : LifecycleHint) :
      Tells (.lifecycle hint) .handleAppLifecycleEvent
        (.ofMembers [("event", .string (hintWord hint))])

/-- Whether an entry into the engine carries a push: it is by the entry point for the push and
without a token, and its payload reads as what the push has to tell. -/
structure Carries (entry : Invocation) (push : Push) : Prop where
  tells : ∃ value, Value.ofText entry.payload = .ok value ∧ Tells push entry.call value
  token : entry.token = none

/-! ### What is read -/

/-- The level of the battery as it is written reads as one, whatever stands behind it. -/
theorem exists_written_level (level : Binary32) (depth : Nat) :
    ∃ written : Written depth, written.text = floatText level ∧ ReadsLevel level written.value := by
  cases finite : level.isFinite with
  | false =>
    have text : floatText level = nullText := by
      rw [floatText, finite]
      rfl
    exact ⟨.null, text.symm, .unknown finite⟩
  | true =>
    obtain ⟨decimal, number, rounds, made, reads⟩ := floatText_number finite
    have alone := reads "f32" depth [] trivial
    rw [List.append_nil] at alone
    let written : Written depth :=
      { text := floatText level
        value := .number number
        starts := floatText_starts finite alone
        reads := fun rest ends => decode_of_decodeNumber (reads "f32" depth rest ends) }
    exact ⟨written, rfl, .known decimal rounds made⟩

/-- Three quarters are written with two digits, and read as themselves. -/
example :
    let level : Binary32 := ⟨false, 0x3f400000⟩
    String.ofList (floatText level) = "0.75" ∧
      Codec.binary32.ofText (Codec.binary32.render level) = .ok level := by
  decide +kernel

theorem thermalWord_eq (state : ThermalState) : thermalWord state = state.name := by
  cases state <;> rfl

theorem appWord_eq (state : AppState) : appWord state = state.name := by
  cases state <;> rfl

theorem ofText_deviceState (state : DeviceState) :
    ∃ value, Value.ofText (Push.deviceState state).payload = .ok value ∧
      Tells (.deviceState state) .updateDeviceState value := by
  obtain ⟨level, text, reads⟩ := exists_written_level state.batteryLevel 126
  let written : Written depthLimit :=
    .object [("battery_level", level), ("is_charging", .bool state.isCharging),
      ("thermal_state", .string (thermalWord state.thermalState)),
      ("app_state", .string (appWord state.appState)),
      ("available_memory_mb",
        .natural state.availableMemoryMb.toNat state.availableMemoryMb.toNat_lt)]
  have payload : (Push.deviceState state).payload = String.ofList written.text := by
    simp only [written, thermalWord_eq, appWord_eq]
    show _ = String.ofList (objectText (("battery_level", level.text) :: _))
    rw [text]
    rfl
  rw [payload, written.ofText]
  exact ⟨_, rfl, .deviceState state reads⟩

theorem ofText_memoryPressure (event : MemoryPressureEvent) :
    ∃ value, Value.ofText (Push.memoryPressure event).payload = .ok value ∧
      Tells (.memoryPressure event) .handleEnhancedMemoryWarning value := by
  let written : Written depthLimit :=
    .object [("level", .string (pressureWord event.level)),
      ("available_memory_mb",
        .natural event.availableMemoryMb.toNat event.availableMemoryMb.toNat_lt),
      ("trend", .string (trendWord event.trend))]
  have payload : (Push.memoryPressure event).payload = String.ofList written.text := by
    obtain ⟨level, memory, trend⟩ := event
    cases level <;> cases trend <;> rfl
  rw [payload, written.ofText]
  exact ⟨_, rfl, .memoryPressure event⟩

/-! ### Main statement -/

/-- Each push enters by the entry point of its kind, and the engine reads there what the push has to
tell. -/
theorem carries_invocation (push : Push) : Carries push.invocation push := by
  refine ⟨?_, rfl⟩
  cases push with
  | deviceState state => exact ofText_deviceState state
  | budget seconds =>
    have fits : seconds.toNat < 18446744073709551616 :=
      Nat.lt_trans seconds.toNat_lt (by decide)
    exact ⟨_, (Written.object [("granted_seconds", .natural seconds.toNat fits)]).ofText,
      .budget seconds⟩
  | memoryPressure event => exact ofText_memoryPressure event
  | visibility isVisible =>
    exact ⟨_, (Written.object [("is_visible", .bool isVisible)]).ofText, .visibility isVisible⟩
  | lifecycle hint =>
    cases hint <;> exact ⟨_, (Written.object [("event", .string _)]).ofText, .lifecycle _⟩

end BackgroundWork.Compression
