import BackgroundWork.Proofs.PushReading
import BackgroundWork.Proofs.RecordReading
import BackgroundWork.Telemetry.Probe
import Mathlib.Algebra.Order.Field.Rat

set_option autoImplicit false

/-!
What a reading of the device becomes. Whatever the battery sensor says, the level that is sent is
a number from zero to one, so that it never stands as the empty value in the text; the memory is
what is left in whole megabytes; and the engine reads the state that was sent.

Main statement: `deviceState_wellFormed`.
-/

namespace BackgroundWork.Telemetry

open Json Numeric
open Compression (Push)

/-! ### The battery -/

namespace Signals

theorem units_one : (Binary.one : Binary32).units = Format.binary32.one := by
  decide +kernel

theorem value_one : (Binary.one : Binary32).value = 1 := by
  have positive : (0 : ℚ) < Format.binary32.one := by exact_mod_cast Format.one_pos
  rw [Binary.value_positive rfl, units_one]
  exact div_self positive.ne'

/-- A level is kept if it is zero of either sign, or positive and at most one; any other becomes
one. -/
theorem normalizeBattery_cases (level : Binary32) :
    normalizeBattery level = .one ∨
      normalizeBattery level = level ∧ (level.magnitude = 0 ∨
        level.negative = false ∧ level.magnitude ≤ (Binary.one : Binary32).magnitude) := by
  unfold normalizeBattery
  split
  · exact .inl rfl
  next known =>
    split
    · exact .inl rfl
    next small =>
      refine .inr ⟨rfl, ?_⟩
      simp only [Binary.isNegative, Bool.or_eq_true, Bool.and_eq_true, bne_iff_ne, not_or] at known
      cases sign : level.negative with
      | false =>
        refine .inr ⟨rfl, ?_⟩
        simpa [sign] using small
      | true =>
        refine .inl ?_
        by_contra filled
        exact known.2 ⟨⟨sign, filled⟩, by simpa using known.1⟩

/-- Whatever the sensor says, the level is a number from zero to one. -/
theorem normalizeBattery_fraction (level : Binary32) :
    (normalizeBattery level).isFinite = true ∧ 0 ≤ (normalizeBattery level).value ∧
      (normalizeBattery level).value ≤ 1 := by
  have finite : (Binary.one : Binary32).magnitude < Format.binary32.infinity := by decide +kernel
  obtain full | ⟨kept, zero | ⟨positive, small⟩⟩ := normalizeBattery_cases level
  · rw [full, value_one]
    exact ⟨by simpa [Binary.isFinite] using finite, by decide, by decide⟩
  · rw [kept, Binary.value_zero zero]
    refine ⟨?_, by decide, by decide⟩
    rw [Binary.isFinite, zero]
    rfl
  · have units : level.units ≤ Format.binary32.one := units_one ▸ Format.units_mono small
    have whole : (0 : ℚ) < Format.binary32.one := by exact_mod_cast Format.one_pos
    rw [kept, Binary.value_positive positive]
    refine ⟨by simpa [Binary.isFinite] using small.trans_lt finite,
      div_nonneg (Nat.cast_nonneg _) (Nat.cast_nonneg _), ?_⟩
    rw [div_le_one whole]
    exact_mod_cast units

/-! ### The memory -/

theorem availableMemoryMb_toInt (signals : Signals) :
    (signals.availableMemoryMb.toNat : ℤ) =
      max ((signals.physicalBytes.toNat : ℤ) - signals.residentBytes.toNat) 0 / 2 ^ 20 := by
  have physical := signals.physicalBytes.toNat_lt
  have fits : (signals.physicalBytes.toNat - signals.residentBytes.toNat) / bytesPerMb <
      18446744073709551616 := by
    unfold bytesPerMb
    omega
  rw [availableMemoryMb, UInt64.toNat_ofNat_of_lt' fits]
  unfold bytesPerMb
  omega

end Signals

/-! ### The payload -/

theorem thermalState_known (state : ThermalState) :
    ThermalState.enumeration.ofName? state.name = some state := by
  cases state <;> rfl

theorem appState_known (state : AppState) :
    AppState.enumeration.ofName? state.name = some state := by
  cases state <;> rfl

section

variable {state : DeviceState} (finite : state.batteryLevel.isFinite = true)
  (readsBack : Codec.binary32.ofText (Codec.binary32.render state.batteryLevel) =
    .ok state.batteryLevel)

include finite readsBack

/-- The engine reads the state that was sent. -/
theorem deviceState_readsBack :
    DeviceState.record.codec.ofText (Push.deviceState state).payload = .ok state := by
  have members : DeviceState.record.codec.ReadsBack (126 + 1) state :=
    Record.codec_readsBack (by decide) rfl
      ⟨binary_readsBack finite readsBack 126, Codec.bool_readsBack _,
        Codec.enumeration_readsBack (thermalState_known _),
        Codec.enumeration_readsBack (appState_known _), Codec.word_readsBack "u64" _, trivial⟩
  exact members.ofText_render

end

/-- In the text of a state with a finite level the battery level is a number. -/
theorem deviceState_batteryLevel {state : DeviceState}
    (finite : state.batteryLevel.isFinite = true) :
    ∃ value number, Value.ofText (Push.deviceState state).payload = .ok value ∧
      value.get? "battery_level" = some (.number number) := by
  obtain ⟨value, read, tells⟩ := Compression.ofText_deviceState state
  cases tells with
  | deviceState _ level =>
    cases level with
    | unknown unknown => exact absurd (unknown.symm.trans finite) nofun
    | known _ _ _ =>
      exact ⟨_, _, read, Value.get?_ofMembers (by simp) List.mem_cons_self⟩

/-- Any reading of the device becomes a payload that the engine takes. Whatever level the battery
sensor reports, the state holds a number from zero to one, and the megabytes that the process
leaves of the memory, or none. The text of the state has a number for the battery level and is
read as the same state. All that is asked of the printing of numbers is that the level which is
sent reads back from its own text. -/
theorem deviceState_wellFormed (signals : Signals) {level : Binary32}
    (reported : signals.battery = .ok level)
    (readsBack : Codec.binary32.ofText (Codec.binary32.render (Signals.normalizeBattery level)) =
      .ok (Signals.normalizeBattery level)) :
    ∃ state, signals.deviceState = .ok state ∧
      (state.batteryLevel.isUndefined = false ∧ state.batteryLevel.isFinite = true ∧
        0 ≤ state.batteryLevel.value ∧ state.batteryLevel.value ≤ 1) ∧
      (state.availableMemoryMb.toNat : ℤ) =
        max ((signals.physicalBytes.toNat : ℤ) - signals.residentBytes.toNat) 0 / 2 ^ 20 ∧
      (∃ value number, Value.ofText (Push.deviceState state).payload = .ok value ∧
        value.get? "battery_level" = some (.number number)) ∧
      DeviceState.record.codec.ofText (Push.deviceState state).payload = .ok state := by
  obtain ⟨finite, least, greatest⟩ := Signals.normalizeBattery_fraction level
  have defined : (Signals.normalizeBattery level).isUndefined = false := by
    simp only [Binary.isFinite, Binary.isUndefined, decide_eq_true_eq, decide_eq_false_iff_not]
      at finite ⊢
    omega
  let state : DeviceState :=
    { batteryLevel := Signals.normalizeBattery level
      isCharging := signals.isCharging
      thermalState := signals.thermalState
      appState := signals.appState
      availableMemoryMb := signals.availableMemoryMb }
  have made : signals.deviceState = .ok state := by
    rw [Signals.deviceState, reported]
    rfl
  have sent : state.batteryLevel.isFinite = true := finite
  exact ⟨state, made, ⟨defined, finite, least, greatest⟩, signals.availableMemoryMb_toInt,
    deviceState_batteryLevel sent, deviceState_readsBack sent readsBack⟩

/-- A battery level that is no number is sent as one, and read as one. -/
theorem deviceState_wellFormed_undefined :
    ∃ state, Signals.deviceState
        { battery := .ok .undefined
          isCharging := true
          thermalState := .critical
          appState := .background
          physicalBytes := 4294967296
          residentBytes := 1073741824 } = .ok state ∧
      (0 ≤ state.batteryLevel.value ∧ state.batteryLevel.value ≤ 1) ∧
      (state.availableMemoryMb.toNat : ℤ) = 3072 ∧
      DeviceState.record.codec.ofText (Push.deviceState state).payload = .ok state := by
  have readsBack : Codec.binary32.ofText
      (Codec.binary32.render (Signals.normalizeBattery .undefined)) =
        .ok (Signals.normalizeBattery .undefined) := by decide +kernel
  obtain ⟨state, made, ⟨-, -, least, greatest⟩, memory, -, same⟩ :=
    deviceState_wellFormed
      { battery := .ok .undefined
        isCharging := true
        thermalState := .critical
        appState := .background
        physicalBytes := 4294967296
        residentBytes := 1073741824 } rfl readsBack
  have left : max ((4294967296 : ℤ) - 1073741824) 0 / 2 ^ 20 = 3072 := by decide
  exact ⟨state, made, ⟨least, greatest⟩, memory.trans left, same⟩

end BackgroundWork.Telemetry
