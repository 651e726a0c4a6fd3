import BackgroundWork.Settings

set_option autoImplicit false

/-!
Settings that were looked up. Each override puts in a number that is positive and fits its key, so
what such overrides keep holds of all settings that a lookup can lead to.
-/

namespace BackgroundWork.Settings

/-- A number that a key accepts is positive and fits it. -/
theorem positive_range {key : Key} {text : String} {value : Nat}
    (accepted : positive key text = .ok value) : 0 < value ∧ value < Nat.pow 2 key.bits := by
  unfold positive at accepted
  split at accepted
  · cases accepted
  · rename_i number _
    by_cases large : Nat.pow 2 key.bits ≤ number
    · rw [if_pos large] at accepted
      cases accepted
    · by_cases zero : number = 0
      · rw [if_neg large, if_pos zero] at accepted
        cases accepted
      · rw [if_neg large, if_neg zero] at accepted
        cases accepted
        exact ⟨Nat.pos_of_ne_zero zero, Nat.lt_of_not_le large⟩

/-- What holds at first and is kept by every override holds of the settings after all of them. -/
theorem overrideWith_keeps (Kept : Settings → Prop) {lookup : String → Option String}
    (override : ∀ (key : Key) (value : Nat) (settings : Settings), 0 < value →
      value < Nat.pow 2 key.bits → Kept settings → Kept (key.override value settings))
    {keys : List Key} {settings result : Settings} (first : Kept settings)
    (overridden : overrideWith lookup keys settings = .ok result) : Kept result := by
  induction keys generalizing settings with
  | nil =>
    cases overridden
    exact first
  | cons key keys ih =>
    unfold overrideWith at overridden
    split at overridden
    · exact ih first overridden
    · split at overridden
      · cases overridden
      · rename_i value accepted
        obtain ⟨positive, fits⟩ := positive_range accepted
        exact ih (override key value settings positive fits first) overridden

theorem ofLookup_keeps (Kept : Settings → Prop) {lookup : String → Option String}
    {settings : Settings}
    (override : ∀ (key : Key) (value : Nat) (settings : Settings), 0 < value →
      value < Nat.pow 2 key.bits → Kept settings → Kept (key.override value settings))
    (first : Kept default) (found : ofLookup lookup = .ok settings) : Kept settings := by
  unfold ofLookup at found
  cases overridden : overrideWith lookup keys default with
  | error fault =>
    rw [overridden] at found
    cases found
  | ok result =>
    rw [overridden] at found
    cases found
    exact overrideWith_keeps Kept override first overridden

/-- Windows that the settings of a lookup speak of last for some time. -/
theorem grant_ne_zero {lookup : String → Option String} {settings : Settings}
    (found : ofLookup lookup = .ok settings) :
    settings.coordinator.backgroundGrantSeconds ≠ 0 := by
  refine ofLookup_keeps (fun settings => settings.coordinator.backgroundGrantSeconds ≠ 0) ?_
    (by decide) found
  intro key value settings positive fits kept
  cases key with
  | backgroundGrant =>
    intro zero
    have same := congrArg UInt32.toNat zero
    rw [Key.override, UInt32.toNat_ofNat_of_lt' fits] at same
    exact Nat.ne_of_gt positive same
  | telemetryInterval | maxCompressRequestBytes | pollAttempts | pollInterval => exact kept

end BackgroundWork.Settings
