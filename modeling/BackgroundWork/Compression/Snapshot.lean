import BackgroundWork.Compression.Worker

set_option autoImplicit false

/-!
A copy of the worker's state for callers.
-/

namespace BackgroundWork.Compression

open Json
open Telemetry (DeviceCapabilities DeviceState)

/-- What callers see of the worker's state. -/
structure Snapshot where
  isActive : Bool
  budgetGrantedSeconds : Option UInt32
  timerStarts : Nat
  budgetGrants : Nat
  lastDeviceState : Option DeviceState
  cache : StatusCache
  deriving DecidableEq

/-- A copy of the worker's state. -/
def Worker.snapshot (worker : Worker) : Snapshot where
  isActive := worker.isActive
  budgetGrantedSeconds := worker.held.map (·.budget.grantedSeconds)
  timerStarts := worker.timerStarts
  budgetGrants := worker.budgetGrants
  lastDeviceState := worker.lastDeviceState
  cache := worker.cache

/-- A snapshot as JSON. -/
def Snapshot.encode (snapshot : Snapshot) : List Char :=
  let cache := snapshot.cache
  objectText
    [("is_active", boolText snapshot.isActive),
      ("budget_granted_seconds",
        match snapshot.budgetGrantedSeconds with
        | some seconds => Numeric.natText seconds.toNat
        | none => nullText),
      ("timer_starts", Numeric.natText snapshot.timerStarts),
      ("budget_grants", Numeric.natText snapshot.budgetGrants),
      ("last_device_state", DeviceState.record.codec.option.encode snapshot.lastDeviceState),
      ("current_status", ComprehensiveStatus.record.codec.option.encode cache.currentStatus),
      ("queue_status", QueueStatus.record.codec.option.encode cache.queueStatus),
      ("compression_stats", Stats.record.codec.option.encode cache.compressionStats),
      ("device_capabilities", DeviceCapabilities.record.codec.option.encode
        cache.deviceCapabilities),
      ("is_throttled", boolText cache.isThrottled),
      ("throttle_reason", Codec.string.option.encode cache.throttleReason)]

end BackgroundWork.Compression
