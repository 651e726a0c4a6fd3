import BackgroundWork.Compression.Status

set_option autoImplicit false

/-!
What is known of the engine's status. Each report replaces the parts that it carries and leaves
the others as they are.
-/

namespace BackgroundWork.Compression

open Telemetry (DeviceCapabilities)

/-- A report of the engine. -/
inductive CacheUpdate where
  | status (status : ComprehensiveStatus)
  | queue (status : QueueStatus)
  | capabilities (capabilities : DeviceCapabilities)
  | stats (stats : Stats)
  deriving DecidableEq

/-- What is known of the engine's status. -/
structure StatusCache where
  currentStatus : Option ComprehensiveStatus
  queueStatus : Option QueueStatus
  compressionStats : Option Stats
  deviceCapabilities : Option DeviceCapabilities
  isThrottled : Bool
  throttleReason : Option String
  deriving DecidableEq

namespace StatusCache

/-- Nothing known. -/
def empty : StatusCache := ⟨none, none, none, none, false, none⟩

/-- Takes in a report on the workers: whether they are held back, together with the reason. -/
def applyThrottle (cache : StatusCache) : Option WorkerThrottle → StatusCache
  | none => cache
  | some throttle =>
    { cache with
      isThrottled := throttle.isThrottled
      throttleReason := throttle.throttleReason }

/-- Takes in a report. -/
def apply (cache : StatusCache) : CacheUpdate → StatusCache
  | .status status =>
    { cache.applyThrottle status.workerThrottle with
      currentStatus := some status
      queueStatus := status.queueStatus.or cache.queueStatus
      deviceCapabilities := status.deviceCapabilities.or cache.deviceCapabilities
      compressionStats := status.compressionStats.or cache.compressionStats }
  | .queue status => { cache with queueStatus := some status }
  | .capabilities capabilities => { cache with deviceCapabilities := some capabilities }
  | .stats stats => { cache with compressionStats := some stats }

end StatusCache
end BackgroundWork.Compression
