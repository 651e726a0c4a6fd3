import BackgroundWork.Telemetry.DeviceState
import BackgroundWork.Timestamp

set_option autoImplicit false

/-!
What the engine reports about its compression work: the queue, statistics, one document's
history, and all of its status at once. What a report leaves out counts as zero or as absent.
-/

namespace BackgroundWork.Compression

open Json Numeric
open Telemetry (DeviceCapabilities)

/-- How many documents are in which state. -/
structure QueueStatus where
  pendingCount : Int64
  processingCount : Int64
  completedCount : Int64
  failedCount : Int64
  skippedCount : Int64
  deriving DecidableEq, Repr

/-- The state of the queue as a record. -/
def QueueStatus.record : Record QueueStatus where
  name := "CompressionQueueStatus"
  types := [Int64, Int64, Int64, Int64, Int64]
  fields :=
    .cons (.withDefault "pending_count" .int64 0) <|
    .cons (.withDefault "processing_count" .int64 0) <|
    .cons (.withDefault "completed_count" .int64 0) <|
    .cons (.withDefault "failed_count" .int64 0) <|
    .cons (.withDefault "skipped_count" .int64 0) .nil
  make := fun (pendingCount, processingCount, completedCount, failedCount, skippedCount, ()) =>
    { pendingCount, processingCount, completedCount, failedCount, skippedCount }
  parts status := (status.pendingCount, status.processingCount, status.completedCount,
    status.failedCount, status.skippedCount, ())
  isClosed := false

/-- Statistics over all documents. -/
structure Stats where
  totalOriginalSize : Int64
  totalCompressedSize : Int64
  spaceSaved : Int64
  compressionRatio : Binary64
  totalFilesCompressed : Int64
  totalFilesPending : Int64
  totalFilesFailed : Int64
  totalFilesSkipped : Int64
  lastCompressionDate : Option Timestamp
  updatedAt : Option Timestamp
  deriving DecidableEq

/-- Statistics as a record. -/
def Stats.record : Record Stats where
  name := "CompressionStats"
  types := [Int64, Int64, Int64, Binary64, Int64, Int64, Int64, Int64, Option Timestamp,
    Option Timestamp]
  fields :=
    .cons (.withDefault "total_original_size" .int64 0) <|
    .cons (.withDefault "total_compressed_size" .int64 0) <|
    .cons (.withDefault "space_saved" .int64 0) <|
    .cons (.withDefault "compression_ratio" .binary64 .zero) <|
    .cons (.withDefault "total_files_compressed" .int64 0) <|
    .cons (.withDefault "total_files_pending" .int64 0) <|
    .cons (.withDefault "total_files_failed" .int64 0) <|
    .cons (.withDefault "total_files_skipped" .int64 0) <|
    .cons (.optional "last_compression_date" Timestamp.codec) <|
    .cons (.optional "updated_at" Timestamp.codec) .nil
  make := fun (totalOriginalSize, totalCompressedSize, spaceSaved, compressionRatio,
      totalFilesCompressed, totalFilesPending, totalFilesFailed, totalFilesSkipped,
      lastCompressionDate, updatedAt, ()) =>
    { totalOriginalSize, totalCompressedSize, spaceSaved, compressionRatio, totalFilesCompressed,
      totalFilesPending, totalFilesFailed, totalFilesSkipped, lastCompressionDate, updatedAt }
  parts stats := (stats.totalOriginalSize, stats.totalCompressedSize, stats.spaceSaved,
    stats.compressionRatio, stats.totalFilesCompressed, stats.totalFilesPending,
    stats.totalFilesFailed, stats.totalFilesSkipped, stats.lastCompressionDate, stats.updatedAt,
    ())
  isClosed := false

/-- What happened to one document so far. -/
structure DocumentHistory where
  documentId : String
  currentStatus : String
  originalSize : Option Int64
  compressedSize : Option Int64
  spaceSaved : Option Int64
  compressedPath : Option String
  lastUpdated : Option Timestamp
  queueStatus : Option String
  attempts : Option Int32
  errorMessage : Option String
  queuedAt : Option Timestamp
  queueUpdatedAt : Option Timestamp
  deriving DecidableEq

/-- A document's history as a record. -/
def DocumentHistory.record : Record DocumentHistory where
  name := "DocumentCompressionHistory"
  types := [String, String, Option Int64, Option Int64, Option Int64, Option String,
    Option Timestamp, Option String, Option Int32, Option String, Option Timestamp,
    Option Timestamp]
  fields :=
    .cons (.required "document_id" .string) <|
    .cons (.required "current_status" .string) <|
    .cons (.optional "original_size" .int64) <|
    .cons (.optional "compressed_size" .int64) <|
    .cons (.optional "space_saved" .int64) <|
    .cons (.optional "compressed_path" .string) <|
    .cons (.optional "last_updated" Timestamp.codec) <|
    .cons (.optional "queue_status" .string) <|
    .cons (.optional "attempts" .int32) <|
    .cons (.optional "error_message" .string) <|
    .cons (.optional "queued_at" Timestamp.codec) <|
    .cons (.optional "queue_updated_at" Timestamp.codec) .nil
  make := fun (documentId, currentStatus, originalSize, compressedSize, spaceSaved,
      compressedPath, lastUpdated, queueStatus, attempts, errorMessage, queuedAt, queueUpdatedAt,
      ()) =>
    { documentId, currentStatus, originalSize, compressedSize, spaceSaved, compressedPath,
      lastUpdated, queueStatus, attempts, errorMessage, queuedAt, queueUpdatedAt }
  parts history := (history.documentId, history.currentStatus, history.originalSize,
    history.compressedSize, history.spaceSaved, history.compressedPath, history.lastUpdated,
    history.queueStatus, history.attempts, history.errorMessage, history.queuedAt,
    history.queueUpdatedAt, ())
  isClosed := false

/-- How busy the engine's workers are, and whether they are held back. -/
structure WorkerThrottle where
  activeJobs : UInt64
  maxConcurrentJobs : UInt64
  effectiveMaxJobs : UInt64
  isThrottled : Bool
  throttleReason : Option String
  deriving DecidableEq, Repr

/-- The load of the workers as a record. -/
def WorkerThrottle.record : Record WorkerThrottle where
  name := "WorkerThrottleStatus"
  types := [UInt64, UInt64, UInt64, Bool, Option String]
  fields :=
    .cons (.withDefault "active_jobs" .count 0) <|
    .cons (.withDefault "max_concurrent_jobs" .count 0) <|
    .cons (.withDefault "effective_max_jobs" .count 0) <|
    .cons (.withDefault "is_throttled" .bool false) <|
    .cons (.optional "throttle_reason" .string) .nil
  make := fun (activeJobs, maxConcurrentJobs, effectiveMaxJobs, isThrottled, throttleReason, ()) =>
    { activeJobs, maxConcurrentJobs, effectiveMaxJobs, isThrottled, throttleReason }
  parts throttle := (throttle.activeJobs, throttle.maxConcurrentJobs, throttle.effectiveMaxJobs,
    throttle.isThrottled, throttle.throttleReason, ())
  isClosed := false

/-- All that the engine reports at once. -/
structure ComprehensiveStatus where
  queueStatus : Option QueueStatus
  workerThrottle : Option WorkerThrottle
  deviceCapabilities : Option DeviceCapabilities
  compressionStats : Option Stats
  deriving DecidableEq

/-- The whole status as a record. -/
def ComprehensiveStatus.record : Record ComprehensiveStatus where
  name := "ComprehensiveStatus"
  types := [Option QueueStatus, Option WorkerThrottle, Option DeviceCapabilities, Option Stats]
  fields :=
    .cons (.optional "queue_status" QueueStatus.record.codec) <|
    .cons (.optional "ios_worker_status" WorkerThrottle.record.codec) <|
    .cons (.optional "device_capabilities" DeviceCapabilities.record.codec) <|
    .cons (.optional "compression_stats" Stats.record.codec) .nil
  make := fun (queueStatus, workerThrottle, deviceCapabilities, compressionStats, ()) =>
    { queueStatus, workerThrottle, deviceCapabilities, compressionStats }
  parts status := (status.queueStatus, status.workerThrottle, status.deviceCapabilities,
    status.compressionStats, ())
  isClosed := false

end BackgroundWork.Compression
