import BackgroundWork.Export.Domain

set_option autoImplicit false

/-!
The entry points of the engine.
-/

namespace BackgroundWork.Engine

/-- An entry point of the engine. -/
inductive Call where
  | queueDocument
  | updatePriority
  | compressDocument
  | cancel
  | getDocumentStatus
  | getComprehensiveStatus
  | getQueueStatus
  | getStats
  | updateDeviceState
  | handleBackgroundTaskExtension
  | handleEnhancedMemoryWarning
  | handleContentVisibility
  | handleAppLifecycleEvent
  | detectDeviceCapabilities
  | exportByIds (domain : Export.Domain)
  | getExportStatus
  deriving DecidableEq, Repr

namespace Call

/-- The symbol under which the engine exports an entry point. -/
def symbol : Call → String
  | queueDocument => "compression_queue_document"
  | updatePriority => "compression_update_priority"
  | compressDocument => "compression_compress_document"
  | cancel => "compression_cancel"
  | getDocumentStatus => "compression_get_document_status"
  | getComprehensiveStatus => "compression_get_comprehensive_ios_status"
  | getQueueStatus => "compression_get_queue_status"
  | getStats => "compression_get_stats"
  | updateDeviceState => "compression_update_ios_state"
  | handleBackgroundTaskExtension => "compression_handle_background_task_extension"
  | handleEnhancedMemoryWarning => "compression_handle_enhanced_memory_warning"
  | handleContentVisibility => "compression_handle_content_visibility"
  | handleAppLifecycleEvent => "compression_handle_app_lifecycle_event"
  | detectDeviceCapabilities => "compression_detect_ios_capabilities"
  | exportByIds domain => domain.engineSymbol
  | getExportStatus => "export_get_status"

/-- Whether the engine is only told something, and nobody waits for its answer. -/
def isPush : Call → Bool
  | updateDeviceState | handleBackgroundTaskExtension | handleEnhancedMemoryWarning
  | handleContentVisibility | handleAppLifecycleEvent => true
  | _ => false

/-- Whether an entry point writes a response. -/
def returnsPayload (call : Call) : Bool :=
  call ≠ queueDocument && !call.isPush

/-- Whether an entry point takes a request. -/
def takesPayload : Call → Bool
  | getComprehensiveStatus | getQueueStatus | getStats | detectDeviceCapabilities => false
  | _ => true

end Call
end BackgroundWork.Engine
