import BackgroundWork.Engine.Client
import BackgroundWork.Telemetry.DeviceState

set_option autoImplicit false

/-!
What the engine is told without waiting for an answer.
-/

namespace BackgroundWork.Compression

open Json
open Engine (Call)
open Telemetry (DeviceState MemoryPressureEvent)

/-- What happens to the application as a whole. -/
inductive LifecycleEvent where
  | enteredBackground
  | becameActive
  | memoryWarning
  | thermalStateChanged
  deriving DecidableEq, Repr

/-- A change between foreground and background that the engine is told of. -/
inductive LifecycleHint where
  | enteringBackground
  | becomingActive
  deriving DecidableEq, Repr

/-- The engine's spelling of a change. -/
def LifecycleHint.name : LifecycleHint → String
  | enteringBackground => "entering_background"
  | becomingActive => "becoming_active"

/-- What the engine is told without waiting for an answer. -/
inductive Push where
  | deviceState (state : DeviceState)
  /-- How long the window in the background lasts; zero when it is closed. -/
  | budget (grantedSeconds : UInt32)
  | memoryPressure (event : MemoryPressureEvent)
  | visibility (isVisible : Bool)
  | lifecycle (hint : LifecycleHint)
  deriving DecidableEq

namespace Push

/-- The entry point for a push. -/
def call : Push → Call
  | deviceState _ => .updateDeviceState
  | budget _ => .handleBackgroundTaskExtension
  | memoryPressure _ => .handleEnhancedMemoryWarning
  | visibility _ => .handleContentVisibility
  | lifecycle _ => .handleAppLifecycleEvent

/-- A push as JSON. -/
def encode : Push → List Char
  | deviceState state => DeviceState.record.codec.encode state
  | budget seconds => objectText [("granted_seconds", Numeric.natText seconds.toNat)]
  | memoryPressure event => MemoryPressureEvent.record.codec.encode event
  | visibility isVisible => objectText [("is_visible", boolText isVisible)]
  | lifecycle hint => objectText [("event", stringText hint.name)]

/-- A push as the text that the engine is sent. -/
def payload (push : Push) : String :=
  String.ofList push.encode

/-- Sends a push. Whatever comes back is of no consequence. -/
def send (push : Push) : Program Engine.Bridge.interface Unit := do
  let _ ← Engine.Client.send push.call push.payload none
  return ()

end Push
end BackgroundWork.Compression
