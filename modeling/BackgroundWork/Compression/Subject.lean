import BackgroundWork.Compression.Documents
import BackgroundWork.Compression.Worker

set_option autoImplicit false

/-!
What reports are about. A pull asks the engine for one of them and hands it to the worker; each
runs on its own, and the worker does not wait for it.
-/

namespace BackgroundWork.Compression

open Documents (Action atEngine post)
open Engine (Client.fetch)

/-- What the engine is asked for, and the report that its answer becomes. -/
structure Subject where
  Data : Type
  codec : Json.Codec Data
  call : Engine.Call
  report : Data → CacheUpdate

namespace Subject

/-- All of the engine's status. -/
def status : Subject where
  Data := ComprehensiveStatus
  codec := ComprehensiveStatus.record.codec
  call := .getComprehensiveStatus
  report := .status

/-- The state of the engine's queue. -/
def queue : Subject where
  Data := QueueStatus
  codec := QueueStatus.record.codec
  call := .getQueueStatus
  report := .queue

/-- The device's capabilities. -/
def capabilities : Subject where
  Data := Telemetry.DeviceCapabilities
  codec := Telemetry.DeviceCapabilities.record.codec
  call := .detectDeviceCapabilities
  report := .capabilities

/-- The engine's statistics. -/
def stats : Subject where
  Data := Stats
  codec := Stats.record.codec
  call := .getStats
  report := .stats

/-- Asks the engine. -/
def fetch (subject : Subject) :
    Program Engine.Bridge.interface (Except ServiceError subject.Data) :=
  Client.fetch subject.codec subject.call

/-- Brings in a report for the worker. That none comes is no failure. -/
def pull (subject : Subject) : Action Unit :=
  (atEngine subject.fetch).bind fun
    | .error _ => .done (.ok ())
    | .ok data => post (subject.report data)

/-- Brings in a report for a client, and for the worker. -/
def refresh (subject : Subject) : Action subject.Data :=
  (atEngine subject.fetch).andThen fun data =>
    (post (subject.report data)).andThen fun () => .done (.ok data)

end Subject

/-- What a worker that has become active asks for. -/
def Pull.subject : Pull → Subject
  | capabilities => .capabilities
  | status => .status

end BackgroundWork.Compression
