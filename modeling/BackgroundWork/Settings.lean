import BackgroundWork.ServiceError
import BackgroundWork.Text.Blank

set_option autoImplicit false

/-!
The settings of the services and their overrides by keyed text. An override is a positive whole
number that fits the setting; the first key that holds anything else is refused.
-/

namespace BackgroundWork

/-- How often and how long the status of an export job is checked. -/
structure PollSettings where
  maxAttempts : UInt32
  intervalMs : Nat
  deriving DecidableEq, Repr

/-- How background work is coordinated. -/
structure CoordinatorSettings where
  telemetryIntervalMs : Nat
  /-- What the engine is told a background window lasts. -/
  backgroundGrantSeconds : UInt32
  maxCompressRequestBytes : Nat
  commandQueueDepth : Nat
  publisherQueueDepth : Nat
  backgroundTaskName : String
  deriving DecidableEq, Repr

/-- The settings of the services. -/
structure Settings where
  poll : PollSettings
  coordinator : CoordinatorSettings
  deriving DecidableEq, Repr

namespace Settings

/-- The settings without any override. -/
def default : Settings where
  poll := { maxAttempts := 30, intervalMs := 1000 }
  coordinator := {
    telemetryIntervalMs := 30000
    backgroundGrantSeconds := 30
    maxCompressRequestBytes := 50000
    commandQueueDepth := 100
    publisherQueueDepth := 32
    backgroundTaskName := "compression_background_task" }

/-! ### Overrides -/

/-- The keys that override a setting. -/
inductive Key where
  | telemetryInterval
  | backgroundGrant
  | maxCompressRequestBytes
  | pollAttempts
  | pollInterval
  deriving DecidableEq, Repr

/-- The spelling of a key. -/
def Key.name : Key → String
  | .telemetryInterval => "ORCHESTRATOR_TELEMETRY_INTERVAL_SECS"
  | .backgroundGrant => "ORCHESTRATOR_BACKGROUND_GRANT_SECS"
  | .maxCompressRequestBytes => "ORCHESTRATOR_MAX_COMPRESS_REQUEST_BYTES"
  | .pollAttempts => "ORCHESTRATOR_EXPORT_POLL_ATTEMPTS"
  | .pollInterval => "ORCHESTRATOR_EXPORT_POLL_INTERVAL_MS"

/-- The keys in the order in which they are looked up. -/
def keys : List Key :=
  [.telemetryInterval, .backgroundGrant, .maxCompressRequestBytes, .pollAttempts, .pollInterval]

/-- How many bits a key's number may take. -/
def Key.bits : Key → Nat
  | .telemetryInterval | .maxCompressRequestBytes | .pollInterval => 64
  | .backgroundGrant | .pollAttempts => 32

/-- The settings with a key's number put in. -/
def Key.override (key : Key) (value : Nat) (settings : Settings) : Settings :=
  match key with
  | .telemetryInterval =>
    { settings with coordinator.telemetryIntervalMs := value * 1000 }
  | .backgroundGrant =>
    { settings with coordinator.backgroundGrantSeconds := .ofNat value }
  | .maxCompressRequestBytes =>
    { settings with coordinator.maxCompressRequestBytes := value }
  | .pollAttempts => { settings with poll.maxAttempts := .ofNat value }
  | .pollInterval => { settings with poll.intervalMs := value }

/-- Why the text of a key was refused. -/
inductive Fault where
  | notPositiveInteger (key : Key) (text : String)
  | zero (key : Key)
  deriving DecidableEq, Repr

/-- The wording of a fault. -/
def Fault.message : Fault → String
  | .notPositiveInteger key text => s!"{key.name} must be a positive integer, got '{text}'"
  | .zero key => s!"{key.name} must be greater than zero"

/-- The number that a text of decimal digits with an optional plus sign stands for. -/
def number? (text : List Char) : Option Nat :=
  let digits := match text with
    | '+' :: rest => rest
    | _ => text
  if digits.isEmpty || !digits.all Json.isDigit then none
  else some (digits.foldl (fun value c => value * 10 + Json.digitValue c) 0)

/-- The number in a key's text, blanks around it aside. -/
def positive (key : Key) (text : String) : Except Fault Nat :=
  match number? (Text.trim text.toList) with
  | none => .error (.notPositiveInteger key text)
  | some value =>
    if Nat.pow 2 key.bits ≤ value then .error (.notPositiveInteger key text)
    else if value = 0 then .error (.zero key)
    else .ok value

/-- The settings with the overrides of the given keys, in order. -/
def overrideWith (lookup : String → Option String) :
    List Key → Settings → Except Fault Settings
  | [], settings => .ok settings
  | key :: keys, settings =>
    match lookup key.name with
    | none => overrideWith lookup keys settings
    | some text =>
      match positive key text with
      | .error fault => .error fault
      | .ok value => overrideWith lookup keys (key.override value settings)

/-- The settings from a lookup of keys. -/
def ofLookup (lookup : String → Option String) : Except ServiceError Settings :=
  (overrideWith lookup keys default).mapError fun fault => .configuration fault.message

end Settings
end BackgroundWork
