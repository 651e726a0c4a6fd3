import BackgroundWork.Compression.Snapshot
import BackgroundWork.TaskFailure

set_option autoImplicit false

/-!
The coordinator: the worker together with what waits for it. In each turn the worker takes the
oldest of its internal events, else the oldest command, else a timer that is due. It ends by a
command, by losing its callers, by a crash or by being cancelled; then it lets go of its window,
what waited for it is refused, and nothing reaches it any more.
-/

namespace BackgroundWork.Compression

open Background

/-- What callers ask of the worker. -/
inductive Command where
  | dispatch (event : Event)
  | snapshot
  | shutdown
  deriving DecidableEq

/-- What becomes of a command. -/
inductive Answer where
  | handled
  | snapshot (snapshot : Snapshot)
  /-- The worker ended with the command in its queue or in hand. -/
  | dropped
  /-- The worker had ended before the command could be queued. -/
  | refused
  deriving DecidableEq

/-- The error behind an answer, if it is one. -/
def Answer.error? : Answer → Option ServiceError
  | handled | snapshot _ => none
  | dropped => some (.coordinatorUnavailable "worker dropped the request")
  | refused => some (.coordinatorUnavailable "worker has shut down")

/-- How a worker is or was. -/
inductive Life where
  | running
  /-- Ended in order. -/
  | returned
  | failed (failure : TaskFailure)
  deriving DecidableEq, Repr

/-- The worker and what waits for it. -/
structure Coordinator where
  settings : CoordinatorSettings
  worker : Worker
  life : Life
  /-- Reports and announcements, the oldest first. -/
  internal : List Event
  /-- Commands with the tickets of their callers, the oldest first. The queue holds as many as the
  settings say, and the callers of the others wait for a place in it. -/
  commands : List (Nat × Command)
  /-- Whether callers can still send commands. -/
  isOpen : Bool
  /-- Whether the end of the worker was waited for. -/
  isJoined : Bool
  deriving DecidableEq

/-- What a turn of the worker came to. -/
structure Progress where
  coordinator : Coordinator
  effects : List Effect
  /-- The commands that were answered, by their tickets. -/
  answers : List (Nat × Answer)
  deriving DecidableEq

namespace Coordinator

/-- A coordinator at first. -/
def new (settings : CoordinatorSettings) : Coordinator where
  settings := settings
  worker := .new
  life := .running
  internal := []
  commands := []
  isOpen := true
  isJoined := false

/-- Whether the worker takes turns. -/
def isRunning (coordinator : Coordinator) : Bool :=
  coordinator.life == .running

/-- Hands the worker a report or an announcement; one that has ended gets it no more. -/
def post (coordinator : Coordinator) (event : Event) : Coordinator :=
  if coordinator.isRunning then
    { coordinator with internal := coordinator.internal ++ [event] }
  else coordinator

/-- Sends a command under a ticket. -/
def send (coordinator : Coordinator) (ticket : Nat) (command : Command) :
    Except Answer Coordinator :=
  if coordinator.isRunning then
    .ok { coordinator with commands := coordinator.commands ++ [(ticket, command)] }
  else .error .refused

/-- Sends no more commands. -/
def close (coordinator : Coordinator) : Coordinator :=
  { coordinator with isOpen := false }

/-- The answers to commands that the worker will never take. -/
def turnedAway (coordinator : Coordinator) (commands : List (Nat × Command)) :
    List (Nat × Answer) :=
  let queued := commands.take coordinator.settings.commandQueueDepth
  let waiting := commands.drop coordinator.settings.commandQueueDepth
  queued.map (fun (ticket, _) => (ticket, .dropped)) ++
    waiting.map (fun (ticket, _) => (ticket, .refused))

/-- The coordinator after its worker ended, with the answers given so far. A window that is still
held is dropped. -/
def finish (coordinator : Coordinator) (life : Life) (turn : Turn)
    (answers : List (Nat × Answer)) (left : List (Nat × Command)) : Progress where
  coordinator :=
    { coordinator with
      worker := { turn.worker with held := none }
      life
      internal := []
      commands := [] }
  effects := turn.effects ++
    (turn.worker.held.toList.flatMap fun held => held.budget.drop).map .endTask
  answers := answers ++ coordinator.turnedAway left

/-- A worker that ends while it holds a window ends its task. -/
theorem finish_effects (coordinator : Coordinator) (life : Life) (turn : Turn)
    (answers : List (Nat × Answer)) (left : List (Nat × Command)) :
    (coordinator.finish life turn answers left).effects =
      turn.effects ++ turn.worker.held.toList.map fun held => .endTask held.budget.task := by
  cases held : turn.worker.held with
  | none => simp only [finish, held, Option.toList_none, List.flatMap_nil, List.map_nil]
  | some held => simp only [finish, held, Option.toList_some, List.flatMap_singleton,
      HeldBudget.drop_eq, List.map_cons, List.map_nil]

/-- The worker handles an event. If it was sent by a caller, the caller is told when it is
handled. -/
def handle (coordinator : Coordinator) (moment : Moment) (event : Event) (ticket : Option Nat) :
    Progress :=
  match coordinator.worker.handle coordinator.settings moment event with
  | .ok turn =>
    { coordinator := { coordinator with worker := turn.worker }
      effects := turn.effects
      answers := ticket.toList.map fun ticket => (ticket, .handled) }
  | .error crash =>
    coordinator.finish (.failed (.panicked crash.message)) crash.turn
      (ticket.toList.map fun ticket => (ticket, .dropped)) coordinator.commands

/-- The worker takes a command. -/
def take (coordinator : Coordinator) (moment : Moment) (ticket : Nat) (command : Command) :
    Progress :=
  match command with
  | .dispatch event => coordinator.handle moment event (some ticket)
  | .snapshot =>
    { coordinator, effects := [], answers := [(ticket, .snapshot coordinator.worker.snapshot)] }
  | .shutdown =>
    coordinator.finish .returned coordinator.worker.tearDown [(ticket, .handled)]
      coordinator.commands

/-- Moves the timer on if it is due. -/
def tick? (coordinator : Coordinator) (now : Nat) : Option Coordinator :=
  match coordinator.worker.timer with
  | some timer =>
    if timer.isDue now then
      some { coordinator with worker := { coordinator.worker with timer := some (timer.next now) } }
    else none
  | none => none

/-- One turn of the worker; none if it has ended or nothing waits for it. -/
def turn? (coordinator : Coordinator) (moment : Moment) : Option Progress :=
  if coordinator.isRunning then
    match coordinator.internal, coordinator.commands with
    | event :: rest, _ => some ({ coordinator with internal := rest }.handle moment event none)
    | [], (ticket, command) :: rest =>
      some ({ coordinator with commands := rest }.take moment ticket command)
    | [], [] =>
      if coordinator.isOpen then
        (coordinator.tick? moment.now).map fun coordinator =>
          coordinator.handle moment .telemetryTick none
      else some (coordinator.finish .returned coordinator.worker.tearDown [] [])
  else none

/-- The worker is cancelled, wherever it is. -/
def cancel (coordinator : Coordinator) : Progress :=
  if coordinator.isRunning then
    coordinator.finish (.failed .cancelled) (.new coordinator.worker) [] coordinator.commands
  else { coordinator, effects := [], answers := [] }

/-- Waits for the end of the worker, which only the first to do so learns about. None while the
worker runs. -/
def join? (coordinator : Coordinator) : Option (Except ServiceError Unit × Coordinator) :=
  if coordinator.isJoined then some (.ok (), coordinator)
  else
    let joined := { coordinator with isJoined := true }
    match coordinator.life with
    | .running => none
    | .returned => some (.ok (), joined)
    | .failed failure =>
      some (.error (.unknown s!"coordinator worker failed: {failure.message}"), joined)

end Coordinator
end BackgroundWork.Compression
