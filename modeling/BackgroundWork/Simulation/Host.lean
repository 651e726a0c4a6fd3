import BackgroundWork.Background.Budget

set_option autoImplicit false

/-!
A system that grants background tasks, numbered from one on. It keeps the expiry handler of a task
until it was run, even after the task has ended.
-/

namespace BackgroundWork.Simulation

open Background (TaskId)

/-- A system that grants background tasks. -/
structure Host (η : Type) where
  /-- How many tasks were granted. -/
  granted : Nat
  /-- The tasks that have not ended. -/
  outstanding : List Nat
  /-- The handlers that were not run, by their tasks. -/
  handlers : List (Nat × η)
  /-- Whether no task is granted. -/
  refuses : Bool
  /-- Whether the handler of a task is run while the task is granted. -/
  expiresAtOnce : Bool
  /-- What happened. -/
  log : List String

namespace Host

variable {η : Type}

/-- A system without tasks. -/
def new : Host η := ⟨0, [], [], false, false, []⟩

/-- The number of a task as the application sees it. -/
def taskId (number : Nat) : TaskId := ⟨.ofNat number⟩

/-- The task that is granted to the next request. -/
def nextTask? (host : Host η) : Option TaskId :=
  if host.refuses then none else some (taskId (host.granted + 1))

/-- Runs the handler of a task, if it was not run. -/
def runHandler (host : Host η) (task : Nat) : Option η × Host η :=
  ((host.handlers.find? (·.1 == task)).map Prod.snd,
    { host with handlers := host.handlers.filter (·.1 != task) })

/-- A request for a task. The answer is the handler that is run meanwhile. -/
def ask (host : Host η) (name : String) (handler : η) : Option η × Host η :=
  if host.refuses then (none, { host with log := host.log ++ [s!"refused {name}"] })
  else
    let task := host.granted + 1
    let host :=
      { host with
        granted := task
        outstanding := host.outstanding ++ [task]
        handlers := host.handlers ++ [(task, handler)]
        log := host.log ++ [s!"begin {task} {name}"] }
    if host.expiresAtOnce then host.runHandler task else (none, host)

/-- Ends a task. -/
def endTask (host : Host η) (task : TaskId) : Host η :=
  { host with
    outstanding := host.outstanding.filter fun number => taskId number != task
    log := host.log ++ ["end " ++ String.ofList (Numeric.intText task.number.toInt)] }

/-- Announces the end of a task, of the newest unless one is named. -/
def expire (host : Host η) (task : Option Nat) : Option η × Host η :=
  host.runHandler (task.getD host.granted)

/-- The log so far, which starts anew. -/
def takeLog (host : Host η) : List String × Host η :=
  (host.log, { host with log := [] })

end Host
end BackgroundWork.Simulation
