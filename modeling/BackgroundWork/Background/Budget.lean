import BackgroundWork.Json.Value

set_option autoImplicit false

/-!
Execution windows that the system grants to an application in the background. A window is a task
of the system; it is open until the task is ended. The task is ended when the window is released,
and else when it is dropped; a window that was ended already ends nothing more.
-/

namespace BackgroundWork.Background

open Json (Value)
open Numeric (intText natText)

/-- The number by which the system knows a task. -/
structure TaskId where
  number : Int32
  deriving DecidableEq, Repr

/-- A window, with what the engine was told it lasts. -/
structure Budget where
  task : TaskId
  grantedSeconds : UInt32
  /-- Whether the task was ended. -/
  isEnded : Bool
  deriving DecidableEq, Repr

namespace Budget

/-- The window of a task that the system has granted. -/
def granted (task : TaskId) (seconds : UInt32) : Budget where
  task := task
  grantedSeconds := seconds
  isEnded := false

/-- Ends the task, unless it was ended. The tasks that the system is told to end come second. -/
def finish (budget : Budget) : Budget × List TaskId :=
  if budget.isEnded then (budget, [])
  else ({ budget with isEnded := true }, [budget.task])

/-- What a window ends when it is dropped. -/
def drop (budget : Budget) : List TaskId :=
  budget.finish.2

/-- What a window ends when it is released. It is ended and then dropped. -/
def release (budget : Budget) : List TaskId :=
  let (budget, ended) := budget.finish
  ended ++ budget.drop

/-- A window as text, for logs. -/
def text (budget : Budget) : String :=
  let task := String.ofList (intText budget.task.number.toInt)
  let seconds := String.ofList (natText budget.grantedSeconds.toNat)
  s!"BackgroundTaskBudget \x7b id: BackgroundTaskId({task}), granted_seconds: {seconds} \x7d"

variable {budget : Budget}

/-- A window that was ended once is not ended again. -/
theorem drop_of_isEnded (ended : budget.isEnded = true) : budget.drop = [] := by
  rw [drop, finish, if_pos ended]

/-- A window that was not ended ends its task when it is dropped. -/
theorem drop_of_live (live : budget.isEnded = false) : budget.drop = [budget.task] := by
  rw [drop, finish, live]
  rfl

/-- A window that was not ended ends its task once when it is released, although it is dropped
after that. -/
theorem release_of_live (live : budget.isEnded = false) : budget.release = [budget.task] := by
  have finished : budget.finish = ({ budget with isEnded := true }, [budget.task]) := by
    rw [finish, live]
    rfl
  rw [release, finished]
  exact congrArg ([budget.task] ++ ·) (drop_of_isEnded rfl)

end Budget

/-- How callers see the execution in the background. -/
inductive BudgetPhase where
  /-- In the foreground, or nothing to manage. -/
  | foreground
  | budgeted (grantedSeconds : UInt32)
  /-- In the background without a window, because it closed or was refused. -/
  | expired
  deriving DecidableEq, Repr

/-- A phase as data. -/
def BudgetPhase.toJson : BudgetPhase → Value
  | foreground => .string "Foreground"
  | budgeted seconds =>
    .object [("Budgeted",
      .object [("granted_seconds", .number (.integer seconds.toNat))])]
  | expired => .string "Expired"

end BackgroundWork.Background
