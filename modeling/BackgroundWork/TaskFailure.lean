import BackgroundWork.Text.Quoted

set_option autoImplicit false

/-!
How a task that runs on its own can fail its waiter.
-/

namespace BackgroundWork

/-- Why a task came to no end of its own. -/
inductive TaskFailure where
  | panicked (message : String)
  | cancelled
  deriving DecidableEq, Repr

/-- The wording of a task's failure. -/
def TaskFailure.message : TaskFailure → String
  | panicked message => "task # panicked with message " ++ Text.quoted message
  | cancelled => "task # was cancelled"

end BackgroundWork
