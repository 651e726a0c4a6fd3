import BackgroundWork.Background.Budget
import BackgroundWork.Text.Terminated

set_option autoImplicit false

/-!
Background tasks of the system and the contexts of their expiry callbacks. The system is given the
address of a context and may call back with it while it answers a request for a task, and from
then on until it has ended the task. A context holds the handler of one task, which is taken out
the first time the system calls back. A context is kept while the request for its task runs, and
after that under the number of the task until the task has ended.
-/

namespace BackgroundWork.Background

/-- The contexts that the system may call back with, by their addresses. -/
structure SystemHost (η : Type) where
  /-- The contexts that are kept, each with its handler unless that was taken. -/
  contexts : List (Nat × Option η)
  /-- The tasks granted and not ended, each with the address of its context. -/
  tasks : List (TaskId × Nat)
  /-- An address that no context had so far. -/
  fresh : Nat

namespace SystemHost

variable {η : Type}

/-- No tasks. -/
def new : SystemHost η := ⟨[], [], 0⟩

/-- What the system answers when it grants no task. -/
def refusal : Int32 := -1

/-- Makes a context for a request, to be handed to the system under the given name. A name with a
zero has no form in which the system could take it, and no request is made. -/
def prepare (host : SystemHost η) (name : String) (handler : η) :
    Option (Text.Terminated × Nat × SystemHost η) :=
  (Text.Terminated.ofText? name).map fun name =>
    (name, host.fresh,
      { host with
        contexts := (host.fresh, some handler) :: host.contexts
        fresh := host.fresh + 1 })

/-- Gives up a context. -/
def discard (host : SystemHost η) (address : Nat) : SystemHost η :=
  { host with contexts := host.contexts.filter (·.1 != address) }

/-- Forgets a task and gives up its context. -/
def forget (host : SystemHost η) (task : TaskId) : SystemHost η :=
  match host.tasks.find? (·.1 == task) with
  | none => host
  | some (_, address) =>
    { host.discard address with tasks := host.tasks.filter (·.1 != task) }

/-- Takes in the system's answer to a request: a task under whose number the context is kept, or a
refusal after which it is given up. -/
def settle (host : SystemHost η) (address : Nat) (answer : Int32) :
    Option TaskId × SystemHost η :=
  if answer = refusal then (none, host.discard address)
  else
    let host := host.forget ⟨answer⟩
    (some ⟨answer⟩, { host with tasks := (⟨answer⟩, address) :: host.tasks })

/-- The system calls back with the address of a context, or with none. The answer is the handler
to run. -/
def callBack (host : SystemHost η) : Option Nat → Option η × SystemHost η
  | none => (none, host)
  | some address =>
    match host.contexts.find? (·.1 == address) with
    | none => (none, host)
    | some (_, handler) =>
      (handler, { host with contexts := host.contexts.map fun context =>
        if context.1 == address then (address, none) else context })

end SystemHost
end BackgroundWork.Background
