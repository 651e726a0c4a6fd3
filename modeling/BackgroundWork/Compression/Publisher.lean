import BackgroundWork.Compression.Push

set_option autoImplicit false

/-!
The queue of pushes on their way to the engine. Pushes are taken in the order in which they were
accepted; one that finds the queue full is dropped.
-/

namespace BackgroundWork.Compression

/-- The pushes that wait to be sent. -/
structure Publisher where
  /-- How many pushes may wait. -/
  depth : Nat
  waiting : List Push
  deriving DecidableEq

namespace Publisher

/-- An empty queue. -/
def new (depth : Nat) : Publisher := ⟨depth, []⟩

/-- Whether a push would be dropped. -/
def isFull (publisher : Publisher) : Bool :=
  publisher.depth ≤ publisher.waiting.length

/-- Adds a push, unless the queue is full. -/
def submit (publisher : Publisher) (push : Push) : Publisher :=
  if publisher.isFull then publisher
  else { publisher with waiting := publisher.waiting ++ [push] }

/-- Takes the push that waited longest. -/
def take? (publisher : Publisher) : Option (Push × Publisher) :=
  match publisher.waiting with
  | [] => none
  | push :: rest => some (push, { publisher with waiting := rest })

end Publisher
end BackgroundWork.Compression
