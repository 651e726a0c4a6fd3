import BackgroundWork.Proofs.WorkerSteps

set_option autoImplicit false

/-!
Histories of the worker: any events, handled one after the other at any moments from the new
worker on. What holds at first and is kept by each rule of handling holds after every history.
-/

namespace BackgroundWork.Compression

open Background

/-- An event that was handled. -/
structure Handled where
  event : Event
  before : Worker
  after : Worker
  /-- What was done, in order. -/
  effects : List Effect

/-- The worker that a history leads to. A history ends with a crash, which comes before the end
of the event. -/
inductive Reached (settings : CoordinatorSettings) : List Handled → Worker → Prop
  | new : Reached settings [] .new
  | handle {history : List Handled} {worker : Worker} {turn : Turn}
      (earlier : Reached settings history worker) (moment : Moment) (event : Event)
      (handled : worker.handle settings moment event = .ok turn) :
      Reached settings (history ++ [⟨event, worker, turn.worker, turn.effects⟩]) turn.worker
  /-- The timer moves on to its next time when it was due. -/
  | advance {history : List Handled} {worker : Worker} {timer : Timer}
      (earlier : Reached settings history worker) (timed : worker.timer = some timer)
      (now : Nat) :
      Reached settings history { worker with timer := some (timer.next now) }

variable {settings : CoordinatorSettings} {history : List Handled} {worker : Worker}

/-- What holds at first and is kept by every rule of handling, and whenever the timer moves on,
holds after every history. -/
theorem Reached.keeps (Kept : List Handled → Worker → Prop)
    (reached : Reached settings history worker) (first : Kept [] .new)
    (handle : ∀ {history worker moment event after effects}, Kept history worker →
      Handling settings moment worker event after effects →
      Kept (history ++ [⟨event, worker, after, effects⟩]) after)
    (advance : ∀ {history worker timer} (next : Timer), Kept history worker →
      worker.timer = some timer → Kept history { worker with timer := some next }) :
    Kept history worker := by
  induction reached with
  | new => exact first
  | handle earlier moment event handled ih => exact handle ih (handling_of_ok handled)
  | advance earlier timed now ih => exact advance _ ih timed

/-- What was done in a history, in order. -/
def effectsOf (history : List Handled) : List Effect :=
  history.flatMap (·.effects)

@[simp] theorem effectsOf_snoc (history : List Handled) (last : Handled) :
    effectsOf (history ++ [last]) = effectsOf history ++ last.effects := by
  simp [effectsOf]

end BackgroundWork.Compression
