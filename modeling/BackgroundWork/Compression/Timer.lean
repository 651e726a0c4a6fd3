import BackgroundWork.Clock

set_option autoImplicit false

/-!
A timer that is due once per period, and for the first time one period after it was started. A
timer that is handled late by more than the tolerance counts its next period from then; else it
keeps to its times. The first due time has to be a reading of the clock. All times are in
milliseconds of one clock.
-/

namespace BackgroundWork.Compression

/-- A periodic timer. -/
structure Timer where
  due : Nat
  /-- From one due time to the next one. -/
  period : Nat
  deriving DecidableEq, Repr

namespace Timer

/-- Why a timer cannot be started. -/
inductive Fault where
  /-- The clock has no reading for the first due time. -/
  | overflow
  | zeroPeriod
  deriving DecidableEq, Repr

/-- The wording of a fault. -/
def Fault.message : Fault → String
  | overflow => "overflow when adding duration to instant"
  | zeroPeriod => "`period` must be non-zero."

/-- A timer that is first due one period from now. -/
def start (now period : Nat) : Except Fault Timer :=
  if Clock.greatestSecond < (now + period) / 1000 then .error .overflow
  else if period = 0 then .error .zeroPeriod
  else .ok ⟨now + period, period⟩

/-- By how much a timer may be late and still keep to its times. -/
def tolerance : Nat := 5

/-- Whether a timer is to be handled. -/
def isDue (timer : Timer) (now : Nat) : Bool :=
  timer.due ≤ now

/-- The timer after it was handled. -/
def next (timer : Timer) (now : Nat) : Timer :=
  if timer.due + tolerance < now then { timer with due := now + timer.period }
  else { timer with due := timer.due + timer.period }

end Timer
end BackgroundWork.Compression
