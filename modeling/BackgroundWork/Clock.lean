set_option autoImplicit false

/-!
The clock counts milliseconds, and has a greatest reading.
-/

namespace BackgroundWork.Clock

/-- The greatest reading, in seconds. -/
def greatestSecond : Nat := 9223372036854775807

end BackgroundWork.Clock
