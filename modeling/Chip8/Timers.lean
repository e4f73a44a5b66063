/-!
# Timers

The delay timer and the sound timer count down to zero together, once in eight
steps of the machine; `untilDecay` counts the steps to the next decay.
-/

namespace Chip8

/-- The two timers and the steps left to their next decay. -/
structure Timers where
  delay : Int := 0
  sound : Int := 0
  untilDecay : Nat := 8
  deriving DecidableEq, Repr

namespace Timers

/-- The number of steps in which a timer decays once. -/
def period : Nat := 8

/-- A positive timer goes down by one; any other stays. -/
def decay (value : Int) : Int :=
  if 0 < value then value - 1 else value

/-- The timers after one more step. -/
def tick (t : Timers) : Timers :=
  if 1 < t.untilDecay then { t with untilDecay := t.untilDecay - 1 }
  else ⟨decay t.delay, decay t.sound, period⟩

/-- Whether a sound is to be heard. -/
def soundActive (t : Timers) : Bool :=
  0 < t.sound

end Timers

end Chip8
