import Chip8.Binary64
import Chip8.Config

/-!
# Pacing

How many steps a frame takes and how long it lasts. A quotient of two rates is
first rounded to a floating-point number and then to a whole number, both to
the nearest with ties to even; at least one step is made and one millisecond
waited.
-/

namespace Chip8

/-- Why a quotient of rates has no value. -/
inductive PacingError where
  | divisionByZero
  | tooLarge
  deriving DecidableEq, Repr

/-- What is said about it. -/
def PacingError.message : PacingError → String
  | divisionByZero => "division by zero"
  | tooLarge => "integer division result too large for a float"

namespace Pacing

/-- The quotient of two integers, rounded twice; zero where it is negative. -/
def quotient (a b : Int) : Except PacingError Nat :=
  if b = 0 then .error .divisionByZero
  else
    match Binary64.ofRatio a.natAbs b.natAbs with
    | none => .error .tooLarge
    | some u => .ok (if (a < 0) ≠ (b < 0) then 0 else Binary64.roundUnits u)

end Pacing

/-- The number of steps in a frame. -/
def Config.stepsPerFrame (c : Config) : Except PacingError Nat :=
  (Pacing.quotient c.stepRate c.frameRate).map (max 1)

/-- The length of a frame in milliseconds. -/
def Config.frameInterval (c : Config) : Except PacingError Nat :=
  (Pacing.quotient 1000 c.frameRate).map (max 1)

end Chip8
