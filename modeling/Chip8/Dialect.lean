/-!
# Dialects

Programs were written for interpreters that disagree on four instructions. A
`Dialect` chooses between the two readings of the shifts (`8XY6`, `8XYE`) and
of the register transfers (`FX55`, `FX65`).
-/

namespace Chip8

/-- A choice between the readings of the instructions that interpreters disagree on. -/
structure Dialect where
  /-- A shift reads its own target and not the source register. -/
  shiftInPlace : Bool := false
  /-- A register transfer leaves the index as it is. -/
  keepIndex : Bool := false
  deriving DecidableEq, Repr

namespace Dialect

/-- Both choices made alike. -/
def ofFlag (on : Bool) : Dialect := ⟨on, on⟩

/-- Whether both choices are made. -/
def isFull (d : Dialect) : Bool :=
  d.shiftInPlace && d.keepIndex

/-- A truth value as the dialect's description spells it. -/
def flagText (on : Bool) : String :=
  if on then "True" else "False"

/-- The dialect as notices describe it. -/
def text (d : Dialect) : String :=
  "Quirks(lazy_shift=" ++ flagText d.shiftInPlace ++ ", static_dump_index=" ++
    flagText d.keepIndex ++ ")"

end Dialect

end Chip8
