import Chip8.Config.Pacing
import Chip8.Machine

/-!
# Building a machine from a configuration

The dialect and, if it is repeatable, the source of random numbers are chosen
by the configuration. The pace is computed for the notice about the building,
so a configuration whose pace has no value builds nothing.
-/

namespace Chip8

/-- Why no machine is built. -/
inductive BuildError where
  | pacing (cause : PacingError)
  | fault (cause : Fault)
  deriving DecidableEq, Repr

/-- The machine of a configuration around a program. `source` is read unless there is a seed, and
the notices in `journal` come first. -/
def Config.build (c : Config) (program : List UInt8) (source : RandomSource) (journal : Journal) :
    Except BuildError Machine := do
  let dialect := Dialect.ofFlag c.fullDialect
  let steps ← c.stepsPerFrame.mapError .pacing
  let source := match c.seed with
    | some seed => RandomSource.seeded seed
    | none => source
  (Machine.ofProgram? program dialect source
    (journal.push (.building dialect.isFull c.seed steps))).mapError .fault

end Chip8
