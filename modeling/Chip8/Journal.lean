import Chip8.Dialect
import Chip8.Level
import Chip8.Text.Hex

/-!
# Journal

What a machine and its host note down while they work, oldest first. A notice
is kept as what happened; `Notice.level` and `Notice.message` say how it is
written.
-/

namespace Chip8

/-- Something worth noting down. -/
inductive Notice where
  /-- A program of `size` bytes was read from a file. -/
  | loaded (path : String) (size : Nat)
  /-- A machine is about to be built from a configuration. -/
  | building (full : Bool) (seed : Option Int) (stepsPerFrame : Nat)
  /-- A machine was built around a program of `size` bytes. -/
  | created (size : Nat) (dialect : Dialect)
  /-- A word that is no instruction was executed. -/
  | unknownWord (word : Int)
  /-- The machine came to rest at `address`. -/
  | paused (address : Int)
  /-- The host stopped the machine because of a fault at `address`. -/
  | faulted (address : Int)
  deriving DecidableEq, Repr

namespace Notice

/-- How urgent each notice is. -/
def level : Notice → Level
  | loaded .. => .info
  | building .. | created .. | paused .. => .debug
  | unknownWord .. => .warning
  | faulted .. => .error

/-- The wording of each notice. -/
def message : Notice → String
  | loaded path size => s!"Loaded program {path} ({size} bytes)"
  | building full seed steps =>
    "Building machine: quirks=" ++ Dialect.flagText full ++ ", seed=" ++
      (match seed with
        | some n => toString n
        | none => "None") ++ s!", {steps} steps/frame"
  | created size dialect => s!"Machine created: {size} program bytes, quirks " ++ dialect.text
  | unknownWord word => "Unimplemented instruction detected: " ++ Hex.marked 6 word
  | paused address => "Machine paused at " ++ Hex.marked 5 address
  | faulted address => "Machine fault at PC " ++ Hex.marked 5 address

end Notice

/-- The notices, oldest first. -/
abbrev Journal := Array Notice

end Chip8
