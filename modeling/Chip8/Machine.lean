import Chip8.CallStack
import Chip8.Journal
import Chip8.Keypad
import Chip8.Memory
import Chip8.Random
import Chip8.Registers
import Chip8.Screen
import Chip8.Timers

/-!
# The machine

All parts of the machine in one state, and the actions on it. An `Action` may
fail, and what it did before it failed stays done: that a step of the machine
undoes nothing because it had done nothing is a fact about the steps and not
about actions.

- `Machine.ofProgram?`: a machine around a fresh memory.
- `Machine.Action`: a computation that changes the machine and may fail.
- `Machine.registerTable`: the values an inspector shows.
-/

namespace Chip8

/-- The state of a machine. -/
structure Machine where
  memory : Memory
  registers : Registers := {}
  stack : CallStack := {}
  timers : Timers := {}
  screen : Screen := Screen.dark
  dialect : Dialect := {}
  source : RandomSource
  /-- The last step left the program counter where it was, to wait or to rest. -/
  paused : Bool := false
  /-- The number of steps made. -/
  cycles : Nat := 0
  journal : Journal := #[]

namespace Machine

/-- A computation that changes the machine and may fail; changes before a failure stay. -/
abbrev Action := ExceptT Error (StateM Machine)

/-- Runs an action: its result or error, and the machine afterwards. -/
def Action.on {α : Type} (action : Action α) (m : Machine) : Except Error α × Machine :=
  action.run m

namespace Action

variable {α β : Type}

@[simp] theorem on_pure (a : α) (m : Machine) : Action.on (pure a) m = (.ok a, m) := rfl

@[simp] theorem on_get (m : Machine) : Action.on get m = (.ok m, m) := rfl

@[simp] theorem on_modify (f : Machine → Machine) (m : Machine) :
    Action.on (modify f) m = (.ok ⟨⟩, f m) := rfl

@[simp] theorem on_throw (e : Error) (m : Machine) :
    Action.on (throw e : Action α) m = (.error e, m) := rfl

/-- The second action starts where the first one ended, unless that failed. -/
@[simp] theorem on_bind (a : Action α) (k : α → Action β) (m : Machine) :
    Action.on (a >>= k) m =
      match a.on m with
      | (.ok x, next) => (k x).on next
      | (.error e, next) => (.error e, next) := by
  show (match a m with | (x, next) => ExceptT.bindCont k x next) =
    match a m with
    | (.ok x, next) => (k x) next
    | (.error e, next) => (.error e, next)
  rcases a m with ⟨e | x, next⟩ <;> rfl

end Action

/-- Notes something down. -/
def note (m : Machine) (notice : Notice) : Machine :=
  { m with journal := m.journal.push notice }

/-- A machine around a fresh memory with `program` in it. The notices already in `journal` come
before the one about the building. -/
def ofProgram? (program : List UInt8) (dialect : Dialect) (source : RandomSource)
    (journal : Journal) : Except Fault Machine := do
  let memory ← Memory.ofProgram? program
  let m : Machine := { memory, dialect, source, journal }
  return m.note (.created program.length dialect)

/-- The registers, the depth of the stack and the timers, by name. -/
def registerTable (m : Machine) : List (String × Int) :=
  (List.finRange 16).map (fun r => (Register.name r, ((m.registers.get r).toNat : Int))) ++
    [ ("I", m.registers.index),
      ("PC", m.registers.counter),
      ("SP", m.stack.depth),
      ("DT", m.timers.delay),
      ("ST", m.timers.sound) ]

end Machine

end Chip8
