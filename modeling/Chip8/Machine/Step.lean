import Chip8.Instruction.Fetch
import Chip8.Machine.Execute

/-!
# Steps

One step of the machine: fetch the word at the program counter, execute its
instruction, let the timers tick, set the program counter, count the step. A
step that fails does so while fetching or executing.

The program counter stays when the instruction asks for a pause. It is advanced
by one word when the instruction left it where it was, and otherwise becomes
what the instruction made of it.

- `Machine.step`: one step with the given keys held.
- `Machine.run`: several steps, up to the first failure.
-/

namespace Chip8

namespace Machine

/-- Sets the program counter after an instruction at `counter`, and whether the machine is
paused. Coming to rest is noted, staying at rest is not. -/
def settle (counter : Int) (outcome : Outcome) (m : Machine) : Machine :=
  if outcome.pause then
    let m := if m.paused then m else m.note (.paused counter)
    { m with paused := true }
  else
    let next := if outcome.counter = counter then counter + 2 else outcome.counter
    { m with paused := false, registers := { m.registers with counter := next } }

/-- One step while the keys of the given codes are held. -/
def step (keys : List Int) : Action Unit := do
  let held ← orError (Keypad.held keys)
  let counter := (← get).registers.counter
  let instruction ← orError (Instruction.fetch (← get).memory counter)
  let outcome ← execute instruction counter held
  modify fun m => { m with timers := m.timers.tick }
  modify (settle counter outcome)
  modify fun m => { m with cycles := m.cycles + 1 }

/-- Steps until one fails, at most `n`. -/
def run : Nat → List Int → Action Unit
  | 0, _ => pure ()
  | n + 1, keys => do
    step keys
    run n keys

end Machine

end Chip8
