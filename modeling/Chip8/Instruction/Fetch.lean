import Chip8.Instruction
import Chip8.Memory

/-!
# Fetching an instruction

The instruction that memory holds at an address, from the word there.
-/

namespace Chip8

/-- The instruction of the word at `address`. -/
def Instruction.fetch (m : Memory) (address : Int) : Except Error Instruction := do
  let word ← m.readWord address
  (Instruction.ofWord? word).mapError .fault

end Chip8
