import Chip8.Instruction.Fetch
import Chip8.Instruction.Text

/-!
# Disassembly

A range of memory as assembly text, word by word. A byte left over at the end
of the range is not shown, and the range ends with memory.
-/

namespace Chip8

/-- A word of memory with its address, digits and assembly text. -/
structure Listing where
  address : Int
  digits : String
  text : String
  deriving DecidableEq, Repr

namespace Listing

/-- The line for the word at `address`. -/
def line (m : Memory) (address : Int) : Except Error Listing := do
  let word ← m.readWord address
  let instruction ← (Instruction.ofWord? word).mapError .fault
  return ⟨address, Hex.upper 4 word, instruction.text⟩

/-- The lines for the words from `address` on, as long as a word ends before `last` or there. -/
def linesTo (m : Memory) (last address : Int) : Except Error (List Listing) := do
  if address + 2 ≤ last then
    let first ← line m address
    let rest ← linesTo m last (address + 2)
    return first :: rest
  else
    return []
termination_by (last - address).toNat

/-- The lines for the words that lie in `[start, start + length)` and end within memory. -/
def ofRange (m : Memory) (start length : Int) : Except Error (List Listing) :=
  linesTo m (min (start + length) Memory.size) start

end Listing

end Chip8
