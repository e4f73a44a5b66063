import Chip8.Text.Hex

/-!
# Faults and refusals

A `Fault` is a hard limit of the machine that a program ran into: memory of
4096 bytes, sixteen registers, sixteen stack frames, words of sixteen bits. A
host stops the machine at a fault. An `Error` is a fault or a request of the
host that is refused (`Error.fault` embeds the faults); a program alone never
causes the others.

- `Fault.message`, `Error.message`: what is said about each cause.

Messages write out numbers of any length. Only configurations have a limit for that
(`ConfigError.unwritable`).
-/

namespace Chip8

/-- A hard limit of the machine was exceeded. -/
inductive Fault where
  /-- An image of `size` bytes is larger than the program region. -/
  | programTooLarge (size : Nat)
  /-- The bytes `[address, address + length)` are not all in memory. -/
  | memoryRange (address length : Int)
  /-- There is no general register of this number. -/
  | noRegister (number : Int)
  /-- More values than registers. -/
  | tooManyValues (count : Nat)
  /-- A seventeenth return address. -/
  | stackOverflow (address : Int)
  /-- A return without a call. -/
  | stackUnderflow
  /-- An instruction word that does not fit sixteen bits. -/
  | wideWord (word : Int)
  deriving DecidableEq, Repr

/-- What the host is told about a fault. -/
def Fault.message : Fault → String
  | programTooLarge size =>
    s!"Program of {size} bytes does not fit the program region (3584 bytes at 0x200)."
  | memoryRange address length =>
    "Address range " ++ Hex.marked 6 address ++ s!"+{length} out of bounds for memory of size 4096."
  | noRegister number => s!"Attempt to access non-existent general register {number}."
  | tooManyValues count => s!"Cannot load {count} values into 16 registers."
  | stackOverflow address =>
    "Max stack size of 16 reached (pushing " ++ Hex.marked 5 address ++ ")."
  | stackUnderflow => "Attempt to pop from empty stack."
  | wideWord word => "Word " ++ Hex.marked 0 word ++ " is not a 16-bit value."

/-- Why an operation on the machine or on one of its parts gives no result. -/
inductive Error where
  /-- A hard limit of the machine. -/
  | fault (cause : Fault)
  /-- A register is to hold a value outside 0..255. -/
  | wideValue (value : Int)
  /-- A single memory cell is to hold a value outside 0..255. -/
  | wideData (value : Int)
  /-- A sequence of bytes is to hold a value outside 0..255. -/
  | wideByte
  /-- A key code outside 0..15. -/
  | keyCode (code : Int)
  /-- A pixel outside the grid. -/
  | pixel (x y : Int)
  /-- A frame that is not four bytes for each pixel. -/
  | frameSize (size : Nat)
  deriving DecidableEq, Repr

/-- What the host is told about an error. -/
def Error.message : Error → String
  | fault cause => cause.message
  | wideValue value => s!"Value {value} is not an 8-bit value."
  | wideData value => s!"Data {value} is not an 8-bit value."
  | wideByte => "bytes must be in range(0, 256)"
  | keyCode code => s!"Key code {code} is outside the 0-15 range."
  | pixel x y => s!"Pixel ({x}, {y}) out of bounds for 64x32 framebuffer."
  | frameSize size => s!"Frame must be 8192 bytes, got {size}"

end Chip8
