import Chip8.Word

/-!
# Instructions

The instruction set: 35 instructions, each with the operands that it carries,
and `unknown` for a word that is none of them.

- `Instruction.decode` reads any word.
- `Instruction.ofWord?` reads a number, which has to fit sixteen bits.

Only the families 5 and 9 leave a nibble of the word unused.
-/

namespace Chip8

/-- An address that fits an instruction word. -/
abbrev Address := Fin 4096

/-- One instruction. The comments give the word's nibbles. -/
inductive Instruction where
  /-- 0000: the program is over. -/
  | halt
  /-- 00E0: all pixels go dark. -/
  | clear
  /-- 00EE: return from the latest call. -/
  | ret
  /-- 1NNN: go on at the address. -/
  | jump (target : Address)
  /-- 2NNN: call the routine at the address. -/
  | call (target : Address)
  /-- 3XNN: skip the next instruction if the register holds the value. -/
  | skipIfValue (x : Register) (value : UInt8)
  /-- 4XNN: skip the next instruction unless the register holds the value. -/
  | skipUnlessValue (x : Register) (value : UInt8)
  /-- 5XY?: skip the next instruction if the registers are equal. -/
  | skipIfSame (x y : Register)
  /-- 6XNN: put the value into the register. -/
  | setValue (x : Register) (value : UInt8)
  /-- 7XNN: add the value to the register, the flag stays. -/
  | addValue (x : Register) (value : UInt8)
  /-- 8XY0 -/
  | copy (x y : Register)
  /-- 8XY1 -/
  | or (x y : Register)
  /-- 8XY2 -/
  | and (x y : Register)
  /-- 8XY3 -/
  | xor (x y : Register)
  /-- 8XY4 -/
  | add (x y : Register)
  /-- 8XY5 -/
  | sub (x y : Register)
  /-- 8XY6 -/
  | shiftRight (x y : Register)
  /-- 8XY7 -/
  | subFrom (x y : Register)
  /-- 8XYE -/
  | shiftLeft (x y : Register)
  /-- 9XY?: skip the next instruction unless the registers are equal. -/
  | skipUnlessSame (x y : Register)
  /-- ANNN: the index becomes the address. -/
  | setIndex (address : Address)
  /-- BNNN: go on at the address plus `V0`. -/
  | jumpFrom (base : Address)
  /-- CXNN: the register becomes a random number under the mask. -/
  | random (x : Register) (mask : UInt8)
  /-- DXYN: draw `rows` rows at the index as a sprite in column `VX` and row `VY`. -/
  | draw (x y : Register) (rows : Fin 16)
  /-- EX9E: skip the next instruction if the key `VX` is held. -/
  | skipIfHeld (x : Register)
  /-- EXA1: skip the next instruction unless the key `VX` is held. -/
  | skipUnlessHeld (x : Register)
  /-- FX07: the register becomes the delay timer's value. -/
  | getDelay (x : Register)
  /-- FX0A: wait for a key and put its code into the register. -/
  | awaitKey (x : Register)
  /-- FX15: set the delay timer. -/
  | setDelay (x : Register)
  /-- FX18: set the sound timer. -/
  | setSound (x : Register)
  /-- FX1E: add the register to the index. -/
  | addIndex (x : Register)
  /-- FX29: the index becomes the place of the digit's shape. -/
  | setIndexToDigit (x : Register)
  /-- FX33: put hundreds, tens and ones of the register at the index. -/
  | storeDecimal (x : Register)
  /-- FX55: put the registers up to `VX` at the index. -/
  | dump (x : Register)
  /-- FX65: fill the registers up to `VX` from the index. -/
  | restore (x : Register)
  /-- Any other word. -/
  | unknown (word : Int)
  deriving DecidableEq, Repr

namespace Instruction

/-- The arithmetic of family 8, chosen by the last nibble. -/
def decodeArithmetic (w : Word) : Instruction :=
  match w.n with
  | 0x0 => copy w.x w.y
  | 0x1 => or w.x w.y
  | 0x2 => and w.x w.y
  | 0x3 => xor w.x w.y
  | 0x4 => add w.x w.y
  | 0x5 => sub w.x w.y
  | 0x6 => shiftRight w.x w.y
  | 0x7 => subFrom w.x w.y
  | 0xE => shiftLeft w.x w.y
  | _ => unknown w.value

/-- The instructions of family F, chosen by the last two nibbles. -/
def decodeTransfer (w : Word) : Instruction :=
  match w.nn with
  | 0x07 => getDelay w.x
  | 0x0A => awaitKey w.x
  | 0x15 => setDelay w.x
  | 0x18 => setSound w.x
  | 0x1E => addIndex w.x
  | 0x29 => setIndexToDigit w.x
  | 0x33 => storeDecimal w.x
  | 0x55 => dump w.x
  | 0x65 => restore w.x
  | _ => unknown w.value

/-- The instruction of a word; the family decides first. -/
def decode (w : Word) : Instruction :=
  let address : Address := ⟨w.nnn % 4096, by omega⟩
  let value := UInt8.ofNat w.nn
  match w.family with
  | 0x0 =>
    if w.nnn = 0x000 then halt
    else if w.nnn = 0x0E0 then clear
    else if w.nnn = 0x0EE then ret
    else unknown w.value
  | 0x1 => jump address
  | 0x2 => call address
  | 0x3 => skipIfValue w.x value
  | 0x4 => skipUnlessValue w.x value
  | 0x5 => skipIfSame w.x w.y
  | 0x6 => setValue w.x value
  | 0x7 => addValue w.x value
  | 0x8 => decodeArithmetic w
  | 0x9 => skipUnlessSame w.x w.y
  | 0xA => setIndex address
  | 0xB => jumpFrom address
  | 0xC => random w.x value
  | 0xD => draw w.x w.y ⟨w.n % 16, by omega⟩
  | 0xE =>
    if w.nn = 0x9E then skipIfHeld w.x
    else if w.nn = 0xA1 then skipUnlessHeld w.x
    else unknown w.value
  | _ => decodeTransfer w

/-- The instruction of a number, or a fault if it does not fit sixteen bits. -/
def ofWord? (value : Int) : Except Fault Instruction :=
  if 0 ≤ value ∧ value ≤ 0xFFFF then .ok (decode ⟨value⟩) else .error (.wideWord value)

end Instruction

end Chip8
