import Chip8.Registers

/-!
# Instruction words

An instruction is a big-endian word of sixteen bits, read as nibbles `CXYN`:
the family `C`, two register numbers `X` and `Y`, and an operand that is one
(`N`), two (`NN`) or three (`NNN`) nibbles long. The nibbles of a number that
does not fit sixteen bits are those of its two's complement.
-/

namespace Chip8

/-- A number taken as an instruction word. -/
structure Word where
  value : Int
  deriving DecidableEq, Repr

namespace Word

/-- The last `n` bits from bit `i` on. -/
def field (w : Word) (i n : Nat) : Nat :=
  ((w.value >>> i) % (Nat.pow 2 n : Nat)).toNat

/-- The family `C`. -/
def family (w : Word) : Nat := w.field 12 4

/-- The register `X`. -/
def x (w : Word) : Register := .ofNat (w.field 8 4)

/-- The register `Y`. -/
def y (w : Word) : Register := .ofNat (w.field 4 4)

/-- The last nibble. -/
def n (w : Word) : Nat := w.field 0 4

/-- The last two nibbles. -/
def nn (w : Word) : Nat := w.field 0 8

/-- The last three nibbles. -/
def nnn (w : Word) : Nat := w.field 0 12

end Word

end Chip8
