import Chip8.Byte

/-!
# Registers

Sixteen general registers of eight bits, the index register and the program
counter. The last general register, `VF`, also receives the carry, the missing
borrow, the bit shifted out, or a sprite's collision.

Arithmetic on general registers is modulo 256. Operands are read before
anything is written and the flag is written before the result, so an operation
whose target is `VF` leaves its result there and not the flag.

The index and the program counter are integers; `advanceIndex` keeps the index
within sixteen bits, nothing bounds the program counter.
-/

namespace Chip8

/-- The number of a general register. -/
abbrev Register := Fin 16

namespace Register

/-- The register of a number, or a fault if there is none. -/
def ofInt? (number : Int) : Except Fault Register :=
  if h : 0 ≤ number ∧ number < 16 then .ok ⟨number.toNat, by omega⟩ else .error (.noRegister number)

/-- The register's name: `V0` to `VF`. -/
def name (r : Register) : String :=
  "V" ++ Hex.upper 1 r.val

/-- The flag register. -/
def flag : Register := 15

/-- The register that a computed jump adds to its address. -/
def base : Register := 0

/-- The register of a nibble; of a larger number, that of its last nibble. -/
def ofNat (n : Nat) : Register := Fin.ofNat 16 n

end Register

/-- The contents of the registers. -/
structure Registers where
  general : Vector UInt8 16 := Vector.replicate 16 0
  index : Int := 0
  counter : Int := 0x200
  deriving DecidableEq

namespace Registers

/-- The value of a general register. -/
def get (rs : Registers) (r : Register) : UInt8 :=
  rs.general[r]

/-- The registers with `value` in one of them. -/
def set (rs : Registers) (r : Register) (value : UInt8) : Registers :=
  { rs with general := rs.general.set r value }

@[simp] theorem get_set_self (rs : Registers) (r : Register) (value : UInt8) :
    (rs.set r value).get r = value := by
  simp [get, set]

theorem get_set_other (rs : Registers) {r q : Register} (value : UInt8) (h : q ≠ r) :
    (rs.set r value).get q = rs.get q := by
  have : (r : Nat) ≠ q := fun e => h (Fin.ext e.symm)
  simp [get, set, this]

/-- Puts an integer into a register, if it fits. -/
def store (rs : Registers) (r : Register) (value : Int) : Except Error Registers :=
  match Byte.ofInt? value with
  | some b => .ok (rs.set r b)
  | none => .error (.wideValue value)

/-- Puts one or zero into the flag register. -/
def setFlag (rs : Registers) (on : Bool) : Registers :=
  rs.set Register.flag (if on then 1 else 0)

/-- Adds a value of any size to a register; the flag stays. -/
def addValue (rs : Registers) (r : Register) (value : Int) : Registers :=
  rs.set r (rs.get r + UInt8.ofInt value)

/-- `target := source`. -/
def copy (rs : Registers) (target source : Register) : Registers :=
  rs.set target (rs.get source)

/-- `target := target or source`. -/
def or (rs : Registers) (target source : Register) : Registers :=
  rs.set target (rs.get target ||| rs.get source)

/-- `target := target and source`. -/
def and (rs : Registers) (target source : Register) : Registers :=
  rs.set target (rs.get target &&& rs.get source)

/-- `target := target xor source`. -/
def xor (rs : Registers) (target source : Register) : Registers :=
  rs.set target (rs.get target ^^^ rs.get source)

/-- `target := target + source`; the flag tells of a carry. -/
def add (rs : Registers) (target source : Register) : Registers :=
  let a := rs.get target
  let b := rs.get source
  (rs.setFlag (255 < a.toNat + b.toNat)).set target (a + b)

/-- `target := target - source`; the flag tells that nothing was borrowed. -/
def sub (rs : Registers) (target source : Register) : Registers :=
  let a := rs.get target
  let b := rs.get source
  (rs.setFlag (b ≤ a)).set target (a - b)

/-- `target := source - target`; the flag tells that nothing was borrowed. -/
def subFrom (rs : Registers) (target source : Register) : Registers :=
  let a := rs.get target
  let b := rs.get source
  (rs.setFlag (a ≤ b)).set target (b - a)

/-- `target := value / 2`, where the value is that of `target` itself if `inPlace` and that of
`source` otherwise; the flag is the bit shifted out. -/
def shiftRight (rs : Registers) (target source : Register) (inPlace : Bool) : Registers :=
  let a := rs.get (if inPlace then target else source)
  (rs.setFlag (a &&& 1 = 1)).set target (a >>> 1)

/-- `target := 2 * value`, with the value as in `shiftRight`; the flag is the bit shifted out. -/
def shiftLeft (rs : Registers) (target source : Register) (inPlace : Bool) : Registers :=
  let a := rs.get (if inPlace then target else source)
  (rs.setFlag (128 ≤ a)).set target (a <<< 1)

/-- The values of `V0` up to and including `last`. -/
def dump (rs : Registers) (last : Register) : List UInt8 :=
  rs.general.toList.take (last.val + 1)

/-- The registers with `values` in those from number `r` on; further values are dropped. -/
def fillFrom (rs : Registers) (r : Nat) : List UInt8 → Registers
  | [] => rs
  | b :: bs => fillFrom { rs with general := rs.general.setIfInBounds r b } (r + 1) bs

/-- Puts `values` into `V0` and on, if there are registers for all of them. -/
def load (rs : Registers) (values : List UInt8) : Except Error Registers :=
  if 16 < values.length then .error (.fault (.tooManyValues values.length))
  else .ok (rs.fillFrom 0 values)

/-- Adds to the index, modulo 65536. -/
def advanceIndex (rs : Registers) (amount : Int) : Registers :=
  { rs with index := (rs.index + amount) % 65536 }

end Registers

end Chip8
