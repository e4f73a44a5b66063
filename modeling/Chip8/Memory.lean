import Chip8.Byte

/-!
# Memory

4096 bytes. The shapes of the sixteen hexadecimal digits (`glyphs`) lie at
`0x050`, a program lies at `0x200`, all else starts as zero. Addresses are
integers, and an access that leaves memory on either side is a fault: nothing
wraps around.

- `Memory.ofProgram?`: a fresh memory with a program in it.
- `Memory.readByte`, `Memory.readWord`, `Memory.readBytes`: reading.
- `Memory.writeByte`, `Memory.writeBytes`, `Memory.storeDecimal`: writing; a
  write happens as a whole or not at all.
-/

namespace Chip8

/-- The contents of memory, one byte for each address. -/
structure Memory where
  cells : Vector UInt8 4096
  deriving DecidableEq

namespace Memory

/-- The number of bytes in memory. -/
def size : Nat := 4096

/-- Where the shapes of the digits begin. -/
def glyphBase : Nat := 0x050

/-- The number of rows, and so of bytes, of a digit's shape. -/
def glyphHeight : Nat := 5

/-- Where a program begins. -/
def programBase : Nat := 0x200

/-- How many bytes a program may have. -/
def programRoom : Nat := 3584

/-- The shapes of the digits 0 to F, four pixels wide, a byte for each row. -/
def glyphs : List UInt8 :=
  [ 0xF0, 0x90, 0x90, 0x90, 0xF0,
    0x20, 0x60, 0x20, 0x20, 0x70,
    0xF0, 0x10, 0xF0, 0x80, 0xF0,
    0xF0, 0x10, 0xF0, 0x10, 0xF0,
    0x90, 0x90, 0xF0, 0x10, 0x10,
    0xF0, 0x80, 0xF0, 0x10, 0xF0,
    0xF0, 0x80, 0xF0, 0x90, 0xF0,
    0xF0, 0x10, 0x20, 0x40, 0x40,
    0xF0, 0x90, 0xF0, 0x90, 0xF0,
    0xF0, 0x90, 0xF0, 0x10, 0xF0,
    0xF0, 0x90, 0xF0, 0x90, 0x90,
    0xE0, 0x90, 0xE0, 0x90, 0xE0,
    0xF0, 0x80, 0x80, 0x80, 0xF0,
    0xE0, 0x90, 0x90, 0x90, 0xE0,
    0xF0, 0x80, 0xF0, 0x80, 0xF0,
    0xF0, 0x80, 0xF0, 0x80, 0x80 ]

/-- The bytes of `m` with `bytes` laid over the cells from `start` on; what would lie
beyond the last cell is dropped. -/
def overlay (m : Memory) (start : Nat) : List UInt8 → Memory
  | [] => m
  | b :: bs => overlay ⟨m.cells.setIfInBounds start b⟩ (start + 1) bs

/-- Memory before anything is put into it. -/
def blank : Memory := ⟨Vector.replicate 4096 0⟩

/-- A fresh memory holding `program`, or a fault if the program region is too small for it. -/
def ofProgram? (program : List UInt8) : Except Fault Memory :=
  if programRoom < program.length then .error (.programTooLarge program.length)
  else .ok ((blank.overlay glyphBase glyphs).overlay programBase program)

/-- The range `[address, address + length)` neither begins below memory nor ends above it. -/
def InRange (address length : Int) : Prop :=
  0 ≤ address ∧ address + length ≤ 4096

instance (address length : Int) : Decidable (InRange address length) :=
  inferInstanceAs (Decidable (_ ∧ _))

/-- Refuses a range that begins below memory or ends above it. The fault holds the length whatever
its size. A host with a limit for written numbers, such as that of configurations
(`Numeral.maxDigits`), cannot write out the message for a longer one, and reports that instead. -/
def checkRange (address length : Int) : Except Error Unit :=
  if InRange address length then .ok () else .error (.fault (.memoryRange address length))

/-- The byte at the natural number `i`, zero beyond the last cell. -/
def cell (m : Memory) (i : Nat) : UInt8 :=
  m.cells[i]?.getD 0

/-- Within its range an overlay shows its own bytes, elsewhere what was there before. -/
theorem cell_overlay (m : Memory) (start : Nat) (bs : List UInt8) (i : Nat) :
    (m.overlay start bs).cell i =
      if start ≤ i ∧ i < 4096 then bs[i - start]?.getD (m.cell i) else m.cell i := by
  induction bs generalizing m start with
  | nil => simp [overlay]
  | cons b bs ih =>
    rw [overlay, ih]
    have first : cell ⟨m.cells.setIfInBounds start b⟩ i =
        if start = i ∧ i < 4096 then b else m.cell i := by
      simp only [cell, Vector.getElem?_setIfInBounds]
      grind
    grind

/-- The byte at `address`. -/
def readByte (m : Memory) (address : Int) : Except Error UInt8 := do
  checkRange address 1
  return m.cell address.toNat

/-- The bytes of the cells `[first, last)`, in order. -/
def slice (m : Memory) (first last : Nat) : List UInt8 :=
  (m.cells.extract first last).toList

/-- The bytes of `[address, address + length)`. A negative length passes the check as long as
the range begins inside memory; a negative end is then counted from the end of memory, and an
end before the beginning gives no bytes. -/
def readBytes (m : Memory) (address length : Int) : Except Error (List UInt8) := do
  checkRange address length
  let last := address + length
  return m.slice address.toNat (if last < 0 then (last + 4096).toNat else last.toNat)

/-- The big-endian word at `address` and `address + 1`. -/
def readWord (m : Memory) (address : Int) : Except Error Nat := do
  checkRange address 2
  return (m.cell address.toNat).toNat * 256 + (m.cell (address.toNat + 1)).toNat

/-- Puts `data` into the cell at `address`. The address is checked before the data. -/
def writeByte (m : Memory) (address data : Int) : Except Error Memory := do
  checkRange address 1
  match Byte.ofInt? data with
  | some b => return m.overlay address.toNat [b]
  | none => throw (.wideData data)

/-- Puts `values` into the cells from `address` on. The values are checked before the range. -/
def writeBytes (m : Memory) (address : Int) (values : List Int) : Except Error Memory := do
  let bs ← Byte.ofInts values
  checkRange address bs.length
  return m.overlay address.toNat bs

/-- Puts the hundreds, tens and ones of `value` into three cells from `address` on. -/
def storeDecimal (m : Memory) (address value : Int) : Except Error Memory :=
  m.writeBytes address [value.fdiv 100, (value.fdiv 10).fmod 10, value.fmod 10]

/-- Where the shape of a digit begins; of a number above 15, where it would begin. -/
def glyphAddress (digit : Int) : Int :=
  glyphBase + digit * glyphHeight

end Memory

end Chip8
