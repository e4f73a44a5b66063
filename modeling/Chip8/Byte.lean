import Chip8.Fault

/-!
# Bytes

Integers that are to be kept in a byte.
-/

namespace Chip8

namespace Byte

/-- The byte that holds `value`, if it is in 0..255. -/
def ofInt? (value : Int) : Option UInt8 :=
  if 0 ≤ value ∧ value ≤ 255 then some (UInt8.ofNat value.toNat) else none

/-- The bytes that hold `values`; one value outside 0..255 refuses them all. -/
def ofInts (values : List Int) : Except Error (List UInt8) :=
  match values.mapM ofInt? with
  | some bs => .ok bs
  | none => .error .wideByte

/-- The values of bytes. -/
def toInts (bs : List UInt8) : List Int :=
  bs.map fun b => (b.toNat : Int)

end Byte

end Chip8
