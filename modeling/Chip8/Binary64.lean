/-!
# Binary floating-point numbers

The numbers of the 64-bit binary format, exactly. Every finite one is a whole
number of units of `2 ^ -1074`, so that count and a sign are all that is kept.

- `Binary64.nearestEven`: a quotient rounded to a whole number.
- `Binary64.ofRatio`: a quotient rounded to the format, in units.
- `Binary64.ofDecimal`: a decimal numeral rounded to the format.
- `Binary64.roundUnits`: a number of the format rounded to a whole number.

Both roundings go to the nearest, and a tie goes to the even neighbour.
-/

namespace Chip8

/-- A number of the format. -/
inductive Binary64 where
  | nan
  | infinite (negative : Bool)
  /-- The magnitude is `units * 2 ^ -1074`. -/
  | finite (negative : Bool) (units : Nat)
  deriving DecidableEq, Repr

namespace Binary64

/-- How many units make one. -/
def one : Nat := Nat.pow 2 1074

/-- The first count of units that is beyond the format: that of `2 ^ 1024`. -/
def beyond : Nat := Nat.pow 2 2098

/-- `n / d` rounded to the nearest whole number, a tie to the even one. -/
def nearestEven (n d : Nat) : Nat :=
  let q := n / d
  let r := n % d
  if 2 * r < d then q
  else if d < 2 * r then q + 1
  else q + q % 2

/-- The distance between neighbours of the format at a count of `u` units and above, up to the
next power of two: 53 binary digits are kept, and there is nothing below a unit. -/
def spacing (u : Nat) : Nat :=
  Nat.pow 2 (u.log2 - 52)

/-- `n / d` rounded to the format, in units, or nothing if that is beyond the format. -/
def ofRatio (n d : Nat) : Option Nat :=
  let s := spacing (n * one / d)
  let u := nearestEven (n * one) (d * s) * s
  if u < beyond then some u else none

/-- A count of units rounded to a whole number. -/
def roundUnits (u : Nat) : Nat :=
  nearestEven u one

/-- `digits * 10 ^ exponent` rounded to the format; too large a magnitude becomes infinite. The
first two cases are far outside the format and spare the power of ten. -/
def ofDecimal (negative : Bool) (digits : Nat) (exponent : Int) : Binary64 :=
  let size : Int := (Nat.toDigits 10 digits).length
  if digits = 0 ∨ exponent + size < -400 then finite negative 0
  else if 400 < exponent + size then infinite negative
  else
    match ofRatio (digits * Nat.pow 10 exponent.toNat) (Nat.pow 10 (-exponent).toNat) with
    | some u => finite negative u
    | none => infinite negative

/-- Whether the number equals an integer. -/
def equalsInt (x : Binary64) (n : Int) : Bool :=
  match x with
  | finite negative u => (if negative then -(u : Int) else u) = n * one
  | _ => false

/-- Equality of numbers: the zeros are equal, and nothing equals a `nan`. -/
def equals : Binary64 → Binary64 → Bool
  | finite n u, finite k v => u = v && (n = k || u = 0)
  | infinite n, infinite k => n = k
  | _, _ => false

/-- Whether the number is one of the zeros. -/
def isZero : Binary64 → Bool
  | finite _ u => u = 0
  | _ => false

end Binary64

end Chip8
