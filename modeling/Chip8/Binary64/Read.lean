import Chip8.Binary64
import Chip8.Numeral

/-!
# Reading decimal numbers

Decimal numbers with a fraction or an exponent, rounded to the format:
an optional sign, digits, an optional point with digits, and an optional
exponent. Digits may be missing on one side of the point.
-/

namespace Chip8

namespace Binary64

/-- The value of decimal digits. -/
def decimalValue (ds : List Char) : Nat :=
  Numeral.value 10 (ds.filterMap (Numeral.digit? 10))

/-- The exponent at the end of a numeral; none is zero. -/
def exponent? : List Char → Option Int
  | [] => some 0
  | e :: cs =>
    if e = 'e' ∨ e = 'E' then
      let (negative, ds) := Numeral.splitSign cs
      if ds.isEmpty ∨ ¬ ds.all Char.isDigit then none
      else
        let n : Int := decimalValue ds
        some (if negative then -n else n)
    else none

/-- The number that a text stands for. -/
def read? (cs : List Char) : Option Binary64 :=
  let (negative, cs) := Numeral.splitSign cs
  let whole := cs.takeWhile Char.isDigit
  let rest := cs.dropWhile Char.isDigit
  let (fraction, rest) := match rest with
    | '.' :: rest => (rest.takeWhile Char.isDigit, rest.dropWhile Char.isDigit)
    | rest => ([], rest)
  if whole.isEmpty ∧ fraction.isEmpty then none
  else
    (exponent? rest).map fun e =>
      ofDecimal negative (decimalValue (whole ++ fraction)) (e - fraction.length)

end Binary64

end Chip8
