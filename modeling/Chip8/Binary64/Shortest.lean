import Chip8.Binary64

/-!
# The shortest decimal text of a floating-point number

The fewest decimal digits that read back as the same number, and of several
such decimals the one nearest to it. Where the point is put, and when an
exponent is written, is the choice of a `Layout`.

- `Binary64.shortest`: the digits and the exponent.
- `Binary64.text`: the number as text.
-/

namespace Chip8

namespace Binary64

/-- A decimal `digits * 10 ^ exponent`. -/
structure Decimal where
  digits : Nat
  exponent : Int
  deriving DecidableEq, Repr

/-- The decimal exponent of the leading digit of `u` units, `u` positive. -/
def leading (u : Nat) : Int :=
  if one ≤ u then (Nat.toDigits 10 (u / one)).length - 1
  else
    match (List.range 400).find? (fun j => one ≤ u * Nat.pow 10 j) with
    | some j => -(j : Int)
    | none => -400

/-- Of the decimals with `p` digits, one that rounds to `u` units and is nearest to them, if any
does. The decimals that round to `u` lie between the middles to its neighbours; below a power of
two the lower neighbour is only half as far away. The ends count if the significand is even. -/
def withDigits? (u p : Nat) : Option Decimal :=
  let s := spacing u
  let t := leading u - p + 1
  let up := Nat.pow 10 (-t).toNat
  let down := Nat.pow 10 t.toNat * one
  let low := (4 * u - (if u = Nat.pow 2 u.log2 ∧ 1 < s then s else 2 * s)) * up
  let high := (4 * u + 2 * s) * up
  let even := u / s % 2 = 0
  let inside (c : Nat) : Bool :=
    let x := 4 * c * down
    (low < x ∨ (even ∧ low = x)) ∧ (x < high ∨ (even ∧ x = high))
  let c := u * up / down
  let below := inside c
  let above := inside (c + 1)
  if below && above then
    let gap := 2 * (u * up - c * down)
    let upper := down < gap ∨ (gap = down ∧ c % 2 = 1)
    some ⟨if upper then c + 1 else c, t⟩
  else if below then some ⟨c, t⟩
  else if above then some ⟨c + 1, t⟩
  else none

/-- The shortest decimal of `u` units; seventeen digits are always enough. -/
def shortest (u : Nat) : Decimal :=
  ((List.range 17).findSome? fun p => withDigits? u (p + 1)).getD ⟨u, -1074⟩

/-- How decimals are written. -/
structure Layout where
  /-- The decimal exponents of the leading digit that are written with all digits in place. -/
  firstPlain : Int
  lastPlain : Int
  /-- The least number of digits of a written exponent. -/
  exponentDigits : Nat

/-- Numbers from `0.0001` up to, but not including, `10 ^ 16` have their digits in place, and an
exponent has at least two digits. -/
def layout : Layout := ⟨-4, 15, 2⟩

/-- Drops the zeros at the end. -/
def trimZeros (cs : List Char) : List Char :=
  (cs.reverse.dropWhile (· = '0')).reverse

/-- A decimal, not zero, as text. Whole numbers in place end with `.0`. -/
def Layout.write (l : Layout) (d : Decimal) : List Char :=
  let all := Nat.toDigits 10 d.digits
  let e : Int := d.exponent + all.length - 1
  let ds := trimZeros all
  if l.firstPlain ≤ e ∧ e ≤ l.lastPlain then
    if e < 0 then ['0', '.'] ++ List.replicate (-e - 1).toNat '0' ++ ds
    else
      let whole := e.toNat + 1
      let fraction := ds.drop whole
      ds.take whole ++ List.replicate (whole - ds.length) '0' ++ ['.'] ++
        (if fraction.isEmpty then ['0'] else fraction)
  else
    let mantissa := ds.take 1 ++ (if ds.length ≤ 1 then [] else '.' :: ds.drop 1)
    let digits := Nat.toDigits 10 e.natAbs
    mantissa ++ ['e', if e < 0 then '-' else '+'] ++
      List.replicate (l.exponentDigits - digits.length) '0' ++ digits

/-- The text of a number. -/
def text : Binary64 → String
  | nan => "nan"
  | infinite negative => if negative then "-inf" else "inf"
  | finite negative u =>
    let sign := if negative then "-" else ""
    if u = 0 then sign ++ "0.0"
    else sign ++ String.ofList (layout.write (shortest u))

end Binary64

end Chip8
