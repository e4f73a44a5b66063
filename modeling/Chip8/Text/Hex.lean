/-!
# Hexadecimal text

Fixed-width hexadecimal renderings of integers, as assembly listings, status
lines and fault messages show them.

- `Hex.upper width n`: upper-case digits, filled up with zeros to `width`.
- `Hex.marked width n`: lower-case digits behind `0x`, filled up with zeros so
  that sign, `0x` and digits together take `width` characters.

A width is a minimum: a number that needs more room takes it.
-/

namespace Chip8

namespace Hex

/-- The lower-case hexadecimal digits of `n`, most significant first; zero has one digit. -/
def digits (n : Nat) : List Char :=
  Nat.toDigits 16 n

/-- Zeros are put in front of `cs` until it has `width` characters. -/
def fill (width : Nat) (cs : List Char) : List Char :=
  List.replicate (width - cs.length) '0' ++ cs

/-- The sign that a number is written with: a minus sign or nothing. -/
def sign (n : Int) : List Char :=
  if n < 0 then ['-'] else []

/-- Upper-case digits, the sign counted in the width. -/
def upper (width : Nat) (n : Int) : String :=
  let s := sign n
  String.ofList (s ++ fill (width - s.length) ((digits n.natAbs).map Char.toUpper))

/-- Lower-case digits behind `0x`, the sign and the mark counted in the width. -/
def marked (width : Nat) (n : Int) : String :=
  let s := sign n
  String.ofList (s ++ ['0', 'x'] ++ fill (width - s.length - 2) (digits n.natAbs))

end Hex

end Chip8
