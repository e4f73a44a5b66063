import Chip8.Text.Hex
import Chip8.Text.Printable

/-!
# Quoted text

A text between quotation marks, with everything that is not printable written
as an escape. The mark is an apostrophe, unless the text has an apostrophe and
no double quote.
-/

namespace Chip8

namespace Quoted

/-- The mark that a text is quoted with. -/
def mark (cs : List Char) : Char :=
  if cs.contains '\'' && !cs.contains '"' then '"' else '\''

/-- An escape: a letter and a number of hexadecimal digits. -/
def escape (letter : Char) (width : Nat) (c : Char) : List Char :=
  '\\' :: letter :: Hex.fill width (Hex.digits c.toNat)

/-- One character between marks `m`. -/
def encodeChar (m c : Char) : List Char :=
  if c = m || c = '\\' then ['\\', c]
  else if c = '\t' then ['\\', 't']
  else if c = '\n' then ['\\', 'n']
  else if c = '\r' then ['\\', 'r']
  else if Printable.isPrintable c then [c]
  else if c.toNat ≤ 0xFF then escape 'x' 2 c
  else if c.toNat ≤ 0xFFFF then escape 'u' 4 c
  else escape 'U' 8 c

/-- The quotation of a sequence of characters. -/
def encode (cs : List Char) : List Char :=
  let m := mark cs
  m :: cs.flatMap (encodeChar m) ++ [m]

/-- The quotation of a text. -/
def ofString (s : String) : String :=
  String.ofList (encode s.toList)

end Quoted

end Chip8
