/-!
# Blanks

Two sets of blank characters: `isBlank`, the six that ASCII has between the
words of a text, and `isWideBlank`, those beyond ASCII that Unicode counts as
white space.
-/

namespace Chip8

namespace Blank

/-- Tab, line feed, vertical tab, form feed, carriage return and space. -/
def isBlank (c : Char) : Bool :=
  c = ' ' || (9 ≤ c.toNat && c.toNat ≤ 13)

/-- White space beyond ASCII. -/
def isWideBlank (c : Char) : Bool :=
  let n := c.toNat
  n = 0x85 || n = 0xA0 || n = 0x1680 || (0x2000 ≤ n && n ≤ 0x200A) || n = 0x2028 || n = 0x2029 ||
    n = 0x202F || n = 0x205F || n = 0x3000

end Blank

end Chip8
