/-!
# Lines of a YAML text

Line breaks and what may stand around them. Where a text is read as a list of
characters, the empty list is the end of the text.

- `Line.isBreak`, `Line.takeBreak`: line breaks, of which most count as a line feed.
- `Line.endsWord`: a blank, a line break or the end of the text comes next.
- `Line.atMarker`: a line begins with a document marker.
- `Line.place`: the line and column after some characters.
-/

namespace Chip8.Yaml

namespace Line

/-- Carriage return, line feed, next line, line separator and paragraph separator. -/
def isBreak (c : Char) : Bool :=
  let n := c.toNat
  n = 0x0A || n = 0x0D || n = 0x85 || n = 0x2028 || n = 0x2029

/-- Space and tab. -/
def isSpace (c : Char) : Bool :=
  c = ' ' || c = '\t'

/-- The line break at the front, if there is one, and what follows it. A carriage return, with or
without a line feed, and a next line count as a line feed. -/
def takeBreak : List Char → Option (Char × List Char)
  | '\r' :: '\n' :: cs => some ('\n', cs)
  | c :: cs =>
    if isBreak c then some (if c.toNat < 0x100 then '\n' else c, cs) else none
  | [] => none

/-- A word ends here. -/
def endsWord : List Char → Bool
  | [] => true
  | c :: _ => isSpace c || isBreak c

/-- Three hyphens or three points that are a word of their own. -/
def atMarker : List Char → Bool
  | '-' :: '-' :: '-' :: cs => endsWord cs
  | '.' :: '.' :: '.' :: cs => endsWord cs
  | _ => false

/-- A line and a column, both counted from zero. -/
structure Place where
  line : Nat := 0
  column : Nat := 0
  deriving DecidableEq, Repr

/-- The place after the first `n` characters. A line ends with its break; a byte order mark has
no width. -/
def place : Nat → List Char → Place → Place
  | 0, _, p => p
  | _, [], p => p
  | n + 1, c :: cs, p =>
    if isBreak c && !(c = '\r' && cs.head? = some '\n') then place n cs ⟨p.line + 1, 0⟩
    else if c.toNat = 0xFEFF then place n cs p
    else place n cs ⟨p.line, p.column + 1⟩

end Line

end Chip8.Yaml
