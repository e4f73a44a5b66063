import Chip8.Yaml.Line

/-!
# Plain texts in a YAML text

Texts without quotation marks. A plain text ends before a colon that ends a
word, before a comment, and, between brackets, before the characters that
structure lists and mappings. It goes on over line breaks, which count as in
quotations, as long as the lines are indented far enough.

- `Plain.begins`: a plain text begins here.
- `Plain.read`: a plain text and what follows it.
-/

namespace Chip8.Yaml

namespace Plain

/-- The characters that structure what is between brackets. -/
def isFlowMark (c : Char) : Bool :=
  c = ',' || c = '[' || c = ']' || c = '\x7b' || c = '\x7d'

/-- The characters that a plain text cannot begin with, unless as `begins` says. -/
def isIndicator (c : Char) : Bool :=
  "-?:,[]\x7b\x7d#&*!|>'\"%@\x60".toList.contains c

/-- A plain text begins here: not with a character that has a meaning of its own, except that a
hyphen, and outside of brackets a question mark or a colon, may be the beginning of a word. -/
def begins (inFlow : Bool) : List Char → Bool
  | [] => false
  | c :: cs =>
    (!Line.isSpace c && !Line.isBreak c && !isIndicator c) ||
      (!Line.endsWord cs && (c = '-' || (!inFlow && (c = '?' || c = ':'))))

/-- The text ends before this character. -/
def stopsAt (inFlow : Bool) (c : Char) (cs : List Char) : Bool :=
  Line.isSpace c || Line.isBreak c ||
    (c = ':' && (Line.endsWord cs || (inFlow && cs.head?.any isFlowMark))) ||
    (inFlow && (isFlowMark c || c = '?'))

/-- The words' characters at the front and what follows them. -/
def word (inFlow : Bool) : List Char → List Char × List Char
  | [] => ([], [])
  | c :: cs =>
    if stopsAt inFlow c cs then ([], c :: cs)
    else
      let (w, rest) := word inFlow cs
      (c :: w, rest)

/-- What lies between two words of a plain text. -/
structure Gap where
  /-- What it counts as; nothing if the text is over. -/
  text : List Char
  /-- A line break was taken. -/
  newLine : Bool
  /-- The column after the last line break. -/
  column : Nat
  rest : List Char

/-- The further breaks behind a line break, the column reached, and what follows. Nothing if a
document marker is found. -/
def breaks : Nat → Nat → List Char → List Char × Option Nat × List Char
  | 0, column, cs => ([], some column, cs)
  | fuel + 1, column, cs =>
    match cs with
    | ' ' :: cs => breaks fuel (column + 1) cs
    | cs =>
      match Line.takeBreak cs with
      | none => ([], some column, cs)
      | some (b, cs) =>
        if Line.atMarker cs then ([b], none, cs)
        else
          let (bs, column, rest) := breaks fuel 0 cs
          (b :: bs, column, rest)

/-- The gap at the front. -/
def gap (cs : List Char) : Gap :=
  let spaces := cs.takeWhile (· = ' ')
  let rest := cs.dropWhile (· = ' ')
  match Line.takeBreak rest with
  | none => ⟨spaces, false, 0, rest⟩
  | some (b, rest) =>
    if Line.atMarker rest then ⟨[], true, 0, rest⟩
    else
      match breaks (rest.length + 1) 0 rest with
      | (_, none, rest) => ⟨[], true, 0, rest⟩
      | (bs, some column, rest) =>
        let text := if b ≠ '\n' then b :: bs else if bs.isEmpty then [' '] else bs
        ⟨text, true, column, rest⟩

/-- Reads words and the gaps between them; lines have to begin at the column `indent` or further
right, unless between brackets. Tells also whether a line break was taken after the last word.
Every turn takes at least one character. -/
def readOn (inFlow : Bool) (indent : Int) : Nat → List Char → List Char → Bool →
    List Char × Bool × List Char
  | 0, cs, _, newLine => ([], newLine, cs)
  | fuel + 1, cs, before, newLine =>
    if cs.head? = some '#' then ([], newLine, cs)
    else
      match word inFlow cs with
      | ([], rest) => ([], newLine, rest)
      | (w, rest) =>
        let g := gap rest
        if g.text.isEmpty || g.rest.head? = some '#' ||
            (!inFlow && g.newLine && (g.column : Int) < indent) then
          (before ++ w, g.newLine, g.rest)
        else
          let (more, newLine, rest) := readOn inFlow indent fuel g.rest g.text g.newLine
          (before ++ w ++ more, newLine, rest)

/-- The plain text at the front, whether a line break was taken behind it, and what follows. -/
def read (inFlow : Bool) (indent : Int) (cs : List Char) : List Char × Bool × List Char :=
  readOn inFlow indent (cs.length + 1) cs [] false

end Plain

end Chip8.Yaml
