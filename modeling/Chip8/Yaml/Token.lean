import Chip8.Yaml.Plain
import Chip8.Yaml.Quotation

/-!
# Tokens of a YAML text

A YAML text as the sequence of its tokens. Most of the structure is in the
indentation: a deeper column opens a block, a return to an earlier column
closes the blocks in between.

That a text is a key is only known when its colon is reached. So each token that
may begin a key on one line is remembered as a `Candidate`, one for each level of
brackets, and the key token is put in front of it afterwards.

- `Token.ofText`: the tokens of a text.
-/

namespace Chip8.Yaml

/-- The tokens. -/
inductive Token where
  | documentStart
  | documentEnd
  /-- A list of indented items begins. -/
  | blockList
  /-- A mapping of indented entries begins. -/
  | blockMap
  | blockEnd
  | openList
  | closeList
  | openMap
  | closeMap
  | comma
  /-- The hyphen of an item. -/
  | item
  | key
  /-- The colon before a value. -/
  | value
  /-- A text, quoted or plain. -/
  | text (s : String) (isPlain : Bool)
  deriving DecidableEq, Repr

/-- A token that is a key if a colon follows on its line. -/
structure Candidate where
  /-- Its place among the tokens. -/
  token : Nat
  /-- It can be nothing but a key. -/
  required : Bool
  /-- The number of characters before it. -/
  offset : Nat
  place : Line.Place
  deriving Repr

/-- How far a text has been read. -/
structure Lexer where
  rest : List Char
  /-- The number of characters read. -/
  offset : Nat := 0
  place : Line.Place := {}
  tokens : Array Token := #[]
  /-- The column of the innermost block, and of those around it. -/
  indent : Int := -1
  outer : List Int := []
  /-- A key may begin here. -/
  mayBeKey : Bool := true
  /-- The candidates, a place for each level of brackets, the innermost first. -/
  candidates : List (Option Candidate) := [none]
  deriving Repr

namespace Lexer

/-- Inside brackets indentation does not count. -/
def inFlow (l : Lexer) : Bool :=
  1 < l.candidates.length

/-- Takes characters up to `rest`, a later part of the text. -/
def goTo (l : Lexer) (rest : List Char) : Lexer :=
  let n := l.rest.length - rest.length
  { l with rest, offset := l.offset + n, place := Line.place n l.rest l.place }

/-- Takes `n` characters. -/
def skip (l : Lexer) (n : Nat) : Lexer :=
  l.goTo (l.rest.drop n)

/-- Adds a token. -/
def push (l : Lexer) (t : Token) : Lexer :=
  { l with tokens := l.tokens.push t }

/-- Puts a token in front of the `i`-th. -/
def insert (l : Lexer) (i : Nat) (t : Token) : Lexer :=
  { l with tokens := l.tokens.extract 0 i ++ #[t] ++ l.tokens.extract i l.tokens.size }

/-- Skips spaces, comments and line breaks. Outside of brackets a key may begin on a new line. -/
def skipBlank : Nat → Lexer → Lexer
  | 0, l => l
  | fuel + 1, l =>
    let l := l.goTo (l.rest.dropWhile (· = ' '))
    let l := if l.rest.head? = some '#' then l.goTo (l.rest.dropWhile (!Line.isBreak ·)) else l
    match Line.takeBreak l.rest with
    | none => l
    | some (_, rest) =>
      let l := l.goTo rest
      skipBlank fuel (if l.inFlow then l else { l with mayBeKey := true })

/-- A candidate is given up when its line is over or after 1024 characters. -/
def isStale (l : Lexer) (c : Candidate) : Bool :=
  c.place.line ≠ l.place.line || 1024 < l.offset - c.offset

/-- Gives up the candidates that are out of reach; one that had to be a key is an error. -/
def dropStale (l : Lexer) : Except YamlError Lexer :=
  if l.candidates.any (·.any fun c => l.isStale c && c.required) then .error .missingColon
  else .ok { l with candidates := l.candidates.map (·.filter fun c => !l.isStale c) }

/-- Gives up the innermost candidate. -/
def dropCandidate (l : Lexer) : Except YamlError Lexer :=
  match l.candidates with
  | some c :: outer =>
    if c.required then .error .missingColon else .ok { l with candidates := none :: outer }
  | _ => .ok l

/-- Remembers the token that comes next as a candidate, if a key may begin here. -/
def addCandidate (l : Lexer) : Except YamlError Lexer :=
  if l.mayBeKey then do
    let required := !l.inFlow && l.indent = l.place.column
    let l ← l.dropCandidate
    let candidate : Candidate := ⟨l.tokens.size, required, l.offset, l.place⟩
    return { l with candidates := some candidate :: l.candidates.tail }
  else .ok l

/-- Closes the blocks that are indented further than `column`. -/
def closeBlocks (column : Int) : List Int → Lexer → Lexer
  | [], l => l
  | i :: outer, l =>
    if column < l.indent then
      closeBlocks column outer { (l.push .blockEnd) with indent := i, outer := outer }
    else l

/-- Outside of brackets, closes the blocks that are indented further than `column`. -/
def unwind (l : Lexer) (column : Int) : Lexer :=
  if l.inFlow then l else closeBlocks column l.outer l

/-- Opens a block at `column` if it is indented further than the innermost one; its token goes in
front of the `i`-th. -/
def openBlock (l : Lexer) (column : Int) (i : Nat) (t : Token) : Lexer :=
  if l.indent < column then
    { (l.insert i t) with indent := column, outer := l.indent :: l.outer }
  else l

/-- Outside of brackets, an item, key or value needs a place where a key may begin, and may open a
block. -/
def beginEntry (l : Lexer) (block : Token) : Except YamlError Lexer :=
  if l.inFlow then .ok l
  else if l.mayBeKey then .ok (l.openBlock l.place.column l.tokens.size block)
  else .error .misplaced

/-- A document marker closes all blocks. -/
def marker (l : Lexer) (t : Token) : Except YamlError Lexer := do
  let l := l.unwind (-1)
  let l ← l.dropCandidate
  return { (l.push t).skip 3 with mayBeKey := false }

/-- An opening bracket may begin a key. -/
def openBracket (l : Lexer) (t : Token) : Except YamlError Lexer := do
  let l ← l.addCandidate
  return { (l.push t).skip 1 with mayBeKey := true, candidates := none :: l.candidates }

/-- A closing bracket needs an open one. -/
def closeBracket (l : Lexer) (t : Token) : Except YamlError Lexer := do
  let l ← l.dropCandidate
  if l.inFlow then
    return { (l.push t).skip 1 with mayBeKey := false, candidates := l.candidates.tail }
  else throw .unexpectedToken

/-- A comma between items. -/
def comma (l : Lexer) : Except YamlError Lexer := do
  let l ← l.dropCandidate
  return { (l.push .comma).skip 1 with mayBeKey := true }

/-- The hyphen of an item. -/
def item (l : Lexer) : Except YamlError Lexer := do
  let l ← l.beginEntry .blockList
  let l ← l.dropCandidate
  return { (l.push .item).skip 1 with mayBeKey := true }

/-- The question mark of a key. -/
def key (l : Lexer) : Except YamlError Lexer := do
  let l ← l.beginEntry .blockMap
  let l ← l.dropCandidate
  return { (l.push .key).skip 1 with mayBeKey := !l.inFlow }

/-- The colon of a value. If there is a candidate it is a key and gets its token now. -/
def value (l : Lexer) : Except YamlError Lexer := do
  match l.candidates with
  | some c :: outer =>
    let l := { l with candidates := none :: outer }
    let l := l.insert c.token .key
    let l := if l.inFlow then l else l.openBlock c.place.column c.token .blockMap
    return { (l.push .value).skip 1 with mayBeKey := false }
  | _ =>
    let l ← l.beginEntry .blockMap
    let l ← l.dropCandidate
    return { (l.push .value).skip 1 with mayBeKey := !l.inFlow }

/-- A quotation. -/
def quotation (l : Lexer) (quote : Char) : Except YamlError Lexer := do
  let l ← l.addCandidate
  let (s, rest) ← Quotation.read quote (l.rest.drop 1)
  return { (l.push (.text (String.ofList s) false)).goTo rest with mayBeKey := false }

/-- A plain text. A key may follow it if a line break was taken behind it. -/
def plain (l : Lexer) : Except YamlError Lexer := do
  let l ← l.addCandidate
  let (s, newLine, rest) := Plain.read l.inFlow (l.indent + 1) l.rest
  return { (l.push (.text (String.ofList s) true)).goTo rest with mayBeKey := newLine }

/-- Reads the token at the front, which begins with `c`. -/
def token (l : Lexer) (c : Char) (cs : List Char) : Except YamlError Lexer :=
  let atStart := l.place.column = 0
  let wordEnds := Line.endsWord cs
  if atStart && c = '%' then .error (.unsupported c)
  else if atStart && c = '-' && Line.atMarker l.rest then l.marker .documentStart
  else if atStart && c = '.' && Line.atMarker l.rest then l.marker .documentEnd
  else if c = '[' then l.openBracket .openList
  else if c = '\x7b' then l.openBracket .openMap
  else if c = ']' then l.closeBracket .closeList
  else if c = '\x7d' then l.closeBracket .closeMap
  else if c = ',' then l.comma
  else if c = '-' && wordEnds then l.item
  else if c = '?' && (l.inFlow || wordEnds) then l.key
  else if c = ':' && (l.inFlow || wordEnds) then l.value
  else if c = '*' then .error .unknownAlias
  else if c = '&' || c = '!' then .error (.unsupported c)
  else if (c = '|' || c = '>') && !l.inFlow then .error (.unsupported c)
  else if c = '\'' || c = '"' then l.quotation c
  else if Plain.begins l.inFlow l.rest then l.plain
  else .error (.stray c)

/-- Reads all tokens. Every token takes at least one character. -/
def readAll : Nat → Lexer → Except YamlError Lexer
  | 0, l => .ok l
  | fuel + 1, l => do
    let l ← (l.skipBlank (l.rest.length + 1)).dropStale
    let l := l.unwind l.place.column
    match l.rest with
    | [] => (l.unwind (-1)).dropCandidate
    | c :: cs => readAll fuel (← l.token c cs)

end Lexer

namespace Token

/-- The characters that may stand in a text. -/
def isAllowed (c : Char) : Bool :=
  let n := c.toNat
  n = 0x09 || n = 0x0A || n = 0x0D || (0x20 ≤ n && n ≤ 0x7E) || n = 0x85 ||
    (0xA0 ≤ n && n ≤ 0xD7FF) || (0xE000 ≤ n && n ≤ 0xFFFD) || 0x10000 ≤ n

/-- The tokens of a text. A byte order mark at its beginning does not count. -/
def ofText (text : String) : Except YamlError (List Token) :=
  let cs := text.toList
  match cs.find? (!isAllowed ·) with
  | some c => .error (.unprintable c)
  | none => do
    let cs := if cs.head?.any (·.toNat = 0xFEFF) then cs.tail else cs
    let l ← Lexer.readAll (cs.length + 1) { rest := cs }
    return l.tokens.toList

end Token

end Chip8.Yaml
