import Chip8.Yaml.Error
import Chip8.Yaml.Line

/-!
# Quotations in a YAML text

A quotation may go over several lines: a single line break counts as a space,
of several the first is dropped, and blanks around them do not count. Between
apostrophes, two of them are one; between double quotes, a backslash begins an
escape.

- `Quotation.read`: the text of a quotation and what follows it.
-/

namespace Chip8.Yaml

namespace Quotation

/-- The character that a single letter behind a backslash stands for. -/
def escaped? (c : Char) : Option Char :=
  match c with
  | '0' => some (Char.ofNat 0x00)
  | 'a' => some (Char.ofNat 0x07)
  | 'b' => some (Char.ofNat 0x08)
  | 't' | '\t' => some '\t'
  | 'n' => some '\n'
  | 'v' => some (Char.ofNat 0x0B)
  | 'f' => some (Char.ofNat 0x0C)
  | 'r' => some '\r'
  | 'e' => some (Char.ofNat 0x1B)
  | ' ' | '"' | '\\' | '/' => some c
  | 'N' => some (Char.ofNat 0x85)
  | '_' => some (Char.ofNat 0xA0)
  | 'L' => some (Char.ofNat 0x2028)
  | 'P' => some (Char.ofNat 0x2029)
  | _ => none

/-- How many hexadecimal digits follow a letter behind a backslash. -/
def escapeWidth? (c : Char) : Option Nat :=
  match c with
  | 'x' => some 2
  | 'u' => some 4
  | 'U' => some 8
  | _ => none

/-- The character of an escape by number, from exactly `width` digits. -/
def numbered (width : Nat) (cs : List Char) : Except YamlError Char :=
  let ds := (cs.take width).filterMap (Numeral.digit? 16)
  let n := Numeral.value 16 ds
  if ds.length ≠ width then .error .badEscape
  else if 0x110000 ≤ n then .error (.codePoint n)
  else .ok (Char.ofNat n)

/-- The further breaks behind a line break: blank lines give their breaks, and the blanks in front
of the next word are dropped. At most `fuel` lines are gone over. -/
def breaks : Nat → List Char → Except YamlError (List Char × List Char)
  | 0, cs => .ok ([], cs)
  | fuel + 1, cs =>
    if Line.atMarker cs then .error .markerInQuote
    else
      let cs := cs.dropWhile Line.isSpace
      match Line.takeBreak cs with
      | none => .ok ([], cs)
      | some (b, cs) => do
        let (bs, cs) ← breaks fuel cs
        return (b :: bs, cs)

/-- What a line break `b` and the breaks `bs` behind it count as. -/
def fold (b : Char) (bs : List Char) : List Char :=
  if b ≠ '\n' then b :: bs
  else if bs.isEmpty then [' ']
  else bs

/-- Reads up to the closing quote; `out` holds what has been read, backwards. Every turn takes at
least one character, so a fuel of their number is enough. -/
def readOn (quote : Char) : Nat → List Char → List Char → Except YamlError (List Char × List Char)
  | 0, _, _ => .error .unclosedQuote
  | _, [], _ => .error .unclosedQuote
  | fuel + 1, c :: cs, out =>
    if c = quote then
      match quote, cs with
      | '\'', '\'' :: cs => readOn quote fuel cs ('\'' :: out)
      | _, _ => .ok (out.reverse, cs)
    else if c = '\\' ∧ quote = '"' then
      match cs with
      | [] => .error .badEscape
      | e :: rest =>
        match escaped? e, escapeWidth? e with
        | some d, _ => readOn quote fuel rest (d :: out)
        | none, some width => do
          let d ← numbered width rest
          readOn quote fuel (rest.drop width) (d :: out)
        | none, none =>
          match Line.takeBreak (e :: rest) with
          | none => .error .badEscape
          | some (_, rest) => do
            let (bs, rest) ← breaks (rest.length + 1) rest
            readOn quote fuel rest (bs.reverse ++ out)
    else if Line.isSpace c || Line.isBreak c then
      let blanks := (c :: cs).takeWhile Line.isSpace
      let rest := (c :: cs).dropWhile Line.isSpace
      match Line.takeBreak rest with
      | none => readOn quote fuel rest (blanks.reverse ++ out)
      | some (b, rest) => do
        let (bs, rest) ← breaks (rest.length + 1) rest
        readOn quote fuel rest ((fold b bs).reverse ++ out)
    else readOn quote fuel cs (c :: out)

/-- The text of a quotation whose opening `quote` has been taken, and what follows it. -/
def read (quote : Char) (cs : List Char) : Except YamlError (List Char × List Char) :=
  readOn quote (cs.length + 1) cs []

end Quotation

end Chip8.Yaml
