import Chip8.Binary64.Read
import Chip8.Value
import Chip8.Yaml.Error

/-!
# What plain texts stand for

A plain text of a YAML document is null, a truth value, a number, or else
itself. Integers are written in base 2, 8, 10 or 16, or with colons between
digits of base 60; underscores among the digits do not count.

- `Resolve.scalar`: the scalar of a plain text.
-/

namespace Chip8.Yaml

namespace Resolve

/-- The texts for null. -/
def nulls : List String := ["", "~", "null", "Null", "NULL"]

/-- The texts for true. -/
def trues : List String := ["yes", "Yes", "YES", "true", "True", "TRUE", "on", "On", "ON"]

/-- The texts for false. -/
def falses : List String := ["no", "No", "NO", "false", "False", "FALSE", "off", "Off", "OFF"]

/-- Digits of a base and underscores, at least one of them. -/
def isRun (base : Nat) (cs : List Char) : Bool :=
  !cs.isEmpty && cs.all fun c => c = '_' || (Numeral.digit? base c).isSome

/-- Without the underscores. -/
def dropBars (cs : List Char) : List Char :=
  cs.filter (· ≠ '_')

/-- The integer of a run of digits. -/
def run (base : Nat) (cs : List Char) : Except YamlError Int :=
  (Numeral.readBase base (String.ofList (dropBars cs))).mapError .numeral

/-- Decimal digits, the first of them not an underscore. -/
def isDecimal (cs : List Char) : Bool :=
  isRun 10 cs && cs.head? ≠ some '_'

/-- The parts between colons; at least one. -/
def parts : List Char → List (List Char)
  | [] => [[]]
  | c :: cs =>
    if c = ':' then [] :: parts cs
    else
      match parts cs with
      | [] => [[c]]
      | p :: ps => (c :: p) :: ps

/-- One digit of base 60: below sixty, in one or two decimal digits. -/
def isSixty (cs : List Char) : Bool :=
  match cs with
  | [b] => b.isDigit
  | [a, b] => '0' ≤ a && a ≤ '5' && b.isDigit
  | _ => false

/-- The integer of digits of base 60. -/
def sixties (ps : List (List Char)) : Except YamlError Int := do
  let ns ← ps.mapM (run 10)
  return ns.foldl (fun n d => n * 60 + d) 0

/-- The integer of a text without its sign, if it has the form of one. -/
def unsigned? (cs : List Char) : Option (Except YamlError Int) :=
  match cs with
  | ['0'] => some (.ok 0)
  | '0' :: 'b' :: ds => if isRun 2 ds then some (run 2 ds) else none
  | '0' :: 'x' :: ds => if isRun 16 ds then some (run 16 ds) else none
  | '0' :: ds => if isRun 8 ds then some (run 8 ('0' :: ds)) else none
  | cs =>
    match parts cs with
    | [ds] => if isDecimal ds then some (run 10 ds) else none
    | first :: rest =>
      if isDecimal first && rest.all isSixty then some (sixties (first :: rest)) else none
    | [] => none

/-- The integer of a text, if it has the form of one. -/
def integer? (cs : List Char) : Option (Except YamlError Int) :=
  let (negative, cs) := Numeral.splitSign cs
  (unsigned? cs).map fun r => r.map fun n => if negative then -n else n

/-- An exponent with its sign, or nothing. -/
def isExponent (cs : List Char) : Bool :=
  match cs with
  | [] => true
  | e :: s :: ds => (e = 'e' || e = 'E') && (s = '+' || s = '-') && !ds.isEmpty && ds.all Char.isDigit
  | _ => false

/-- Digits or underscores, then perhaps an exponent. -/
def isFraction (cs : List Char) : Bool :=
  isExponent (cs.dropWhile fun c => c = '_' || c.isDigit)

/-- A number with a point: digits in front of it, or behind it if there is no sign. -/
def isPointed (cs : List Char) : Bool :=
  let body := (Numeral.splitSign cs).2
  match cs with
  | '.' :: ds => isDecimal (ds.take 1) && isFraction ds
  | _ =>
    match body.dropWhile (· ≠ '.') with
    | '.' :: ds => isDecimal (body.takeWhile (· ≠ '.')) && isFraction ds
    | _ => false

/-- The magnitude of digits of base 60, of which the last has a fraction: the products and sums
are rounded one after another, from the last digit on. -/
def sixtiesFloat (ps : List (List Char)) : Binary64 :=
  let step (acc : Option Nat × Nat) (p : List Char) : Option Nat × Nat :=
    let (sum, base) := acc
    let term := match Binary64.read? p with
      | some (.finite _ u) => Binary64.ofRatio (u * base) Binary64.one
      | _ => none
    (do Binary64.ofRatio ((← sum) + (← term)) Binary64.one, base * 60)
  match (ps.reverse.foldl step (some 0, 1)).1 with
  | some u => .finite false u
  | none => .infinite false

/-- The number with a point of digits of base 60, if the text has the form of one. -/
def pointedSixties? (cs : List Char) : Option Binary64 :=
  let (negative, body) := Numeral.splitSign cs
  match parts (body.takeWhile (· ≠ '.')), body.dropWhile (· ≠ '.') with
  | first :: second :: rest, '.' :: ds =>
    if isDecimal first && (second :: rest).all isSixty && ds.all (fun c => c = '_' || c.isDigit) then
      match sixtiesFloat (parts (dropBars body)) with
      | .finite _ u => some (.finite negative u)
      | _ => some (.infinite negative)
    else none
  | _, _ => none

/-- The floating-point number of a text, if it has the form of one. -/
def float? (cs : List Char) : Option Binary64 :=
  let (negative, body) := Numeral.splitSign cs
  if [".inf", ".Inf", ".INF"].contains (String.ofList body) then some (.infinite negative)
  else if [".nan", ".NaN", ".NAN"].contains (String.ofList cs) then some .nan
  else if isPointed cs then Binary64.read? (dropBars cs)
  else pointedSixties? cs

/-- The scalar of a plain text. The key that merges mappings is not read. -/
def scalar (s : String) : Except YamlError Scalar :=
  if s = "<<" then .error (.unsupported '<')
  else if nulls.contains s then .ok .null
  else if trues.contains s then .ok (.bool true)
  else if falses.contains s then .ok (.bool false)
  else
    match float? s.toList, integer? s.toList with
    | some x, _ => .ok (.float x)
    | none, some n => n.map .int
    | none, none => .ok (.text s)

end Resolve

end Chip8.Yaml
