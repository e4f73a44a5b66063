import Chip8.Text.Blank
import Chip8.Text.Digit
import Chip8.Text.Quoted

/-!
# Integer numerals

Integers written as text, in base ten or sixteen. Blanks may surround a
numeral, a sign may precede it, single underscores may stand between its
digits, and decimal digits may come from any script. In base sixteen `0x` may
stand before the digits, and one underscore behind it.

- `Numeral.read`: the integer of a text.
- `NumeralError.message`: what is wrong with a text that is no numeral.
-/

namespace Chip8

/-- Why a text is not read as an integer. -/
inductive NumeralError where
  /-- The text is no numeral. -/
  | malformed (base : Nat) (text : String)
  /-- A decimal numeral of more than 4300 digits. -/
  | tooLong (digits : Nat)
  deriving DecidableEq, Repr

/-- What is said about it; of a long text only the first part of its quotation. -/
def NumeralError.message : NumeralError → String
  | malformed base text =>
    s!"invalid literal for int() with base {base}: " ++
      String.ofList ((Quoted.encode text.toList).take 200)
  | tooLong digits =>
    s!"Exceeds the limit (4300 digits) for integer string conversion: value has {digits} digits; " ++
      "use sys.set_int_max_str_digits() to increase the limit"

namespace Numeral

/-- How many digits a decimal numeral may have. -/
def maxDigits : Nat := 4300

/-- A text in ASCII: wide blanks become spaces and digits of all scripts ASCII digits. From the
first character on that is neither, nothing is left but a question mark. -/
def toAscii : List Char → List Char
  | [] => []
  | c :: cs =>
    if c.toNat < 0x80 then c :: toAscii cs
    else if Blank.isWideBlank c then ' ' :: toAscii cs
    else
      match Digit.decimal? c with
      | some d => Char.ofNat (48 + d) :: toAscii cs
      | none => ['?']

/-- The value of a digit of a base. -/
def digit? (base : Nat) (c : Char) : Option Nat :=
  (Digit.value? c).filter (· < base)

/-- The digits at the front of a text and what follows them, or nothing if an underscore does
not stand between two digits. `afterBar` says that a digit has to come next. -/
def digitRun (base : Nat) (afterBar : Bool) : List Char → Option (List Nat × List Char)
  | [] => if afterBar then none else some ([], [])
  | c :: cs =>
    if c = '_' then (if afterBar then none else digitRun base true cs)
    else
      match digit? base c with
      | some d => (digitRun base false cs).map fun (ds, rest) => (d :: ds, rest)
      | none => if afterBar then none else some ([], c :: cs)

/-- The number that digits stand for, the most significant first. -/
def value (base : Nat) (ds : List Nat) : Nat :=
  ds.foldl (fun n d => n * base + d) 0

/-- Takes a sign off: whether it was a minus, and what follows. -/
def splitSign : List Char → Bool × List Char
  | '-' :: cs => (true, cs)
  | '+' :: cs => (false, cs)
  | cs => (false, cs)

/-- Takes `0x` off, and one underscore behind it. -/
def dropMark : List Char → List Char
  | '0' :: x :: cs =>
    if x = 'x' ∨ x = 'X' then
      match cs with
      | '_' :: cs => cs
      | cs => cs
    else '0' :: x :: cs
  | cs => cs

/-- The integer of a text in base ten or sixteen. -/
def readBase (base : Nat) (text : String) : Except NumeralError Int :=
  let cs := (toAscii text.toList).dropWhile Blank.isBlank
  let (negative, cs) := splitSign cs
  match digitRun base true (if base = 16 then dropMark cs else cs) with
  | none => .error (.malformed base text)
  | some (ds, rest) =>
    if base = 10 ∧ maxDigits < ds.length then .error (.tooLong ds.length)
    else if rest.all Blank.isBlank then
      let n : Int := value base ds
      .ok (if negative then -n else n)
    else .error (.malformed base text)

/-- A text that begins with `0x` is in base sixteen. -/
def isMarked (cs : List Char) : Bool :=
  match cs with
  | '0' :: x :: _ => x = 'x' || x = 'X'
  | _ => false

/-- The integer of a text; its base is sixteen if it begins with `0x` and ten otherwise. -/
def read (text : String) : Except NumeralError Int :=
  readBase (if isMarked text.toList then 16 else 10) text

end Numeral

end Chip8
