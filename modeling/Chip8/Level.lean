import Chip8.Text.UpperCase

/-!
# Levels of notices

How urgent a notice is. A configuration names the level from which on notices
are shown; `Level.rank` is its number.
-/

namespace Chip8

/-- How urgent a notice is. -/
inductive Level where
  | debug
  | info
  | warning
  | error
  | critical
  deriving DecidableEq, Repr

namespace Level

/-- The levels, the least urgent first. -/
def all : List Level := [debug, info, warning, error, critical]

/-- The level's name. -/
def name : Level → String
  | debug => "DEBUG"
  | info => "INFO"
  | warning => "WARNING"
  | error => "ERROR"
  | critical => "CRITICAL"

/-- The level's number. -/
def rank : Level → Nat
  | debug => 10
  | info => 20
  | warning => 30
  | error => 40
  | critical => 50

/-- The level of a name. -/
def ofName? (name : String) : Option Level :=
  all.find? (·.name = name)

/-- The number of a level or of one of the other names for a number, in any letter case; of
any other name, the name in upper case. -/
def rankOfName (name : String) : Except String Nat :=
  let key := UpperCase.ofString name
  match ofName? key with
  | some level => .ok level.rank
  | none =>
    if key = "WARN" then .ok warning.rank
    else if key = "FATAL" then .ok critical.rank
    else if key = "NOTSET" then .ok 0
    else .error key

/-- What is said about a name that is not known. -/
def unknownMessage (key : String) : String :=
  "module 'logging' has no attribute '" ++ key ++ "'"

end Level

end Chip8
