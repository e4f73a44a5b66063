import Chip8.Level
import Chip8.Text.Digit
import Chip8.Text.Quoted

/-!
# The command line

The arguments of the program: the path of a program image, and options in any
order. Long options may be cut to any beginning, short ones joined; a value
follows its option or is part of the same argument; two hyphens end the
options.

An argument is first classified on its own (`Part`). Then the parts are read
from left to right, and the first thing wrong ends the reading.

- `Options.parse`: the options of a list of arguments, or the end of the program.
- `UsageError.message`: what is said about wrong arguments.
-/

namespace Chip8

/-- An option of the program. -/
inductive Switch where
  | help
  | dialect
  | config
  | level
  deriving DecidableEq, Repr

namespace Switch

/-- The spellings of the options, in the order in which they are listed. -/
def spellings : List (String × Switch) :=
  [ ("-h", help), ("--help", help), ("-q", dialect), ("--quirks", dialect),
    ("-c", config), ("--config", config), ("--log-level", level) ]

/-- The option with this spelling. -/
def ofSpelling? (s : String) : Option Switch :=
  (spellings.find? (·.1 = s)).map (·.2)

/-- All spellings of an option, as messages name it. -/
def title (o : Switch) : String :=
  String.intercalate "/" ((spellings.filter (·.2 = o)).map (·.1))

/-- A value belongs to the option. -/
def takesValue : Switch → Bool
  | help | dialect => false
  | config | level => true

end Switch

/-- Wrong arguments. -/
inductive UsageError where
  /-- The beginning of several long options. -/
  | ambiguous (argument : String) (candidates : List String)
  /-- A value for an option that takes none. -/
  | ignoredValue (option : Switch) (value : String)
  /-- No value for an option that takes one. -/
  | missingValue (option : Switch)
  /-- A level that does not exist. -/
  | unknownLevel (name : String)
  /-- No path. -/
  | missingPath
  /-- Arguments that nothing can be done with. -/
  | unrecognized (arguments : List String)
  deriving DecidableEq, Repr

/-- What is said about wrong arguments. -/
def UsageError.message : UsageError → String
  | ambiguous argument candidates =>
    "ambiguous option: " ++ argument ++ " could match " ++ String.intercalate ", " candidates
  | ignoredValue option value =>
    "argument " ++ option.title ++ ": ignored explicit argument " ++ Quoted.ofString value
  | missingValue option => "argument " ++ option.title ++ ": expected one argument"
  | unknownLevel name =>
    "argument " ++ Switch.level.title ++ ": invalid choice: " ++ Quoted.ofString name ++
      " (choose from " ++ String.intercalate ", " (Level.all.map (Quoted.ofString ·.name)) ++ ")"
  | missingPath => "the following arguments are required: path"
  | unrecognized arguments => "unrecognized arguments: " ++ String.intercalate " " arguments

/-- The program's end before it has begun: what it prints and its exit code. -/
structure Exit where
  code : Nat
  output : String
  errors : String
  deriving DecidableEq, Repr

namespace Exit

/-- How the program is to be called. -/
def usage : String :=
  "usage: chip8-tracer [-h] [-q] [-c FILE]\n" ++
  "                    [--log-level \x7bDEBUG,INFO,WARNING,ERROR,CRITICAL\x7d]\n" ++
  "                    path\n"

/-- What the program does and what its arguments mean. -/
def help : String :=
  usage ++ "\nCHIP-8 virtual machine\n\n" ++
  "positional arguments:\n" ++
  "  path                  Path to a file containing CHIP-8 bytecode\n\n" ++
  "options:\n" ++
  "  -h, --help            show this help message and exit\n" ++
  "  -q, --quirks          Activate quirks mode (required for some games to work)\n" ++
  "  -c FILE, --config FILE\n" ++
  "                        YAML configuration file\n" ++
  "  --log-level \x7bDEBUG,INFO,WARNING,ERROR,CRITICAL\x7d\n" ++
  "                        Logging level (overrides the configuration file)\n"

/-- The end after the help was asked for. -/
def ofHelp : Exit := ⟨0, help, ""⟩

/-- The end because of wrong arguments. -/
def ofError (e : UsageError) : Exit :=
  ⟨2, "", usage ++ "chip8-tracer: error: " ++ e.message ++ "\n"⟩

end Exit

/-- What an option was given as its value. -/
inductive Given (α : Type) where
  /-- The option does not occur. -/
  | absent
  /-- The option was given the mark that ends the options, which is no value. -/
  | nothing
  | value (a : α)
  deriving DecidableEq, Repr

/-- What the arguments choose. -/
structure Options where
  path : String
  fullDialect : Bool
  config : Given String
  level : Given Level
  deriving DecidableEq, Repr

namespace CommandLine

/-- An option as it is spelled in an argument. -/
structure Spelled where
  switch : Switch
  /-- Spelled with one hyphen and a letter. -/
  isShort : Bool
  /-- What follows in the same argument. -/
  value : Option (List Char)
  deriving DecidableEq, Repr

/-- An argument, classified on its own. -/
inductive Part where
  /-- Not an option. -/
  | operand (text : String)
  /-- The mark that ends the options. -/
  | endMark
  /-- An option of the program, or an argument that looks like an option and is none. -/
  | option (text : String) (spelled : Option Spelled)
  deriving DecidableEq, Repr

/-- A decimal digit of any script. -/
def isDigit (c : Char) : Bool :=
  ('0' ≤ c && c ≤ '9') || (Digit.decimal? c).isSome

/-- A hyphen and digits, perhaps with a point before the last of them; a line feed at the end does
not count. -/
def looksNegative (cs : List Char) : Bool :=
  match cs with
  | '-' :: body =>
    let body := if body.getLast? = some '\n' then body.dropLast else body
    let rest := body.dropWhile isDigit
    match rest with
    | [] => !body.isEmpty
    | '.' :: ds => !ds.isEmpty && ds.all isDigit
    | _ => false
  | _ => false

/-- Splits at the first equals sign, if there is one. -/
def splitValue (cs : List Char) : List Char × Option (List Char) :=
  match cs.dropWhile (· ≠ '=') with
  | _ :: value => (cs.takeWhile (· ≠ '='), some value)
  | [] => (cs, none)

/-- The options that an argument with two hyphens may be the beginning of. -/
def longMatches (cs : List Char) : List (String × Spelled) :=
  let (beginning, value) := splitValue cs
  (Switch.spellings.filter fun s => beginning.isPrefixOf s.1.toList).map
    fun (name, switch) => (name, ⟨switch, false, value⟩)

/-- The option that an argument with one hyphen begins with. -/
def shortMatches (cs : List Char) : List (String × Spelled) :=
  (Switch.spellings.filter fun s => s.1.toList = cs.take 2).map
    fun (name, switch) => (name, ⟨switch, true, some (cs.drop 2)⟩)

/-- The option that an argument spells in full, with or without an equals sign and a value. -/
def fullMatch? (cs : List Char) : Option Spelled :=
  let isShort := cs.take 2 ≠ ['-', '-']
  match Switch.ofSpelling? (String.ofList cs) with
  | some switch => some ⟨switch, isShort, none⟩
  | none =>
    let (name, value) := splitValue cs
    match value, Switch.ofSpelling? (String.ofList name) with
    | some value, some switch => some ⟨switch, isShort, some value⟩
    | _, _ => none

/-- Classifies one argument before the end of the options. -/
def classify (argument : String) : Except UsageError Part :=
  match argument.toList with
  | '-' :: second :: rest =>
    let cs := '-' :: second :: rest
    match fullMatch? cs with
    | some spelled => .ok (.option argument spelled)
    | none =>
      match if second = '-' then longMatches cs else shortMatches cs with
      | [(_, spelled)] => .ok (.option argument spelled)
      | [] =>
        if looksNegative cs || cs.contains ' ' then .ok (.operand argument)
        else .ok (.option argument none)
      | several => .error (.ambiguous argument (several.map (·.1)))
  | _ => .ok (.operand argument)

/-- Classifies all arguments. -/
def classifyAll : List String → Except UsageError (List Part)
  | [] => .ok []
  | argument :: rest =>
    if argument = "--" then .ok (.endMark :: rest.map .operand)
    else do
      let part ← classify argument
      return part :: (← classifyAll rest)

/-- Reads the options that are joined in one argument: those without a value, in order, and the
last, with what is left for its value. -/
def unjoin (option : Switch) (isShort : Bool) :
    List Char → Except UsageError (List Switch × Switch × Option (List Char))
  | [] =>
    if option.takesValue then .ok ([], option, some [])
    else .error (.ignoredValue option "")
  | c :: cs =>
    if option.takesValue then .ok ([], option, some (c :: cs))
    else
      match isShort, Switch.ofSpelling? (String.ofList ['-', c]) with
      | true, some next =>
        if cs.isEmpty then .ok ([option], next, none)
        else (unjoin next true cs).map fun (flags, last) => (option :: flags, last)
      | _, _ => .error (.ignoredValue option (String.ofList (c :: cs)))

/-- What has been read so far. -/
structure Progress where
  path : Option String := none
  fullDialect : Bool := false
  config : Given String := .absent
  level : Given Level := .absent
  /-- Arguments that nothing could be done with. -/
  extras : List String := []

/-- Carries out an option without a value. -/
def setFlag (p : Progress) (option : Switch) : Except Exit Progress :=
  match option with
  | .help => .error Exit.ofHelp
  | .dialect => .ok { p with fullDialect := true }
  | _ => .ok p

/-- Carries out several options without a value. -/
def setFlags (p : Progress) (options : List Switch) : Except Exit Progress :=
  options.foldlM setFlag p

/-- Carries out an option with a value. -/
def setValue (p : Progress) (option : Switch) (value : String) : Except Exit Progress :=
  match option with
  | .config => .ok { p with config := if value = "--" then .nothing else .value value }
  | .level =>
    if value = "--" then .ok { p with level := .nothing }
    else
      let name := UpperCase.ofString value
      match Level.ofName? name with
      | some level => .ok { p with level := .value level }
      | none => .error (Exit.ofError (.unknownLevel name))
  | _ => .ok p

/-- Reads the parts from left to right. An operand is the path if there is none yet, together with
the end mark beside it. -/
def readParts (p : Progress) : List Part → Except Exit Progress
  | [] => .ok p
  | .operand text :: rest =>
    match p.path, rest with
    | none, .endMark :: rest => readParts { p with path := some text } rest
    | none, rest => readParts { p with path := some text } rest
    | some _, rest => readParts { p with extras := p.extras ++ [text] } rest
  | .endMark :: rest =>
    match p.path, rest with
    | none, .operand text :: rest => readParts { p with path := some text } rest
    | _, rest => readParts { p with extras := p.extras ++ ["--"] } rest
  | .option text none :: rest => readParts { p with extras := p.extras ++ [text] } rest
  | .option _ (some spelled) :: rest => do
    let (flags, last, value) ←
      match spelled.value with
      | none => pure ([], spelled.switch, none)
      | some cs => (unjoin spelled.switch spelled.isShort cs).mapError Exit.ofError
    match last.takesValue, value, rest with
    | false, _, rest =>
      let p ← setFlags p (flags ++ [last])
      readParts p rest
    | true, some cs, rest =>
      let p ← setFlags p flags
      let p ← setValue p last (String.ofList cs)
      readParts p rest
    | true, none, .operand text :: rest =>
      let p ← setFlags p flags
      let p ← setValue p last text
      readParts p rest
    | true, none, _ => throw (Exit.ofError (.missingValue last))
  termination_by parts => parts.length
  decreasing_by all_goals (simp only [wfParam, List.length_cons]; omega)

end CommandLine

/-- The options of a list of arguments, or the end of the program. -/
def Options.parse (arguments : List String) : Except Exit Options := do
  let parts ← (CommandLine.classifyAll arguments).mapError Exit.ofError
  let p ← CommandLine.readParts {} parts
  match p.path with
  | none => throw (Exit.ofError .missingPath)
  | some path =>
    if p.extras.isEmpty then return ⟨path, p.fullDialect, p.config, p.level⟩
    else throw (Exit.ofError (.unrecognized p.extras))

end Chip8
