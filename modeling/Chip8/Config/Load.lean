import Chip8.Config
import Chip8.Numeral
import Chip8.Value

/-!
# Reading a configuration from a tree

A tree is a configuration if it is a mapping whose entries, where present, are
well formed; what is missing has its default value, and entries of other names
do not count. The entries are looked at in a fixed order, and the first fault
found refuses the tree.

- `Config.ofValue`: the configuration of a tree.
- `Config.ofDocument`: the same, where a tree that counts as nothing is an empty mapping.
- `ConfigError.message`: what is said about a tree that is refused.
-/

namespace Chip8

/-- Why a tree is no configuration. -/
inductive ConfigError where
  /-- The root is not a mapping. -/
  | root (kind : String)
  /-- A tree that cannot be an integer. -/
  | notInteger (value : Value)
  /-- A text that is no integer. -/
  | numeral (cause : NumeralError)
  /-- An entry that has to be positive. -/
  | notPositive (name : String) (value : Int)
  /-- An entry that has to be a truth value. -/
  | notBool (name : String) (value : Value)
  /-- A name, in upper case, that is no level's. -/
  | level (name : String)
  /-- The colors are not a mapping. -/
  | colors (kind : String)
  /-- A tree that is no color. -/
  | color (value : Value)
  /-- The key names are not a mapping. -/
  | keymap (kind : String)
  /-- A key code outside 0..15. -/
  | keyCode (name : String) (code : Int)
  /-- An integer that is too long to be written out, where a tree is to be shown. -/
  | unwritable

/-- What is said about each cause. -/
def ConfigError.message : ConfigError → String
  | root kind => s!"Config root must be a mapping, got {kind}"
  | notInteger value => "Invalid integer format: " ++ value.text
  | numeral cause => cause.message
  | notPositive name value => s!"{name} must be positive, got {value}"
  | notBool name value => s!"{name} must be true or false, got " ++ value.quoted
  | level name => s!"Invalid log_level: {name}"
  | colors kind => s!"colors must be a mapping, got {kind}"
  | color value => "Invalid color: " ++ value.text
  | keymap kind => s!"'{kind}' object has no attribute 'items'"
  | keyCode name code => s!"Key code for '{name}' must be 0-15, got {code}"
  | unwritable =>
    "Exceeds the limit (4300 digits) for integer string conversion; " ++
      "use sys.set_int_max_str_digits() to increase the limit"

/-- The cause of a refusal that shows a tree, if the tree can be shown. -/
def ConfigError.showing (v : Value) (cause : ConfigError) : ConfigError :=
  if v.isWritable then cause else unwritable

namespace Config

/-- The entries of a mapping. -/
abbrev Tree := List (Scalar × Value)

/-- The entry under a scalar. -/
def entry? (key : Scalar) (t : Tree) : Option Value :=
  Entries.get? Scalar.same key t

/-- The entry of a name. -/
def named? (name : String) (t : Tree) : Option Value :=
  entry? (.text name) t

/-- The integer of a tree: a number or a numeral. -/
def integer : Value → Except ConfigError Int
  | .scalar (.int n) => .ok n
  | .scalar (.text s) => (Numeral.read s).mapError .numeral
  | v => .error (.showing v (.notInteger v))

/-- A positive integer entry. -/
def positive (t : Tree) (name : String) (default : Int) : Except ConfigError Int :=
  match named? name t with
  | none => .ok default
  | some v => do
    let n ← integer v
    if 0 < n then return n else throw (.showing (.scalar (.int n)) (.notPositive name n))

/-- The seed; null is no seed. -/
def seedOf (t : Tree) : Except ConfigError (Option Int) :=
  match named? "seed" t with
  | none | some (.scalar .null) => .ok none
  | some v => do return some (← integer v)

/-- The level, by its name in any letter case. -/
def levelOf (t : Tree) (default : Level) : Except ConfigError Level :=
  match named? "log_level" t with
  | none => .ok default
  | some v =>
    let name := UpperCase.ofString v.text
    match Level.ofName? name with
    | some level => .ok level
    | none => .error (.showing v (.level name))

/-- A color of three or four channels; the fourth is full opacity if it is missing. -/
def color (v : Value) : Except ConfigError Color :=
  match v with
  | .list items => do
    let channels ← items.mapM integer
    let channels := if channels.length = 3 then channels ++ [255] else channels
    match channels.mapM Byte.ofInt? with
    | some [red, green, blue, opacity] => return ⟨red, green, blue, opacity⟩
    | _ => throw (.showing v (.color v))
  | v => .error (.showing v (.color v))

/-- A color under its name or under the truth value that the name, unquoted, reads as; the
name comes first. -/
def colorOf (t : Tree) (name : String) (truth : Bool) (default : Color) :
    Except ConfigError Color :=
  match (named? name t).orElse (fun _ => entry? (.bool truth) t) with
  | none => .ok default
  | some v => color v

/-- The two colors. A tree that counts as nothing leaves both as they are. -/
def colorsOf (t : Tree) (lit dark : Color) : Except ConfigError (Color × Color) :=
  match named? "colors" t with
  | none => .ok (lit, dark)
  | some v =>
    if v.isNothing then .ok (lit, dark)
    else
      match v with
      | .map colors => do
        let lit ← colorOf colors "on" true lit
        let dark ← colorOf colors "off" false dark
        return (lit, dark)
      | v => .error (.colors v.kind)

/-- Puts a code under the upper case of a name. -/
def bind (keys : Keymap) (name : String) (code : Int) : Keymap :=
  Entries.put (· = ·) (UpperCase.ofString name) code keys

/-- Binds the keys of a mapping one after another. -/
def bindAll (keys : Keymap) : Tree → Except ConfigError Keymap
  | [] => .ok keys
  | (key, v) :: rest => do
    let code ← integer v
    if !key.isWritable then throw .unwritable
    else if 0 ≤ code ∧ code ≤ 15 then bindAll (bind keys key.plain code) rest
    else throw (.showing (.scalar (.int code)) (.keyCode key.plain code))

/-- The keys: those of the tree on top of the given ones. -/
def keysOf (t : Tree) (keys : Keymap) : Except ConfigError Keymap :=
  match named? "keymap" t with
  | none => .ok keys
  | some v =>
    if v.isNothing then .ok keys
    else
      match v with
      | .map entries => bindAll keys entries
      | v => .error (.keymap v.kind)

/-- The choice of the dialect. -/
def dialectOf (t : Tree) (default : Bool) : Except ConfigError Bool :=
  match named? "quirks" t with
  | none => .ok default
  | some (.scalar (.bool b)) => .ok b
  | some v => .error (.showing v (.notBool "quirks" v))

/-- The configuration of a tree. -/
def ofValue : Value → Except ConfigError Config
  | .map t => do
    let default : Config := {}
    let stepRate ← positive t "step_rate" default.stepRate
    let frameRate ← positive t "frame_rate" default.frameRate
    let scale ← positive t "scale" default.scale
    let seed ← seedOf t
    let level ← levelOf t default.level
    let (lit, dark) ← colorsOf t default.lit default.dark
    let keymap ← keysOf t default.keymap
    let fullDialect ← dialectOf t default.fullDialect
    return { fullDialect, stepRate, frameRate, scale, seed, level, lit, dark, keymap }
  | v => .error (.root v.kind)

/-- The configuration of a document's tree: one that counts as nothing chooses nothing. -/
def ofDocument (v : Value) : Except ConfigError Config :=
  ofValue (if v.isNothing then .map [] else v)

end Config

end Chip8
