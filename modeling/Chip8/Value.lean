import Chip8.Binary64.Shortest
import Chip8.Entries
import Chip8.Numeral
import Chip8.Text.Quoted

/-!
# Configuration trees

What a configuration text says, before it is known to be a configuration: null,
truth values, numbers and texts, lists of trees, and mappings from scalars to
trees.

- `Scalar.same`: equality of keys, under which `true` is the number one.
- `Value.ofPairs`: a mapping in which no two keys are the same.
- `Value.text`: a tree as it is shown in messages.
- `Value.isWritable`: whether it can be shown, as no number may be too long.
-/

namespace Chip8

/-- A tree without parts. -/
inductive Scalar where
  | null
  | bool (b : Bool)
  | int (n : Int)
  | float (x : Binary64)
  | text (s : String)
  deriving DecidableEq, Repr, Inhabited

namespace Scalar

/-- The integer that a truth value or an integer counts as. -/
def asInt? : Scalar → Option Int
  | bool b => some (if b then 1 else 0)
  | int n => some n
  | _ => none

/-- Whether two scalars are the same key. Numbers and truth values are compared as numbers. -/
def same (a b : Scalar) : Bool :=
  match a.asInt?, b.asInt? with
  | some m, some n => m = n
  | some m, none =>
    match b with
    | float y => y.equalsInt m
    | _ => false
  | none, some n =>
    match a with
    | float x => x.equalsInt n
    | _ => false
  | none, none =>
    match a, b with
    | null, null => true
    | float x, float y => x.equals y
    | text s, text t => s = t
    | _, _ => false

/-- A scalar as part of a larger text: texts are quoted. -/
def quoted : Scalar → String
  | null => "None"
  | bool b => if b then "True" else "False"
  | int n => toString n
  | float x => x.text
  | text s => Quoted.ofString s

/-- A scalar on its own: texts stand as they are. -/
def plain : Scalar → String
  | text s => s
  | s => s.quoted

/-- An integer is written only if it has no more digits than a numeral may have. -/
def isWritable : Scalar → Bool
  | int n => n.natAbs < Nat.pow 10 Numeral.maxDigits
  | _ => true

end Scalar

/-- A configuration tree. -/
inductive Value where
  | scalar (s : Scalar)
  | list (items : List Value)
  | map (entries : List (Scalar × Value))
  deriving Repr, Inhabited

namespace Value

/-- The mapping that arises by putting pairs one after another. -/
def ofPairs (pairs : List (Scalar × Value)) : Value :=
  map (Entries.putAll Scalar.same pairs [])

/-- What kind of tree it is, as messages name it. -/
def kind : Value → String
  | scalar .null => "NoneType"
  | scalar (.bool _) => "bool"
  | scalar (.int _) => "int"
  | scalar (.float _) => "float"
  | scalar (.text _) => "str"
  | list _ => "list"
  | map _ => "dict"

/-- Null, false, zeros and whatever has no parts count as nothing. -/
def isNothing : Value → Bool
  | scalar .null => true
  | scalar (.bool b) => !b
  | scalar (.int n) => n = 0
  | scalar (.float x) => x.isZero
  | scalar (.text s) => s.isEmpty
  | list items => items.isEmpty
  | map entries => entries.isEmpty

mutual

/-- A tree as part of a larger text. -/
def quoted : Value → String
  | scalar s => s.quoted
  | list items => "[" ++ quotedItems items ++ "]"
  | map entries => "\x7b" ++ quotedEntries entries ++ "\x7d"

/-- The items of a list with commas between them. -/
def quotedItems : List Value → String
  | [] => ""
  | [v] => v.quoted
  | v :: w :: rest => v.quoted ++ ", " ++ quotedItems (w :: rest)

/-- The entries of a mapping with commas between them. -/
def quotedEntries : List (Scalar × Value) → String
  | [] => ""
  | [(k, v)] => k.quoted ++ ": " ++ v.quoted
  | (k, v) :: e :: rest => k.quoted ++ ": " ++ v.quoted ++ ", " ++ quotedEntries (e :: rest)

end

/-- A tree as messages show it: a text on its own is not quoted. -/
def text : Value → String
  | scalar s => s.plain
  | v => v.quoted

mutual

/-- A tree can be written out if all its scalars can. -/
def isWritable : Value → Bool
  | scalar s => s.isWritable
  | list items => areWritable items
  | map entries => haveWritable entries

/-- All items of a list can be written out. -/
def areWritable : List Value → Bool
  | [] => true
  | v :: rest => v.isWritable && areWritable rest

/-- All keys and trees of a mapping can be written out. -/
def haveWritable : List (Scalar × Value) → Bool
  | [] => true
  | (k, v) :: rest => k.isWritable && v.isWritable && haveWritable rest

end

end Value

end Chip8
