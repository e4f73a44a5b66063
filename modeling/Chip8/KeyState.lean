import Chip8.Config
import Chip8.Keyboard

/-!
# Held keys

Which codes of the keypad are held, as keys of the keyboard go down and up. A
key that is bound to no code changes nothing. The codes and not the keys are
remembered, so of two keys bound to one code the first to go up releases it.
-/

namespace Chip8

/-- The codes bound to keys, and the codes that are held. -/
structure KeyState where
  bindings : List (Int × Int)
  held : List Int := []
  deriving DecidableEq, Repr

namespace KeyState

/-- Nothing is held; the names of a keymap are looked up on a keyboard. -/
def ofKeymap? (k : Keyboard) (keys : Keymap) : Except UnknownKey KeyState :=
  (k.resolve keys).map fun bindings => { bindings }

/-- The code bound to a key. -/
def code? (s : KeyState) (key : Int) : Option Int :=
  Entries.get? (· = ·) key s.bindings

/-- A key goes down; tells whether it is bound. -/
def press (s : KeyState) (key : Int) : KeyState × Bool :=
  match s.code? key with
  | some code => (if s.held.contains code then s else { s with held := code :: s.held }, true)
  | none => (s, false)

/-- A key goes up; tells whether it is bound. -/
def release (s : KeyState) (key : Int) : KeyState × Bool :=
  match s.code? key with
  | some code => ({ s with held := s.held.filter (· ≠ code) }, true)
  | none => (s, false)

/-- All keys count as up. -/
def releaseAll (s : KeyState) : KeyState :=
  { s with held := [] }

/-- The held codes, ascending. -/
def pressed (s : KeyState) : List Int :=
  s.held.mergeSort (· ≤ ·)

end KeyState

end Chip8
