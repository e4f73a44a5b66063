import Chip8.Fault

/-!
# Keypad

Sixteen keys with the codes 0 to 15. What a step of the machine sees of the
keypad is a set of codes, here the ascending list of its members.
-/

namespace Chip8

namespace Keypad

/-- The codes of the keys, ascending. -/
def codes : List Int :=
  (List.range 16).map Int.ofNat

/-- A key code is one of 0 to 15. -/
def IsCode (code : Int) : Prop :=
  0 ≤ code ∧ code < 16

instance (code : Int) : Decidable (IsCode code) :=
  inferInstanceAs (Decidable (_ ∧ _))

/-- The set of the given codes, in any order and with any repetitions, as an ascending list;
one that is no key code refuses them all. Of several such codes the first given is named. A host
that makes a set of the codes before it looks at them may name another: only the message tells. -/
def held (keys : List Int) : Except Error (List Int) :=
  match keys.find? (fun k => ¬ IsCode k) with
  | some k => .error (.keyCode k)
  | none => .ok (codes.filter (fun c => keys.contains c))

end Keypad

end Chip8
