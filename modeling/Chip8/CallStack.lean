import Chip8.Fault

/-!
# Call stack

The addresses of the calls that have not returned yet, at most sixteen of them.
A seventeenth, and a return without a call, are faults.
-/

namespace Chip8

/-- The open calls, the latest first. -/
structure CallStack where
  entries : List Int := []
  deriving DecidableEq

namespace CallStack

/-- How many calls may be open. -/
def room : Nat := 16

/-- The number of open calls. -/
def depth (s : CallStack) : Nat :=
  s.entries.length

/-- The open calls, the earliest first. -/
def frames (s : CallStack) : List Int :=
  s.entries.reverse

/-- Opens a call. -/
def push (s : CallStack) (address : Int) : Except Fault CallStack :=
  if room ≤ s.depth then .error (.stackOverflow address) else .ok ⟨address :: s.entries⟩

/-- Closes the latest call and gives its address. -/
def pop (s : CallStack) : Except Fault (Int × CallStack) :=
  match s.entries with
  | [] => .error .stackUnderflow
  | address :: rest => .ok (address, ⟨rest⟩)

/-- The call closed first is the one opened last. -/
theorem pop_push {s t : CallStack} {address : Int} (h : s.push address = .ok t) :
    t.pop = .ok (address, s) := by
  unfold push at h
  split at h
  · cases h
  · cases h
    rfl

end CallStack

end Chip8
