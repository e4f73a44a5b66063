import Chip8.Proofs.Run
import Mathlib.Data.Nat.Count

/-!
# Timers in the course of a run

The two timers lose one in every eighth step of the machine, counted from its
building, and nothing else lowers them. What the machine does in between plays
no part, except that it may set a timer anew.

- `Timer`: one of the two timers, with the instruction that sets it.
- `Timers.fade`: what is left of a timer's value after some more steps.
- `Stepped.timer`: one step lets both timers fade by one step.
- `Machine.timers_after`: a timer after a run that does not set it, and after a
  step that does.

The steps to the next decay are kept apart from the count of steps; the
invariant ties them together, so the count alone tells when a timer decays.
-/

namespace Chip8

namespace Timers

/-- What is left of `value` after `n` more steps of a machine that has made `cycles`. -/
def fade (value : Int) (cycles n : Nat) : Int :=
  max 0 (value - (((cycles : Int) + n) / period - (cycles : Int) / period))

variable {value : Int} {cycles : Nat}

theorem fade_zero (h : 0 ≤ value) : fade value cycles 0 = value := by
  simp only [fade, period]
  omega

/-- Some steps and then some more. -/
theorem fade_fade (value : Int) (cycles n k : Nat) :
    fade (fade value cycles n) (cycles + n) k = fade value cycles (n + k) := by
  simp only [fade, period]
  omega

/-- In one step a timer loses one or nothing. -/
theorem fade_one (h : 0 ≤ value) :
    fade value cycles 1 = if (cycles + 1) % 8 = 0 then max 0 (value - 1) else value := by
  simp only [fade, period]
  split <;> omega

end Timers

/-- One of the two timers. -/
inductive Timer where
  | delay
  | sound
  deriving DecidableEq, Repr

namespace Timer

/-- The timer's value. -/
def value (s : View) : Timer → Int
  | delay => s.delay
  | sound => s.sound

/-- The instruction that sets the timer to the value of a register. -/
def setter : Timer → Register → Instruction
  | delay => .setDelay
  | sound => .setSound

/-- The row of that instruction. -/
def opcode : Timer → Opcode
  | delay => ⟨"FX15", fun o => .setDelay o.x⟩
  | sound => ⟨"FX18", fun o => .setSound o.x⟩

theorem mem_opcode (t : Timer) : t.opcode ∈ opcodes := by
  cases t <;> simp [opcode, opcodes]

variable {i : Instruction} {counter : Int} {keys : List Int} {s : View}

/-- The setter sets its timer to its register's value. -/
theorem value_setter (t : Timer) (x : Register) :
    t.value ((t.setter x).effect counter keys s) = s.general x := by
  cases t <;> rfl

/-- Any other instruction leaves the timer alone. -/
theorem value_other (t : Timer) (h : ∀ x, i ≠ t.setter x) :
    t.value (i.effect counter keys s) = t.value s := by
  cases i with
  | setDelay x =>
    cases t with
    | delay => exact absurd rfl (h x)
    | sound => rfl
  | setSound x =>
    cases t with
    | delay => rfl
    | sound => exact absurd rfl (h x)
  | awaitKey x =>
    simp only [Instruction.effect]
    split <;> rfl
  | _ => rfl

/-- A tick is one step of fading, if the steps to the next decay are those left of the eight. -/
theorem value_tick (t : Timer) {cycles : Nat} (hphase : s.untilDecay = 8 - cycles % 8)
    (hvalue : 0 ≤ t.value s) : t.value s.tick = Timers.fade (t.value s) cycles 1 := by
  rw [Timers.fade_one hvalue]
  unfold View.tick
  by_cases hlast : (cycles + 1) % 8 = 0
  · have hdecay : ¬ 1 < s.untilDecay := by omega
    rw [if_neg hdecay, if_pos hlast]
    -- a positive timer loses one, a timer at zero stays there
    cases t with
    | delay =>
      show (if 0 < s.delay then s.delay - 1 else s.delay) = max 0 (s.delay - 1)
      have hlow : 0 ≤ s.delay := hvalue
      split <;> omega
    | sound =>
      show (if 0 < s.sound then s.sound - 1 else s.sound) = max 0 (s.sound - 1)
      have hlow : 0 ≤ s.sound := hvalue
      split <;> omega
  · have hwait : 1 < s.untilDecay := by omega
    rw [if_pos hwait, if_neg hlast]
    cases t <;> rfl

end Timer

namespace Machine

variable {m m' : Machine}

/-! ## One step -/

section

variable {keys : List Int}

/-- A step lets what its instruction leaves of a timer fade by one step. -/
theorem Stepped.timer (hs : Stepped keys m m') (h : Invariant m) (t : Timer) :
    t.value m'.view =
      Timers.fade (t.value (m.current.effect m.registers.counter keys m.view)) m.cycles 1 := by
  obtain ⟨⟨hdelay, -⟩, hsound, -⟩ :=
    effect_timers m.current m.registers.counter keys h.delay h.sound
  rw [hs.view]
  refine t.value_tick ?_ ?_
  · rw [effect_untilDecay]
    exact h.phase
  · cases t with
    | delay => exact hdelay
    | sound => exact hsound

/-- A step that does not set a timer only lets it fade. -/
theorem Stepped.timer_other (hs : Stepped keys m m') (h : Invariant m) (t : Timer)
    (hw : ¬ Word.Matches t.opcode.pattern m.word) :
    t.value m'.view = Timers.fade (t.value m.view) m.cycles 1 := by
  rw [hs.timer h t, t.value_other]
  intro x hx
  refine hw (matches_of_current t.mem_opcode (o := { Operands.ofWord m.word with x }) ?_)
  rw [hx]
  cases t <;> rfl

/-- A step that sets a timer gives it the register's value, which fades by one step. -/
theorem Stepped.timer_set (hs : Stepped keys m m') (h : Invariant m) (t : Timer)
    (hw : Word.Matches t.opcode.pattern m.word) :
    t.value m'.view = Timers.fade (m.view.general (Operands.ofWord m.word).x) m.cycles 1 := by
  have hcurrent : m.current = t.setter (Operands.ofWord m.word).x := by
    rw [current_of_matches t.mem_opcode hw]
    cases t <;> rfl
  rw [hs.timer h t, hcurrent, t.value_setter]

end

/-! ## Runs -/

variable {keys : List (List Int)}

/-- The number of steps of a run that are made. -/
def made (m : Machine) (keys : List (List Int)) : Nat :=
  Nat.count (m.MadeAt keys) keys.length

/-- The run sets the timer in none of the steps that are made. -/
def Spares (m : Machine) (keys : List (List Int)) (t : Timer) : Prop :=
  ∀ i, m.MadeAt keys i → ¬ Word.Matches t.opcode.pattern (m.before keys i).word

/-- In the course of a run the steps made are counted, and a timer that is not set fades by as
many steps. -/
theorem Reachable.timer_before (h : Reachable m) {k : Nat} (hk : k ≤ keys.length) :
    (m.before keys k).cycles = m.cycles + Nat.count (m.MadeAt keys) k ∧
      ∀ t, m.Spares keys t → t.value (m.before keys k).view =
        Timers.fade (t.value m.view) m.cycles (Nat.count (m.MadeAt keys) k) := by
  induction k with
  | zero =>
    refine ⟨rfl, fun t _ => ?_⟩
    have hvalue : 0 ≤ t.value m.view := by
      cases t with
      | delay => exact h.invariant.delay.1
      | sound => exact h.invariant.sound.1
    exact (Timers.fade_zero hvalue).symm
  | succ k ih =>
    obtain ⟨hcycles, hvalue⟩ := ih (Nat.le_of_succ_le hk)
    rw [Nat.count_succ]
    by_cases hmade : m.MadeAt keys k
    · obtain ⟨-, hstepped⟩ := hmade.stepped hk
      have hinvariant : Invariant (m.before keys k) := (h.after (keys.take k)).invariant
      rw [if_pos hmade]
      constructor
      · rw [hstepped.cycles, hcycles, Nat.add_assoc]
      · intro t hspares
        rw [hstepped.timer_other hinvariant t (hspares k hmade), hvalue t hspares, hcycles,
          Timers.fade_fade]
    · -- a refused step counts for nothing
      rw [if_neg hmade, before_refused hk hmade]
      exact ⟨hcycles, hvalue⟩

/-- **The timers in the course of a run.** Whatever keys are held, in steps that pause and in steps
that do not, a timer that is not set has lost one for each eighth step of the machine's count in
the steps that are made, down to zero; refused steps count for nothing. A sound is to be heard as
long as there is something left of the sound timer. A step that sets a timer leaves the register's
value in it, less one if the step is an eighth one. -/
theorem timers_after (h : Reachable m) (keys : List (List Int)) :
    let n := m.made keys
    let decays : Int := ((m.cycles : Int) + n) / 8 - (m.cycles : Int) / 8
    let last := m.after keys
    last.cycles = m.cycles + n ∧
    ((∀ i, m.MadeAt keys i → ¬ Word.Matches "FX15" (m.before keys i).word) →
      last.timers.delay = max 0 (m.timers.delay - decays)) ∧
    ((∀ i, m.MadeAt keys i → ¬ Word.Matches "FX18" (m.before keys i).word) →
      last.timers.sound = max 0 (m.timers.sound - decays) ∧
      (last.timers.soundActive = true ↔ 0 < max 0 (m.timers.sound - decays))) ∧
    ∀ ks m', (step ks).on m = (.ok (), m') →
      let vx : Int := (m.registers.get (Operands.ofWord m.word).x).toNat
      let left : Int := if (m.cycles + 1) % 8 = 0 then max 0 (vx - 1) else vx
      (Word.Matches "FX15" m.word → m'.timers.delay = left) ∧
      (Word.Matches "FX18" m.word → m'.timers.sound = left) := by
  intro n decays last
  obtain ⟨hcycles, hvalue⟩ := h.timer_before (Nat.le_refl keys.length)
  rw [before_length] at hcycles hvalue
  refine ⟨hcycles, fun hspares => hvalue .delay hspares, fun hspares => ?_, ?_⟩
  · have hsound : last.timers.sound = max 0 (m.timers.sound - decays) := hvalue .sound hspares
    refine ⟨hsound, ?_⟩
    rw [Timers.soundActive, decide_eq_true_iff, hsound]
  · intro ks m' hrun vx left
    obtain ⟨-, hstepped⟩ := stepped hrun
    have hleft : Timers.fade vx m.cycles 1 = left := Timers.fade_one (Int.natCast_nonneg _)
    constructor
    · intro hw
      rw [← hleft]
      exact hstepped.timer_set h.invariant .delay hw
    · intro hw
      rw [← hleft]
      exact hstepped.timer_set h.invariant .sound hw

/-- The program `6105 F115 1204` sets the delay timer to five and rests. After six more steps, and
one that is refused, it has lost one. -/
theorem timers_after_rest :
    ∃ start, ofProgram? [0x61, 0x05, 0xF1, 0x15, 0x12, 0x04] {} (.cycle #[]) #[] = .ok start ∧
      let m := start.after [[], []]
      let last := m.after [[], [], [16], [3], [3], [], []]
      m.timers.delay = 5 ∧ last.cycles = 8 ∧ last.timers.delay = 4 := by
  let start := fresh [0x61, 0x05, 0xF1, 0x15, 0x12, 0x04] {} (.cycle #[]) #[]
  let keys : List (List Int) := [[], [], [16], [3], [3], [], []]
  have hstart : ofProgram? [0x61, 0x05, 0xF1, 0x15, 0x12, 0x04] {} (.cycle #[]) #[] =
      .ok start := ofProgram?_fits (by decide)
  have hrun : (start.after [[], []]).timers.delay = 5 ∧ (start.after [[], []]).cycles = 2 ∧
      (start.after [[], []]).made keys = 6 ∧
      ∀ i < 7, ¬ Word.Matches "FX15" ((start.after [[], []]).before keys i).word := by
    decide +kernel
  clear_value start
  obtain ⟨hfive, htwo, hmade, hspares⟩ := hrun
  obtain ⟨hcycles, hdelay, -⟩ := timers_after ((Reachable.fresh hstart).after [[], []]) keys
  have hfour := hdelay fun i hi => hspares i hi.lt
  rw [hmade, htwo] at hcycles
  rw [hmade, htwo, hfive] at hfour
  exact ⟨start, hstart, hfive, hcycles, hfour.trans (by decide)⟩

end Machine

end Chip8
