import Chip8.Proofs.Run
import Mathlib.Data.Int.Bitwise
import Mathlib.Data.Nat.Count

/-!
# Random numbers in the course of a run

One word takes a number from the random source. The numbers that a run has
taken are counted by its steps, so the source is known at every place of a run,
and two runs whose sources begin alike stay together until one of them comes to
a number in which the sources differ.

- `RandomSource.drop`, `RandomSource.number`: a source after some numbers, and
  the numbers that it gives one after the other.
- `Instruction.draws`: how many numbers an instruction takes.
- `Machine.DrawsAt`, `Machine.draws`: the steps of a run that take a number, and
  how many there are before a place of the run.
- `Machine.source_before`: the source in the course of a run.
- `Machine.before_drawing`: two runs with two sources.
- `Machine.random_numbers`: all of it, for a program.
-/

namespace Chip8

namespace RandomSource

variable {s : RandomSource}

/-- The source after `n` numbers have been taken. -/
def drop : Nat → RandomSource → RandomSource
  | 0, s => s
  | n + 1, s => drop n s.next.2

/-- The number that the source gives after `i` others. -/
def number (s : RandomSource) (i : Nat) : Int :=
  (s.drop i).next.1

@[simp] theorem drop_zero (s : RandomSource) : s.drop 0 = s := rfl

theorem drop_drop (s : RandomSource) (n k : Nat) : (s.drop n).drop k = s.drop (n + k) := by
  induction n generalizing s with
  | zero => rw [Nat.zero_add, drop_zero]
  | succ n ih =>
    rw [Nat.succ_add]
    exact ih s.next.2

theorem number_drop (s : RandomSource) (n i : Nat) : (s.drop n).number i = s.number (n + i) := by
  rw [number, number, drop_drop]

theorem drop_sequence (values : Nat → Int) (used n : Nat) :
    (sequence values used).drop n = sequence values (used + n) := by
  induction n generalizing used with
  | zero => rfl
  | succ n ih =>
    rw [← Nat.add_assoc, Nat.add_right_comm]
    exact ih (used + 1)

/-- A sequence gives its numbers in their order. -/
theorem number_sequence (values : Nat → Int) (used i : Nat) :
    (sequence values used).number i = values (used + i) := by
  rw [number, drop_sequence]
  rfl

end RandomSource

/-! ## The instruction table with another source -/

/-- The state with another source. -/
def View.drawing (s : View) (source : RandomSource) : View :=
  { s with source }

theorem View.source_tick (s : View) : s.tick.source = s.source := by
  unfold tick
  split <;> rfl

theorem View.tick_drawing (s : View) (source : RandomSource) :
    (s.drawing source).tick = s.tick.drawing source := by
  unfold tick drawing
  split <;> rfl

namespace Instruction

/-- How many random numbers an instruction takes. -/
def draws : Instruction → Nat
  | random _ _ => 1
  | _ => 0

variable {i : Instruction} {s : View} {source : RandomSource}

/-- An instruction takes its numbers from the front of the source. -/
theorem source_effect (i : Instruction) (counter : Int) (keys : List Int) (s : View) :
    (i.effect counter keys s).source = s.source.drop i.draws := by
  cases i with
  | awaitKey x =>
    simp only [effect]
    split <;> rfl
  | _ => rfl

/-- With a source that gives the same numbers for it, an instruction does the same and leaves that
source behind its numbers. -/
theorem effect_drawing (h : ∀ k < i.draws, source.number k = s.source.number k) (counter : Int)
    (keys : List Int) :
    i.effect counter keys (s.drawing source) =
      (i.effect counter keys s).drawing (source.drop i.draws) := by
  cases i with
  | random x mask =>
    have hfirst : source.next.1 = s.source.next.1 := h 0 Nat.zero_lt_one
    simp only [effect, View.drawing, hfirst]
    rfl
  | awaitKey x =>
    simp only [effect]
    split <;> rfl
  | _ => rfl

/-- A random number under a mask: what the register receives is the conjunction of the two, however
large the number is and whatever its sign. -/
theorem masked_number (number : Int) (mask : UInt8) :
    (((number % 256).toNat &&& mask.toNat : Nat) : Int) = Int.land number mask.toNat := by
  have hmask : ∀ b, ¬ b < 8 → mask.toNat.testBit b = false := fun b hb =>
    Nat.testBit_lt_two_pow
      (Nat.lt_of_lt_of_le mask.toNat_lt (Nat.pow_le_pow_right (by decide) (Nat.le_of_not_lt hb)))
  -- bit by bit; the bits of a negative number are those of another one turned over
  cases number with
  | ofNat a =>
    show (((a % 2 ^ 8 : Nat) &&& mask.toNat : Nat) : Int) = ((a &&& mask.toNat : Nat) : Int)
    refine congrArg Int.ofNat (Nat.eq_of_testBit_eq fun b => ?_)
    rw [Nat.testBit_and, Nat.testBit_and, Nat.testBit_mod_two_pow]
    by_cases hb : b < 8
    · simp [hb]
    · simp [hmask b hb]
  | negSucc a =>
    have hbyte : (Int.negSucc a % 256).toNat = 2 ^ 8 - (a % 2 ^ 8 + 1) := by omega
    show (((Int.negSucc a % 256).toNat &&& mask.toNat : Nat) : Int) = (Nat.ldiff mask.toNat a : Nat)
    rw [hbyte]
    refine congrArg Int.ofNat (Nat.eq_of_testBit_eq fun b => ?_)
    rw [Nat.testBit_and, Nat.testBit_ldiff,
      Nat.testBit_two_pow_sub_succ (Nat.mod_lt a (by decide)), Nat.testBit_mod_two_pow]
    by_cases hb : b < 8
    · simp [hb, Bool.and_comm]
    · simp [hmask b hb]

end Instruction

namespace Machine

/-! ## One step -/

/-- The machine with another source. -/
def drawing (m : Machine) (source : RandomSource) : Machine :=
  { m with source }

variable {m m' : Machine} {source : RandomSource}

section

variable {keys : List Int}

/-- The word that takes a number. -/
theorem draws_current (m : Machine) :
    m.current.draws = if Word.Matches "CXNN" m.word then 1 else 0 := by
  by_cases hw : Word.Matches "CXNN" m.word
  · rw [if_pos hw, current_of_matches mem_random hw]
    rfl
  · rw [if_neg hw]
    cases hcurrent : m.current with
    | random x mask =>
      exact absurd (matches_of_current mem_random
        (o := { Operands.ofWord 0 with x, nn := mask }) hcurrent) hw
    | _ => rfl

theorem Stepped.source_drop (h : Stepped keys m m') :
    m'.source = m.source.drop m.current.draws := by
  have hview : m'.view.source = m.view.source.drop m.current.draws := by
    rw [h.view, View.source_tick, Instruction.source_effect]
  exact hview

/-- A step that takes a number leaves it in the register, under the mask of its word. -/
theorem Stepped.drawn (h : Stepped keys m m') (hw : Word.Matches "CXNN" m.word) :
    (m'.registers.get (Operands.ofWord m.word).x).toNat =
      (m.source.next.1 % 256).toNat &&& (Operands.ofWord m.word).nn.toNat := by
  obtain ⟨hview, -, -⟩ := h.row (current_of_matches mem_random hw)
  have hgeneral := congrFun (congrArg View.general hview) (Operands.ofWord m.word).x
  rw [View.general_tick] at hgeneral
  exact hgeneral.trans (if_pos rfl)

/-- Whether a step is refused does not depend on the source. -/
theorem refusal_drawing (m : Machine) (source : RandomSource) (keys : List Int) :
    (m.drawing source).refusal keys = m.refusal keys :=
  refusal_congr rfl rfl rfl rfl keys

/-- A step with one source is a step with the other if they give it the same numbers. -/
theorem Stepped.drawing (h : Stepped keys m m')
    (hsame : ∀ k < m.current.draws, source.number k = m.source.number k) :
    Stepped keys (m.drawing source) (m'.drawing (source.drop m.current.draws)) := by
  have heffect := Instruction.effect_drawing (s := m.view) hsame m.registers.counter keys
  have hflow : m.current.flow keys (m.view.drawing source) = m.current.flow keys m.view :=
    m.current.flow_congr keys rfl rfl
  have hcurrent : (m.drawing source).current = m.current := rfl
  have hview : (m.drawing source).view = m.view.drawing source := rfl
  constructor
  case view =>
    rw [hcurrent, hview]
    show m'.view.drawing (source.drop m.current.draws) =
      (m.current.effect m.registers.counter keys (m.view.drawing source)).tick
    rw [heffect, View.tick_drawing, h.view]
  case counter =>
    rw [hcurrent, hview, hflow]
    exact h.counter
  case paused =>
    simp only [hcurrent, hview, hflow]
    exact h.paused
  case cycles => exact h.cycles
  case journal =>
    rw [hcurrent, hview, hflow]
    exact h.journal

end

/-! ## Runs -/

variable {keys : List (List Int)} {n : Nat}

/-- The step at place `i` of a run is made, and takes a random number. -/
def DrawsAt (m : Machine) (keys : List (List Int)) (i : Nat) : Prop :=
  m.MadeAt keys i ∧ Word.Matches "CXNN" (m.before keys i).word

instance (m : Machine) (keys : List (List Int)) : DecidablePred (m.DrawsAt keys) :=
  fun _ => inferInstanceAs (Decidable (_ ∧ _))

/-- The number of steps before place `n` of a run that take a random number. -/
def draws (m : Machine) (keys : List (List Int)) (n : Nat) : Nat :=
  Nat.count (m.DrawsAt keys) n

theorem draws_succ_made (h : m.MadeAt keys n) :
    m.draws keys (n + 1) = m.draws keys n + (m.before keys n).current.draws := by
  rw [draws, Nat.count_succ, draws_current]
  simp only [DrawsAt, h, true_and]
  rfl

theorem draws_succ_refused (h : ¬ m.MadeAt keys n) : m.draws keys (n + 1) = m.draws keys n := by
  rw [draws, Nat.count_succ, if_neg fun hdraws => h hdraws.1]
  rfl

/-- **The source in the course of a run**: it has lost one number for each step that takes one, and
no other step has touched it. -/
theorem source_before (m : Machine) (hn : n ≤ keys.length) :
    (m.before keys n).source = m.source.drop (m.draws keys n) := by
  induction n with
  | zero => rfl
  | succ n ih =>
    have hold := ih (Nat.le_of_succ_le hn)
    by_cases hmade : m.MadeAt keys n
    · obtain ⟨-, hstepped⟩ := hmade.stepped hn
      rw [hstepped.source_drop, hold, RandomSource.drop_drop, draws_succ_made hmade]
    · rw [before_refused hn hmade, draws_succ_refused hmade, hold]

/-- The number of a step is the one that has as many before it as steps have taken. -/
theorem number_before (m : Machine) (hn : n ≤ keys.length) (i : Nat) :
    (m.before keys n).source.number i = m.source.number (m.draws keys n + i) := by
  rw [source_before m hn, RandomSource.number_drop]

/-- **Two runs with two sources.** As long as a run has taken no more numbers than the sources have
in common, the other machine is the same but for its source, from which as many are taken, and all
results are equal. -/
theorem before_drawing {k : Nat} (hsame : ∀ i < k, m.source.number i = source.number i)
    (hn : n ≤ keys.length) (hk : m.draws keys n ≤ k) :
    (m.drawing source).before keys n =
        (m.before keys n).drawing (source.drop (m.draws keys n)) ∧
      ∀ i < n, m.result? keys i = (m.drawing source).result? keys i := by
  refine lockstep_at (P := fun i a b => b = a.drawing (source.drop (m.draws keys i)))
    rfl rfl hn fun i hi hrelated => ?_
  have hlength : i < keys.length := Nat.lt_of_lt_of_le hi hn
  rw [hrelated]
  refine step_related_after
    (R := fun a b => b = a.drawing (source.drop (m.draws keys (i + 1))))
    (refusal_drawing _ _ _) ?_ ?_
  · intro e hrefusal
    have hnot : ¬ m.MadeAt keys i := by
      rw [madeAt_iff_refusal hlength, hrefusal]
      exact fun h => nomatch h
    rw [draws_succ_refused hnot]
  · intro hrefusal m' hstepped
    have hmade := (madeAt_iff_refusal hlength).2 hrefusal
    -- the numbers that this step takes are among those counted at the end
    have hbound : m.draws keys (i + 1) ≤ k := Nat.le_trans (Nat.count_monotone _ hi) hk
    rw [draws_succ_made hmade] at hbound ⊢
    refine ⟨_, hstepped.drawing fun j hj => ?_, ?_⟩
    · rw [RandomSource.number_drop, number_before m (Nat.le_of_lt hlength)]
      exact (hsame _ (by omega)).symm
    · rw [RandomSource.drop_drop]

/-- **Random numbers are taken one by one, and by one word only.** Whatever the program, the
dialect and the keys, in steps that are made and in steps that are refused: at each place of a run
the source has lost exactly one number for each `CXNN` that was made before. Such a step, being the
`i`-th of them, puts the `i`-th number of the source under the mask `NN` into its register, however
large the number is and whatever its sign, so no bit is set there that is not in `NN`. And with
another source that begins with the same `k` numbers, all results and all machines are the same,
but for the source itself, up to the `CXNN` that would take one more; an inspection, which gives no
machine back, shows the same of both. -/
theorem random_numbers {program : List UInt8} {dialect : Dialect} {journal : Journal}
    {start : Machine} (hstart : ofProgram? program dialect source journal = .ok start)
    (keys : List (List Int)) :
    (∀ n ≤ keys.length, (start.before keys n).source = source.drop (start.draws keys n)) ∧
    (∀ n, start.DrawsAt keys n →
      let w := (start.before keys n).word
      let r := source.number (start.draws keys n)
      let vx := ((start.before keys (n + 1)).registers.get (Operands.ofWord w).x).toNat
      (vx : Int) = Int.land r (w % 256 : Nat) ∧ vx &&& (w % 256) = vx) ∧
    ∀ (other : RandomSource) (k : Nat), (∀ i < k, source.number i = other.number i) →
      ∃ twin, ofProgram? program dialect other journal = .ok twin ∧
        ∀ n ≤ keys.length, start.draws keys n ≤ k →
          (∀ i < n, start.result? keys i = twin.result? keys i) ∧
          twin.before keys n =
            { start.before keys n with source := other.drop (start.draws keys n) } ∧
          (twin.before keys n).registerTable = (start.before keys n).registerTable := by
  obtain ⟨hfits, rfl⟩ := ofProgram?_eq_ok hstart
  refine ⟨fun n hn => source_before _ hn, ?_, fun other k hsame => ?_⟩
  · rintro n ⟨hmade, hw⟩ w r vx
    obtain ⟨-, hstepped⟩ := hmade.stepped hmade.lt
    have hnn : (Operands.ofWord w).nn.toNat = w % 256 := UInt8.toNat_ofNat'
    have hfirst : ((fresh program dialect source journal).before keys n).source.next.1 = r :=
      number_before _ (Nat.le_of_lt hmade.lt) 0
    have hvx : vx = (r % 256).toNat &&& (w % 256) := by
      rw [← hfirst, ← hnn]
      exact hstepped.drawn hw
    constructor
    · rw [hvx, ← hnn]
      exact Instruction.masked_number r _
    · rw [hvx, Nat.and_assoc, Nat.and_self]
  · refine ⟨_, ofProgram?_fits hfits, fun n hn hk => ?_⟩
    obtain ⟨htwin, hresults⟩ := before_drawing hsame hn hk
    refine ⟨hresults, htwin, ?_⟩
    rw [show (fresh program dialect other journal).before keys n = _ from htwin]
    rfl

/-- The program `C1F0 C20F` takes two numbers, one of them negative and one beyond a byte, with a
refused step between. A source with another second number makes no difference before it is taken. -/
theorem random_numbers_twoDraws :
    ∃ start, ofProgram? [0xC1, 0xF0, 0xC2, 0x0F] {} (.cycle #[-1, 0x1AB]) #[] = .ok start ∧
      ((start.before [[], [16], []] 1).registers.get 1).toNat = 0xF0 ∧
      ((start.before [[], [16], []] 3).registers.get 2).toNat = 0x0B ∧
      ∃ twin, ofProgram? [0xC1, 0xF0, 0xC2, 0x0F] {} (.cycle #[-1, 7]) #[] = .ok twin ∧
        (twin.before [[], [16], []] 2).registers = (start.before [[], [16], []] 2).registers := by
  let keys : List (List Int) := [[], [16], []]
  let start := fresh [0xC1, 0xF0, 0xC2, 0x0F] {} (.cycle #[-1, 0x1AB]) #[]
  have hstart : ofProgram? [0xC1, 0xF0, 0xC2, 0x0F] {} (.cycle #[-1, 0x1AB]) #[] = .ok start :=
    ofProgram?_fits (by decide)
  have hrun : (start.DrawsAt keys 0 ∧ start.DrawsAt keys 2) ∧
      (start.before keys 0).word = 0xC1F0 ∧ (start.before keys 2).word = 0xC20F ∧
      start.draws keys 0 = 0 ∧ start.draws keys 2 = 1 := by
    decide +kernel
  clear_value start
  obtain ⟨⟨hfirst, hsecond⟩, hword, hword', hzero, hone⟩ := hrun
  obtain ⟨-, hvalue, hother⟩ := random_numbers hstart keys
  obtain ⟨hmasked, -⟩ := hvalue 0 hfirst
  obtain ⟨hmasked', -⟩ := hvalue 2 hsecond
  rw [hword, hzero] at hmasked
  rw [hword', hone] at hmasked'
  obtain ⟨twin, htwin, hsame⟩ := hother (.cycle #[-1, 7]) 1 (by decide)
  obtain ⟨-, hmachine, -⟩ := hsame 2 (by decide) (Nat.le_of_eq hone)
  refine ⟨start, hstart, Int.ofNat_inj.1 (hmasked.trans ?_), Int.ofNat_inj.1 (hmasked'.trans ?_),
    twin, htwin, by rw [hmachine]⟩
  · exact (Instruction.masked_number (-1) 0xF0).symm
  · exact (Instruction.masked_number 0x1AB 0x0F).symm

end Machine

end Chip8
