import Chip8.Proofs.Run

/-!
# What a machine sees of its dialect

Four words are read differently in different dialects. All other words pass the
dialect over, and so do the shifts of a register onto itself. Two machines with
one program and two dialects stay together until one of those words is executed
that their dialects disagree on.

- `Dialect.DisagreeOn`: the words that two dialects read differently.
- `Machine.speaking`: a machine with another dialect and another journal.
- `Instruction.effect_speaking`, `Machine.Stepped.speaking`: an instruction and a
  step that the dialects agree on.
- `Machine.dialects_agree`: two runs in different dialects.

A machine notes down its dialect when it is made, so the journals of two such
machines are different from the start. What is added to them is the same.
-/

namespace Chip8

/-! ## Words with two readings -/

/-- The word is read differently in the two dialects: a shift of one register into another, or a
transfer of registers. -/
def Dialect.DisagreeOn (d e : Dialect) (w : Nat) : Prop :=
  d.shiftInPlace ≠ e.shiftInPlace ∧ (Word.Matches "8XY6" w ∨ Word.Matches "8XYE" w) ∧
      (Operands.ofWord w).x ≠ (Operands.ofWord w).y ∨
    d.keepIndex ≠ e.keepIndex ∧ (Word.Matches "FX55" w ∨ Word.Matches "FX65" w)

instance (d e : Dialect) (w : Nat) : Decidable (d.DisagreeOn e w) :=
  inferInstanceAs (Decidable (_ ∨ _))

/-! ## The instruction table in another dialect -/

namespace View

/-- The state with another dialect. -/
def speaking (s : View) (e : Dialect) : View :=
  { s with dialect := e }

theorem tick_speaking (s : View) (e : Dialect) : (s.speaking e).tick = s.tick.speaking e := by
  unfold tick speaking
  split <;> rfl

theorem speaking_pass {s : View} {e : Dialect} (h : s.dialect.keepIndex = e.keepIndex) (n : Nat) :
    (s.pass n).speaking e = (s.speaking e).pass n := by
  unfold pass
  rw [h]
  rfl

end View

namespace Instruction

/-- The two dialects read the instruction differently. -/
def Disputed (d e : Dialect) : Instruction → Prop
  | shiftRight x y | shiftLeft x y => d.shiftInPlace ≠ e.shiftInPlace ∧ x ≠ y
  | dump _ | restore _ => d.keepIndex ≠ e.keepIndex
  | _ => False

variable {i : Instruction} {s : View} {e : Dialect}

/-- Dialects that agree on a shift read the same register. -/
theorem shifted_speaking {x y : Register}
    (h : ¬ (s.dialect.shiftInPlace ≠ e.shiftInPlace ∧ x ≠ y)) :
    shifted (s.speaking e) x y = shifted s x y := by
  by_cases hxy : x = y
  · subst hxy
    simp only [shifted, ite_self]
    rfl
  · have hsame : s.dialect.shiftInPlace = e.shiftInPlace :=
      Decidable.byContradiction fun hne => h ⟨hne, hxy⟩
    unfold shifted
    rw [hsame]
    rfl

/-- Instructions do not change the dialect. -/
theorem dialect_effect (i : Instruction) (counter : Int) (keys : List Int) (s : View) :
    (i.effect counter keys s).dialect = s.dialect := by
  cases i with
  | awaitKey x =>
    simp only [effect]
    split <;> rfl
  | _ => rfl

/-- An instruction that the dialects agree on has the same effect in both. -/
theorem effect_speaking (h : ¬ i.Disputed s.dialect e) (counter : Int) (keys : List Int) :
    i.effect counter keys (s.speaking e) = (i.effect counter keys s).speaking e := by
  cases i with
  | shiftRight x y =>
    simp only [effect, shifted_speaking h]
    rfl
  | shiftLeft x y =>
    simp only [effect, shifted_speaking h]
    rfl
  | dump x =>
    have hsame : s.dialect.keepIndex = e.keepIndex := Decidable.not_not.1 h
    refine Eq.symm (View.speaking_pass ?_ (x.val + 1))
    exact hsame
  | restore x =>
    have hsame : s.dialect.keepIndex = e.keepIndex := Decidable.not_not.1 h
    refine Eq.symm (View.speaking_pass ?_ (x.val + 1))
    exact hsame
  | awaitKey x =>
    simp only [effect]
    split <;> rfl
  | _ => rfl

/-- Where an instruction leads does not depend on the dialect. -/
theorem flow_speaking (i : Instruction) (keys : List Int) (s : View) (e : Dialect) :
    i.flow keys (s.speaking e) = i.flow keys s :=
  i.flow_congr keys rfl rfl

end Instruction

/-! ## One step -/

namespace Machine

/-- The machine with another dialect and another journal. -/
def speaking (m : Machine) (e : Dialect) (journal : Journal) : Machine :=
  { m with dialect := e, journal }

variable {m m' : Machine} {keys : List Int} {e : Dialect} {journal : Journal}

theorem view_speaking : (m.speaking e journal).view = m.view.speaking e := rfl

theorem current_speaking : (m.speaking e journal).current = m.current := rfl

/-- The words that the dialects disagree on are those of the disputed instructions. -/
theorem disputed_iff (m : Machine) (d e : Dialect) :
    m.current.Disputed d e ↔ d.DisagreeOn e m.word := by
  rw [Dialect.DisagreeOn, matches_iff mem_shiftRight, matches_iff mem_shiftLeft,
    matches_iff mem_dump, matches_iff mem_restore]
  -- one case for each row of the table, and one for the words in none
  rcases current_cases m with ⟨op, hop, hrow⟩ | hunknown
  · rw [hrow]
    fin_cases hop
    all_goals simp [Instruction.Disputed]
  · rw [hunknown]
    simp [Instruction.Disputed]

/-- Whether a step is refused does not depend on the dialect. -/
theorem refusal_speaking (m : Machine) (e : Dialect) (journal : Journal) (keys : List Int) :
    (m.speaking e journal).refusal keys = m.refusal keys :=
  refusal_congr rfl rfl rfl rfl keys

/-- What a step notes down. -/
def stepNotices (m : Machine) (keys : List Int) : Array Notice :=
  m.current.notices ++ m.restNotices (m.current.flow keys m.view)

/-- A step in one dialect is a step in the other if they agree on its word. -/
theorem Stepped.speaking (h : Stepped keys m m') (hagree : ¬ m.dialect.DisagreeOn e m.word)
    (journal : Journal) :
    Stepped keys (m.speaking e journal) (m'.speaking e (journal ++ m.stepNotices keys)) := by
  have heffect := Instruction.effect_speaking (s := m.view) (mt (disputed_iff m _ e).1 hagree)
    m.registers.counter keys
  have hflow := Instruction.flow_speaking m.current keys m.view e
  constructor
  case view =>
    show m'.view.speaking e = (m.current.effect m.registers.counter keys (m.view.speaking e)).tick
    rw [heffect, View.tick_speaking, h.view]
  case counter =>
    rw [current_speaking, view_speaking, hflow]
    exact h.counter
  case paused =>
    simp only [current_speaking, view_speaking, hflow]
    exact h.paused
  case cycles => exact h.cycles
  case journal =>
    rw [current_speaking, view_speaking, hflow, Array.append_assoc]
    rfl

theorem Stepped.dialect (h : Stepped keys m m') : m'.dialect = m.dialect := by
  have hview : m'.view.dialect = m.view.dialect := by
    rw [h.view, View.dialect_tick, Instruction.dialect_effect]
  exact hview

/-! ## Two machines side by side -/

/-- The machine `m` speaks `d`, and `n` is the same machine but for its dialect `e` and what was in
the journals before, which was `j` and `l`. -/
structure Twins (d e : Dialect) (j l : Journal) (m n : Machine) : Prop where
  dialect : m.dialect = d
  noted : ∃ notices, m.journal = j ++ notices ∧ n = m.speaking e (l ++ notices)

variable {d : Dialect} {j l : Journal} {n : Machine}

/-- Twins make the same step, or the same failure, if their dialects agree on the word. -/
theorem Twins.step (h : Twins d e j l m n)
    (hagree : m.refusal keys = none → ¬ d.DisagreeOn e m.word) :
    ((step keys).on m).1 = ((step keys).on n).1 ∧
      Twins d e j l ((step keys).on m).2 ((step keys).on n).2 := by
  have htwins := h
  obtain ⟨rfl, notices, hjournal, rfl⟩ := h
  refine step_related htwins (refusal_speaking m e (l ++ notices) keys) fun hmade m' hstepped => ?_
  refine ⟨_, hstepped.speaking (hagree hmade) (l ++ notices), hstepped.dialect,
    notices ++ m.stepNotices keys, ?_, ?_⟩
  · rw [hstepped.journal, hjournal, stepNotices]
    simp only [Array.append_assoc]
  · rw [Array.append_assoc]

end Machine

/-! ## Shifts in place -/

namespace Word

/-- The word with its digit `X` also in the place of `Y`. -/
def repeatX (w : Nat) : Nat :=
  w / 256 * 256 + w / 256 % 16 * 16 + w % 16

theorem repeatX_mod (w : Nat) : repeatX w % 16 = w % 16 := by
  unfold repeatX
  omega

theorem repeatX_div (w : Nat) : repeatX w / 256 = w / 256 := by
  unfold repeatX
  omega

theorem x_repeatX (w : Nat) : (Operands.ofWord (repeatX w)).x = (Operands.ofWord w).x := by
  simp only [Operands.ofWord, repeatX_div]

theorem y_repeatX (w : Nat) : (Operands.ofWord (repeatX w)).y = (Operands.ofWord w).x := by
  have hdigit : repeatX w / 16 % 16 = w / 256 % 16 := by
    unfold repeatX
    omega
  ext
  simpa [Operands.ofWord, Register.ofNat] using hdigit

/-- Replacing the third digit leaves a word in its row, if the row's pattern has a `Y` there. -/
theorem matches_repeatX {pattern : String} {c : Char} {cs : List Char} {w : Nat}
    (hpattern : pattern.toList.reverse = c :: 'Y' :: cs) (h : Matches pattern w) :
    Matches pattern (repeatX w) := by
  have hfree : ∀ v : Nat, ∀ d ∈ digit? 'Y', v % 16 = d := fun v d hd => nomatch hd
  rw [Matches, hpattern] at h ⊢
  obtain ⟨hlast, -, hfirst⟩ := h
  rw [Nat.div_div_eq_div_mul] at hfirst
  refine ⟨?_, hfree _, ?_⟩
  · rw [repeatX_mod]
    exact hlast
  · rw [Nat.div_div_eq_div_mul, repeatX_div]
    exact hfirst

end Word

namespace Machine

/-- A shift in place is a shift of the target register onto itself. -/
theorem execute_inPlace {w : Nat} (hw : Word.Matches "8XY6" w ∨ Word.Matches "8XYE" w)
    (m : Machine) (keep : Bool) (counter : Int) (keys : List Int) :
    ∃ (outcome : Except Error Outcome) (m' : Machine),
      (execute (.decode ⟨(w : Int)⟩) counter keys).on { m with dialect := ⟨true, keep⟩ } =
        (outcome, { m' with dialect := ⟨true, keep⟩ }) ∧
      (execute (.decode ⟨(Word.repeatX w : Int)⟩) counter keys).on
          { m with dialect := ⟨false, keep⟩ } =
        (outcome, { m' with dialect := ⟨false, keep⟩ }) := by
  have hx := Word.x_repeatX w
  have hy := Word.y_repeatX w
  rcases hw with hright | hleft
  · have hrepeated := Instruction.decode_of_matches mem_shiftRight (Word.matches_repeatX rfl hright)
    simp only [hx, hy] at hrepeated
    rw [Instruction.decode_of_matches mem_shiftRight hright, hrepeated]
    exact ⟨_, { m with registers := _ }, rfl, rfl⟩
  · have hrepeated := Instruction.decode_of_matches mem_shiftLeft (Word.matches_repeatX rfl hleft)
    simp only [hx, hy] at hrepeated
    rw [Instruction.decode_of_matches mem_shiftLeft hleft, hrepeated]
    exact ⟨_, { m with registers := _ }, rfl, rfl⟩

/-! ## Runs -/

/-- **What a machine sees of its dialect.** One program is loaded into two machines with the same
random source and different dialects: either it is too large for both, or both run it, and hold down
whatever keys, step by step with equal results. Up to the first step that is made of a word the
dialects disagree on, the two machines are the same but for their dialect and the notice about it:
all other notices are the same, too. And executing a shift in a dialect that shifts in place is, on
every machine, executing the shift of its target register onto itself in a dialect that does not. -/
theorem dialects_agree (program : List UInt8) (d e : Dialect) (source : RandomSource)
    (journal : Journal) :
    (∀ fault, ofProgram? program d source journal = .error fault →
      ofProgram? program e source journal = .error fault) ∧
    (∀ start, ofProgram? program d source journal = .ok start →
      ∃ other, ofProgram? program e source journal = .ok other ∧
        ∀ keys, ∀ k ≤ keys.length,
          (∀ i < k, start.MadeAt keys i → ¬ d.DisagreeOn e (start.before keys i).word) →
          (∀ i < k, start.result? keys i = other.result? keys i) ∧
          ∃ notices, (start.before keys k).journal = start.journal ++ notices ∧
            other.before keys k =
              { start.before keys k with
                dialect := e
                journal := other.journal ++ notices }) ∧
    ∀ (m : Machine) (w : Nat), Word.Matches "8XY6" w ∨ Word.Matches "8XYE" w →
      ∀ (keep : Bool) (counter : Int) (keys : List Int),
        ∃ (outcome : Except Error Outcome) (m' : Machine),
          (execute (.decode ⟨(w : Int)⟩) counter keys).on { m with dialect := ⟨true, keep⟩ } =
            (outcome, { m' with dialect := ⟨true, keep⟩ }) ∧
          (execute (.decode ⟨(Word.repeatX w : Int)⟩) counter keys).on
              { m with dialect := ⟨false, keep⟩ } =
            (outcome, { m' with dialect := ⟨false, keep⟩ }) := by
  refine ⟨?_, ?_, fun m w hw keep counter keys => execute_inPlace hw m keep counter keys⟩
  · intro fault hfault
    have hlarge : Memory.programRoom < program.length := by
      refine Nat.lt_of_not_le fun hfits => ?_
      rw [ofProgram?_fits hfits] at hfault
      cases hfault
    rw [ofProgram?_tooLarge hlarge] at hfault ⊢
    exact hfault
  · intro start hstart
    obtain ⟨hfits, rfl⟩ := ofProgram?_eq_ok hstart
    refine ⟨_, ofProgram?_fits hfits, fun keys k hk hagree => ?_⟩
    have htwins : Twins d e _ _ (fresh program d source journal)
        (fresh program e source journal) := ⟨rfl, #[], rfl, rfl⟩
    obtain ⟨hrelated, hresults⟩ := lockstep rfl htwins hk fun i hi h => by
      refine h.step fun hmade => hagree i hi ?_
      exact (madeAt_iff_refusal (Nat.lt_of_lt_of_le hi hk)).2 hmade
    exact ⟨hresults, hrelated.noted⟩

/-- The word `8006` shifts a register onto itself, so dialects that disagree on both choices agree
on it; `8126` shifts in place as `8116` does otherwise. -/
theorem dialects_agree_ownShift :
    ∃ start other,
      ofProgram? [0x80, 0x06] ⟨false, false⟩ (.cycle #[]) #[] = .ok start ∧
      ofProgram? [0x80, 0x06] ⟨true, true⟩ (.cycle #[]) #[] = .ok other ∧
      start.word = 0x8006 ∧ start.result? [[]] 0 = other.result? [[]] 0 ∧
      (other.before [[]] 1).registers = (start.before [[]] 1).registers ∧
      ∃ (outcome : Except Error Outcome) (m' : Machine),
        (execute (.decode ⟨0x8126⟩) 0x200 []).on { start with dialect := ⟨true, true⟩ } =
          (outcome, { m' with dialect := ⟨true, true⟩ }) ∧
        (execute (.decode ⟨0x8116⟩) 0x200 []).on { start with dialect := ⟨false, true⟩ } =
          (outcome, { m' with dialect := ⟨false, true⟩ }) := by
  have hfits : ([0x80, 0x06] : List UInt8).length ≤ Memory.programRoom := by decide
  obtain ⟨start, hstart, hword⟩ : ∃ start,
      ofProgram? [0x80, 0x06] ⟨false, false⟩ (.cycle #[]) #[] = .ok start ∧
        start.word = 0x8006 := ⟨_, ofProgram?_fits hfits, word_fresh hfits⟩
  obtain ⟨-, hruns, hshifts⟩ :=
    dialects_agree [0x80, 0x06] ⟨false, false⟩ ⟨true, true⟩ (.cycle #[]) #[]
  obtain ⟨other, hother, hagree⟩ := hruns start hstart
  obtain ⟨hresults, notices, -, hsame⟩ := hagree [[]] 1 (Nat.le_refl 1) (by
    intro i hi _
    obtain rfl := Nat.lt_one_iff.1 hi
    show ¬ Dialect.DisagreeOn _ _ start.word
    rw [hword]
    decide)
  refine ⟨start, other, hstart, hother, hword, hresults 0 Nat.zero_lt_one, ?_, ?_⟩
  · rw [hsame]
  · exact hshifts start 0x8126 (.inl (by decide)) true 0x200 []

end Machine

end Chip8
