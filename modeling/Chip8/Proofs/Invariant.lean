import Chip8.Proofs.Table

/-!
# The reachable machines

What holds of every machine that a program can come to, whatever the program,
the dialect, the random numbers and the keys, and whether steps are made or
refused.

- `Machine.Reachable`: a fresh machine, or one after a step.
- `Machine.Invariant`: the bounds of the index, the program counter, the stack and
  the timers, and the phase of the timers.
- `Invariant.step`, `Reachable.invariant`: one step keeps the invariant, so all
  reachable machines have it.

The bound of the program counter needs that of the stack's entries, and that of
the timers the one of the registers, so the clauses hold together or not at all.
-/

namespace Chip8

namespace Machine

/-- The machines that programs come to, by steps that are made or refused. -/
inductive Reachable : Machine → Prop
  | fresh {program : List UInt8} {dialect : Dialect} {source : RandomSource} {journal : Journal}
      {m : Machine} (h : ofProgram? program dialect source journal = .ok m) : Reachable m
  | step {m : Machine} (keys : List Int) (h : Reachable m) : Reachable ((step keys).on m).2

/-- The bounds that every program respects. -/
structure Invariant (m : Machine) : Prop where
  index : 0 ≤ m.registers.index ∧ m.registers.index ≤ 0xFFFF
  counter : 0 ≤ m.registers.counter ∧ m.registers.counter ≤ 0x10FE
  depth : m.stack.depth ≤ CallStack.room
  /-- A call is made where a whole word can be fetched. -/
  entries : ∀ a ∈ m.stack.entries, 0 ≤ a ∧ a ≤ 0xFFE
  delay : 0 ≤ m.timers.delay ∧ m.timers.delay ≤ 255
  sound : 0 ≤ m.timers.sound ∧ m.timers.sound ≤ 255
  phase : m.timers.untilDecay = 8 - m.cycles % 8

theorem invariant_fresh (program : List UInt8) (dialect : Dialect) (source : RandomSource)
    (journal : Journal) : Invariant (fresh program dialect source journal) where
  index := show (0 : Int) ≤ 0 ∧ (0 : Int) ≤ 0xFFFF by decide
  counter := show (0 : Int) ≤ 0x200 ∧ (0x200 : Int) ≤ 0x10FE by decide
  depth := Nat.zero_le _
  entries a ha := nomatch ha
  delay := show (0 : Int) ≤ 0 ∧ (0 : Int) ≤ 255 by decide
  sound := show (0 : Int) ≤ 0 ∧ (0 : Int) ≤ 255 by decide
  phase := rfl

/-! ## One instruction -/

section Instructions

variable {i : Instruction} {counter : Int} {keys : List Int} {m : Machine}

theorem general_lt (m : Machine) (x : Register) : m.view.general x < 256 :=
  (m.registers.get x).toNat_lt

/-- An instruction that is performed leaves the index within sixteen bits. -/
theorem effect_index (keys : List Int)
    (h : 0 ≤ m.registers.index ∧ m.registers.index ≤ 0xFFFF)
    (hrefusal : i.refusal counter m = none) :
    0 ≤ (i.effect counter keys m.view).index ∧
      (i.effect counter keys m.view).index ≤ 0xFFFF := by
  -- behind a transfer the index is at most one past memory
  have hpass : ∀ n : Nat, Memory.InRange m.registers.index n → ∀ s : View,
      s.index = m.registers.index → 0 ≤ (s.pass n).index ∧ (s.pass n).index ≤ 0xFFFF := by
    intro n hin s hs
    have hend := hin.2
    simp only [View.pass, hs]
    split <;> omega
  cases i with
  | setIndex address =>
    have hlt := address.isLt
    simp only [Instruction.effect]
    omega
  | addIndex x =>
    simp only [Instruction.effect]
    omega
  | setIndexToDigit x =>
    have hlt := general_lt m x
    simp only [Instruction.effect]
    omega
  | dump x => exact hpass _ (Memory.refusal_eq_none.1 hrefusal) _ rfl
  | restore x => exact hpass _ (Memory.refusal_eq_none.1 hrefusal) _ rfl
  | awaitKey x =>
    simp only [Instruction.effect]
    split <;> exact h
  | _ => exact h

/-- An instruction that is performed leaves at most sixteen open calls, each of them made where a
whole word can be fetched. -/
theorem effect_stack (keys : List Int) (hdepth : m.stack.depth ≤ CallStack.room)
    (hentries : ∀ a ∈ m.stack.entries, 0 ≤ a ∧ a ≤ 0xFFE) (hcounter : 0 ≤ counter ∧ counter ≤ 0xFFE)
    (hrefusal : i.refusal counter m = none) :
    (i.effect counter keys m.view).stack.length ≤ CallStack.room ∧
      ∀ a ∈ (i.effect counter keys m.view).stack, 0 ≤ a ∧ a ≤ 0xFFE := by
  cases i with
  | ret =>
    refine ⟨?_, fun a ha => hentries a (List.mem_of_mem_tail ha)⟩
    show m.stack.entries.tail.length ≤ CallStack.room
    rw [List.length_tail]
    exact Nat.le_trans (Nat.sub_le _ _) hdepth
  | call target =>
    have hroom : ¬ CallStack.room ≤ m.stack.depth := by
      simpa [Instruction.refusal] using hrefusal
    refine ⟨Nat.lt_of_not_le hroom, ?_⟩
    intro a ha
    rcases List.mem_cons.1 ha with rfl | hold
    · exact hcounter
    · exact hentries a hold
  | awaitKey x =>
    simp only [Instruction.effect]
    split <;> exact ⟨hdepth, hentries⟩
  | _ => exact ⟨hdepth, hentries⟩

/-- An instruction that is performed leaves both timers within a byte. -/
theorem effect_timers (i : Instruction) (counter : Int) (keys : List Int)
    (hdelay : 0 ≤ m.timers.delay ∧ m.timers.delay ≤ 255)
    (hsound : 0 ≤ m.timers.sound ∧ m.timers.sound ≤ 255) :
    (0 ≤ (i.effect counter keys m.view).delay ∧ (i.effect counter keys m.view).delay ≤ 255) ∧
      0 ≤ (i.effect counter keys m.view).sound ∧ (i.effect counter keys m.view).sound ≤ 255 := by
  cases i with
  | setDelay x =>
    have hlt := general_lt m x
    refine ⟨?_, hsound⟩
    simp only [Instruction.effect]
    omega
  | setSound x =>
    have hlt := general_lt m x
    refine ⟨hdelay, ?_⟩
    simp only [Instruction.effect]
    omega
  | awaitKey x =>
    simp only [Instruction.effect]
    split <;> exact ⟨hdelay, hsound⟩
  | _ => exact ⟨hdelay, hsound⟩

theorem effect_untilDecay (i : Instruction) (counter : Int) (keys : List Int) (s : View) :
    (i.effect counter keys s).untilDecay = s.untilDecay := by
  cases i with
  | awaitKey x =>
    simp only [Instruction.effect]
    split <;> rfl
  | _ => rfl

/-- An instruction in memory leads to an address a little behind memory at most: the sum of the
largest address and the largest byte. -/
theorem flow_counter (hcounter : 0 ≤ counter ∧ counter ≤ 0xFFE)
    (hentries : ∀ a ∈ m.stack.entries, 0 ≤ a ∧ a ≤ 0xFFE) :
    0 ≤ (i.flow keys m.view).counter counter ∧ (i.flow keys m.view).counter counter ≤ 0x10FE := by
  have hnext : 0 ≤ counter + 2 ∧ counter + 2 ≤ 0x10FE := by omega
  have hskip : ∀ (p : Prop) [Decidable p], 0 ≤ (Flow.skipIf p).counter counter ∧
      (Flow.skipIf p).counter counter ≤ 0x10FE := by
    intro p _
    unfold Flow.skipIf
    split
    · show 0 ≤ counter + 4 ∧ counter + 4 ≤ 0x10FE
      omega
    · exact hnext
  have htransfer : ∀ target : Int, 0 ≤ target ∧ target ≤ 0x10FE →
      0 ≤ (Flow.transfer target).counter counter ∧
        (Flow.transfer target).counter counter ≤ 0x10FE := by
    intro target ht
    simp only [Flow.counter]
    split
    · exact hnext
    · exact ht
  cases i with
  | halt =>
    show 0 ≤ counter ∧ counter ≤ 0x10FE
    omega
  | ret =>
    have hhead : 0 ≤ m.stack.entries.headD 0 ∧ m.stack.entries.headD 0 ≤ 0xFFE := by
      cases hm : m.stack.entries with
      | nil => decide
      | cons a rest => exact hentries a (hm ▸ List.mem_cons_self)
    exact htransfer (m.stack.entries.headD 0 + 2) (by omega)
  | jump target =>
    have hlt := target.isLt
    show 0 ≤ (target.val : Int) ∧ (target.val : Int) ≤ 0x10FE
    omega
  | call target =>
    have hlt := target.isLt
    exact htransfer target.val (by omega)
  | jumpFrom base =>
    have hlt := base.isLt
    have hoffset := general_lt m Register.base
    show 0 ≤ (base.val : Int) + m.view.general Register.base ∧
      (base.val : Int) + m.view.general Register.base ≤ 0x10FE
    omega
  | skipIfValue x value => exact hskip _
  | skipUnlessValue x value => exact hskip _
  | skipIfSame x y => exact hskip _
  | skipUnlessSame x y => exact hskip _
  | skipIfHeld x => exact hskip _
  | skipUnlessHeld x => exact hskip _
  | awaitKey x =>
    simp only [Instruction.flow]
    split
    · show 0 ≤ counter ∧ counter ≤ 0x10FE
      omega
    · exact hnext
  | _ => exact hnext

end Instructions

/-! ## Steps -/

variable {m m' : Machine} {keys : List Int}

/-- A step that is made keeps the invariant. -/
theorem Invariant.stepped (h : Invariant m) (hmade : m.refusal keys = none)
    (hstepped : Stepped keys m m') : Invariant m' := by
  obtain ⟨-, hin, hrefusal⟩ := refusal_eq_none.1 hmade
  -- the fetch leaves the two highest addresses behind
  have hcounter : 0 ≤ m.registers.counter ∧ m.registers.counter ≤ 0xFFE := by
    have hlow := hin.1
    have hhigh := hin.2
    omega
  obtain ⟨hdepth, hentries⟩ :=
    effect_stack keys h.depth h.entries hcounter hrefusal
  have hindex := effect_index keys h.index hrefusal
  obtain ⟨hdelay, hsound⟩ := effect_timers m.current m.registers.counter keys h.delay h.sound
  have hphase := effect_untilDecay m.current m.registers.counter keys m.view
  have hview := hstepped.view
  -- what is left is the tick of the timers
  generalize m.current.effect m.registers.counter keys m.view = s at *
  have hticked := View.timers_tick s
  have huntil := View.untilDecay_tick s
  rw [← View.index_tick, ← hview] at hindex
  rw [← View.stack_tick, ← hview] at hdepth hentries
  rw [← hview] at hticked huntil
  exact {
    index := hindex
    counter := hstepped.counter ▸ flow_counter hcounter h.entries
    depth := hdepth
    entries := hentries
    delay := by
      show 0 ≤ m'.view.delay ∧ m'.view.delay ≤ 255
      rcases hticked with ⟨hd, -⟩ | ⟨hd, -⟩
      · rwa [hd]
      · rw [hd]
        split <;> omega
    sound := by
      show 0 ≤ m'.view.sound ∧ m'.view.sound ≤ 255
      rcases hticked with ⟨-, hs⟩ | ⟨-, hs⟩
      · rwa [hs]
      · rw [hs]
        split <;> omega
    phase := by
      have hold : s.untilDecay = 8 - m.cycles % 8 := hphase.trans h.phase
      show m'.view.untilDecay = 8 - m'.cycles % 8
      rw [huntil, hstepped.cycles]
      split <;> omega }

/-- Noting something down does not touch the bounds. -/
theorem Invariant.note (h : Invariant m) {notice : Notice} : Invariant (m.note notice) :=
  ⟨h.index, h.counter, h.depth, h.entries, h.delay, h.sound, h.phase⟩

/-- A step keeps the invariant, whether it is made or refused. -/
theorem Invariant.step (h : Invariant m) (keys : List Int) : Invariant ((step keys).on m).2 := by
  cases hrefusal : m.refusal keys with
  | some e =>
    rw [step_refused hrefusal]
    exact h
  | none =>
    obtain ⟨m', hrun, hstepped⟩ := step_made hrefusal
    rw [hrun]
    exact h.stepped hrefusal hstepped

/-- **Every reachable machine satisfies the invariant.** -/
theorem Reachable.invariant (h : Reachable m) : Invariant m := by
  induction h with
  | @fresh program dialect source journal m hm =>
    obtain ⟨-, rfl⟩ := ofProgram?_eq_ok hm
    exact invariant_fresh program dialect source journal
  | step keys _ ih => exact ih.step keys

end Machine

end Chip8
