import Chip8.Proofs.Run

/-!
# What a machine sees of the keys

Three words ask for the keys held, and even they learn little about them. All
other words pass the keys over, so two runs from one machine stay together as
long as they hold the same keys whenever one of the three is executed.

- `Word.AsksKeys`: the words that ask for the keys.
- `Machine.seesAlike_skip`, `Machine.seesAlike_wait`: what these words see of
  the keys.
- `Machine.step_congr_keys`: two steps that see the same are the same.
- `Machine.keys_seen`: two runs with different keys.
-/

namespace Chip8

/-- The word skips on a key or waits for one. -/
def Word.AsksKeys (w : Nat) : Prop :=
  Matches "EX9E" w ∨ Matches "EXA1" w ∨ Matches "FX0A" w

namespace Machine

variable {m m' : Machine} {a b : List Int}

/-- A skip sees whether one key is held. -/
theorem seesAlike_skip (hw : Word.Matches "EX9E" m.word ∨ Word.Matches "EXA1" m.word)
    (hkey : ((m.registers.get (Operands.ofWord m.word).x).toNat : Int) ∈ a ↔
      ((m.registers.get (Operands.ofWord m.word).x).toNat : Int) ∈ b) :
    m.current.SeesAlike m.view a b := by
  rcases hw with hheld | hfree
  · rw [current_of_matches mem_skipIfHeld hheld]
    exact hkey
  · rw [current_of_matches mem_skipUnlessHeld hfree]
    exact hkey

/-- A wait sees the least key held. -/
theorem seesAlike_wait (hw : Word.Matches "FX0A" m.word) (hmin : a.min? = b.min?) :
    m.current.SeesAlike m.view a b := by
  rw [current_of_matches mem_awaitKey hw]
  exact hmin

/-- All other words see nothing. -/
theorem seesAlike_of_not_asks (hw : ¬ Word.AsksKeys m.word) :
    m.current.SeesAlike m.view a b := by
  cases hcurrent : m.current with
  | skipIfHeld x =>
    exact absurd (.inl (matches_of_current mem_skipIfHeld
      (o := { Operands.ofWord 0 with x }) hcurrent)) hw
  | skipUnlessHeld x =>
    exact absurd (.inr (.inl (matches_of_current mem_skipUnlessHeld
      (o := { Operands.ofWord 0 with x }) hcurrent))) hw
  | awaitKey x =>
    exact absurd (.inr (.inr (matches_of_current mem_awaitKey
      (o := { Operands.ofWord 0 with x }) hcurrent))) hw
  | _ => trivial

/-- Words see the same of keys that are the same where the word asks for them. -/
theorem seesAlike_of_asks (h : Word.AsksKeys m.word → ∀ k, k ∈ a ↔ k ∈ b) :
    m.current.SeesAlike m.view a b := by
  by_cases hasks : Word.AsksKeys m.word
  · exact Instruction.seesAlike_of_mem (h hasks) _ _
  · exact seesAlike_of_not_asks hasks

/-! ## One step -/

/-- A step is the same with keys of which it sees the same. -/
theorem Stepped.congr_keys (h : Stepped a m m') (hsees : m.current.SeesAlike m.view a b) :
    Stepped b m m' := by
  obtain ⟨hview, hcounter, hpaused, hcycles, hjournal⟩ := h
  rw [Instruction.effect_congr_keys hsees] at hview
  rw [Instruction.flow_congr_keys hsees] at hcounter hjournal
  simp only [Instruction.flow_congr_keys hsees] at hpaused
  exact ⟨hview, hcounter, hpaused, hcycles, hjournal⟩

/-- **Steps that see the same are the same**, whether they are made or refused. -/
theorem step_congr_keys (ha : ∀ k ∈ a, Keypad.IsCode k) (hb : ∀ k ∈ b, Keypad.IsCode k)
    (hsees : m.refusal a = none → m.current.SeesAlike m.view a b) :
    (step a).on m = (step b).on m := by
  have hrefusal : m.refusal b = m.refusal a := by rw [refusal_codes ha, refusal_codes hb]
  obtain ⟨hresult, hmachine⟩ := step_related (R := Eq) rfl hrefusal fun hmade m' hstepped =>
    ⟨m', hstepped.congr_keys (hsees hmade), rfl⟩
  exact Prod.ext hresult hmachine

/-! ## Runs -/

/-- **What a machine sees of the keys.** Two runs from one machine are given valid keys. If the keys
are the same, as sets, in each step made whose word is `EX9E`, `EXA1` or `FX0A`, then the runs have
the same results and go through the same states, whatever keys are held in the other steps. Of the
keys in such a step it matters for `EX9E` and `EXA1` only whether that of `VX` is among them, which
it never is for a `VX` above 15, and for `FX0A` only whether there are any and which is the least. -/
theorem keys_seen (m : Machine) :
    (∀ first second : List (List Int), first.length = second.length →
      (∀ ks ∈ first ++ second, ∀ k ∈ ks, Keypad.IsCode k) →
      (∀ i (_ : i < first.length) (_ : i < second.length), m.MadeAt first i →
        Word.AsksKeys (m.before first i).word → ∀ k, k ∈ first[i] ↔ k ∈ second[i]) →
      ∀ n ≤ first.length, m.before first n = m.before second n ∧
        ∀ i < n, m.result? first i = m.result? second i) ∧
    ∀ a b : List Int, (∀ k ∈ a ++ b, Keypad.IsCode k) →
      let vx : Int := (m.registers.get (Operands.ofWord m.word).x).toNat
      (Word.Matches "EX9E" m.word ∨ Word.Matches "EXA1" m.word →
        (15 < vx → vx ∉ a ∧ vx ∉ b) ∧
        ((vx ∈ a ↔ vx ∈ b) → (step a).on m = (step b).on m)) ∧
      (Word.Matches "FX0A" m.word → a.min? = b.min? → (step a).on m = (step b).on m) := by
  constructor
  · intro first second hlength hcodes hkeys n hn
    refine lockstep hlength rfl hn fun i hi hsame => ?_
    have hfirst : i < first.length := Nat.lt_of_lt_of_le hi hn
    have hsecond : i < second.length := hlength ▸ hfirst
    -- the runs have come to the same machine, which sees the same of both lists
    have hstep : (step first[i]).on (m.before first i) = (step second[i]).on (m.before first i) := by
      refine step_congr_keys ?_ ?_ fun hmade => seesAlike_of_asks (hkeys i hfirst hsecond ?_)
      · exact hcodes _ (List.mem_append_left _ (List.getElem_mem hfirst))
      · exact hcodes _ (List.mem_append_right _ (List.getElem_mem hsecond))
      · exact (madeAt_iff_refusal hfirst).2 hmade
    rw [← hsame, hstep]
    exact ⟨rfl, rfl⟩
  · intro a b hcodes vx
    have ha : ∀ k ∈ a, Keypad.IsCode k := fun k hk => hcodes k (List.mem_append_left _ hk)
    have hb : ∀ k ∈ b, Keypad.IsCode k := fun k hk => hcodes k (List.mem_append_right _ hk)
    constructor
    · intro hskips
      constructor
      · intro hhigh
        have hnone : ∀ ks : List Int, (∀ k ∈ ks, Keypad.IsCode k) → vx ∉ ks := by
          intro ks hks hmem
          have hlow := (hks vx hmem).2
          omega
        exact ⟨hnone a ha, hnone b hb⟩
      · intro hkey
        exact step_congr_keys ha hb fun _ => seesAlike_skip hskips hkey
    · intro hwaits hmin
      exact step_congr_keys ha hb fun _ => seesAlike_wait hwaits hmin

/-- The program `6005 E09E` skips on the key 5, which is held in both runs; the other keys are
different. -/
theorem keys_seen_skip :
    ∃ start, ofProgram? [0x60, 0x05, 0xE0, 0x9E] {} (.cycle #[]) #[] = .ok start ∧
      start.after [[3], [5, 1]] = start.after [[], [1, 5, 5]] ∧
      (start.after [[3], [5, 1]]).registers.counter = 0x206 := by
  let start := fresh [0x60, 0x05, 0xE0, 0x9E] {} (.cycle #[]) #[]
  have hstart : ofProgram? [0x60, 0x05, 0xE0, 0x9E] {} (.cycle #[]) #[] = .ok start :=
    ofProgram?_fits (by decide)
  have hrun : ¬ Word.AsksKeys start.word ∧
      (start.after [[3], [5, 1]]).registers.counter = 0x206 := by
    unfold Word.AsksKeys
    decide +kernel
  clear_value start
  obtain ⟨hquiet, hcounter⟩ := hrun
  obtain ⟨hruns, -⟩ := keys_seen start
  obtain ⟨hsame, -⟩ := hruns [[3], [5, 1]] [[], [1, 5, 5]] rfl (by decide)
    (by
      intro i hi _ _ hasks
      rcases i with _ | _ | i
      · exact absurd hasks hquiet
      · intro k
        show k ∈ [5, 1] ↔ k ∈ [1, 5, 5]
        simp [or_comm]
      · exact absurd hi (by simp)) 2 (by decide)
  exact ⟨start, hstart, hsame, hcounter⟩

end Machine

end Chip8
