import Chip8.Proofs.Run
import Mathlib.Logic.Function.Iterate

/-!
# Machines at rest

When a step pauses the machine, and what goes on while it rests.

- `Machine.Parks`: the word at the program counter ends the program or jumps to
  itself.
- `Machine.pauses_iff`: these words pause the machine, and a wait for a key does
  while no key is held.
- `Machine.idle`: a machine that has rested for some steps.
- `Machine.after_idle`: a run of a machine at rest only idles.
- `Machine.step_pause`: the exact causes of a pause, and how long it lasts.

An instruction that pauses changes nothing that it reads, neither its word nor
the register in its address, so the next step finds it again.
-/

namespace Chip8

/-! ## Instructions that pause -/

namespace Instruction

variable {i : Instruction} {counter : Int} {keys : List Int} {s : View}

/-- The instructions that pause. -/
theorem pauses_flow : (i.flow keys s).Pauses counter ↔
    match i with
    | halt => True
    | jump target => (target.val : Int) = counter
    | jumpFrom base => (base.val : Int) + s.general Register.base = counter
    | awaitKey _ => keys = []
    | _ => False := by
  have hskip : ∀ (p : Prop) [Decidable p], (Flow.skipIf p).Pauses counter ↔ False := by
    intro p _
    unfold Flow.skipIf
    split <;> exact Iff.rfl
  cases i with
  | skipIfValue x value => exact hskip _
  | skipUnlessValue x value => exact hskip _
  | skipIfSame x y => exact hskip _
  | skipUnlessSame x y => exact hskip _
  | skipIfHeld x => exact hskip _
  | skipUnlessHeld x => exact hskip _
  | awaitKey x =>
    simp only [flow]
    split
    · next h => exact iff_of_true trivial h
    · next h => exact iff_of_false id h
  | _ => exact Iff.rfl

/-- An instruction that pauses has no effect, is never refused and notes nothing down. -/
theorem pauses_idle (h : (i.flow keys s).Pauses counter) (m : Machine) :
    i.effect counter keys s = s ∧ i.refusal counter m = none ∧ i.notices = #[] := by
  rw [pauses_flow] at h
  cases i with
  | halt => exact ⟨rfl, rfl, rfl⟩
  | jump target => exact ⟨rfl, rfl, rfl⟩
  | jumpFrom base => exact ⟨rfl, rfl, rfl⟩
  | awaitKey x =>
    obtain rfl : keys = [] := h
    exact ⟨rfl, rfl, rfl⟩
  | _ => exact h.elim

end Instruction

namespace Machine

variable {m m' : Machine} {keys : List Int}

/-- The word at the program counter ends the program, or is a jump to its own address. -/
def Parks (m : Machine) : Prop :=
  Word.Matches "0000" m.word ∨
    Word.Matches "1NNN" m.word ∧ ((m.word % 4096 : Nat) : Int) = m.registers.counter ∨
    Word.Matches "BNNN" m.word ∧
      ((m.word % 4096 : Nat) : Int) + (m.registers.get Register.base).toNat = m.registers.counter

/-- The words that pause the machine. -/
theorem pauses_iff (m : Machine) (keys : List Int) :
    (m.current.flow keys m.view).Pauses m.registers.counter ↔
      m.Parks ∨ Word.Matches "FX0A" m.word ∧ keys = [] := by
  have hnnn : m.word % 4096 = (Operands.ofWord m.word).nnn.val := rfl
  have hbase : (m.registers.get Register.base).toNat = m.view.general Register.base := rfl
  rw [Parks, hnnn, hbase, Instruction.pauses_flow, matches_iff mem_halt, matches_iff mem_jump,
    matches_iff mem_jumpFrom, matches_iff mem_awaitKey]
  -- one case for each row of the table, and one for the words in none
  rcases current_cases m with ⟨op, hop, hrow⟩ | hunknown
  · rw [hrow]
    fin_cases hop
    all_goals simp
  · rw [hunknown]
    simp

/-! ## Idling -/

/-- The machine after `n` steps at rest: the timers have ticked and the steps are counted. -/
def idle (m : Machine) (n : Nat) : Machine :=
  { m with timers := Timers.tick^[n] m.timers, cycles := m.cycles + n }

@[simp] theorem registers_idle (m : Machine) (n : Nat) : (m.idle n).registers = m.registers := rfl

@[simp] theorem word_idle (m : Machine) (n : Nat) : (m.idle n).word = m.word := rfl

theorem idle_succ (m : Machine) (n : Nat) : m.idle (n + 1) = (m.idle 1).idle n := by
  rw [idle, idle, idle, Nat.add_assoc, Nat.add_comm 1 n, Function.iterate_succ_apply]
  rfl

/-- Where an idle machine goes on does not depend on how long it has idled. -/
theorem flow_idle (i : Instruction) (keys : List Int) (m : Machine) (n : Nat) :
    i.flow keys (m.idle n).view = i.flow keys m.view :=
  i.flow_congr keys rfl rfl

/-- A step that pauses leaves everything else as an idle machine has it. -/
theorem Stepped.rest (h : Stepped keys m m')
    (hpauses : (m.current.flow keys m.view).Pauses m.registers.counter) :
    m' = { m.idle 1 with
      paused := true
      journal := m.journal ++ m.restNotices (m.current.flow keys m.view) } := by
  obtain ⟨heffect, -, hnotices⟩ := Instruction.pauses_idle hpauses m
  refine ext_view ?_ ?_ ?_ h.cycles ?_
  · rw [h.view, heffect]
    exact (view_tick m).symm
  · rw [h.counter, Flow.counter_pauses hpauses]
    rfl
  · rw [h.paused]
    exact decide_eq_true hpauses
  · rw [h.journal, hnotices, Array.append_empty]

/-- A machine at rest idles in a step that pauses again. -/
theorem step_idle (hpaused : m.paused = true) (hcodes : ∀ k ∈ keys, Keypad.IsCode k)
    (hfetch : Memory.InRange m.registers.counter 2)
    (hpauses : (m.current.flow keys m.view).Pauses m.registers.counter) :
    (step keys).on m = (.ok (), m.idle 1) := by
  obtain ⟨-, hrefusal, -⟩ := Instruction.pauses_idle hpauses m
  obtain ⟨m', hrun, hstepped⟩ := step_made (refusal_eq_none.2 ⟨hcodes, hfetch, hrefusal⟩)
  have hquiet : m.restNotices (m.current.flow keys m.view) = #[] :=
    if_neg fun both => Bool.noConfusion (hpaused.symm.trans both.2)
  rw [hrun, hstepped.rest hpauses, hquiet, Array.append_empty, ← hpaused]
  rfl

/-- **A machine at rest only idles**, as long as each step pauses it again. -/
theorem after_idle (hpaused : m.paused = true) (hfetch : Memory.InRange m.registers.counter 2)
    {later : List (List Int)} (hcodes : ∀ ks ∈ later, ∀ k ∈ ks, Keypad.IsCode k)
    (hpauses : ∀ ks ∈ later, (m.current.flow ks m.view).Pauses m.registers.counter) :
    m.Makes later ∧ m.after later = m.idle later.length := by
  induction later generalizing m with
  | nil => exact ⟨makes_nil m, rfl⟩
  | cons ks rest ih =>
    have hstep := step_idle hpaused (hcodes ks List.mem_cons_self) hfetch
      (hpauses ks List.mem_cons_self)
    -- the idle machine is at the same word, with the same registers
    have hagain : ∀ ks ∈ rest,
        ((m.idle 1).current.flow ks (m.idle 1).view).Pauses (m.idle 1).registers.counter := by
      intro ks hks
      rw [flow_idle]
      exact hpauses ks (List.mem_cons_of_mem _ hks)
    obtain ⟨hmade, hafter⟩ := ih (m := m.idle 1) hpaused hfetch
      (fun ks hks => hcodes ks (List.mem_cons_of_mem _ hks)) hagain
    rw [makes_cons, after_cons, hstep]
    refine ⟨⟨rfl, hmade⟩, ?_⟩
    rw [List.length_cons, idle_succ m rest.length]
    exact hafter

/-! ## Causes and length of a pause -/

/-- A machine that waits for a key takes the least of those held and goes on. -/
theorem step_awaited (hw : Word.Matches "FX0A" m.word)
    (hfetch : Memory.InRange m.registers.counter 2) (hcodes : ∀ k ∈ keys, Keypad.IsCode k)
    (hkeys : keys ≠ []) :
    ∃ m', (step keys).on m = (.ok (), m') ∧
      (∃ low ∈ keys, (∀ k ∈ keys, low ≤ k) ∧
        ((m'.registers.get (Operands.ofWord m.word).x).toNat : Int) = low) ∧
      m'.paused = false ∧ m'.registers.counter = m.registers.counter + 2 := by
  have hcurrent := current_of_matches mem_awaitKey hw
  have hrefusal : m.current.refusal m.registers.counter m = none := by
    rw [hcurrent]
    rfl
  obtain ⟨m', hrun, hstepped⟩ := step_made (refusal_eq_none.2 ⟨hcodes, hfetch, hrefusal⟩)
  obtain ⟨hview, hpaused, hcounter⟩ := hstepped.row hcurrent
  simp only [Instruction.flow, if_neg hkeys] at hpaused hcounter
  obtain ⟨low, hlow⟩ := Option.ne_none_iff_exists'.1 (mt List.min?_eq_none_iff.1 hkeys)
  obtain ⟨hmem, hleast⟩ := List.min?_eq_some_iff.1 hlow
  have hget : (m'.registers.get (Operands.ofWord m.word).x).toNat = low.toNat := by
    have hgeneral := congrFun (congrArg View.general hview) (Operands.ofWord m.word).x
    simp only [View.general_tick, Instruction.effect, hlow, View.put, if_true] at hgeneral
    exact hgeneral
  refine ⟨m', hrun, ⟨low, hmem, hleast, ?_⟩, hpaused, hcounter⟩
  rw [hget, Int.toNat_of_nonneg (hcodes low hmem).1]

/-- After a pause the machine is at the same word with the same registers, so a run only idles if
each of its steps pauses the machine again. -/
theorem Stepped.after_rest (h : Stepped keys m m')
    (hfetch : Memory.InRange m.registers.counter 2)
    (hcause : m.Parks ∨ Word.Matches "FX0A" m.word ∧ keys = []) :
    m'.word = m.word ∧ m'.registers = m.registers ∧
      ∀ later : List (List Int), (∀ ks ∈ later, ∀ k ∈ ks, Keypad.IsCode k) →
        (∀ ks ∈ later, m.Parks ∨ Word.Matches "FX0A" m.word ∧ ks = []) →
        m'.Makes later ∧ m'.after later = m'.idle later.length := by
  have hm' := h.rest ((pauses_iff m keys).2 hcause)
  have hpaused : m'.paused = true := by rw [hm']
  have hregisters : m'.registers = m.registers := by
    rw [hm']
    rfl
  have hword : m'.word = m.word := by
    rw [hm']
    rfl
  refine ⟨hword, hregisters, fun later hcodes hagain => ?_⟩
  refine after_idle hpaused (hregisters ▸ hfetch) hcodes fun ks hks => ?_
  rw [pauses_iff, Parks, hword, hregisters]
  exact hagain ks hks

/-- **What pauses a machine, and for how long.** A step pauses the machine exactly if its word ends
the program or jumps to itself, or waits for a key and none is held. In the first two cases the
machine idles in every further step, whatever keys are held. A machine that waits idles while no
key is held, and the first step with keys held stores the least of them and goes on. -/
theorem step_pause (h : (step keys).on m = (.ok (), m')) :
    (m'.paused = true ↔ m.Parks ∨ Word.Matches "FX0A" m.word ∧ keys = []) ∧
    (m.Parks → ∀ later : List (List Int), (∀ ks ∈ later, ∀ k ∈ ks, Keypad.IsCode k) →
      m'.Makes later ∧ m'.after later = m'.idle later.length) ∧
    (Word.Matches "FX0A" m.word → keys = [] → ∀ n,
      (m'.Makes (List.replicate n []) ∧ m'.after (List.replicate n []) = m'.idle n) ∧
      ∀ ks : List Int, ks ≠ [] → (∀ k ∈ ks, Keypad.IsCode k) →
        m'.Makes (List.replicate n [] ++ [ks]) ∧
        let woken := m'.after (List.replicate n [] ++ [ks])
        (∃ low ∈ ks, (∀ k ∈ ks, low ≤ k) ∧
          ((woken.registers.get (Operands.ofWord m.word).x).toNat : Int) = low) ∧
        woken.paused = false ∧ woken.registers.counter = m.registers.counter + 2) := by
  obtain ⟨hmade, hstepped⟩ := stepped h
  obtain ⟨-, hfetch, -⟩ := refusal_eq_none.1 hmade
  refine ⟨?_, ?_, ?_⟩
  · rw [hstepped.paused, decide_eq_true_iff]
    exact pauses_iff m keys
  · intro hparks later hcodes
    obtain ⟨-, -, hidle⟩ := hstepped.after_rest hfetch (.inl hparks)
    exact hidle later hcodes fun _ _ => .inl hparks
  · rintro hwaits rfl n
    obtain ⟨hword, hregisters, hidle⟩ := hstepped.after_rest hfetch (.inr ⟨hwaits, rfl⟩)
    obtain ⟨hidles, hafter⟩ := hidle (List.replicate n [])
      (fun ks hks k hk => by rw [List.eq_of_mem_replicate hks] at hk; cases hk)
      (fun ks hks => .inr ⟨hwaits, List.eq_of_mem_replicate hks⟩)
    rw [List.length_replicate] at hafter
    refine ⟨⟨hidles, hafter⟩, fun ks hks hcodes => ?_⟩
    -- the machine still waits where it began to
    rw [← hword, ← word_idle m' n] at hwaits
    rw [← hregisters, ← registers_idle m' n] at hfetch
    obtain ⟨woken, hrun, hawaited⟩ := step_awaited hwaits hfetch hcodes hks
    rw [word_idle, hword, registers_idle, hregisters] at hawaited
    rw [makes_append, after_append, hafter, makes_cons, after_cons, hrun]
    exact ⟨⟨hidles, rfl, makes_nil _⟩, hawaited⟩

/-- The program `F30A` waits for a key through twenty steps, and then takes the least of three. -/
theorem step_pause_wait :
    ∃ start m', ofProgram? [0xF3, 0x0A] {} (.cycle #[]) #[] = .ok start ∧
      (step []).on start = (.ok (), m') ∧ m'.paused = true ∧
      m'.after (List.replicate 20 []) = m'.idle 20 ∧
      let woken := m'.after (List.replicate 20 [] ++ [[9, 4, 9]])
      (woken.registers.get 3).toNat = 4 ∧ woken.paused = false ∧
        woken.registers.counter = 0x202 := by
  have hword : (fresh [0xF3, 0x0A] {} (.cycle #[]) #[]).word = 0xF30A := word_fresh (by decide)
  obtain ⟨m', hrun, -⟩ := step_fresh hword rfl
  have hwaits : Word.Matches "FX0A" (fresh [0xF3, 0x0A] {} (.cycle #[]) #[]).word := by
    rw [hword]
    decide
  obtain ⟨hpaused, -, hwait⟩ := step_pause hrun
  obtain ⟨⟨-, hidle⟩, hwoken⟩ := hwait hwaits rfl 20
  obtain ⟨-, ⟨low, hlow, hleast, hget⟩, hresumed, hcounter⟩ :=
    hwoken [9, 4, 9] (by decide) (by decide)
  have hfour : low = 4 := by
    have hle := hleast 4 (by decide)
    simp only [List.mem_cons, List.not_mem_nil, or_false] at hlow
    omega
  have hregister : (Operands.ofWord (fresh [0xF3, 0x0A] {} (.cycle #[]) #[]).word).x = 3 := by
    rw [hword]
    rfl
  rw [hregister, hfour] at hget
  exact ⟨_, m', ofProgram?_fits (by decide), hrun, hpaused.2 (.inr ⟨hwaits, rfl⟩), hidle,
    Int.ofNat_inj.1 hget, hresumed, hcounter⟩

end Machine

end Chip8
