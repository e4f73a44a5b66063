import Chip8.Proofs.Fresh

/-!
# Steps follow the instruction table

What a step that is made does to the machine, read off the table's row for the
word at the program counter.

- `Machine.step_table`: the state, the pause and the program counter after a
  step, for every word.
- `Machine.step_transfer`: where calls and returns lead, and what they do to the
  stack.

The step decides whether an instruction has moved the program counter by
comparing addresses. So a call of its own address, and a return that would go on
at itself, count as not having moved and the machine goes on behind them.
-/

namespace Chip8

namespace Machine

variable {m m' : Machine} {keys : List Int}

theorem word_lt (m : Machine) : m.word < 65536 :=
  m.memory.wordAt_lt _

/-! ## The row of a word -/

/-- The instruction at the program counter is that of the row that the word there matches. -/
theorem current_of_matches {op : Opcode} (hop : op ∈ opcodes)
    (hw : Word.Matches op.pattern m.word) : m.current = op.instruction (.ofWord m.word) :=
  Instruction.decode_of_matches hop hw

/-- The word at the program counter matches the row of its instruction. -/
theorem matches_of_current {op : Opcode} (hop : op ∈ opcodes) {o : Operands}
    (h : m.current = op.instruction o) : Word.Matches op.pattern m.word :=
  (Instruction.decode_iff_matches m.word_lt hop).1 ⟨o, h⟩

theorem matches_iff {op : Opcode} (hop : op ∈ opcodes) :
    Word.Matches op.pattern m.word ↔ m.current = op.instruction (.ofWord m.word) :=
  ⟨current_of_matches hop, matches_of_current hop⟩

/-- The instruction at the program counter is in the table or unknown. -/
theorem current_cases (m : Machine) :
    (∃ op ∈ opcodes, m.current = op.instruction (.ofWord m.word)) ∨
      m.current = .unknown m.word := by
  by_cases h : ∃ op ∈ opcodes, Word.Matches op.pattern m.word
  · obtain ⟨op, hop, hw⟩ := h
    exact .inl ⟨op, hop, current_of_matches hop hw⟩
  · exact .inr (Instruction.decode_unlisted m.word_lt fun op hop hw => h ⟨op, hop, hw⟩)

/-! The rows that are spoken of by their pattern. -/

theorem mem_halt : (⟨"0000", fun _ => .halt⟩ : Opcode) ∈ opcodes := by simp [opcodes]

theorem mem_ret : (⟨"00EE", fun _ => .ret⟩ : Opcode) ∈ opcodes := by simp [opcodes]

theorem mem_jump : (⟨"1NNN", fun o => .jump o.nnn⟩ : Opcode) ∈ opcodes := by simp [opcodes]

theorem mem_call : (⟨"2NNN", fun o => .call o.nnn⟩ : Opcode) ∈ opcodes := by simp [opcodes]

theorem mem_shiftRight : (⟨"8XY6", fun o => .shiftRight o.x o.y⟩ : Opcode) ∈ opcodes := by
  simp [opcodes]

theorem mem_shiftLeft : (⟨"8XYE", fun o => .shiftLeft o.x o.y⟩ : Opcode) ∈ opcodes := by
  simp [opcodes]

theorem mem_jumpFrom : (⟨"BNNN", fun o => .jumpFrom o.nnn⟩ : Opcode) ∈ opcodes := by
  simp [opcodes]

theorem mem_random : (⟨"CXNN", fun o => .random o.x o.nn⟩ : Opcode) ∈ opcodes := by simp [opcodes]

theorem mem_draw : (⟨"DXYN", fun o => .draw o.x o.y o.n⟩ : Opcode) ∈ opcodes := by simp [opcodes]

theorem mem_skipIfHeld : (⟨"EX9E", fun o => .skipIfHeld o.x⟩ : Opcode) ∈ opcodes := by
  simp [opcodes]

theorem mem_skipUnlessHeld : (⟨"EXA1", fun o => .skipUnlessHeld o.x⟩ : Opcode) ∈ opcodes := by
  simp [opcodes]

theorem mem_awaitKey : (⟨"FX0A", fun o => .awaitKey o.x⟩ : Opcode) ∈ opcodes := by simp [opcodes]

theorem mem_storeDecimal : (⟨"FX33", fun o => .storeDecimal o.x⟩ : Opcode) ∈ opcodes := by
  simp [opcodes]

theorem mem_dump : (⟨"FX55", fun o => .dump o.x⟩ : Opcode) ∈ opcodes := by simp [opcodes]

theorem mem_restore : (⟨"FX65", fun o => .restore o.x⟩ : Opcode) ∈ opcodes := by simp [opcodes]

/-! ## Whole steps -/

/-- A step changes memory only for the two words that store, and only where they store. -/
theorem Stepped.byte (h : Stepped keys m m') {a : Nat} (hne : m'.view.byte a ≠ m.view.byte a) :
    Word.Matches "FX33" m.word ∧ m.registers.index.toNat ≤ a ∧ a ≤ m.registers.index.toNat + 2 ∨
      Word.Matches "FX55" m.word ∧ m.registers.index.toNat ≤ a ∧
        a ≤ m.registers.index.toNat + (Operands.ofWord m.word).x.val := by
  rw [h.view, View.byte_tick] at hne
  rcases Instruction.effect_byte hne with ⟨x, hx, hrange⟩ | ⟨x, hx, hrange⟩
  · exact .inl ⟨matches_of_current mem_storeDecimal (o := { Operands.ofWord 0 with x }) hx, hrange⟩
  · have hrow := matches_of_current mem_dump (o := { Operands.ofWord 0 with x }) hx
    have hcurrent := (current_of_matches mem_dump hrow).symm.trans hx
    obtain rfl : (Operands.ofWord m.word).x = x := by injection hcurrent
    exact .inr ⟨hrow, hrange⟩

/-- What a step does, by the instruction at the program counter. -/
theorem Stepped.row {i : Instruction} (h : Stepped keys m m') (hcurrent : m.current = i) :
    m'.view = (i.effect m.registers.counter keys m.view).tick ∧
      m'.paused = decide ((i.flow keys m.view).Pauses m.registers.counter) ∧
      m'.registers.counter = (i.flow keys m.view).counter m.registers.counter := by
  subst hcurrent
  exact ⟨h.view, h.paused, h.counter⟩

/-- **Steps follow the instruction table.** A step that is made is counted. If its word matches a
row of the table, the row's instruction with the word's operands has its effect on the state as it
was, then the timers tick, and the row's flow decides on the pause and on the program counter. A
word that matches no row only lets the timers tick and is passed over. Memory changes only where
`FX33` and `FX55` store. -/
theorem step_table (h : (step keys).on m = (.ok (), m')) :
    m'.cycles = m.cycles + 1 ∧
    (∀ op ∈ opcodes, Word.Matches op.pattern m.word →
      let instruction := op.instruction (.ofWord m.word)
      let flow := instruction.flow keys m.view
      m'.view = (instruction.effect m.registers.counter keys m.view).tick ∧
      m'.paused = decide (flow.Pauses m.registers.counter) ∧
      m'.registers.counter = flow.counter m.registers.counter) ∧
    ((∀ op ∈ opcodes, ¬ Word.Matches op.pattern m.word) →
      m'.view = m.view.tick ∧ m'.paused = false ∧
      m'.registers.counter = m.registers.counter + 2) ∧
    ∀ a, m'.view.byte a ≠ m.view.byte a →
      Word.Matches "FX33" m.word ∧ m.registers.index.toNat ≤ a ∧
          a ≤ m.registers.index.toNat + 2 ∨
        Word.Matches "FX55" m.word ∧ m.registers.index.toNat ≤ a ∧
          a ≤ m.registers.index.toNat + (Operands.ofWord m.word).x.val := by
  obtain ⟨-, hstepped⟩ := stepped h
  refine ⟨hstepped.cycles, ?_, ?_, fun a => hstepped.byte⟩
  · intro op hop hw
    exact hstepped.row (current_of_matches hop hw)
  · intro hnone
    have hcurrent : m.current = .unknown m.word :=
      Instruction.decode_unlisted m.word_lt hnone
    exact hstepped.row hcurrent

/-- The program `6005` puts five into its first register and goes on. -/
theorem step_table_setValue :
    ∃ m', (step []).on (fresh [0x60, 0x05] {} (.cycle #[]) #[]) = (.ok (), m') ∧
      m'.view.general 0 = 5 ∧ m'.registers.counter = 0x202 := by
  have hword : (fresh [0x60, 0x05] {} (.cycle #[]) #[]).word = 0x6005 :=
    word_fresh (by decide)
  obtain ⟨m', hrun, -⟩ := step_fresh hword rfl
  obtain ⟨-, hrow, -⟩ := step_table hrun
  have hset := hrow ⟨"6XNN", fun o => .setValue o.x o.nn⟩ (by simp [opcodes])
    (by rw [hword]; decide)
  rw [hword] at hset
  obtain ⟨hview, -, hcounter⟩ := hset
  refine ⟨m', hrun, ?_, hcounter⟩
  rw [hview]
  rfl

/-! ## Calls and returns -/

theorem Stepped.stack {i : Instruction} (h : Stepped keys m m') (hcurrent : m.current = i) :
    m'.stack.entries = (i.effect m.registers.counter keys m.view).stack := by
  have hview := congrArg View.stack (h.row hcurrent).1
  rw [View.stack_tick] at hview
  exact hview

/-- A call opens a frame for its own address. -/
theorem Stepped.call (h : Stepped keys m m') (hw : Word.Matches "2NNN" m.word) :
    m'.stack.frames = m.stack.frames ++ [m.registers.counter] ∧
      m'.registers.counter =
        if ((m.word % 4096 : Nat) : Int) = m.registers.counter then m.registers.counter + 2
        else ((m.word % 4096 : Nat) : Int) := by
  have hcurrent := current_of_matches mem_call hw
  obtain ⟨-, -, hcounter⟩ := h.row hcurrent
  refine ⟨?_, hcounter⟩
  rw [CallStack.frames, h.stack hcurrent]
  exact List.reverse_cons

/-- A return closes the latest frame. -/
theorem Stepped.ret (h : Stepped keys m m') (hmade : m.refusal keys = none)
    (hw : Word.Matches "00EE" m.word) :
    ∃ address, m.stack.pop = .ok (address, m'.stack) ∧
      m'.registers.counter =
        if address + 2 = m.registers.counter then m.registers.counter + 2 else address + 2 := by
  have hcurrent := current_of_matches mem_ret hw
  obtain ⟨-, -, hcounter⟩ := h.row hcurrent
  -- a return without a call would have been refused
  have hopen : m.stack.entries ≠ [] := by
    obtain ⟨-, -, hnone⟩ := refusal_eq_none.1 hmade
    rw [hcurrent] at hnone
    simpa [Instruction.refusal] using hnone
  obtain ⟨address, rest, hentries⟩ := List.exists_cons_of_ne_nil hopen
  have hhead : m.stack.entries.headD 0 = address := by rw [hentries, List.headD_cons]
  have hrest : m'.stack = ⟨rest⟩ := by
    refine congrArg CallStack.mk ((h.stack hcurrent).trans ?_)
    show m.stack.entries.tail = rest
    rw [hentries, List.tail_cons]
  refine ⟨address, ?_, ?_⟩
  · rw [CallStack.pop, hentries, hrest]
  · rw [← hhead]
    exact hcounter

/-- **Where calls and returns lead.** A call that is made has the address of its word, unless that
is the call's own; a return that is made goes on behind the call that it closes, unless that is the
return itself. In the two exceptions the machine goes on behind the instruction. -/
theorem step_transfer (h : (step keys).on m = (.ok (), m')) :
    (Word.Matches "2NNN" m.word →
      let target : Int := ((m.word % 4096 : Nat) : Int)
      m'.stack.frames = m.stack.frames ++ [m.registers.counter] ∧
      (m'.registers.counter = target ↔ target ≠ m.registers.counter) ∧
      (target = m.registers.counter → m'.registers.counter = m.registers.counter + 2)) ∧
    (Word.Matches "00EE" m.word →
      ∃ address, m.stack.pop = .ok (address, m'.stack) ∧
        (m'.registers.counter = address + 2 ↔ address + 2 ≠ m.registers.counter) ∧
        (address + 2 = m.registers.counter →
          m'.registers.counter = m.registers.counter + 2)) := by
  obtain ⟨hmade, hstepped⟩ := stepped h
  constructor
  · intro hw
    obtain ⟨hframes, hcounter⟩ := hstepped.call hw
    refine ⟨hframes, ?_, ?_⟩
    · split at hcounter <;> omega
    · intro hself
      rw [hcounter, if_pos hself]
  · intro hw
    obtain ⟨address, hpop, hcounter⟩ := hstepped.ret hmade hw
    refine ⟨address, hpop, ?_, ?_⟩
    · split at hcounter <;> omega
    · intro hself
      rw [hcounter, if_pos hself]

/-- The program `2204` calls what is behind it. -/
theorem step_transfer_ahead :
    ∃ m', (step []).on (fresh [0x22, 0x04] {} (.cycle #[]) #[]) = (.ok (), m') ∧
      m'.stack.frames = [0x200] ∧ m'.registers.counter = 0x204 := by
  have hword : (fresh [0x22, 0x04] {} (.cycle #[]) #[]).word = 0x2204 :=
    word_fresh (by decide)
  obtain ⟨m', hrun, -⟩ := step_fresh hword rfl
  obtain ⟨hframes, hcounter, -⟩ := (step_transfer hrun).1 (by rw [hword]; decide)
  rw [hword] at hcounter
  exact ⟨m', hrun, hframes, hcounter.2 (by decide)⟩

/-- The program `2200` calls itself, and goes on behind the call. -/
theorem call_of_itself :
    ∃ m m', ofProgram? [0x22, 0x00] {} (.cycle #[]) #[] = .ok m ∧
      (step []).on m = (.ok (), m') ∧ Word.Matches "2NNN" m.word ∧
      m'.registers.counter ≠ ((m.word % 4096 : Nat) : Int) := by
  have hword : (fresh [0x22, 0x00] {} (.cycle #[]) #[]).word = 0x2200 :=
    word_fresh (by decide)
  obtain ⟨m', hrun, hstepped⟩ := step_fresh hword rfl
  refine ⟨_, m', ofProgram?_fits (by decide), hrun, by rw [hword]; decide, ?_⟩
  have hcounter := hstepped.counter
  rw [current, hword] at hcounter
  rw [hcounter, hword]
  decide

end Machine

end Chip8
