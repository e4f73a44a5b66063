import Chip8.Proofs.Run
import Mathlib.Data.Nat.Count

/-!
# The journal of a run

What the steps of a run note down. A step notes a word that is in no row of the instruction table,
and it notes that the machine comes to rest; no step notes anything else, and none takes a notice
back. So the journal of a run can be read off its machines.

- `Machine.StraysAt`, `Machine.RestsAt`: the steps that leave a notice.
- `Machine.noticesAt`: the notices of a step.
- `Stepped.notices`: what one step notes down.
- `Machine.journal_before`: the journal in the course of a run.
- `Machine.countP_notices`: each notice of a rest stands for one coming to rest.
- `Machine.journal_after`: the journal of a program's run.
-/

namespace Chip8

/-- A notice of a rest. -/
def Notice.isRest : Notice → Bool
  | paused _ => true
  | _ => false

namespace Machine

variable {m m' : Machine}

/-- The word at the program counter is in no row of the instruction table. -/
def Unlisted (m : Machine) : Prop :=
  ∀ op ∈ opcodes, ¬ Word.Matches op.pattern m.word

instance (m : Machine) : Decidable m.Unlisted :=
  inferInstanceAs (Decidable (∀ op ∈ opcodes, _))

/-! ## One step -/

/-- Of all words, those in no row of the table are noted down. -/
theorem notices_current (m : Machine) :
    m.current.notices = if m.Unlisted then #[.unknownWord m.word] else #[] := by
  by_cases hunlisted : m.Unlisted
  · have hcurrent : m.current = .unknown m.word := Instruction.decode_unlisted m.word_lt hunlisted
    rw [if_pos hunlisted, hcurrent]
    rfl
  · obtain ⟨op, hop, hw⟩ : ∃ op ∈ opcodes, Word.Matches op.pattern m.word := by
      simpa [Unlisted] using hunlisted
    rw [if_neg hunlisted, current_of_matches hop hw]
    -- one case for each row of the table
    fin_cases hop
    all_goals rfl

/-- A step that is made notes down a word in no row of the table, and then that the machine comes to
rest. -/
theorem Stepped.notices {keys : List Int} (h : Stepped keys m m') :
    m'.journal.toList = m.journal.toList ++
      ((if m.Unlisted then [.unknownWord m.word] else []) ++
        if m.paused = false ∧ m'.paused = true then [.paused m.registers.counter] else []) := by
  have hrests : (m.current.flow keys m.view).Pauses m.registers.counter ∧ m.paused = false ↔
      m.paused = false ∧ m'.paused = true := by
    rw [h.paused, decide_eq_true_iff, and_comm]
  rw [h.journal, notices_current, restNotices]
  simp only [hrests, Array.toList_append, List.append_assoc]
  split <;> split <;> rfl

/-! ## Runs -/

variable {keys : List (List Int)} {i n : Nat}

/-- The step at place `i` of a run is made, and its word is in no row of the table. -/
def StraysAt (m : Machine) (keys : List (List Int)) (i : Nat) : Prop :=
  m.MadeAt keys i ∧ (m.before keys i).Unlisted

/-- At place `i` of a run the machine comes to rest. -/
def RestsAt (m : Machine) (keys : List (List Int)) (i : Nat) : Prop :=
  (m.before keys i).paused = false ∧ (m.before keys (i + 1)).paused = true

instance (m : Machine) (keys : List (List Int)) : DecidablePred (m.StraysAt keys) :=
  fun _ => inferInstanceAs (Decidable (_ ∧ _))

instance (m : Machine) (keys : List (List Int)) : DecidablePred (m.RestsAt keys) :=
  fun _ => inferInstanceAs (Decidable (_ ∧ _))

/-- The notices of the step at place `i` of a run. -/
def noticesAt (m : Machine) (keys : List (List Int)) (i : Nat) : List Notice :=
  let here := m.before keys i
  (if m.StraysAt keys i then [.unknownWord here.word] else []) ++
    if m.MadeAt keys i ∧ m.RestsAt keys i then [.paused here.registers.counter] else []

/-- A machine comes to rest in steps only that are made. -/
theorem RestsAt.madeAt (h : m.RestsAt keys i) (hi : i < keys.length) : m.MadeAt keys i := by
  by_contra hrefused
  obtain ⟨hrunning, hresting⟩ := h
  rw [before_refused hi hrefused, hrunning] at hresting
  cases hresting

/-- A step that is refused leaves no notice. -/
theorem noticesAt_refused (h : ¬ m.MadeAt keys i) : m.noticesAt keys i = [] := by
  rw [noticesAt, if_neg fun both => h both.1, if_neg fun both => h both.1]
  rfl

/-- **The journal in the course of a run**: the notices of its steps follow those from before. -/
theorem journal_before (m : Machine) (hn : n ≤ keys.length) :
    (m.before keys n).journal.toList =
      m.journal.toList ++ (List.range n).flatMap (m.noticesAt keys) := by
  induction n with
  | zero => exact (List.append_nil _).symm
  | succ n ih =>
    have hold := ih (Nat.le_of_succ_le hn)
    rw [List.range_succ, List.flatMap_append, List.flatMap_singleton, ← List.append_assoc, ← hold]
    by_cases hmade : m.MadeAt keys n
    · obtain ⟨-, hstepped⟩ := hmade.stepped hn
      rw [hstepped.notices, noticesAt]
      simp only [StraysAt, RestsAt, hmade, true_and]
    · rw [before_refused hn hmade, noticesAt_refused hmade, List.append_nil]

/-- As many notices of a rest are left as the machine comes to rest. -/
theorem countP_notices (m : Machine) (hn : n ≤ keys.length) :
    ((List.range n).flatMap (m.noticesAt keys)).countP Notice.isRest =
      Nat.count (m.RestsAt keys) n := by
  induction n with
  | zero => rfl
  | succ n ih =>
    rw [List.range_succ, List.flatMap_append, List.flatMap_singleton, List.countP_append,
      ih (Nat.le_of_succ_le hn), Nat.count_succ, noticesAt, List.countP_append]
    have hstray : (if m.StraysAt keys n then [Notice.unknownWord (m.before keys n).word]
        else []).countP Notice.isRest = 0 := by
      split <;> rfl
    rw [hstray, Nat.zero_add]
    by_cases hrests : m.RestsAt keys n
    · rw [if_pos ⟨hrests.madeAt hn, hrests⟩, if_pos hrests]
      rfl
    · rw [if_neg fun both => hrests both.2, if_neg hrests]
      rfl

/-- **The journal is an exact trace.** Whatever the program, the dialect, the random numbers and the
keys, in steps that are made and in steps that are refused: behind the notice about the building, a
run leaves a warning with the word for each step made on a word in no row of the table, and a debug
notice with the program counter for each step made that brings the machine to rest, in the order of
the steps, and nothing else. There are as many of the latter as the machine goes from running to
resting. -/
theorem journal_after {program : List UInt8} {dialect : Dialect} {source : RandomSource}
    {journal : Journal} {start : Machine}
    (hstart : ofProgram? program dialect source journal = .ok start) (keys : List (List Int)) :
    let trace := (List.range keys.length).flatMap (start.noticesAt keys)
    start.journal.toList = journal.toList ++ [.created program.length dialect] ∧
    (start.after keys).journal.toList = start.journal.toList ++ trace ∧
    (∀ notice ∈ trace,
      (∃ word, notice = .unknownWord word ∧ notice.level = .warning ∧
        notice.message = "Unimplemented instruction detected: " ++ Hex.marked 6 word) ∨
      ∃ counter, notice = .paused counter ∧ notice.level = .debug ∧
        notice.message = "Machine paused at " ++ Hex.marked 5 counter) ∧
    trace.countP Notice.isRest = Nat.count (start.RestsAt keys) keys.length := by
  intro trace
  obtain ⟨-, rfl⟩ := ofProgram?_eq_ok hstart
  refine ⟨Array.toList_push, ?_, ?_, countP_notices _ (Nat.le_refl _)⟩
  · rw [← before_length]
    exact journal_before _ (Nat.le_refl _)
  · intro notice hmem
    obtain ⟨i, -, hnotice⟩ := List.mem_flatMap.1 hmem
    rcases List.mem_append.1 hnotice with hstrays | hrests
    · split at hstrays
      · obtain rfl := List.mem_singleton.1 hstrays
        exact .inl ⟨_, rfl, rfl, rfl⟩
      · cases hstrays
    · split at hrests
      · obtain rfl := List.mem_singleton.1 hrests
        exact .inr ⟨_, rfl, rfl, rfl⟩
      · cases hrests

/-- The program `00DE F00A 1204` goes over a word that is no instruction, waits for a key, and jumps
to itself. The refused step and the second step of each rest leave no notice. -/
theorem journal_after_twoRests :
    let keys : List (List Int) := [[], [], [16], [], [5], [], [3]]
    ∃ start, ofProgram? [0x00, 0xDE, 0xF0, 0x0A, 0x12, 0x04] {} (.cycle #[]) #[] = .ok start ∧
      (start.after keys).journal.toList =
        [.created 6 {}, .unknownWord 0x00DE, .paused 0x202, .paused 0x204] ∧
      Nat.count (start.RestsAt keys) 7 = 2 := by
  intro keys
  let start := fresh [0x00, 0xDE, 0xF0, 0x0A, 0x12, 0x04] {} (.cycle #[]) #[]
  have hstart : ofProgram? [0x00, 0xDE, 0xF0, 0x0A, 0x12, 0x04] {} (.cycle #[]) #[] = .ok start :=
    ofProgram?_fits (by decide)
  have htrace : (List.range keys.length).flatMap (start.noticesAt keys) =
      [.unknownWord 0x00DE, .paused 0x202, .paused 0x204] := by
    decide +kernel
  clear_value start
  obtain ⟨hcreated, hjournal, -, hrests⟩ := journal_after hstart keys
  rw [htrace] at hjournal hrests
  exact ⟨start, hstart, hjournal.trans (by rw [hcreated]; rfl), hrests.symm⟩

end Machine

end Chip8
