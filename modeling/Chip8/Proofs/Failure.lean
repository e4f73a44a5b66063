import Chip8.Proofs.Invariant

/-!
# Failing steps

When steps fail and what is left then.

- `Machine.attempts`: steps one after the other, going on after failures.
- `Machine.step_failure`: a failing step changes nothing, and a fault comes back
  for ever.
- `Error.Kind`: what a host tells errors apart by.
- `Machine.failure_iff`: exactly when a step of a reachable machine fails, and how.
-/

namespace Chip8

/-- What a host tells errors apart by. -/
inductive Error.Kind where
  /-- The request was wrong. -/
  | value
  /-- Bytes outside memory, or a program too large for it. -/
  | memory
  /-- Registers that do not exist. -/
  | register
  | overflow
  | underflow
  /-- A word of more than sixteen bits. -/
  | word
  /-- A pixel outside the grid. -/
  | place
  deriving DecidableEq, Repr

/-- The kind of a fault. -/
def Fault.kind : Fault → Error.Kind
  | programTooLarge _ | memoryRange .. => .memory
  | noRegister _ | tooManyValues _ => .register
  | stackOverflow _ => .overflow
  | stackUnderflow => .underflow
  | wideWord _ => .word

/-- The kind of an error. -/
def Error.kind : Error → Kind
  | fault cause => cause.kind
  | pixel .. => .place
  | wideValue _ | wideData _ | wideByte | keyCode _ | frameSize _ => .value

namespace Machine

variable {m m' : Machine} {keys : List Int}

/-! ## After a failure -/

/-- Steps with the given keys held, one after the other and whether or not they fail: the results
and the machine in the end. -/
def attempts : List (List Int) → Machine → List (Except Error Unit) × Machine
  | [], m => ([], m)
  | keys :: rest, m =>
    let (result, next) := (step keys).on m
    let (results, last) := attempts rest next
    (result :: results, last)

/-- A fault of a step does not depend on the keys held. -/
theorem refusal_fault {f : Fault} (h : m.refusal keys = some (.fault f)) {later : List Int}
    (hlater : ∀ k ∈ later, Keypad.IsCode k) : m.refusal later = some (.fault f) := by
  by_cases hcodes : ∀ k ∈ keys, Keypad.IsCode k
  · rw [refusal_codes hlater, ← refusal_codes hcodes, h]
  · obtain ⟨k, -, -, hcode⟩ := refusal_keyCode hcodes
    rw [hcode] at h
    cases h

/-- Refused once and for all, refused in every attempt. -/
theorem attempts_refused {e : Error} {later : List (List Int)}
    (h : ∀ keys ∈ later, m.refusal keys = some e) :
    attempts later m = (later.map fun _ => .error e, m) := by
  induction later with
  | nil => rfl
  | cons keys rest ih =>
    have hfirst := step_refused (h keys List.mem_cons_self)
    have hrest := ih fun keys hmem => h keys (List.mem_cons_of_mem _ hmem)
    simp only [attempts, hfirst, hrest, List.map_cons]

/-- **A failing step changes nothing, and a fault comes back for ever**: whatever keys are held
later, each further attempt fails with the same fault and changes nothing. -/
theorem step_failure {e : Error} (h : (step keys).on m = (.error e, m')) :
    m' = m ∧ ∀ f, e = .fault f → ∀ later : List (List Int),
      (∀ ks ∈ later, ∀ k ∈ ks, Keypad.IsCode k) →
        attempts later m' = (later.map fun _ => .error (.fault f), m) := by
  obtain ⟨hrefusal, rfl⟩ := refused h
  refine ⟨rfl, ?_⟩
  rintro f rfl later hlater
  exact attempts_refused fun ks hmem => refusal_fault hrefusal (hlater ks hmem)

/-- A machine whose program counter is at the last byte fails in every attempt. -/
theorem step_failure_lastByte :
    let m : Machine :=
      { memory := .blank, registers := { counter := 0xFFF }, source := .cycle #[] }
    let e : Error := .fault (.memoryRange 0xFFF 2)
    (step [0]).on m = (.error e, m) ∧ attempts [[], [3, 1]] m = ([.error e, .error e], m) := by
  intro m e
  have hfails : (step [0]).on m = (.error e, m) := step_refused rfl
  have hlater : ∀ ks ∈ [[], [3, 1]], ∀ k ∈ ks, Keypad.IsCode k := by decide
  exact ⟨hfails, (step_failure hfails).2 _ rfl _ hlater⟩

/-! ## When steps fail -/

/-- How a step fails, if it does. -/
def failure (m : Machine) (keys : List Int) : Option Error.Kind :=
  match ((step keys).on m).1 with
  | .ok _ => none
  | .error e => some e.kind

theorem failure_eq (m : Machine) (keys : List Int) :
    m.failure keys = (m.refusal keys).map Error.kind := by
  cases hrefusal : m.refusal keys with
  | some e =>
    rw [failure, step_refused hrefusal]
    rfl
  | none =>
    obtain ⟨m', hrun, -⟩ := step_made hrefusal
    rw [failure, hrun]
    rfl

/-- The word at the program counter, or a byte that its instruction needs, lies outside memory. `N`
and `X` are the last and the second digit of the word. -/
def LeavesMemory (m : Machine) : Prop :=
  0xFFE < m.registers.counter ∨
    Word.Matches "DXYN" m.word ∧ 4096 < m.registers.index + (m.word % 16 : Nat) ∨
    Word.Matches "FX33" m.word ∧ 4096 < m.registers.index + 3 ∨
    (Word.Matches "FX55" m.word ∨ Word.Matches "FX65" m.word) ∧
      4096 < m.registers.index + (m.word / 256 % 16 : Nat) + 1

/-- The word at the program counter is a call, and sixteen calls are open. -/
def Overflows (m : Machine) : Prop :=
  m.registers.counter ≤ 0xFFE ∧ Word.Matches "2NNN" m.word ∧ m.stack.depth = 16

/-- The word at the program counter is a return, and no call is open. -/
def Underflows (m : Machine) : Prop :=
  m.registers.counter ≤ 0xFFE ∧ Word.Matches "00EE" m.word ∧ m.stack.depth = 0

/-- Bytes at an index that is not negative are refused iff they reach behind memory. -/
theorem kind_refusal {address : Int} (h : 0 ≤ address) (length : Nat) :
    (Memory.refusal address length).map Error.kind =
      if 4096 < address + length then some .memory else none := by
  by_cases hin : address + length ≤ 4096
  · rw [Memory.refusal_eq_none.2 ⟨h, hin⟩, if_neg (by omega)]
    rfl
  · rw [Memory.refusal_eq_some.2 ⟨fun both => hin both.2, rfl⟩, if_pos (by omega)]
    rfl

/-- How the instruction at the program counter fails, for a machine within its bounds. -/
theorem kind_refusal_instruction (h : Invariant m) (i : Instruction) (counter : Int) :
    (i.refusal counter m).map Error.kind =
      match i with
      | .ret => if m.stack.depth = 0 then some .underflow else none
      | .call _ => if m.stack.depth = 16 then some .overflow else none
      | .draw _ _ rows => if 4096 < m.registers.index + rows.val then some .memory else none
      | .storeDecimal _ => if 4096 < m.registers.index + 3 then some .memory else none
      | .dump x | .restore x =>
        if 4096 < m.registers.index + x.val + 1 then some .memory else none
      | _ => none := by
  have hmemory := kind_refusal h.index.1
  have hdepth := h.depth
  cases i with
  | ret =>
    have hempty : m.stack.entries = [] ↔ m.stack.depth = 0 := List.length_eq_zero_iff.symm
    simp only [Instruction.refusal, hempty]
    split <;> rfl
  | call target =>
    have hfull : CallStack.room ≤ m.stack.depth ↔ m.stack.depth = 16 := by
      simp only [CallStack.room] at *
      omega
    simp only [Instruction.refusal, hfull]
    split <;> rfl
  | getDelay x =>
    -- the invariant keeps the timer within a byte
    simp only [Instruction.refusal, if_pos h.delay]
    rfl
  | draw x y rows => exact hmemory _
  | storeDecimal x => exact hmemory _
  | dump x =>
    simp only [Instruction.refusal, hmemory, Int.natCast_add, Int.natCast_one, Int.add_assoc]
  | restore x =>
    simp only [Instruction.refusal, hmemory, Int.natCast_add, Int.natCast_one, Int.add_assoc]
  | _ => rfl

/-- How a step fails with codes of keys only, for a machine within its bounds. -/
theorem failure_codes (h : Invariant m) (hkeys : ∀ k ∈ keys, Keypad.IsCode k) :
    (m.failure keys = some .memory ↔ m.LeavesMemory) ∧
    (m.failure keys = some .overflow ↔ m.Overflows) ∧
    (m.failure keys = some .underflow ↔ m.Underflows) ∧
    (m.failure keys = none ↔ ¬ m.LeavesMemory ∧ ¬ m.Overflows ∧ ¬ m.Underflows) := by
  have hlow := h.counter.1
  have hn : m.word % 16 = (Operands.ofWord m.word).n.val := rfl
  have hx : m.word / 256 % 16 = (Operands.ofWord m.word).x.val := rfl
  rw [failure_eq, refusal_codes hkeys, LeavesMemory, Overflows, Underflows, hn, hx]
  by_cases hcounter : m.registers.counter ≤ 0xFFE
  · have hin : Memory.InRange m.registers.counter 2 := ⟨hlow, by omega⟩
    have hbehind : ¬ 0xFFE < m.registers.counter := by omega
    rw [if_pos hin, kind_refusal_instruction h,
      matches_iff mem_draw, matches_iff mem_storeDecimal, matches_iff mem_dump,
      matches_iff mem_restore, matches_iff mem_call, matches_iff mem_ret]
    -- one case for each row of the table, and one for the words in none
    rcases current_cases m with ⟨op, hop, hrow⟩ | hunknown
    · rw [hrow]
      fin_cases hop
      all_goals simp [hcounter, hbehind]
    · rw [hunknown]
      simp [hbehind]
  · have hout : ¬ Memory.InRange m.registers.counter 2 := by
      intro hin
      have hhigh := hin.2
      omega
    have hbehind : 0xFFE < m.registers.counter := by omega
    rw [if_neg hout]
    simp [Error.kind, Fault.kind, hbehind, hcounter]

/-- With codes of keys only, a machine within its bounds fails in three ways at most. -/
theorem failure_cases (h : Invariant m) (hkeys : ∀ k ∈ keys, Keypad.IsCode k) {kind : Error.Kind}
    (hkind : m.failure keys = some kind) :
    kind = .memory ∨ kind = .overflow ∨ kind = .underflow := by
  obtain ⟨hmemory, hoverflow, hunderflow, hmade⟩ := failure_codes h hkeys
  by_cases hl : m.LeavesMemory
  · exact .inl (Option.some.inj (hkind.symm.trans (hmemory.2 hl)))
  · by_cases ho : m.Overflows
    · exact .inr (.inl (Option.some.inj (hkind.symm.trans (hoverflow.2 ho))))
    · by_cases hu : m.Underflows
      · exact .inr (.inr (Option.some.inj (hkind.symm.trans (hunderflow.2 hu))))
      · rw [hmade.2 ⟨hl, ho, hu⟩] at hkind
        cases hkind

/-- A machine within its bounds refuses codes of keys for a fault only. -/
theorem Invariant.fault_of_refusal (h : Invariant m) (hkeys : ∀ k ∈ keys, Keypad.IsCode k)
    {e : Error} (hrefusal : m.refusal keys = some e) : ∃ f, e = .fault f := by
  have hkind : m.failure keys = some e.kind := by
    rw [failure_eq, hrefusal]
    rfl
  cases e with
  | fault f => exact ⟨f, rfl⟩
  | _ =>
    rcases failure_cases h hkeys hkind with hm | ho | hu
    · cases hm
    · cases ho
    · cases hu

/-- **Exactly when a step of a reachable machine fails, and how.** Keys that are none are refused
whatever the machine; other steps fail for memory or for the stack only. -/
theorem failure_iff (h : Reachable m) (keys : List Int) :
    (m.failure keys = some .value ↔ ∃ k ∈ keys, ¬ Keypad.IsCode k) ∧
    (∀ e, ((step keys).on m).1 = .error e → e.kind = .value →
      ∃ k ∈ keys, ¬ Keypad.IsCode k ∧ e = .keyCode k) ∧
    (∀ kind, m.failure keys = some kind →
      kind = .value ∨ kind = .memory ∨ kind = .overflow ∨ kind = .underflow) ∧
    ((∀ k ∈ keys, Keypad.IsCode k) →
      (m.failure keys = some .memory ↔ m.LeavesMemory) ∧
      (m.failure keys = some .overflow ↔ m.Overflows) ∧
      (m.failure keys = some .underflow ↔ m.Underflows) ∧
      (m.failure keys = none ↔ ¬ m.LeavesMemory ∧ ¬ m.Overflows ∧ ¬ m.Underflows)) := by
  by_cases hkeys : ∀ k ∈ keys, Keypad.IsCode k
  · have hnone : ¬ ∃ k ∈ keys, ¬ Keypad.IsCode k := fun ⟨k, hmem, hk⟩ => hk (hkeys k hmem)
    have hvalue : m.failure keys ≠ some .value := by
      intro hv
      rcases failure_cases h.invariant hkeys hv with hm | ho | hu
      · cases hm
      · cases ho
      · cases hu
    refine ⟨iff_of_false hvalue hnone, ?_, fun kind hkind => ?_,
      fun _ => failure_codes h.invariant hkeys⟩
    · intro e he hk
      refine absurd ?_ hvalue
      rw [failure, he]
      exact congrArg some hk
    · exact .inr (failure_cases h.invariant hkeys hkind)
  · obtain ⟨k, hmem, hk, hrefusal⟩ := refusal_keyCode hkeys
    have hfails := step_refused hrefusal
    have hvalue : m.failure keys = some .value := by
      rw [failure, hfails]
      rfl
    refine ⟨iff_of_true hvalue ⟨k, hmem, hk⟩, ?_, fun kind hkind => ?_,
      fun hall => absurd hall hkeys⟩
    · intro e he _
      rw [hfails] at he
      obtain rfl := Except.error.inj he
      exact ⟨k, hmem, hk, rfl⟩
    · exact .inl (Option.some.inj (hkind.symm.trans hvalue))

/-- A program that begins with a return fails at once. -/
theorem failure_iff_bareReturn :
    Reachable (fresh [0x00, 0xEE] {} (.cycle #[]) #[]) ∧
      (fresh [0x00, 0xEE] {} (.cycle #[]) #[]).failure [3] = some .underflow := by
  have hreachable : Reachable (fresh [0x00, 0xEE] {} (.cycle #[]) #[]) :=
    .fresh (ofProgram?_fits (by decide))
  have hword : (fresh [0x00, 0xEE] {} (.cycle #[]) #[]).word = 0x00EE := word_fresh (by decide)
  obtain ⟨-, -, -, hcodes⟩ := failure_iff hreachable [3]
  obtain ⟨-, -, hunderflow, -⟩ := hcodes (by decide)
  refine ⟨hreachable, hunderflow.2 ⟨?_, ?_, rfl⟩⟩
  · show (0x200 : Int) ≤ 0xFFE
    decide
  · rw [hword]
    decide

end Machine

end Chip8
