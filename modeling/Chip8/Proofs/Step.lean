import Chip8.Machine.Step
import Chip8.Proofs.Execute
import Chip8.Proofs.Opcode

/-!
# Steps

A step is either refused, and then nothing has happened, or it is made: the
instruction at the program counter has its effect, the timers tick once, the
flow decides on the program counter and the pause, and the step is counted.

- `Machine.word`, `Machine.current`: the word and the instruction at the program
  counter.
- `Machine.refusal`: why a step cannot be made, if so; `step_refused`,
  `step_made`: what the step does in either case.
- `Machine.Stepped`: all that a step that is made changes.
- `Machine.stepped`, `Machine.refused`: a step is made, or it is refused.
-/

namespace Chip8

/-! ## Held keys -/

namespace Keypad

variable {keys : List Int}

theorem mem_codes {code : Int} : code ∈ codes ↔ IsCode code := by
  simp only [codes, List.mem_map, List.mem_range, IsCode]
  constructor
  · rintro ⟨n, hn, rfl⟩
    exact ⟨Int.natCast_nonneg n, Int.ofNat_lt.2 hn⟩
  · rintro ⟨hlow, hhigh⟩
    exact ⟨code.toNat, by omega, Int.toNat_of_nonneg hlow⟩

/-- Codes of keys are taken as the set of them. -/
theorem held_codes (h : ∀ k ∈ keys, IsCode k) :
    ∃ held, Keypad.held keys = .ok held ∧ ∀ k, k ∈ held ↔ k ∈ keys := by
  have hnone : keys.find? (fun k => ¬ IsCode k) = none := by
    simpa using h
  refine ⟨codes.filter (fun c => keys.contains c), by rw [held, hnone], ?_⟩
  intro k
  rw [List.mem_filter, mem_codes, List.contains_iff_mem]
  exact ⟨fun hk => hk.2, fun hk => ⟨h k hk, hk⟩⟩

/-- Lists with the same members have the same least member. -/
theorem min?_congr {a b : List Int} (h : ∀ k, k ∈ a ↔ k ∈ b) : a.min? = b.min? := by
  cases hb : b.min? with
  | none =>
    obtain rfl := List.min?_eq_none_iff.1 hb
    have ha : a = [] := List.eq_nil_iff_forall_not_mem.2 fun k hk => by simpa using (h k).1 hk
    rw [ha]
    rfl
  | some low =>
    obtain ⟨hmem, hlow⟩ := List.min?_eq_some_iff.1 hb
    exact List.min?_eq_some_iff.2 ⟨(h low).2 hmem, fun k hk => hlow k ((h k).1 hk)⟩

end Keypad

namespace Instruction

variable {a b : List Int}

/-- The instruction sees the same of both lists of keys. A skip asks for one key only, and a wait
for the least of them. -/
def SeesAlike (i : Instruction) (s : View) (a b : List Int) : Prop :=
  match i with
  | skipIfHeld x | skipUnlessHeld x => (s.general x : Int) ∈ a ↔ (s.general x : Int) ∈ b
  | awaitKey _ => a.min? = b.min?
  | _ => True

/-- Keys are seen as a set: their order and repetitions do not matter. -/
theorem seesAlike_of_mem (h : ∀ k, k ∈ a ↔ k ∈ b) (i : Instruction) (s : View) :
    i.SeesAlike s a b := by
  cases i with
  | skipIfHeld x => exact h _
  | skipUnlessHeld x => exact h _
  | awaitKey x => exact Keypad.min?_congr h
  | _ => trivial

/-- An instruction has the same effect with keys of which it sees the same. -/
theorem effect_congr_keys {i : Instruction} {s : View} (h : i.SeesAlike s a b) (counter : Int) :
    i.effect counter a s = i.effect counter b s := by
  cases i with
  | awaitKey x =>
    have hmin : a.min? = b.min? := h
    simp only [effect, hmin]
  | _ => rfl

theorem flow_congr_keys {i : Instruction} {s : View} (h : i.SeesAlike s a b) :
    i.flow a s = i.flow b s := by
  cases i with
  | skipIfHeld x =>
    have hkey : (s.general x : Int) ∈ a ↔ (s.general x : Int) ∈ b := h
    simp only [flow, hkey]
  | skipUnlessHeld x =>
    have hkey : (s.general x : Int) ∈ a ↔ (s.general x : Int) ∈ b := h
    simp only [flow, hkey]
  | awaitKey x =>
    have hmin : a.min? = b.min? := h
    have hnil : a = [] ↔ b = [] := by
      rw [← List.min?_eq_none_iff, hmin, List.min?_eq_none_iff]
    simp only [flow, hnil]
  | _ => rfl

end Instruction

/-! ## Fetching -/

namespace Memory

/-- The big-endian word at an address and the next. -/
def wordAt (m : Memory) (address : Int) : Nat :=
  (m.cell address.toNat).toNat * 256 + (m.cell (address.toNat + 1)).toNat

theorem wordAt_lt (m : Memory) (address : Int) : m.wordAt address < 65536 := by
  have := (m.cell address.toNat).toNat_lt
  have := (m.cell (address.toNat + 1)).toNat_lt
  rw [wordAt]
  omega

variable {m : Memory} {address : Int}

theorem readWord_inRange (h : InRange address 2) : m.readWord address = .ok (m.wordAt address) := by
  rw [readWord, checkRange_inRange h]
  rfl

theorem readWord_outOfRange (h : ¬ InRange address 2) :
    m.readWord address = .error (.fault (.memoryRange address 2)) := by
  rw [readWord, checkRange_outOfRange h]
  rfl

end Memory

namespace Instruction

variable {m : Memory} {address : Int}

theorem fetch_inRange (h : Memory.InRange address 2) :
    fetch m address = .ok (decode ⟨(m.wordAt address : Int)⟩) := by
  have hword := m.wordAt_lt address
  have hfits : (0 : Int) ≤ (m.wordAt address : Int) ∧ (m.wordAt address : Int) ≤ 0xFFFF := by omega
  rw [fetch, Memory.readWord_inRange h]
  show (ofWord? (m.wordAt address : Int)).mapError Error.fault = _
  rw [ofWord?, if_pos hfits]
  rfl

theorem fetch_outOfRange (h : ¬ Memory.InRange address 2) :
    fetch m address = .error (.fault (.memoryRange address 2)) := by
  rw [fetch, Memory.readWord_outOfRange h]
  rfl

end Instruction

namespace Machine

/-- The word at the program counter. -/
def word (m : Machine) : Nat :=
  m.memory.wordAt m.registers.counter

/-- The instruction at the program counter. -/
def current (m : Machine) : Instruction :=
  .decode ⟨(m.word : Int)⟩

/-! ## Refusal -/

/-- Why a step cannot be made while keys with the given codes are held, if so. -/
def refusal (m : Machine) (keys : List Int) : Option Error :=
  match keys.find? (fun k => ¬ Keypad.IsCode k) with
  | some k => some (.keyCode k)
  | none =>
    if Memory.InRange m.registers.counter 2 then m.current.refusal m.registers.counter m
    else some (.fault (.memoryRange m.registers.counter 2))

variable {m : Machine} {keys : List Int}

/-- With codes of keys only, the keys do not matter for whether a step can be made. -/
theorem refusal_codes (h : ∀ k ∈ keys, Keypad.IsCode k) :
    m.refusal keys =
      if Memory.InRange m.registers.counter 2 then m.current.refusal m.registers.counter m
      else some (.fault (.memoryRange m.registers.counter 2)) := by
  have hnone : keys.find? (fun k => ¬ Keypad.IsCode k) = none := by
    simpa using h
  rw [refusal, hnone]

/-- Keys that are none are refused before all else. -/
theorem refusal_keyCode (h : ¬ ∀ k ∈ keys, Keypad.IsCode k) :
    ∃ k ∈ keys, ¬ Keypad.IsCode k ∧ m.refusal keys = some (.keyCode k) := by
  cases hfind : keys.find? (fun k => ¬ Keypad.IsCode k) with
  | none => exact absurd (by simpa using hfind) h
  | some k =>
    refine ⟨k, List.mem_of_find?_eq_some hfind, ?_, ?_⟩
    · simpa using List.find?_some hfind
    · rw [refusal, hfind]

/-- A step can be made with codes of keys only, a word in memory and an instruction that can be
performed. -/
theorem refusal_eq_none :
    m.refusal keys = none ↔
      (∀ k ∈ keys, Keypad.IsCode k) ∧ Memory.InRange m.registers.counter 2 ∧
        m.current.refusal m.registers.counter m = none := by
  by_cases hcodes : ∀ k ∈ keys, Keypad.IsCode k
  · rw [refusal_codes hcodes]
    by_cases hin : Memory.InRange m.registers.counter 2
    · rw [if_pos hin]
      exact ⟨fun h => ⟨hcodes, hin, h⟩, fun h => h.2.2⟩
    · rw [if_neg hin]
      exact ⟨fun h => (nomatch h), fun h => absurd h.2.1 hin⟩
  · obtain ⟨k, -, -, hrefusal⟩ := refusal_keyCode hcodes
    rw [hrefusal]
    exact ⟨fun h => (nomatch h), fun h => absurd h.1 hcodes⟩

/-- Whether a step can be made depends on the memory, the registers, the stack and the timers. -/
theorem refusal_congr {n : Machine} (hmemory : n.memory = m.memory)
    (hregisters : n.registers = m.registers) (hstack : n.stack = m.stack)
    (htimers : n.timers = m.timers) (keys : List Int) : n.refusal keys = m.refusal keys := by
  have hcurrent : n.current = m.current := by
    rw [current, current, word, word, hmemory, hregisters]
  have hinstruction : ∀ i : Instruction, i.refusal m.registers.counter n =
      i.refusal m.registers.counter m := by
    intro i
    cases i <;> simp only [Instruction.refusal, hregisters, hstack, htimers]
  simp only [refusal, hcurrent, hregisters, hinstruction]

/-- A step that cannot be made changes nothing. -/
theorem step_refused {e : Error} (h : m.refusal keys = some e) :
    (step keys).on m = (.error e, m) := by
  unfold refusal at h
  cases hfind : keys.find? (fun k => ¬ Keypad.IsCode k) with
  | some k =>
    -- refused before anything is fetched
    rw [hfind] at h
    obtain rfl := Option.some.inj h
    have hheld : Keypad.held keys = .error (.keyCode k) := by rw [Keypad.held, hfind]
    simp only [step, Action.on_bind, hheld, orError, Action.on_throw]
  | none =>
    rw [hfind] at h
    have hcodes : ∀ k ∈ keys, Keypad.IsCode k := by simpa using hfind
    obtain ⟨held, hheld, -⟩ := Keypad.held_codes hcodes
    by_cases hin : Memory.InRange m.registers.counter 2
    · rw [if_pos hin] at h
      have hfetch := Instruction.fetch_inRange (m := m.memory) hin
      have hrefused := execute_refused h held
      simp only [step, Action.on_bind, Action.on_get, hheld, hfetch, orError, Action.on_pure]
      rw [show (execute (.decode ⟨(m.memory.wordAt m.registers.counter : Int)⟩) _ held).on m = _
        from hrefused]
    · rw [if_neg hin] at h
      obtain rfl := Option.some.inj h
      have hfetch := Instruction.fetch_outOfRange (m := m.memory) hin
      simp only [step, Action.on_bind, Action.on_get, hheld, hfetch, orError, Action.on_pure,
        Action.on_throw]

/-! ## Steps that are made -/

/-- Coming to rest is noted down. -/
def restNotices (m : Machine) (flow : Flow) : Array Notice :=
  if flow.Pauses m.registers.counter ∧ m.paused = false then #[.paused m.registers.counter] else #[]

/-- The machine `m` has become `m'` by one step while keys of the given codes were held. -/
structure Stepped (keys : List Int) (m m' : Machine) : Prop where
  view : m'.view = (m.current.effect m.registers.counter keys m.view).tick
  counter : m'.registers.counter = (m.current.flow keys m.view).counter m.registers.counter
  paused : m'.paused = decide ((m.current.flow keys m.view).Pauses m.registers.counter)
  cycles : m'.cycles = m.cycles + 1
  journal : m'.journal =
    m.journal ++ m.current.notices ++ m.restNotices (m.current.flow keys m.view)

/-- A step leads to one machine only. -/
theorem Stepped.unique {m₁ m₂ : Machine} (h₁ : Stepped keys m m₁) (h₂ : Stepped keys m m₂) :
    m₁ = m₂ := by
  refine ext_view ?_ ?_ ?_ ?_ ?_
  · exact h₁.view.trans h₂.view.symm
  · exact h₁.counter.trans h₂.counter.symm
  · exact h₁.paused.trans h₂.paused.symm
  · exact h₁.cycles.trans h₂.cycles.symm
  · exact h₁.journal.trans h₂.journal.symm

/-- What is left to do of a step after its instruction. -/
def finish (counter : Int) (outcome : Outcome) (m : Machine) : Machine :=
  let m := settle counter outcome { m with timers := m.timers.tick }
  { m with cycles := m.cycles + 1 }

theorem settle_pause {counter : Int} {outcome : Outcome} (h : outcome.pause = true) :
    settle counter outcome m =
      { m with
        paused := true
        journal := m.journal ++ if m.paused = false then #[.paused counter] else #[] } := by
  rw [settle, if_pos h]
  cases hpaused : m.paused with
  | false => rfl
  | true => simp

theorem settle_move {counter : Int} {outcome : Outcome} (h : outcome.pause = false) :
    settle counter outcome m =
      { m with
        paused := false
        registers := { m.registers with
          counter := if outcome.counter = counter then counter + 2 else outcome.counter } } := by
  rw [settle, h]
  rfl

/-- A step is made by performing the instruction and finishing. -/
theorem Performs.finish {m₁ : Machine} (h : Performs m.current m.registers.counter keys m m₁) :
    Stepped keys m (m₁.finish m.registers.counter
      ((m.current.flow keys m.view).outcome m.registers.counter)) := by
  obtain ⟨hview, hcounter, hpaused, hcycles, hjournal⟩ := h
  have hticked := (view_tick m₁).trans (congrArg View.tick hview)
  have hpause := Flow.pause_outcome m.registers.counter (m.current.flow keys m.view)
  unfold Machine.finish
  -- a pause leaves the program counter alone, anything else sets it
  by_cases hp : (m.current.flow keys m.view).Pauses m.registers.counter
  · rw [settle_pause (hpause.trans (decide_eq_true hp))]
    refine ⟨hticked, ?_, (decide_eq_true hp).symm, ?_, ?_⟩
    · rw [Flow.counter_pauses hp]
      exact hcounter
    · exact congrArg (· + 1) hcycles
    · simp only [restNotices, hp, true_and, hpaused, hjournal]
  · rw [settle_move (hpause.trans (decide_eq_false hp))]
    refine ⟨hticked, (Flow.counter_moves hp).symm, (decide_eq_false hp).symm, ?_, ?_⟩
    · exact congrArg (· + 1) hcycles
    · simp only [restNotices, hp, false_and, hjournal, if_false, Array.append_empty]

/-- Any other step is made. -/
theorem step_made (h : m.refusal keys = none) :
    ∃ m', (step keys).on m = (.ok (), m') ∧ Stepped keys m m' := by
  by_cases hcodes : ∀ k ∈ keys, Keypad.IsCode k
  · rw [refusal_codes hcodes] at h
    by_cases hin : Memory.InRange m.registers.counter 2
    · rw [if_pos hin] at h
      obtain ⟨held, hheld, hmem⟩ := Keypad.held_codes hcodes
      have hfetch := Instruction.fetch_inRange (m := m.memory) hin
      obtain ⟨m₁, hrun, hperforms⟩ := execute_performed h fun k hk => hcodes k ((hmem k).1 hk)
      -- the step sees the keys as a set, the table sees them as they were given
      have hsees := Instruction.seesAlike_of_mem hmem m.current m.view
      rw [Instruction.flow_congr_keys hsees] at hrun
      have hgiven : Performs m.current m.registers.counter keys m m₁ :=
        { hperforms with
          view := hperforms.view.trans (Instruction.effect_congr_keys hsees _) }
      refine ⟨_, ?_, hgiven.finish⟩
      simp only [step, Action.on_bind, Action.on_get, hheld, hfetch, orError, Action.on_pure,
        Action.on_modify]
      rw [show (execute (.decode ⟨(m.memory.wordAt m.registers.counter : Int)⟩) _ held).on m = _
        from hrun]
      rfl
    · rw [if_neg hin] at h
      cases h
  · obtain ⟨k, -, -, hrefusal⟩ := refusal_keyCode hcodes
    rw [hrefusal] at h
    cases h

/-- A step that returned was made. -/
theorem stepped {m' : Machine} (h : (step keys).on m = (.ok (), m')) :
    m.refusal keys = none ∧ Stepped keys m m' := by
  cases hrefusal : m.refusal keys with
  | some e =>
    rw [step_refused hrefusal] at h
    cases h
  | none =>
    obtain ⟨n, hrun, hstepped⟩ := step_made hrefusal
    rw [hrun] at h
    obtain rfl := (Prod.mk.inj h).2
    exact ⟨rfl, hstepped⟩

/-- A step that failed was refused. -/
theorem refused {m' : Machine} {e : Error} (h : (step keys).on m = (.error e, m')) :
    m.refusal keys = some e ∧ m' = m := by
  cases hrefusal : m.refusal keys with
  | some f =>
    rw [step_refused hrefusal] at h
    obtain ⟨he, rfl⟩ := Prod.mk.inj h
    cases he
    exact ⟨rfl, rfl⟩
  | none =>
    obtain ⟨n, hrun, -⟩ := step_made hrefusal
    rw [hrun] at h
    cases h

end Machine

end Chip8
