import Chip8.Keypad
import Chip8.Proofs.Effect

/-!
# Executing an instruction

An instruction is either refused, and then nothing has happened, or performed
as the instruction table says. Which of the two depends on the machine alone
and neither on the keys held nor on the random numbers.

- `Instruction.refusal`: why an instruction cannot be performed, if so.
- `Machine.execute_refused`: a refused instruction changes nothing.
- `Machine.execute_performed`: any other has the effect and the flow of the table.
-/

namespace Chip8

/-- Why the bytes `[address, address + length)` cannot be used, if so. -/
def Memory.refusal (address : Int) (length : Nat) : Option Error :=
  if InRange address length then none else some (.fault (.memoryRange address length))

/-- Why the instruction at `counter` cannot be performed, if so. -/
def Instruction.refusal (i : Instruction) (counter : Int) (m : Machine) : Option Error :=
  match i with
  | ret => if m.stack.entries = [] then some (.fault .stackUnderflow) else none
  | call _ =>
    if CallStack.room ≤ m.stack.depth then some (.fault (.stackOverflow counter)) else none
  | draw _ _ rows => Memory.refusal m.registers.index rows.val
  | getDelay _ =>
    if 0 ≤ m.timers.delay ∧ m.timers.delay ≤ 255 then none else some (.wideValue m.timers.delay)
  | storeDecimal _ => Memory.refusal m.registers.index 3
  | dump x | restore x => Memory.refusal m.registers.index (x.val + 1)
  | _ => none

/-- What is noted down about an instruction. -/
def Instruction.notices : Instruction → Array Notice
  | unknown word => #[.unknownWord word]
  | _ => #[]

namespace Memory

variable {address : Int} {length : Nat}

theorem refusal_eq_none : refusal address length = none ↔ InRange address length := by
  by_cases h : InRange address length <;> simp [refusal, h]

theorem refusal_eq_some {e : Error} :
    refusal address length = some e ↔
      ¬ InRange address length ∧ e = .fault (.memoryRange address length) := by
  by_cases h : InRange address length <;> simp [refusal, h, eq_comm]

end Memory

/-! ## Arithmetic of bytes, in numbers -/

namespace Byte

variable (a b : UInt8)

theorem toNat_ofInt (n : Int) : (UInt8.ofInt n).toNat = (n % 256).toNat := by
  have h : (n % 256).toNat < 256 := by omega
  exact UInt8.toNat_ofNat_of_lt' h

/-- A number that fits comes back from its byte. -/
theorem toNat_ofNat_toNat {n : Int} (h : 0 ≤ n ∧ n ≤ 255) :
    (UInt8.ofNat n.toNat).toNat = n.toNat := by
  have hlt : n.toNat < 256 := by omega
  exact UInt8.toNat_ofNat_of_lt' hlt

theorem toNat_sub : (a - b).toNat = (256 + a.toNat - b.toNat) % 256 := by
  have ha := a.toNat_lt
  have hb := b.toNat_lt
  rw [UInt8.toNat_sub]
  omega

theorem toNat_shiftRight : (a >>> 1).toNat = a.toNat / 2 := by
  rw [UInt8.toNat_shiftRight]
  exact Nat.shiftRight_eq_div_pow _ 1

theorem toNat_shiftLeft : (a <<< 1).toNat = 2 * a.toNat % 256 := by
  rw [UInt8.toNat_shiftLeft]
  show a.toNat <<< 1 % 256 = _
  rw [Nat.shiftLeft_eq, Nat.mul_comm]

theorem lowBit_iff : a &&& 1 = 1 ↔ a.toNat % 2 = 1 := by
  rw [← UInt8.toNat_inj, UInt8.toNat_and]
  show a.toNat &&& 1 = 1 ↔ _
  rw [Nat.and_one_is_mod]

end Byte

namespace Machine

variable {m : Machine} {counter : Int} {keys : List Int}

/-! ## Refusal -/

/-- A refused instruction changes nothing, whatever keys are held. -/
theorem execute_refused {i : Instruction} {e : Error} (h : i.refusal counter m = some e)
    (keys : List Int) : (execute i counter keys).on m = (.error e, m) := by
  cases i with
  | ret =>
    have hempty : m.stack.entries = [] ∧ e = .fault .stackUnderflow := by
      simpa [Instruction.refusal, eq_comm] using h
    obtain ⟨hempty, rfl⟩ := hempty
    have hpop : m.stack.pop = .error .stackUnderflow := by rw [CallStack.pop, hempty]
    simp only [execute, Action.on_bind, Action.on_get, hpop, orFault, Action.on_throw]
  | call target =>
    have hfull : CallStack.room ≤ m.stack.depth ∧ e = .fault (.stackOverflow counter) := by
      simpa [Instruction.refusal, eq_comm] using h
    obtain ⟨hfull, rfl⟩ := hfull
    have hpush : m.stack.push counter = .error (.stackOverflow counter) := if_pos hfull
    simp only [execute, Action.on_bind, Action.on_get, hpush, orFault, Action.on_throw]
  | draw x y rows =>
    obtain ⟨hout, rfl⟩ := Memory.refusal_eq_some.1 h
    simp only [execute, Action.on_bind, Action.on_get, Memory.readBytes_outOfRange hout, orError,
      Action.on_throw]
  | getDelay x =>
    have hwide : ¬ (0 ≤ m.timers.delay ∧ m.timers.delay ≤ 255) ∧ e = .wideValue m.timers.delay := by
      simpa [Instruction.refusal, eq_comm] using h
    obtain ⟨hwide, rfl⟩ := hwide
    have hstore : m.registers.store x m.timers.delay = .error (.wideValue m.timers.delay) := by
      rw [Registers.store, Byte.ofInt?, if_neg hwide]
    simp only [execute, store, Action.on_bind, Action.on_get, hstore, orError, Action.on_throw]
  | storeDecimal x =>
    obtain ⟨hout, rfl⟩ := Memory.refusal_eq_some.1 h
    have hwrite := Memory.writeBytes_outOfRange (m := m.memory)
      ((Memory.decimals (m.registers.get x).toNat).map UInt8.ofNat) hout
    -- three digits are refused like any three bytes
    rw [← Memory.storeDecimal_eq (m.registers.get x).toNat_lt] at hwrite
    simp only [execute, Action.on_bind, Action.on_get, hwrite, orError, Action.on_throw]
    rfl
  | dump x =>
    obtain ⟨hout, rfl⟩ := Memory.refusal_eq_some.1 h
    have hlength := m.registers.length_dump x
    have hwrite := Memory.writeBytes_outOfRange (m := m.memory) (m.registers.dump x)
      (hlength ▸ hout)
    simp only [execute, Action.on_bind, Action.on_get, hwrite, orError, Action.on_throw, hlength]
  | restore x =>
    obtain ⟨hout, rfl⟩ := Memory.refusal_eq_some.1 h
    have hread := Memory.readBytes_outOfRange (m := m.memory) hout
    rw [Int.natCast_add, Int.natCast_one] at hread
    simp only [execute, Action.on_bind, Action.on_get, hread, orError, Action.on_throw]
    rfl
  | _ => cases h

/-! ## Performance -/

/-- The machine `m` has become `m'` by the instruction `i` at `counter` while `keys` were held, and
the step around the instruction is not over. -/
structure Performs (i : Instruction) (counter : Int) (keys : List Int) (m m' : Machine) : Prop where
  view : m'.view = i.effect counter keys m.view
  counter : m'.registers.counter = m.registers.counter
  paused : m'.paused = m.paused
  cycles : m'.cycles = m.cycles
  journal : m'.journal = m.journal ++ i.notices

/-- Executing the instruction is performing it, with the flow of the table. -/
def Performed (i : Instruction) (counter : Int) (keys : List Int) (m : Machine) : Prop :=
  ∃ m', (execute i counter keys).on m = (.ok ((i.flow keys m.view).outcome counter), m') ∧
    Performs i counter keys m m'

section Kinds

variable {i : Instruction} {x : Register} {b : UInt8}

/-- Instructions that only decide where to go on. -/
theorem performed_flow
    (hrun : (execute i counter keys).on m = (.ok ((i.flow keys m.view).outcome counter), m))
    (heffect : i.effect counter keys m.view = m.view) (hnotices : i.notices = #[]) :
    Performed i counter keys m := by
  refine ⟨m, hrun, heffect.symm, rfl, rfl, rfl, ?_⟩
  rw [hnotices, Array.append_empty]

/-- Instructions that skip the next one on a condition. -/
theorem performed_skip {on : Bool} {p : Prop} [Decidable p]
    (hrun : (execute i counter keys).on m = (.ok (skipIf counter on), m))
    (hflow : i.flow keys m.view = .skipIf p) (hon : on = true ↔ p)
    (heffect : i.effect counter keys m.view = m.view) (hnotices : i.notices = #[]) :
    Performed i counter keys m := by
  refine performed_flow ?_ heffect hnotices
  rw [hrun, hflow, Flow.outcome_skipIf hon]

/-- Instructions that change the registers and go on. -/
theorem performed_registers {rs : Registers}
    (hrun : (execute i counter keys).on m =
      (.ok ⟨counter, false⟩, { m with registers := rs }))
    (hview : ({ m with registers := rs } : Machine).view = i.effect counter keys m.view)
    (hcounter : rs.counter = m.registers.counter) (hflow : i.flow keys m.view = .next)
    (hnotices : i.notices = #[]) : Performed i counter keys m := by
  refine ⟨_, hrun.trans ?_, hview, hcounter, rfl, rfl, ?_⟩
  · rw [hflow]
    rfl
  · rw [hnotices, Array.append_empty]

/-- Instructions that put a byte into a register. -/
theorem performed_set {v : Nat}
    (hrun : (execute i counter keys).on m =
      (.ok ⟨counter, false⟩, { m with registers := m.registers.set x b }))
    (heffect : i.effect counter keys m.view = m.view.put x v) (hv : b.toNat = v)
    (hflow : i.flow keys m.view = .next) (hnotices : i.notices = #[]) :
    Performed i counter keys m := by
  refine performed_registers hrun ?_ rfl hflow hnotices
  rw [view_set, heffect, hv]

/-- Instructions that store a number which has to fit a byte, and does. -/
theorem performed_store {n : Int} (hfits : 0 ≤ n ∧ n ≤ 255)
    (hrun : (execute i counter keys).on m =
      (do store x n; return ⟨counter, false⟩ : Action Outcome).on m)
    (heffect : i.effect counter keys m.view = m.view.put x n.toNat)
    (hflow : i.flow keys m.view = .next) (hnotices : i.notices = #[]) :
    Performed i counter keys m := by
  have hstore : m.registers.store x n = .ok (m.registers.set x (UInt8.ofNat n.toNat)) := by
    rw [Registers.store, Byte.ofInt?, if_pos hfits]
  refine performed_set (hrun.trans ?_) heffect (Byte.toNat_ofNat_toNat hfits) hflow hnotices
  simp only [store, Action.on_bind, Action.on_get, hstore, orError, Action.on_pure, onRegisters,
    Action.on_modify]

/-- Instructions that set the flag and put a byte into a register. -/
theorem performed_setFlagged {on flag : Bool} {v : Nat}
    (hrun : (execute i counter keys).on m =
      (.ok ⟨counter, false⟩, { m with registers := (m.registers.setFlag on).set x b }))
    (heffect : i.effect counter keys m.view = m.view.putFlagged x v flag) (hv : b.toNat = v)
    (hon : on = flag) (hflow : i.flow keys m.view = .next) (hnotices : i.notices = #[]) :
    Performed i counter keys m := by
  refine performed_registers hrun ?_ rfl hflow hnotices
  rw [view_setFlag_set, heffect, hv, hon]

end Kinds

/-! ## Performance: transfers of several bytes -/

theorem execute_draw {x y : Register} {rows : Fin 16} {sprite : List UInt8}
    (h : m.memory.readBytes m.registers.index rows.val = .ok sprite) :
    (execute (.draw x y rows) counter keys).on m =
      (.ok ⟨counter, false⟩,
        { m with
          screen := (m.screen.draw (m.registers.get x).toNat (m.registers.get y).toNat
            (Byte.toInts sprite)).1
          registers := m.registers.setFlag (m.screen.draw (m.registers.get x).toNat
            (m.registers.get y).toNat (Byte.toInts sprite)).2 }) := by
  simp only [execute, Action.on_bind, Action.on_get, h, orError, Action.on_pure, Action.on_modify,
    onRegisters]

/-- A sprite in memory covers the pixels that its bytes say. -/
theorem covers_slice (left top : Nat) {rows : Nat} (h : Memory.InRange m.registers.index rows)
    (c : Fin 64) (r : Fin 32) :
    Screen.Covers left top (Byte.toInts (m.memory.slice m.registers.index.toNat
      (m.registers.index.toNat + rows))) c r ↔ m.view.Covered left top rows c r := by
  have hend := h.toNat_le
  have hrow : ∀ k : Nat, (Byte.toInts (m.memory.slice m.registers.index.toNat
      (m.registers.index.toNat + rows)))[k]? =
      if k < rows then some ((m.view.byte (m.registers.index.toNat + k) : Nat) : Int)
      else none := by
    intro k
    rw [Byte.toInts, List.getElem?_map, Memory.getElem?_slice k hend]
    by_cases hk : k < rows
    · rw [if_pos (by omega), if_pos hk]
      rfl
    · rw [if_neg (by omega), if_neg hk]
      rfl
  have hk : ((r.val : Int) - top).toNat = r.val - top := by omega
  have hdx : ((c.val : Int) - left).toNat = c.val - left := by omega
  rw [Screen.covers_iff, View.Covered, hk, hdx, hrow]
  constructor
  · rintro ⟨hleft, hright, htop, row, hmem, hbit⟩
    by_cases hbelow : r.val - top < rows
    · rw [if_pos hbelow] at hmem
      obtain rfl := Option.some.inj hmem
      rw [Screen.bit_ofNat] at hbit
      exact ⟨⟨by omega, by omega⟩, ⟨by omega, by omega⟩, hbit⟩
    · rw [if_neg hbelow] at hmem
      cases hmem
  · rintro ⟨⟨hleft, hright⟩, ⟨htop, hbottom⟩, hbit⟩
    rw [if_pos (by omega)]
    refine ⟨by omega, by omega, by omega, _, rfl, ?_⟩
    rw [Screen.bit_ofNat]
    exact hbit

theorem performed_draw {x y : Register} {rows : Fin 16}
    (h : Memory.InRange m.registers.index rows.val) :
    Performed (.draw x y rows) counter keys m := by
  refine ⟨_, execute_draw (Memory.readBytes_inRange h), ?_, rfl, rfl, rfl, rfl⟩
  -- the sprite matters only through the pixels that it covers
  have hcovers := covers_slice (m.registers.get x).toNat (m.registers.get y).toNat h
  generalize Byte.toInts (m.memory.slice m.registers.index.toNat
    (m.registers.index.toNat + rows.val)) = sprite at hcovers ⊢
  generalize hdrawn : m.screen.draw (m.registers.get x).toNat (m.registers.get y).toNat sprite =
    drawn
  have hpixel : drawn.1.lit = fun c r => m.view.pixel c r ^^
      decide (m.view.Covered (m.view.general x) (m.view.general y) rows.val c r) := by
    funext c r
    rw [← hdrawn, Screen.lit_draw]
    exact congrArg (m.screen.lit c r ^^ ·) (decide_eq_decide.2 (hcovers c r))
  have hhit : drawn.2 = decide (∃ c r, m.view.Covered (m.view.general x) (m.view.general y)
      rows.val c r ∧ m.view.pixel c r = true) := by
    rw [Bool.eq_iff_iff, ← hdrawn, Screen.draw_hit, decide_eq_true_iff]
    simp only [hcovers]
    rfl
  refine (view_setFlag { m with screen := drawn.1 } drawn.2).trans ?_
  show ({ m.view with pixel := drawn.1.lit } : View).put _ _ = _
  rw [hpixel, hhit]
  rfl

/-- The bytes that a transfer within memory leaves. -/
theorem byte_overlay (bs : List UInt8) (h : Memory.InRange m.registers.index bs.length) (a : Nat) :
    ((m.memory.overlay m.registers.index.toNat bs).cell a).toNat =
      if m.registers.index.toNat ≤ a then
        (bs.map UInt8.toNat)[a - m.registers.index.toNat]?.getD (m.view.byte a)
      else m.view.byte a := by
  rw [Memory.cell_overlay_fits m.memory h.toNat_le]
  split
  · rw [List.getElem?_map]
    cases bs[a - m.registers.index.toNat]? <;> rfl
  · rfl

theorem performed_storeDecimal {x : Register} (h : Memory.InRange m.registers.index 3) :
    Performed (.storeDecimal x) counter keys m := by
  have hwrite : m.memory.storeDecimal m.registers.index (m.registers.get x).toNat = _ :=
    Memory.storeDecimal_eq (m.registers.get x).toNat_lt
  rw [Memory.writeBytes_inRange _ h] at hwrite
  have hdigits := Byte.map_toNat_map_ofNat (Memory.decimals_lt (m.registers.get x).toNat_lt)
  have hbyte := byte_overlay ((Memory.decimals (m.registers.get x).toNat).map UInt8.ofNat) h
  rw [hdigits] at hbyte
  -- from here on the digits are bytes like any other
  generalize (Memory.decimals (m.registers.get x).toNat).map UInt8.ofNat = digits at hwrite hbyte
  refine ⟨{ m with memory := m.memory.overlay m.registers.index.toNat digits }, ?_, ?_,
    rfl, rfl, rfl, rfl⟩
  · simp only [execute, Action.on_bind, Action.on_get, hwrite, orError, Action.on_pure,
      Action.on_modify]
    rfl
  · have heffect : ∀ a, ((m.memory.overlay m.registers.index.toNat digits).cell a).toNat =
        ((Instruction.storeDecimal x).effect counter keys m.view).byte a := by
      intro a
      rw [hbyte, Memory.getD_decimals]
      rfl
    exact congrArg (fun byte => ({ m.view with byte } : View)) (funext heffect)

/-- The index moves behind the `n` bytes that a transfer has used, unless the dialect keeps it. -/
def passed (m : Machine) (n : Nat) : Machine :=
  if m.dialect.keepIndex then m else { m with registers := m.registers.advanceIndex n }

theorem view_passed {n : Nat} (h : Memory.InRange m.registers.index n) :
    (m.passed n).view = m.view.pass n := by
  unfold passed
  by_cases hkeep : m.dialect.keepIndex = true
  · have hindex : m.view.index = if m.dialect.keepIndex then m.view.index else m.view.index + n :=
      (if_pos hkeep).symm
    rw [if_pos hkeep]
    exact congrArg (fun index => ({ m.view with index } : View)) hindex
  · -- behind memory there is room in the index for one more address
    have hmod : (m.registers.index + n) % 65536 = m.registers.index + n := by
      have := h.1
      have := h.2
      omega
    have hindex : (m.registers.index + n) % 65536 =
        if m.dialect.keepIndex then m.view.index else m.view.index + n :=
      hmod.trans (if_neg hkeep).symm
    rw [if_neg hkeep]
    exact congrArg (fun index => ({ m.view with index } : View)) hindex

/-- A transfer that ends with `passed` is performed if it leaves the right view before. -/
theorem performed_passed {i : Instruction} {n : Nat} (m₁ : Machine)
    (hrun : (execute i counter keys).on m = (.ok ⟨counter, false⟩, m₁.passed n))
    (hin : Memory.InRange m₁.registers.index n)
    (hview : m₁.view.pass n = i.effect counter keys m.view)
    (hcounter : m₁.registers.counter = m.registers.counter) (hpaused : m₁.paused = m.paused)
    (hcycles : m₁.cycles = m.cycles) (hjournal : m₁.journal = m.journal)
    (hflow : i.flow keys m.view = .next) (hnotices : i.notices = #[]) :
    Performed i counter keys m := by
  have hparts : (m₁.passed n).registers.counter = m₁.registers.counter ∧
      (m₁.passed n).paused = m₁.paused ∧ (m₁.passed n).cycles = m₁.cycles ∧
      (m₁.passed n).journal = m₁.journal := by
    unfold passed
    split <;> exact ⟨rfl, rfl, rfl, rfl⟩
  obtain ⟨hc, hp, hcy, hj⟩ := hparts
  refine ⟨_, hrun.trans ?_, (view_passed hin).trans hview, hc.trans hcounter, hp.trans hpaused,
    hcy.trans hcycles, ?_⟩
  · rw [hflow]
    rfl
  · rw [hj, hjournal, hnotices, Array.append_empty]

theorem performed_dump {x : Register} (h : Memory.InRange m.registers.index (x.val + 1 : Nat)) :
    Performed (.dump x) counter keys m := by
  have hlength := m.registers.length_dump x
  have hwrite := Memory.writeBytes_inRange (m := m.memory) (m.registers.dump x) (hlength ▸ h)
  refine performed_passed (n := x.val + 1)
    { m with memory := m.memory.overlay m.registers.index.toNat (m.registers.dump x) }
    ?_ h ?_ rfl rfl rfl rfl rfl rfl
  · simp only [execute, Action.on_bind, Action.on_get, hwrite, orError, Action.on_pure,
      Action.on_modify, passed]
    cases m.dialect.keepIndex <;> rfl
  · have hbyte : ∀ a, ((m.memory.overlay m.registers.index.toNat
        (m.registers.dump x)).cell a).toNat =
        ((Instruction.dump x).effect counter keys m.view).byte a := by
      intro a
      rw [byte_overlay _ (hlength ▸ h), Registers.getD_dump]
      rfl
    exact congrArg (fun byte => ({ m.view with byte } : View).pass (x.val + 1)) (funext hbyte)

theorem performed_restore {x : Register} (h : Memory.InRange m.registers.index (x.val + 1 : Nat)) :
    Performed (.restore x) counter keys m := by
  have hend := h.toNat_le
  have hread := Memory.readBytes_inRange (m := m.memory) h
  rw [Int.natCast_add, Int.natCast_one] at hread
  have hload : m.registers.load (m.memory.slice m.registers.index.toNat
      (m.registers.index.toNat + (x.val + 1))) = _ :=
    Registers.load_fits (by rw [Memory.length_slice]; omega)
  refine performed_passed (n := x.val + 1)
    { m with
      registers := m.registers.fillFrom 0 (m.memory.slice m.registers.index.toNat
        (m.registers.index.toNat + (x.val + 1))) }
    ?_ ?_ ?_ (Registers.counter_fillFrom _ _ _) rfl rfl rfl rfl rfl
  · simp only [execute, Action.on_bind, Action.on_get, hread, hload, orError, Action.on_pure,
      passed]
    cases m.dialect.keepIndex <;> rfl
  · rw [Registers.index_fillFrom]
    exact h
  · have hgeneral : ∀ r, ((m.registers.fillFrom 0 (m.memory.slice m.registers.index.toNat
        (m.registers.index.toNat + (x.val + 1)))).get r).toNat =
        ((Instruction.restore x).effect counter keys m.view).general r := by
      intro r
      rw [Registers.get_fillFrom, if_pos (Nat.zero_le _), Nat.sub_zero,
        Memory.getElem?_slice r.val hend]
      simp only [Instruction.effect, View.pass, view]
      by_cases hr : r ≤ x
      · have hval : r.val ≤ x.val := hr
        rw [if_pos hr, if_pos (by omega)]
        rfl
      · have hval : ¬ r.val ≤ x.val := hr
        rw [if_neg hr, if_neg (by omega)]
        rfl
    have hindex := m.registers.index_fillFrom 0 (m.memory.slice m.registers.index.toNat
      (m.registers.index.toNat + (x.val + 1)))
    refine congrArg (View.pass · (x.val + 1)) ?_
    rw [View.ext_iff]
    exact ⟨funext hgeneral, hindex, rfl, rfl, rfl, rfl, rfl, rfl, rfl, rfl⟩

theorem performed_awaitKey {x : Register} (hkeys : ∀ k ∈ keys, Keypad.IsCode k) :
    Performed (.awaitKey x) counter keys m := by
  cases hmin : keys.min? with
  | none =>
    obtain rfl := List.min?_eq_none_iff.1 hmin
    exact performed_flow rfl rfl rfl
  | some key =>
    have hmem : key ∈ keys := List.min?_mem hmin
    obtain ⟨hlow, hhigh⟩ := hkeys key hmem
    have hne : keys ≠ [] := List.ne_nil_of_mem hmem
    refine performed_store (x := x) ⟨hlow, by omega⟩ ?_ ?_ (if_neg hne) rfl
    · simp only [execute, hmin, Action.on_bind, Action.on_get]
    · simp only [Instruction.effect, hmin]

/-- An instruction that is not refused is performed, with the flow of the table. -/
theorem execute_performed {i : Instruction} (h : i.refusal counter m = none)
    (hkeys : ∀ k ∈ keys, Keypad.IsCode k) : Performed i counter keys m := by
  cases i with
  | halt => exact performed_flow rfl rfl rfl
  | jump target => exact performed_flow rfl rfl rfl
  | jumpFrom base => exact performed_flow rfl rfl rfl
  | clear =>
    have hlit : Screen.dark.lit = fun _ _ => false :=
      funext fun c => funext fun r => Screen.lit_dark c r
    refine ⟨{ m with screen := Screen.dark }, rfl, ?_, rfl, rfl, rfl, rfl⟩
    show ({ m.view with pixel := Screen.dark.lit } : View) =
      { m.view with pixel := fun _ _ => false }
    rw [hlit]
  | ret =>
    -- without an open call the return would be refused
    have hopen : m.stack.entries ≠ [] := by simpa [Instruction.refusal] using h
    obtain ⟨address, rest, hentries⟩ := List.exists_cons_of_ne_nil hopen
    have hpop : m.stack.pop = .ok (address, ⟨rest⟩) := by rw [CallStack.pop, hentries]
    refine ⟨{ m with stack := ⟨rest⟩ }, ?_, ?_, rfl, rfl, rfl, rfl⟩
    · simp only [execute, Action.on_bind, Action.on_get, hpop, orFault, Action.on_pure,
        Action.on_modify]
      simp [Instruction.flow, Flow.outcome, view, hentries]
    · show ({ m.view with stack := rest } : View) = { m.view with stack := m.stack.entries.tail }
      rw [hentries, List.tail_cons]
  | call target =>
    have hroom : ¬ CallStack.room ≤ m.stack.depth := by simpa [Instruction.refusal] using h
    have hpush : m.stack.push counter = .ok ⟨counter :: m.stack.entries⟩ := if_neg hroom
    refine ⟨{ m with stack := ⟨counter :: m.stack.entries⟩ }, ?_, rfl, rfl, rfl, rfl, rfl⟩
    simp only [execute, Action.on_bind, Action.on_get, hpush, orFault, Action.on_pure,
      Action.on_modify]
    rfl
  | skipIfValue x value => exact performed_skip rfl rfl (by simp [view, UInt8.toNat_inj]) rfl rfl
  | skipUnlessValue x value =>
    exact performed_skip rfl rfl (by simp [view, UInt8.toNat_inj]) rfl rfl
  | skipIfSame x y => exact performed_skip rfl rfl (by simp [view, UInt8.toNat_inj]) rfl rfl
  | skipUnlessSame x y => exact performed_skip rfl rfl (by simp [view, UInt8.toNat_inj]) rfl rfl
  | skipIfHeld x => exact performed_skip rfl rfl (by simp [view]) rfl rfl
  | skipUnlessHeld x => exact performed_skip rfl rfl (by simp [view]) rfl rfl
  | setValue x value => exact performed_set rfl rfl rfl rfl rfl
  | addValue x value =>
    refine performed_set rfl rfl ?_ rfl rfl
    -- the operand is a byte already, so reducing it first loses nothing
    rw [UInt8.toNat_add, Byte.toNat_ofInt]
    show ((m.registers.get x).toNat + _) % 256 = ((m.registers.get x).toNat + value.toNat) % 256
    omega
  | copy x y => exact performed_set rfl rfl rfl rfl rfl
  | or x y => exact performed_set rfl rfl (UInt8.toNat_or _ _) rfl rfl
  | and x y => exact performed_set rfl rfl (UInt8.toNat_and _ _) rfl rfl
  | xor x y => exact performed_set rfl rfl (UInt8.toNat_xor _ _) rfl rfl
  | add x y => exact performed_setFlagged rfl rfl (UInt8.toNat_add _ _) rfl rfl rfl
  | sub x y =>
    refine performed_setFlagged rfl rfl (Byte.toNat_sub _ _) ?_ rfl rfl
    exact decide_eq_decide.2 UInt8.le_iff_toNat_le
  | subFrom x y =>
    refine performed_setFlagged rfl rfl (Byte.toNat_sub _ _) ?_ rfl rfl
    exact decide_eq_decide.2 UInt8.le_iff_toNat_le
  | shiftRight x y =>
    refine performed_setFlagged rfl rfl (Byte.toNat_shiftRight _) ?_ rfl rfl
    exact decide_eq_decide.2 (Byte.lowBit_iff _)
  | shiftLeft x y =>
    refine performed_setFlagged rfl rfl (Byte.toNat_shiftLeft _) ?_ rfl rfl
    exact decide_eq_decide.2 UInt8.le_iff_toNat_le
  | setIndex address => exact performed_registers rfl rfl rfl rfl rfl
  | random x mask =>
    refine ⟨{ m with
      source := m.source.next.2
      registers := m.registers.set x (UInt8.ofInt m.source.next.1 &&& mask) },
      rfl, ?_, rfl, rfl, rfl, rfl⟩
    -- the masked number goes into the register and the source moves on
    have hset := view_set m x (UInt8.ofInt m.source.next.1 &&& mask)
    rw [UInt8.toNat_and, Byte.toNat_ofInt] at hset
    exact congrArg (fun s : View => { s with source := m.source.next.2 }) hset
  | draw x y rows => exact performed_draw (Memory.refusal_eq_none.1 h)
  | getDelay x =>
    have hfits : 0 ≤ m.timers.delay ∧ m.timers.delay ≤ 255 := by
      simpa [Instruction.refusal] using h
    exact performed_store hfits rfl rfl rfl rfl
  | awaitKey x => exact performed_awaitKey hkeys
  | setDelay x => exact ⟨{ m with timers := _ }, rfl, rfl, rfl, rfl, rfl, rfl⟩
  | setSound x => exact ⟨{ m with timers := _ }, rfl, rfl, rfl, rfl, rfl, rfl⟩
  | addIndex x => exact performed_registers rfl rfl rfl rfl rfl
  | setIndexToDigit x =>
    refine performed_registers rfl ?_ rfl rfl rfl
    have hplace : Memory.glyphAddress (m.registers.get x).toNat =
        0x050 + 5 * ((m.registers.get x).toNat : Int) := by
      rw [Memory.glyphAddress, Int.mul_comm]
      rfl
    show ({ m.view with index := Memory.glyphAddress (m.registers.get x).toNat } : View) = _
    rw [hplace]
    rfl
  | storeDecimal x => exact performed_storeDecimal (Memory.refusal_eq_none.1 h)
  | dump x => exact performed_dump (Memory.refusal_eq_none.1 h)
  | restore x => exact performed_restore (Memory.refusal_eq_none.1 h)
  | unknown word => exact ⟨m.note (.unknownWord word), rfl, rfl, rfl, rfl, rfl, rfl⟩

end Machine

end Chip8
