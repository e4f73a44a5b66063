import Chip8.Proofs.Dialects

/-!
# Saving and restoring registers

Registers that were stored in memory come back when they are filled from there,
whatever is executed in between, as long as their bytes are left alone.

- `Instruction.Writes`: the bytes that an instruction stores.
- `Machine.execute_frame`: an instruction that is performed leaves all other bytes alone.
- `Machine.Interlude`: instructions and steps one after the other that leave certain
  bytes alone; `Interlude.frame`: what is the same after them.
- `Performs.dumped`, `Performs.restored`, `Performs.moved`: what the two transfers do.
- `Machine.restore_dump`: what a restore finds after a dump and an interlude.
-/

namespace Chip8

namespace Instruction

/-- The instruction, performed with this index, stores a byte at `a`. -/
def Writes (i : Instruction) (index : Int) (a : Nat) : Prop :=
  match i with
  | storeDecimal _ => index.toNat ≤ a ∧ a ≤ index.toNat + 2
  | dump x => index.toNat ≤ a ∧ a ≤ index.toNat + x.val
  | _ => False

theorem effect_byte_kept {i : Instruction} {s : View} {a : Nat} (h : ¬ i.Writes s.index a)
    (counter : Int) (keys : List Int) : (i.effect counter keys s).byte a = s.byte a := by
  by_contra hne
  rcases effect_byte hne with ⟨x, rfl, hrange⟩ | ⟨x, rfl, hrange⟩
  · exact h hrange
  · exact h hrange

end Instruction

namespace Machine

variable {i : Instruction} {counter : Int} {keys : List Int} {outcome : Outcome} {m m' : Machine}
  {x : Register} {kept : Nat → Prop}

/-! ## One instruction -/

/-- All instructions but two leave memory alone, performed or not. -/
theorem execute_keeps (hdecimal : ∀ x, i ≠ .storeDecimal x) (hdump : ∀ x, i ≠ .dump x)
    (counter : Int) (keys : List Int) (m : Machine) :
    ((execute i counter keys).on m).2.memory = m.memory ∧
      ((execute i counter keys).on m).2.dialect = m.dialect := by
  cases i with
  | storeDecimal x => exact absurd rfl (hdecimal x)
  | dump x => exact absurd rfl (hdump x)
  | ret =>
    simp only [execute, Action.on_bind, Action.on_get]
    cases m.stack.pop <;> exact ⟨rfl, rfl⟩
  | call target =>
    simp only [execute, Action.on_bind, Action.on_get]
    cases m.stack.push counter <;> exact ⟨rfl, rfl⟩
  | draw x y rows =>
    simp only [execute, Action.on_bind, Action.on_get]
    cases m.memory.readBytes m.registers.index rows.val <;> exact ⟨rfl, rfl⟩
  | getDelay x =>
    simp only [execute, store, Action.on_bind, Action.on_get]
    cases m.registers.store x m.timers.delay <;> exact ⟨rfl, rfl⟩
  | awaitKey x =>
    simp only [execute, store, Action.on_bind, Action.on_get]
    cases keys.min? with
    | none => exact ⟨rfl, rfl⟩
    | some key =>
      simp only [Action.on_bind, Action.on_get]
      cases m.registers.store x key <;> exact ⟨rfl, rfl⟩
  | restore x =>
    simp only [execute, Action.on_bind, Action.on_get]
    cases m.memory.readBytes m.registers.index (x.val + 1) with
    | error e => exact ⟨rfl, rfl⟩
    | ok values =>
      simp only [orError, Action.on_pure]
      cases m.registers.load values with
      | error e => exact ⟨rfl, rfl⟩
      | ok loaded =>
        simp only [Action.on_pure]
        cases m.dialect.keepIndex <;> exact ⟨rfl, rfl⟩
  | _ => exact ⟨rfl, rfl⟩

/-- The cells of memory are the bytes of the view. -/
theorem cell_eq_of_byte {a : Nat} (h : m'.view.byte a = m.view.byte a) :
    m'.memory.cell a = m.memory.cell a :=
  UInt8.toNat_inj.1 h

theorem Performs.frame (h : Performs i counter keys m m') :
    m'.dialect = m.dialect ∧
      ∀ a, ¬ i.Writes m.registers.index a → m'.memory.cell a = m.memory.cell a := by
  constructor
  · have hdialect := congrArg View.dialect h.view
    rw [Instruction.dialect_effect] at hdialect
    exact hdialect
  · intro a hwrites
    refine cell_eq_of_byte ?_
    rw [h.view, Instruction.effect_byte_kept hwrites]

/-- What succeeds is performed, for an instruction that is performed unless it is refused. -/
theorem performs_of_ok (h : (execute i counter keys).on m = (.ok outcome, m'))
    (hperformed : i.refusal counter m = none → Performed i counter keys m) :
    Performs i counter keys m m' := by
  cases hrefusal : i.refusal counter m with
  | some e =>
    rw [execute_refused hrefusal keys] at h
    cases h
  | none =>
    obtain ⟨n, hrun, hperforms⟩ := hperformed hrefusal
    rw [h] at hrun
    obtain rfl := (Prod.mk.inj hrun).2
    exact hperforms

/-- An instruction that succeeds leaves alone the bytes that it does not store, and the dialect. -/
theorem execute_frame (h : (execute i counter keys).on m = (.ok outcome, m')) :
    m'.dialect = m.dialect ∧
      ∀ a, ¬ i.Writes m.registers.index a → m'.memory.cell a = m.memory.cell a := by
  by_cases hdecimal : ∃ x, i = .storeDecimal x
  · obtain ⟨x, rfl⟩ := hdecimal
    exact (performs_of_ok h fun hnone =>
      performed_storeDecimal (Memory.refusal_eq_none.1 hnone)).frame
  · by_cases hdump : ∃ x, i = .dump x
    · obtain ⟨x, rfl⟩ := hdump
      exact (performs_of_ok h fun hnone =>
        performed_dump (Memory.refusal_eq_none.1 hnone)).frame
    · -- no other instruction stores anything, whatever the keys
      obtain ⟨hmemory, hdialect⟩ := execute_keeps (fun x hx => hdecimal ⟨x, hx⟩)
        (fun x hx => hdump ⟨x, hx⟩) counter keys m
      rw [h] at hmemory hdialect
      exact ⟨hdialect, fun a _ => congrArg (Memory.cell · a) hmemory⟩

/-! ## Interludes -/

/-- The machine `m` has become `m'` by instructions and by steps, as many and in such order as may
be. All of them are performed, and none stores a byte at an address of `kept`. -/
inductive Interlude (kept : Nat → Prop) : Machine → Machine → Prop
  | done (m : Machine) : Interlude kept m m
  | execute {m m₁ m' : Machine} {i : Instruction} {counter : Int} {keys : List Int}
      {outcome : Outcome} (h : (execute i counter keys).on m = (.ok outcome, m₁))
      (hkept : ∀ a, kept a → ¬ i.Writes m.registers.index a) (rest : Interlude kept m₁ m') :
      Interlude kept m m'
  | step {m m₁ m' : Machine} {keys : List Int} (h : (step keys).on m = (.ok (), m₁))
      (hkept : ∀ a, kept a → ¬ m.current.Writes m.registers.index a)
      (rest : Interlude kept m₁ m') : Interlude kept m m'

/-- An interlude leaves alone what it has to, and the dialect is the same after it. -/
theorem Interlude.frame (h : Interlude kept m m') :
    m'.dialect = m.dialect ∧ ∀ a, kept a → m'.memory.cell a = m.memory.cell a := by
  induction h with
  | done m => exact ⟨rfl, fun a _ => rfl⟩
  | execute h hkept rest ih =>
    obtain ⟨hdialect, hcells⟩ := execute_frame h
    refine ⟨ih.1.trans hdialect, fun a ha => ?_⟩
    rw [ih.2 a ha, hcells a (hkept a ha)]
  | step h hkept rest ih =>
    obtain ⟨-, hstepped⟩ := stepped h
    refine ⟨ih.1.trans hstepped.dialect, fun a ha => (ih.2 a ha).trans ?_⟩
    refine cell_eq_of_byte ?_
    rw [hstepped.view, View.byte_tick, Instruction.effect_byte_kept (hkept a ha)]

/-! ## There and back -/

/-- A dump and a restore move the index alike. -/
theorem Performs.moved (h : Performs i counter keys m m') (hi : i = .dump x ∨ i = .restore x) :
    m'.registers.index =
      if m.dialect.keepIndex then m.registers.index else m.registers.index + x.val + 1 := by
  have hindex : m'.view.index = (m.view.pass (x.val + 1)).index := by
    rw [h.view]
    rcases hi with rfl | rfl <;> rfl
  refine hindex.trans (if_congr Iff.rfl rfl ?_)
  exact (Int.add_assoc m.registers.index x.val 1).symm

/-- A dump stores the registers one behind the other. -/
theorem Performs.dumped (h : Performs (.dump x) counter keys m m') {r : Register} (hr : r ≤ x) :
    m'.view.byte (m.registers.index.toNat + r.val) = m.view.general r := by
  have hplace : Register.ofNat (m.registers.index.toNat + r.val - m.registers.index.toNat) = r := by
    rw [Nat.add_sub_cancel_left]
    exact Fin.ext (Nat.mod_eq_of_lt r.isLt)
  have hval : r.val ≤ x.val := hr
  have hrange : m.registers.index.toNat ≤ m.registers.index.toNat + r.val ∧
      m.registers.index.toNat + r.val ≤ m.registers.index.toNat + x.val := by omega
  rw [h.view]
  exact (if_pos hrange).trans (congrArg m.view.general hplace)

/-- A restore takes the registers up to its own from there, and leaves the others. -/
theorem Performs.restored (h : Performs (.restore x) counter keys m m') (r : Register) :
    m'.view.general r =
      if r ≤ x then m.view.byte (m.registers.index.toNat + r.val) else m.view.general r := by
  rw [h.view]
  rfl

/-- **What was stored comes back.** Where the registers up to `x` fit into memory from the index on,
a dump succeeds. After any interlude that leaves their bytes alone, and with the index set back, a
restore succeeds. It gives the registers up to `x` the values that they had at the dump, leaves the
others and memory as they are, and moves the index as the dump did. -/
theorem restore_dump (hlow : 0 ≤ m.registers.index) (hhigh : m.registers.index + x.val + 1 ≤ 4096)
    (counter : Int) (keys : List Int) :
    let first := m.registers.index
    let behind := if m.dialect.keepIndex then first else first + x.val + 1
    ∃ m₁, (execute (.dump x) counter keys).on m = (.ok ⟨counter, false⟩, m₁) ∧
      m₁.registers.index = behind ∧
      ∀ m₂, Interlude (fun a => first ≤ a ∧ a ≤ first + x.val) m₁ m₂ →
        ∀ (later : Int) (held : List Int),
          let back := { m₂ with registers := { m₂.registers with index := first } }
          ∃ m₃, (execute (.restore x) later held).on back = (.ok ⟨later, false⟩, m₃) ∧
            (∀ r, r ≤ x → m₃.registers.get r = m.registers.get r) ∧
            (∀ r, x < r → m₃.registers.get r = m₂.registers.get r) ∧
            m₃.memory = m₂.memory ∧ m₃.registers.index = behind := by
  intro first behind
  have hin : Memory.InRange first (x.val + 1 : Nat) := ⟨hlow, by omega⟩
  obtain ⟨m₁, hdump, hdumped⟩ : Performed (.dump x) counter keys m := performed_dump hin
  refine ⟨m₁, hdump, hdumped.moved (.inl rfl), fun m₂ hinterlude later held => ?_⟩
  intro back
  obtain ⟨hdialect, hcells⟩ := hinterlude.frame
  obtain ⟨m₃, hrestore, hrestored⟩ : Performed (.restore x) later held back :=
    performed_restore hin
  have hmemory := (execute_keeps (i := .restore x) (fun y h => by cases h) (fun y h => by cases h)
    later held back).1
  rw [hrestore] at hmemory
  refine ⟨m₃, hrestore, fun r hr => ?below, fun r hr => ?above, hmemory, ?index⟩
  case below =>
    have hval : r.val ≤ x.val := hr
    have hcell := hcells (first.toNat + r.val) ⟨by omega, by omega⟩
    apply UInt8.toNat_inj.1
    calc m₃.view.general r
        = back.view.byte (first.toNat + r.val) := (hrestored.restored r).trans (if_pos hr)
      _ = m₁.view.byte (first.toNat + r.val) := congrArg UInt8.toNat hcell
      _ = m.view.general r := hdumped.dumped hr
  case above =>
    exact UInt8.toNat_inj.1 ((hrestored.restored r).trans (if_neg (Fin.not_le.2 hr)))
  case index =>
    have hsame : back.dialect = m.dialect := hdialect.trans hdumped.frame.1
    have hmoved := hrestored.moved (.inr rfl)
    rw [hsame] at hmoved
    exact hmoved

/-- `V0` and `V1` are stored and come back, though `V0` is filled anew in between and its decimals
are stored right behind the two bytes. -/
theorem restore_dump_behind :
    let m : Machine :=
      { memory := .blank, source := .cycle #[],
        registers := (({ index := 0x300 } : Registers).set 0 7).set 1 8 }
    0 ≤ m.registers.index ∧ m.registers.index + (1 : Register).val + 1 ≤ 4096 ∧
      ∃ m₁ m₂ m₃, (execute (.dump 1) 0x200 []).on m = (.ok ⟨0x200, false⟩, m₁) ∧
        Interlude (fun a => (0x300 : Int) ≤ a ∧ (a : Int) ≤ 0x301) m₁ m₂ ∧
        m₂.registers.get 0 = 254 ∧
        (execute (.restore 1) 0x206 []).on
          { m₂ with registers := { m₂.registers with index := 0x300 } } =
            (.ok ⟨0x206, false⟩, m₃) ∧
        m₃.registers.get 0 = 7 ∧ m₃.registers.get 1 = 8 := by
  intro m
  have hlow : 0 ≤ m.registers.index := by decide
  have hhigh : m.registers.index + (1 : Register).val + 1 ≤ 4096 := by decide
  refine ⟨hlow, hhigh, ?_⟩
  obtain ⟨m₁, hdump, hbehind, hback⟩ := restore_dump hlow hhigh 0x200 []
  have hindex : m₁.registers.index = 0x302 := hbehind
  -- in between `V0` is set, and its decimals are stored from the index on
  let changed : Machine := { m₁ with registers := m₁.registers.set 0 254 }
  have hset : (execute (.setValue 0 254) 0x202 []).on m₁ = (.ok ⟨0x202, false⟩, changed) := rfl
  have hchanged : changed.registers.index = 0x302 := hindex
  obtain ⟨m₂, hdecimals, hperforms⟩ : Performed (.storeDecimal 0) 0x204 [] changed :=
    performed_storeDecimal (by rw [hchanged]; decide)
  have hinterlude : Interlude (fun a => (0x300 : Int) ≤ a ∧ (a : Int) ≤ 0x301) m₁ m₂ := by
    refine .execute hset (fun a _ hwrites => hwrites) (.execute hdecimals ?_ (.done m₂))
    rintro a ⟨-, hlast⟩ ⟨hfirst, -⟩
    rw [hchanged] at hfirst
    omega
  obtain ⟨m₃, hrestore, hrestored, -⟩ := hback m₂ hinterlude 0x206 []
  refine ⟨m₁, m₂, m₃, hdump, hinterlude, ?_, hrestore, ?_, ?_⟩
  · have hkept : m₂.view.general 0 = changed.view.general 0 :=
      congrFun (congrArg View.general hperforms.view) 0
    exact (UInt8.toNat_inj.1 hkept).trans (Registers.get_set_self m₁.registers 0 254)
  · exact (hrestored 0 (by decide)).trans rfl
  · exact (hrestored 1 (by decide)).trans rfl

end Machine

end Chip8
