import Chip8.Machine
import Chip8.Machine.Execute
import Chip8.Proofs.Block
import Chip8.Proofs.Sprite

/-!
# The instruction table

What each instruction does, said without the parts that do it: on the numbers
that the registers, the memory and the timers hold and on the pixels of the
grid. All operands are read from the state before the instruction.

- `View`: a machine's state as numbers, without the program counter.
- `Instruction.effect`: the state after an instruction.
- `Instruction.flow`, `Flow.counter`, `Flow.Pauses`: where the machine goes on
  after it, `Instruction.flow_congr`: and what that depends on.
- `Machine.ext_view`: a view leaves out nothing but the counters, the pause and
  the journal.
-/

namespace Chip8

/-- What of a machine an instruction can change besides the program counter, in numbers. -/
@[ext]
structure View where
  general : Register → Nat
  index : Int
  /-- The open calls, the latest first. -/
  stack : List Int
  delay : Int
  sound : Int
  untilDecay : Nat
  pixel : Fin 64 → Fin 32 → Bool
  /-- The byte at each address, zero beyond the last. -/
  byte : Nat → Nat
  source : RandomSource
  dialect : Dialect

/-- The state of a machine in numbers. -/
def Machine.view (m : Machine) : View where
  general r := (m.registers.get r).toNat
  index := m.registers.index
  stack := m.stack.entries
  delay := m.timers.delay
  sound := m.timers.sound
  untilDecay := m.timers.untilDecay
  pixel := m.screen.lit
  byte a := (m.memory.cell a).toNat
  source := m.source
  dialect := m.dialect

namespace View

/-- A register receives a number. -/
def put (s : View) (x : Register) (v : Nat) : View :=
  { s with general := fun r => if r = x then v else s.general r }

/-- A register receives a number after the flag register has received one or zero. -/
def putFlagged (s : View) (x : Register) (v : Nat) (flag : Bool) : View :=
  (s.put Register.flag flag.toNat).put x v

/-- The bit over a pixel is set in the sprite of `rows` bytes from the index on whose upper left
corner is at `(left, top)`. -/
def Covered (s : View) (left top rows : Nat) (c : Fin 64) (r : Fin 32) : Prop :=
  (left ≤ c.val ∧ c.val < left + 8) ∧ (top ≤ r.val ∧ r.val < top + rows) ∧
    (s.byte (s.index.toNat + (r.val - top))).testBit (7 - (c.val - left)) = true

instance (s : View) (left top rows : Nat) (c : Fin 64) (r : Fin 32) :
    Decidable (s.Covered left top rows c r) :=
  inferInstanceAs (Decidable (_ ∧ _))

/-- The index moves behind the `n` bytes that a transfer has used, unless it is kept. -/
def pass (s : View) (n : Nat) : View :=
  { s with index := if s.dialect.keepIndex then s.index else s.index + n }

/-- A tick of the timers: every eighth one takes one from each positive timer. -/
def tick (s : View) : View :=
  if 1 < s.untilDecay then { s with untilDecay := s.untilDecay - 1 }
  else
    { s with
      delay := if 0 < s.delay then s.delay - 1 else s.delay
      sound := if 0 < s.sound then s.sound - 1 else s.sound
      untilDecay := 8 }

section Tick

variable (s : View)

@[simp] theorem general_tick : s.tick.general = s.general := by
  unfold tick
  split <;> rfl

@[simp] theorem index_tick : s.tick.index = s.index := by
  unfold tick
  split <;> rfl

@[simp] theorem stack_tick : s.tick.stack = s.stack := by
  unfold tick
  split <;> rfl

@[simp] theorem byte_tick : s.tick.byte = s.byte := by
  unfold tick
  split <;> rfl

@[simp] theorem dialect_tick : s.tick.dialect = s.dialect := by
  unfold tick
  split <;> rfl

/-- A tick leaves a timer alone or takes one from it if it is positive. -/
theorem timers_tick :
    s.tick.delay = s.delay ∧ s.tick.sound = s.sound ∨
      s.tick.delay = (if 0 < s.delay then s.delay - 1 else s.delay) ∧
        s.tick.sound = (if 0 < s.sound then s.sound - 1 else s.sound) := by
  unfold tick
  split
  · exact .inl ⟨rfl, rfl⟩
  · exact .inr ⟨rfl, rfl⟩

theorem untilDecay_tick : s.tick.untilDecay = if 1 < s.untilDecay then s.untilDecay - 1 else 8 := by
  unfold tick
  split <;> rfl

end Tick

end View

namespace Instruction

/-- The register that a shift reads: its target in a dialect that shifts in place. -/
def shifted (s : View) (x y : Register) : Nat :=
  s.general (if s.dialect.shiftInPlace then x else y)

/-- The state after the instruction at `counter`, executed while `keys` are held. -/
def effect (i : Instruction) (counter : Int) (keys : List Int) (s : View) : View :=
  let v := s.general
  match i with
  | clear => { s with pixel := fun _ _ => false }
  | ret => { s with stack := s.stack.tail }
  | call _ => { s with stack := counter :: s.stack }
  | setValue x value => s.put x value.toNat
  | addValue x value => s.put x ((v x + value.toNat) % 256)
  | copy x y => s.put x (v y)
  | or x y => s.put x (v x ||| v y)
  | and x y => s.put x (v x &&& v y)
  | xor x y => s.put x (v x ^^^ v y)
  | add x y => s.putFlagged x ((v x + v y) % 256) (255 < v x + v y)
  | sub x y => s.putFlagged x ((256 + v x - v y) % 256) (v y ≤ v x)
  | subFrom x y => s.putFlagged x ((256 + v y - v x) % 256) (v x ≤ v y)
  | shiftRight x y => s.putFlagged x (shifted s x y / 2) (shifted s x y % 2 = 1)
  | shiftLeft x y => s.putFlagged x (2 * shifted s x y % 256) (128 ≤ shifted s x y)
  | setIndex address => { s with index := address.val }
  | random x mask =>
    { s.put x ((s.source.next.1 % 256).toNat &&& mask.toNat) with source := s.source.next.2 }
  | draw x y rows =>
    { s.put Register.flag
        (decide (∃ c r, s.Covered (v x) (v y) rows.val c r ∧ s.pixel c r = true)).toNat with
      pixel := fun c r => s.pixel c r ^^ decide (s.Covered (v x) (v y) rows.val c r) }
  | getDelay x => s.put x s.delay.toNat
  | awaitKey x =>
    match keys.min? with
    | none => s
    | some key => s.put x key.toNat
  | setDelay x => { s with delay := v x }
  | setSound x => { s with sound := v x }
  | addIndex x => { s with index := (s.index + v x) % 65536 }
  | setIndexToDigit x => { s with index := 0x050 + 5 * v x }
  | storeDecimal x =>
    { s with
      byte := fun a =>
        if a = s.index.toNat then v x / 100
        else if a = s.index.toNat + 1 then v x / 10 % 10
        else if a = s.index.toNat + 2 then v x % 10
        else s.byte a }
  | dump x =>
    { s with
      byte := fun a =>
        if s.index.toNat ≤ a ∧ a ≤ s.index.toNat + x.val then v (.ofNat (a - s.index.toNat))
        else s.byte a }.pass (x.val + 1)
  | restore x =>
    { s with
      general := fun r => if r ≤ x then s.byte (s.index.toNat + r.val) else v r }.pass (x.val + 1)
  | _ => s

variable {i : Instruction} {counter : Int} {keys : List Int} {s : View} {a : Nat}

/-- Only the two instructions that store into memory change it, and only where they store. -/
theorem effect_byte (h : (i.effect counter keys s).byte a ≠ s.byte a) :
    (∃ x, i = storeDecimal x ∧ s.index.toNat ≤ a ∧ a ≤ s.index.toNat + 2) ∨
      ∃ x : Register, i = dump x ∧ s.index.toNat ≤ a ∧ a ≤ s.index.toNat + x.val := by
  cases i with
  | storeDecimal x =>
    refine .inl ⟨x, rfl, Decidable.byContradiction fun hout => h ?_⟩
    simp only [effect]
    rw [if_neg (by omega), if_neg (by omega), if_neg (by omega)]
  | dump x =>
    exact .inr ⟨x, rfl, Decidable.byContradiction fun hout => h (if_neg hout)⟩
  | awaitKey x =>
    refine absurd ?_ h
    simp only [effect]
    split <;> rfl
  | _ => exact absurd rfl h

end Instruction

/-- Where the machine goes on after an instruction. -/
inductive Flow where
  /-- At the next instruction. -/
  | next
  /-- At the one after the next. -/
  | skip
  /-- At an address, and a jump of an instruction to itself is a rest. -/
  | jump (target : Int)
  /-- Into a routine or out of one. -/
  | transfer (target : Int)
  /-- At the same instruction. -/
  | stay
  deriving DecidableEq, Repr

namespace Flow

/-- The machine counts as paused after an instruction at `counter`. -/
def Pauses (counter : Int) : Flow → Prop
  | jump target => target = counter
  | stay => True
  | _ => False

instance (counter : Int) : ∀ f : Flow, Decidable (f.Pauses counter)
  | jump target => inferInstanceAs (Decidable (target = counter))
  | stay => inferInstanceAs (Decidable True)
  | next | skip | transfer _ => inferInstanceAs (Decidable False)

/-- The program counter after an instruction at `counter`. A transfer that ends where it began
counts as an instruction that has not moved. -/
def counter (counter : Int) : Flow → Int
  | next => counter + 2
  | skip => counter + 4
  | jump target => target
  | transfer target => if target = counter then counter + 2 else target
  | stay => counter

/-- The same as an instruction reports it. -/
def outcome (counter : Int) : Flow → Machine.Outcome
  | next => ⟨counter, false⟩
  | skip => ⟨counter + 4, false⟩
  | jump target => Machine.jumpTo counter target
  | transfer target => ⟨target, false⟩
  | stay => ⟨counter, true⟩

/-- A skip on a condition. -/
def skipIf (condition : Prop) [Decidable condition] : Flow :=
  if condition then skip else next

theorem outcome_skipIf {counter : Int} {on : Bool} {condition : Prop} [Decidable condition]
    (h : on = true ↔ condition) :
    (skipIf condition).outcome counter = Machine.skipIf counter on := by
  by_cases hc : condition
  · rw [skipIf, if_pos hc, h.2 hc]
    rfl
  · rw [skipIf, if_neg hc, Bool.eq_false_iff.2 (mt h.1 hc)]
    rfl

theorem pause_outcome (counter : Int) (f : Flow) :
    (f.outcome counter).pause = decide (f.Pauses counter) := by
  cases f with
  | jump target => by_cases h : target = counter <;> simp [outcome, Machine.jumpTo, Pauses, h]
  | next => rfl
  | skip => rfl
  | transfer target => rfl
  | stay => rfl

/-- A pause leaves the program counter where it is. -/
theorem counter_pauses {counter : Int} {f : Flow} (h : f.Pauses counter) :
    f.counter counter = counter := by
  cases f with
  | jump target => exact h
  | stay => rfl
  | next => exact h.elim
  | skip => exact h.elim
  | transfer target => exact h.elim

/-- Without a pause an outcome that has not moved means the next instruction. -/
theorem counter_moves {counter : Int} {f : Flow} (h : ¬ f.Pauses counter) :
    f.counter counter =
      if (f.outcome counter).counter = counter then counter + 2
      else (f.outcome counter).counter := by
  cases f with
  | jump target =>
    have hne : target ≠ counter := h
    rw [outcome, Machine.jumpTo, if_neg hne]
    exact (if_neg hne).symm
  | stay => exact absurd trivial h
  -- an instruction that goes on reports the counter as it was
  | next => exact (if_pos rfl).symm
  | skip =>
    have hne : counter + 4 ≠ counter := by omega
    exact (if_neg hne).symm
  | transfer target => rfl

end Flow

/-- Where an instruction sends the machine, executed while `keys` are held. -/
def Instruction.flow (i : Instruction) (keys : List Int) (s : View) : Flow :=
  let v := s.general
  match i with
  | halt => .stay
  | ret => .transfer (s.stack.headD 0 + 2)
  | jump target => .jump target.val
  | call target => .transfer target.val
  | skipIfValue x value => .skipIf (v x = value.toNat)
  | skipUnlessValue x value => .skipIf (v x ≠ value.toNat)
  | skipIfSame x y => .skipIf (v x = v y)
  | skipUnlessSame x y => .skipIf (v x ≠ v y)
  | jumpFrom base => .jump (base.val + v Register.base)
  | skipIfHeld x => .skipIf ((v x : Int) ∈ keys)
  | skipUnlessHeld x => .skipIf ((v x : Int) ∉ keys)
  | awaitKey _ => if keys = [] then .stay else .next
  | _ => .next

/-- Where an instruction leads depends on the registers and the open calls only. -/
theorem Instruction.flow_congr (i : Instruction) (keys : List Int) {s t : View}
    (hgeneral : t.general = s.general) (hstack : t.stack = s.stack) :
    i.flow keys t = i.flow keys s := by
  cases i <;> simp only [flow, hgeneral, hstack]

/-! ## Views of machines -/

namespace Machine

variable (m : Machine)

/-- The view of a machine determines its parts but for the counters, the pause and the journal. -/
theorem ext_view {m n : Machine} (hview : m.view = n.view)
    (hcounter : m.registers.counter = n.registers.counter) (hpaused : m.paused = n.paused)
    (hcycles : m.cycles = n.cycles) (hjournal : m.journal = n.journal) : m = n := by
  obtain ⟨⟨cells⟩, ⟨general, index, counter⟩, ⟨entries⟩, ⟨delay, sound, untilDecay⟩, screen,
    dialect, source, paused, cycles, journal⟩ := m
  obtain ⟨⟨cells'⟩, ⟨general', index', counter'⟩, ⟨entries'⟩, ⟨delay', sound', untilDecay'⟩,
    screen', dialect', source', paused', cycles', journal'⟩ := n
  rw [View.ext_iff] at hview
  obtain ⟨hgeneral, hindex, hstack, hdelay, hsound, huntil, hpixel, hbyte, hsource, hdialect⟩ :=
    hview
  -- a byte is determined by its number, the screen by its pixels
  have hcells : cells = cells' := by
    apply Vector.ext
    intro i hi
    have hcell := congrFun hbyte i
    simpa [view, Memory.cell, hi, UInt8.toNat_inj] using hcell
  have hregs : general = general' := by
    apply Vector.ext
    intro i hi
    exact UInt8.toNat_inj.1 (congrFun hgeneral ⟨i, hi⟩)
  have hscreen : screen = screen' := Screen.ext_lit fun c r => congrFun (congrFun hpixel c) r
  simp only [view] at hindex hstack hdelay hsound huntil hsource hdialect
  subst hcells hregs hscreen hindex hstack hdelay hsound huntil hsource hdialect
  simp only at hcounter hpaused hcycles hjournal
  rw [hcounter, hpaused, hcycles, hjournal]

theorem view_tick : ({ m with timers := m.timers.tick } : Machine).view = m.view.tick := by
  by_cases h : 1 < m.timers.untilDecay
  · rw [Timers.tick, if_pos h]
    exact (if_pos h).symm
  · rw [Timers.tick, if_neg h]
    exact (if_neg h).symm

/-- Filling one register. -/
theorem view_set (x : Register) (b : UInt8) :
    ({ m with registers := m.registers.set x b } : Machine).view = m.view.put x b.toNat := by
  ext r : 2
  all_goals try rfl
  by_cases h : r = x
  · subst h
    simp [view, View.put]
  · simp [view, View.put, h, Registers.get_set_other]

/-- Setting the flag. -/
theorem view_setFlag (on : Bool) :
    ({ m with registers := m.registers.setFlag on } : Machine).view =
      m.view.put Register.flag on.toNat := by
  have hbit : (if on then 1 else 0 : UInt8).toNat = on.toNat := by cases on <;> rfl
  rw [← hbit]
  exact view_set m Register.flag (if on then 1 else 0)

/-- Setting the flag and filling one register. -/
theorem view_setFlag_set (x : Register) (b : UInt8) (on : Bool) :
    ({ m with registers := (m.registers.setFlag on).set x b } : Machine).view =
      m.view.putFlagged x b.toNat on := by
  have hset := view_set { m with registers := m.registers.setFlag on } x b
  rw [view_setFlag] at hset
  exact hset

end Machine

end Chip8
