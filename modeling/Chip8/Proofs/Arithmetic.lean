import Chip8.Proofs.Execute

/-!
# Register arithmetic

What the operations on the general registers leave in them, in numbers. The
operands are any two registers: they may be the same one, and either of them
may be the flag register.

- `Registers.Receives`: a register has received a value, and nothing else has
  changed.
- `Registers.ReceivesFlagged`: the same with the flag set before.
- `Registers.receives_sum`, `Registers.receives_difference`, `Registers.receives_half`,
  `Registers.receives_double`: the results of values that were read before, with their flags.
- `Registers.arithmetic_receives`: all operations, on the values before them.

The flag is set before the result is stored. So the result stays where the
target is the flag register, and operands read in between would be wrong where
a source is.
-/

namespace Chip8

namespace Registers

/-- The register `x` has received `value`, and nothing else has changed. -/
structure Receives (rs rs' : Registers) (x : Register) (value : Int) : Prop where
  value : ((rs'.get x).toNat : Int) = value
  others : ∀ r, r ≠ x → rs'.get r = rs.get r
  bytes : ∀ r, (rs'.get r).toNat ≤ 255
  index : rs'.index = rs.index
  counter : rs'.counter = rs.counter

/-- The register `x` has received `value` and the flag register, unless it is `x` itself, tells
whether the condition `flag` holds. Nothing else has changed. -/
structure ReceivesFlagged (rs rs' : Registers) (x : Register) (value : Int) (flag : Prop)
    [Decidable flag] : Prop where
  value : ((rs'.get x).toNat : Int) = value
  flag : x ≠ Register.flag → (rs'.get Register.flag).toNat = if flag then 1 else 0
  others : ∀ r, r ≠ x → r ≠ Register.flag → rs'.get r = rs.get r
  bytes : ∀ r, (rs'.get r).toNat ≤ 255
  index : rs'.index = rs.index
  counter : rs'.counter = rs.counter

variable {rs : Registers} {x : Register} {b : UInt8} {v : Int}

theorem get_le (rs : Registers) (r : Register) : (rs.get r).toNat ≤ 255 :=
  Nat.le_of_lt_succ (rs.get r).toNat_lt

theorem receives_set (hv : (b.toNat : Int) = v) : Receives rs (rs.set x b) x v where
  value := by rw [get_set_self, hv]
  others r hr := get_set_other rs b hr
  bytes := get_le _
  index := rfl
  counter := rfl

theorem receivesFlagged_set {on : Bool} {flag : Prop} [Decidable flag]
    (hv : (b.toNat : Int) = v) (hon : on = true ↔ flag) :
    ReceivesFlagged rs ((rs.setFlag on).set x b) x v flag where
  value := by rw [get_set_self, hv]
  flag hx := by
    rw [get_set_other _ _ hx.symm, setFlag, get_set_self]
    by_cases hflag : flag
    · rw [hon.2 hflag, if_pos hflag]
      rfl
    · rw [Bool.eq_false_iff.2 (mt hon.1 hflag), if_neg hflag]
      rfl
  others r hr hflag := by rw [get_set_other _ _ hr, setFlag, get_set_other _ _ hflag]
  bytes := get_le _
  index := rfl
  counter := rfl

/-! ## Results and flags

The operations store these results for two values that they have read before. -/

theorem receives_sum (p q : UInt8) :
    ReceivesFlagged rs ((rs.setFlag (255 < p.toNat + q.toNat)).set x (p + q)) x
      ((p.toNat + q.toNat : Int) % 256) (255 < (p.toNat + q.toNat : Int)) := by
  refine receivesFlagged_set ?_ ?_
  · rw [UInt8.toNat_add]
    omega
  · rw [decide_eq_true_iff]
    omega

theorem receives_difference (p q : UInt8) :
    ReceivesFlagged rs ((rs.setFlag (q ≤ p)).set x (p - q)) x
      ((p.toNat - q.toNat : Int) % 256) ((q.toNat : Int) ≤ p.toNat) := by
  have hp := p.toNat_lt
  have hq := q.toNat_lt
  refine receivesFlagged_set ?_ ?_
  · rw [Byte.toNat_sub]
    omega
  · rw [decide_eq_true_iff, UInt8.le_iff_toNat_le, Int.ofNat_le]

theorem receives_half (p : UInt8) :
    ReceivesFlagged rs ((rs.setFlag (p &&& 1 = 1)).set x (p >>> 1)) x
      ((p.toNat : Int) / 2) ((p.toNat : Int) % 2 = 1) := by
  refine receivesFlagged_set ?_ ?_
  · rw [Byte.toNat_shiftRight]
    omega
  · rw [decide_eq_true_iff, Byte.lowBit_iff]
    omega

theorem receives_double (p : UInt8) :
    ReceivesFlagged rs ((rs.setFlag (128 ≤ p)).set x (p <<< 1)) x
      (2 * (p.toNat : Int) % 256) (128 ≤ (p.toNat : Int)) := by
  refine receivesFlagged_set ?_ ?_
  · rw [Byte.toNat_shiftLeft]
    omega
  · rw [decide_eq_true_iff, UInt8.le_iff_toNat_le]
    exact Int.ofNat_le.symm

theorem receives_addValue (rs : Registers) (x : Register) (n : Int) :
    Receives rs (rs.addValue x n) x (((rs.get x).toNat + n) % 256) := by
  refine receives_set ?_
  rw [UInt8.toNat_add, Byte.toNat_ofInt]
  omega

/-- **What register arithmetic leaves.** All values on the right are those before the operation,
whichever registers coincide. -/
theorem arithmetic_receives (rs : Registers) (x y : Register) (inPlace : Bool) :
    let a : Int := (rs.get x).toNat
    let b : Int := (rs.get y).toNat
    let s : Int := if inPlace then a else b
    ReceivesFlagged rs (rs.add x y) x ((a + b) % 256) (255 < a + b) ∧
    ReceivesFlagged rs (rs.sub x y) x ((a - b) % 256) (b ≤ a) ∧
    ReceivesFlagged rs (rs.subFrom x y) x ((b - a) % 256) (a ≤ b) ∧
    ReceivesFlagged rs (rs.shiftRight x y inPlace) x (s / 2) (s % 2 = 1) ∧
    ReceivesFlagged rs (rs.shiftLeft x y inPlace) x (2 * s % 256) (128 ≤ s) ∧
    (∀ n : Int, Receives rs (rs.addValue x n) x ((a + n) % 256)) ∧
    Receives rs (rs.copy x y) x b ∧
    Receives rs (rs.or x y) x ((rs.get x).toNat ||| (rs.get y).toNat : Nat) ∧
    Receives rs (rs.and x y) x ((rs.get x).toNat &&& (rs.get y).toNat : Nat) ∧
    Receives rs (rs.xor x y) x ((rs.get x).toNat ^^^ (rs.get y).toNat : Nat) := by
  intro a b s
  refine ⟨receives_sum _ _, receives_difference _ _, receives_difference _ _, ?shiftRight,
    ?shiftLeft, rs.receives_addValue x, receives_set rfl, ?or, ?and, ?xor⟩
  -- the dialect decides which register is shifted
  case shiftRight => cases inPlace <;> exact receives_half _
  case shiftLeft => cases inPlace <;> exact receives_double _
  case or => exact receives_set (congrArg Nat.cast (UInt8.toNat_or _ _))
  case and => exact receives_set (congrArg Nat.cast (UInt8.toNat_and _ _))
  case xor => exact receives_set (congrArg Nat.cast (UInt8.toNat_xor _ _))

/-! The flag register added to itself keeps the sum, and the carry is lost. -/

example :
    let rs := set {} Register.flag 200
    (rs.add Register.flag Register.flag).get Register.flag = 144 := by decide

end Registers

end Chip8
