import Chip8.Proofs.Building
import Mathlib.Algebra.Order.Ring.Abs
import Mathlib.Data.Rat.Cast.Order
import Mathlib.Tactic.FieldSimp

/-!
# How many steps a frame takes

The quotient of two rates is rounded to the binary format and the result to a whole number. Both
roundings go to the nearest number there is, which is said here without their algorithms.

- `Nearest`: the nearest of some numbers, with a tie to an even one.
- `Binary64.nearestEven_nearest`, `Binary64.rounded_nearest`: that is what both roundings compute.
- `Binary64.nearestEven_mono`, `Binary64.rounded_mono`: neither changes the order of two quotients.
- `Config.stepsPerFrame_mono`: with more steps in a second and fewer frames, a frame has no fewer
  steps.
- `Config.stepsPerFrame_paced`: the pace as a whole, exact where it is a whole number.
-/

namespace Chip8

/-- `u` is the nearest to `x` of the numbers that are allowed. If another one is as near, `u` is
one of the even ones. -/
structure Nearest (allowed even : Nat → Prop) (x : ℚ) (u : Nat) : Prop where
  mem : allowed u
  le : ∀ v, allowed v → |x - u| ≤ |x - v|
  tie : ∀ v, allowed v → v ≠ u → |x - v| = |x - u| → even u

/-- What is allowed itself is its own nearest number. -/
theorem Nearest.eq_self {allowed even : Nat → Prop} {u v : Nat} (h : Nearest allowed even v u)
    (hv : allowed v) : u = v := by
  have hle : |(v : ℚ) - u| ≤ 0 := by
    have h := h.le v hv
    rwa [sub_self, abs_zero] at h
  have hzero : (v : ℚ) - u = 0 := abs_nonpos_iff.1 hle
  exact (Nat.cast_injective (sub_eq_zero.1 hzero)).symm

namespace Binary64

variable {n d n' d' m e : Nat}

/-! ## Whole numbers -/

/-- The result is half a unit away at most, and it is even if it is as far as that. -/
theorem nearestEven_bounds (hd : 0 < d) :
    2 * (nearestEven n d * d) ≤ 2 * n + d ∧ 2 * n ≤ 2 * (nearestEven n d * d) + d ∧
      (2 * (nearestEven n d * d) = 2 * n + d ∨ 2 * n = 2 * (nearestEven n d * d) + d →
        Even (nearestEven n d)) := by
  obtain ⟨k, hk⟩ : ∃ k, nearestEven n d = k := ⟨_, rfl⟩
  have hmiddle : ∀ m, (2 * m + 1) * d = 2 * (m * d) + d := fun m => by ring
  have hhigh := (nearestEven_le_iff hd).1 hk.le
  rw [hmiddle] at hhigh
  rw [hk, Nat.even_iff]
  cases k with
  | zero => omega
  | succ j =>
    have hlow : ¬nearestEven n d ≤ j := by omega
    have hstep : (j + 1) * d = j * d + d := Nat.succ_mul j d
    rw [nearestEven_le_iff hd, hmiddle] at hlow
    omega

theorem nearestEven_abs (hd : 0 < d) :
    |(n / d : ℚ) - nearestEven n d| ≤ 1 / 2 ∧
      (|(n / d : ℚ) - nearestEven n d| = 1 / 2 → Even (nearestEven n d)) := by
  obtain ⟨hlow, hhigh, heven⟩ := nearestEven_bounds (n := n) hd
  generalize nearestEven n d = k at *
  have hpos : (0 : ℚ) < d := Nat.cast_pos.2 hd
  have hscale : (n / d : ℚ) * d = n := div_mul_cancel₀ _ hpos.ne'
  have hlow' : (2 * (k * d) : ℚ) ≤ 2 * n + d := by exact_mod_cast hlow
  have hhigh' : (2 * n : ℚ) ≤ 2 * (k * d) + d := by exact_mod_cast hhigh
  refine ⟨abs_le.2 ⟨?_, ?_⟩, fun h => heven ?_⟩
  · refine le_of_mul_le_mul_right ?_ hpos
    linarith
  · refine le_of_mul_le_mul_right ?_ hpos
    linarith
  · rcases (abs_eq (by norm_num)).1 h with h | h
    · right
      have hfar : (2 * n : ℚ) = 2 * (k * d) + d := by
        rw [← hscale, sub_eq_iff_eq_add.1 h]
        ring
      exact_mod_cast hfar
    · left
      have hfar : (2 * (k * d) : ℚ) = 2 * n + d := by
        rw [← hscale, sub_eq_iff_eq_add.1 h]
        ring
      exact_mod_cast hfar

/-- **Rounding to whole numbers** gives the nearest one, with a tie to the even one. -/
theorem nearestEven_nearest (hd : 0 < d) :
    Nearest (fun _ => True) Even (n / d) (nearestEven n d) := by
  obtain ⟨hhalf, heven⟩ := nearestEven_abs (n := n) hd
  generalize nearestEven n d = k at *
  -- any other whole number is one unit away from this one
  have hother : ∀ m : Nat, m ≠ k → 1 - |(n / d : ℚ) - k| ≤ |(n / d : ℚ) - m| := by
    intro m hm
    have hint : (1 : ℤ) ≤ |(m : ℤ) - k| := Int.one_le_abs (by omega)
    have hunit : (1 : ℚ) ≤ |(m : ℚ) - k| := by exact_mod_cast hint
    have htriangle := abs_sub_le (m : ℚ) (n / d) k
    rw [abs_sub_comm (m : ℚ) (n / d)] at htriangle
    linarith
  refine ⟨trivial, fun m _ => ?_, fun m _ hm htie => heven ?_⟩
  · by_cases hm : m = k
    · rw [hm]
    · linarith [hother m hm]
  · linarith [hother m hm]

theorem nearestEven_mono (hd : 0 < d) (hd' : 0 < d') (h : n * d' ≤ n' * d) :
    nearestEven n d ≤ nearestEven n' d' := by
  obtain ⟨m, hm⟩ : ∃ m, nearestEven n' d' = m := ⟨_, rfl⟩
  have hbelow := (nearestEven_le_iff hd').1 hm.le
  rw [hm, nearestEven_le_iff hd]
  -- both are compared with the middle above `m` by the product of their denominators
  have hcross : 2 * n * d' ≤ 2 * n' * d := by
    rw [Nat.mul_assoc, Nat.mul_assoc]
    exact Nat.mul_le_mul_left 2 h
  have hcomm : (2 * m + 1) * d * d' = (2 * m + 1) * d' * d := Nat.mul_right_comm _ _ _
  rcases hbelow with hless | ⟨heq, heven⟩
  · left
    refine Nat.lt_of_mul_lt_mul_right (a := d') ?_
    rw [hcomm]
    exact Nat.lt_of_le_of_lt hcross (Nat.mul_lt_mul_of_pos_right hless hd)
  · have hle : 2 * n ≤ (2 * m + 1) * d := by
      refine Nat.le_of_mul_le_mul_right (c := d') ?_ hd'
      rw [hcomm, ← heq]
      exact hcross
    rcases Nat.lt_or_eq_of_le hle with hless | heq'
    · exact .inl hless
    · exact .inr ⟨heq', heven⟩

/-! ## Numbers of the format -/

/-- So many units are a number of the format, if there is no largest one: 53 binary digits, with
zeros after them. -/
def Representable (u : Nat) : Prop := ∃ k e, k < 2 ^ 53 ∧ u = k * 2 ^ e

/-- The last of the 53 digits is a zero. The first one is not, unless there are no zeros after
them. -/
def EvenRepresentable (u : Nat) : Prop :=
  ∃ k e, k < 2 ^ 53 ∧ u = k * 2 ^ e ∧ (e = 0 ∨ 2 ^ 52 ≤ k) ∧ Even k

theorem representable_of_le (h : m ≤ 2 ^ 53) : Representable (m * 2 ^ e) := by
  rcases Nat.lt_or_eq_of_le h with h | rfl
  · exact ⟨m, e, h, rfl⟩
  · exact ⟨2 ^ 52, e + 1, by decide, by ring⟩

theorem evenRepresentable_of_le (h : m ≤ 2 ^ 53) (hfirst : e = 0 ∨ 2 ^ 52 ≤ m) (heven : Even m) :
    EvenRepresentable (m * 2 ^ e) := by
  rcases Nat.lt_or_eq_of_le h with h | rfl
  · exact ⟨m, e, h, rfl, hfirst, heven⟩
  · exact ⟨2 ^ 52, e + 1, by decide, by ring, .inr le_rfl, by decide⟩

/-- A number with fewer zeros after its digits is smaller. -/
theorem Representable.dvd_or_lt {v : Nat} (h : Representable v) (e : Nat) :
    2 ^ e ∣ v ∨ e ≠ 0 ∧ v < 2 ^ 52 * 2 ^ e := by
  obtain ⟨k, j, hk, rfl⟩ := h
  rcases Nat.lt_or_ge j e with hj | hj
  · right
    refine ⟨by omega, ?_⟩
    calc k * 2 ^ j < 2 ^ 53 * 2 ^ j := Nat.mul_lt_mul_of_pos_right hk (Nat.pow_pos (by decide))
      _ = 2 ^ 52 * 2 ^ (j + 1) := by ring
      _ ≤ 2 ^ 52 * 2 ^ e := Nat.mul_le_mul_left _ (Nat.pow_le_pow_right (by decide) hj)
  · left
    exact Nat.dvd_mul_left_of_dvd (Nat.pow_dvd_pow 2 hj) k

/-- How a quotient is rounded to the format: to a multiple of a power of two, so that 53 digits are
left, or fewer if that power is one. -/
theorem exists_rounded (hd : 0 < d) :
    ∃ e, rounded n d = nearestEven n (d * 2 ^ e) * 2 ^ e ∧ nearestEven n (d * 2 ^ e) ≤ 2 ^ 53 ∧
      (e = 0 ∨ 2 ^ 52 * (d * 2 ^ e) ≤ n) := by
  obtain ⟨q, hq⟩ : ∃ q, n / d = q := ⟨_, rfl⟩
  have hpos : 0 < d * 2 ^ (q.log2 - 52) := Nat.mul_pos hd (Nat.pow_pos (by decide))
  refine ⟨q.log2 - 52, by rw [rounded, hq]; rfl, nearestEven_le hpos ?_, ?_⟩
  · have hless : n < d * (q + 1) := hq ▸ Nat.lt_mul_div_succ n hd
    have hpow : q + 1 ≤ 2 ^ (q.log2 + 1) := Nat.lt_log2_self
    calc n ≤ d * (q + 1) := hless.le
      _ ≤ d * 2 ^ (53 + (q.log2 - 52)) :=
        Nat.mul_le_mul_left d (hpow.trans (Nat.pow_le_pow_right (by decide) (by omega)))
      _ = 2 ^ 53 * (d * 2 ^ (q.log2 - 52)) := by ring
  · rcases Nat.lt_or_ge q.log2 52 with hsmall | hbig
    · exact .inl (by omega)
    · exact .inr (hq ▸ spacing_mul_le (hq.symm ▸ hbig))

/-- A number of the format that is no multiple of what is kept is passed by one that is. -/
theorem exists_nearer {v : Nat} (hd : 0 < d) (hlarge : e = 0 ∨ 2 ^ 52 * (d * 2 ^ e) ≤ n)
    (hv : Representable v) :
    ∃ m, |(n / d : ℚ) - (m * 2 ^ e : Nat)| ≤ |(n / d : ℚ) - v| ∧
      (|(n / d : ℚ) - (m * 2 ^ e : Nat)| = |(n / d : ℚ) - v| → v = m * 2 ^ e) := by
  rcases hv.dvd_or_lt e with ⟨m, rfl⟩ | ⟨he, hless⟩
  · rw [Nat.mul_comm (2 ^ e) m]
    exact ⟨m, le_rfl, fun _ => rfl⟩
  · -- the first number with as many zeros lies between the two
    have hpos : (0 : ℚ) < d := Nat.cast_pos.2 hd
    have hbetween : ((2 ^ 52 * 2 ^ e : Nat) : ℚ) ≤ n / d := by
      rw [le_div_iff₀ hpos]
      have hle : 2 ^ 52 * 2 ^ e * d ≤ n := by
        rw [Nat.mul_assoc, Nat.mul_comm (2 ^ e) d]
        exact hlarge.resolve_left he
      exact_mod_cast hle
    have hless' : (v : ℚ) < (2 ^ 52 * 2 ^ e : Nat) := Nat.cast_lt.2 hless
    have hnearer : |(n / d : ℚ) - (2 ^ 52 * 2 ^ e : Nat)| < |(n / d : ℚ) - v| := by
      rw [abs_of_nonneg (sub_nonneg.2 hbetween),
        abs_of_nonneg (sub_nonneg.2 (hless'.le.trans hbetween))]
      exact sub_lt_sub_left hless' _
    exact ⟨2 ^ 52, hnearer.le, fun h => absurd h hnearer.ne⟩

/-- **Rounding to the format** gives the nearest of its numbers, with a tie to the even one. -/
theorem rounded_nearest (hd : 0 < d) :
    Nearest Representable EvenRepresentable (n / d) (rounded n d) := by
  obtain ⟨e, hround, hdigits, hlarge⟩ := exists_rounded (n := n) hd
  have hpos : 0 < d * 2 ^ e := Nat.mul_pos hd (Nat.pow_pos (by decide))
  have hwhole := nearestEven_nearest (n := n) hpos
  have hfirst : e = 0 ∨ 2 ^ 52 ≤ nearestEven n (d * 2 ^ e) := hlarge.imp_right (le_nearestEven hpos)
  rw [hround]
  generalize nearestEven n (d * 2 ^ e) = k at *
  -- distances are counted in multiples of the power of two
  have hunit : (0 : ℚ) < 2 ^ e := by positivity
  have hscale : ∀ m : Nat, |(n / d : ℚ) - (m * 2 ^ e : Nat)| =
      |(n / (d * 2 ^ e : Nat) : ℚ) - m| * 2 ^ e := by
    intro m
    have hd' : (d : ℚ) ≠ 0 := Nat.cast_ne_zero.2 hd.ne'
    have hparts : (n / d : ℚ) - (m * 2 ^ e : Nat) = (n / (d * 2 ^ e : Nat) - m) * 2 ^ e := by
      push_cast
      field_simp
    rw [hparts, abs_mul, abs_of_pos hunit]
  have hle : ∀ m : Nat, |(n / d : ℚ) - (k * 2 ^ e : Nat)| ≤ |(n / d : ℚ) - (m * 2 ^ e : Nat)| := by
    intro m
    rw [hscale, hscale]
    exact mul_le_mul_of_nonneg_right (hwhole.le m trivial) hunit.le
  refine ⟨representable_of_le hdigits, fun v hv => ?_, fun v hv hne htie => ?_⟩
  · obtain ⟨m, hnearer, -⟩ := exists_nearer hd hlarge hv
    exact (hle m).trans hnearer
  · obtain ⟨m, hnearer, hmultiple⟩ := exists_nearer hd hlarge hv
    obtain rfl := hmultiple (le_antisymm hnearer (htie ▸ hle m))
    refine evenRepresentable_of_le hdigits hfirst (hwhole.tie m trivial ?_ ?_)
    · rintro rfl
      exact hne rfl
    · rw [hscale, hscale] at htie
      exact mul_right_cancel₀ hunit.ne' htie

theorem rounded_mono (hd : 0 < d) (hd' : 0 < d') (h : n * d' ≤ n' * d) :
    rounded n d ≤ rounded n' d' := by
  obtain ⟨q, hq⟩ : ∃ q, n / d = q := ⟨_, rfl⟩
  obtain ⟨q', hq'⟩ : ∃ q', n' / d' = q' := ⟨_, rfl⟩
  have hle : q ≤ q' := by
    rw [← hq', Nat.le_div_iff_mul_le hd']
    refine Nat.le_of_mul_le_mul_right (c := d) ?_ hd
    calc q * d' * d = q * d * d' := Nat.mul_right_comm _ _ _
      _ ≤ n * d' := Nat.mul_le_mul_right d' (hq ▸ Nat.div_mul_le_self n d)
      _ ≤ n' * d := h
  rcases Nat.lt_or_ge (q.log2 - 52) (q'.log2 - 52) with hless | hge
  · -- a power of two lies between the quotients
    have hzero' : q' ≠ 0 := by
      rintro rfl
      exact absurd hless (by simp)
    have hpow' : 2 ^ q'.log2 * d' ≤ n' :=
      (Nat.le_div_iff_mul_le hd').1 (hq'.symm ▸ Nat.log2_self_le hzero')
    have hpow : n < 2 ^ q'.log2 * d := by
      rw [← Nat.div_lt_iff_lt_mul hd, hq]
      calc q < 2 ^ (q.log2 + 1) := Nat.lt_log2_self
        _ ≤ 2 ^ q'.log2 := Nat.pow_le_pow_right (by decide) (by omega)
    exact (rounded_le_pow hd (by omega) hpow).trans (pow_le_rounded hd' (by omega) hpow')
  · have hlog : q.log2 ≤ q'.log2 := by
      rcases Nat.eq_zero_or_pos q with rfl | hpos
      · simp
      · exact (Nat.le_log2 (by omega)).2 ((Nat.log2_self_le hpos.ne').trans hle)
    have hspacing : spacing q = spacing q' := by
      unfold spacing
      congr 1
      omega
    rw [rounded, rounded, hq, hq', hspacing]
    have hpos : 0 < spacing q' := spacing_pos q'
    refine Nat.mul_le_mul_right _ (nearestEven_mono (Nat.mul_pos hd hpos) (Nat.mul_pos hd' hpos) ?_)
    rw [← Nat.mul_assoc, ← Nat.mul_assoc]
    exact Nat.mul_le_mul_right _ h

/-! ## Both in turn -/

theorem one_pos : 0 < one := by
  decide +kernel

theorem ofRatio_eq :
    ofRatio n d = if rounded (n * one) d < beyond then some (rounded (n * one) d) else none := by
  unfold ofRatio rounded
  rfl

/-- A quotient has a number if a larger one has, and that number is not larger. -/
theorem ofRatio_mono {u' : Nat} (hd : 0 < d) (hd' : 0 < d') (h : n * d' ≤ n' * d)
    (hu' : ofRatio n' d' = some u') : ∃ u, ofRatio n d = some u ∧ u ≤ u' := by
  have hround : rounded (n * one) d ≤ rounded (n' * one) d' := by
    refine rounded_mono hd hd' ?_
    rw [Nat.mul_right_comm, Nat.mul_right_comm n']
    exact Nat.mul_le_mul_right one h
  rw [ofRatio_eq] at hu'
  split_ifs at hu' with hless
  obtain rfl := Option.some.inj hu'
  refine ⟨rounded (n * one) d, ?_, hround⟩
  rw [ofRatio_eq, if_pos (hround.trans_lt hless)]

theorem roundUnits_mono {u u' : Nat} (h : u ≤ u') : roundUnits u ≤ roundUnits u' :=
  nearestEven_mono one_pos one_pos (Nat.mul_le_mul_right one h)

/-- A whole number of at most 53 digits, in units, is a number of the format. -/
theorem representable_mul_one (h : m ≤ 2 ^ 53) : Representable (m * one) := by
  -- the exponent is kept from being evaluated
  have hunits : ∀ a, one = Nat.pow 2 a → Representable (m * one) := by
    intro a hone
    rw [hone]
    exact representable_of_le h
  exact hunits 1074 (by unfold one; rfl)

/-- Such a whole number is not changed by either rounding. -/
theorem ofRatio_mul (hd : 0 < d) (h : m ≤ 2 ^ 53) : ofRatio (m * d) d = some (m * one) := by
  have hround : rounded (m * d * one) d = m * one := by
    have hnearest := rounded_nearest (n := m * d * one) hd
    have hquotient : ((m * d * one : Nat) / d : ℚ) = (m * one : Nat) := by
      have hd' : (d : ℚ) ≠ 0 := Nat.cast_ne_zero.2 hd.ne'
      rw [Nat.mul_right_comm, Nat.cast_mul (m * one) d, mul_div_cancel_right₀ _ hd']
    rw [hquotient] at hnearest
    exact hnearest.eq_self (representable_mul_one h)
  have hless : m * one < beyond :=
    calc m * one ≤ 2 ^ 53 * one := Nat.mul_le_mul_right one h
      _ < beyond := by decide +kernel
  rw [ofRatio_eq, hround, if_pos hless]

theorem roundUnits_mul (m : Nat) : roundUnits (m * one) = m := by
  have hnearest := nearestEven_nearest (n := m * one) one_pos
  have hone : (one : ℚ) ≠ 0 := Nat.cast_ne_zero.2 one_pos.ne'
  rw [Nat.cast_mul, mul_div_cancel_right₀ _ hone] at hnearest
  exact hnearest.eq_self trivial

end Binary64

/-! ## The pace -/

namespace Pacing

variable {a b a' b' : Int}

/-- A quotient of rates is correctly rounded, twice, if the first result is not too large. -/
theorem quotient_nearest (ha : 0 ≤ a) (hb : 0 < b) :
    ∃ u, Nearest Binary64.Representable Binary64.EvenRepresentable (a / b * Binary64.one) u ∧
      (u < Binary64.beyond →
        ∃ k, Nearest (fun _ => True) Even (u / Binary64.one) k ∧ quotient a b = .ok k) ∧
      (Binary64.beyond ≤ u → quotient a b = .error .tooLarge) := by
  rw [quotient_eq ha hb, Binary64.ofRatio_eq]
  obtain ⟨n, rfl⟩ := Int.eq_ofNat_of_zero_le ha
  obtain ⟨d, rfl⟩ := Int.eq_ofNat_of_zero_le hb.le
  have hd : 0 < d := Int.ofNat_lt.1 hb
  have hnearest := Binary64.rounded_nearest (n := n * Binary64.one) hd
  rw [Nat.cast_mul, mul_div_right_comm] at hnearest
  rw [Int.natAbs_natCast, Int.natAbs_natCast]
  refine ⟨_, hnearest, fun hless => ?_, fun hbeyond => ?_⟩
  · rw [if_pos hless]
    exact ⟨_, Binary64.nearestEven_nearest Binary64.one_pos, rfl⟩
  · rw [if_neg (Nat.not_lt.2 hbeyond)]

/-- More above or less below does not make a quotient smaller, and no smaller one is too large. -/
theorem quotient_mono {k' : Nat} (ha : 0 ≤ a) (hmore : a ≤ a') (hb' : 0 < b') (hless : b' ≤ b)
    (h : quotient a' b' = .ok k') : ∃ k, quotient a b = .ok k ∧ k ≤ k' := by
  have hb : 0 < b := Int.lt_of_lt_of_le hb' hless
  have hcross : a.natAbs * b'.natAbs ≤ a'.natAbs * b.natAbs :=
    Nat.mul_le_mul (by omega) (by omega)
  rw [quotient_eq (ha.trans hmore) hb'] at h
  cases hratio : Binary64.ofRatio a'.natAbs b'.natAbs with
  | none =>
    rw [hratio] at h
    cases h
  | some u' =>
    rw [hratio] at h
    obtain rfl := Except.ok.inj h
    obtain ⟨u, hu, hle⟩ := Binary64.ofRatio_mono (Int.natAbs_pos.2 hb.ne')
      (Int.natAbs_pos.2 hb'.ne') hcross hratio
    refine ⟨Binary64.roundUnits u, ?_, Binary64.roundUnits_mono hle⟩
    rw [quotient_eq ha hb, hu]

/-- A whole number of at most 53 digits is met exactly. -/
theorem quotient_mul {q : Nat} (hb : 0 < b) (hq : q ≤ 2 ^ 53) : quotient (q * b) b = .ok q := by
  rw [quotient_eq (Int.mul_nonneg (Int.natCast_nonneg q) hb.le) hb, Int.natAbs_mul,
    Int.natAbs_natCast, Binary64.ofRatio_mul (Int.natAbs_pos.2 hb.ne') hq]
  exact congrArg Except.ok (Binary64.roundUnits_mul q)

end Pacing

namespace Config

open Binary64

variable {c c' : Config} {k : Nat}

theorem stepsPerFrame_ok (h : Pacing.quotient c.stepRate c.frameRate = .ok k) :
    c.stepsPerFrame = .ok (max 1 k) := by
  rw [stepsPerFrame, h]
  rfl

theorem stepsPerFrame_error {cause : PacingError}
    (h : Pacing.quotient c.stepRate c.frameRate = .error cause) :
    c.stepsPerFrame = .error cause := by
  rw [stepsPerFrame, h]
  rfl

/-- With more steps in a second and fewer frames, a frame has no fewer steps. -/
theorem stepsPerFrame_mono {k' : Nat} (hsteps : 0 < c.stepRate)
    (hmore : c.stepRate ≤ c'.stepRate) (hframes : 0 < c'.frameRate)
    (hfewer : c'.frameRate ≤ c.frameRate) (h : c'.stepsPerFrame = .ok k') :
    ∃ k, c.stepsPerFrame = .ok k ∧ k ≤ k' := by
  obtain ⟨b, hb⟩ := (exists_map_ok (max 1)).1 ⟨k', h⟩
  obtain ⟨a, ha, hle⟩ := Pacing.quotient_mono hsteps.le hmore hframes hfewer hb
  rw [stepsPerFrame_ok hb] at h
  obtain rfl := Except.ok.inj h
  exact ⟨max 1 a, stepsPerFrame_ok ha, max_le_max_left 1 hle⟩

/-- **The pace.** Let two pairs of positive rates be given, the second with as many steps in a
second or more and as many frames or fewer.

- The quotient of the first pair is correctly rounded to a number of the format, in units, which is
  correctly rounded to a whole number; at least one step is made. Beyond the format it is an error.
- If there is a pace for the second pair there is one for the first, and it is not faster.
- At least one step is made.
- A whole number of steps up to `2 ^ 53` is met exactly. -/
theorem stepsPerFrame_paced (hsteps : 0 < c.stepRate) (hmore : c.stepRate ≤ c'.stepRate)
    (hframes : 0 < c'.frameRate) (hfewer : c'.frameRate ≤ c.frameRate) :
    (∃ u, Nearest Representable EvenRepresentable (c.stepRate / c.frameRate * one) u ∧
      (u < beyond →
        ∃ k, Nearest (fun _ => True) Even (u / one) k ∧ c.stepsPerFrame = .ok (max 1 k)) ∧
      (beyond ≤ u → c.stepsPerFrame = .error .tooLarge)) ∧
    (∀ k', c'.stepsPerFrame = .ok k' → ∃ k, c.stepsPerFrame = .ok k ∧ k ≤ k') ∧
    (∀ k, c.stepsPerFrame = .ok k → 1 ≤ k) ∧
    ∀ q : Nat, 1 ≤ q → q ≤ 2 ^ 53 → c.stepRate = q * c.frameRate → c.stepsPerFrame = .ok q := by
  have hpos : 0 < c.frameRate := Int.lt_of_lt_of_le hframes hfewer
  refine ⟨?_, fun k' hk' => stepsPerFrame_mono hsteps hmore hframes hfewer hk',
    fun k hk => Window.stepsPerFrame_pos hk, ?_⟩
  · obtain ⟨u, hu, hwithin, hbeyond⟩ := Pacing.quotient_nearest hsteps.le hpos
    refine ⟨u, hu, ?_, fun hge => stepsPerFrame_error (hbeyond hge)⟩
    intro hless
    obtain ⟨k, hk, hquotient⟩ := hwithin hless
    exact ⟨k, hk, stepsPerFrame_ok hquotient⟩
  · intro q hone hq hrates
    have hquotient : Pacing.quotient c.stepRate c.frameRate = .ok q := by
      rw [hrates]
      exact Pacing.quotient_mul hpos hq
    rw [stepsPerFrame_ok hquotient, max_eq_right hone]

/-- The default rates beside more steps in a second and fewer frames. -/
theorem stepsPerFrame_paced_default :
    (∃ k, stepsPerFrame {} = .ok k ∧ k ≤ 10) ∧ stepsPerFrame {} = .ok 8 := by
  have hpaced := @stepsPerFrame_paced {} { stepRate := 500, frameRate := 50 }
    (by decide) (by decide) (by decide) (by decide)
  exact ⟨hpaced.2.1 10 (by decide +kernel),
    hpaced.2.2.2 8 (by decide) (by decide) (by decide)⟩

/-- The bound on whole numbers is sharp: the next one has a digit too many. -/
example : stepsPerFrame { stepRate := 2 ^ 53 + 1, frameRate := 1 } = .ok (2 ^ 53) := by
  decide +kernel

end Config

end Chip8
