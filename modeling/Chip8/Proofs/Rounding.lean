import Chip8.Binary64
import Mathlib.Algebra.Order.Ring.Nat
import Mathlib.Tactic.Linarith
import Mathlib.Tactic.Ring

/-!
# Rounding

Which quotients are rounded to numbers of the binary format, and which are too large for it.

- `Binary64.nearestEven_le_iff`: a quotient is rounded to at most `m` iff it lies below the middle
  between `m` and the next number, or on it if `m` is even.
- `Binary64.limit`: from here on quotients are rounded beyond the format.
- `Binary64.exists_ofRatio`: the quotients below it, and no others, have a number.
-/

namespace Chip8

namespace Binary64

variable {n d m j : Nat}

/-- Rounding to the nearest, with a tie to the even number, said of the upper bounds of the result:
the result is at most `m` iff the quotient is below `m` and a half, or there and `m` is even. -/
theorem nearestEven_le_iff (hd : 0 < d) :
    nearestEven n d ≤ m ↔ 2 * n < (2 * m + 1) * d ∨ 2 * n = (2 * m + 1) * d ∧ m % 2 = 0 := by
  obtain ⟨q, r, hr, rfl⟩ : ∃ q r, r < d ∧ n = q * d + r :=
    ⟨n / d, n % d, Nat.mod_lt n hd, (Nat.div_add_mod' n d).symm⟩
  have hquotient : (q * d + r) / d = q := by
    rw [Nat.add_comm, Nat.add_mul_div_right r q hd, Nat.div_eq_of_lt hr, Nat.zero_add]
  have hremainder : (q * d + r) % d = r := by
    rw [Nat.add_comm, Nat.add_mul_mod_self_right, Nat.mod_eq_of_lt hr]
  have hround : nearestEven (q * d + r) d =
      if 2 * r < d then q else if d < 2 * r then q + 1 else q + q % 2 := by
    simp only [nearestEven, hquotient, hremainder]
  rw [hround]
  have hmiddle : ∀ m, (2 * m + 1) * d = 2 * (m * d) + d := fun m => by ring
  -- `m` lies above the quotient, in its unit or below
  rcases Nat.lt_trichotomy q m with hlt | rfl | hgt
  · have hmul : (q + 1) * d ≤ m * d := Nat.mul_le_mul_right d hlt
    rw [Nat.add_mul, Nat.one_mul] at hmul
    rw [hmiddle]
    split_ifs <;> omega
  · rw [hmiddle]
    split_ifs <;> omega
  · have hmul : (m + 1) * d ≤ q * d := Nat.mul_le_mul_right d hgt
    rw [Nat.add_mul, Nat.one_mul] at hmul
    rw [hmiddle]
    split_ifs <;> omega

/-- A quotient is not rounded down past a whole number. -/
theorem le_nearestEven (hd : 0 < d) (h : m * d ≤ n) : m ≤ nearestEven n d := by
  by_contra hless
  obtain ⟨k, rfl⟩ : ∃ k, m = k + 1 := ⟨m - 1, by omega⟩
  have hmiddle : (2 * k + 1) * d + d = 2 * ((k + 1) * d) := by ring
  rcases (nearestEven_le_iff hd).1 (Nat.not_lt.1 hless : nearestEven n d ≤ k) with h | ⟨h, -⟩ <;>
    omega

/-- A quotient is not rounded up past a whole number. -/
theorem nearestEven_le (hd : 0 < d) (h : n ≤ m * d) : nearestEven n d ≤ m := by
  have hmiddle : (2 * m + 1) * d = 2 * (m * d) + d := by ring
  exact (nearestEven_le_iff hd).2 (.inl (by omega))

/-- An even number is only reached from the middle between it and the one before on. -/
theorem nearestEven_lt_iff (hd : 0 < d) (hpos : 0 < m) (heven : m % 2 = 0) :
    nearestEven n d < m ↔ 2 * n + d < 2 * (m * d) := by
  obtain ⟨k, rfl⟩ : ∃ k, m = k + 1 := ⟨m - 1, by omega⟩
  have hmiddle : (2 * k + 1) * d + d = 2 * ((k + 1) * d) := by ring
  rw [Nat.lt_succ_iff, nearestEven_le_iff hd]
  omega

/-! ## Keeping 53 digits -/

/-- `n / d` rounded to 53 binary digits. -/
def rounded (n d : Nat) : Nat :=
  nearestEven n (d * spacing (n / d)) * spacing (n / d)

theorem spacing_pos (u : Nat) : 0 < spacing u := Nat.pow_pos (by decide)

/-- With 53 digits to keep, the spacing is that of the last one. -/
theorem spacing_mul {u : Nat} (h : 52 ≤ u.log2) : 2 ^ 52 * spacing u = 2 ^ u.log2 := by
  show 2 ^ 52 * 2 ^ (u.log2 - 52) = 2 ^ u.log2
  rw [← pow_add, Nat.add_sub_cancel' h]

/-- A quotient of 53 digits or more has all of those that are kept. -/
theorem spacing_mul_le (h : 52 ≤ (n / d).log2) : 2 ^ 52 * (d * spacing (n / d)) ≤ n := by
  have hzero : n / d ≠ 0 := by
    intro hzero
    rw [hzero] at h
    exact absurd h (by decide)
  calc 2 ^ 52 * (d * spacing (n / d)) = 2 ^ 52 * spacing (n / d) * d := by ring
    _ = 2 ^ (n / d).log2 * d := by rw [spacing_mul h]
    _ ≤ n / d * d := Nat.mul_le_mul_right d (Nat.log2_self_le hzero)
    _ ≤ n := Nat.div_mul_le_self n d

/-- A quotient is not rounded down past a power of two. -/
theorem pow_le_rounded (hd : 0 < d) (hj : 52 ≤ j) (h : 2 ^ j * d ≤ n) : 2 ^ j ≤ rounded n d := by
  have hpow : 2 ^ j ≤ n / d := (Nat.le_div_iff_mul_le hd).2 h
  have hzero : n / d ≠ 0 := (Nat.lt_of_lt_of_le (Nat.pow_pos (by decide)) hpow).ne'
  have hlog : j ≤ (n / d).log2 := (Nat.le_log2 hzero).2 hpow
  calc 2 ^ j ≤ 2 ^ (n / d).log2 := Nat.pow_le_pow_right (by decide) hlog
    _ = 2 ^ 52 * spacing (n / d) := (spacing_mul (hj.trans hlog)).symm
    _ ≤ rounded n d := Nat.mul_le_mul_right _ (le_nearestEven
      (Nat.mul_pos hd (spacing_pos _)) (spacing_mul_le (hj.trans hlog)))

/-- A quotient is not rounded up past a power of two. -/
theorem rounded_le_pow (hd : 0 < d) (hj : 0 < j) (h : n < 2 ^ j * d) : rounded n d ≤ 2 ^ j := by
  obtain ⟨q, hq⟩ : ∃ q, n / d = q := ⟨_, rfl⟩
  have hlog : q.log2 < j := by
    have hpow : q < 2 ^ j := hq ▸ (Nat.div_lt_iff_lt_mul hd).2 h
    by_cases hzero : q = 0
    · rw [hzero]
      exact hj
    · exact (Nat.log2_lt hzero).2 hpow
  have hspacing : 2 ^ (j - (q.log2 - 52)) * spacing q = 2 ^ j := by
    show 2 ^ (j - (q.log2 - 52)) * 2 ^ (q.log2 - 52) = 2 ^ j
    rw [← pow_add, Nat.sub_add_cancel (by omega)]
  have hhigh : n ≤ 2 ^ (j - (q.log2 - 52)) * (d * spacing q) :=
    calc n ≤ 2 ^ j * d := h.le
      _ = 2 ^ (j - (q.log2 - 52)) * (d * spacing q) := by rw [← hspacing]; ring
  calc rounded n d = nearestEven n (d * spacing q) * spacing q := by rw [rounded, hq]
    _ ≤ 2 ^ (j - (q.log2 - 52)) * spacing q :=
      Nat.mul_le_mul_right _ (nearestEven_le (Nat.mul_pos hd (spacing_pos q)) hhigh)
    _ = 2 ^ j := hspacing

/-- Between two powers of two, a quotient is rounded to the larger one from the middle between it
and the number before on. -/
theorem rounded_lt_pow_iff (hd : 0 < d) (hj : 52 ≤ j) (hlow : 2 ^ j * d ≤ n)
    (hhigh : n < 2 ^ (j + 1) * d) :
    rounded n d < 2 ^ (j + 1) ↔ 2 * n + d * 2 ^ (j - 52) < 2 * (2 ^ (j + 1) * d) := by
  obtain ⟨q, hq⟩ : ∃ q, n / d = q := ⟨_, rfl⟩
  have hlowq : 2 ^ j ≤ q := hq ▸ (Nat.le_div_iff_mul_le hd).2 hlow
  have hhighq : q < 2 ^ (j + 1) := hq ▸ (Nat.div_lt_iff_lt_mul hd).2 hhigh
  have hzero : q ≠ 0 := (Nat.lt_of_lt_of_le (Nat.pow_pos (by decide)) hlowq).ne'
  have hlog : q.log2 = j := (Nat.log2_eq_iff hzero).2 ⟨hlowq, hhighq⟩
  have hspacing : spacing q = 2 ^ (j - 52) := by
    rw [← hlog]
    rfl
  have hpow : 2 ^ (j + 1) = 2 ^ 53 * spacing q := by
    rw [hspacing, ← pow_add]
    congr 1
    omega
  rw [rounded, hq, hpow, Nat.mul_lt_mul_right (spacing_pos q),
    nearestEven_lt_iff (Nat.mul_pos hd (spacing_pos q)) (by decide) (by decide), ← hspacing]
  ring_nf

/-- The middle between the largest number of 53 digits below `2 ^ (p + 54)` and that power. -/
def lastMiddle (p : Nat) : Nat := Nat.pow 2 (p + 54) - Nat.pow 2 p

theorem lt_lastMiddle_mul (hd : 0 < d) (p : Nat) :
    n < lastMiddle p * d ↔ n + 2 ^ p * d < 2 ^ (p + 54) * d := by
  have hless : 2 ^ p * d < 2 ^ (p + 54) * d :=
    Nat.mul_lt_mul_of_pos_right (Nat.pow_lt_pow_right (by decide) (by omega)) hd
  have hmul : lastMiddle p * d = 2 ^ (p + 54) * d - 2 ^ p * d := Nat.sub_mul _ _ _
  omega

/-- A quotient is rounded below a power of two iff it lies below the middle before that power. Here
it is counted in units of which `2 ^ a` make one. -/
theorem rounded_lt_iff (hd : 0 < d) (a p : Nat) :
    rounded (n * Nat.pow 2 a) d < Nat.pow 2 (p + 54 + a) ↔ n < lastMiddle p * d := by
  show rounded (n * 2 ^ a) d < 2 ^ (p + 54 + a) ↔ _
  rw [lt_lastMiddle_mul hd]
  have hunit : 0 < 2 ^ a := Nat.pow_pos (by decide)
  have hhalf : 2 ^ (p + 54) * d = 2 * (2 ^ (p + 53) * d) := by ring
  have hlow : 2 ^ p * d < 2 ^ (p + 53) * d :=
    Nat.mul_lt_mul_of_pos_right (Nat.pow_lt_pow_right (by decide) (by omega)) hd
  have hscale : ∀ j, 2 ^ (j + a) * d = 2 ^ j * d * 2 ^ a := fun j => by ring
  rcases Nat.lt_or_ge n (2 ^ (p + 53) * d) with hsmall | hbig
  · -- up to the last power of two nothing is lost
    have hless : rounded (n * 2 ^ a) d < 2 ^ (p + 54 + a) := by
      refine Nat.lt_of_le_of_lt (rounded_le_pow (j := p + 53 + a) hd (by omega) ?_)
        (Nat.pow_lt_pow_right (by decide) (by omega))
      rw [hscale]
      exact Nat.mul_lt_mul_of_pos_right hsmall hunit
    exact ⟨fun _ => by omega, fun _ => hless⟩
  rcases Nat.lt_or_ge n (2 ^ (p + 54) * d) with hinside | hbeyond
  · have hshift : p + 53 + a - 52 = p + 1 + a := by omega
    have hnext : p + 54 + a = p + 53 + a + 1 := by omega
    rw [hnext, rounded_lt_pow_iff hd (by omega), hshift]
    · -- both sides count in halves of the unit
      have hleft : 2 * (n * 2 ^ a) + d * 2 ^ (p + 1 + a) = (n + 2 ^ p * d) * (2 * 2 ^ a) := by ring
      have hright : 2 * (2 ^ (p + 53 + a + 1) * d) = 2 ^ (p + 54) * d * (2 * 2 ^ a) := by ring
      rw [hleft, hright, Nat.mul_lt_mul_right (by omega)]
    · rw [hscale]
      exact Nat.mul_le_mul_right _ hbig
    · rw [← hnext, hscale]
      exact Nat.mul_lt_mul_of_pos_right hinside hunit
  · have hmost : 2 ^ (p + 54 + a) ≤ rounded (n * 2 ^ a) d := by
      refine pow_le_rounded hd (by omega) ?_
      rw [hscale]
      exact Nat.mul_le_mul_right _ hbeyond
    exact ⟨fun h => absurd h (Nat.not_lt.2 hmost), fun h => by omega⟩

/-! ## The end of the format -/

/-- The middle between the largest number of the format, which is `2 ^ 1024 - 2 ^ 971`, and the one
that would come next: `2 ^ 1024 - 2 ^ 970`. -/
def limit : Nat := lastMiddle 970

/-- **The quotients with a number of the format** are those below the limit. -/
theorem exists_ofRatio (hd : 0 < d) : (∃ u, ofRatio n d = some u) ↔ n < limit * d := by
  have hsome : (∃ u, ofRatio n d = some u) ↔ rounded (n * one) d < beyond := by
    show (∃ u, (if rounded (n * one) d < beyond then some (rounded (n * one) d) else none) =
      some u) ↔ _
    split_ifs with hless
    · exact ⟨fun _ => hless, fun _ => ⟨_, rfl⟩⟩
    · exact ⟨fun ⟨_, h⟩ => (nomatch h), fun h => absurd h hless⟩
  -- the exponents are kept from being evaluated
  have hend : ∀ a e, one = Nat.pow 2 a → beyond = Nat.pow 2 e → e = 970 + 54 + a →
      (rounded (n * one) d < beyond ↔ n < limit * d) := by
    rintro a _ hone hbeyond rfl
    rw [hone, hbeyond]
    exact rounded_lt_iff hd a 970
  rw [hsome]
  exact hend 1074 2098 (by unfold one; rfl) (by unfold beyond; rfl) rfl

end Binary64

end Chip8
