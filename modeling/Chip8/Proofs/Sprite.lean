import Chip8.Screen
import Mathlib.Tactic.IntervalCases

/-!
# Sprites, pixel by pixel

What drawing a sprite does to each pixel of the grid, for a sprite at any place
and with any rows.

- `Screen.lit`: the state of a pixel of the grid.
- `Screen.Covers`: a set bit of the sprite lies over a pixel of the grid.
- `Screen.lit_draw`: drawing flips the covered pixels and no others.
- `Screen.draw_hit`: a draw tells of a hit iff a covered pixel was lit before.
- `Screen.bitOver`, `Screen.draw_clipped`: the same, said of the bits of the rows.

Every row flips a pixel at most once and no two rows touch the same pixel, so
each pixel is compared with its state before the whole draw.
-/

namespace Chip8

namespace Screen

/-- Whether the pixel in column `c` and row `r` is lit. -/
def lit (s : Screen) (c : Fin 64) (r : Fin 32) : Bool :=
  s.pixels[r.val * 64 + c.val]

/-- Two screens whose pixels agree are the same. -/
theorem ext_lit {s t : Screen} (h : ∀ c r, s.lit c r = t.lit c r) : s = t := by
  obtain ⟨p⟩ := s
  obtain ⟨q⟩ := t
  have hpq : p = q := by
    apply Vector.ext
    intro i hi
    have hc := h ⟨i % 64, by omega⟩ ⟨i / 64, by omega⟩
    have hplace : i / 64 * 64 + i % 64 = i := by omega
    simpa only [lit, hplace] using hc
  rw [hpq]

@[simp] theorem lit_dark (c : Fin 64) (r : Fin 32) : dark.lit c r = false := by
  simp [lit, dark]

/-! ## One pixel -/

/-- A flip changes the pixel that it names, if there is one. -/
theorem lit_flip (s : Screen) (x y : Int) (c : Fin 64) (r : Fin 32) :
    (s.flip x y).1.lit c r = (s.lit c r ^^ decide (x = c.val ∧ y = r.val)) := by
  unfold flip place?
  split
  case h_1 p hp =>
    split at hp
    · rename_i hin
      obtain rfl := Option.some.inj hp
      by_cases hxy : x = c.val ∧ y = r.val
      · obtain ⟨rfl, rfl⟩ := hxy
        have hplace : ((r.val : Int) * 64 + c.val).toNat = r.val * 64 + c.val := by omega
        simp [lit, hplace]
      · have hplace : (y * 64 + x).toNat ≠ r.val * 64 + c.val := by omega
        simp [lit, hxy, Vector.getElem_set_ne, hplace]
    · cases hp
  case h_2 hp =>
    split at hp
    · cases hp
    · have hxy : ¬ (x = c.val ∧ y = r.val) := by omega
      simp [hxy]

/-- A flip tells whether there was a lit pixel where it was made. -/
theorem flip_hit (s : Screen) (x y : Int) :
    (s.flip x y).2 = true ↔ ∃ c r, x = Fin.val c ∧ y = Fin.val r ∧ s.lit c r = true := by
  unfold flip place?
  split
  case h_1 p hp =>
    split at hp
    · rename_i hin
      obtain rfl := Option.some.inj hp
      constructor
      · intro hlit
        refine ⟨⟨x.toNat, by omega⟩, ⟨y.toNat, by omega⟩, by simp; omega, by simp; omega, ?_⟩
        have hplace : (y * 64 + x).toNat = y.toNat * 64 + x.toNat := by omega
        simpa [lit, hplace] using hlit
      · rintro ⟨c, r, rfl, rfl, hlit⟩
        have hplace : ((r.val : Int) * 64 + c.val).toNat = r.val * 64 + c.val := by omega
        simpa [lit, hplace] using hlit
    · cases hp
  case h_2 hp =>
    split at hp
    · cases hp
    · constructor
      · intro h
        cases h
      · rintro ⟨c, r, rfl, rfl, -⟩
        omega

/-! ## One row -/

/-- The bits of a byte are its columns, from the highest on the left. -/
theorem bit_ofNat (row dx : Nat) : bit (row : Int) dx = row.testBit (7 - dx) := by
  have hshift : (row : Int) >>> (7 - dx) % 2 = ((row / 2 ^ (7 - dx) % 2 : Nat) : Int) := by
    rw [Int.shiftRight_eq_div_pow]
    norm_cast
  rw [bit, hshift, Nat.testBit_eq_decide_div_mod_eq]
  norm_cast

/-- A set bit among the first `n` of a row at `(x, y)` lies over the pixel. -/
def RowCovers (x y row : Int) (n : Nat) (c : Fin 64) (r : Fin 32) : Prop :=
  y = r.val ∧ x ≤ c.val ∧ c.val < x + n ∧ bit row (c.val - x).toNat = true

instance (x y row : Int) (n : Nat) (c : Fin 64) (r : Fin 32) :
    Decidable (RowCovers x y row n c r) :=
  inferInstanceAs (Decidable (_ ∧ _))

/-- The first `n` pixels of a row, drawn one after the other. -/
def drawBits (s : Screen) (x y row : Int) (n : Nat) : Screen × Bool :=
  (List.range n).foldl
    (fun (s, hit) dx =>
      if bit row dx then
        let (s, lit) := s.flip (x + dx) y
        (s, hit || lit)
      else (s, hit))
    (s, false)

theorem drawRow_eq (s : Screen) (x y row : Int) : s.drawRow x y row = s.drawBits x y row 8 := rfl

theorem drawBits_succ (s : Screen) (x y row : Int) (n : Nat) :
    s.drawBits x y row (n + 1) =
      if bit row n then
        (((s.drawBits x y row n).1.flip (x + n) y).1,
          (s.drawBits x y row n).2 || ((s.drawBits x y row n).1.flip (x + n) y).2)
      else s.drawBits x y row n := by
  rw [drawBits, List.range_succ, List.foldl_append]
  rfl

/-- One more bit covers one more pixel, or none. -/
theorem rowCovers_succ {x y row : Int} {n : Nat} {c : Fin 64} {r : Fin 32} :
    RowCovers x y row (n + 1) c r ↔
      RowCovers x y row n c r ∨ bit row n = true ∧ x + n = c.val ∧ y = r.val := by
  unfold RowCovers
  constructor
  · rintro ⟨hy, hle, hlt, hbit⟩
    by_cases hlast : x + n = c.val
    · have hn : (c.val - x).toNat = n := by omega
      exact .inr ⟨hn ▸ hbit, hlast, hy⟩
    · exact .inl ⟨hy, hle, by omega, hbit⟩
  · rintro (⟨hy, hle, hlt, hbit⟩ | ⟨hbit, hlast, hy⟩)
    · exact ⟨hy, hle, by omega, hbit⟩
    · have hn : (c.val - x).toNat = n := by omega
      exact ⟨hy, by omega, by omega, hn ▸ hbit⟩

theorem lit_drawBits (s : Screen) (x y row : Int) (n : Nat) (c : Fin 64) (r : Fin 32) :
    (s.drawBits x y row n).1.lit c r = (s.lit c r ^^ decide (RowCovers x y row n c r)) := by
  induction n with
  | zero =>
    have hnone : ¬ RowCovers x y row 0 c r := by
      rintro ⟨-, hle, hlt, -⟩
      omega
    simp [drawBits, hnone]
  | succ n ih =>
    rw [drawBits_succ]
    by_cases hbit : bit row n = true
    · rw [if_pos hbit, lit_flip, ih]
      by_cases hlast : x + n = c.val ∧ y = r.val
      · -- the new bit's pixel was not covered by the bits before it
        have hold : ¬ RowCovers x y row n c r := by
          rintro ⟨-, -, hlt, -⟩
          omega
        have hnew : RowCovers x y row (n + 1) c r := rowCovers_succ.2 (.inr ⟨hbit, hlast⟩)
        rw [decide_eq_false hold, decide_eq_true hnew, decide_eq_true hlast]
        simp
      · have hsame : RowCovers x y row (n + 1) c r ↔ RowCovers x y row n c r := by
          rw [rowCovers_succ]
          exact or_iff_left fun h => hlast h.2
        simp [hsame, hlast]
    · have hsame : RowCovers x y row (n + 1) c r ↔ RowCovers x y row n c r := by
        rw [rowCovers_succ]
        exact or_iff_left fun h => hbit h.1
      rw [if_neg hbit, ih]
      simp [hsame]

theorem drawBits_hit (s : Screen) (x y row : Int) (n : Nat) :
    (s.drawBits x y row n).2 = true ↔
      ∃ c r, RowCovers x y row n c r ∧ s.lit c r = true := by
  induction n with
  | zero =>
    constructor
    · intro h
      cases h
    · rintro ⟨c, r, ⟨-, hle, hlt, -⟩, -⟩
      omega
  | succ n ih =>
    rw [drawBits_succ]
    by_cases hbit : bit row n = true
    · rw [if_pos hbit, Bool.or_eq_true, ih, flip_hit]
      constructor
      · rintro (⟨c, r, hcov, hlit⟩ | ⟨c, r, hc, hr, hlit⟩)
        · exact ⟨c, r, rowCovers_succ.2 (.inl hcov), hlit⟩
        · have hold : ¬ RowCovers x y row n c r := by
            rintro ⟨-, -, hlt, -⟩
            omega
          rw [lit_drawBits] at hlit
          exact ⟨c, r, rowCovers_succ.2 (.inr ⟨hbit, hc, hr⟩), by simpa [hold] using hlit⟩
      · rintro ⟨c, r, hcov, hlit⟩
        by_cases hold : RowCovers x y row n c r
        · exact .inl ⟨c, r, hold, hlit⟩
        · obtain ⟨-, hc, hr⟩ := (rowCovers_succ.1 hcov).resolve_left hold
          refine .inr ⟨c, r, hc, hr, ?_⟩
          rw [lit_drawBits]
          simpa [hold] using hlit
    · rw [if_neg hbit, ih]
      have hsame : ∀ c r, RowCovers x y row (n + 1) c r ↔ RowCovers x y row n c r := by
        intro c r
        rw [rowCovers_succ]
        exact or_iff_left fun h => hbit h.1
      simp only [hsame]

/-! ## The whole sprite -/

/-- A set bit of the sprite whose upper left corner is at `(x, y)` lies over the pixel. -/
def Covers (x y : Int) : List Int → Fin 64 → Fin 32 → Prop
  | [], _, _ => False
  | row :: rows, c, r => RowCovers x y row 8 c r ∨ Covers x (y + 1) rows c r

instance decidableCovers (x : Int) (c : Fin 64) (r : Fin 32) :
    ∀ (y : Int) (rows : List Int), Decidable (Covers x y rows c r)
  | _, [] => inferInstanceAs (Decidable False)
  | y, row :: rows =>
    have := decidableCovers x c r (y + 1) rows
    inferInstanceAs (Decidable (RowCovers x y row 8 c r ∨ Covers x (y + 1) rows c r))

/-- The rows of a sprite lie at and below its place. -/
theorem Covers.le {x y : Int} {rows : List Int} {c : Fin 64} {r : Fin 32}
    (h : Covers x y rows c r) : y ≤ r.val := by
  induction rows generalizing y with
  | nil => exact h.elim
  | cons row rows ih =>
    rcases h with hrow | hrows
    · exact Int.le_of_eq hrow.1
    · have := ih hrows
      omega

/-- A sprite covers a pixel iff the bit over it, in the row over it, is set. -/
theorem covers_iff {x y : Int} {rows : List Int} {c : Fin 64} {r : Fin 32} :
    Covers x y rows c r ↔
      x ≤ c.val ∧ c.val < x + 8 ∧ y ≤ r.val ∧
        ∃ row ∈ rows[(r.val - y).toNat]?, bit row (c.val - x).toNat = true := by
  induction rows generalizing y with
  | nil => simp [Covers]
  | cons row rows ih =>
    rw [Covers, ih]
    by_cases hfirst : y = r.val
    · have hzero : (r.val - y).toNat = 0 := by omega
      have hrow : (row :: rows)[(r.val - y).toNat]? = some row := by
        rw [hzero]
        rfl
      constructor
      · rintro (⟨-, hle, hlt, hbit⟩ | ⟨-, -, hbelow, -⟩)
        · exact ⟨hle, hlt, by omega, row, hrow, hbit⟩
        · omega
      · rintro ⟨hle, hlt, -, row', hmem, hbit⟩
        rw [hrow] at hmem
        obtain rfl := Option.some.inj hmem
        exact .inl ⟨hfirst, hle, hlt, hbit⟩
    · -- the pixel lies in no row or in a later one
      have hnext : y + 1 ≤ (r.val : Int) →
          (row :: rows)[(r.val - y).toNat]? = rows[(r.val - (y + 1)).toNat]? := by
        intro hbelow
        have hsucc : (r.val - y).toNat = (r.val - (y + 1)).toNat + 1 := by omega
        rw [hsucc, List.getElem?_cons_succ]
      constructor
      · rintro (⟨hy, -⟩ | ⟨hle, hlt, hbelow, hrow⟩)
        · exact absurd hy hfirst
        · rw [← hnext hbelow] at hrow
          exact ⟨hle, hlt, by omega, hrow⟩
      · rintro ⟨hle, hlt, htop, hrow⟩
        have hbelow : y + 1 ≤ (r.val : Int) := by omega
        rw [hnext hbelow] at hrow
        exact .inr ⟨hle, hlt, hbelow, hrow⟩

/-- **Drawing is clipped exclusive or**: it flips the pixels that the sprite covers, and no
others. -/
theorem lit_draw (s : Screen) (x y : Int) (rows : List Int) (c : Fin 64) (r : Fin 32) :
    (s.draw x y rows).1.lit c r = (s.lit c r ^^ decide (Covers x y rows c r)) := by
  induction rows generalizing s y with
  | nil =>
    have hnone : ¬ Covers x y [] c r := id
    simp [draw, hnone]
  | cons row rows ih =>
    show ((s.drawRow x y row).1.draw x (y + 1) rows).1.lit c r = _
    rw [ih, drawRow_eq, lit_drawBits]
    by_cases hrow : RowCovers x y row 8 c r
    · -- later rows lie further down and leave the pixel alone
      have hlater : ¬ Covers x (y + 1) rows c r := by
        intro h
        have := h.le
        have := hrow.1
        omega
      simp [Covers, hrow, hlater]
    · simp [Covers, hrow]

/-- A draw tells of a hit iff the sprite covers a pixel that was lit before the draw. -/
theorem draw_hit (s : Screen) (x y : Int) (rows : List Int) :
    (s.draw x y rows).2 = true ↔ ∃ c r, Covers x y rows c r ∧ s.lit c r = true := by
  induction rows generalizing s y with
  | nil => simp [draw, Covers]
  | cons row rows ih =>
    show ((s.drawRow x y row).2 || ((s.drawRow x y row).1.draw x (y + 1) rows).2) = true ↔ _
    rw [Bool.or_eq_true, ih, drawRow_eq, drawBits_hit]
    -- the rows further down find the pixels below this row as they were
    have hkept : ∀ c r, Covers x (y + 1) rows c r →
        (s.drawBits x y row 8).1.lit c r = s.lit c r := by
      intro c r hcov
      have hrow : ¬ RowCovers x y row 8 c r := by
        rintro ⟨hy, -⟩
        have := hcov.le
        omega
      rw [lit_drawBits]
      simp [hrow]
    constructor
    · rintro (⟨c, r, hcov, hlit⟩ | ⟨c, r, hcov, hlit⟩)
      · exact ⟨c, r, .inl hcov, hlit⟩
      · exact ⟨c, r, .inr hcov, hkept c r hcov ▸ hlit⟩
    · rintro ⟨c, r, hcov | hcov, hlit⟩
      · exact .inl ⟨c, r, hcov, hlit⟩
      · exact .inr ⟨c, r, hcov, (hkept c r hcov).symm ▸ hlit⟩

/-! ## Sprites of any integers -/

/-- Only the low byte of a row is drawn. -/
theorem bit_eq_testBit (row : Int) (dx : Nat) :
    bit row dx = (row % 256).toNat.testBit (7 - dx) := by
  have hlow : 0 ≤ row % 256 := Int.emod_nonneg row (by decide)
  have hbyte : bit row dx = bit (row % 256) dx := by
    unfold bit
    obtain ⟨k, hk, hle⟩ : ∃ k, 7 - dx = k ∧ k ≤ 7 := ⟨7 - dx, rfl, Nat.sub_le 7 dx⟩
    rw [hk, Int.shiftRight_eq_div_pow, Int.shiftRight_eq_div_pow, decide_eq_decide]
    -- the eight bits of a byte
    interval_cases k <;> omega
  rw [hbyte, ← bit_ofNat, Int.toNat_of_nonneg hlow]

/-- The bit that a sprite with its upper left corner at `(x, y)` has in column `px` and row `py`:
that of the low byte of the row there, the highest bit leftmost, and none outside the sprite. -/
def bitOver (x y : Int) (rows : List Int) (px py : Int) : Bool :=
  if 0 ≤ px - x ∧ px - x < 8 ∧ 0 ≤ py - y ∧ py - y < rows.length then
    ((rows.getD (py - y).toNat 0) % 256).toNat.testBit (7 - (px - x)).toNat
  else false

/-- Covering a pixel means to have a set bit there. -/
theorem covers_iff_bitOver {x y : Int} {rows : List Int} {c : Fin 64} {r : Fin 32} :
    Covers x y rows c r ↔ bitOver x y rows c.val r.val = true := by
  rw [covers_iff, bitOver]
  constructor
  · rintro ⟨hle, hlt, htop, row, hrow, hbit⟩
    have hlength := (List.getElem?_eq_some_iff.1 hrow).1
    rw [if_pos (by omega), List.getD_eq_getElem?_getD, hrow]
    have hcolumn : (7 - ((c.val : Int) - x)).toNat = 7 - ((c.val : Int) - x).toNat := by omega
    rwa [hcolumn, Option.getD_some, ← bit_eq_testBit]
  · intro h
    split_ifs at h with hin
    have hlength : ((r.val : Int) - y).toNat < rows.length := by omega
    have hcolumn : (7 - ((c.val : Int) - x)).toNat = 7 - ((c.val : Int) - x).toNat := by omega
    refine ⟨by omega, by omega, by omega, rows[((r.val : Int) - y).toNat], ?_, ?_⟩
    · exact List.getElem?_eq_getElem hlength
    · rwa [hcolumn, ← bit_eq_testBit, List.getD_eq_getElem?_getD,
        List.getElem?_eq_getElem hlength, Option.getD_some] at h

/-- **Drawing is clipped exclusive or, bit by bit.** At any place, off the grid or on it, and with
rows of any integers, a sprite flips each pixel of the grid over which it has a set bit and leaves
all others, so that nothing comes back in at another edge; and there is a hit iff one of the flipped
pixels was lit before. -/
theorem draw_clipped (s : Screen) (x y : Int) (rows : List Int) :
    (∀ (c : Fin 64) (r : Fin 32),
      (s.draw x y rows).1.lit c r = (s.lit c r ^^ bitOver x y rows c.val r.val)) ∧
    ((s.draw x y rows).2 = true ↔
      ∃ (c : Fin 64) (r : Fin 32), s.lit c r = true ∧ bitOver x y rows c.val r.val = true) := by
  constructor
  case left =>
    intro c r
    rw [lit_draw]
    congr 1
    exact Bool.eq_iff_iff.2 (decide_eq_true_iff.trans covers_iff_bitOver)
  case right =>
    rw [draw_hit]
    simp only [covers_iff_bitOver, and_comm]

end Screen

end Chip8
