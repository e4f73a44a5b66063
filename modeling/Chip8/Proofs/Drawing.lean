import Chip8.Proofs.Sprite
import Mathlib.Algebra.Ring.Parity
import Mathlib.Data.List.DropRight

/-!
# Many sprites on one screen

What a screen shows after any sequence of sprites and clearings, pixel by pixel.

- `Stroke`: drawing a sprite anywhere, or clearing the screen.
- `Stroke.sinceClear`, `Stroke.layers`: what has been drawn since the latest
  clearing, and how many of these sprites cover a pixel.
- `Screen.lit_paintAll`: the parity of the layers decides on a pixel.
- `Screen.paintAll_perm`: sprites may come in any order.
- `Screen.paint_parity`: the algebra of drawing.

Drawing is exclusive or, so it is enough to count the sprites over a pixel; the
screen before a clearing and the order of the sprites behind it leave no trace.
-/

namespace Chip8

/-- One act of drawing. -/
inductive Stroke where
  /-- A sprite of the given rows, its upper left pixel in column `x` and row `y`. -/
  | sprite (x y : Int) (rows : List Int)
  /-- All pixels go dark. -/
  | clear
  deriving DecidableEq, Repr

namespace Stroke

variable {strokes others : List Stroke}

/-- The stroke is a sprite with a set bit over the pixel. -/
def Covers : Stroke → Fin 64 → Fin 32 → Prop
  | sprite x y rows, c, r => Screen.Covers x y rows c r
  | clear, _, _ => False

instance : ∀ (s : Stroke) (c : Fin 64) (r : Fin 32), Decidable (s.Covers c r)
  | sprite _ _ _, c, r => Screen.decidableCovers _ c r _ _
  | clear, _, _ => inferInstanceAs (Decidable False)

/-- The strokes behind the latest clearing, all of them if there is none. -/
def sinceClear (strokes : List Stroke) : List Stroke :=
  strokes.rtakeWhile (· ≠ clear)

/-- How many sprites have been laid over the pixel since the latest clearing. -/
def layers (strokes : List Stroke) (c : Fin 64) (r : Fin 32) : Nat :=
  (sinceClear strokes).countP (·.Covers c r)

variable (c : Fin 64) (r : Fin 32)

theorem layers_concat_clear (strokes : List Stroke) : layers (strokes ++ [clear]) c r = 0 := by
  have hnone : sinceClear (strokes ++ [clear]) = [] := by simp [sinceClear]
  rw [layers, hnone]
  rfl

theorem layers_concat_sprite (strokes : List Stroke) (x y : Int) (rows : List Int) :
    layers (strokes ++ [sprite x y rows]) c r =
      layers strokes c r + if Screen.Covers x y rows c r then 1 else 0 := by
  have hone : sinceClear (strokes ++ [sprite x y rows]) =
      sinceClear strokes ++ [sprite x y rows] := by simp [sinceClear]
  rw [layers, hone, List.countP_append, List.countP_singleton]
  simp only [decide_eq_true_iff]
  rfl

/-- Without a clearing all strokes count. -/
theorem layers_of_notMem (h : clear ∉ strokes) :
    layers strokes c r = strokes.countP (·.Covers c r) := by
  have hall : sinceClear strokes = strokes := by
    rw [sinceClear, List.rtakeWhile_eq_self_iff]
    intro s hs
    exact decide_eq_true fun heq => h (heq ▸ hs)
  rw [layers, hall]

end Stroke

namespace Screen

variable {strokes others : List Stroke}

/-- The screen after a stroke. -/
def paint (s : Screen) : Stroke → Screen
  | .sprite x y rows => (s.draw x y rows).1
  | .clear => dark

/-- The screen after some strokes, one after the other. -/
def paintAll (s : Screen) (strokes : List Stroke) : Screen :=
  strokes.foldl paint s

theorem paintAll_append (s : Screen) (first later : List Stroke) :
    s.paintAll (first ++ later) = (s.paintAll first).paintAll later :=
  List.foldl_append

/-- **The layers over a pixel decide on it.** It is lit iff it was lit at first, or dark after a
clearing, and has been flipped by an even number of sprites since, or the other way round. -/
theorem lit_paintAll (s : Screen) (strokes : List Stroke) (c : Fin 64) (r : Fin 32) :
    (s.paintAll strokes).lit c r =
      ((if .clear ∈ strokes then false else s.lit c r) ^^
        decide (Odd (Stroke.layers strokes c r))) := by
  -- from the end, as the latest stroke lies on top
  induction strokes using List.reverseRecOn with
  | nil =>
    show s.lit c r = (s.lit c r ^^ decide (Odd 0))
    simp
  | append_singleton strokes stroke ih =>
    rw [paintAll_append]
    cases stroke with
    | clear =>
      show dark.lit c r = _
      rw [lit_dark, Stroke.layers_concat_clear]
      simp
    | sprite x y rows =>
      show ((s.paintAll strokes).draw x y rows).1.lit c r = _
      rw [lit_draw, ih, Stroke.layers_concat_sprite, Bool.xor_assoc]
      have hclear : Stroke.clear ∈ strokes ++ [.sprite x y rows] ↔ .clear ∈ strokes := by simp
      simp only [hclear]
      congr 1
      by_cases hcovers : Covers x y rows c r
      · rw [if_pos hcovers, decide_eq_true hcovers, Bool.xor_true]
        simp only [Nat.odd_add_one, decide_not]
      · rw [if_neg hcovers, decide_eq_false hcovers, Bool.xor_false, Nat.add_zero]

/-- Sprites may be drawn in any order. -/
theorem paintAll_perm (s : Screen) (h : strokes.Perm others) (hsprites : .clear ∉ strokes) :
    s.paintAll strokes = s.paintAll others := by
  have hothers : Stroke.clear ∉ others := fun hmem => hsprites (h.mem_iff.2 hmem)
  refine ext_lit fun c r => ?_
  rw [lit_paintAll, lit_paintAll, if_neg hsprites, if_neg hothers,
    Stroke.layers_of_notMem c r hsprites, Stroke.layers_of_notMem c r hothers, h.countP_eq]

/-- The same sprite a second time takes back what the first one did. -/
theorem draw_draw (s : Screen) (x y : Int) (rows : List Int) :
    ((s.draw x y rows).1.draw x y rows).1 = s := by
  refine ext_lit fun c r => ?_
  rw [lit_draw, lit_draw, Bool.xor_assoc, Bool.xor_self, Bool.xor_false]

/-- A pixel under the sprite is lit before the first draw or before the second, so one of the two
draws puts it out. -/
theorem draw_draw_hit (s : Screen) (x y : Int) (rows : List Int) :
    (s.draw x y rows).2 = true ∨ ((s.draw x y rows).1.draw x y rows).2 = true ↔
      ∃ c r, Covers x y rows c r := by
  rw [draw_hit, draw_hit]
  constructor
  · rintro (⟨c, r, hcovers, -⟩ | ⟨c, r, hcovers, -⟩)
    · exact ⟨c, r, hcovers⟩
    · exact ⟨c, r, hcovers⟩
  · rintro ⟨c, r, hcovers⟩
    by_cases hlit : s.lit c r = true
    · exact .inl ⟨c, r, hcovers, hlit⟩
    · refine .inr ⟨c, r, hcovers, ?_⟩
      rw [lit_draw, decide_eq_true hcovers, Bool.xor_true]
      simpa using hlit

/-- **The algebra of drawing.** After any sequence of sprites and clearings, wherever the sprites
lie and whatever their rows, each pixel is what it was, or dark if there was a clearing, flipped
once for each sprite that has covered it since the latest clearing. So sprites without a clearing
between them may change places. The same sprite drawn twice leaves the screen as it was, and one of
the two draws tells of a hit iff the sprite has a set bit over the grid. -/
theorem paint_parity (s : Screen) :
    (∀ (strokes : List Stroke) (c : Fin 64) (r : Fin 32),
      (s.paintAll strokes).lit c r =
        ((if .clear ∈ strokes then false else s.lit c r) ^^
          decide (Odd ((Stroke.sinceClear strokes).countP (·.Covers c r))))) ∧
    (∀ earlier sprites shuffled later : List Stroke, .clear ∉ sprites → sprites.Perm shuffled →
      s.paintAll (earlier ++ sprites ++ later) = s.paintAll (earlier ++ shuffled ++ later)) ∧
    ∀ (x y : Int) (rows : List Int),
      let first := s.draw x y rows
      let second := first.1.draw x y rows
      second.1 = s ∧
      (first.2 = true ∨ second.2 = true ↔ ∃ c r, Covers x y rows c r) := by
  refine ⟨s.lit_paintAll, ?_, fun x y rows => ⟨s.draw_draw x y rows, s.draw_draw_hit x y rows⟩⟩
  intro earlier sprites shuffled later hsprites hperm
  rw [paintAll_append, paintAll_append, paintAll_append, paintAll_append,
    paintAll_perm _ hperm hsprites]

/-- Two sprites that overlap, drawn in either order behind a clearing and before a third one. -/
theorem paint_parity_overlap :
    dark.paintAll ([.clear] ++ [.sprite 0 0 [0xFF], .sprite (-4) 0 [0x3C]] ++
        [.sprite 1 0 [0x80, 0x80]]) =
      dark.paintAll ([.clear] ++ [.sprite (-4) 0 [0x3C], .sprite 0 0 [0xFF]] ++
        [.sprite 1 0 [0x80, 0x80]]) := by
  obtain ⟨-, hshuffle, -⟩ := paint_parity dark
  exact hshuffle _ _ _ _ (by decide) (List.Perm.swap _ _ _)

end Screen

end Chip8
