import Chip8.Byte

/-!
# Screen

A grid of 64 by 32 pixels, each lit or dark. A sprite is a list of rows of
eight pixels, the highest bit leftmost; drawing it flips the pixels under its
set bits. The part of a sprite that lies outside the grid is not drawn, and
nothing wraps around an edge.

- `Screen.draw`: draws a sprite and tells whether a lit pixel was put out.
- `Screen.pixel`: the state of one pixel.
- `Screen.colored`, `Screen.picture`: the whole screen as a sequence of color channels.
-/

namespace Chip8

/-- A color of four channels: red, green, blue and opacity. -/
structure Color where
  red : UInt8
  green : UInt8
  blue : UInt8
  opacity : UInt8
  deriving DecidableEq, Repr

namespace Color

/-- The channels in their order. -/
def channels (c : Color) : List UInt8 :=
  [c.red, c.green, c.blue, c.opacity]

/-- Lit pixels, unless another color is chosen. -/
def litDefault : Color := ⟨0, 128, 255, 255⟩

/-- Dark pixels, unless another color is chosen. -/
def darkDefault : Color := ⟨0, 33, 66, 255⟩

end Color

/-- The pixels of the screen, row by row from the top, each row from the left. -/
structure Screen where
  pixels : Vector Bool 2048
  deriving DecidableEq

namespace Screen

/-- Pixels in a row. -/
def width : Nat := 64

/-- Rows of the grid. -/
def height : Nat := 32

/-- A screen with every pixel dark. -/
def dark : Screen := ⟨Vector.replicate 2048 false⟩

/-- The place of the pixel in column `x` and row `y`, if there is one. -/
def place? (x y : Int) : Option (Fin 2048) :=
  if h : 0 ≤ x ∧ x < 64 ∧ 0 ≤ y ∧ y < 32 then some ⟨(y * 64 + x).toNat, by omega⟩ else none

/-- Whether the pixel in column `x` and row `y` is lit. -/
def pixel (s : Screen) (x y : Int) : Except Error Bool :=
  match place? x y with
  | some p => .ok s.pixels[p]
  | none => .error (.pixel x y)

/-- Flips the pixel in column `x` and row `y` and tells whether it was lit. Outside the grid
there is nothing to flip. -/
def flip (s : Screen) (x y : Int) : Screen × Bool :=
  match place? x y with
  | some p => (⟨s.pixels.set p (!s.pixels[p])⟩, s.pixels[p])
  | none => (s, false)

/-- The bit of `row` that belongs to the column `dx` of a sprite, counted from the left. -/
def bit (row : Int) (dx : Nat) : Bool :=
  (row >>> (7 - dx)) % 2 = 1

/-- Draws one row of a sprite, its leftmost pixel in column `x` and row `y`. -/
def drawRow (s : Screen) (x y row : Int) : Screen × Bool :=
  (List.range 8).foldl
    (fun (s, hit) dx =>
      if bit row dx then
        let (s, lit) := s.flip (x + dx) y
        (s, hit || lit)
      else (s, hit))
    (s, false)

/-- Draws a sprite, its upper left pixel in column `x` and row `y`, and tells whether any
lit pixel was put out. -/
def draw (s : Screen) (x y : Int) : List Int → Screen × Bool
  | [] => (s, false)
  | row :: rows =>
    let (s, hit) := s.drawRow x y row
    let (s, later) := s.draw x (y + 1) rows
    (s, hit || later)

/-- The channels of the screen in the given colors, a color for each pixel. -/
def colored (s : Screen) (on off : List UInt8) : List UInt8 :=
  s.pixels.toList.flatMap fun lit => if lit then on else off

/-- The channels of the screen in colors given as integers, which have to fit bytes. A color
without channels stands for its default. -/
def picture (s : Screen) (on off : List Int) : Except Error (List UInt8) := do
  let on ← if on.isEmpty then pure Color.litDefault.channels else Byte.ofInts on
  let off ← if off.isEmpty then pure Color.darkDefault.channels else Byte.ofInts off
  return s.colored on off

end Screen

end Chip8
