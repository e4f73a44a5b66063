import Chip8.Level
import Chip8.Screen

/-!
# Configurations

Everything a user can choose about a machine and its window. The default value
of `Config` is what holds where nothing is chosen.
-/

namespace Chip8

/-- Names of keys with the key codes they stand for, in order. -/
abbrev Keymap := List (String × Int)

/-- The left block of a keyboard stands for the keypad's square of hexadecimal digits. -/
def Keymap.default : Keymap :=
  [ ("X", 0x0), ("1", 0x1), ("2", 0x2), ("3", 0x3),
    ("Q", 0x4), ("W", 0x5), ("E", 0x6), ("A", 0x7),
    ("S", 0x8), ("D", 0x9), ("Z", 0xA), ("C", 0xB),
    ("4", 0xC), ("R", 0xD), ("F", 0xE), ("V", 0xF) ]

/-- What a user can choose. -/
structure Config where
  /-- Both readings of the full dialect are chosen. -/
  fullDialect : Bool := false
  /-- Steps of the machine in a second. -/
  stepRate : Int := 480
  /-- Frames shown in a second. -/
  frameRate : Int := 60
  /-- The side of a pixel on the display. -/
  scale : Int := 10
  /-- The seed of the random numbers, if they are to be repeatable. -/
  seed : Option Int := none
  /-- The level from which on notices are shown. -/
  level : Level := .warning
  /-- The color of lit pixels. -/
  lit : Color := Color.litDefault
  /-- The color of dark pixels. -/
  dark : Color := Color.darkDefault
  keymap : Keymap := Keymap.default
  deriving DecidableEq, Repr

end Chip8
