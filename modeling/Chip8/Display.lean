import Chip8.Screen

/-!
# The display

The part of the window that shows a frame: 64 by 32 pixels of four channels,
each pixel drawn as a square.
-/

namespace Chip8

/-- The display and the frame that it shows. -/
structure Display where
  /-- The side of a pixel. -/
  scale : Int := 10
  frame : Option (List UInt8) := none
  /-- How often another frame was to be shown. -/
  updates : Nat := 0
  deriving DecidableEq, Repr

namespace Display

/-- The number of channels of a frame. -/
def frameSize : Nat := 8192

/-- The width and height that the display asks for. -/
def sizeHint (d : Display) : Int × Int :=
  (Screen.width * d.scale, Screen.height * d.scale)

/-- The least width and height. -/
def minimumSize : Int × Int :=
  (Screen.width, Screen.height)

/-- Shows another frame. -/
def setFrame (d : Display) (frame : List UInt8) : Except Error Display :=
  if frame.length = frameSize then .ok { d with frame := some frame, updates := d.updates + 1 }
  else .error (.frameSize frame.length)

end Display

end Chip8
