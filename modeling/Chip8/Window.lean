import Chip8.Config.Pacing
import Chip8.Display
import Chip8.KeyState
import Chip8.Machine.Step

/-!
# The window

The window drives a machine: at every timeout of its timer it makes the steps
of a frame with the keys that are held at that moment, and then shows the
screen, the main registers and the machine's condition. A machine fault stops
the timer and opens a dialog; any other failure of a step is not the window's
to handle and is handed on.

What the window asks of its window system is part of its state: the title, the
status text, the displayed frame, the dialogs it opened.

- `Window.ofMachine?`: a window on a machine.
- `Window.runFrame`: the steps of a frame.
- `Window.timeout`, `Window.press`, `Window.release`, `Window.loseFocus`, `Window.close`: the
  events.
-/

namespace Chip8

/-- A dialog that says something and waits to be dismissed. -/
structure Dialog where
  title : String
  text : String
  deriving DecidableEq, Repr

/-- Why a window is not opened, or a frame not finished. -/
inductive WindowError where
  | unknownKey (cause : UnknownKey)
  | pacing (cause : PacingError)
  | machine (cause : Error)

/-- The state of the window. -/
structure Window where
  machine : Machine
  config : Config
  keys : KeyState
  display : Display
  /-- The time between two timeouts, in milliseconds. -/
  interval : Nat
  /-- The timer is active. -/
  running : Bool := false
  closed : Bool := false
  title : String := ""
  status : String := ""
  /-- The dialogs opened, the first first. -/
  dialogs : Array Dialog := #[]

namespace Window

/-- The main registers, as the status line shows them. -/
def statusText (m : Machine) : String :=
  "PC:" ++ Hex.upper 3 m.registers.counter ++ " I:" ++ Hex.upper 3 m.registers.index ++
    " SP:" ++ Hex.upper 1 m.stack.depth ++ " DT:" ++ Hex.upper 2 m.timers.delay ++
    " ST:" ++ Hex.upper 2 m.timers.sound

/-- The name of the program and the machine's condition, as the title shows them. -/
def titleText (m : Machine) : String :=
  "CHIP-8 Tracer" ++ (if m.dialect.isFull then " [QUIRKS]" else "") ++
    (if m.paused then " [PAUSED]" else "") ++ (if m.timers.soundActive then " [SOUND]" else "")

/-- Shows the machine as it is now. -/
def refresh (w : Window) : Except Error Window := do
  let c := w.config
  let display ← w.display.setFrame (w.machine.screen.colored c.lit.channels c.dark.channels)
  return { w with display, status := statusText w.machine, title := titleText w.machine }

/-- A window on a machine; its timer is not active yet. -/
def ofMachine? (keyboard : Keyboard) (machine : Machine) (config : Config) :
    Except WindowError Window := do
  let keys ← (KeyState.ofKeymap? keyboard config.keymap).mapError .unknownKey
  let interval ← config.frameInterval.mapError .pacing
  let w : Window := { machine, config, keys, interval, display := { scale := config.scale } }
  w.refresh.mapError .machine

/-- Starts the timer. -/
def start (w : Window) : Window :=
  { w with running := true }

/-- Stops the timer. -/
def stop (w : Window) : Window :=
  { w with running := false }

/-- Answers a machine fault: no further frames, a notice and a dialog. -/
def reportFault (w : Window) (cause : Fault) : Window :=
  let m := w.machine.note (.faulted w.machine.registers.counter)
  { w with
    machine := m
    running := false
    dialogs := w.dialogs.push ⟨"Machine Fault", "Execution stopped: " ++ cause.message⟩ }

/-- Makes the steps of a frame, up to a fault, and shows the machine. A failure that is no fault
leaves the window without showing. -/
def runFrame (w : Window) : Except WindowError Unit × Window :=
  match w.config.stepsPerFrame with
  | .error cause => (.error (.pacing cause), w)
  | .ok n =>
    let (result, machine) := (Machine.run n w.keys.pressed).on w.machine
    let w := { w with machine }
    let finish (w : Window) : Except WindowError Unit × Window :=
      match w.refresh with
      | .ok w => (.ok (), w)
      | .error cause => (.error (.machine cause), w)
    match result with
    | .ok () => finish w
    | .error (.fault cause) => finish (w.reportFault cause)
    | .error cause => (.error (.machine cause), w)

/-- The timer's time is over: a frame if the timer is active. -/
def timeout (w : Window) : Except WindowError Unit × Window :=
  if w.running then w.runFrame else (.ok (), w)

/-- Several timeouts, up to one that is handed on. -/
def timeouts : Nat → Window → Except WindowError Unit × Window
  | 0, w => (.ok (), w)
  | n + 1, w =>
    match w.timeout with
    | (.ok (), w) => timeouts n w
    | failed => failed

/-- The window closes. -/
def close (w : Window) : Window :=
  { w.stop with closed := true }

/-- A key goes down; `isRepeat` if it only stays down. Tells whether the window leaves the event to
the window system. -/
def press (w : Window) (key : Int) (isRepeat : Bool) : Window × Bool :=
  if key = Keyboard.escape then (w.close, false)
  else if isRepeat then (w, true)
  else
    let (keys, bound) := w.keys.press key
    ({ w with keys }, !bound)

/-- A key goes up; `isRepeat` if it only stays down. -/
def release (w : Window) (key : Int) (isRepeat : Bool) : Window × Bool :=
  if isRepeat then (w, true)
  else
    let (keys, bound) := w.keys.release key
    ({ w with keys }, !bound)

/-- The window is no longer the one that keys go to. -/
def loseFocus (w : Window) : Window × Bool :=
  ({ w with keys := w.keys.releaseAll }, true)

end Window

end Chip8
