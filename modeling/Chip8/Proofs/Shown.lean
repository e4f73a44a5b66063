import Chip8.Proofs.Events

/-!
# What the window shows

After every event the window shows the machine as it is: each pixel in its
color, the main registers as hexadecimal numbers, and the machine's condition.
As the pictures of two screens in two colors differ wherever the screens do,
the screen of a window can be read off what the window displays.

- `Window.Shows`: all that is to be seen, said of the machine.
- `Window.shows_after`: it is to be seen after every event.
-/

namespace Chip8

namespace Window

/-- What is to be seen of the machine: its screen in the colors of the configuration, row by row
from the top and each row from the left, with four channels for each pixel; its main registers as
hexadecimal numbers; and what holds of it at the moment. -/
structure Shows (c : Config) (w : Window) : Prop where
  frame : ∃ image, w.display.frame = some image ∧ image.length = 8192 ∧
    ∀ (x : Fin 64) (y : Fin 32), (image.drop (4 * (64 * y.val + x.val))).take 4 =
      if w.machine.screen.lit x y then c.lit.channels else c.dark.channels
  status : ∃ pc i sp dt st : String,
    w.status = "PC:" ++ pc ++ " I:" ++ i ++ " SP:" ++ sp ++ " DT:" ++ dt ++ " ST:" ++ st ∧
    Hex.Writes 3 w.machine.registers.counter pc ∧ Hex.Writes 3 w.machine.registers.index i ∧
    Hex.Writes 1 w.machine.stack.depth sp ∧ Hex.Writes 2 w.machine.timers.delay dt ∧
    Hex.Writes 2 w.machine.timers.sound st
  title : w.title = "CHIP-8 Tracer" ++
    (if w.machine.dialect.shiftInPlace = true ∧ w.machine.dialect.keepIndex = true
      then " [QUIRKS]" else "") ++
    (if w.machine.paused = true then " [PAUSED]" else "") ++
    (if 0 < w.machine.timers.sound then " [SOUND]" else "")

variable {w : Window} {c : Config}

/-- A window that is settled shows its machine. -/
theorem Settled.shows (h : w.Settled c) : w.Shows c := by
  constructor
  case frame =>
    refine ⟨w.picture, h.frame, Screen.length_colored rfl rfl _, fun x y => ?_⟩
    rw [picture, h.config]
    exact Screen.channels_colored rfl rfl _ x y
  case status =>
    -- none of the registers is ever negative, so their texts are numbers
    exact ⟨_, _, _, _, _, h.status, Hex.writes_upper 3 h.bounds.counter.1,
      Hex.writes_upper 3 h.bounds.index.1, Hex.writes_upper 1 (Int.natCast_nonneg _),
      Hex.writes_upper 2 h.bounds.delay.1, Hex.writes_upper 2 h.bounds.sound.1⟩
  case title =>
    rw [h.title, titleText]
    simp only [Dialect.isFull, Bool.and_eq_true, Timers.soundActive, decide_eq_true_iff]

/-- Two colors with the same channels are the same. -/
theorem channels_injective {a b : Color} (h : a.channels = b.channels) : a = b := by
  obtain ⟨red, green, blue, opacity⟩ := a
  cases h
  rfl

/-- In two different colors, windows that show the same picture have the same screen. -/
theorem Settled.screen_eq {other : Window} {d : Config} (h : w.Settled c) (hother : other.Settled d)
    (hlit : d.lit = c.lit) (hdark : d.dark = c.dark) (hne : c.lit ≠ c.dark)
    (hframe : w.display.frame = other.display.frame) :
    w.machine.screen = other.machine.screen := by
  have hpicture : w.picture = other.picture := by
    rw [h.frame, hother.frame] at hframe
    exact Option.some.inj hframe
  rw [picture, picture, h.config, hother.config, hlit, hdark] at hpicture
  exact Screen.colored_injective rfl rfl (mt channels_injective hne) hpicture

/-- **The window shows the machine.** A window is opened on a reachable machine, with whatever
configuration, and any events have come: frames that end well or with a fault or cannot begin, keys
that go down and up, repeat or close the window, the timer, the loss of the keys. Then what is to be
seen is the machine as it is now. So in two different colors the picture tells the screen: another
window of these colors that has come to show the same picture, on whatever machine and after
whatever events, has the same screen. -/
theorem shows_after {keyboard : Keyboard} {m : Machine} (hm : m.Reachable) {opened : Window}
    (hopened : ofMachine? keyboard m c = .ok opened) (events : List Event) :
    (opened.after events).Shows c ∧
    ∀ {layout : Keyboard} {n : Machine} {d : Config} {other : Window}, n.Reachable →
      ofMachine? layout n d = .ok other → d.lit = c.lit → d.dark = c.dark → c.lit ≠ c.dark →
      ∀ later : List Event,
        (opened.after events).display.frame = (other.after later).display.frame →
        (opened.after events).machine.screen = (other.after later).machine.screen := by
  obtain ⟨-, rfl, hsettled⟩ := ofMachine?_eq_ok hopened
  have hw := (hsettled hm.invariant).after events
  refine ⟨hw.shows, ?_⟩
  intro layout n d other hn hother hlit hdark hne later hframe
  obtain ⟨-, rfl, hsettled'⟩ := ofMachine?_eq_ok hother
  exact hw.screen_eq ((hsettled' hn.invariant).after later) hlit hdark hne hframe

/-- A window on the program `00EE` makes a frame that breaks and is closed. When it was opened it
showed the same dark screen as a window on the program `1200`. -/
theorem shows_after_dark :
    ∃ m n opened other, Machine.ofProgram? [0x00, 0xEE] {} (.cycle #[]) #[] = .ok m ∧
      Machine.ofProgram? [0x12, 0x00] {} (.cycle #[]) #[] = .ok n ∧
      ofMachine? Keyboard.leftBlock m {} = .ok opened ∧
      ofMachine? Keyboard.leftBlock n {} = .ok other ∧
      (opened.after [.start, .timeout, .press Keyboard.escape false]).Shows {} ∧
      opened.display.frame = other.display.frame ∧
      opened.machine.screen = other.machine.screen := by
  obtain ⟨m, n, hm, hn, hscreen⟩ : ∃ m n,
      Machine.ofProgram? [0x00, 0xEE] {} (.cycle #[]) #[] = .ok m ∧
      Machine.ofProgram? [0x12, 0x00] {} (.cycle #[]) #[] = .ok n ∧ m.screen = n.screen :=
    ⟨_, _, Machine.ofProgram?_fits (by decide), Machine.ofProgram?_fits (by decide), rfl⟩
  obtain ⟨opened, hopened⟩ := exists_ofMachine? m
  obtain ⟨other, hother⟩ := exists_ofMachine? n
  have hreachable : m.Reachable := .fresh hm
  have hreachable' : n.Reachable := .fresh hn
  obtain ⟨hshows, -⟩ :=
    shows_after hreachable hopened [.start, .timeout, .press Keyboard.escape false]
  obtain ⟨-, hsame⟩ := shows_after hreachable hopened []
  have hframe : opened.display.frame = other.display.frame := by
    obtain ⟨-, hmachine, hsettled⟩ := ofMachine?_eq_ok hopened
    obtain ⟨-, hmachine', hsettled'⟩ := ofMachine?_eq_ok hother
    have hopen := hsettled hreachable.invariant
    have hopen' := hsettled' hreachable'.invariant
    rw [hopen.frame, hopen'.frame, picture, picture, hopen.config, hopen'.config, hmachine,
      hmachine', hscreen]
  exact ⟨m, n, opened, other, hm, hn, hopened, hother, hshows, hframe,
    hsame hreachable' hother rfl rfl (by decide) [] hframe⟩

end Window

end Chip8
