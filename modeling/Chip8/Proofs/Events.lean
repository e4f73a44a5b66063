import Chip8.Proofs.Display
import Chip8.Proofs.HeldKeys
import Chip8.Proofs.Run
import Chip8.Window

/-!
# Windows in the course of events

Whatever happens to a window is a frame or something that leaves the machine
and the display alone. So what a frame can come to is said once, and what holds
of a window after any events follows from it.

- `KeyState.OnKeypad`: only codes of the keypad are held, now and later.
- `Window.Event`, `Window.handle`, `Window.after`: the events, and a window after
  some of them; `Window.handle_cases`: what an event does.
- `Window.runFrame_cases`: what a frame does.
- `Window.Settled`: the machine is within its bounds and what is shown is the
  machine; `Settled.after`: no event changes that.
-/

namespace Chip8

/-! ## Codes of the keypad -/

namespace Keyboard

/-- Looking up names keeps to the codes that they have. -/
theorem resolveOnto_codes {k : Keyboard} {keymap : Keymap} {bound bindings : List (Int × Int)}
    (h : k.resolveOnto bound keymap = .ok bindings)
    (hkeymap : ∀ key ∈ keymap, Keypad.IsCode key.2) (hbound : ∀ b ∈ bound, Keypad.IsCode b.2) :
    ∀ b ∈ bindings, Keypad.IsCode b.2 := by
  induction keymap generalizing bound with
  | nil =>
    obtain rfl := Except.ok.inj h
    exact hbound
  | cons key rest ih =>
    obtain ⟨hfirst, hrest⟩ := List.forall_mem_cons.1 hkeymap
    simp only [resolveOnto] at h
    split at h
    · exact ih h hrest (Entries.forall_put hbound hfirst)
    · cases h

/-- The keys that the default keymap names, with the numbers of the window's keyboard. -/
def leftBlock : Keyboard :=
  [ ("1", 0x31), ("2", 0x32), ("3", 0x33), ("4", 0x34), ("A", 0x41), ("C", 0x43), ("D", 0x44),
    ("E", 0x45), ("F", 0x46), ("Q", 0x51), ("R", 0x52), ("S", 0x53), ("V", 0x56), ("W", 0x57),
    ("X", 0x58), ("Z", 0x5A) ]

end Keyboard

namespace KeyState

variable {s : KeyState}

/-- All keys of the state have codes of the keypad. -/
structure OnKeypad (s : KeyState) : Prop where
  bound : ∀ key code, s.code? key = some code → Keypad.IsCode code
  held : ∀ code ∈ s.held, Keypad.IsCode code

theorem OnKeypad.handle (h : s.OnKeypad) (e : KeyEvent) : (s.handle e).OnKeypad where
  bound key code hcode := by
    rw [code?_handle] at hcode
    exact h.bound key code hcode
  held code hmem := by
    rcases (mem_held_handle s code e).1 hmem with hpress | ⟨hold, -⟩
    · cases e with
      | press key => exact h.bound key code hpress
      | release key => exact hpress.elim
      | releaseAll => exact hpress.elim
    · exact h.held code hold

theorem OnKeypad.after (h : s.OnKeypad) (events : List KeyEvent) : (s.after events).OnKeypad := by
  induction events generalizing s with
  | nil => exact h
  | cons e rest ih => exact ih (h.handle e)

theorem OnKeypad.pressed (h : s.OnKeypad) : ∀ code ∈ s.pressed, Keypad.IsCode code :=
  fun code hmem => h.held code (mem_pressed.1 hmem)

/-- A keymap whose codes are on the keypad makes a state whose codes are. -/
theorem onKeypad_ofKeymap? {keyboard : Keyboard} {keymap : Keymap}
    (h : ofKeymap? keyboard keymap = .ok s) (hkeymap : ∀ key ∈ keymap, Keypad.IsCode key.2) :
    s.OnKeypad := by
  obtain ⟨hresolve, hheld⟩ := ofKeymap?_eq_ok h
  have hbindings : ∀ b ∈ s.bindings, Keypad.IsCode b.2 :=
    Keyboard.resolveOnto_codes hresolve hkeymap fun b hb => nomatch hb
  constructor
  case bound =>
    intro key code hcode
    obtain ⟨b, hfind, rfl⟩ := Option.map_eq_some_iff.1 hcode
    exact hbindings b (List.mem_of_find?_eq_some hfind)
  case held =>
    rw [hheld]
    exact fun code hmem => nomatch hmem

theorem exists_ofKeymap?_leftBlock :
    ∃ s, ofKeymap? Keyboard.leftBlock Keymap.default = .ok s := by
  have hok : (ofKeymap? Keyboard.leftBlock Keymap.default).toBool = true := by decide +kernel
  cases hs : ofKeymap? Keyboard.leftBlock Keymap.default with
  | ok s => exact ⟨s, rfl⟩
  | error e =>
    rw [hs] at hok
    cases hok

end KeyState

namespace Window

variable {w : Window}

/-! ## Events -/

/-- What happens to a window. -/
inductive Event where
  | start
  | stop
  /-- A frame, whether or not the timer is active. -/
  | frame
  /-- The timer's time is over. -/
  | timeout
  | press (key : Int) (isRepeat : Bool)
  | release (key : Int) (isRepeat : Bool)
  | loseFocus
  | close
  deriving DecidableEq, Repr

/-- The window after an event, whether or not the event failed. -/
def handle (w : Window) : Event → Window
  | .start => w.start
  | .stop => w.stop
  | .frame => w.runFrame.2
  | .timeout => w.timeout.2
  | .press key isRepeat => (w.press key isRepeat).1
  | .release key isRepeat => (w.release key isRepeat).1
  | .loseFocus => w.loseFocus.1
  | .close => w.close

/-- The window after some events, one after the other. -/
def after (w : Window) (events : List Event) : Window :=
  events.foldl handle w

/-- Any event is a frame, or concerns only the keys, the timer and the closing of the window. -/
theorem handle_cases (w : Window) (e : Event) :
    w.handle e = w.runFrame.2 ∨
      ∃ (keys : List KeyEvent) (running closed : Bool),
        w.handle e = { w with keys := w.keys.after keys, running, closed } := by
  cases e with
  | start => exact .inr ⟨[], true, w.closed, rfl⟩
  | stop => exact .inr ⟨[], false, w.closed, rfl⟩
  | frame => exact .inl rfl
  | timeout =>
    rw [handle, timeout]
    split
    · exact .inl rfl
    · exact .inr ⟨[], w.running, w.closed, rfl⟩
  | press key isRepeat =>
    rw [handle, press]
    split_ifs
    · exact .inr ⟨[], false, true, rfl⟩
    · exact .inr ⟨[], w.running, w.closed, rfl⟩
    · exact .inr ⟨[.press key], w.running, w.closed, rfl⟩
  | release key isRepeat =>
    rw [handle, release]
    split_ifs
    · exact .inr ⟨[], w.running, w.closed, rfl⟩
    · exact .inr ⟨[.release key], w.running, w.closed, rfl⟩
  | loseFocus => exact .inr ⟨[.releaseAll], w.running, w.closed, rfl⟩
  | close => exact .inr ⟨[], false, true, rfl⟩

/-! ## Frames -/

/-- The channels of the machine's screen in the configured colors. -/
def picture (w : Window) : List UInt8 :=
  w.machine.screen.colored w.config.lit.channels w.config.dark.channels

/-- The window that shows its machine as it is. -/
def shown (w : Window) : Window :=
  { w with
    display := { w.display with frame := some w.picture, updates := w.display.updates + 1 }
    status := statusText w.machine
    title := titleText w.machine }

/-- A picture always has the size of a frame. -/
theorem refresh_eq (w : Window) : w.refresh = .ok w.shown := by
  have hsize : w.picture.length = Display.frameSize :=
    Screen.length_colored rfl rfl w.machine.screen
  have hset : w.display.setFrame w.picture =
      .ok { w.display with frame := some w.picture, updates := w.display.updates + 1 } :=
    if_pos hsize
  show (w.display.setFrame w.picture >>= fun display =>
    pure { w with display, status := statusText w.machine, title := titleText w.machine }) = _
  rw [hset]
  rfl

section Frames

variable {k : Nat} {m : Machine}

/-- A frame whose steps are all made. -/
theorem runFrame_made (hk : w.config.stepsPerFrame = .ok k)
    (hrun : (Machine.run k w.keys.pressed).on w.machine = (.ok (), m)) :
    w.runFrame = (.ok (), shown { w with machine := m }) := by
  simp only [runFrame, hk, hrun, refresh_eq]

/-- A frame with a fault. -/
theorem runFrame_fault {f : Fault} (hk : w.config.stepsPerFrame = .ok k)
    (hrun : (Machine.run k w.keys.pressed).on w.machine = (.error (.fault f), m)) :
    w.runFrame = (.ok (), (reportFault { w with machine := m } f).shown) := by
  simp only [runFrame, hk, hrun, refresh_eq]

/-- A frame with another failure. -/
theorem runFrame_keyCode {code : Int} (hk : w.config.stepsPerFrame = .ok k)
    (hrun : (Machine.run k w.keys.pressed).on w.machine = (.error (.keyCode code), m)) :
    w.runFrame = (.error (.machine (.keyCode code)), { w with machine := m }) := by
  simp only [runFrame, hk, hrun]

/-- A frame without a number of steps. -/
theorem runFrame_unpaced {cause : PacingError} (hk : w.config.stepsPerFrame = .error cause) :
    w.runFrame = (.error (.pacing cause), w) := by
  simp only [runFrame, hk]

/-- At least one step is made in a frame. -/
theorem stepsPerFrame_pos {c : Config} (h : c.stepsPerFrame = .ok k) : 0 < k := by
  unfold Config.stepsPerFrame at h
  cases hquotient : Pacing.quotient c.stepRate c.frameRate with
  | error cause =>
    rw [hquotient] at h
    cases h
  | ok n =>
    rw [hquotient] at h
    obtain rfl := Except.ok.inj h
    exact Nat.lt_of_lt_of_le Nat.zero_lt_one (Nat.le_max_left 1 n)

/-- **What a frame comes to**, for a machine within its bounds. Its number of steps has no value, or
a key that is none is held; then the window stays as it is. Or all steps are made, or the step after
some that are made meets a fault; then the window shows what has become of the machine. -/
theorem runFrame_cases (h : w.machine.Invariant) :
    (∃ cause, w.config.stepsPerFrame = .error cause ∧
      w.runFrame = (.error (.pacing cause), w)) ∨
    (∃ code ∈ w.keys.pressed, ¬ Keypad.IsCode code ∧
      w.runFrame = (.error (.machine (.keyCode code)), w)) ∨
    ∃ k, w.config.stepsPerFrame = .ok k ∧
      (w.machine.Makes (List.replicate k w.keys.pressed) ∧
          w.runFrame = (.ok (),
            shown { w with machine := w.machine.after (List.replicate k w.keys.pressed) }) ∨
        ∃ j < k, ∃ f, w.machine.Makes (List.replicate j w.keys.pressed) ∧
          (w.machine.after (List.replicate j w.keys.pressed)).refusal w.keys.pressed =
            some (.fault f) ∧
          w.runFrame = (.ok (), (reportFault
            { w with machine := w.machine.after (List.replicate j w.keys.pressed) } f).shown)) := by
  cases hk : w.config.stepsPerFrame with
  | error cause => exact .inl ⟨cause, rfl, runFrame_unpaced hk⟩
  | ok k =>
    refine .inr ?_
    by_cases hcodes : ∀ code ∈ w.keys.pressed, Keypad.IsCode code
    · refine .inr ⟨k, rfl, ?_⟩
      rcases w.machine.run_cases w.keys.pressed k with
        ⟨hmakes, hrun⟩ | ⟨j, hj, e, hmakes, hrefusal, hrun⟩
      · exact .inl ⟨hmakes, runFrame_made hk hrun⟩
      · obtain ⟨f, rfl⟩ := (h.after _).fault_of_refusal hcodes hrefusal
        exact .inr ⟨j, hj, f, hmakes, hrefusal, runFrame_fault hk hrun⟩
    · -- the first step is refused, so the machine is still the same
      obtain ⟨code, hmem, hcode, hrefusal⟩ := Machine.refusal_keyCode (m := w.machine) hcodes
      have hrun := Machine.run_refused hrefusal (stepsPerFrame_pos hk)
      exact .inl ⟨code, hmem, hcode, runFrame_keyCode hk hrun⟩

end Frames

/-- A frame changes neither the configuration nor the keys. -/
theorem runFrame_keeps (w : Window) :
    w.runFrame.2.config = w.config ∧ w.runFrame.2.keys = w.keys := by
  unfold runFrame
  split
  · exact ⟨rfl, rfl⟩
  · simp only [refresh_eq]
    split <;> exact ⟨rfl, rfl⟩

/-! ## After some events -/

/-- What is kept by frames, and by changes that concern only the keys, the timer and the closing of
the window, holds after all events. -/
theorem after_induction {P : Window → Prop} (hframe : ∀ w, P w → P w.runFrame.2)
    (hother : ∀ (w : Window) (keys : List KeyEvent) (running closed : Bool), P w →
      P { w with keys := w.keys.after keys, running, closed })
    (h : P w) (events : List Event) : P (w.after events) := by
  induction events generalizing w with
  | nil => exact h
  | cons e rest ih =>
    refine ih ?_
    rcases handle_cases w e with hw | ⟨keys, running, closed, hw⟩
    · rw [hw]
      exact hframe w h
    · rw [hw]
      exact hother w keys running closed h

/-- The machine is within its bounds, and what is shown is the machine in the colors of the
configuration. -/
structure Settled (c : Config) (w : Window) : Prop where
  config : w.config = c
  bounds : w.machine.Invariant
  frame : w.display.frame = some w.picture
  status : w.status = statusText w.machine
  title : w.title = titleText w.machine

variable {c : Config}

theorem settled_shown (hconfig : w.config = c) (hbounds : w.machine.Invariant) :
    w.shown.Settled c :=
  ⟨hconfig, hbounds, rfl, rfl, rfl⟩

/-- A frame shows the machine again, or has not touched it. -/
theorem Settled.runFrame (h : w.Settled c) : w.runFrame.2.Settled c := by
  rcases runFrame_cases h.bounds with ⟨cause, -, hrun⟩ | ⟨code, -, -, hrun⟩ |
    ⟨k, -, ⟨-, hrun⟩ | ⟨j, -, f, -, -, hrun⟩⟩
  · rw [hrun]
    exact h
  · rw [hrun]
    exact h
  · rw [hrun]
    exact settled_shown h.config (h.bounds.after _)
  · rw [hrun]
    exact settled_shown h.config (h.bounds.after _).note

theorem Settled.after (h : w.Settled c) (events : List Event) : (w.after events).Settled c :=
  after_induction (P := Settled c) (fun _ hw => hw.runFrame)
    (fun _ _ _ _ hw => ⟨hw.config, hw.bounds, hw.frame, hw.status, hw.title⟩) h events

theorem onKeypad_after (h : w.keys.OnKeypad) (events : List Event) :
    (w.after events).keys.OnKeypad :=
  after_induction (P := fun w => w.keys.OnKeypad)
    (fun w hw => (runFrame_keeps w).2.symm ▸ hw) (fun _ keys _ _ hw => hw.after keys) h events

/-- With nothing chosen a window opens on any machine, if the keyboard has the left block. -/
theorem exists_ofMachine? (m : Machine) : ∃ w, ofMachine? Keyboard.leftBlock m {} = .ok w := by
  have hinterval : Config.frameInterval {} = .ok 17 := by decide +kernel
  obtain ⟨keys, hkeys⟩ := KeyState.exists_ofKeymap?_leftBlock
  unfold ofMachine?
  rw [hkeys, hinterval]
  simp only [refresh_eq]
  exact ⟨_, rfl⟩

/-- A window that opens has looked up its keymap, and shows its machine. -/
theorem ofMachine?_eq_ok {keyboard : Keyboard} {m : Machine}
    (h : ofMachine? keyboard m c = .ok w) :
    KeyState.ofKeymap? keyboard c.keymap = .ok w.keys ∧ w.machine = m ∧
      (m.Invariant → w.Settled c) := by
  unfold ofMachine? at h
  cases hkeys : KeyState.ofKeymap? keyboard c.keymap with
  | error cause =>
    rw [hkeys] at h
    cases h
  | ok keys =>
    cases hinterval : c.frameInterval with
    | error cause =>
      rw [hkeys, hinterval] at h
      cases h
    | ok interval =>
      rw [hkeys, hinterval] at h
      simp only [refresh_eq] at h
      obtain rfl := Except.ok.inj h
      exact ⟨rfl, rfl, fun hbounds => settled_shown rfl hbounds⟩

end Window

end Chip8
