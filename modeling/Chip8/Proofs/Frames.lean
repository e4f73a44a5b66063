import Chip8.Proofs.Events
import Chip8.Proofs.Reading

/-!
# Frames

A frame is a run of steps with the keys that are held when it begins, cut at the
first fault. After a fault the machine stands before the step that met it, and
all later frames meet the same fault at once.

- `Window.Completes`, `Window.Breaks`: the two ways in which a frame ends.
- `Window.Broken`: a window after a fault; `Broken.breaks`, `Broken.after`: what each further frame
  does, and what all further events leave alone.
- `Window.frame_steps`: every frame of a window on a configuration that was read
  ends in one of the two ways.

That a frame cannot end in a third way needs the configuration: the codes of its
keymap are those of the keypad.
-/

namespace Chip8

namespace Window

/-- All `k` steps of the frame that leads from `w` to `w'` are made. Neither the timer nor the
dialogs change. -/
structure Completes (k : Nat) (w w' : Window) : Prop where
  makes : w.machine.Makes (List.replicate k w.keys.pressed)
  machine : w'.machine = w.machine.after (List.replicate k w.keys.pressed)
  cycles : w'.machine.cycles = w.machine.cycles + k
  running : w'.running = w.running
  dialogs : w'.dialogs = w.dialogs

/-- The first `j` steps of the frame that leads from `w` to `w'` are made, and the next one meets
the fault `f`. The machine is left as those steps have made it, and its program counter is noted;
the timer is stopped, and one dialog tells of the fault. -/
structure Breaks (j : Nat) (f : Fault) (w w' : Window) : Prop where
  makes : w.machine.Makes (List.replicate j w.keys.pressed)
  fails : ((Machine.step w.keys.pressed).on
    (w.machine.after (List.replicate j w.keys.pressed))).1 = .error (.fault f)
  machine : w'.machine = (w.machine.after (List.replicate j w.keys.pressed)).note
    (.faulted (w.machine.after (List.replicate j w.keys.pressed)).registers.counter)
  running : w'.running = false
  dialogs : w'.dialogs = w.dialogs.push ⟨"Machine Fault", "Execution stopped: " ++ f.message⟩

variable {w : Window} {c : Config} {k : Nat} {m : Machine} {f : Fault}

/-- With codes of the keypad only, a frame ends in one of two ways. -/
theorem Settled.frame_ends (h : w.Settled c) (hk : c.stepsPerFrame = .ok k)
    (hkeys : w.keys.OnKeypad) :
    w.runFrame.1 = .ok () ∧
      (Completes k w w.runFrame.2 ∨ ∃ j < k, ∃ f, Breaks j f w w.runFrame.2) := by
  obtain ⟨rfl, hbounds, -, -, -⟩ := h
  rcases runFrame_cases hbounds with ⟨cause, hcause, -⟩ | ⟨code, hmem, hcode, -⟩ |
    ⟨n, hn, ⟨hmakes, hrun⟩ | ⟨j, hj, f, hmakes, hrefusal, hrun⟩⟩
  · rw [hk] at hcause
    cases hcause
  · exact absurd (hkeys.pressed code hmem) hcode
  · obtain rfl := Except.ok.inj (hk.symm.trans hn)
    rw [hrun]
    refine ⟨rfl, .inl ⟨hmakes, rfl, ?_, rfl, rfl⟩⟩
    show (w.machine.after _).cycles = w.machine.cycles + k
    rw [hmakes.cycles, List.length_replicate]
  · obtain rfl := Except.ok.inj (hk.symm.trans hn)
    rw [hrun]
    refine ⟨rfl, .inr ⟨j, hj, f, hmakes, ?_, rfl, rfl, rfl⟩⟩
    rw [Machine.step_refused hrefusal]

/-! ## After a fault -/

/-- The machine of the window is `m`, whatever has been noted since, and the window cannot hold
other keys than those of the keypad. -/
structure Broken (c : Config) (m : Machine) (w : Window) : Prop where
  config : w.config = c
  keys : w.keys.OnKeypad
  machine : ∃ journal, w.machine = { m with journal }

/-- A frame with a machine that can only meet one fault meets it at once. -/
theorem Broken.breaks (h : Broken c m w) (hk : c.stepsPerFrame = .ok k)
    (hf : m.refusal [] = some (.fault f)) :
    w.runFrame.1 = .ok () ∧ Breaks 0 f w w.runFrame.2 := by
  obtain ⟨rfl, hkeys, journal, hmachine⟩ := h
  have hrefusal : w.machine.refusal w.keys.pressed = some (.fault f) := by
    rw [hmachine, ← Machine.refusal_fault hf hkeys.pressed]
    exact Machine.refusal_congr rfl rfl rfl rfl _
  have hrun := runFrame_fault hk (Machine.run_refused hrefusal (stepsPerFrame_pos hk))
  rw [hrun]
  refine ⟨rfl, Machine.makes_nil _, ?_, rfl, rfl, rfl⟩
  show ((Machine.step w.keys.pressed).on w.machine).1 = .error (.fault f)
  rw [Machine.step_refused hrefusal]

/-- Such a machine stays as it is through all events. -/
theorem Broken.after (h : Broken c m w) (hk : c.stepsPerFrame = .ok k)
    (hf : m.refusal [] = some (.fault f)) (events : List Event) : Broken c m (w.after events) := by
  refine after_induction (P := Broken c m) (fun z hz => ?_) (fun z keys _ _ hz => ?_) h events
  · obtain ⟨hconfig, hkeys⟩ := runFrame_keeps z
    obtain ⟨-, hbreaks⟩ := hz.breaks hk hf
    obtain ⟨journal, hmachine⟩ := hz.machine
    refine ⟨hconfig.trans hz.config, hkeys ▸ hz.keys, z.runFrame.2.machine.journal, ?_⟩
    rw [hbreaks.machine]
    show z.machine.note _ = { m with journal := (z.machine.note _).journal }
    rw [hmachine]
    rfl
  · exact ⟨hz.config, hz.keys.after keys, hz.machine⟩

/-- **Frames are runs of steps cut at the first fault.** The window is opened on a reachable machine
and a configuration that was read from a tree, with `k` steps in a frame, and any events have come.
Then a frame does not fail. Either all its `k` steps are made, with the keys held at its beginning,
and neither the timer nor the dialogs change; or the first `j` of them are made and the next one
meets a fault, the timer stops, one dialog tells of the fault, and the program counter of the faulty
instruction is noted. From then on, whatever happens, the machine stays as it is but for what is
noted, and each further frame meets the same fault in its first step. -/
theorem frame_steps {v : Value} (hc : Config.ofValue v = .ok c) (hk : c.stepsPerFrame = .ok k)
    (hm : m.Reachable) {keyboard : Keyboard} {opened : Window}
    (hopened : ofMachine? keyboard m c = .ok opened) (events : List Event) :
    let w := opened.after events
    w.runFrame.1 = .ok () ∧
    (Completes k w w.runFrame.2 ∨
      ∃ j < k, ∃ f, Breaks j f w w.runFrame.2 ∧
        ∀ later : List Event,
          let z := w.runFrame.2.after later
          z.runFrame.1 = .ok () ∧ Breaks 0 f z z.runFrame.2 ∧
            ∃ journal, z.machine = { w.runFrame.2.machine with journal }) := by
  intro w
  obtain ⟨hresolved, rfl, hsettled⟩ := ofMachine?_eq_ok hopened
  have hkeypad : w.keys.OnKeypad :=
    onKeypad_after (KeyState.onKeypad_ofKeymap? hresolved (Config.keymap_codes hc)) events
  have hw : w.Settled c := (hsettled hm.invariant).after events
  obtain ⟨hok, hcompletes | ⟨j, hj, f, hbreaks⟩⟩ := hw.frame_ends hk hkeypad
  · exact ⟨hok, .inl hcompletes⟩
  · -- the machine after the frame stands where the step was refused
    obtain ⟨hconfig, hkeys⟩ := runFrame_keeps w
    have hbroken : Broken c w.runFrame.2.machine w.runFrame.2 :=
      ⟨hconfig.trans hw.config, hkeys ▸ hkeypad, _, rfl⟩
    have hf : w.runFrame.2.machine.refusal [] = some (.fault f) := by
      obtain ⟨hrefusal, -⟩ := Machine.refused (Prod.ext hbreaks.fails rfl)
      have hnone : ∀ code ∈ ([] : List Int), Keypad.IsCode code := fun _ hmem => nomatch hmem
      rw [← Machine.refusal_fault hrefusal hnone, hbreaks.machine]
      exact Machine.refusal_congr rfl rfl rfl rfl []
    refine ⟨hok, .inr ⟨j, hj, f, hbreaks, fun later => ?_⟩⟩
    have hlater := hbroken.after hk hf later
    obtain ⟨hokLater, hbreaksLater⟩ := hlater.breaks hk hf
    exact ⟨hokLater, hbreaksLater, hlater.machine⟩

/-- The program `6001 00EE` returns without a call in its second step. With nothing chosen a frame
has eight steps, so the first frame breaks and all later ones do. -/
theorem frame_steps_bareReturn :
    ∃ start opened, Config.ofValue (.map []) = .ok {} ∧ Config.stepsPerFrame {} = .ok 8 ∧
      Machine.ofProgram? [0x60, 0x01, 0x00, 0xEE] {} (.cycle #[]) #[] = .ok start ∧
      ofMachine? Keyboard.leftBlock start {} = .ok opened ∧
      let w := opened.after [.start]
      w.runFrame.1 = .ok () ∧ ∃ j < 8, ∃ f, Breaks j f w w.runFrame.2 ∧
        let z := w.runFrame.2.after [.press 0x51 false, .start]
        z.runFrame.1 = .ok () ∧ Breaks 0 f z z.runFrame.2 := by
  have hconfig : Config.ofValue (.map []) = .ok {} := rfl
  have hsteps : Config.stepsPerFrame {} = .ok 8 := by decide +kernel
  let start := Machine.fresh [0x60, 0x01, 0x00, 0xEE] {} (.cycle #[]) #[]
  have hstart : Machine.ofProgram? [0x60, 0x01, 0x00, 0xEE] {} (.cycle #[]) #[] = .ok start :=
    Machine.ofProgram?_fits (by decide)
  have hreturn : ¬ start.Makes (List.replicate 8 []) := by
    unfold Machine.Makes
    decide +kernel
  clear_value start
  obtain ⟨opened, hopened⟩ := exists_ofMachine? start
  refine ⟨start, opened, hconfig, hsteps, hstart, hopened, ?_⟩
  obtain ⟨hok, hends⟩ := frame_steps hconfig hsteps (.fresh hstart) hopened [.start]
  obtain ⟨hresolved, hmachine, -⟩ := ofMachine?_eq_ok hopened
  have hheld : opened.keys.pressed = [] := by
    obtain ⟨-, hnone⟩ := KeyState.ofKeymap?_eq_ok hresolved
    rw [KeyState.pressed, hnone, List.mergeSort_nil]
  rcases hends with hcompletes | ⟨j, hj, f, hbreaks, hlater⟩
  · have hmakes : opened.machine.Makes (List.replicate 8 opened.keys.pressed) := hcompletes.makes
    rw [hheld, hmachine] at hmakes
    exact absurd hmakes hreturn
  · obtain ⟨hokLater, hbreaksLater, -⟩ := hlater [.press 0x51 false, .start]
    exact ⟨hok, j, hj, f, hbreaks, hokLater, hbreaksLater⟩

end Window

end Chip8
