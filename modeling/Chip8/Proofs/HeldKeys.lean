import Chip8.KeyState
import Mathlib.Data.List.Induction

/-!
# Which codes are held

What a key state shows after any events at the keyboard.

- `KeyEvent.Since`: something has begun and nothing has ended it since.
- `KeyEvent.Down`: a key is down, as its own events and the releases of all keys
  tell.
- `KeyState.after`: the key state after some events.
- `KeyState.mem_held_after`: a code is held if the latest event of its keys is a
  press.
- `KeyState.pressed_after`: how that compares with the keys that are down.

Codes are remembered and not keys. Where two keys have one code, the first of
them to go up releases the code, though the other one is still down; a code of
only one key is held exactly while that key is down.
-/

namespace Chip8

/-- What happens at the keyboard. -/
inductive KeyEvent where
  | press (key : Int)
  | release (key : Int)
  | releaseAll
  deriving DecidableEq, Repr

namespace KeyEvent

variable {starts stops starts' stops' : KeyEvent → Prop} {events : List KeyEvent} {e : KeyEvent}

/-- One of the events has started something, and none behind it has stopped it. -/
def Since (starts stops : KeyEvent → Prop) (events : List KeyEvent) : Prop :=
  ∃ earlier e later, events = earlier ++ e :: later ∧ starts e ∧ ∀ e' ∈ later, ¬ stops e'

/-- The key has gone down, and neither it alone nor all keys have gone up since. -/
def Down (key : Int) : List KeyEvent → Prop :=
  Since (· = press key) fun e => e = release key ∨ e = releaseAll

theorem not_since_nil : ¬ Since starts stops [] := by
  rintro ⟨earlier, e, later, heq, -⟩
  cases earlier <;> cases heq

/-- The latest event decides, unless it neither starts nor stops anything. -/
theorem since_concat :
    Since starts stops (events ++ [e]) ↔ starts e ∨ Since starts stops events ∧ ¬ stops e := by
  constructor
  · rintro ⟨earlier, first, later, heq, hstarts, hlater⟩
    rcases List.eq_nil_or_concat later with rfl | ⟨rest, last, rfl⟩
    · obtain ⟨-, hlast⟩ := List.append_inj' heq rfl
      obtain rfl := List.singleton_inj.1 hlast
      exact .inl hstarts
    · rw [List.concat_eq_append, ← List.cons_append, ← List.append_assoc] at heq
      rw [List.concat_eq_append] at hlater
      obtain ⟨hevents, hlast⟩ := List.append_inj' heq rfl
      obtain rfl := List.singleton_inj.1 hlast
      refine .inr ⟨⟨earlier, first, rest, hevents, hstarts, fun e' he' => ?_⟩, ?_⟩
      · exact hlater e' (List.mem_append_left _ he')
      · exact hlater e (List.mem_append_right _ (List.mem_singleton_self e))
  · rintro (hstarts | ⟨⟨earlier, first, later, rfl, hstarts, hlater⟩, hstops⟩)
    · exact ⟨events, e, [], rfl, hstarts, fun e' he' => nomatch he'⟩
    · refine ⟨earlier, first, later ++ [e], by simp, hstarts, fun e' he' => ?_⟩
      rcases List.mem_append.1 he' with hold | hnew
      · exact hlater e' hold
      · rw [List.mem_singleton.1 hnew]
        exact hstops

/-- What starts more and stops less goes on for longer. -/
theorem Since.mono (h : Since starts stops events) (hstarts : ∀ e, starts e → starts' e)
    (hstops : ∀ e, stops' e → stops e) : Since starts' stops' events := by
  obtain ⟨earlier, e, later, heq, hstart, hlater⟩ := h
  exact ⟨earlier, e, later, heq, hstarts e hstart, fun e' he' hs => hlater e' he' (hstops e' hs)⟩

end KeyEvent

namespace KeyState

open KeyEvent

variable {s : KeyState} {code key : Int} {events : List KeyEvent}

/-- The key state after an event. -/
def handle (s : KeyState) : KeyEvent → KeyState
  | .press key => (s.press key).1
  | .release key => (s.release key).1
  | .releaseAll => s.releaseAll

/-- The key state after some events, one after the other. -/
def after (s : KeyState) (events : List KeyEvent) : KeyState :=
  events.foldl handle s

/-- A key with this code goes down. -/
def Presses (s : KeyState) (code : Int) : KeyEvent → Prop
  | .press key => s.code? key = some code
  | _ => False

/-- A key with this code goes up, or all keys do. -/
def Releases (s : KeyState) (code : Int) : KeyEvent → Prop
  | .press _ => False
  | .release key => s.code? key = some code
  | .releaseAll => True

/-- A key without a code changes nothing. -/
theorem press_unbound (h : s.code? key = none) : s.press key = (s, false) := by
  rw [press, h]

theorem release_unbound (h : s.code? key = none) : s.release key = (s, false) := by
  rw [release, h]

theorem press_bound (h : s.code? key = some code) :
    s.press key = (if code ∈ s.held then s else { s with held := code :: s.held }, true) := by
  rw [press, h]
  simp only [List.contains_iff_mem]

theorem release_bound (h : s.code? key = some code) :
    s.release key = ({ s with held := s.held.filter (· ≠ code) }, true) := by
  rw [release, h]

theorem after_append (s : KeyState) (first later : List KeyEvent) :
    s.after (first ++ later) = (s.after first).after later :=
  List.foldl_append

/-- No event changes which codes the keys have. -/
theorem code?_handle (s : KeyState) (e : KeyEvent) (key : Int) :
    (s.handle e).code? key = s.code? key := by
  cases e with
  | press pressed =>
    cases hcode : s.code? pressed with
    | none => rw [handle, press_unbound hcode]
    | some code =>
      rw [handle, press_bound hcode]
      split_ifs <;> rfl
  | release released =>
    cases hcode : s.code? released with
    | none => rw [handle, release_unbound hcode]
    | some code =>
      rw [handle, release_bound hcode]
      rfl
  | releaseAll => rfl

theorem code?_after (s : KeyState) (events : List KeyEvent) (key : Int) :
    (s.after events).code? key = s.code? key := by
  induction events generalizing s with
  | nil => rfl
  | cons e rest ih => exact (ih _).trans (code?_handle s e key)

theorem presses_after (s : KeyState) (events : List KeyEvent) (code : Int) :
    (s.after events).Presses code = s.Presses code := by
  funext e
  cases e <;> simp only [Presses, code?_after]

theorem releases_after (s : KeyState) (events : List KeyEvent) (code : Int) :
    (s.after events).Releases code = s.Releases code := by
  funext e
  cases e <;> simp only [Releases, code?_after]

/-! ## Codes -/

/-- What one event does to one code. -/
theorem mem_held_handle (s : KeyState) (code : Int) (e : KeyEvent) :
    code ∈ (s.handle e).held ↔ s.Presses code e ∨ code ∈ s.held ∧ ¬ s.Releases code e := by
  cases e with
  | press key =>
    simp only [handle, Presses, Releases, not_false_eq_true, and_true]
    cases hcode : s.code? key with
    | none => simp [press_unbound hcode]
    | some c =>
      rw [press_bound hcode, Option.some.injEq]
      split_ifs with hheld
      · exact ⟨.inr, fun h => h.elim (fun heq => heq ▸ hheld) id⟩
      · rw [List.mem_cons, eq_comm]
  | release key =>
    simp only [handle, Presses, Releases, false_or]
    cases hcode : s.code? key with
    | none => simp [release_unbound hcode]
    | some c =>
      rw [release_bound hcode, List.mem_filter, decide_eq_true_iff, Option.some.injEq]
      exact and_congr_right' (not_congr eq_comm)
  | releaseAll => simp [handle, releaseAll, Presses, Releases]

/-- **A code is held since the latest press of a key with it**, unless such a key has been released
since, the same one or another. -/
theorem mem_held_after (h : s.held = []) (code : Int) (events : List KeyEvent) :
    code ∈ (s.after events).held ↔ Since (s.Presses code) (s.Releases code) events := by
  -- from the end, as the latest event decides
  induction events using List.reverseRecOn with
  | nil =>
    have hnone : code ∉ (s.after []).held := by
      show code ∉ s.held
      rw [h]
      exact List.not_mem_nil
    exact iff_of_false hnone not_since_nil
  | append_singleton events e ih =>
    rw [after_append, since_concat, ← ih, ← presses_after s events, ← releases_after s events]
    exact mem_held_handle (s.after events) code e

/-- No code is there twice. -/
theorem nodup_held_handle (h : s.held.Nodup) (e : KeyEvent) : (s.handle e).held.Nodup := by
  cases e with
  | press key =>
    cases hcode : s.code? key with
    | none => rwa [handle, press_unbound hcode]
    | some code =>
      rw [handle, press_bound hcode]
      split_ifs with hheld
      · exact h
      · exact List.nodup_cons.2 ⟨hheld, h⟩
  | release key =>
    cases hcode : s.code? key with
    | none => rwa [handle, release_unbound hcode]
    | some code =>
      rw [handle, release_bound hcode]
      exact h.filter _
  | releaseAll => exact List.nodup_nil

theorem nodup_held_after (h : s.held.Nodup) (events : List KeyEvent) :
    (s.after events).held.Nodup := by
  induction events generalizing s with
  | nil => exact h
  | cons e rest ih => exact ih (nodup_held_handle h e)

theorem mem_pressed : code ∈ s.pressed ↔ code ∈ s.held :=
  List.mem_mergeSort

/-- The codes are shown in order, each one once. -/
theorem pairwise_pressed (h : s.held.Nodup) : s.pressed.Pairwise (· < ·) := by
  have htrans : ∀ a b c : Int, decide (a ≤ b) → decide (b ≤ c) → decide (a ≤ c) := by
    simp only [decide_eq_true_iff]
    exact fun a b c => Int.le_trans
  have htotal : ∀ a b : Int, decide (a ≤ b) || decide (b ≤ a) := by
    simp only [Bool.or_eq_true, decide_eq_true_iff]
    exact Int.le_total
  have hle : s.pressed.Pairwise fun a b => decide (a ≤ b) = true :=
    List.pairwise_mergeSort htrans htotal s.held
  have hne : s.pressed.Pairwise (· ≠ ·) := (List.mergeSort_perm s.held _).nodup_iff.2 h
  exact (hle.and hne).imp fun both =>
    Int.lt_iff_le_and_ne.2 ⟨of_decide_eq_true both.1, both.2⟩

/-! ## Keys -/

/-- A keymap that was looked up has given the bindings, and nothing is held. -/
theorem ofKeymap?_eq_ok {keyboard : Keyboard} {keymap : Keymap}
    (h : ofKeymap? keyboard keymap = .ok s) :
    keyboard.resolve keymap = .ok s.bindings ∧ s.held = [] := by
  unfold ofKeymap? at h
  cases hbindings : keyboard.resolve keymap with
  | error e =>
    rw [hbindings] at h
    cases h
  | ok bindings =>
    rw [hbindings] at h
    obtain rfl := Except.ok.inj h
    exact ⟨rfl, rfl⟩

/-- A code is shown only while one of its keys is down. -/
theorem exists_down (h : Since (s.Presses code) (s.Releases code) events) :
    ∃ key, s.code? key = some code ∧ Down key events := by
  obtain ⟨earlier, e, later, heq, hpress, hlater⟩ := h
  cases e with
  | press key =>
    refine ⟨key, hpress, earlier, .press key, later, heq, rfl, fun e' he' hstops => ?_⟩
    refine hlater e' he' ?_
    rcases hstops with rfl | rfl
    · exact hpress
    · exact trivial
  | release key => exact hpress.elim
  | releaseAll => exact hpress.elim

/-- While the only key of a code is down, the code is shown. -/
theorem since_of_down (hcode : s.code? key = some code)
    (honly : ∀ other, s.code? other = some code → other = key) (h : Down key events) :
    Since (s.Presses code) (s.Releases code) events := by
  refine h.mono ?_ ?_
  · rintro e rfl
    exact hcode
  · rintro (other | other | -) hreleases
    · exact hreleases.elim
    · exact .inl (congrArg KeyEvent.release (honly other hreleases))
    · exact .inr rfl

/-- **Which codes are held.** A keymap is resolved and some events have come. Then the pressed
codes stand in order, each one once. A code is among them exactly if a key with this code has gone
down and no key with this code has gone up since, nor all keys. So at least one of its keys is
down, and a code of only one key is pressed exactly while this key is down. Keys without a code
change nothing. -/
theorem pressed_after {keyboard : Keyboard} {keymap : Keymap}
    (h : ofKeymap? keyboard keymap = .ok s) (events : List KeyEvent) :
    (s.after events).pressed.Pairwise (· < ·) ∧
    (∀ code, (code ∈ (s.after events).pressed ↔
        Since (s.Presses code) (s.Releases code) events) ∧
      (code ∈ (s.after events).pressed → ∃ key, s.code? key = some code ∧ Down key events) ∧
      ∀ key, s.code? key = some code → (∀ other, s.code? other = some code → other = key) →
        (code ∈ (s.after events).pressed ↔ Down key events)) ∧
    ∀ key, s.code? key = none →
      (s.after events).press key = (s.after events, false) ∧
      (s.after events).release key = (s.after events, false) := by
  obtain ⟨-, hheld⟩ := ofKeymap?_eq_ok h
  have hpressed : ∀ code, code ∈ (s.after events).pressed ↔
      Since (s.Presses code) (s.Releases code) events := fun code =>
    mem_pressed.trans (mem_held_after hheld code events)
  refine ⟨?_, fun code => ⟨hpressed code, ?_, fun key hcode honly => ?_⟩, fun key hkey => ?_⟩
  · exact pairwise_pressed (nodup_held_after (hheld ▸ List.nodup_nil) events)
  · exact fun hmem => exists_down ((hpressed code).1 hmem)
  · rw [hpressed code]
    refine ⟨fun hsince => ?_, since_of_down hcode honly⟩
    obtain ⟨other, hother, hdown⟩ := exists_down hsince
    exact honly other hother ▸ hdown
  · rw [← code?_after s events] at hkey
    exact ⟨press_unbound hkey, release_unbound hkey⟩

/-- Two keys for the code 10, as on keyboards that have Z and Y exchanged, and one for the code 0. -/
theorem ofKeymap?_threeKeys :
    ofKeymap? Keyboard.standard [("Z", 10), ("X", 0), ("Y", 10)] =
      .ok { bindings := [(0x5A, 10), (0x58, 0), (0x59, 10)] } := by
  obtain ⟨hz, hx, hy⟩ : Keyboard.standard.ofAnyCase? "Z" = some 0x5A ∧
      Keyboard.standard.ofAnyCase? "X" = some 0x58 ∧
      Keyboard.standard.ofAnyCase? "Y" = some 0x59 := by decide +kernel
  simp only [ofKeymap?, Keyboard.resolve, Keyboard.resolveOnto, hz, hx, hy]
  rfl

/-- The key X alone has the code 0, so this code is held while the key is down. -/
theorem pressed_after_threeKeys :
    ∃ s, ofKeymap? Keyboard.standard [("Z", 10), ("X", 0), ("Y", 10)] = .ok s ∧
      let m := s.after [.press 0x5A, .press 0x58, .press 0x59, .release 0x5A]
      m.pressed.Pairwise (· < ·) ∧ 0 ∈ m.pressed ∧ m.press 0x41 = (m, false) := by
  obtain ⟨hsorted, hcodes, hunbound⟩ := pressed_after ofKeymap?_threeKeys
    [.press 0x5A, .press 0x58, .press 0x59, .release 0x5A]
  have hdown : Down 0x58 [.press 0x5A, .press 0x58, .press 0x59, .release 0x5A] :=
    ⟨[.press 0x5A], .press 0x58, _, rfl, rfl, by decide⟩
  obtain ⟨-, -, hexact⟩ := hcodes 0
  refine ⟨_, ofKeymap?_threeKeys, hsorted, (hexact 0x58 rfl ?_).2 hdown, (hunbound 0x41 rfl).1⟩
  intro other hother
  simp only [code?, Entries.get?, List.find?] at hother
  grind

/-- Two keys with one code are down. One of them goes up, and its code is no longer held, though
the other one is still down. -/
theorem shared_code_released :
    ∃ s, ofKeymap? Keyboard.standard [("Z", 10), ("X", 0), ("Y", 10)] = .ok s ∧
      s.code? 0x59 = some 10 ∧
      Down 0x59 [.press 0x5A, .press 0x59, .release 0x5A] ∧
      10 ∉ (s.after [.press 0x5A, .press 0x59, .release 0x5A]).pressed := by
  refine ⟨_, ofKeymap?_threeKeys, rfl, ⟨[.press 0x5A], .press 0x59, _, rfl, rfl, ?_⟩, ?_⟩
  · decide
  · rw [mem_pressed]
    decide

end KeyState

end Chip8
