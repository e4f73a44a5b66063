import Chip8.Proofs.Building

/-!
# Key bindings

From the keymap of a configuration tree to what a key of the keyboard does.

- `Keyboard.Denotes`, `Keyboard.Knows`: which key a name in any letter case is that of, and whether
  there is one.
- `Keyboard.get?_resolveOnto`: of several names of one key, the last one counts.
- `Keyboard.resolveOnto_unknown`: the first name that no key has is reported.
- `KeyState.press_alone`: what one key does when none is held.
- `Config.ofValue_bindsKeys`: all of it together.
-/

namespace Chip8

open Entries

/-! ## Names of keys -/

namespace Keyboard

variable {k : Keyboard} {name : String} {key : Int} {ν : Type} {names : List (String × ν)}
  {bound bindings : List (Int × ν)}

/-- The key of a name in any letter case: of all rows with this name, the last one counts. -/
def Denotes (k : Keyboard) (name : String) (key : Int) : Prop :=
  ∃ row, IsLast (fun row => UpperCase.ofString row.1 = UpperCase.ofString name) k row ∧ row.2 = key

/-- There is a key of this name in any letter case. -/
def Knows (k : Keyboard) (name : String) : Prop :=
  ∃ row ∈ k, UpperCase.ofString row.1 = UpperCase.ofString name

theorem ofAnyCase?_eq_some : k.ofAnyCase? name = some key ↔ k.Denotes name key := by
  simp only [ofAnyCase?, Option.map_eq_some_iff, Denotes, isLast_iff_find?]

theorem exists_denotes : (∃ key, k.Denotes name key) ↔ k.Knows name := by
  constructor
  · rintro ⟨-, row, hrow, -⟩
    exact ⟨row, hrow.mem, hrow.holds⟩
  · intro h
    obtain ⟨row, hrow⟩ := exists_isLast h
    exact ⟨row.2, row, hrow, rfl⟩

theorem ofAnyCase?_eq_none : k.ofAnyCase? name = none ↔ ¬ k.Knows name := by
  rw [← exists_denotes, Option.eq_none_iff_forall_ne_some]
  simp only [ne_eq, ofAnyCase?_eq_some, not_exists]

/-! ## Looking up a keymap -/

/-- What a key is bound to: the value of the last name that denotes it. -/
theorem get?_resolveOnto (h : k.resolveOnto bound names = .ok bindings) (key : Int) :
    (∀ e, IsLast (fun e => k.Denotes e.1 key) names e →
      get? (· = ·) key bindings = some e.2) ∧
    ((∀ e ∈ names, ¬ k.Denotes e.1 key) →
      get? (· = ·) key bindings = get? (· = ·) key bound) := by
  -- on the names, whatever is bound before them
  induction names generalizing bound with
  | nil =>
    obtain rfl := Except.ok.inj h
    exact ⟨fun e he => (nomatch he.mem), fun _ => rfl⟩
  | cons first rest ih =>
    obtain ⟨name, value⟩ := first
    rw [resolveOnto] at h
    cases hname : k.ofAnyCase? name with
    | none =>
      rw [hname] at h
      cases h
    | some named =>
      rw [hname] at h
      obtain ⟨hlast, hnone⟩ := ih h
      have hdenotes : k.Denotes name key ↔ key = named := by
        rw [← ofAnyCase?_eq_some, hname, Option.some.injEq, eq_comm]
      constructor
      · intro e he
        rcases isLast_cons.1 he with hrest | ⟨rfl, hkey, hrest⟩
        · exact hlast e hrest
        · rw [hnone hrest, get?_put, if_pos (hdenotes.1 hkey)]
      · intro hall
        obtain ⟨hfirst, hrest⟩ := List.forall_mem_cons.1 hall
        rw [hnone hrest, get?_put, if_neg fun hkey => hfirst (hdenotes.2 hkey)]

/-- If no key has some name, the first such name is reported. -/
theorem resolveOnto_unknown (h : ∃ e ∈ names, ¬ k.Knows e.1) (bound : List (Int × ν)) :
    ∃ before e after, names = before ++ e :: after ∧ (∀ b ∈ before, k.Knows b.1) ∧
      ¬ k.Knows e.1 ∧ k.resolveOnto bound names = .error ⟨e.1⟩ := by
  induction names generalizing bound with
  | nil =>
    obtain ⟨e, he, -⟩ := h
    cases he
  | cons first rest ih =>
    obtain ⟨name, value⟩ := first
    rw [resolveOnto]
    cases hname : k.ofAnyCase? name with
    | none =>
      have hnone : ∀ b ∈ ([] : List (String × ν)), k.Knows b.1 := List.forall_mem_nil _
      exact ⟨[], (name, value), rest, rfl, hnone, ofAnyCase?_eq_none.1 hname, rfl⟩
    | some named =>
      have hknown : k.Knows name := exists_denotes.1 ⟨named, ofAnyCase?_eq_some.1 hname⟩
      have hrest : ∃ e ∈ rest, ¬ k.Knows e.1 := by
        obtain ⟨e, he, hunknown⟩ := h
        rcases List.mem_cons.1 he with rfl | he
        · exact absurd hknown hunknown
        · exact ⟨e, he, hunknown⟩
      obtain ⟨before, e, after, rfl, hbefore, hunknown, herror⟩ :=
        ih hrest (put (· = ·) named value bound)
      exact ⟨(name, value) :: before, e, after, rfl, List.forall_mem_cons.2 ⟨hknown, hbefore⟩,
        hunknown, herror⟩

theorem exists_resolve_of_knows (h : ∀ e ∈ names, k.Knows e.1) :
    ∃ bindings, k.resolve names = .ok bindings := by
  refine exists_resolve.2 fun e he => ?_
  obtain ⟨key, hkey⟩ := exists_denotes.2 (h e he)
  exact ⟨key, ofAnyCase?_eq_some.2 hkey⟩

end Keyboard

/-! ## One key -/

namespace KeyState

variable {s : KeyState} {key code : Int}

/-- A bound key, when no other is held. -/
theorem press_alone (hheld : s.held = []) (hcode : s.code? key = some code) :
    (s.press key).2 = true ∧ (s.press key).1.pressed = [code] := by
  rw [press_bound hcode, hheld, if_neg List.not_mem_nil]
  exact ⟨rfl, List.mergeSort_singleton code⟩

end KeyState

/-! ## From the tree to the key -/

namespace Config

variable {v : Value} {c : Config}

/-- **What the keys of a keyboard do under a configuration.** Its keymap is that of the tree on top
of the default one. If no key has some name of it, the first such name is reported. Otherwise a key
that some name denotes gives the code of the last such name, and any other key does nothing. -/
theorem ofValue_bindsKeys (h : ofValue v = .ok c) (k : Keyboard) :
    (∃ t pairs, v = .map t ∧ List.Forall₂ Binds (keymapEntries t) pairs ∧
      IsMerge Keymap.default pairs c.keymap) ∧
    ((∃ e ∈ c.keymap, ¬ k.Knows e.1) → ∃ before e after, c.keymap = before ++ e :: after ∧
      (∀ b ∈ before, k.Knows b.1) ∧ ¬ k.Knows e.1 ∧ k.resolve c.keymap = .error ⟨e.1⟩ ∧
      KeyState.ofKeymap? k c.keymap = .error ⟨e.1⟩) ∧
    ((∀ e ∈ c.keymap, k.Knows e.1) →
      ∃ s, KeyState.ofKeymap? k c.keymap = .ok s ∧ s.pressed = [] ∧ ∀ key,
        (∀ e, IsLast (fun e => k.Denotes e.1 key) c.keymap e →
          (s.press key).2 = true ∧ (s.press key).1.pressed = [e.2]) ∧
        ((∀ e ∈ c.keymap, ¬ k.Denotes e.1 key) →
          s.press key = (s, false) ∧ s.release key = (s, false))) := by
  refine ⟨?merged, ?unknown, ?known⟩
  case merged =>
    cases v with
    | map t =>
      obtain ⟨pairs, hpairs, hput⟩ := keysOf_eq_ok (ofValue_eq_ok.1 h).keymap
      exact ⟨t, pairs, rfl, hpairs, hput ▸ isMerge_putAll (by decide)⟩
    | scalar s => cases h
    | list items => cases h
  case unknown =>
    intro hunknown
    obtain ⟨before, e, after, hsplit, hbefore, he, herror⟩ :=
      Keyboard.resolveOnto_unknown hunknown []
    have hresolve : k.resolve c.keymap = .error ⟨e.1⟩ := herror
    refine ⟨before, e, after, hsplit, hbefore, he, hresolve, ?_⟩
    rw [KeyState.ofKeymap?, hresolve]
    rfl
  case known =>
    intro hknown
    obtain ⟨bindings, hbindings⟩ := Keyboard.exists_resolve_of_knows hknown
    have hstate : KeyState.ofKeymap? k c.keymap = .ok { bindings } := by
      rw [KeyState.ofKeymap?, hbindings]
      rfl
    refine ⟨{ bindings }, hstate, List.mergeSort_nil, fun key => ?_⟩
    obtain ⟨hlast, hnone⟩ := Keyboard.get?_resolveOnto hbindings key
    constructor
    · intro e he
      exact KeyState.press_alone rfl (hlast e he)
    · intro hall
      have hunbound : KeyState.code? { bindings } key = none := hnone hall
      exact ⟨KeyState.press_unbound hunbound, KeyState.release_unbound hunbound⟩

/-- A second name for the key of the default keymap's first name: its code comes later, so it
counts. A keyboard without that name refuses the keymap. -/
theorem ofValue_bindsKeys_alias :
    let v : Value := .map [(.text "keymap", .map [(.text "ex", .scalar (.text "0x9"))])]
    let c : Config := { keymap := Keymap.default ++ [("EX", 9)] }
    let k := Keyboard.leftBlock ++ [("Ex", 0x58)]
    ofValue v = .ok c ∧ KeyState.ofKeymap? Keyboard.leftBlock c.keymap = .error ⟨"EX"⟩ ∧
      ∃ s, KeyState.ofKeymap? k c.keymap = .ok s ∧ (s.press 0x58).1.pressed = [9] ∧
        s.press 0x20 = (s, false) := by
  intro v c k
  have hread : ofValue v = .ok c := rfl
  have hall : ∀ e ∈ c.keymap, (k.ofAnyCase? e.1).isSome := by decide +kernel
  have hknown : ∀ e ∈ c.keymap, k.Knows e.1 := by
    intro e he
    obtain ⟨key, hkey⟩ := Option.isSome_iff_exists.1 (hall e he)
    exact Keyboard.exists_denotes.1 ⟨key, Keyboard.ofAnyCase?_eq_some.1 hkey⟩
  obtain ⟨-, -, hpress⟩ := ofValue_bindsKeys hread k
  obtain ⟨-, hrefused, -⟩ := ofValue_bindsKeys hread Keyboard.leftBlock
  obtain ⟨s, hs, -, hkeys⟩ := hpress hknown
  refine ⟨hread, ?_, s, hs, ?_, ?_⟩
  · have hnone : Keyboard.leftBlock.ofAnyCase? "EX" = none := by decide +kernel
    have honly : ∀ e ∈ c.keymap, Keyboard.leftBlock.ofAnyCase? e.1 = none → e.1 = "EX" := by
      decide +kernel
    obtain ⟨before, e, after, hsplit, -, hunknown, -, herror⟩ :=
      hrefused ⟨("EX", 9), by decide, Keyboard.ofAnyCase?_eq_none.1 hnone⟩
    have he : e ∈ c.keymap := hsplit ▸ List.mem_append_right before List.mem_cons_self
    rw [herror, honly e he (Keyboard.ofAnyCase?_eq_none.2 hunknown)]
  · have hlast : IsLast (fun e => k.Denotes e.1 0x58) c.keymap ("EX", 9) := by
      have hkey : k.ofAnyCase? "EX" = some 0x58 := by decide +kernel
      exact ⟨Keymap.default, [], rfl, Keyboard.ofAnyCase?_eq_some.1 hkey, fun b hb => (nomatch hb)⟩
    exact ((hkeys 0x58).1 _ hlast).2
  · have hother : ∀ e ∈ c.keymap, k.ofAnyCase? e.1 ≠ some 0x20 := by decide +kernel
    exact ((hkeys 0x20).2 fun e he hkey => hother e he (Keyboard.ofAnyCase?_eq_some.2 hkey)).1

end Config

end Chip8
