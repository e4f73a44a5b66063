import Chip8.Config.Load
import Chip8.Keypad
import Mathlib.Data.List.Find
import Mathlib.Tactic.SplitIfs

/-!
# Configurations read and refused

What is known of a configuration that was read from a tree, and of a tree that
was refused.

- `ConfigError.kind`: what a host tells refusals apart by.
- `Config.ByValue`: a reading that is refused, if at all, for what the tree says.
- `Config.beforeKeys`: what is read before the keys.
- `Config.ofValue_refusal`: exactly which trees are refused for another reason.
- `Config.keymap_codes`: the keys of a configuration have codes of the keypad.

Every reader checks the kind of its tree before it uses it, but for one: the
keymap is gone over whatever it is, as long as it counts as something.
-/

namespace Chip8

/-- What a host tells refusals of a tree apart by. -/
inductive ConfigError.Kind where
  /-- The tree says what no configuration says. -/
  | value
  /-- The tree was asked for something that trees of its kind do not have. -/
  | attribute
  deriving DecidableEq, Repr

/-- The kind of a refusal. -/
def ConfigError.kind : ConfigError → Kind
  | keymap _ => .attribute
  | _ => .value

/-- That a tree cannot be shown is a refusal for its value, too. -/
theorem ConfigError.kind_showing {cause : ConfigError} (h : cause.kind = .value) (v : Value) :
    (showing v cause).kind = .value := by
  unfold showing
  split_ifs
  · exact h
  · rfl

namespace Config

/-! ## Refusals for the value -/

/-- What was read is refused, if at all, for what the tree says. -/
def ByValue {α : Type} (r : Except ConfigError α) : Prop :=
  ∀ e, r = .error e → e.kind = .value

section ByValue

variable {α β : Type}

theorem byValue_ok (a : α) : ByValue (.ok a) :=
  fun _ h => nomatch h

theorem byValue_error {e : ConfigError} (h : e.kind = .value) :
    ByValue (.error e : Except ConfigError α) := by
  rintro _ ⟨⟩
  exact h

/-- Readings one after the other. -/
theorem ByValue.bind {r : Except ConfigError α} {f : α → Except ConfigError β} (hr : ByValue r)
    (hf : ∀ a, ByValue (f a)) : ByValue (r >>= f) := by
  cases r with
  | error e => exact byValue_error (hr e rfl)
  | ok a => exact hf a

theorem byValue_mapM {read : Value → Except ConfigError α} (h : ∀ v, ByValue (read v))
    (items : List Value) : ByValue (items.mapM read) := by
  induction items with
  | nil => exact byValue_ok []
  | cons v rest ih =>
    rw [List.mapM_cons]
    exact (h v).bind fun a => ih.bind fun as => byValue_ok (a :: as)

end ByValue

theorem byValue_integer (v : Value) : ByValue (integer v) := by
  have hother : ∀ w : Value, ByValue (.error (.showing w (.notInteger w)) :
      Except ConfigError Int) := fun w => byValue_error (ConfigError.kind_showing rfl w)
  cases v with
  | scalar s =>
    cases s with
    | int n => exact byValue_ok n
    | text s =>
      show ByValue ((Numeral.read s).mapError .numeral)
      cases Numeral.read s with
      | error cause => exact byValue_error (e := .numeral cause) rfl
      | ok n => exact byValue_ok n
    | null => exact hother _
    | bool b => exact hother _
    | float x => exact hother _
  | list items => exact hother _
  | map entries => exact hother _

theorem byValue_positive (t : Tree) (name : String) (default : Int) :
    ByValue (positive t name default) := by
  unfold positive
  cases named? name t with
  | none => exact byValue_ok default
  | some v =>
    refine (byValue_integer v).bind fun n => ?_
    split_ifs
    · exact byValue_ok n
    · exact byValue_error (ConfigError.kind_showing rfl _)

theorem byValue_seedOf (t : Tree) : ByValue (seedOf t) := by
  unfold seedOf
  split
  · exact byValue_ok none
  · exact byValue_ok none
  · next v _ _ => exact (byValue_integer v).bind fun n => byValue_ok (some n)

theorem byValue_levelOf (t : Tree) (default : Level) : ByValue (levelOf t default) := by
  unfold levelOf
  cases named? "log_level" t with
  | none => exact byValue_ok default
  | some v =>
    dsimp only
    cases Level.ofName? (UpperCase.ofString v.text) with
    | some level => exact byValue_ok level
    | none => exact byValue_error (ConfigError.kind_showing rfl v)

theorem byValue_color (v : Value) : ByValue (color v) := by
  cases v with
  | list items =>
    refine (byValue_mapM byValue_integer items).bind fun channels => ?_
    dsimp only
    split
    · exact byValue_ok _
    · exact byValue_error (ConfigError.kind_showing rfl _)
  | scalar s => exact byValue_error (ConfigError.kind_showing rfl _)
  | map entries => exact byValue_error (ConfigError.kind_showing rfl _)

theorem byValue_colorOf (t : Tree) (name : String) (truth : Bool) (default : Color) :
    ByValue (colorOf t name truth default) := by
  unfold colorOf
  split
  · exact byValue_ok default
  · next v _ => exact byValue_color v

theorem byValue_colorsOf (t : Tree) (lit dark : Color) : ByValue (colorsOf t lit dark) := by
  unfold colorsOf
  cases named? "colors" t with
  | none => exact byValue_ok (lit, dark)
  | some v =>
    by_cases hnothing : v.isNothing = true
    · simp only [hnothing]
      exact byValue_ok (lit, dark)
    · simp only [hnothing]
      cases v with
      | map colors =>
        refine (byValue_colorOf colors "on" true lit).bind fun on => ?_
        exact (byValue_colorOf colors "off" false dark).bind fun off => byValue_ok (on, off)
      | scalar s => exact byValue_error rfl
      | list items => exact byValue_error rfl

theorem byValue_dialectOf (t : Tree) (default : Bool) : ByValue (dialectOf t default) := by
  unfold dialectOf
  split
  · exact byValue_ok default
  · next b _ => exact byValue_ok b
  · next v _ _ => exact byValue_error (ConfigError.kind_showing rfl v)

theorem byValue_bindAll (keys : Keymap) (t : Tree) : ByValue (bindAll keys t) := by
  induction t generalizing keys with
  | nil => exact byValue_ok keys
  | cons entry rest ih =>
    obtain ⟨key, v⟩ := entry
    refine (byValue_integer v).bind fun code => ?_
    split_ifs
    · exact byValue_error rfl
    · exact ih _
    · exact byValue_error (ConfigError.kind_showing rfl _)

/-! ## The keymap -/

/-- A tree that counts as something and is no mapping. -/
def Unmapped (v : Value) : Prop :=
  v.isNothing = false ∧ ∀ entries, v ≠ .map entries

/-- A keymap without entries is not refused for its value. -/
theorem keysOf_unmapped {t : Tree} {v : Value} (hnamed : named? "keymap" t = some v)
    (hv : Unmapped v) (keys : Keymap) : keysOf t keys = .error (.keymap v.kind) := by
  obtain ⟨hsome, hother⟩ := hv
  simp only [keysOf, hnamed, hsome]
  cases v with
  | map entries => exact absurd rfl (hother entries)
  | scalar s => rfl
  | list items => rfl

/-- Any other keymap is. -/
theorem byValue_keysOf {t : Tree} (h : ∀ v, named? "keymap" t = some v → ¬ Unmapped v)
    (keys : Keymap) : ByValue (keysOf t keys) := by
  unfold keysOf
  cases hnamed : named? "keymap" t with
  | none => exact byValue_ok keys
  | some v =>
    by_cases hnothing : v.isNothing = true
    · simp only [hnothing]
      exact byValue_ok keys
    · have hmapped : ∃ entries, v = .map entries := by
        refine Classical.byContradiction fun hnone => h v hnamed ⟨?_, fun entries heq => ?_⟩
        · exact Bool.eq_false_iff.2 hnothing
        · exact hnone ⟨entries, heq⟩
      obtain ⟨entries, rfl⟩ := hmapped
      simp only [hnothing]
      exact byValue_bindAll keys entries

/-! ## Whole trees -/

/-- What is read of a mapping before its keymap. -/
def beforeKeys (t : Tree) : Except ConfigError Config := do
  let default : Config := {}
  let stepRate ← positive t "step_rate" default.stepRate
  let frameRate ← positive t "frame_rate" default.frameRate
  let scale ← positive t "scale" default.scale
  let seed ← seedOf t
  let level ← levelOf t default.level
  let (lit, dark) ← colorsOf t default.lit default.dark
  return { stepRate, frameRate, scale, seed, level, lit, dark }

theorem byValue_beforeKeys (t : Tree) : ByValue (beforeKeys t) := by
  refine (byValue_positive t _ _).bind fun stepRate => ?_
  refine (byValue_positive t _ _).bind fun frameRate => ?_
  refine (byValue_positive t _ _).bind fun scale => ?_
  refine (byValue_seedOf t).bind fun seed => ?_
  refine (byValue_levelOf t _).bind fun level => ?_
  exact (byValue_colorsOf t _ _).bind fun colors => byValue_ok _

/-- A mapping is read in three parts. -/
theorem ofValue_map (t : Tree) :
    ofValue (.map t) = do
      let c ← beforeKeys t
      let keymap ← keysOf t .default
      let fullDialect ← dialectOf t false
      return { c with keymap, fullDialect } := by
  simp only [ofValue, beforeKeys, bind_assoc, pure_bind]

/-- The entries of a mapping but for those of a name. -/
def without (name : String) (t : Tree) : Tree :=
  t.filter fun entry => entry.1 ≠ .text name

theorem same_text {key : Scalar} {name : String} :
    key.same (.text name) = true ↔ key = .text name := by
  cases key <;> simp [Scalar.same, Scalar.asInt?]

theorem named?_eq (name : String) (t : Tree) :
    named? name t = (t.find? fun entry => entry.1 = .text name).map (·.2) := by
  refine congrArg (Option.map Prod.snd) (List.find?_congr fun entry _ => ?_)
  exact Bool.eq_iff_iff.2 (same_text.trans decide_eq_true_iff.symm)

theorem named?_without_self (name : String) (t : Tree) : named? name (without name t) = none := by
  rw [named?_eq, Option.map_eq_none_iff, List.find?_eq_none]
  intro entry hentry
  simpa using (List.mem_filter.1 hentry).2

theorem named?_without_other {name other : String} (h : other ≠ name) (t : Tree) :
    named? other (without name t) = named? other t := by
  rw [named?_eq, named?_eq, without, List.find?_filter]
  refine congrArg (Option.map Prod.snd) (List.find?_congr fun entry _ => ?_)
  have hkept : entry.1 = .text other → entry.1 ≠ .text name := by
    rintro heq
    rw [heq]
    exact fun hname => h (Scalar.text.inj hname)
  simpa using hkept

/-- What comes before the keys does not depend on the entry of another name. -/
theorem beforeKeys_without {name : String}
    (h : name ∉ ["step_rate", "frame_rate", "scale", "seed", "log_level", "colors"]) (t : Tree) :
    beforeKeys (without name t) = beforeKeys t := by
  simp only [List.mem_cons, List.not_mem_nil, or_false, not_or] at h
  obtain ⟨hstep, hframe, hscale, hseed, hlevel, hcolors⟩ := h
  simp only [beforeKeys, positive, seedOf, levelOf, colorsOf,
    named?_without_other (Ne.symm hstep), named?_without_other (Ne.symm hframe),
    named?_without_other (Ne.symm hscale), named?_without_other (Ne.symm hseed),
    named?_without_other (Ne.symm hlevel), named?_without_other (Ne.symm hcolors)]

/-- Without a keymap and a choice of the dialect there is nothing more to read. -/
theorem ofValue_without (t : Tree) :
    (∃ c, ofValue (.map (without "quirks" (without "keymap" t))) = .ok c) ↔
      ∃ c, beforeKeys t = .ok c := by
  have hkeymap : keysOf (without "quirks" (without "keymap" t)) .default = .ok .default := by
    rw [keysOf, named?_without_other (by decide), named?_without_self]
  have hquirks : dialectOf (without "quirks" (without "keymap" t)) false = .ok false := by
    rw [dialectOf, named?_without_self]
  rw [ofValue_map, beforeKeys_without (by decide), beforeKeys_without (by decide), hkeymap, hquirks]
  cases beforeKeys t with
  | error e => exact ⟨fun ⟨_, h⟩ => (nomatch h), fun ⟨_, h⟩ => (nomatch h)⟩
  | ok c => exact ⟨fun _ => ⟨c, rfl⟩, fun _ => ⟨_, rfl⟩⟩

/-- **How a tree is refused.** A tree that is no configuration is refused for its value, with one
exception: the tree is a mapping whose keymap counts as something and is no mapping. Such a tree is
always refused, and with an attribute error exactly if all its other entries that are read before
the keymap are well formed. -/
theorem ofValue_refusal (v : Value) :
    (∀ e, ofValue v = .error e → e.kind = .value ∨
      ∃ t w, v = .map t ∧ named? "keymap" t = some w ∧ Unmapped w ∧ e = .keymap w.kind) ∧
    ∀ t w, v = .map t → named? "keymap" t = some w → Unmapped w →
      (∃ e, ofValue v = .error e) ∧
      ((∃ e, ofValue v = .error e ∧ e.kind = .attribute) ↔
        ∃ c, ofValue (.map (without "quirks" (without "keymap" t))) = .ok c) := by
  constructor
  · intro e he
    cases v with
    | scalar s => exact .inl (byValue_error rfl e he)
    | list items => exact .inl (byValue_error rfl e he)
    | map t =>
      by_cases hkeymap : ∃ w, named? "keymap" t = some w ∧ Unmapped w
      · obtain ⟨w, hnamed, hw⟩ := hkeymap
        rw [ofValue_map, keysOf_unmapped hnamed hw] at he
        cases hbefore : beforeKeys t with
        | error cause =>
          rw [hbefore] at he
          obtain rfl := Except.error.inj he
          exact .inl (byValue_beforeKeys t _ hbefore)
        | ok c =>
          rw [hbefore] at he
          exact .inr ⟨t, w, rfl, hnamed, hw, (Except.error.inj he).symm⟩
      · refine .inl ?_
        rw [ofValue_map] at he
        refine ByValue.bind (byValue_beforeKeys t) (fun c => ?_) e he
        refine (byValue_keysOf (fun w hnamed hw => hkeymap ⟨w, hnamed, hw⟩) _).bind fun keymap => ?_
        exact (byValue_dialectOf t false).bind fun full => byValue_ok _
  · rintro t w rfl hnamed hw
    rw [ofValue_without, ofValue_map, keysOf_unmapped hnamed hw]
    cases hbefore : beforeKeys t with
    | error cause =>
      refine ⟨⟨cause, rfl⟩, fun ⟨e, he, hkind⟩ => ?_, fun ⟨c, hc⟩ => (nomatch hc)⟩
      obtain rfl := Except.error.inj he
      rw [byValue_beforeKeys t _ hbefore] at hkind
      cases hkind
    | ok c => exact ⟨⟨_, rfl⟩, fun _ => ⟨c, rfl⟩, fun _ => ⟨_, rfl, rfl⟩⟩

/-- A keymap that is a text, in a mapping that chooses a scale besides. -/
theorem ofValue_refusal_text :
    (∃ e, ofValue (.map [(.text "scale", .scalar (.int 4)),
        (.text "keymap", .scalar (.text "X"))]) = .error e ∧ e.kind = .attribute) := by
  obtain ⟨-, hexception⟩ := ofValue_refusal (.map [(.text "scale", .scalar (.int 4)),
    (.text "keymap", .scalar (.text "X"))])
  obtain ⟨-, hiff⟩ := hexception _ (.scalar (.text "X")) rfl rfl ⟨rfl, fun _ h => nomatch h⟩
  exact hiff.2 ⟨_, rfl⟩

/-- A keymap that is a list is not refused for its value. -/
theorem keymap_of_list :
    ¬ ∀ v : Value, (∃ c, ofValue v = .ok c) ∨ ∃ e, ofValue v = .error e ∧ e.kind = .value := by
  intro h
  have hlist : ofValue (.map [(.text "keymap", .list [.scalar (.int 1)])]) =
      .error (.keymap "list") := rfl
  rcases h (.map [(.text "keymap", .list [.scalar (.int 1)])]) with ⟨c, hc⟩ | ⟨e, he, hkind⟩
  · rw [hlist] at hc
    cases hc
  · rw [hlist] at he
    obtain rfl := Except.error.inj he
    cases hkind

/-! ## The keys of a configuration -/

/-- What two readings give, the second gives on what the first has given. -/
theorem exists_of_bind {α β : Type} {r : Except ConfigError α} {f : α → Except ConfigError β}
    {b : β} (h : r >>= f = .ok b) : ∃ a, r = .ok a ∧ f a = .ok b := by
  cases r with
  | error e => cases h
  | ok a => exact ⟨a, rfl, h⟩

/-- Binding the keys of a mapping keeps to codes of the keypad. -/
theorem bindAll_codes {keys keymap : Keymap} {t : Tree} (h : bindAll keys t = .ok keymap)
    (hkeys : ∀ key ∈ keys, Keypad.IsCode key.2) : ∀ key ∈ keymap, Keypad.IsCode key.2 := by
  induction t generalizing keys with
  | nil =>
    obtain rfl := Except.ok.inj h
    exact hkeys
  | cons entry rest ih =>
    obtain ⟨key, v⟩ := entry
    obtain ⟨code, -, hrest⟩ := exists_of_bind h
    split_ifs at hrest with _ hcode
    · refine ih hrest (Entries.forall_put hkeys ?_)
      exact ⟨hcode.1, Int.lt_add_one_iff.2 hcode.2⟩

theorem keysOf_codes {keys keymap : Keymap} {t : Tree} (h : keysOf t keys = .ok keymap)
    (hkeys : ∀ key ∈ keys, Keypad.IsCode key.2) : ∀ key ∈ keymap, Keypad.IsCode key.2 := by
  unfold keysOf at h
  split at h
  · obtain rfl := Except.ok.inj h
    exact hkeys
  · split_ifs at h
    · obtain rfl := Except.ok.inj h
      exact hkeys
    · split at h
      · exact bindAll_codes h hkeys
      · cases h

/-- **The keys of a configuration that was read have codes of the keypad.** -/
theorem keymap_codes {v : Value} {c : Config} (h : ofValue v = .ok c) :
    ∀ key ∈ c.keymap, Keypad.IsCode key.2 := by
  cases v with
  | scalar s => cases h
  | list items => cases h
  | map t =>
    rw [ofValue_map] at h
    obtain ⟨before, -, h⟩ := exists_of_bind h
    obtain ⟨keymap, hkeymap, h⟩ := exists_of_bind h
    obtain ⟨full, -, h⟩ := exists_of_bind h
    obtain rfl := Except.ok.inj h
    exact keysOf_codes hkeymap (by decide)

end Config

end Chip8
