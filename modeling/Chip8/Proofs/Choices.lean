import Chip8.Proofs.Capitals
import Chip8.Proofs.Readers

/-!
# Configurations accepted

Exactly which trees are configurations, and what can be relied on in a configuration that was read.

- `Config.WellFormed`: every entry that is read is of the right kind and in its range.
- `Config.Valid`: what holds of a configuration that was read.
- `Config.SameChoices`: two trees that differ at most in entries that are not read.
- `Config.ofValue_accepted`: well-formed trees and no others are accepted, what is read of them is
  valid, and nothing else counts.
-/

namespace Chip8

namespace Config

variable {t t' : Tree} {c : Config} {v : Value}

/-! ## Well-formed trees -/

/-- Every entry that is read, where it is present, is of the right kind and in its range. -/
structure WellFormed (t : Tree) : Prop where
  stepRate : ∀ v ∈ named? "step_rate" t, ∃ n, v.Denotes n ∧ 1 ≤ n
  frameRate : ∀ v ∈ named? "frame_rate" t, ∃ n, v.Denotes n ∧ 1 ≤ n
  scale : ∀ v ∈ named? "scale" t, ∃ n, v.Denotes n ∧ 1 ≤ n
  seed : ∀ v ∈ named? "seed" t, v = .scalar .null ∨ ∃ n, v.Denotes n
  level : ∀ v ∈ named? "log_level" t, ∃ l : Level, UpperCase.ofString v.text = l.name
  colors : ∀ v ∈ named? "colors" t, v.isNothing = true ∨
    ∃ cs, v = .map cs ∧ (∀ w ∈ colorEntry? cs "on" true, w.IsColor) ∧
      ∀ w ∈ colorEntry? cs "off" false, w.IsColor
  keymap : ∀ v ∈ named? "keymap" t, v.isNothing = true ∨
    ∃ entries, v = .map entries ∧ ∀ entry ∈ entries, ∃ key, Binds entry key
  dialect : ∀ v ∈ named? "quirks" t, ∃ b, v = .scalar (.bool b)

/-- **Exactly the well-formed trees are accepted.** -/
theorem exists_ofValue : (∃ c, ofValue v = .ok c) ↔ ∃ t, v = .map t ∧ WellFormed t := by
  constructor
  · rintro ⟨c, h⟩
    cases v with
    | scalar s => cases h
    | list items => cases h
    | map t =>
      obtain h := ofValue_eq_ok.1 h
      exact ⟨t, rfl, exists_positive.1 ⟨_, h.stepRate⟩, exists_positive.1 ⟨_, h.frameRate⟩,
        exists_positive.1 ⟨_, h.scale⟩, exists_seedOf.1 ⟨_, h.seed⟩, exists_levelOf.1 ⟨_, h.level⟩,
        exists_colorsOf.1 ⟨_, h.colors⟩, exists_keysOf.1 ⟨_, h.keymap⟩,
        exists_dialectOf.1 ⟨_, h.dialect⟩⟩
  · rintro ⟨t, rfl, h⟩
    obtain ⟨stepRate, hstepRate⟩ := exists_positive.2 h.stepRate
    obtain ⟨frameRate, hframeRate⟩ := exists_positive.2 h.frameRate
    obtain ⟨scale, hscale⟩ := exists_positive.2 h.scale
    obtain ⟨seed, hseed⟩ := exists_seedOf.2 h.seed
    obtain ⟨level, hlevel⟩ := exists_levelOf.2 h.level
    obtain ⟨⟨lit, dark⟩, hcolors⟩ := exists_colorsOf.2 h.colors
    obtain ⟨keymap, hkeymap⟩ := exists_keysOf.2 h.keymap
    obtain ⟨fullDialect, hfull⟩ := exists_dialectOf.2 h.dialect
    exact ⟨{ fullDialect, stepRate, frameRate, scale, seed, level, lit, dark, keymap },
      ofValue_eq_ok.2 ⟨hstepRate, hframeRate, hscale, hseed, hlevel, hcolors, hkeymap, hfull⟩⟩

/-! ## Valid configurations -/

/-- What holds of a configuration that was read. Its keymap begins with the default names, and none
of its names comes twice. -/
structure Valid (c : Config) : Prop where
  stepRate : 1 ≤ c.stepRate
  frameRate : 1 ≤ c.frameRate
  scale : 1 ≤ c.scale
  level : c.level.name ∈ ["DEBUG", "INFO", "WARNING", "ERROR", "CRITICAL"]
  colors : ∀ shade ∈ [c.lit, c.dark], shade.channels.length = 4 ∧
    ∀ n ∈ Byte.toInts shade.channels, 0 ≤ n ∧ n ≤ 255
  codes : ∀ key ∈ c.keymap, 0 ≤ key.2 ∧ key.2 ≤ 15
  upper : ∀ key ∈ c.keymap, UpperCase.ofString key.1 = key.1
  defaults : Keymap.default.map Prod.fst <+: c.keymap.map Prod.fst
  distinct : (c.keymap.map Prod.fst).Nodup

theorem Valid.isCode (h : c.Valid) : ∀ key ∈ c.keymap, Keypad.IsCode key.2 := by
  intro key hkey
  obtain ⟨hlow, hhigh⟩ := h.codes key hkey
  exact ⟨hlow, Int.lt_add_one_iff.2 hhigh⟩

/-- The keys that entries bind are in upper case and have codes of the keypad. -/
theorem Binds.key {entry : Scalar × Value} {key : String × Int} (h : Binds entry key) :
    UpperCase.ofString key.1 = key.1 ∧ Keypad.IsCode key.2 := by
  refine ⟨?_, h.isCode⟩
  rw [h.name, UpperCase.ofString_ofString]

theorem Reads.valid (h : Reads t c) : c.Valid := by
  obtain ⟨pairs, hpairs, hput⟩ := keysOf_eq_ok h.keymap
  have hkeys : ∀ key ∈ c.keymap, UpperCase.ofString key.1 = key.1 ∧ Keypad.IsCode key.2 := by
    rw [← hput]
    refine Entries.forall_putAll (by decide +kernel) fun key hkey => ?_
    obtain ⟨entry, hentry⟩ := exists_forall₂.1 ⟨_, hpairs.flip⟩ key hkey
    exact hentry.key
  constructor
  case stepRate => exact positive_eq_ok (by decide) h.stepRate
  case frameRate => exact positive_eq_ok (by decide) h.frameRate
  case scale => exact positive_eq_ok (by decide) h.scale
  case level => cases c.level <;> decide
  case colors => exact fun shade _ => ⟨rfl, Byte.toInts_range⟩
  case codes =>
    intro key hkey
    obtain ⟨hlow, hhigh⟩ := (hkeys key hkey).2
    exact ⟨hlow, Int.lt_add_one_iff.1 hhigh⟩
  case upper => exact fun key hkey => (hkeys key hkey).1
  case defaults => exact hput ▸ Entries.prefix_putAll
  case distinct => exact hput ▸ Entries.nodup_putAll (by decide)

theorem valid_of_ofValue (h : ofValue v = .ok c) : c.Valid := by
  obtain ⟨t, rfl, -⟩ := exists_ofValue.1 ⟨c, h⟩
  exact (ofValue_eq_ok.1 h).valid

/-! ## Entries that are not read -/

/-- The trees agree on all entries that are read: the entries of seven names, and of the colors the
two that count. -/
structure SameChoices (t t' : Tree) : Prop where
  named : ∀ name ∈ ["step_rate", "frame_rate", "scale", "seed", "log_level", "keymap", "quirks"],
    named? name t = named? name t'
  colors : named? "colors" t = named? "colors" t' ∨
    ∃ cs cs', named? "colors" t = some (.map cs) ∧ named? "colors" t' = some (.map cs') ∧
      colorEntry? cs "on" true = colorEntry? cs' "on" true ∧
      colorEntry? cs "off" false = colorEntry? cs' "off" false

/-- The entries of another name. -/
theorem sameChoices_without {name : String}
    (h : name ∉ ["step_rate", "frame_rate", "scale", "seed", "log_level", "keymap", "quirks",
      "colors"]) (t : Tree) : SameChoices (without name t) t := by
  constructor
  case named =>
    intro other hother
    refine named?_without_other ?_ t
    rintro rfl
    exact h (List.mem_append_left ["colors"] hother)
  case colors =>
    refine .inl (named?_without_other ?_ t)
    rintro rfl
    exact h (by decide)

theorem colorOf_eq (t : Tree) (name : String) (truth : Bool) (default : Color) :
    colorOf t name truth default =
      match colorEntry? t name truth with
      | none => .ok default
      | some v => color v := rfl

/-- A mapping of colors is read as two colors, also if it is empty. -/
theorem colorsOf_map {cs : Tree} (h : named? "colors" t = some (.map cs)) (lit dark : Color) :
    colorsOf t lit dark = do
      let lit ← colorOf cs "on" true lit
      let dark ← colorOf cs "off" false dark
      return (lit, dark) := by
  rw [colorsOf, h]
  cases cs <;> rfl

theorem SameChoices.colorsOf_eq (h : SameChoices t t') (lit dark : Color) :
    colorsOf t lit dark = colorsOf t' lit dark := by
  rcases h.colors with hsame | ⟨cs, cs', hcs, hcs', hon, hoff⟩
  · rw [colorsOf, colorsOf, hsame]
  · rw [colorsOf_map hcs, colorsOf_map hcs']
    simp only [colorOf_eq, hon, hoff]

/-- What is not read does not count. -/
theorem SameChoices.ofValue_eq (h : SameChoices t t') : ofValue (.map t) = ofValue (.map t') := by
  have hnamed := h.named
  simp only [List.forall_mem_cons] at hnamed
  obtain ⟨hstepRate, hframeRate, hscale, hseed, hlevel, hkeymap, hquirks, -⟩ := hnamed
  simp only [ofValue, positive, seedOf, levelOf, keysOf, dialectOf, hstepRate, hframeRate, hscale,
    hseed, hlevel, hkeymap, hquirks, h.colorsOf_eq]

/-- **Accepted configurations.** A configuration that was read is valid. The trees that are read as
configurations are the well-formed ones; and entries that are not read change nothing, neither what
is read nor what is said of a tree that is refused. -/
theorem ofValue_accepted :
    (∀ v c, ofValue v = .ok c → c.Valid) ∧
    (∀ v, (∃ c, ofValue v = .ok c) ↔ ∃ t, v = .map t ∧ WellFormed t) ∧
    ∀ t t', SameChoices t t' → ofValue (.map t) = ofValue (.map t') := by
  refine ⟨fun v c h => ?_, fun v => ?_, fun t t' h => ?_⟩
  · exact valid_of_ofValue h
  · exact exists_ofValue
  · exact h.ofValue_eq

/-- A step rate as text, a color under a truth value and a key whose name is an integer. The volume
is not read. -/
theorem ofValue_accepted_text :
    let t : Tree := [(.text "step_rate", .scalar (.text "600")), (.text "volume", .scalar (.int 11)),
      (.text "colors",
        .map [(.bool true, .list [.scalar (.int 1), .scalar (.text "0x2"), .scalar (.int 3)])]),
      (.text "keymap", .map [(.text "space", .scalar (.int 15)), (.int 5, .scalar (.int 3))])]
    ∃ c, ofValue (.map t) = .ok c ∧ c.Valid ∧ ofValue (.map (without "volume" t)) = .ok c := by
  intro t
  have hsix : Numeral.read "600" = .ok 600 := by decide +kernel
  have htwo : Numeral.read "0x2" = .ok 2 := by decide +kernel
  have hwell : WellFormed t := by
    constructor
    case stepRate =>
      rintro v ⟨⟩
      exact ⟨600, .numeral hsix, by decide⟩
    case frameRate => exact fun v hv => nomatch hv
    case scale => exact fun v hv => nomatch hv
    case seed => exact fun v hv => nomatch hv
    case level => exact fun v hv => nomatch hv
    case colors =>
      rintro v ⟨⟩
      refine .inr ⟨_, rfl, ?_, fun w hw => nomatch hw⟩
      rintro w ⟨⟩
      exact ⟨_, [1, 2, 3], rfl, .cons (.int 1) (.cons (.numeral htwo) (.cons (.int 3) .nil)),
        .inl rfl, by decide⟩
    case keymap =>
      rintro v ⟨⟩
      refine .inr ⟨_, rfl, List.forall_mem_cons.2 ⟨?_, List.forall_mem_singleton.2 ?_⟩⟩
      · exact ⟨("SPACE", 15), rfl, by decide +kernel, .int 15, by decide⟩
      · exact ⟨("5", 3), by decide +kernel, by decide +kernel, .int 3, by decide⟩
    case dialect => exact fun v hv => nomatch hv
  obtain ⟨hvalid, haccepts, hunread⟩ := ofValue_accepted
  obtain ⟨c, hc⟩ := (haccepts (.map t)).2 ⟨t, rfl, hwell⟩
  refine ⟨c, hc, hvalid _ c hc, ?_⟩
  rw [hunread _ _ (sameChoices_without (by decide) t), hc]

end Config

end Chip8
