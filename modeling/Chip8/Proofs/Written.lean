import Chip8.Proofs.Choices

/-!
# Configurations written

A configuration as a tree again, and that it is read back as it was.

- `Config.toValue`: the tree of a configuration, with every entry present.
- `Config.Valid.reads`: what is read of it.
- `Config.ofValue_toValue`: a configuration that was read is read again from its tree.

The keymap needs its order: its names go on top of the default ones, which are its first names.
-/

namespace Chip8

namespace Config

variable {c : Config} {v : Value}

/-! ## The tree of a configuration -/

/-- The channels of a color, all four. -/
def colorValue (shade : Color) : Value :=
  .list ((Byte.toInts shade.channels).map fun n => .scalar (.int n))

/-- The keys of a keymap in their order. -/
def keymapTree (keys : Keymap) : Tree :=
  keys.map fun (name, code) => (.text name, .scalar (.int code))

/-- The entries of a configuration. The names of the two colors stand in quotes, or else are read as
truth values. -/
def toTree (c : Config) (quoted : Bool) : Tree :=
  [ (.text "quirks", .scalar (.bool c.fullDialect)),
    (.text "step_rate", .scalar (.int c.stepRate)),
    (.text "frame_rate", .scalar (.int c.frameRate)),
    (.text "scale", .scalar (.int c.scale)),
    (.text "seed", .scalar (match c.seed with
      | some seed => .int seed
      | none => .null)),
    (.text "log_level", .scalar (.text c.level.name)),
    (.text "colors", .map
      [ (if quoted then .text "on" else .bool true, colorValue c.lit),
        (if quoted then .text "off" else .bool false, colorValue c.dark) ]),
    (.text "keymap", .map (keymapTree c.keymap)) ]

/-- The tree of a configuration. -/
def toValue (c : Config) (quoted : Bool) : Value :=
  .map (c.toTree quoted)

/-! ## What is read of it -/

theorem denotes_ints (ns : List Int) :
    List.Forall₂ Value.Denotes (ns.map fun n => .scalar (.int n)) ns :=
  List.forall₂_map_left_iff.2 (List.forall₂_same.2 fun n _ => .int n)

theorem color_colorValue (shade : Color) : color (colorValue shade) = .ok shade :=
  color_list (denotes_ints _) rfl

/-- A name in upper case stands for itself. -/
theorem binds_keymapTree {keys : Keymap} (hupper : ∀ key ∈ keys, UpperCase.ofString key.1 = key.1)
    (hcodes : ∀ key ∈ keys, Keypad.IsCode key.2) :
    List.Forall₂ Binds (keymapTree keys) keys := by
  refine List.forall₂_map_left_iff.2 (List.forall₂_same.2 fun key hkey => ?_)
  exact ⟨rfl, (hupper key hkey).symm, .int key.2, hcodes key hkey⟩

/-- The keymap with all its names on top of the default ones is the keymap. -/
theorem Valid.keysOf (h : c.Valid) {t : Tree}
    (hnamed : named? "keymap" t = some (.map (keymapTree c.keymap))) :
    keysOf t .default = .ok c.keymap := by
  have hsome : (Value.map (keymapTree c.keymap)).isNothing = false := by
    have hdefaults := h.defaults
    cases hkeys : c.keymap with
    | nil =>
      rw [hkeys] at hdefaults
      exact absurd hdefaults.length_le (by decide)
    | cons key rest => rfl
  rw [Config.keysOf, hnamed]
  dsimp only
  rw [hsome, if_neg Bool.false_ne_true]
  exact bindAll_eq_ok.2 ⟨c.keymap, binds_keymapTree h.upper h.isCode,
    Entries.putAll_eq_self h.defaults h.distinct⟩

/-- A valid configuration is what is read of its tree. -/
theorem Valid.reads (h : c.Valid) (quoted : Bool) : Reads (c.toTree quoted) c := by
  constructor
  case stepRate => exact positive_int rfl h.stepRate
  case frameRate => exact positive_int rfl h.frameRate
  case scale => exact positive_int rfl h.scale
  case seed =>
    cases hseed : c.seed <;> simp only [seedOf, toTree, hseed] <;> rfl
  case level =>
    have hupper : UpperCase.ofString c.level.name = c.level.name := by
      cases c.level <;> decide +kernel
    have hnamed : named? "log_level" (c.toTree quoted) = some (.scalar (.text c.level.name)) := rfl
    simp only [levelOf, hnamed, Value.text, Scalar.plain, hupper, ofName?_name]
  case colors =>
    have hcolors : ∀ cs, named? "colors" (c.toTree quoted) = some (.map cs) →
        colorEntry? cs "on" true = some (colorValue c.lit) →
        colorEntry? cs "off" false = some (colorValue c.dark) →
        colorsOf (c.toTree quoted) .litDefault .darkDefault = .ok (c.lit, c.dark) := by
      intro cs hcs hon hoff
      rw [colorsOf_map hcs, colorOf_eq, colorOf_eq, hon, hoff]
      dsimp only
      rw [color_colorValue, color_colorValue]
      rfl
    cases quoted
    · exact hcolors _ rfl rfl rfl
    · exact hcolors _ rfl rfl rfl
  case keymap => exact h.keysOf rfl
  case dialect => rfl

/-- **A configuration is read back.** The tree of a configuration that was read is read as the same
configuration, with its keys in the same order, whether the names of the colors stand in quotes or
not. No name comes twice in the keymap of that tree. -/
theorem ofValue_toValue (h : ofValue v = .ok c) (quoted : Bool) :
    ofValue (c.toValue quoted) = .ok c ∧ ((keymapTree c.keymap).map Prod.fst).Nodup := by
  have hvalid := valid_of_ofValue h
  refine ⟨ofValue_eq_ok.2 (hvalid.reads quoted), ?_⟩
  have hnames : (keymapTree c.keymap).map Prod.fst = (c.keymap.map Prod.fst).map Scalar.text := by
    rw [keymapTree, List.map_map, List.map_map]
    rfl
  rw [hnames]
  exact hvalid.distinct.map fun a b hab => Scalar.text.inj hab

/-- A configuration with a seed, a color of three channels, another code for a default key and a
key of another name. -/
theorem ofValue_toValue_keys :
    ∃ c, ofValue (.map [(.text "seed", .scalar (.text "0x2A")),
        (.text "colors", .map [(.bool true, .list [.scalar (.int 1), .scalar (.int 2),
          .scalar (.int 3)])]),
        (.text "keymap", .map [(.text "space", .scalar (.int 5)), (.text "x", .scalar (.int 9))])]) =
          .ok c ∧
      ofValue (c.toValue true) = .ok c ∧ ofValue (c.toValue false) = .ok c := by
  generalize htree : Value.map _ = tree
  have hok : (ofValue tree).toBool = true := by
    subst htree
    decide +kernel
  cases hc : ofValue tree with
  | error e =>
    rw [hc] at hok
    cases hok
  | ok c => exact ⟨c, rfl, (ofValue_toValue hc true).1, (ofValue_toValue hc false).1⟩

end Config

end Chip8
