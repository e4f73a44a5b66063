import Chip8.Launch
import Chip8.Proofs.Readers
import Chip8.Yaml

/-!
# Sections of a configuration

A mapping belongs in three places of a document: it is the whole of it, and the entries for the
colors and for the keymap are mappings, too. What is loaded of a document that has something else in
one of these places.

- `Config.Section`: the three places.
- `Config.Misshapen`: neither a mapping nor null; `Config.Hollow`: what of this counts as nothing.
- `Config.Loaded`: a document is loaded from a text or from a file, by any parser.
- `Config.loaded_misshapen`: a misshapen section is refused, unless it is hollow; then the document
  is read as if it were without the section.

Null stands for a section that was left out. Whether a section counts as nothing is asked before
whether it is a mapping, so five kinds of trees pass for null.
-/

namespace Chip8

namespace Config

variable {ε : Type} {parse : Parser ε} {t : Tree} {v w : Value} {c : Config}

/-! ## Sections -/

/-- The places of a document where a mapping belongs. -/
inductive Section where
  /-- The whole document. -/
  | root
  | colors
  | keymap
  deriving DecidableEq, Repr

namespace Section

/-- What stands in a section. -/
def get? : Section → Value → Option Value
  | root, v => some v
  | colors, .map t => named? "colors" t
  | keymap, .map t => named? "keymap" t
  | _, _ => none

/-- The document without a section. Without its root it is the empty document, which is null. -/
def erase : Section → Value → Value
  | root, _ => .scalar .null
  | colors, .map t => .map (without "colors" t)
  | keymap, .map t => .map (without "keymap" t)
  | _, v => v

/-- How a section is refused that is of another kind. -/
def refusal : Section → String → ConfigError
  | root => .root
  | colors => .colors
  | keymap => .keymap

/-- Nothing of a configuration was chosen in a section. -/
def IsDefault : Section → Config → Prop
  | root, c => c = {}
  | colors, c => c.lit = .litDefault ∧ c.dark = .darkDefault
  | keymap, c => c.keymap = .default

/-- Sections other than the root are entries of a mapping. -/
theorem get?_cases {s : Section} (h : s.get? v = some w) :
    s = root ∧ v = w ∨
    (∃ t, s = colors ∧ v = .map t ∧ named? "colors" t = some w) ∨
    ∃ t, s = keymap ∧ v = .map t ∧ named? "keymap" t = some w := by
  cases s with
  | root => exact .inl ⟨rfl, Option.some.inj h⟩
  | colors =>
    cases v with
    | map t => exact .inr (.inl ⟨t, rfl, rfl, h⟩)
    | scalar s => cases h
    | list items => cases h
  | keymap =>
    cases v with
    | map t => exact .inr (.inr ⟨t, rfl, rfl, h⟩)
    | scalar s => cases h
    | list items => cases h

end Section

/-- Neither a mapping nor null. -/
structure Misshapen (w : Value) : Prop where
  notNull : w ≠ .scalar .null
  notMap : ∀ entries, w ≠ .map entries

/-- Falsehood, the zeros, the empty text and the empty list. -/
inductive Hollow : Value → Prop where
  | falsehood : Hollow (.scalar (.bool false))
  | zero : Hollow (.scalar (.int 0))
  | floatingZero (negative : Bool) : Hollow (.scalar (.float (.finite negative 0)))
  | text : Hollow (.scalar (.text ""))
  | list : Hollow (.list [])

theorem Hollow.isNothing (h : Hollow w) : w.isNothing = true := by
  cases h <;> rfl

theorem Hollow.misshapen (h : Hollow w) : Misshapen w := by
  constructor
  · rintro rfl
    cases h
  · rintro entries rfl
    cases h

/-- Of what is misshapen, only the hollow counts as nothing. -/
theorem Misshapen.hollow (hw : Misshapen w) (hnothing : w.isNothing = true) : Hollow w := by
  cases w with
  | map entries => exact absurd rfl (hw.notMap entries)
  | list items =>
    obtain rfl := List.isEmpty_iff.1 hnothing
    exact .list
  | scalar s =>
    cases s with
    | null => exact absurd rfl hw.notNull
    | bool b =>
      cases b with
      | false => exact .falsehood
      | true => cases hnothing
    | int n =>
      obtain rfl := of_decide_eq_true hnothing
      exact .zero
    | float x =>
      cases x with
      | nan => cases hnothing
      | infinite negative => cases hnothing
      | finite negative units =>
        obtain rfl := of_decide_eq_true hnothing
        exact .floatingZero negative
    | text s =>
      obtain rfl := String.isEmpty_iff.1 hnothing
      exact .text

theorem Misshapen.unmapped (hw : Misshapen w) (hsolid : ¬ Hollow w) : Unmapped w := by
  refine ⟨Bool.eq_false_iff.2 fun hnothing => ?_, hw.notMap⟩
  exact hsolid (hw.hollow hnothing)

/-! ## Sections that are read -/

theorem colorsOf_unmapped (hnamed : named? "colors" t = some w) (hw : Unmapped w)
    (lit dark : Color) : colorsOf t lit dark = .error (.colors w.kind) := by
  obtain ⟨hsome, hother⟩ := hw
  simp only [colorsOf, hnamed, hsome]
  cases w with
  | map entries => exact absurd rfl (hother entries)
  | scalar s => rfl
  | list items => rfl

theorem colorsOf_nothing (hnamed : named? "colors" t = some w) (hw : w.isNothing = true)
    (lit dark : Color) : colorsOf t lit dark = .ok (lit, dark) := by
  rw [colorsOf, hnamed]
  exact if_pos hw

theorem keysOf_nothing (hnamed : named? "keymap" t = some w) (hw : w.isNothing = true)
    (keys : Keymap) : keysOf t keys = .ok keys := by
  rw [keysOf, hnamed]
  exact if_pos hw

theorem colorsOf_without (t : Tree) (lit dark : Color) :
    colorsOf (without "colors" t) lit dark = .ok (lit, dark) := by
  rw [colorsOf, named?_without_self]

theorem keysOf_without (t : Tree) (keys : Keymap) : keysOf (without "keymap" t) keys = .ok keys := by
  rw [keysOf, named?_without_self]

/-- What is read of a mapping before its colors. -/
def beforeColors (t : Tree) : Except ConfigError Config := do
  let default : Config := {}
  let stepRate ← positive t "step_rate" default.stepRate
  let frameRate ← positive t "frame_rate" default.frameRate
  let scale ← positive t "scale" default.scale
  let seed ← seedOf t
  let level ← levelOf t default.level
  return { stepRate, frameRate, scale, seed, level }

/-- What is read of a mapping after its colors, which are `shades`. -/
def afterColors (t : Tree) (c : Config) (shades : Color × Color) : Except ConfigError Config := do
  let keymap ← keysOf t .default
  let fullDialect ← dialectOf t false
  return { c with lit := shades.1, dark := shades.2, keymap, fullDialect }

/-- What is read of a mapping after its keymap. -/
def afterKeys (t : Tree) (c : Config) (keymap : Keymap) : Except ConfigError Config := do
  let fullDialect ← dialectOf t false
  return { c with keymap, fullDialect }

theorem ofValue_colors (t : Tree) :
    ofValue (.map t) =
      beforeColors t >>= fun c => colorsOf t .litDefault .darkDefault >>= afterColors t c := by
  simp only [ofValue, beforeColors, bind_assoc, pure_bind]
  rfl

theorem ofValue_keys (t : Tree) :
    ofValue (.map t) = beforeKeys t >>= fun c => keysOf t .default >>= afterKeys t c :=
  ofValue_map t

theorem beforeColors_without (t : Tree) : beforeColors (without "colors" t) = beforeColors t := by
  simp (disch := decide) only [beforeColors, positive, seedOf, levelOf, named?_without_other]

theorem afterColors_without (t : Tree) : afterColors (without "colors" t) = afterColors t := by
  funext c shades
  simp (disch := decide) only [afterColors, keysOf, dialectOf, named?_without_other]

theorem afterKeys_without (t : Tree) : afterKeys (without "keymap" t) = afterKeys t := by
  funext c keymap
  simp (disch := decide) only [afterKeys, dialectOf, named?_without_other]

/-! ## Documents -/

/-- A refusal after some reading, unless that reading was refused itself. -/
theorem refused_after {α β : Type} (before : Except ConfigError α) (e : ConfigError)
    (rest : α → Except ConfigError β) :
    (before >>= fun _ => .error e) = (.error e : Except ConfigError β) ∨
      ∃ first, (before >>= fun _ => .error e) = (.error first : Except ConfigError β) ∧
        before >>= rest = .error first := by
  cases before with
  | error first => exact .inr ⟨first, rfl, rfl⟩
  | ok a => exact .inl rfl

theorem ofDocument_map (t : Tree) : ofDocument (.map t) = ofValue (.map t) := by
  cases t <;> rfl

/-- A section that counts as nothing might as well be left out. -/
theorem ofDocument_nothing {s : Section} (hsection : s.get? v = some w)
    (hw : w.isNothing = true) : ofDocument v = ofDocument (s.erase v) := by
  obtain ⟨rfl, rfl⟩ | ⟨t, rfl, rfl, hnamed⟩ | ⟨t, rfl, rfl, hnamed⟩ := Section.get?_cases hsection
  · exact congrArg ofValue (if_pos hw)
  -- No other reader looks at the section, and its own finds as little as if there were none.
  · show ofDocument (.map t) = ofDocument (.map (without "colors" t))
    rw [ofDocument_map, ofDocument_map, ofValue_colors, ofValue_colors, colorsOf_nothing hnamed hw,
      colorsOf_without, beforeColors_without, afterColors_without]
  · show ofDocument (.map t) = ofDocument (.map (without "keymap" t))
    rw [ofDocument_map, ofDocument_map, ofValue_keys, ofValue_keys, keysOf_nothing hnamed hw,
      keysOf_without, beforeKeys_without (by decide), afterKeys_without]

/-- Nothing is chosen in such a section. -/
theorem isDefault_of_nothing {s : Section} (hsection : s.get? v = some w)
    (hw : w.isNothing = true) (h : ofDocument v = .ok c) : s.IsDefault c := by
  obtain ⟨rfl, rfl⟩ | ⟨t, rfl, rfl, hnamed⟩ | ⟨t, rfl, rfl, hnamed⟩ := Section.get?_cases hsection
  · have hnull : ofDocument v = .ok {} := ofDocument_nothing hsection hw
    exact Except.ok.inj (h.symm.trans hnull)
  · rw [ofDocument_map] at h
    have hcolors := (ofValue_eq_ok.1 h).colors
    rw [colorsOf_nothing hnamed hw] at hcolors
    obtain ⟨hlit, hdark⟩ := Prod.mk.inj (Except.ok.inj hcolors)
    exact ⟨hlit.symm, hdark.symm⟩
  · rw [ofDocument_map] at h
    have hkeymap := (ofValue_eq_ok.1 h).keymap
    rw [keysOf_nothing hnamed hw] at hkeymap
    exact (Except.ok.inj hkeymap).symm

/-- A section that counts as something and is no mapping is refused, if what is read before it is
not. -/
theorem ofDocument_unmapped {s : Section} (hsection : s.get? v = some w) (hw : Unmapped w) :
    ofDocument v = .error (s.refusal w.kind) ∨
      ∃ e, ofDocument v = .error e ∧ ofDocument (s.erase v) = .error e := by
  obtain ⟨rfl, rfl⟩ | ⟨t, rfl, rfl, hnamed⟩ | ⟨t, rfl, rfl, hnamed⟩ := Section.get?_cases hsection
  · refine .inl ?_
    rw [ofDocument, hw.1]
    cases v with
    | map t => exact absurd rfl (hw.2 t)
    | scalar s => rfl
    | list items => rfl
  · show ofDocument (.map t) = _ ∨
      ∃ e, ofDocument (.map t) = .error e ∧ ofDocument (.map (without "colors" t)) = .error e
    rw [ofDocument_map, ofDocument_map, ofValue_colors, ofValue_colors,
      colorsOf_unmapped hnamed hw, beforeColors_without]
    exact refused_after _ _ _
  · show ofDocument (.map t) = _ ∨
      ∃ e, ofDocument (.map t) = .error e ∧ ofDocument (.map (without "keymap" t)) = .error e
    rw [ofDocument_map, ofDocument_map, ofValue_keys, ofValue_keys, keysOf_unmapped hnamed hw,
      beforeKeys_without (by decide)]
    exact refused_after _ _ _

/-! ## Loading -/

/-- The answers of loading a document, which is what is parsed of a text or of a file's text. -/
inductive Loaded (parse : Parser ε) (v : Value) : Except (LaunchError ε) Config → Prop where
  | text {text : String} (hparse : parse text = .ok v) :
      Loaded parse v ((ofText parse text).mapError .document)
  | file {read : Launch.Reader} {path text : String} (hread : Launch.readText read path = .ok text)
      (hparse : parse text = .ok v) : Loaded parse v (Launch.readConfig read parse path)

theorem ofText_of_parse {text : String} (hparse : parse text = .ok v) :
    ofText parse text = (ofDocument v).mapError .config := by
  rw [ofText, hparse]
  rfl

theorem Loaded.eq {r : Except (LaunchError ε) Config} (h : Loaded parse v r) :
    r = ((ofDocument v).mapError .config).mapError .document := by
  cases h with
  | text hparse => rw [ofText_of_parse hparse]
  | file hread hparse =>
    rw [Launch.readConfig, hread, ← ofText_of_parse hparse]
    rfl

theorem Loaded.eq_ok {r : Except (LaunchError ε) Config} (h : Loaded parse v r) :
    r = .ok c ↔ ofDocument v = .ok c := by
  rw [h.eq]
  cases ofDocument v with
  | error e => exact ⟨fun h => (nomatch h), fun h => (nomatch h)⟩
  | ok found => simp only [Except.mapError, Except.ok.injEq]

/-- **Sections that are no mappings.** Of a document with a misshapen section, whichever parser finds
it and however it is loaded, a configuration is read iff the section is hollow and the document
without it is read as that. A hollow section is taken as left out, in what is refused as in what is
read: nothing is chosen in it. Any other is refused for its kind, or else the document for what is
refused without it, too. -/
theorem loaded_misshapen (s : Section) (hsection : s.get? v = some w) (hw : Misshapen w) :
    (∀ (ε : Type) (parse : Parser ε) r, Loaded parse v r →
      ∀ c, r = .ok c ↔ Hollow w ∧ ofDocument (s.erase v) = .ok c) ∧
    (Hollow w → ofDocument v = ofDocument (s.erase v) ∧
      ∀ c, ofDocument v = .ok c → s.IsDefault c) ∧
    (¬ Hollow w → ofDocument v = .error (s.refusal w.kind) ∨
      ∃ e, ofDocument v = .error e ∧ ofDocument (s.erase v) = .error e) := by
  refine ⟨?loaded, ?hollow, ?solid⟩
  case loaded =>
    intro ε parse r hr c
    rw [hr.eq_ok]
    by_cases h : Hollow w
    · rw [ofDocument_nothing hsection h.isNothing]
      exact (and_iff_right h).symm
    · refine ⟨fun hread => ?_, fun hread => absurd hread.1 h⟩
      rcases ofDocument_unmapped hsection (hw.unmapped h) with hrefused | ⟨e, hrefused, -⟩
      · cases hread.symm.trans hrefused
      · cases hread.symm.trans hrefused
  case hollow =>
    intro h
    refine ⟨ofDocument_nothing hsection h.isNothing, fun c hread => ?_⟩
    exact isDefault_of_nothing hsection h.isNothing hread
  case solid =>
    intro h
    exact ofDocument_unmapped hsection (hw.unmapped h)

/-- A file whose colors are a zero is read for its scale; a keymap that is a text is refused. -/
theorem loaded_misshapen_zero :
    let text := "scale: 4\ncolors: 0\n"
    let read : Launch.Reader := fun _ => .ok text.toByteArray.data.toList
    Launch.readConfig read Yaml.parse "zero.yaml" = .ok { scale := 4 } ∧
      ofDocument (.map [(.text "keymap", .scalar (.text "X"))]) = .error (.keymap "str") := by
  intro text read
  constructor
  · let v : Value :=
      .map [(.text "scale", .scalar (.int 4)), (.text "colors", .scalar (.int 0))]
    have htokens : (Yaml.Token.ofText text).toOption = some [.blockMap, .key, .text "scale" true,
        .value, .text "4" true, .key, .text "colors" true, .value, .text "0" true, .blockEnd] := by
      decide +kernel
    have hparse : Yaml.parse text = .ok v := Yaml.parse_of_tokens htokens rfl rfl
    have hread : Launch.readText read "zero.yaml" = .ok text :=
      Launch.readText_bytes rfl (by decide)
    have hsection : Section.colors.get? v = some (.scalar (.int 0)) := rfl
    obtain ⟨hloaded, -, -⟩ := loaded_misshapen .colors hsection Hollow.zero.misshapen
    exact (hloaded _ _ _ (.file hread hparse) _).2 ⟨.zero, rfl⟩
  · have htext : Misshapen (.scalar (.text "X")) := ⟨fun h => (nomatch h), fun _ h => (nomatch h)⟩
    have hsolid : ¬ Hollow (.scalar (.text "X")) := fun h => (nomatch h.isNothing)
    have hsection : Section.keymap.get? (.map [(.text "keymap", .scalar (.text "X"))]) =
        some (.scalar (.text "X")) := rfl
    obtain ⟨-, -, hrefused⟩ := loaded_misshapen .keymap hsection htext
    rcases hrefused hsolid with h | ⟨e, -, he⟩
    · exact h
    · cases he

/-- An empty list passes for an empty document. -/
theorem emptyList_loaded :
    ¬ ∀ (ε : Type) (parse : Parser ε) (v : Value) (s : Section) (w : Value), s.get? v = some w →
      Misshapen w → ∀ r, Loaded parse v r → ∀ c, r ≠ .ok c := by
  intro h
  have htokens : (Yaml.Token.ofText "[]\n").toOption = some [.openList, .closeList] := by
    decide +kernel
  have hparse : Yaml.parse "[]\n" = .ok (.list []) := Yaml.parse_of_tokens htokens rfl rfl
  have hloaded := Loaded.text hparse
  exact h _ _ _ .root _ rfl Hollow.list.misshapen _ hloaded {} (hloaded.eq_ok.2 rfl)

end Config

end Chip8
