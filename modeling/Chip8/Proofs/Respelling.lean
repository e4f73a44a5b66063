import Chip8.Proofs.Numerals
import Chip8.Proofs.Readers
import Mathlib.Data.Option.Basic

/-!
# Integers spelled otherwise

A configuration does not depend on how its integers are written: as integers or as texts, in base
ten or sixteen.

- `Value.Respelled`: a tree, or a text of the integer that it stands for.
- `Config.Respelled`: some of the integers that a configuration is read from are spelled otherwise.
- `Config.Agree`: two readings that give the same, or are refused alike.
- `Config.ofValue_respelled`: a tree in another spelling is read as the same configuration.
-/

namespace Chip8

/-! ## One integer -/

theorem Scalar.isWritable_int {n : Int} : (Scalar.int n).isWritable = true ↔ Numeral.IsShort n := by
  rw [Scalar.isWritable, decide_eq_true_iff, Nat.pow_eq, Numeral.IsShort,
    Nat.length_toDigits_le_iff (by decide) (by decide)]

namespace Value

variable {v v' : Value} {items items' : List Value} {n : Int}

/-- The same tree, or a text of the integer that it stands for. -/
inductive Respelled : Value → Value → Prop where
  | same (v : Value) : Respelled v v
  | written {v : Value} {n : Int} {s : String} (hv : v.Denotes n) (hshort : Numeral.IsShort n)
      (hs : Numeral.Writes n s) : Respelled v (.scalar (.text s))

theorem Respelled.integer_eq (h : v.Respelled v') : Config.integer v' = Config.integer v := by
  cases h with
  | same => rfl
  | written hv hshort hs =>
    rw [Config.integer_eq_ok.2 hv]
    exact Config.integer_eq_ok.2 (.numeral (Numeral.read_of_writes hs hshort))

/-- An integer in another spelling is not too long to be shown, and was not before. -/
theorem Respelled.isWritable_eq (h : v.Respelled v') : v'.isWritable = v.isWritable := by
  cases h with
  | same => rfl
  | written hv hshort _ =>
    cases hv with
    | int => exact (Scalar.isWritable_int.2 hshort).symm
    | numeral => rfl

theorem areWritable_eq (h : List.Forall₂ Respelled items items') :
    areWritable items' = areWritable items := by
  induction h with
  | nil => rfl
  | cons hv _ ih => rw [areWritable, areWritable, hv.isWritable_eq, ih]

theorem mapM_integer_eq (h : List.Forall₂ Respelled items items') :
    items'.mapM Config.integer = items.mapM Config.integer := by
  induction h with
  | nil => rfl
  | cons hv _ ih => rw [List.mapM_cons, List.mapM_cons, hv.integer_eq, ih]

end Value

namespace Config

variable {t t' cs cs' : Tree} {v v' : Value} {key : Scalar}

/-! ## Trees -/

/-- An entry of the colors in another spelling: that of its channels. -/
inductive RespelledColor : Scalar × Value → Scalar × Value → Prop where
  | same (e : Scalar × Value) : RespelledColor e e
  | channels (key : Scalar) {items items' : List Value}
      (h : List.Forall₂ Value.Respelled items items') :
      RespelledColor (key, .list items) (key, .list items')

/-- An entry of the keymap in another spelling: that of its code. -/
def RespelledCode (e e' : Scalar × Value) : Prop :=
  e'.1 = e.1 ∧ e.2.Respelled e'.2

/-- The same tree, or a mapping whose entries are in another spelling. -/
inductive RespelledIn (S : Scalar × Value → Scalar × Value → Prop) : Value → Value → Prop where
  | same (v : Value) : RespelledIn S v v
  | map {entries entries' : Tree} (h : List.Forall₂ S entries entries') :
      RespelledIn S (.map entries) (.map entries')

/-- An entry of a configuration in another spelling. -/
inductive RespelledEntry : Scalar × Value → Scalar × Value → Prop where
  | same (e : Scalar × Value) : RespelledEntry e e
  | number {name : String} {v v' : Value}
      (hname : name ∈ ["step_rate", "frame_rate", "scale", "seed"]) (h : v.Respelled v') :
      RespelledEntry (.text name, v) (.text name, v')
  | colors {v v' : Value} (h : RespelledIn RespelledColor v v') :
      RespelledEntry (.text "colors", v) (.text "colors", v')
  | keymap {v v' : Value} (h : RespelledIn RespelledCode v v') :
      RespelledEntry (.text "keymap", v) (.text "keymap", v')

/-- The entries of a configuration, some of whose integers are spelled otherwise: rates, scale,
seed, channels of colors or codes of keys. -/
def Respelled : Tree → Tree → Prop :=
  List.Forall₂ RespelledEntry

theorem RespelledColor.key_eq {e e' : Scalar × Value} (h : RespelledColor e e') : e'.1 = e.1 := by
  cases h <;> rfl

theorem RespelledEntry.key_eq {e e' : Scalar × Value} (h : RespelledEntry e e') : e'.1 = e.1 := by
  cases h <;> rfl

/-- What is found under a key in one mapping and in another with the same keys. -/
theorem get?_rel {S : Scalar × Value → Scalar × Value → Prop} {R : Value → Value → Prop}
    (h : List.Forall₂ S t t') (hkey : ∀ {e e'}, S e e' → e'.1 = e.1)
    (hvalue : ∀ {e e'}, S e e' → e.1.same key = true → R e.2 e'.2) :
    Option.Rel R (Entries.get? Scalar.same key t) (Entries.get? Scalar.same key t') := by
  unfold Entries.get?
  induction h with
  | nil => exact .none
  | @cons e e' rest rest' hentry _ ih =>
    obtain ⟨k, v⟩ := e
    obtain ⟨k', v'⟩ := e'
    obtain rfl : k' = k := hkey hentry
    rw [List.find?_cons, List.find?_cons]
    dsimp only
    cases hsame : k'.same key with
    | true => exact .some (hvalue hentry hsame)
    | false => exact ih

/-- What is found under a name in a tree in another spelling. -/
theorem Respelled.named?_rel {R : Value → Value → Prop} (h : Respelled t t') (name : String)
    (hvalue : ∀ {v v'}, RespelledEntry (.text name, v) (.text name, v') → R v v') :
    Option.Rel R (named? name t) (named? name t') := by
  refine get?_rel h RespelledEntry.key_eq fun {e e'} hentry hsame => ?_
  have hkey : e.1 = .text name := same_text.1 hsame
  obtain ⟨k, v⟩ := e
  obtain ⟨k', v'⟩ := e'
  obtain rfl : k = .text name := hkey
  obtain rfl : k' = .text name := hentry.key_eq
  exact hvalue hentry

/-! ## Refusals -/

end Config

namespace ConfigError

/-- The same refusal, but that the color it shows may be spelled otherwise. -/
inductive Alike : ConfigError → ConfigError → Prop where
  | same (e : ConfigError) : Alike e e
  | color {items items' : List Value} (h : List.Forall₂ Value.Respelled items items') :
      Alike (.color (.list items)) (.color (.list items'))

/-- An integer that is read is out of its range. -/
inductive OutOfRange : ConfigError → Prop where
  | notPositive (name : String) {n : Int} (h : n < 1) : OutOfRange (.notPositive name n)
  | color {items : List Value} {channels : List Int}
      (hitems : List.Forall₂ Value.Denotes items channels)
      (hlength : channels.length = 3 ∨ channels.length = 4)
      (h : ∃ n ∈ channels, ¬ (0 ≤ n ∧ n ≤ 255)) : OutOfRange (.color (.list items))
  | keyCode (name : String) {code : Int} (h : ¬ Keypad.IsCode code) :
      OutOfRange (.keyCode name code)

theorem Alike.outOfRange {e e' : ConfigError} (h : e.Alike e') (he : e.OutOfRange) :
    e'.OutOfRange := by
  cases h with
  | same => exact he
  | color h =>
    cases he with
    | color hitems hlength hout =>
      refine .color ?_ hlength hout
      exact Config.mapM_integer.1 ((Value.mapM_integer_eq h).trans (Config.mapM_integer.2 hitems))

end ConfigError

namespace Config

variable {α β : Type} {t t' cs cs' : Tree} {v v' : Value}

/-- Two readings that give the same, or are refused alike. -/
inductive Agree {α : Type} : Except ConfigError α → Except ConfigError α → Prop where
  | ok (a : α) : Agree (.ok a) (.ok a)
  | error {e e' : ConfigError} (h : e.Alike e') : Agree (.error e) (.error e')

theorem Agree.refl (r : Except ConfigError α) : Agree r r := by
  cases r with
  | error e => exact .error (.same e)
  | ok a => exact .ok a

theorem Agree.of_eq {r r' : Except ConfigError α} (h : r' = r) : Agree r r' :=
  h ▸ .refl r

/-- Readings one after the other. -/
theorem Agree.bind {r r' : Except ConfigError α} {f f' : α → Except ConfigError β}
    (hr : Agree r r') (hf : ∀ a, Agree (f a) (f' a)) : Agree (r >>= f) (r' >>= f') := by
  cases hr with
  | ok a => exact hf a
  | error h => exact .error h

/-! ## The readers -/

/-- Outside colors and keymap, only an integer may be spelled otherwise. -/
theorem RespelledEntry.value {name : String}
    (h : RespelledEntry (.text name, v) (.text name, v')) (hcolors : name ≠ "colors")
    (hkeymap : name ≠ "keymap") : v.Respelled v' := by
  cases h with
  | same => exact .same v
  | number _ h => exact h
  | colors => exact absurd rfl hcolors
  | keymap => exact absurd rfl hkeymap

/-- Only entries of some names are spelled otherwise. -/
theorem RespelledEntry.value_eq {name : String}
    (h : RespelledEntry (.text name, v) (.text name, v'))
    (hname : name ∉ ["step_rate", "frame_rate", "scale", "seed", "colors", "keymap"]) : v' = v := by
  cases h with
  | same => rfl
  | number hnumber => exact absurd (List.mem_append_left ["colors", "keymap"] hnumber) hname
  | colors => exact absurd (by decide) hname
  | keymap => exact absurd (by decide) hname

theorem RespelledEntry.colors_value {name : String}
    (h : RespelledEntry (.text name, v) (.text name, v')) (hname : name = "colors") :
    RespelledIn RespelledColor v v' := by
  cases h with
  | same => exact .same v
  | number hnumber => exact absurd (hname ▸ hnumber) (by decide)
  | colors h => exact h
  | keymap => exact absurd hname (by decide)

theorem RespelledEntry.keymap_value {name : String}
    (h : RespelledEntry (.text name, v) (.text name, v')) (hname : name = "keymap") :
    RespelledIn RespelledCode v v' := by
  cases h with
  | same => exact .same v
  | number hnumber => exact absurd (hname ▸ hnumber) (by decide)
  | colors => exact absurd hname (by decide)
  | keymap h => exact h

theorem Respelled.positive_eq (h : Respelled t t') {name : String} (hcolors : name ≠ "colors")
    (hkeymap : name ≠ "keymap") (default : Int) :
    positive t' name default = positive t name default := by
  have hrel := h.named?_rel name fun hentry => hentry.value hcolors hkeymap
  unfold positive
  generalize named? name t = entry at hrel
  generalize named? name t' = entry' at hrel
  cases hrel with
  | none => rfl
  | some hv =>
    dsimp only
    rw [hv.integer_eq]

theorem Respelled.seedOf_eq (h : Respelled t t') : seedOf t' = seedOf t := by
  have hrel := h.named?_rel "seed" fun hentry => hentry.value (by decide) (by decide)
  unfold seedOf
  generalize named? "seed" t = entry at hrel
  generalize named? "seed" t' = entry' at hrel
  cases hrel with
  | none => rfl
  | some hv =>
    have hinteger := hv.integer_eq
    cases hv with
    | same => rfl
    | written hv =>
      cases hv <;> simp only [hinteger]

theorem Respelled.named?_eq (h : Respelled t t') {name : String}
    (hname : name ∉ ["step_rate", "frame_rate", "scale", "seed", "colors", "keymap"]) :
    named? name t' = named? name t := by
  have hrel := h.named?_rel name fun hentry => (hentry.value_eq hname).symm
  generalize named? name t = entry at hrel ⊢
  generalize named? name t' = entry' at hrel ⊢
  cases hrel with
  | none => rfl
  | some hv => rw [hv]

theorem bindAll_eq {entries entries' : Tree} (h : List.Forall₂ RespelledCode entries entries')
    (keys : Keymap) : bindAll keys entries' = bindAll keys entries := by
  induction h generalizing keys with
  | nil => rfl
  | @cons e e' _ _ hentry _ ih =>
    obtain ⟨key, v⟩ := e
    obtain ⟨key', v'⟩ := e'
    obtain ⟨hkey, hv⟩ := hentry
    obtain rfl : key' = key := hkey
    simp only [bindAll, hv.integer_eq, ih]

theorem Respelled.keysOf_eq (h : Respelled t t') (keys : Keymap) :
    keysOf t' keys = keysOf t keys := by
  have hrel := h.named?_rel "keymap" fun hentry => hentry.keymap_value rfl
  unfold keysOf
  generalize named? "keymap" t = entry at hrel
  generalize named? "keymap" t' = entry' at hrel
  cases hrel with
  | none => rfl
  | some hv =>
    cases hv with
    | same => rfl
    | map hentries =>
      dsimp only
      rw [bindAll_eq hentries]
      cases hentries <;> rfl

/-- A color in another spelling. -/
theorem color_agree {items items' : List Value} (h : List.Forall₂ Value.Respelled items items') :
    Agree (color (.list items)) (color (.list items')) := by
  refine (Agree.of_eq (Value.mapM_integer_eq h)).bind fun channels => ?_
  dsimp only
  split
  · exact .ok _
  · refine .error ?_
    have hwritable : (Value.list items').isWritable = (Value.list items).isWritable :=
      Value.areWritable_eq h
    rw [ConfigError.showing, ConfigError.showing, hwritable]
    split_ifs
    · exact .color h
    · exact .same _

theorem RespelledColor.agree {e e' : Scalar × Value} (h : RespelledColor e e') :
    Agree (color e.2) (color e'.2) := by
  cases h with
  | same => exact .refl _
  | channels _ h => exact color_agree h

theorem colorOf_agree (h : List.Forall₂ RespelledColor cs cs') (name : String) (truth : Bool)
    (default : Color) : Agree (colorOf cs name truth default) (colorOf cs' name truth default) := by
  have hrel : ∀ key, Option.Rel (fun v v' => Agree (color v) (color v'))
      (Entries.get? Scalar.same key cs) (Entries.get? Scalar.same key cs') :=
    fun key => get?_rel h RespelledColor.key_eq fun hentry _ => hentry.agree
  have hname := hrel (.text name)
  have htruth := hrel (.bool truth)
  unfold colorOf named? entry?
  generalize Entries.get? Scalar.same (.text name) cs = named at hname
  generalize Entries.get? Scalar.same (.text name) cs' = named' at hname
  generalize Entries.get? Scalar.same (.bool truth) cs = unquoted at htruth
  generalize Entries.get? Scalar.same (.bool truth) cs' = unquoted' at htruth
  cases hname with
  | some hcolor => exact hcolor
  | none =>
    cases htruth with
    | some hcolor => exact hcolor
    | none => exact .refl _

theorem Respelled.colorsOf_agree (h : Respelled t t') (lit dark : Color) :
    Agree (colorsOf t lit dark) (colorsOf t' lit dark) := by
  have hrel := h.named?_rel "colors" fun hentry => hentry.colors_value rfl
  unfold colorsOf
  generalize named? "colors" t = entry at hrel
  generalize named? "colors" t' = entry' at hrel
  cases hrel with
  | none => exact .refl _
  | some hv =>
    cases hv with
    | same => exact .refl _
    | map hentries =>
      have hread := (colorOf_agree hentries "on" true lit).bind fun on =>
        (colorOf_agree hentries "off" false dark).bind fun off => Agree.ok (on, off)
      cases hentries with
      | nil => exact .refl _
      | cons => exact hread

theorem Respelled.ofValue_agree (h : Respelled t t') :
    Agree (ofValue (.map t)) (ofValue (.map t')) := by
  have hlevel : levelOf t' .warning = levelOf t .warning := by
    rw [levelOf, levelOf, h.named?_eq (by decide)]
  have hdialect : dialectOf t' false = dialectOf t false := by
    rw [dialectOf, dialectOf, h.named?_eq (by decide)]
  refine (Agree.of_eq (h.positive_eq (by decide) (by decide) 480)).bind fun stepRate => ?_
  refine (Agree.of_eq (h.positive_eq (by decide) (by decide) 60)).bind fun frameRate => ?_
  refine (Agree.of_eq (h.positive_eq (by decide) (by decide) 10)).bind fun scale => ?_
  refine (Agree.of_eq h.seedOf_eq).bind fun seed => ?_
  refine (Agree.of_eq hlevel).bind fun level => ?_
  refine (h.colorsOf_agree _ _).bind fun colors => ?_
  refine (Agree.of_eq (h.keysOf_eq _)).bind fun keymap => ?_
  exact (Agree.of_eq hdialect).bind fun fullDialect => .ok _

/-- **How integers are spelled does not matter.** A tree in another spelling is read as the same
configuration, and refused if the tree is, for the same cause: in particular for an integer that is
out of its range. -/
theorem ofValue_respelled (h : Respelled t t') :
    (∀ c, ofValue (.map t) = .ok c → ofValue (.map t') = .ok c) ∧
    ∀ e, ofValue (.map t) = .error e →
      ∃ e', ofValue (.map t') = .error e' ∧ e.Alike e' ∧ (e.OutOfRange → e'.OutOfRange) := by
  have hagree := h.ofValue_agree
  generalize ofValue (.map t) = r at hagree
  generalize ofValue (.map t') = r' at hagree
  cases hagree with
  | ok a => exact ⟨fun c hc => hc, fun e he => nomatch he⟩
  | @error e e' halike =>
    refine ⟨fun c hc => (nomatch hc), fun cause hcause => ?_⟩
    obtain rfl := Except.error.inj hcause
    exact ⟨e', rfl, halike, halike.outOfRange⟩

/-- A seed in decimal digits with white space around it, a channel and a code in hexadecimal digits;
and a channel that is out of its range. -/
theorem ofValue_respelled_hexadecimal :
    let tree (seed channel code : Value) : Tree :=
      [(.text "seed", seed), (.text "colors", .map [(.bool true, .list [channel,
        .scalar (.int 0), .scalar (.int 0)])]), (.text "keymap", .map [(.text "x", code)])]
    (∃ c, ofValue (.map (tree (.scalar (.int (-7))) (.scalar (.int 171)) (.scalar (.int 10)))) =
        .ok c ∧
      ofValue (.map (tree (.scalar (.text " -7\n")) (.scalar (.text "0x00aB"))
        (.scalar (.text "0XA")))) = .ok c) ∧
    ∃ e', ofValue (.map (tree (.scalar (.int (-7))) (.scalar (.text "0x100"))
        (.scalar (.int 10)))) = .error e' ∧ e'.OutOfRange := by
  intro tree
  have htree : ∀ {seed seed' channel channel' code code' : Value}, seed.Respelled seed' →
      channel.Respelled channel' → code.Respelled code' →
      Respelled (tree seed channel code) (tree seed' channel' code') := by
    intro _ _ _ _ _ _ hseed hchannel hcode
    refine .cons (.number (by decide) hseed)
      (.cons (.colors (.map ?_)) (.cons (.keymap (.map ?_)) .nil))
    · exact .cons (.channels _ (.cons hchannel (List.forall₂_same.2 fun v _ => .same v))) .nil
    · exact .cons ⟨rfl, hcode⟩ .nil
  have hseed : (Value.scalar (.int (-7))).Respelled (.scalar (.text " -7\n")) :=
    .written (.int (-7)) (by decide)
      (@Numeral.Writes.decimal (-7) [' '] ['\n'] (List.forall_mem_singleton.2 (by decide))
        (List.forall_mem_singleton.2 (by decide)))
  have hchannel : (Value.scalar (.int 171)).Respelled (.scalar (.text "0x00aB")) :=
    .written (.int 171) (by decide)
      (@Numeral.Writes.hexadecimal 171 2 'x' ['a', 'B'] (.inl rfl) rfl)
  have hcode : (Value.scalar (.int 10)).Respelled (.scalar (.text "0XA")) :=
    .written (.int 10) (by decide) (@Numeral.Writes.hexadecimal 10 0 'X' ['A'] (.inr rfl) rfl)
  have hwide : (Value.scalar (.int 256)).Respelled (.scalar (.text "0x100")) :=
    .written (.int 256) (by decide)
      (@Numeral.Writes.hexadecimal 256 0 'x' ['1', '0', '0'] (.inl rfl) rfl)
  constructor
  · obtain ⟨hread, -⟩ := ofValue_respelled (htree hseed hchannel hcode)
    exact ⟨_, rfl, hread _ rfl⟩
  · have hwritable :
        (Value.list [.scalar (.int 256), .scalar (.int 0), .scalar (.int 0)]).isWritable = true := by
      decide +kernel
    have hcause : ofValue (.map (tree (.scalar (.int (-7))) (.scalar (.int 256))
        (.scalar (.int 10)))) = .error (.showing _ (.color _)) := rfl
    rw [ConfigError.showing, if_pos hwritable] at hcause
    obtain ⟨-, hrefused⟩ := ofValue_respelled
      (htree (.same (.scalar (.int (-7)))) hwide (.same (.scalar (.int 10))))
    obtain ⟨e', he', -, hrange⟩ := hrefused _ hcause
    refine ⟨e', he', hrange (@ConfigError.OutOfRange.color _ [256, 0, 0] ?_ (.inl rfl) ?_)⟩
    · exact .cons (.int 256) (.cons (.int 0) (.cons (.int 0) .nil))
    · exact ⟨256, by decide, by decide⟩

end Config

end Chip8
