import Chip8.Proofs.Block
import Chip8.Proofs.Merging
import Chip8.Proofs.Reading
import Mathlib.Data.List.Forall2

/-!
# Readers

What each part of a tree is read as.

- `Value.Denotes`, `Value.IsColor`, `Config.Binds`: what the entries of a tree stand for.
- `Config.integer_eq_ok`, `Config.exists_color`, `Config.bindAll_eq_ok`: integers, colors and
  keymaps are read as what they stand for.
- `Config.exists_positive` and the lemmas behind it: which entries the readers accept.
- `Config.ofValue_eq_ok`: a configuration is read of a mapping iff each of its parts is.
-/

namespace Chip8

/-! ## What entries stand for -/

namespace Value

/-- The integer that a tree stands for. A truth value or a floating-point number stands for
none. -/
inductive Denotes : Value → Int → Prop where
  | int (n : Int) : Denotes (.scalar (.int n)) n
  | numeral {s : String} {n : Int} (h : Numeral.read s = .ok n) : Denotes (.scalar (.text s)) n

/-- Three or four channels, each of which fits a byte. -/
structure IsColor (v : Value) : Prop where
  channels : ∃ items channels, v = .list items ∧ List.Forall₂ Denotes items channels ∧
    (channels.length = 3 ∨ channels.length = 4) ∧ ∀ n ∈ channels, 0 ≤ n ∧ n ≤ 255

end Value

namespace Config

variable {t t' : Tree} {c : Config} {v : Value} {keys keymap : Keymap}

/-- An entry of a keymap binds a name, in upper case, to a code of the keypad. An integer as a name
is written out, so it must not be too long for that. -/
structure Binds (entry : Scalar × Value) (key : String × Int) : Prop where
  writable : entry.1.isWritable = true
  name : key.1 = UpperCase.ofString entry.1.plain
  code : entry.2.Denotes key.2
  isCode : Keypad.IsCode key.2

/-- The entry that a color is read from: its name comes before the truth value that the name reads
as without quotes. -/
def colorEntry? (t : Tree) (name : String) (truth : Bool) : Option Value :=
  (named? name t).orElse fun _ => entry? (.bool truth) t

/-- The entries of the keymap; one that counts as nothing has none. -/
def keymapEntries (t : Tree) : Tree :=
  match named? "keymap" t with
  | some (.map entries) => entries
  | _ => []

/-! ## Integers and colors -/

theorem integer_eq_ok {n : Int} : integer v = .ok n ↔ v.Denotes n := by
  constructor
  · intro h
    unfold integer at h
    split at h
    · obtain rfl := Except.ok.inj h
      exact .int _
    · next s =>
      cases hread : Numeral.read s with
      | error cause =>
        rw [hread] at h
        cases h
      | ok m =>
        rw [hread] at h
        obtain rfl := Except.ok.inj h
        exact .numeral hread
    · cases h
  · rintro (_ | hread)
    · rfl
    · show (Numeral.read _).mapError _ = _
      rw [hread]
      rfl

theorem mapM_integer {items : List Value} {ns : List Int} :
    items.mapM integer = .ok ns ↔ List.Forall₂ Value.Denotes items ns := by
  induction items generalizing ns with
  | nil =>
    rw [List.mapM_nil, List.forall₂_nil_left_iff]
    exact ⟨fun h => (Except.ok.inj h).symm, fun h => h ▸ rfl⟩
  | cons v rest ih =>
    rw [List.mapM_cons, List.forall₂_cons_left_iff]
    constructor
    · intro h
      obtain ⟨n, hn, h⟩ := exists_of_bind h
      obtain ⟨ms, hms, h⟩ := exists_of_bind h
      exact ⟨n, ms, integer_eq_ok.1 hn, ih.1 hms, (Except.ok.inj h).symm⟩
    · rintro ⟨n, ms, hn, hms, rfl⟩
      rw [integer_eq_ok.2 hn, ih.2 hms]
      rfl

/-- A list of three or four channels; the fourth is full opacity if it is missing. -/
theorem color_list {items : List Value} {channels : List Int} {red green blue opacity : UInt8}
    (hitems : List.Forall₂ Value.Denotes items channels)
    (hbytes : Byte.toInts [red, green, blue, opacity] =
      if channels.length = 3 then channels ++ [255] else channels) :
    color (.list items) = .ok ⟨red, green, blue, opacity⟩ := by
  have hread : items.mapM integer = pure channels := mapM_integer.2 hitems
  have hfour : (if channels.length = 3 then channels ++ [255] else channels).mapM Byte.ofInt? =
      some [red, green, blue, opacity] := Byte.mapM_ofInt?.2 hbytes
  simp only [color, hread, pure_bind, hfour]
  rfl

theorem exists_color : (∃ shade, color v = .ok shade) ↔ v.IsColor := by
  constructor
  · rintro ⟨shade, h⟩
    cases v with
    | scalar s => cases h
    | map entries => cases h
    | list items =>
      obtain ⟨channels, hchannels, h⟩ := exists_of_bind h
      refine ⟨items, channels, rfl, mapM_integer.1 hchannels, ?_⟩
      dsimp only at h
      split at h
      · next red green blue opacity hbytes =>
        have hall := Byte.mapM_ofInt?.1 hbytes
        have hrange : ∀ n ∈ Byte.toInts [red, green, blue, opacity], 0 ≤ n ∧ n ≤ 255 :=
          Byte.toInts_range
        have hlength := congrArg List.length hall
        rw [hall] at hrange
        split_ifs at hrange hlength with hthree
        · exact ⟨.inl hthree, fun n hn => hrange n (List.mem_append_left _ hn)⟩
        · exact ⟨.inr hlength.symm, hrange⟩
      · cases h
  · rintro ⟨items, channels, rfl, hitems, hlength, hrange⟩
    obtain ⟨bs, hbs⟩ : ∃ bs,
        Byte.toInts bs = if channels.length = 3 then channels ++ [255] else channels := by
      refine Byte.exists_toInts ?_
      split_ifs
      · exact List.forall_mem_append.2 ⟨hrange, by decide⟩
      · exact hrange
    have hfour : bs.length = 4 := by
      have := congrArg List.length hbs
      rw [Byte.toInts, List.length_map] at this
      rcases hlength with hthree | hfour
      · rw [this, if_pos hthree, List.length_append, hthree]
        rfl
      · rw [this, if_neg (by omega), hfour]
    obtain ⟨red, green, blue, opacity, rfl⟩ := List.length_eq_four.1 hfour
    exact ⟨_, color_list hitems hbs⟩

/-! ## The readers -/

theorem positive_eq_ok {name : String} {default n : Int} (hdefault : 1 ≤ default)
    (h : positive t name default = .ok n) : 1 ≤ n := by
  unfold positive at h
  split at h
  · obtain rfl := Except.ok.inj h
    exact hdefault
  · obtain ⟨m, -, h⟩ := exists_of_bind h
    split_ifs at h with hpos
    obtain rfl := Except.ok.inj h
    exact hpos

/-- A positive integer that is written as one. -/
theorem positive_int {name : String} {n default : Int}
    (hnamed : named? name t = some (.scalar (.int n))) (hpos : 1 ≤ n) :
    positive t name default = .ok n := by
  rw [positive, hnamed]
  exact if_pos hpos

theorem exists_positive {name : String} {default : Int} :
    (∃ n, positive t name default = .ok n) ↔ ∀ v ∈ named? name t, ∃ n, v.Denotes n ∧ 1 ≤ n := by
  unfold positive
  cases named? name t with
  | none => exact ⟨fun _ _ h => (nomatch h), fun _ => ⟨default, rfl⟩⟩
  | some v =>
    constructor
    · rintro ⟨n, h⟩ w hw
      obtain rfl := Option.some.inj hw
      obtain ⟨m, hm, h⟩ := exists_of_bind h
      split_ifs at h with hpos
      exact ⟨m, integer_eq_ok.1 hm, hpos⟩
    · intro h
      obtain ⟨n, hn, hpos⟩ := h v rfl
      refine ⟨n, ?_⟩
      show (integer v >>= _) = _
      rw [integer_eq_ok.2 hn]
      exact if_pos hpos

theorem exists_seedOf :
    (∃ seed, seedOf t = .ok seed) ↔
      ∀ v ∈ named? "seed" t, v = .scalar .null ∨ ∃ n, v.Denotes n := by
  unfold seedOf
  split
  · next hnone => simp [hnone]
  · next hnull => simp [hnull]
  · next v hnull hsome =>
    constructor
    · rintro ⟨seed, h⟩ w hw
      obtain rfl := Option.some.inj (hsome.symm.trans hw)
      obtain ⟨n, hn, -⟩ := exists_of_bind h
      exact .inr ⟨n, integer_eq_ok.1 hn⟩
    · intro h
      rcases h v hsome with rfl | ⟨n, hn⟩
      · exact absurd rfl hnull
      · exact ⟨some n, by rw [integer_eq_ok.2 hn]; rfl⟩

theorem ofName?_eq_some {name : String} {level : Level} (h : Level.ofName? name = some level) :
    name = level.name := by
  have := List.find?_some h
  exact (of_decide_eq_true this).symm

theorem ofName?_name (level : Level) : Level.ofName? level.name = some level := by
  cases level <;> decide

theorem exists_levelOf {default : Level} :
    (∃ level, levelOf t default = .ok level) ↔
      ∀ v ∈ named? "log_level" t, ∃ level : Level, UpperCase.ofString v.text = level.name := by
  unfold levelOf
  cases named? "log_level" t with
  | none => exact ⟨fun _ _ h => (nomatch h), fun _ => ⟨default, rfl⟩⟩
  | some v =>
    constructor
    · rintro ⟨level, h⟩ w hw
      obtain rfl := Option.some.inj hw
      dsimp only at h
      split at h
      · next named hnamed => exact ⟨named, ofName?_eq_some hnamed⟩
      · cases h
    · intro h
      obtain ⟨level, hlevel⟩ := h v rfl
      refine ⟨level, ?_⟩
      dsimp only
      rw [hlevel, ofName?_name]

theorem exists_colorOf {name : String} {truth : Bool} {default : Color} :
    (∃ shade, colorOf t name truth default = .ok shade) ↔
      ∀ w ∈ colorEntry? t name truth, w.IsColor := by
  unfold colorOf colorEntry?
  cases (named? name t).orElse fun _ => entry? (.bool truth) t with
  | none => exact ⟨fun _ _ h => (nomatch h), fun _ => ⟨default, rfl⟩⟩
  | some v => exact exists_color.trans ⟨fun h _ hw => Option.some.inj hw ▸ h, fun h => h v rfl⟩

theorem exists_colorsOf {lit dark : Color} :
    (∃ colors, colorsOf t lit dark = .ok colors) ↔
      ∀ v ∈ named? "colors" t, v.isNothing = true ∨
        ∃ cs, v = .map cs ∧ (∀ w ∈ colorEntry? cs "on" true, w.IsColor) ∧
          ∀ w ∈ colorEntry? cs "off" false, w.IsColor := by
  unfold colorsOf
  cases named? "colors" t with
  | none => exact ⟨fun _ _ h => (nomatch h), fun _ => ⟨(lit, dark), rfl⟩⟩
  | some v =>
    dsimp only
    split
    · next hnothing =>
      exact ⟨fun _ w hw => .inl (Option.some.inj hw ▸ hnothing), fun _ => ⟨(lit, dark), rfl⟩⟩
    · next hsomething =>
      constructor
      · rintro ⟨colors, h⟩ w hw
        obtain rfl := Option.some.inj hw
        refine .inr ?_
        cases v with
        | map cs =>
          obtain ⟨on, hon, h⟩ := exists_of_bind h
          obtain ⟨off, hoff, -⟩ := exists_of_bind h
          exact ⟨cs, rfl, exists_colorOf.1 ⟨on, hon⟩, exists_colorOf.1 ⟨off, hoff⟩⟩
        | scalar s => cases h
        | list items => cases h
      · intro h
        obtain ⟨cs, rfl, hon, hoff⟩ := (h v rfl).resolve_left hsomething
        obtain ⟨on, hon⟩ := exists_colorOf.2 hon
        obtain ⟨off, hoff⟩ := exists_colorOf.2 hoff
        refine ⟨(on, off), ?_⟩
        dsimp only
        rw [hon]
        show (colorOf cs "off" false dark >>= _) = _
        rw [hoff]
        rfl

/-- All members of a list are related to something iff the list is. -/
theorem exists_forall₂ {α β : Type} {R : α → β → Prop} {as : List α} :
    (∃ bs, List.Forall₂ R as bs) ↔ ∀ a ∈ as, ∃ b, R a b := by
  induction as with
  | nil => exact ⟨fun _ a ha => (nomatch ha), fun _ => ⟨[], .nil⟩⟩
  | cons a rest ih =>
    rw [List.forall_mem_cons, ← ih]
    constructor
    · rintro ⟨_, hall⟩
      obtain ⟨b, bs, hfirst, hrest, -⟩ := List.forall₂_cons_left_iff.1 hall
      exact ⟨⟨b, hfirst⟩, bs, hrest⟩
    · rintro ⟨⟨b, hfirst⟩, bs, hrest⟩
      exact ⟨b :: bs, .cons hfirst hrest⟩

/-- Binding the keys of a mapping is putting the bindings that its entries stand for. -/
theorem bindAll_eq_ok {entries : Tree} :
    bindAll keys entries = .ok keymap ↔
      ∃ pairs, List.Forall₂ Binds entries pairs ∧ Entries.putAll (· = ·) pairs keys = keymap := by
  induction entries generalizing keys with
  | nil =>
    constructor
    · intro h
      exact ⟨[], .nil, Except.ok.inj h⟩
    · rintro ⟨_, ⟨⟩, rfl⟩
      rfl
  | cons entry rest ih =>
    obtain ⟨key, v⟩ := entry
    constructor
    · intro h
      obtain ⟨code, hcode, h⟩ := exists_of_bind h
      split_ifs at h with hwritable hrange
      obtain ⟨pairs, hpairs, rfl⟩ := ih.1 h
      refine ⟨(UpperCase.ofString key.plain, code) :: pairs, .cons ?_ hpairs, rfl⟩
      exact ⟨by simpa using hwritable, rfl, integer_eq_ok.1 hcode, hrange.1,
        Int.lt_add_one_iff.2 hrange.2⟩
    · rintro ⟨_, hpairs, rfl⟩
      obtain ⟨⟨name, code⟩, pairs, hkey, hrest, rfl⟩ := List.forall₂_cons_left_iff.1 hpairs
      obtain ⟨hwritable, rfl, hcode, hlow, hhigh⟩ := hkey
      have hrange : 0 ≤ code ∧ code ≤ 15 := ⟨hlow, Int.lt_add_one_iff.1 hhigh⟩
      have hkept : (!key.isWritable) = false := by rw [hwritable]; rfl
      show (integer v >>= _) = _
      rw [integer_eq_ok.2 hcode]
      show (if (!key.isWritable) = true then throw .unwritable
        else if 0 ≤ code ∧ code ≤ 15 then bindAll (bind keys key.plain code) rest
        else throw _) = _
      rw [hkept, if_neg Bool.false_ne_true, if_pos hrange]
      exact ih.2 ⟨pairs, hrest, rfl⟩

/-- A keymap is read as bindings on top of those that are there. -/
theorem keysOf_eq_ok (h : keysOf t keys = .ok keymap) :
    ∃ pairs, List.Forall₂ Binds (keymapEntries t) pairs ∧
      Entries.putAll (· = ·) pairs keys = keymap := by
  unfold keysOf at h
  unfold keymapEntries
  cases hnamed : named? "keymap" t with
  | none =>
    rw [hnamed] at h
    exact ⟨[], .nil, Except.ok.inj h⟩
  | some v =>
    rw [hnamed] at h
    dsimp only at h
    cases v with
    | map entries =>
      cases entries with
      | nil => exact ⟨[], .nil, Except.ok.inj h⟩
      | cons first rest => exact bindAll_eq_ok.1 h
    | scalar s =>
      split_ifs at h
      exact ⟨[], .nil, Except.ok.inj h⟩
    | list items =>
      split_ifs at h
      exact ⟨[], .nil, Except.ok.inj h⟩

theorem exists_keysOf :
    (∃ keymap, keysOf t keys = .ok keymap) ↔
      ∀ v ∈ named? "keymap" t, v.isNothing = true ∨
        ∃ entries, v = .map entries ∧ ∀ entry ∈ entries, ∃ key, Binds entry key := by
  unfold keysOf
  cases named? "keymap" t with
  | none => exact ⟨fun _ _ h => (nomatch h), fun _ => ⟨keys, rfl⟩⟩
  | some v =>
    dsimp only
    split
    · next hnothing =>
      exact ⟨fun _ w hw => .inl (Option.some.inj hw ▸ hnothing), fun _ => ⟨keys, rfl⟩⟩
    · next hsomething =>
      constructor
      · rintro ⟨keymap, h⟩ w hw
        obtain rfl := Option.some.inj hw
        refine .inr ?_
        cases v with
        | map entries =>
          obtain ⟨pairs, hpairs, -⟩ := bindAll_eq_ok.1 h
          exact ⟨entries, rfl, exists_forall₂.1 ⟨pairs, hpairs⟩⟩
        | scalar s => cases h
        | list items => cases h
      · intro h
        obtain ⟨entries, rfl, hentries⟩ := (h v rfl).resolve_left hsomething
        obtain ⟨pairs, hpairs⟩ := exists_forall₂.2 hentries
        exact ⟨_, bindAll_eq_ok.2 ⟨pairs, hpairs, rfl⟩⟩

theorem exists_dialectOf {default : Bool} :
    (∃ full, dialectOf t default = .ok full) ↔
      ∀ v ∈ named? "quirks" t, ∃ b, v = .scalar (.bool b) := by
  unfold dialectOf
  split
  · next hnone => simp [hnone]
  · next b hbool => simp [hbool]
  · next v hother hsome =>
    constructor
    · rintro ⟨full, h⟩
      cases h
    · intro h
      obtain ⟨b, rfl⟩ := h v hsome
      exact absurd rfl (hother b)

/-! ## Whole trees -/

/-- The readings that a configuration is put together from. -/
structure Reads (t : Tree) (c : Config) : Prop where
  stepRate : positive t "step_rate" 480 = .ok c.stepRate
  frameRate : positive t "frame_rate" 60 = .ok c.frameRate
  scale : positive t "scale" 10 = .ok c.scale
  seed : seedOf t = .ok c.seed
  level : levelOf t .warning = .ok c.level
  colors : colorsOf t .litDefault .darkDefault = .ok (c.lit, c.dark)
  keymap : keysOf t .default = .ok c.keymap
  dialect : dialectOf t false = .ok c.fullDialect

/-- A configuration is read of a mapping iff each of its parts is. -/
theorem ofValue_eq_ok : ofValue (.map t) = .ok c ↔ Reads t c := by
  constructor
  · intro h
    obtain ⟨stepRate, hstepRate, h⟩ := exists_of_bind h
    obtain ⟨frameRate, hframeRate, h⟩ := exists_of_bind h
    obtain ⟨scale, hscale, h⟩ := exists_of_bind h
    obtain ⟨seed, hseed, h⟩ := exists_of_bind h
    obtain ⟨level, hlevel, h⟩ := exists_of_bind h
    obtain ⟨⟨lit, dark⟩, hcolors, h⟩ := exists_of_bind h
    obtain ⟨keymap, hkeymap, h⟩ := exists_of_bind h
    obtain ⟨full, hfull, h⟩ := exists_of_bind h
    obtain rfl := Except.ok.inj h
    exact ⟨hstepRate, hframeRate, hscale, hseed, hlevel, hcolors, hkeymap, hfull⟩
  · rintro ⟨hstepRate, hframeRate, hscale, hseed, hlevel, hcolors, hkeymap, hfull⟩
    simp only [ofValue, hstepRate, hframeRate, hscale, hseed, hlevel, hcolors, hkeymap, hfull]
    rfl

end Config

end Chip8
