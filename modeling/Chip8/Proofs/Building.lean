import Chip8.Config.Build
import Chip8.Proofs.Choices
import Chip8.Proofs.Frames
import Chip8.Proofs.Images
import Chip8.Proofs.Rounding

/-!
# From a configuration to a running window

What is checked when a configuration and a program image are read is all that is relied on later,
but for the pace: two rates are only checked one by one, and their quotient can be too large to be
rounded.

- `Pacing.exists_quotient`: which quotients of rates have a value.
- `Keyboard.exists_resolve`: a mapping can be looked up iff each of its names is that of a key.
- `Config.build_runs`: what becomes of a configuration that was read.
- `Config.build_tooFast`: not all of them can be built.
-/

namespace Chip8

/-- Whether there is a result does not depend on what is made of it. -/
theorem exists_map_ok {ε α β : Type} {r : Except ε α} (f : α → β) :
    (∃ b, r.map f = .ok b) ↔ ∃ a, r = .ok a := by
  cases r with
  | error e => exact ⟨fun ⟨_, h⟩ => (nomatch h), fun ⟨_, h⟩ => (nomatch h)⟩
  | ok a => exact ⟨fun _ => ⟨a, rfl⟩, fun _ => ⟨f a, rfl⟩⟩

/-! ## The pace -/

namespace Pacing

variable {a b : Int}

/-- A quotient of rates is rounded twice, if it is not too large. -/
theorem quotient_eq (ha : 0 ≤ a) (hb : 0 < b) :
    quotient a b = match Binary64.ofRatio a.natAbs b.natAbs with
      | none => .error .tooLarge
      | some u => .ok (Binary64.roundUnits u) := by
  have hsigns : (a < 0) = (b < 0) := by
    rw [eq_false (Int.not_lt.2 ha), eq_false (Int.not_lt.2 hb.le)]
  rw [quotient, if_neg hb.ne']
  cases Binary64.ofRatio a.natAbs b.natAbs with
  | none => rfl
  | some u => exact congrArg Except.ok (if_neg (not_not_intro hsigns))

theorem exists_quotient (ha : 0 ≤ a) (hb : 0 < b) :
    (∃ q, quotient a b = .ok q) ↔ a < Binary64.limit * b := by
  have hratio := Binary64.exists_ofRatio (n := a.natAbs) (Int.natAbs_pos.2 hb.ne')
  rw [← Int.ofNat_lt, Int.natCast_mul, Int.natAbs_of_nonneg ha, Int.natAbs_of_nonneg hb.le]
    at hratio
  rw [← hratio, quotient_eq ha hb]
  cases Binary64.ofRatio a.natAbs b.natAbs with
  | none => exact ⟨fun ⟨_, h⟩ => (nomatch h), fun ⟨_, h⟩ => (nomatch h)⟩
  | some u => exact ⟨fun _ => ⟨u, rfl⟩, fun _ => ⟨_, rfl⟩⟩

/-- With a positive rate below, a quotient fails in one way only. -/
theorem quotient_error {cause : PacingError} (hb : 0 < b) (h : quotient a b = .error cause) :
    cause = .tooLarge := by
  rw [quotient, if_neg hb.ne'] at h
  split at h
  · exact (Except.error.inj h).symm
  · cases h

end Pacing

namespace Config

variable {c : Config}

theorem Valid.exists_stepsPerFrame (h : c.Valid) :
    (∃ k, c.stepsPerFrame = .ok k) ↔ c.stepRate < Binary64.limit * c.frameRate := by
  rw [← Pacing.exists_quotient (Int.le_of_lt h.stepRate) h.frameRate]
  exact exists_map_ok _

theorem Valid.stepsPerFrame_error (h : c.Valid) {cause : PacingError}
    (hfails : c.stepsPerFrame = .error cause) : cause = .tooLarge := by
  unfold stepsPerFrame at hfails
  cases hquotient : Pacing.quotient c.stepRate c.frameRate with
  | error cause' =>
    rw [hquotient] at hfails
    obtain rfl := Except.error.inj hfails
    exact Pacing.quotient_error h.frameRate hquotient
  | ok q =>
    rw [hquotient] at hfails
    cases hfails

/-- The length of a frame always has a value: a second is not too long. -/
theorem Valid.exists_frameInterval (h : c.Valid) : ∃ k, c.frameInterval = .ok k := by
  have hsecond : (1000 : Int) < Binary64.limit := by decide +kernel
  have hless : 1000 < Binary64.limit * c.frameRate :=
    calc (1000 : Int) < Binary64.limit * 1 := by rwa [Int.mul_one]
      _ ≤ Binary64.limit * c.frameRate := Int.mul_le_mul_of_nonneg_left h.frameRate (by omega)
  exact (exists_map_ok _).2 ((Pacing.exists_quotient (by decide) h.frameRate).2 hless)

end Config

/-! ## The machine -/

namespace Config

variable {c : Config} {program : List UInt8} {source : RandomSource} {journal : Journal}

/-- A program that fits leaves only the pace to fail. -/
theorem build_eq (h : program.length ≤ Memory.programRoom) :
    c.build program source journal = match c.stepsPerFrame with
      | .error cause => .error (.pacing cause)
      | .ok steps => .ok (Machine.fresh program (.ofFlag c.fullDialect)
          (match c.seed with | some seed => .seeded seed | none => source)
          (journal.push (.building (Dialect.ofFlag c.fullDialect).isFull c.seed steps))) := by
  unfold build
  cases c.stepsPerFrame with
  | error cause => rfl
  | ok steps =>
    show (Machine.ofProgram? _ _ _ _).mapError BuildError.fault = _
    rw [Machine.ofProgram?_fits h]
    rfl

theorem exists_build (h : program.length ≤ Memory.programRoom) :
    (∃ m, c.build program source journal = .ok m) ↔ ∃ k, c.stepsPerFrame = .ok k := by
  rw [build_eq h]
  cases c.stepsPerFrame with
  | error cause => exact ⟨fun ⟨_, h⟩ => (nomatch h), fun ⟨_, h⟩ => (nomatch h)⟩
  | ok steps => exact ⟨fun _ => ⟨steps, rfl⟩, fun _ => ⟨_, rfl⟩⟩

/-- A machine that was built is reachable, and its configuration has a pace. -/
theorem build_eq_ok {m : Machine} (h : program.length ≤ Memory.programRoom)
    (hm : c.build program source journal = .ok m) :
    m.Reachable ∧ ∃ k, c.stepsPerFrame = .ok k := by
  refine ⟨?_, (exists_build h).1 ⟨m, hm⟩⟩
  rw [build_eq h] at hm
  split at hm
  · cases hm
  · obtain rfl := Except.ok.inj hm
    exact .fresh (Machine.ofProgram?_fits h)

end Config

/-! ## The window -/

namespace Keyboard

variable {k : Keyboard} {ν : Type} {names : List (String × ν)}

theorem exists_resolveOnto (bound : List (Int × ν)) :
    (∃ bindings, k.resolveOnto bound names = .ok bindings) ↔
      ∀ entry ∈ names, ∃ key, k.ofAnyCase? entry.1 = some key := by
  induction names generalizing bound with
  | nil => exact ⟨fun _ entry h => (nomatch h), fun _ => ⟨bound, rfl⟩⟩
  | cons entry rest ih =>
    rw [List.forall_mem_cons, resolveOnto]
    cases hkey : k.ofAnyCase? entry.1 with
    | none =>
      constructor
      · rintro ⟨_, h⟩
        cases h
      · rintro ⟨⟨_, h⟩, -⟩
        cases h
    | some key => exact (ih _).trans ⟨fun h => ⟨⟨key, rfl⟩, h⟩, fun h => h.2⟩

/-- A mapping can be looked up iff each of its names is that of a key. -/
theorem exists_resolve :
    (∃ bindings, k.resolve names = .ok bindings) ↔
      ∀ entry ∈ names, ∃ key, k.ofAnyCase? entry.1 = some key :=
  exists_resolveOnto []

end Keyboard

namespace Window

variable {c : Config} {m : Machine} {keyboard : Keyboard}

/-- A window opens on any machine, if all names of the keymap are known. -/
theorem exists_ofMachine?_known (h : c.Valid)
    (hnames : ∀ entry ∈ c.keymap, ∃ key, keyboard.ofAnyCase? entry.1 = some key) :
    ∃ w, ofMachine? keyboard m c = .ok w := by
  obtain ⟨keys, hkeys⟩ : ∃ keys, KeyState.ofKeymap? keyboard c.keymap = .ok keys :=
    (exists_map_ok _).2 (Keyboard.exists_resolve.2 hnames)
  obtain ⟨interval, hinterval⟩ := h.exists_frameInterval
  unfold ofMachine?
  rw [hkeys, hinterval]
  simp only [refresh_eq]
  exact ⟨_, rfl⟩

/-- A window that was opened on a reachable machine never fails in a frame, if there is a pace. -/
theorem runFrame_ok (h : c.Valid) {k : Nat} (hk : c.stepsPerFrame = .ok k) (hm : m.Reachable)
    {opened : Window} (hopened : ofMachine? keyboard m c = .ok opened) (events : List Event) :
    (opened.after events).runFrame.1 = .ok () := by
  obtain ⟨hresolved, rfl, hsettled⟩ := ofMachine?_eq_ok hopened
  have hkeypad : (opened.after events).keys.OnKeypad :=
    onKeypad_after (KeyState.onKeypad_ofKeymap? hresolved h.isCode) events
  exact (((hsettled hm.invariant).after events).frame_ends hk hkeypad).1

end Window

namespace Config

/-- **What becomes of a configuration that was read.** With a program image, it makes a machine iff
the quotient of its rates lies below the limit of the floating-point format, and otherwise nothing
is built because the quotient is too large. If the keyboard has a key for each name of the keymap, a
window opens on the machine, and no frame fails, whatever has happened before. -/
theorem build_runs {v : Value} {c : Config} (hc : ofValue v = .ok c) {name : String}
    {data program : List UInt8} (hprogram : Image.check name data = .ok program)
    (source : RandomSource) (journal : Journal) :
    ((∃ m, c.build program source journal = .ok m) ↔ c.stepRate < Binary64.limit * c.frameRate) ∧
    (∀ e, c.build program source journal = .error e → e = .pacing .tooLarge) ∧
    ∀ m, c.build program source journal = .ok m → ∀ keyboard : Keyboard,
      (∀ entry ∈ c.keymap, ∃ key, keyboard.ofAnyCase? entry.1 = some key) →
      ∃ opened, Window.ofMachine? keyboard m c = .ok opened ∧
        ∀ events, (opened.after events).runFrame.1 = .ok () := by
  have hvalid : c.Valid := valid_of_ofValue hc
  obtain ⟨-, -, hfits⟩ := Image.check_eq_ok hprogram
  refine ⟨(exists_build hfits).trans hvalid.exists_stepsPerFrame, fun e he => ?_,
    fun m hm keyboard hnames => ?_⟩
  · rw [build_eq hfits] at he
    split at he
    · next cause hcause =>
      obtain rfl := Except.error.inj he
      rw [hvalid.stepsPerFrame_error hcause]
    · cases he
  · obtain ⟨hreachable, k, hk⟩ := build_eq_ok hfits hm
    obtain ⟨opened, hopened⟩ := Window.exists_ofMachine?_known hvalid hnames
    exact ⟨opened, hopened, Window.runFrame_ok hvalid hk hreachable hopened⟩

/-- With nothing chosen, the program that jumps to itself runs. -/
theorem build_runs_idle :
    ofValue (.map []) = .ok {} ∧ Image.check "<bytes>" [0x12, 0x00] = .ok [0x12, 0x00] ∧
      ∃ m, Config.build {} [0x12, 0x00] (.cycle #[]) #[] = .ok m ∧
        ∃ opened, Window.ofMachine? Keyboard.leftBlock m {} = .ok opened ∧
          ∀ events, (opened.after events).runFrame.1 = .ok () := by
  have hconfig : ofValue (.map []) = .ok {} := rfl
  have himage : Image.check "<bytes>" [0x12, 0x00] = .ok [0x12, 0x00] := rfl
  obtain ⟨hbuilds, -, hruns⟩ := build_runs hconfig himage (.cycle #[]) #[]
  obtain ⟨m, hm⟩ := hbuilds.2 (by decide +kernel)
  refine ⟨hconfig, himage, m, hm, hruns m hm Keyboard.leftBlock fun entry hentry => ?_⟩
  have hknown : ∀ entry ∈ Keymap.default, (Keyboard.leftBlock.ofAnyCase? entry.1).isSome := by
    decide +kernel
  exact Option.isSome_iff_exists.1 (hknown entry hentry)

/-- Any two positive rates are accepted. -/
theorem ofValue_rates {stepRate frameRate : Int} (hstep : 0 < stepRate) (hframe : 0 < frameRate) :
    ofValue (.map [(.text "step_rate", .scalar (.int stepRate)),
      (.text "frame_rate", .scalar (.int frameRate))]) = .ok { stepRate, frameRate } := by
  refine ofValue_eq_ok.2 ⟨?_, ?_, rfl, rfl, rfl, rfl, rfl, rfl⟩
  · exact positive_int rfl hstep
  · exact positive_int rfl hframe

/-- The limit as step rate is accepted, but with one frame in a second nothing is built. -/
theorem build_tooFast :
    ¬ ∀ (v : Value) (c : Config) (name : String) (data program : List UInt8)
        (source : RandomSource) (journal : Journal), ofValue v = .ok c →
        Image.check name data = .ok program → ∃ m, c.build program source journal = .ok m := by
  intro h
  have hpos : (0 : Int) < Binary64.limit := by decide +kernel
  have hread := ofValue_rates hpos Int.one_pos
  have hpaced := (exists_build (by decide)).1
    (h _ _ "<bytes>" [0x12, 0x00] [0x12, 0x00] (.cycle #[]) #[] hread rfl)
  have hless := (valid_of_ofValue hread).exists_stepsPerFrame.1 hpaced
  exact absurd hless (by rw [Int.mul_one]; exact Int.lt_irrefl _)

end Config

end Chip8
