import Chip8.Proofs.Failure

/-!
# Runs

A run is a machine and a list of steps to attempt, each given by the keys held
in it. A step that is refused changes nothing, and the run goes on.

- `Machine.after`: the machine after a run.
- `Machine.Makes`: no step of the run is refused.
- `Machine.before`: the machine before a step of a run.
- `Machine.result?`, `Machine.MadeAt`: what comes of a step of a run.
- `Makes.stepped`, `MadeAt.stepped`: all that a step in the middle of a run changes.
- `Machine.step_related`, `Machine.lockstep`: two runs side by side; `Machine.lockstep_at` for what
  relates them by the place they have come to.
- `Machine.run_cases`: several steps with the same keys, up to the first that is refused.
- `Machine.after_bounds`: the sizes and ranges that no run of any program leaves.
-/

namespace Chip8

namespace Machine

variable {m : Machine} {keys : List (List Int)}

/-- The machine after a run, steps made and steps refused. -/
def after (m : Machine) (keys : List (List Int)) : Machine :=
  (attempts keys m).2

/-- Every step of the run is made. -/
def Makes (m : Machine) (keys : List (List Int)) : Prop :=
  ∀ result ∈ (attempts keys m).1, result = .ok ()

/-- The machine before the step at place `i` of a run; at its end, the machine after the run. -/
def before (m : Machine) (keys : List (List Int)) (i : Nat) : Machine :=
  m.after (keys.take i)

@[simp] theorem after_nil (m : Machine) : m.after [] = m := rfl

theorem after_cons (m : Machine) (ks : List Int) (rest : List (List Int)) :
    m.after (ks :: rest) = ((step ks).on m).2.after rest := rfl

@[simp] theorem makes_nil (m : Machine) : m.Makes [] := fun _ h => nomatch h

theorem makes_cons {ks : List Int} {rest : List (List Int)} :
    m.Makes (ks :: rest) ↔ ((step ks).on m).1 = .ok () ∧ ((step ks).on m).2.Makes rest :=
  List.forall_mem_cons

theorem after_append (m : Machine) (first later : List (List Int)) :
    m.after (first ++ later) = (m.after first).after later := by
  induction first generalizing m with
  | nil => rfl
  | cons ks rest ih => exact ih _

theorem makes_append {first later : List (List Int)} :
    m.Makes (first ++ later) ↔ m.Makes first ∧ (m.after first).Makes later := by
  induction first generalizing m with
  | nil => simp
  | cons ks rest ih => rw [List.cons_append, makes_cons, makes_cons, ih, after_cons, and_assoc]

@[simp] theorem before_length (m : Machine) (keys : List (List Int)) :
    m.before keys keys.length = m.after keys := by
  rw [before, List.take_length]

/-- A run goes on from each of its steps to the next. -/
theorem before_succ (m : Machine) {i : Nat} (h : i < keys.length) :
    m.before keys (i + 1) = ((step keys[i]).on (m.before keys i)).2 := by
  rw [before, List.take_succ_eq_append_getElem h, after_append]
  rfl

/-- Each step of a run without refusals is made. -/
theorem Makes.stepped (h : m.Makes keys) {i : Nat} (hi : i < keys.length) :
    (m.before keys i).refusal keys[i] = none ∧
      Stepped keys[i] (m.before keys i) (m.before keys (i + 1)) := by
  have hsplit : keys.take i ++ keys[i] :: keys.drop (i + 1) = keys := by
    rw [List.getElem_cons_drop, List.take_append_drop]
  rw [← hsplit, makes_append, makes_cons] at h
  obtain ⟨-, hmade, -⟩ := h
  exact Machine.stepped (Prod.ext hmade (before_succ m hi).symm)

/-! ## Single steps of a run -/

variable {i : Nat}

/-- The result of the step at place `i` of a run, if the run has such a step. -/
def result? (m : Machine) (keys : List (List Int)) (i : Nat) : Option (Except Error Unit) :=
  (attempts keys m).1[i]?

/-- The step at place `i` of the run is made. -/
def MadeAt (m : Machine) (keys : List (List Int)) (i : Nat) : Prop :=
  m.result? keys i = some (.ok ())

instance (m : Machine) (keys : List (List Int)) : DecidablePred (m.MadeAt keys) :=
  fun _ => inferInstanceAs (Decidable (_ = _))

theorem result?_cons (m : Machine) (ks : List Int) (rest : List (List Int)) (i : Nat) :
    m.result? (ks :: rest) (i + 1) = ((step ks).on m).2.result? rest i := rfl

/-- The steps of a run are those of its machines. -/
theorem result?_eq (m : Machine) (hi : i < keys.length) :
    m.result? keys i = some ((step keys[i]).on (m.before keys i)).1 := by
  induction keys generalizing m i with
  | nil => cases hi
  | cons ks rest ih =>
    cases i with
    | zero => rfl
    | succ i =>
      rw [result?_cons]
      exact ih ((step ks).on m).2 (Nat.lt_of_succ_lt_succ hi)

theorem MadeAt.lt (h : m.MadeAt keys i) : i < keys.length := by
  have hlength : (attempts keys m).1.length = keys.length := by
    clear h
    induction keys generalizing m with
    | nil => rfl
    | cons ks rest ih => exact congrArg (· + 1) ih
  rw [← hlength]
  exact (List.getElem?_eq_some_iff.1 h).1

theorem madeAt_iff (hi : i < keys.length) :
    m.MadeAt keys i ↔ ((step keys[i]).on (m.before keys i)).1 = .ok () := by
  rw [MadeAt, result?_eq m hi, Option.some.injEq]

/-- What a step of a run changes that is made. -/
theorem MadeAt.stepped (h : m.MadeAt keys i) (hi : i < keys.length) :
    (m.before keys i).refusal keys[i] = none ∧
      Stepped keys[i] (m.before keys i) (m.before keys (i + 1)) :=
  Machine.stepped (Prod.ext ((madeAt_iff hi).1 h) (before_succ m hi).symm)

/-- A step of a run is made unless it is refused. -/
theorem madeAt_iff_refusal (hi : i < keys.length) :
    m.MadeAt keys i ↔ (m.before keys i).refusal keys[i] = none := by
  rw [madeAt_iff hi]
  cases hrefusal : (m.before keys i).refusal keys[i] with
  | some e =>
    rw [step_refused hrefusal]
    exact ⟨fun h => (nomatch h), fun h => (nomatch h)⟩
  | none =>
    obtain ⟨m', hrun, -⟩ := step_made hrefusal
    rw [hrun]
    exact ⟨fun _ => rfl, fun _ => rfl⟩

/-- A step of a run that is refused changes nothing. -/
theorem before_refused (hi : i < keys.length) (h : ¬ m.MadeAt keys i) :
    m.before keys (i + 1) = m.before keys i := by
  rw [madeAt_iff_refusal hi] at h
  obtain ⟨e, hrefusal⟩ := Option.ne_none_iff_exists'.1 h
  rw [before_succ m hi, step_refused hrefusal]

/-! ## Two runs side by side -/

variable {R : Machine → Machine → Prop} {n : Machine}

/-- Two steps side by side. If one is refused where the other is, for the same reason, the results
are equal, and the machines are related after steps that are refused and steps that are made. -/
theorem step_related_after {a b : List Int} (hrefusal : n.refusal b = m.refusal a)
    (hrefused : ∀ e, m.refusal a = some e → R m n)
    (hmade : m.refusal a = none → ∀ m', Stepped a m m' → ∃ n', Stepped b n n' ∧ R m' n') :
    ((step a).on m).1 = ((step b).on n).1 ∧ R ((step a).on m).2 ((step b).on n).2 := by
  cases hm : m.refusal a with
  | some e =>
    rw [step_refused hm, step_refused (hrefusal.trans hm)]
    exact ⟨rfl, hrefused e hm⟩
  | none =>
    obtain ⟨m', hrun, hstepped⟩ := step_made hm
    obtain ⟨n', hrun', hstepped'⟩ := step_made (hrefusal.trans hm)
    obtain ⟨n'', hstepped'', hrelated⟩ := hmade hm m' hstepped
    rw [hrun, hrun', hstepped'.unique hstepped'']
    exact ⟨rfl, hrelated⟩

/-- Two steps side by side. If one is refused where the other is, for the same reason, and what
relates the machines is kept by steps that are made, then it is kept with equal results. -/
theorem step_related {a b : List Int} (h : R m n) (hrefusal : n.refusal b = m.refusal a)
    (hmade : m.refusal a = none → ∀ m', Stepped a m m' → ∃ n', Stepped b n n' ∧ R m' n') :
    ((step a).on m).1 = ((step b).on n).1 ∧ R ((step a).on m).2 ((step b).on n).2 :=
  step_related_after hrefusal (fun _ _ => h) hmade

/-- Two runs whose machines are related at each place in the way of that place, with equal results
up to there. -/
theorem lockstep_at {P : Nat → Machine → Machine → Prop} {others : List (List Int)}
    (hlength : keys.length = others.length) (hstart : P 0 m n) {k : Nat} (hk : k ≤ keys.length)
    (hstep : ∀ i (hi : i < k), P i (m.before keys i) (n.before others i) →
      ((step keys[i]).on (m.before keys i)).1 = ((step others[i]).on (n.before others i)).1 ∧
        P (i + 1) ((step keys[i]).on (m.before keys i)).2
          ((step others[i]).on (n.before others i)).2) :
    P k (m.before keys k) (n.before others k) ∧
      ∀ i < k, m.result? keys i = n.result? others i := by
  induction k with
  | zero => exact ⟨hstart, fun i hi => nomatch hi⟩
  | succ k ih =>
    have hothers : k < others.length := hlength ▸ hk
    obtain ⟨hrelated, hresults⟩ := ih (Nat.le_of_succ_le hk) fun i hi =>
      hstep i (Nat.lt_succ_of_lt hi)
    obtain ⟨hresult, hnext⟩ := hstep k (Nat.lt_succ_self k) hrelated
    rw [before_succ m hk, before_succ n hothers]
    refine ⟨hnext, fun i hi => ?_⟩
    rcases Nat.lt_succ_iff_lt_or_eq.1 hi with hold | rfl
    · exact hresults i hold
    · rw [result?_eq m hk, result?_eq n hothers, hresult]

/-- **Runs in lockstep.** What relates the two machines and is kept by each pair of steps with
equal results holds in the end, and up to there all results are equal. -/
theorem lockstep {others : List (List Int)}
    (hlength : keys.length = others.length) (hstart : R m n) {k : Nat} (hk : k ≤ keys.length)
    (hstep : ∀ i (hi : i < k), R (m.before keys i) (n.before others i) →
      ((step keys[i]).on (m.before keys i)).1 = ((step others[i]).on (n.before others i)).1 ∧
        R ((step keys[i]).on (m.before keys i)).2 ((step others[i]).on (n.before others i)).2) :
    R (m.before keys k) (n.before others k) ∧
      ∀ i < k, m.result? keys i = n.result? others i :=
  lockstep_at (P := fun _ => R) hlength hstart hk hstep

/-! ## Steps with the same keys -/

/-- Steps do not begin where the first one is refused. -/
theorem run_refused {held : List Int} {e : Error} (h : m.refusal held = some e) {n : Nat}
    (hn : 0 < n) : (run n held).on m = (.error e, m) := by
  obtain ⟨n, rfl⟩ := Nat.exists_eq_succ_of_ne_zero (Nat.ne_of_gt hn)
  rw [run, Action.on_bind, step_refused h]

/-- Of several steps with the same keys all are made, or some are and the next one is refused. -/
theorem run_cases (m : Machine) (held : List Int) (n : Nat) :
    m.Makes (List.replicate n held) ∧
        (run n held).on m = (.ok (), m.after (List.replicate n held)) ∨
      ∃ j < n, ∃ e, m.Makes (List.replicate j held) ∧
        (m.after (List.replicate j held)).refusal held = some e ∧
        (run n held).on m = (.error e, m.after (List.replicate j held)) := by
  induction n generalizing m with
  | zero => exact .inl ⟨makes_nil m, rfl⟩
  | succ n ih =>
    cases hrefusal : m.refusal held with
    | some e =>
      exact .inr ⟨0, Nat.succ_pos n, e, makes_nil m, hrefusal, run_refused hrefusal n.succ_pos⟩
    | none =>
      obtain ⟨m', hstep, -⟩ := step_made hrefusal
      have hrun : (run (n + 1) held).on m = (run n held).on m' := by
        rw [run, Action.on_bind, hstep]
      rcases ih m' with ⟨hmakes, hafter⟩ | ⟨j, hj, e, hmakes, hlast, hafter⟩
      · refine .inl ⟨?_, ?_⟩
        · rw [List.replicate_succ, makes_cons, hstep]
          exact ⟨rfl, hmakes⟩
        · rw [hrun, hafter, List.replicate_succ, after_cons, hstep]
      · have hshift : m.after (List.replicate (j + 1) held) = m'.after (List.replicate j held) := by
          rw [List.replicate_succ, after_cons, hstep]
        refine .inr ⟨j + 1, Nat.succ_lt_succ hj, e, ?_, ?_, ?_⟩
        · rw [List.replicate_succ, makes_cons, hstep]
          exact ⟨rfl, hmakes⟩
        · rw [hshift, hlast]
        · rw [hrun, hafter, hshift]

/-- Steps that are made are counted. -/
theorem Makes.cycles (h : m.Makes keys) : (m.after keys).cycles = m.cycles + keys.length := by
  induction keys generalizing m with
  | nil => rfl
  | cons ks rest ih =>
    obtain ⟨hmade, hrest⟩ := makes_cons.1 h
    obtain ⟨-, hstepped⟩ := Machine.stepped (Prod.ext hmade rfl)
    rw [after_cons, ih hrest, hstepped.cycles, List.length_cons]
    omega

/-! ## Bounds -/

/-- A run from a reachable machine stays among the reachable ones. -/
theorem Reachable.after (h : Reachable m) (keys : List (List Int)) : Reachable (m.after keys) := by
  induction keys generalizing m with
  | nil => exact h
  | cons ks rest ih => exact ih (h.step ks)

theorem Invariant.after (h : Invariant m) (keys : List (List Int)) : Invariant (m.after keys) := by
  induction keys generalizing m with
  | nil => exact h
  | cons ks rest ih => exact ih (h.step ks)

/-- **The sizes and ranges that no run leaves.** Whatever program is loaded and whichever keys are
held, in steps that are made and in steps that are refused: memory, the registers and the screen
keep their sizes, every number of the machine stays in its range, and the steps to the timers' next
decay follow the count of steps. -/
theorem after_bounds {program : List UInt8} (h : program.length ≤ 3584) (dialect : Dialect)
    (source : RandomSource) (journal : Journal) (keys : List (List Int)) :
    ∃ start, ofProgram? program dialect source journal = .ok start ∧
      let m := start.after keys
      m.memory.cells.toList.length = 4096 ∧
      (m.registers.general.toList.length = 16 ∧
        ∀ v ∈ m.registers.general.toList, v.toNat ≤ 255) ∧
      (0 ≤ m.registers.index ∧ m.registers.index ≤ 0xFFFF) ∧
      (0 ≤ m.registers.counter ∧ m.registers.counter ≤ 0x10FE) ∧
      (m.stack.depth ≤ 16 ∧ ∀ a ∈ m.stack.frames, 0 ≤ a ∧ a ≤ 0xFFE) ∧
      (0 ≤ m.timers.delay ∧ m.timers.delay ≤ 255) ∧
      (0 ≤ m.timers.sound ∧ m.timers.sound ≤ 255) ∧
      (m.screen.pixels.toList.length = 2048 ∧
        ∀ p ∈ m.screen.pixels.toList, p.toNat = 0 ∨ p.toNat = 1) ∧
      m.timers.untilDecay = 8 - m.cycles % 8 := by
  have hstart : ofProgram? program dialect source journal =
      .ok (fresh program dialect source journal) := ofProgram?_fits h
  have hinvariant := ((Reachable.fresh hstart).after keys).invariant
  refine ⟨_, hstart, Vector.length_toList .., ⟨Vector.length_toList .., ?_⟩,
    hinvariant.index, hinvariant.counter, ⟨hinvariant.depth, ?_⟩,
    hinvariant.delay, hinvariant.sound, ⟨Vector.length_toList .., ?_⟩, hinvariant.phase⟩
  · intro v _
    exact Nat.le_of_lt_succ v.toNat_lt
  · intro a ha
    exact hinvariant.entries a (List.mem_reverse.1 ha)
  · intro p _
    cases p
    · exact .inl rfl
    · exact .inr rfl

/-- A program that calls itself without end, and at last a key that does not exist. -/
theorem after_bounds_recursion :
    ([0x22, 0x02, 0x22, 0x00] : List UInt8).length ≤ 3584 ∧
      ∃ start, ofProgram? [0x22, 0x02, 0x22, 0x00] {} (.cycle #[]) #[] = .ok start ∧
        let m := start.after (List.replicate 20 [] ++ [[16]])
        m.stack.depth ≤ 16 ∧ m.registers.counter ≤ 0x10FE ∧
          m.timers.untilDecay = 8 - m.cycles % 8 := by
  have hfits : ([0x22, 0x02, 0x22, 0x00] : List UInt8).length ≤ 3584 := by decide
  obtain ⟨start, hstart, -, -, -, ⟨-, hcounter⟩, ⟨hdepth, -⟩, -, -, -, hphase⟩ :=
    after_bounds hfits {} (.cycle #[]) #[] (List.replicate 20 [] ++ [[16]])
  exact ⟨hfits, start, hstart, hdepth, hcounter, hphase⟩

end Machine

end Chip8
