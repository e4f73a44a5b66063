import Chip8.Proofs.Run
import Mathlib.Data.Nat.Count

/-!
# Open calls

What the call stack holds after a run: the calls of the run that no return has
closed, where calls and returns match each other like brackets.

- `Bracket.Balanced`, `Bracket.Matching`: bracket matching among the places of a
  sequence, without a stack.
- `Bracket.Height`: a number that goes up with each opening and down with each
  closing bracket; the depth of the call stack is one.
- `Bracket.Pending`: the places whose brackets are still open, with balanced
  stretches between them. The induction over a run carries it.
- `Machine.frames_after`: the frames after a run are the program counters of its
  open calls, and every return closes the call that matches it.
-/

namespace Chip8

/-! ## Matching brackets -/

namespace Bracket

/-- From place `i` up to place `j` every bracket is closed that is opened, and no other. -/
inductive Balanced (opens closes : Nat → Prop) : Nat → Nat → Prop
  | nil (i : Nat) : Balanced opens closes i i
  | skip {i j : Nat} (before : Balanced opens closes i j) (hopens : ¬ opens j)
      (hcloses : ¬ closes j) : Balanced opens closes i (j + 1)
  | nest {i j k : Nat} (before : Balanced opens closes i j) (hopens : opens j)
      (inner : Balanced opens closes (j + 1) k) (hcloses : closes k) :
      Balanced opens closes i (k + 1)

/-- The bracket opened at `i` is closed at `j`. -/
structure Matching (opens closes : Nat → Prop) (i j : Nat) : Prop where
  opened : opens i
  inner : Balanced opens closes (i + 1) j
  closed : closes j

/-- A number that counts the open brackets up to place `n`. -/
structure Height (opens closes : Nat → Prop) (n : Nat) (height : Nat → Nat) : Prop where
  opened : ∀ i < n, opens i → height (i + 1) = height i + 1
  closed : ∀ i < n, closes i → height i = height (i + 1) + 1
  kept : ∀ i < n, ¬ opens i → ¬ closes i → height (i + 1) = height i

variable {opens closes : Nat → Prop} {height : Nat → Nat} {i j k n : Nat}

theorem Balanced.le (h : Balanced opens closes i j) : i ≤ j := by
  induction h with
  | nil i => exact Nat.le_refl i
  | skip _ _ _ ih => exact Nat.le_succ_of_le ih
  | nest _ _ _ _ ihbefore ihinner => omega

theorem Balanced.trans (h : Balanced opens closes i j) (later : Balanced opens closes j k) :
    Balanced opens closes i k := by
  induction later with
  | nil => exact h
  | skip _ hopens hcloses ih => exact .skip (ih h) hopens hcloses
  | nest _ hopens inner hcloses ih _ => exact .nest (ih h) hopens inner hcloses

theorem Matching.lt (h : Matching opens closes i j) : i < j :=
  h.inner.le

/-- The heights at both ends of a balanced stretch are the same, and none between is lower. -/
theorem Balanced.heights (h : Balanced opens closes i j) (hh : Height opens closes n height)
    (hj : j ≤ n) : height j = height i ∧ ∀ l, i ≤ l → l ≤ j → height i ≤ height l := by
  induction h with
  | nil i =>
    refine ⟨rfl, fun l hil hli => ?_⟩
    rw [Nat.le_antisymm hil hli]
  | @skip i j _ hopens hcloses ih =>
    obtain ⟨hend, hlow⟩ := ih (Nat.le_of_succ_le hj)
    have hkept := hh.kept j hj hopens hcloses
    refine ⟨hkept.trans hend, fun l hil hlj => ?_⟩
    by_cases hl : l ≤ j
    · exact hlow l hil hl
    · obtain rfl : l = j + 1 := by omega
      omega
  | @nest i j k _ hopens inner hcloses ihbefore ihinner =>
    have hjk := inner.le
    obtain ⟨hend, hlow⟩ := ihbefore (by omega)
    obtain ⟨hend', hlow'⟩ := ihinner (by omega)
    have hopened := hh.opened j (by omega) hopens
    have hclosed := hh.closed k (by omega) hcloses
    refine ⟨by omega, fun l hil hlk => ?_⟩
    by_cases hlj : l ≤ j
    · exact hlow l hil hlj
    · by_cases hl : l ≤ k
      · have hinner := hlow' l (by omega) hl
        omega
      · obtain rfl : l = k + 1 := by omega
        omega

/-- What is opened in a balanced stretch is closed in it. -/
theorem Balanced.exists_matching (h : Balanced opens closes i j)
    (hh : Height opens closes n height) (hj : j ≤ n) {l : Nat} (hil : i ≤ l) (hlj : l < j)
    (hl : opens l) : ∃ r < j, Matching opens closes l r := by
  induction h with
  | nil => omega
  | @skip i j _ hopens _ ih =>
    rcases Nat.lt_succ_iff_lt_or_eq.1 hlj with hlt | rfl
    · obtain ⟨r, hr, hmatching⟩ := ih (by omega) hil hlt
      exact ⟨r, by omega, hmatching⟩
    · exact absurd hl hopens
  | @nest i j k _ hopens inner hcloses ihbefore ihinner =>
    have hjk := inner.le
    by_cases hbefore : l < j
    · obtain ⟨r, hr, hmatching⟩ := ihbefore (by omega) hil hbefore
      exact ⟨r, by omega, hmatching⟩
    by_cases hself : l = j
    · subst hself
      exact ⟨k, by omega, hopens, inner, hcloses⟩
    by_cases hinner : l < k
    · obtain ⟨r, hr, hmatching⟩ := ihinner (by omega) (by omega) hinner
      exact ⟨r, by omega, hmatching⟩
    · -- no place opens a bracket and closes one
      obtain rfl : l = k := by omega
      have hopened := hh.opened l (by omega) hl
      have hclosed := hh.closed l (by omega) hcloses
      omega

/-- A bracket closes one bracket only. -/
theorem Matching.left_unique (h : Matching opens closes i k) (h' : Matching opens closes j k)
    (hh : Height opens closes n height) (hk : k < n) : i = j := by
  -- the later of two openings would lie in the balanced stretch behind the earlier one
  have hnot : ∀ {a b : Nat}, Matching opens closes a k → Matching opens closes b k → ¬ a < b := by
    intro a b ha hb hab
    have hlt := ha.lt
    have hlt' := hb.lt
    obtain ⟨hend, hlow⟩ := ha.inner.heights hh (by omega)
    obtain ⟨hend', -⟩ := hb.inner.heights hh (by omega)
    have hbetween := hlow b hab (by omega)
    have hopened := hh.opened b (by omega) hb.opened
    omega
  have hij := hnot h h'
  have hji := hnot h' h
  omega

/-- The height is the number of brackets opened, less the number of those closed. -/
theorem Height.count [DecidablePred opens] [DecidablePred closes]
    (hh : Height opens closes n height) (hi : i ≤ n) :
    height i + Nat.count closes i = height 0 + Nat.count opens i := by
  induction i with
  | zero => rfl
  | succ i ih =>
    have hcount := ih (by omega)
    rw [Nat.count_succ, Nat.count_succ]
    by_cases hopens : opens i
    · have hopened := hh.opened i hi hopens
      have hcloses : ¬ closes i := fun hc => by
        have hclosed := hh.closed i hi hc
        omega
      rw [if_pos hopens, if_neg hcloses]
      omega
    · by_cases hcloses : closes i
      · have hclosed := hh.closed i hi hcloses
        rw [if_neg hopens, if_pos hcloses]
        omega
      · have hkept := hh.kept i hi hopens hcloses
        rw [if_neg hopens, if_neg hcloses]
        omega

/-- The places before `n` whose brackets are still open, in order: all before the first of them,
between two of them and behind the last is balanced. -/
inductive Pending (opens closes : Nat → Prop) : Nat → List Nat → Prop
  | nil {n : Nat} (before : Balanced opens closes 0 n) : Pending opens closes n []
  | snoc {n p : Nat} {ps : List Nat} (outer : Pending opens closes p ps) (hopens : opens p)
      (inner : Balanced opens closes (p + 1) n) : Pending opens closes n (ps ++ [p])

variable {ps : List Nat}

/-- A balanced stretch leaves the same places open. -/
theorem Pending.extend (h : Pending opens closes i ps) (later : Balanced opens closes i j) :
    Pending opens closes j ps := by
  cases h with
  | nil before => exact .nil (before.trans later)
  | snoc outer hopens inner => exact .snoc outer hopens (inner.trans later)

theorem Pending.lt (h : Pending opens closes n ps) : ∀ p ∈ ps, p < n := by
  induction h with
  | nil => exact fun p hp => nomatch hp
  | snoc _ _ inner ih =>
    intro q hq
    have hlast := inner.le
    rcases List.mem_append.1 hq with hold | hnew
    · have hq := ih q hold
      omega
    · rw [List.mem_singleton.1 hnew]
      exact hlast

theorem Pending.opened (h : Pending opens closes n ps) : ∀ p ∈ ps, opens p := by
  induction h with
  | nil => exact fun p hp => nomatch hp
  | snoc _ hopens _ ih =>
    intro q hq
    rcases List.mem_append.1 hq with hold | hnew
    · exact ih q hold
    · rw [List.mem_singleton.1 hnew]
      exact hopens

theorem Pending.pairwise_lt (h : Pending opens closes n ps) : ps.Pairwise (· < ·) := by
  induction h with
  | nil => exact List.Pairwise.nil
  | snoc outer _ _ ih =>
    refine List.pairwise_append.2 ⟨ih, List.pairwise_singleton _ _, ?_⟩
    intro q hq p hp
    rw [List.mem_singleton.1 hp]
    exact outer.lt q hq

/-- Behind a place that is still open the height stays above what it was there. -/
theorem Pending.height_lt (h : Pending opens closes i ps) (hh : Height opens closes n height)
    (hi : i ≤ n) : ∀ p ∈ ps, ∀ l, p < l → l ≤ i → height p < height l := by
  induction h with
  | nil => exact fun p hp => nomatch hp
  | @snoc i p ps outer hopens inner ih =>
    have hpi := inner.le
    have hopened := hh.opened p (by omega) hopens
    obtain ⟨-, hlow⟩ := inner.heights hh hi
    intro q hq l hql hli
    rcases List.mem_append.1 hq with hold | hnew
    · have hqp := outer.lt q hold
      by_cases hlp : l ≤ p
      · exact ih (by omega) q hold l hql hlp
      · have hbelow := ih (by omega) q hold p hqp (Nat.le_refl p)
        have habove := hlow l (by omega) hli
        omega
    · obtain rfl := List.mem_singleton.1 hnew
      have habove := hlow l hql hli
      omega

/-- The pending places are those that are opened and not closed. -/
theorem Pending.mem_iff (h : Pending opens closes i ps) (hh : Height opens closes n height)
    (hi : i ≤ n) (p : Nat) :
    p ∈ ps ↔ p < i ∧ opens p ∧ ∀ j < i, ¬ Matching opens closes p j := by
  constructor
  · intro hp
    refine ⟨h.lt p hp, h.opened p hp, fun j hj hmatching => ?_⟩
    -- a matching bracket would bring the height back to what it was
    have hlt := hmatching.lt
    have habove := h.height_lt hh hi p hp (j + 1) (by omega) hj
    have hopened := hh.opened p (by omega) hmatching.opened
    have hclosed := hh.closed j (by omega) hmatching.closed
    obtain ⟨hend, -⟩ := hmatching.inner.heights hh (by omega)
    omega
  · rintro ⟨hpi, hopens, hnone⟩
    have hopen : ∀ a b, b ≤ i → Balanced opens closes a b → a ≤ p → ¬ p < b := by
      intro a b hb hbalanced ha hpb
      obtain ⟨r, hr, hmatching⟩ := hbalanced.exists_matching hh (by omega) ha hpb hopens
      exact hnone r (by omega) hmatching
    induction h with
    | nil before => exact absurd hpi (hopen 0 _ (Nat.le_refl _) before (Nat.zero_le _))
    | @snoc i q qs outer _ inner ih =>
      have hqi := inner.le
      rw [List.mem_append, List.mem_singleton]
      by_cases hpq : p < q
      · exact .inl (ih (by omega) hpq (fun j hj => hnone j (by omega))
          fun a b hb => hopen a b (by omega))
      · by_cases heq : p = q
        · exact .inr heq
        · exact absurd hpi (hopen (q + 1) i (Nat.le_refl i) inner (by omega))

end Bracket

/-! ## The call stack, step by step -/

namespace CallStack

variable {s t : CallStack} {address : Int}

theorem length_frames (s : CallStack) : s.frames.length = s.depth :=
  List.length_reverse

theorem frames_push (h : s.push address = .ok t) : t.frames = s.frames ++ [address] := by
  unfold push at h
  split at h
  · cases h
  · cases h
    exact List.reverse_cons

theorem frames_pop (h : s.pop = .ok (address, t)) : s.frames = t.frames ++ [address] := by
  unfold pop at h
  split at h
  · cases h
  · next hentries =>
    cases h
    rw [frames, hentries]
    exact List.reverse_cons

end CallStack

namespace Machine

section Steps

variable {m m' : Machine} {keys : List Int}

/-- A call that is made opens a frame for its own address. -/
theorem Stepped.push (h : Stepped keys m m') (hmade : m.refusal keys = none)
    (hw : Word.Matches "2NNN" m.word) : m.stack.push m.registers.counter = .ok m'.stack := by
  have hcurrent := current_of_matches mem_call hw
  obtain ⟨-, -, hrefusal⟩ := refusal_eq_none.1 hmade
  rw [hcurrent] at hrefusal
  have hroom : ¬ CallStack.room ≤ m.stack.depth := by
    simpa [Instruction.refusal] using hrefusal
  rw [CallStack.push, if_neg hroom]
  exact congrArg (fun entries => Except.ok (CallStack.mk entries)) (h.stack hcurrent).symm

/-- An instruction that is neither a call nor a return leaves the stack alone. -/
theorem effect_stack_other {i : Instruction} (hret : i ≠ .ret) (hcall : ∀ target, i ≠ .call target)
    (counter : Int) (s : View) : (i.effect counter keys s).stack = s.stack := by
  cases i with
  | ret => exact absurd rfl hret
  | call target => exact absurd rfl (hcall target)
  | awaitKey x =>
    simp only [Instruction.effect]
    split <;> rfl
  | _ => rfl

/-- A step that is neither a call nor a return leaves the stack alone. -/
theorem Stepped.stack_other (h : Stepped keys m m') (hcall : ¬ Word.Matches "2NNN" m.word)
    (hret : ¬ Word.Matches "00EE" m.word) : m'.stack = m.stack := by
  refine congrArg CallStack.mk ((h.stack rfl).trans ?_)
  refine effect_stack_other ?_ ?_ _ _
  · exact fun hi => hret (matches_of_current mem_ret (o := .ofWord m.word) hi)
  · intro target hi
    let operands : Operands := { Operands.ofWord m.word with nnn := target }
    exact hcall (matches_of_current mem_call (o := operands) hi)

end Steps

/-! ## Runs -/

variable {m : Machine} {keys : List (List Int)} {i j k : Nat}

/-- The step at place `i` of the run is a call. -/
def CallsAt (m : Machine) (keys : List (List Int)) (i : Nat) : Prop :=
  Word.Matches "2NNN" (m.before keys i).word

/-- The step at place `i` of the run is a return. -/
def ReturnsAt (m : Machine) (keys : List (List Int)) (i : Nat) : Prop :=
  Word.Matches "00EE" (m.before keys i).word

instance (m : Machine) (keys : List (List Int)) : DecidablePred (m.CallsAt keys) :=
  fun _ => inferInstanceAs (Decidable (Word.Matches _ _))

instance (m : Machine) (keys : List (List Int)) : DecidablePred (m.ReturnsAt keys) :=
  fun _ => inferInstanceAs (Decidable (Word.Matches _ _))

section

variable (h : m.Makes keys) (hi : i < keys.length)

include h hi

/-- What a step of a run does to the stack, if it is a call. -/
theorem Makes.push (hcall : m.CallsAt keys i) :
    (m.before keys i).stack.push (m.before keys i).registers.counter =
      .ok (m.before keys (i + 1)).stack :=
  (h.stepped hi).2.push (h.stepped hi).1 hcall

/-- What a step of a run does to the stack, if it is a return. -/
theorem Makes.pop (hret : m.ReturnsAt keys i) :
    ∃ address, (m.before keys i).stack.pop = .ok (address, (m.before keys (i + 1)).stack) := by
  obtain ⟨hmade, hstepped⟩ := h.stepped hi
  obtain ⟨address, hpop, -⟩ := hstepped.ret hmade hret
  exact ⟨address, hpop⟩

/-- What a step of a run does to the stack, if it is neither. -/
theorem Makes.stack_other (hcall : ¬ m.CallsAt keys i) (hret : ¬ m.ReturnsAt keys i) :
    (m.before keys (i + 1)).stack = (m.before keys i).stack :=
  (h.stepped hi).2.stack_other hcall hret

end

/-- The depth of the stack counts the open calls. -/
theorem Makes.height (h : m.Makes keys) :
    Bracket.Height (m.CallsAt keys) (m.ReturnsAt keys) keys.length
      fun i => (m.before keys i).stack.depth where
  opened i hi hcall := by
    rw [← CallStack.length_frames, CallStack.frames_push (h.push hi hcall), List.length_append,
      CallStack.length_frames]
    rfl
  closed i hi hret := by
    obtain ⟨address, hpop⟩ := h.pop hi hret
    rw [← CallStack.length_frames, CallStack.frames_pop hpop, List.length_append,
      CallStack.length_frames]
    rfl
  kept i hi hcall hret := by
    rw [h.stack_other hi hcall hret]

/-- A balanced stretch of a run leaves the stack as it was. -/
theorem Makes.stack_balanced (h : m.Makes keys)
    (hbalanced : Bracket.Balanced (m.CallsAt keys) (m.ReturnsAt keys) i j)
    (hj : j ≤ keys.length) : (m.before keys j).stack = (m.before keys i).stack := by
  induction hbalanced with
  | nil => rfl
  | @skip i j _ hcall hret ih => rw [h.stack_other hj hcall hret, ih (by omega)]
  | @nest i j k _ hcall inner hret ihbefore ihinner =>
    have hjk := inner.le
    -- the return finds the frame of the call on top
    have hpush := CallStack.pop_push (h.push (by omega) hcall)
    obtain ⟨address, hpop⟩ := h.pop hj hret
    rw [ihinner (by omega), hpush] at hpop
    obtain ⟨-, hstack⟩ := Prod.mk.inj (Except.ok.inj hpop)
    rw [← hstack, ihbefore (by omega)]

/-- A return closes the call that matches it. -/
theorem Makes.pop_matching (h : m.Makes keys)
    (hmatching : Bracket.Matching (m.CallsAt keys) (m.ReturnsAt keys) i j)
    (hj : j < keys.length) :
    (m.before keys j).stack.pop =
      .ok ((m.before keys i).registers.counter, (m.before keys (j + 1)).stack) := by
  have hlt := hmatching.lt
  have hpush := CallStack.pop_push (h.push (by omega) hmatching.opened)
  rw [← h.stack_balanced hmatching.inner (by omega)] at hpush
  obtain ⟨address, hpop⟩ := h.pop hj hmatching.closed
  rw [hpush] at hpop
  obtain ⟨-, hstack⟩ := Prod.mk.inj (Except.ok.inj hpop)
  rw [hpush, hstack]

/-- The frames in the course of a run that began without any are those of the pending calls. -/
theorem Makes.pending (h : m.Makes keys) (hempty : m.stack.frames = []) (hi : i ≤ keys.length) :
    ∃ ps, Bracket.Pending (m.CallsAt keys) (m.ReturnsAt keys) i ps ∧
      (m.before keys i).stack.frames = ps.map fun p => (m.before keys p).registers.counter := by
  induction i with
  | zero => exact ⟨[], .nil (.nil 0), hempty⟩
  | succ i ih =>
    obtain ⟨ps, hps, hframes⟩ := ih (by omega)
    by_cases hcall : m.CallsAt keys i
    · refine ⟨ps ++ [i], .snoc hps hcall (.nil _), ?_⟩
      rw [CallStack.frames_push (h.push hi hcall), hframes, List.map_append]
      rfl
    by_cases hret : m.ReturnsAt keys i
    · obtain ⟨address, hpop⟩ := h.pop hi hret
      rw [CallStack.frames_pop hpop] at hframes
      cases hps with
      | nil => simp at hframes
      | @snoc _ p ps outer hopens inner =>
        refine ⟨ps, outer.extend (.nest (.nil p) hopens inner hret), ?_⟩
        rw [List.map_append] at hframes
        exact (List.append_inj' hframes rfl).1
    · refine ⟨ps, hps.extend (.skip (.nil i) hcall hret), ?_⟩
      rw [h.stack_other hi hcall hret, hframes]

/-- Every return of a run that began without any frames closes a call of the run. -/
theorem Makes.exists_matching (h : m.Makes keys) (hempty : m.stack.frames = [])
    (hj : j < keys.length) (hret : m.ReturnsAt keys j) :
    ∃ i, Bracket.Matching (m.CallsAt keys) (m.ReturnsAt keys) i j := by
  obtain ⟨pending, hpending, hframes⟩ := h.pending hempty (Nat.le_of_lt hj)
  obtain ⟨address, hpop⟩ := h.pop hj hret
  rw [CallStack.frames_pop hpop] at hframes
  -- there is a frame, so a call is pending, and the last one of them is closed
  cases hpending with
  | nil => simp at hframes
  | @snoc _ i pending outer hopens inner => exact ⟨i, hopens, inner, hret⟩

/-- The frames below a call stay as long as the stack is deeper than before the call. -/
theorem Makes.frames_below (h : m.Makes keys) (hcall : m.CallsAt keys i) (hik : i < k)
    (hk : k ≤ keys.length)
    (hdeep : ∀ l, i < l → l < k → (m.before keys i).stack.depth < (m.before keys l).stack.depth) :
    (m.before keys k).stack.frames.take (m.before keys i).stack.depth =
      (m.before keys i).stack.frames := by
  induction k, hik using Nat.le_induction with
  | base =>
    rw [CallStack.frames_push (h.push hk hcall)]
    exact List.take_left' (CallStack.length_frames _)
  | succ k hik ih =>
    have hbelow := ih (by omega) fun l hil hlk => hdeep l hil (by omega)
    have hlt := hdeep k hik (Nat.lt_succ_self k)
    by_cases hcall' : m.CallsAt keys k
    · rw [CallStack.frames_push (h.push hk hcall'), List.take_append_of_le_length, hbelow]
      rw [CallStack.length_frames]
      exact Nat.le_of_lt hlt
    by_cases hret : m.ReturnsAt keys k
    · obtain ⟨address, hpop⟩ := h.pop hk hret
      have hclosed := h.height.closed k hk hret
      rw [CallStack.frames_pop hpop, List.take_append_of_le_length] at hbelow
      · exact hbelow
      · rw [CallStack.length_frames]
        omega
    · rw [h.stack_other hk hcall' hret, hbelow]

/-- **What the call stack holds.** At every place of a run of any program without refused steps
the frames are, from the bottom, the program counters of the calls before it that no return has
closed, where calls and returns match like brackets. So the depth is the number of calls less that
of returns; a return closes exactly one call and pops its program counter; and from a call to the
first step that brings the depth back, the frames below stay. -/
theorem frames_after {program : List UInt8} {dialect : Dialect} {source : RandomSource}
    {journal : Journal} {start : Machine}
    (hstart : ofProgram? program dialect source journal = .ok start) (keys : List (List Int))
    (hmade : start.Makes keys) :
    let n := keys.length
    let calls := start.CallsAt keys
    let returns := start.ReturnsAt keys
    let state := start.before keys
    (∀ k ≤ n, ∃ pending : List Nat, pending.Pairwise (· < ·) ∧
      (∀ p, p ∈ pending ↔ p < k ∧ calls p ∧ ∀ j < k, ¬ Bracket.Matching calls returns p j) ∧
      (state k).stack.frames = pending.map fun p => (state p).registers.counter) ∧
    (∀ k ≤ n, ((state k).stack.depth : Int) = (Nat.count calls k : Int) - Nat.count returns k ∧
      (state k).stack.depth ≤ 16) ∧
    (∀ j < n, returns j → ∃ i, Bracket.Matching calls returns i j ∧
      (∀ i', Bracket.Matching calls returns i' j → i' = i) ∧
      (state j).stack.pop = .ok ((state i).registers.counter, (state (j + 1)).stack)) ∧
    (∀ i k, i < k → k ≤ n → calls i →
      (∀ l, i < l → l < k → (state i).stack.depth < (state l).stack.depth) →
      (state k).stack.frames.take (state i).stack.depth = (state i).stack.frames) := by
  intro n calls returns state
  obtain ⟨-, hfresh⟩ := ofProgram?_eq_ok hstart
  have hempty : start.stack.frames = [] := by
    rw [hfresh]
    rfl
  have hheight := hmade.height
  refine ⟨?_, ?_, ?_, ?_⟩
  · intro k hk
    obtain ⟨pending, hpending, hframes⟩ := hmade.pending hempty hk
    exact ⟨pending, hpending.pairwise_lt, hpending.mem_iff hheight hk, hframes⟩
  · intro k hk
    have hcount : (state k).stack.depth + Nat.count returns k =
        start.stack.depth + Nat.count calls k := hheight.count hk
    have hzero : start.stack.depth = 0 := by
      rw [← CallStack.length_frames, hempty]
      rfl
    refine ⟨by omega, ?_⟩
    exact ((Reachable.fresh hstart).after (keys.take k)).invariant.depth
  · intro j hj hret
    obtain ⟨i, hmatching⟩ := hmade.exists_matching hempty hj hret
    exact ⟨i, hmatching, fun i' h' => h'.left_unique hmatching hheight hj,
      hmade.pop_matching hmatching hj⟩
  · intro i k hik hk hcall hdeep
    exact hmade.frames_below hcall hik hk hdeep

/-- A routine that calls another one: the first return closes the second call. -/
theorem frames_after_nested :
    ∃ start, ofProgram? [0x22, 0x04, 0x00, 0x00, 0x22, 0x08, 0x00, 0xEE, 0x00, 0xEE] {}
        (.cycle #[]) #[] = .ok start ∧
      start.Makes [[], [], []] ∧ (start.after [[], [], []]).stack.depth = 1 ∧
      (start.before [[], [], []] 2).stack.pop =
        .ok (0x204, (start.after [[], [], []]).stack) := by
  let start := fresh [0x22, 0x04, 0x00, 0x00, 0x22, 0x08, 0x00, 0xEE, 0x00, 0xEE] {}
    (.cycle #[]) #[]
  have hstart : ofProgram? [0x22, 0x04, 0x00, 0x00, 0x22, 0x08, 0x00, 0xEE, 0x00, 0xEE] {}
      (.cycle #[]) #[] = .ok start := ofProgram?_fits (by decide)
  have hrun : start.Makes [[], [], []] ∧
      start.CallsAt [[], [], []] 1 ∧ start.ReturnsAt [[], [], []] 2 ∧
      (start.before [[], [], []] 1).registers.counter = 0x204 ∧
      Nat.count (start.CallsAt [[], [], []]) 3 = 2 ∧
      Nat.count (start.ReturnsAt [[], [], []]) 3 = 1 := by
    unfold Makes
    decide +kernel
  clear_value start
  obtain ⟨hmade, hopened, hclosed, hcounter, hcalls, hreturns⟩ := hrun
  obtain ⟨-, hdepths, hpops, -⟩ := frames_after hstart [[], [], []] hmade
  obtain ⟨hdepth, -⟩ := hdepths 3 (by decide)
  obtain ⟨i, -, hunique, hpop⟩ := hpops 2 (by decide) hclosed
  rw [← hunique 1 ⟨hopened, .nil 2, hclosed⟩, hcounter] at hpop
  have hend : start.before [[], [], []] 3 = start.after [[], [], []] :=
    before_length start [[], [], []]
  rw [hend] at hpop hdepth
  rw [hcalls, hreturns] at hdepth
  exact ⟨start, hstart, hmade, by omega, hpop⟩

end Machine

end Chip8
