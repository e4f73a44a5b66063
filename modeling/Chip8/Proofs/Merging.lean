import Chip8.Entries
import Mathlib.Data.List.Infix
import Mathlib.Data.List.Nodup

/-!
# Merged entries

What becomes of the keys of a mapping, and of their order, when other entries are put on top.

- `Entries.prefix_putAll`, `Entries.nodup_putAll`: the keys stay where they are, new ones come
  behind them, and none comes twice.
- `Entries.putAll_eq_self`: entries put on top of the first of their own keys are the entries
  again.
- `Entries.IsLast`: the last of those that have a property.
- `Entries.IsMerge`, `Entries.isMerge_putAll`: which keys come where, and which value counts.
-/

namespace Chip8

namespace Entries

variable {κ ν : Type} [DecidableEq κ] {key : κ} {value : ν} {entries base done pairs : List (κ × ν)}

/-! ## One entry -/

/-- The keys after putting are the keys before, and a new one comes last. -/
theorem map_fst_put :
    (put (· = ·) key value entries).map Prod.fst =
      if key ∈ entries.map Prod.fst then entries.map Prod.fst
      else entries.map Prod.fst ++ [key] := by
  induction entries with
  | nil => rfl
  | cons first rest ih =>
    obtain ⟨k, v⟩ := first
    by_cases hfirst : k = key
    · simp [put, hfirst]
    · have hother : key ≠ k := Ne.symm hfirst
      simp only [put, hfirst, decide_false, Bool.false_eq_true, if_false, List.map_cons, ih,
        List.mem_cons, hother, false_or]
      split <;> rfl

/-- The new value of the first key. -/
theorem put_cons_self (value' : ν) :
    put (· = ·) key value ((key, value') :: entries) = (key, value) :: entries := by
  simp [put]

/-- Entries of other keys are passed by. -/
theorem put_append (h : key ∉ done.map Prod.fst) :
    put (· = ·) key value (done ++ entries) = done ++ put (· = ·) key value entries := by
  induction done with
  | nil => rfl
  | cons first rest ih =>
    rw [List.map_cons, List.mem_cons, not_or] at h
    obtain ⟨hfirst, hrest⟩ := h
    simp only [List.cons_append, put]
    rw [if_neg (by simpa using Ne.symm hfirst), ih hrest]

theorem prefix_put : entries.map Prod.fst <+: (put (· = ·) key value entries).map Prod.fst := by
  rw [map_fst_put]
  split
  · exact List.prefix_rfl
  · exact List.prefix_append _ _

theorem nodup_put (h : (entries.map Prod.fst).Nodup) :
    ((put (· = ·) key value entries).map Prod.fst).Nodup := by
  rw [map_fst_put]
  split
  · exact h
  · next hnew =>
    refine List.nodup_append.2 ⟨h, List.nodup_singleton key, ?_⟩
    rintro a ha b hb rfl
    exact hnew (List.mem_singleton.1 hb ▸ ha)

/-- Every entry after putting is the new one or one of before. -/
theorem mem_put {e : κ × ν} (h : e ∈ put (· = ·) key value entries) :
    e = (key, value) ∨ e ∈ entries := by
  induction entries with
  | nil => exact .inl (List.mem_singleton.1 h)
  | cons first rest ih =>
    obtain ⟨k, v⟩ := first
    simp only [put] at h
    split at h
    · next hsame =>
      obtain rfl := of_decide_eq_true hsame
      rcases List.mem_cons.1 h with rfl | hrest
      · exact .inl rfl
      · exact .inr (List.mem_cons_of_mem _ hrest)
    · rcases List.mem_cons.1 h with rfl | hrest
      · exact .inr List.mem_cons_self
      · exact (ih hrest).imp_right (List.mem_cons_of_mem _)

/-! ## Several entries -/

theorem prefix_putAll :
    base.map Prod.fst <+: (putAll (· = ·) pairs base).map Prod.fst := by
  induction pairs generalizing base with
  | nil => exact List.prefix_rfl
  | cons first rest ih => exact prefix_put.trans ih

theorem nodup_putAll (h : (base.map Prod.fst).Nodup) :
    ((putAll (· = ·) pairs base).map Prod.fst).Nodup := by
  induction pairs generalizing base with
  | nil => exact h
  | cons first rest ih => exact ih (nodup_put h)

/-- What holds of the entries before and of those that are put holds of all entries after. -/
theorem forall_putAll {P : κ × ν → Prop} (hbase : ∀ e ∈ base, P e) (hpairs : ∀ e ∈ pairs, P e) :
    ∀ e ∈ putAll (· = ·) pairs base, P e := by
  induction pairs generalizing base with
  | nil => exact hbase
  | cons first rest ih =>
    obtain ⟨hfirst, hrest⟩ := List.forall_mem_cons.1 hpairs
    refine ih (fun e he => ?_) hrest
    rcases mem_put he with rfl | hold
    · exact hfirst
    · exact hbase e hold

/-- The keys that `pairs` begins with are there already, behind `done`. -/
theorem putAll_append (hkeys : base.map Prod.fst <+: pairs.map Prod.fst)
    (hnodup : ((done ++ pairs).map Prod.fst).Nodup) :
    putAll (· = ·) pairs (done ++ base) = done ++ pairs := by
  induction pairs generalizing done base with
  | nil =>
    obtain rfl : base = [] := List.map_eq_nil_iff.1 (List.prefix_nil.1 hkeys)
    rfl
  | cons first rest ih =>
    obtain ⟨key, value⟩ := first
    have hnew : key ∉ done.map Prod.fst := by
      rw [List.map_append, List.nodup_append] at hnodup
      exact fun hmem => hnodup.2.2 key hmem key List.mem_cons_self rfl
    have hrest : ((done ++ [(key, value)] ++ rest).map Prod.fst).Nodup := by
      rwa [List.append_assoc]
    show putAll (· = ·) rest (put (· = ·) key value (done ++ base)) = _
    rw [put_append hnew]
    cases base with
    | nil =>
      have hnone : ([] : List (κ × ν)).map Prod.fst <+: rest.map Prod.fst := List.nil_prefix
      simpa [put] using ih hnone hrest
    | cons b later =>
      obtain ⟨key', value'⟩ := b
      obtain ⟨rfl, hlater⟩ := List.cons_prefix_cons.1 hkeys
      rw [put_cons_self]
      simpa using ih hlater hrest

/-- Entries put on top of the first of their own keys are the entries again. -/
theorem putAll_eq_self (hkeys : base.map Prod.fst <+: entries.map Prod.fst)
    (hnodup : (entries.map Prod.fst).Nodup) : putAll (· = ·) entries base = entries := by
  show putAll (· = ·) entries ([] ++ base) = [] ++ entries
  exact putAll_append hkeys hnodup

/-! ## The value that counts -/

/-- `a` is the last of those that have the property. -/
def IsLast {α : Type} (P : α → Prop) (as : List α) (a : α) : Prop :=
  ∃ before after, as = before ++ a :: after ∧ P a ∧ ∀ b ∈ after, ¬ P b

variable {α : Type} {P : α → Prop} {a b : α} {as rest : List α}

theorem IsLast.mem (h : IsLast P as a) : a ∈ as := by
  obtain ⟨before, after, rfl, -⟩ := h
  exact List.mem_append_right before List.mem_cons_self

theorem IsLast.holds (h : IsLast P as a) : P a := by
  obtain ⟨-, -, -, ha, -⟩ := h
  exact ha

/-- The first of a list is the last one only if no other comes behind it. -/
theorem isLast_cons :
    IsLast P (b :: rest) a ↔ IsLast P rest a ∨ a = b ∧ P a ∧ ∀ c ∈ rest, ¬ P c := by
  constructor
  · rintro ⟨before, after, heq, ha, hafter⟩
    cases before with
    | nil =>
      obtain ⟨rfl, rfl⟩ := List.cons.inj heq
      exact .inr ⟨rfl, ha, hafter⟩
    | cons c before =>
      obtain ⟨-, hrest⟩ := List.cons.inj heq
      exact .inl ⟨before, after, hrest, ha, hafter⟩
  · rintro (⟨before, after, rfl, ha, hafter⟩ | ⟨rfl, ha, hrest⟩)
    · exact ⟨b :: before, after, rfl, ha, hafter⟩
    · exact ⟨[], rest, rfl, ha, hrest⟩

/-- If there is one at all, there is a last one. -/
theorem exists_isLast (h : ∃ a ∈ as, P a) : ∃ a, IsLast P as a := by
  induction as with
  | nil =>
    obtain ⟨a, ha, -⟩ := h
    cases ha
  | cons b rest ih =>
    by_cases hrest : ∃ a ∈ rest, P a
    · obtain ⟨a, ha⟩ := ih hrest
      exact ⟨a, isLast_cons.2 (.inl ha)⟩
    · have hnone : ∀ c ∈ rest, ¬ P c := fun c hc hholds => hrest ⟨c, hc, hholds⟩
      obtain ⟨a, ha, hholds⟩ := h
      rcases List.mem_cons.1 ha with rfl | ha
      · exact ⟨a, isLast_cons.2 (.inr ⟨rfl, hholds, hnone⟩)⟩
      · exact absurd hholds (hnone a ha)

/-- Searching from the end finds the last one. -/
theorem isLast_iff_find? [DecidablePred P] :
    IsLast P as a ↔ as.reverse.find? (fun b => P b) = some a := by
  rw [List.find?_eq_some_iff_append]
  constructor
  · rintro ⟨before, after, rfl, ha, hafter⟩
    refine ⟨decide_eq_true ha, after.reverse, before.reverse, by simp, fun b hb => ?_⟩
    simpa using hafter b (List.mem_reverse.1 hb)
  · rintro ⟨ha, after, before, hsplit, hafter⟩
    refine ⟨before.reverse, after.reverse, ?_, of_decide_eq_true ha, fun b hb => ?_⟩
    · rw [← List.reverse_reverse as, hsplit]
      simp
    · simpa using hafter b (List.mem_reverse.1 hb)

/-- Other keys are not touched. -/
theorem get?_putAll_other (h : ∀ p ∈ pairs, p.1 ≠ key) :
    get? (· = ·) key (putAll (· = ·) pairs base) = get? (· = ·) key base := by
  induction pairs generalizing base with
  | nil => rfl
  | cons first rest ih =>
    obtain ⟨hfirst, hrest⟩ := List.forall_mem_cons.1 h
    exact (ih hrest).trans ((get?_put ..).trans (if_neg (Ne.symm hfirst)))

/-- The last value that is put under a key counts. -/
theorem get?_putAll_last {e : κ × ν} (h : IsLast (fun p => p.1 = e.1) pairs e) :
    get? (· = ·) e.1 (putAll (· = ·) pairs base) = some e.2 := by
  obtain ⟨before, after, rfl, -, hafter⟩ := h
  have hsplit : putAll (· = ·) (before ++ e :: after) base =
      putAll (· = ·) after (put (· = ·) e.1 e.2 (putAll (· = ·) before base)) :=
    List.foldl_append
  rw [hsplit, get?_putAll_other hafter, get?_put, if_pos rfl]

/-- Among distinct keys, the entries are what is found under their keys. -/
theorem mem_iff_get? (h : (entries.map Prod.fst).Nodup) {e : κ × ν} :
    e ∈ entries ↔ get? (· = ·) e.1 entries = some e.2 := by
  induction entries with
  | nil => simp [get?]
  | cons first rest ih =>
    rw [List.map_cons, List.nodup_cons] at h
    obtain ⟨hfirst, hrest⟩ := h
    by_cases hkey : first.1 = e.1
    · have hother : e ∉ rest := fun he => hfirst (List.mem_map.2 ⟨e, he, hkey.symm⟩)
      simp [get?, hkey, hother, Prod.ext_iff, eq_comm]
    · have hother : e ≠ first := fun he => hkey (congrArg Prod.fst he.symm)
      rw [List.mem_cons, ih hrest]
      simp [get?, hkey, hother]

/-! ## Merged entries -/

/-- The keys after putting are the keys before, and then the new ones as they first come up. -/
theorem map_fst_putAll :
    (putAll (· = ·) pairs base).map Prod.fst = base.map Prod.fst ++
      ((pairs.map Prod.fst).filter (· ∉ base.map Prod.fst)).eraseDups := by
  induction pairs generalizing base with
  | nil => simp [putAll]
  | cons first rest ih =>
    show (putAll (· = ·) rest (put (· = ·) first.1 first.2 base)).map Prod.fst = _
    rw [ih, map_fst_put, List.map_cons]
    by_cases hold : first.1 ∈ base.map Prod.fst
    · rw [if_pos hold, List.filter_cons_of_neg (by simpa using hold)]
    · rw [if_neg hold, List.filter_cons_of_pos (by simpa using hold), List.eraseDups_cons,
        List.filter_filter, List.append_assoc, List.singleton_append]
      congr 3
      refine List.filter_congr fun k _ => ?_
      rw [Bool.eq_iff_iff, decide_eq_true_iff, List.mem_append, List.mem_singleton, not_or]
      simp [and_comm]

/-- How entries look that were put on top of others: the keys of the others come first, then the
new ones as they first come up, and each has the last value that was put under it, or else the one
that it had. -/
structure IsMerge (base pairs merged : List (κ × ν)) : Prop where
  keys : merged.map Prod.fst = base.map Prod.fst ++
    ((pairs.map Prod.fst).filter (· ∉ base.map Prod.fst)).eraseDups
  values : ∀ e ∈ merged, IsLast (fun p => p.1 = e.1) pairs e ∨
    e ∈ base ∧ ∀ p ∈ pairs, p.1 ≠ e.1

theorem isMerge_putAll (h : (base.map Prod.fst).Nodup) :
    IsMerge base pairs (putAll (· = ·) pairs base) := by
  refine ⟨map_fst_putAll, fun e he => ?_⟩
  have hvalue := (mem_iff_get? (nodup_putAll h)).1 he
  by_cases hput : ∃ p ∈ pairs, p.1 = e.1
  · obtain ⟨last, hlast⟩ := exists_isLast hput
    have hkey : last.1 = e.1 := hlast.holds
    have hsame : e = last := by
      rw [← hkey, get?_putAll_last (hkey ▸ hlast)] at hvalue
      exact Prod.ext hkey.symm (Option.some.inj hvalue).symm
    exact .inl (hsame ▸ hlast)
  · have hnone : ∀ p ∈ pairs, p.1 ≠ e.1 := fun p hp hkey => hput ⟨p, hp, hkey⟩
    rw [get?_putAll_other hnone] at hvalue
    exact .inr ⟨(mem_iff_get? h).2 hvalue, hnone⟩

end Entries

end Chip8
