/-!
# Entries in order

A mapping that remembers the order in which its keys came, as a list of pairs.
A later value for a key that is there already takes the place of the earlier
one, under the key as it was first given.
-/

namespace Chip8

namespace Entries

variable {κ ν : Type}

/-- Gives `key` the value `value`; `same` tells which keys are equal. -/
def put (same : κ → κ → Bool) (key : κ) (value : ν) : List (κ × ν) → List (κ × ν)
  | [] => [(key, value)]
  | (k, v) :: rest => if same k key then (k, value) :: rest else (k, v) :: put same key value rest

/-- The entries after putting several pairs, one after another. -/
def putAll (same : κ → κ → Bool) (pairs entries : List (κ × ν)) : List (κ × ν) :=
  pairs.foldl (fun es (k, v) => put same k v es) entries

/-- The value of a key. -/
def get? (same : κ → κ → Bool) (key : κ) (entries : List (κ × ν)) : Option ν :=
  (entries.find? fun (k, _) => same k key).map (·.2)

/-- The last value put under a key is the one that counts. -/
theorem get?_put [DecidableEq κ] (key other : κ) (value : ν) (entries : List (κ × ν)) :
    get? (· = ·) other (put (· = ·) key value entries) =
      if other = key then some value else get? (· = ·) other entries := by
  induction entries with
  | nil =>
    simp only [put, get?]
    grind
  | cons e rest ih =>
    simp only [put, get?] at *
    grind

/-- The values after putting are the ones before and the new one. -/
theorem forall_put {same : κ → κ → Bool} {key : κ} {value : ν} {entries : List (κ × ν)}
    {P : ν → Prop} (h : ∀ e ∈ entries, P e.2) (hvalue : P value) :
    ∀ e ∈ put same key value entries, P e.2 := by
  induction entries with
  | nil =>
    intro e he
    rw [List.mem_singleton.1 he]
    exact hvalue
  | cons first rest ih =>
    obtain ⟨hfirst, hrest⟩ := List.forall_mem_cons.1 h
    unfold put
    split
    · exact List.forall_mem_cons.2 ⟨hvalue, hrest⟩
    · exact List.forall_mem_cons.2 ⟨hfirst, ih hrest⟩

end Entries

end Chip8
