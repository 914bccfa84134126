/-!
# Finite tables

A table files values under distinct keys. It is kept as its list of entries, the latest filed first,
so every operation is read off that list: an entry is in the list exactly when the look-up finds it.
-/

namespace Gatehouse

universe u v

structure Table (κ : Type u) (α : Type v) where
  entries : List (κ × α)
  nodup : (entries.map Prod.fst).Nodup
deriving DecidableEq

namespace Table

variable {κ : Type u} {α : Type v}

theorem ext_entries {s t : Table κ α} (h : s.entries = t.entries) : s = t := by
  cases s; cases t; cases h; rfl

def empty : Table κ α := ⟨[], by simp⟩

instance : Inhabited (Table κ α) := ⟨empty⟩

def size (t : Table κ α) : Nat := t.entries.length

def isEmpty (t : Table κ α) : Bool := t.entries.isEmpty

def values (t : Table κ α) : List α := t.entries.map Prod.snd

/-- The entries that pass a test, in their old order. -/
def filter (t : Table κ α) (keep : κ → α → Bool) : Table κ α where
  entries := t.entries.filter fun e => keep e.1 e.2
  nodup := t.nodup.sublist (List.filter_sublist.map _)

variable [DecidableEq κ]

def get? (t : Table κ α) (k : κ) : Option α :=
  (t.entries.find? fun e => e.1 = k).map Prod.snd

def contains (t : Table κ α) (k : κ) : Bool := (t.get? k).isSome

def erase (t : Table κ α) (k : κ) : Table κ α := t.filter fun k' _ => k' ≠ k

/-- Files a value under a key in place of any earlier one. -/
def insert (t : Table κ α) (k : κ) (v : α) : Table κ α where
  entries := (k, v) :: (t.erase k).entries
  nodup := by
    simp only [List.map_cons, List.nodup_cons]
    refine ⟨?_, (t.erase k).nodup⟩
    simp [erase, filter]

theorem get?_eq_some_iff {t : Table κ α} {k : κ} {v : α} :
    t.get? k = some v ↔ (k, v) ∈ t.entries := by
  obtain ⟨es, nodup⟩ := t
  simp only [get?]
  induction es with
  | nil => simp
  | cons e es ih =>
    simp only [List.map_cons, List.nodup_cons] at nodup
    by_cases he : e.1 = k
    · have absent : (k, v) ∉ es := fun hmem => nodup.1 (he ▸ List.mem_map_of_mem hmem)
      obtain ⟨a, b⟩ := e
      simp only at he
      subst he
      simp [absent, eq_comm]
    · have hne : (k, v) ≠ e := fun h => he (by rw [← h])
      simp only [List.find?_cons, he, decide_false, ih nodup.2, List.mem_cons, hne, false_or]

theorem get?_eq_none_iff {t : Table κ α} {k : κ} :
    t.get? k = none ↔ ∀ v, (k, v) ∉ t.entries := by
  constructor
  · intro h v hmem
    rw [get?_eq_some_iff.2 hmem] at h
    cases h
  · intro h
    cases hv : t.get? k with
    | none => rfl
    | some v => exact absurd (get?_eq_some_iff.1 hv) (h v)

theorem get?_filter (t : Table κ α) (keep : κ → α → Bool) (k : κ) :
    (t.filter keep).get? k = (t.get? k).filter (keep k) := by
  cases hv : t.get? k with
  | none =>
    rw [Option.filter_none, get?_eq_none_iff]
    intro v hmem
    exact get?_eq_none_iff.1 hv v (List.mem_filter.1 hmem).1
  | some v =>
    by_cases hk : keep k v
    · rw [Option.filter_some, if_pos hk, get?_eq_some_iff]
      exact List.mem_filter.2 ⟨get?_eq_some_iff.1 hv, hk⟩
    · rw [Option.filter_some, if_neg hk, get?_eq_none_iff]
      intro w hmem
      obtain ⟨hw, hkeep⟩ := List.mem_filter.1 hmem
      rw [get?_eq_some_iff.2 hw] at hv
      cases hv
      exact hk hkeep

theorem get?_erase (t : Table κ α) (k k' : κ) :
    (t.erase k).get? k' = if k' = k then none else t.get? k' := by
  rw [erase, get?_filter]
  by_cases h : k' = k
  · cases t.get? k' <;> simp [h]
  · cases t.get? k' <;> simp [h]

theorem get?_insert (t : Table κ α) (k k' : κ) (v : α) :
    (t.insert k v).get? k' = if k' = k then some v else t.get? k' := by
  by_cases h : k' = k
  · subst h
    simp [insert, get?]
  · rw [if_neg h, ← (if_neg h : (if k' = k then none else t.get? k') = _), ← get?_erase]
    have hne : ¬ k = k' := fun e => h e.symm
    simp [insert, get?, hne]

theorem erase_of_get?_eq_none {t : Table κ α} {k : κ} (h : t.get? k = none) : t.erase k = t := by
  apply ext_entries
  apply List.filter_eq_self.2
  intro e he
  simp only [ne_eq, decide_not, Bool.not_eq_eq_eq_not, Bool.not_true, decide_eq_false_iff_not]
  intro hk
  exact get?_eq_none_iff.1 h e.2 (hk ▸ he)

theorem size_insert_of_get?_eq_none {t : Table κ α} {k : κ} (v : α) (h : t.get? k = none) :
    (t.insert k v).size = t.size + 1 := by
  have same := erase_of_get?_eq_none h
  simp only [insert, size, List.length_cons, same]

end Table

end Gatehouse
