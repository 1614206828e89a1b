import Mathlib.Data.List.Nodup

/-!
# Insertion-ordered dictionaries

A dictionary that iterates over its keys in the order of their first insertion: `set` replaces the
value of a key it has in its place and appends a new key, `erase` takes a key out. The keys are
different by construction, so that an entry and a successful lookup say the same
(`get?_eq_some_iff`).
-/

namespace EdgeSafety

/-- An insertion-ordered dictionary. -/
structure Dict (κ α : Type) where
  entries : List (κ × α)
  keys_nodup : (entries.map Prod.fst).Nodup

namespace Dict

variable {κ α : Type}

/-- The keys, in order. -/
def keys (d : Dict κ α) : List κ := d.entries.map Prod.fst

/-- The dictionary without entries. -/
def empty : Dict κ α := ⟨[], List.nodup_nil⟩

variable [DecidableEq κ]

/-- The value of a key. -/
def get? (d : Dict κ α) (key : κ) : Option α := d.entries.lookup key

/-- Replaces one entry of a list. -/
def replaceEntry (key : κ) (value : α) (entry : κ × α) : κ × α :=
  if entry.1 = key then (key, value) else entry

theorem replaceEntry_fst (key : κ) (value : α) (entry : κ × α) :
    (replaceEntry key value entry).1 = entry.1 := by
  unfold replaceEntry
  split
  · next h => exact h.symm
  · rfl

theorem map_replaceEntry (key : κ) (value : α) (entries : List (κ × α)) :
    (entries.map (replaceEntry key value)).map Prod.fst = entries.map Prod.fst := by
  rw [List.map_map]
  exact List.map_congr_left fun entry _ => replaceEntry_fst key value entry

/-- `d[key] = value`. -/
def set (d : Dict κ α) (key : κ) (value : α) : Dict κ α :=
  if h : key ∈ d.keys then
    ⟨d.entries.map (replaceEntry key value), by
      rw [map_replaceEntry]
      exact d.keys_nodup⟩
  else
    ⟨d.entries ++ [(key, value)], by
      rw [List.map_append]
      exact d.keys_nodup.append (List.nodup_singleton key)
        (List.disjoint_singleton.mpr h)⟩

/-- `d.pop(key, None)`. -/
def erase (d : Dict κ α) (key : κ) : Dict κ α :=
  ⟨d.entries.filter fun entry => entry.1 ≠ key,
    d.keys_nodup.sublist (List.filter_sublist.map Prod.fst)⟩

theorem lookup_eq_some_iff {entries : List (κ × α)} (h : (entries.map Prod.fst).Nodup) {key : κ}
    {value : α} : entries.lookup key = some value ↔ (key, value) ∈ entries := by
  induction entries with
  | nil => simp
  | cons entry entries ih =>
    obtain ⟨first, v⟩ := entry
    rw [List.map_cons, List.nodup_cons] at h
    rw [List.lookup_cons, List.mem_cons]
    by_cases hkey : key = first
    · subst hkey
      have hnot : (key, value) ∉ entries := fun hmem =>
        h.1 (List.mem_map.mpr ⟨(key, value), hmem, rfl⟩)
      simp only [beq_self_eq_true, Option.some.injEq, Prod.mk.injEq, true_and, hnot, or_false]
      exact eq_comm
    · simp only [beq_eq_false_iff_ne.mpr hkey, Prod.mk.injEq, hkey, false_and, false_or]
      exact ih h.2

theorem get?_eq_some_iff {d : Dict κ α} {key : κ} {value : α} :
    d.get? key = some value ↔ (key, value) ∈ d.entries :=
  lookup_eq_some_iff d.keys_nodup

theorem get?_eq_none_iff {d : Dict κ α} {key : κ} : d.get? key = none ↔ key ∉ d.keys := by
  rw [Option.eq_none_iff_forall_ne_some, keys, List.mem_map]
  constructor
  · rintro h ⟨entry, hentry, rfl⟩
    exact h entry.2 (get?_eq_some_iff.mpr hentry)
  · intro h value hvalue
    exact h ⟨(key, value), get?_eq_some_iff.mp hvalue, rfl⟩

theorem mem_keys_of_get? {d : Dict κ α} {key : κ} {value : α} (h : d.get? key = some value) :
    key ∈ d.keys := by
  by_contra hnot
  rw [get?_eq_none_iff.mpr hnot] at h
  cases h

/-- The entries after one is set: it and the others as they were. -/
theorem mem_set {d : Dict κ α} {key : κ} {value : α} {entry : κ × α} :
    entry ∈ (d.set key value).entries ↔
      entry = (key, value) ∨ entry.1 ≠ key ∧ entry ∈ d.entries := by
  unfold set
  split
  · next hkey =>
    rw [List.mem_map]
    constructor
    · rintro ⟨old, hold, rfl⟩
      unfold replaceEntry
      split
      · exact Or.inl rfl
      · next hne => exact Or.inr ⟨hne, hold⟩
    · rintro (rfl | ⟨hne, hold⟩)
      · obtain ⟨old, hold, rfl⟩ := List.mem_map.mp hkey
        exact ⟨old, hold, if_pos rfl⟩
      · exact ⟨entry, hold, if_neg hne⟩
  · next hkey =>
    rw [List.mem_append, List.mem_singleton, or_comm]
    refine or_congr_right ⟨fun hold => ⟨?_, hold⟩, And.right⟩
    rintro rfl
    exact hkey (List.mem_map_of_mem hold)

theorem mem_keys_set {d : Dict κ α} {key other : κ} {value : α} :
    other ∈ (d.set key value).keys ↔ other = key ∨ other ∈ d.keys := by
  simp only [keys, List.mem_map, mem_set]
  constructor
  · rintro ⟨entry, rfl | ⟨-, hold⟩, rfl⟩
    · exact .inl rfl
    · exact .inr ⟨entry, hold, rfl⟩
  · rintro (rfl | ⟨entry, hold, rfl⟩)
    · exact ⟨_, .inl rfl, rfl⟩
    · by_cases hkey : entry.1 = key
      · exact ⟨_, .inl rfl, hkey.symm⟩
      · exact ⟨entry, .inr ⟨hkey, hold⟩, rfl⟩

@[simp]
theorem get?_set_self (d : Dict κ α) (key : κ) (value : α) :
    (d.set key value).get? key = some value :=
  get?_eq_some_iff.mpr (mem_set.mpr (Or.inl rfl))

theorem get?_set_of_ne (d : Dict κ α) {key other : κ} (h : other ≠ key) (value : α) :
    (d.set key value).get? other = d.get? other := by
  refine Option.ext fun v => ?_
  rw [get?_eq_some_iff, get?_eq_some_iff, mem_set]
  simp [h]

/-- What a key is looked up to after one is set. -/
theorem get?_set_eq_some_iff {d : Dict κ α} {key other : κ} {value v : α} :
    (d.set key value).get? other = some v ↔
      other = key ∧ v = value ∨ other ≠ key ∧ d.get? other = some v := by
  rw [get?_eq_some_iff, get?_eq_some_iff, mem_set, Prod.mk.injEq]

/-- What a key is looked up to after one is erased. -/
theorem get?_erase_eq_some_iff {d : Dict κ α} {key other : κ} {v : α} :
    (d.erase key).get? other = some v ↔ other ≠ key ∧ d.get? other = some v := by
  rw [get?_eq_some_iff, get?_eq_some_iff, erase, List.mem_filter, and_comm, decide_eq_true_iff]

/-- What a new value of a key shares with the old one, the entries keep. -/
theorem map_set {β : Type} {d : Dict κ α} {key : κ} {value old : α} (f : κ × α → β)
    (hold : d.get? key = some old) (hf : f (key, value) = f (key, old)) :
    (d.set key value).entries.map f = d.entries.map f := by
  rw [set, dif_pos (mem_keys_of_get? hold), List.map_map]
  refine List.map_congr_left fun entry hentry => ?_
  change f (replaceEntry key value entry) = f entry
  unfold replaceEntry
  split
  · next hkey =>
    obtain rfl : old = entry.2 :=
      Option.some.inj (hold.symm.trans (get?_eq_some_iff.mpr (hkey ▸ hentry)))
    rw [hf, ← hkey]
  · rfl

/-- `set` for each pair of a list, one after the other. -/
def setAll (d : Dict κ α) (pairs : List (κ × α)) : Dict κ α :=
  pairs.foldl (fun d pair => d.set pair.1 pair.2) d

@[simp]
theorem setAll_cons (d : Dict κ α) (pair : κ × α) (pairs : List (κ × α)) :
    d.setAll (pair :: pairs) = (d.set pair.1 pair.2).setAll pairs := rfl

theorem setAll_append (d : Dict κ α) (pairs pairs' : List (κ × α)) :
    d.setAll (pairs ++ pairs') = (d.setAll pairs).setAll pairs' :=
  List.foldl_append

theorem get?_setAll_of_not_mem (d : Dict κ α) {pairs : List (κ × α)} {key : κ}
    (h : key ∉ pairs.map Prod.fst) : (d.setAll pairs).get? key = d.get? key := by
  induction pairs generalizing d with
  | nil => rfl
  | cons pair pairs ih =>
    rw [List.map_cons, List.mem_cons, not_or] at h
    rw [setAll_cons, ih _ h.2, get?_set_of_ne d h.1]

/-- Where no key comes twice, each keeps the value that it is set to. -/
theorem get?_setAll_of_mem (d : Dict κ α) {pairs : List (κ × α)}
    (hnodup : (pairs.map Prod.fst).Nodup) {key : κ} {value : α} (h : (key, value) ∈ pairs) :
    (d.setAll pairs).get? key = some value := by
  induction pairs generalizing d with
  | nil => cases h
  | cons pair pairs ih =>
    rw [List.map_cons, List.nodup_cons] at hnodup
    rw [setAll_cons]
    rcases List.mem_cons.mp h with rfl | h
    · rw [get?_setAll_of_not_mem _ hnodup.1, get?_set_self]
    · exact ih _ hnodup.2 h

theorem keys_set_of_not_mem {d : Dict κ α} {key : κ} (h : key ∉ d.keys) (value : α) :
    (d.set key value).keys = d.keys ++ [key] := by
  rw [set, dif_neg h, keys, List.map_append]
  rfl

end Dict

end EdgeSafety
