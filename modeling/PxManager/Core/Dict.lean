import Mathlib.Data.List.Nodup
import Mathlib.Data.List.Basic
import Mathlib.Logic.Embedding.Basic

/-!
# PxManager.Core.Dict

**Insertion-ordered dictionaries**, as Python's `dict` and `OrderedDict` keep them.

A `Dict` is its list of entries together with the proof that no key occurs twice. Assigning to
a key that is present keeps its position; a new key goes to the end; `erase` forgets the
position, so a key that is assigned again afterwards is the newest one.

The lemmas come in two groups: lookup after each update (`get?_set`, `get?_erase`, …), which is
all most clients need, and the effect of each update on the entry list itself, for the clients
that depend on the order. `mapKeys` renames the keys, and all updates respect that.
-/

namespace PxManager.Core

/-- An insertion-ordered dictionary: the entries, oldest first, with pairwise distinct keys. -/
structure Dict (κ ν : Type) where
  entries : List (κ × ν)
  nodup : (entries.map Prod.fst).Nodup

namespace Dict

variable {κ ν : Type}

@[ext] theorem ext {d d' : Dict κ ν} (h : d.entries = d'.entries) : d = d' := by
  cases d; cases d'; cases h; rfl

/-- The dictionary with no entries. -/
def empty : Dict κ ν := ⟨[], List.nodup_nil⟩

instance : EmptyCollection (Dict κ ν) := ⟨empty⟩

/-- The keys, in insertion order. -/
def keys (d : Dict κ ν) : List κ := d.entries.map Prod.fst

/-- The values, in insertion order of their keys. -/
def values (d : Dict κ ν) : List ν := d.entries.map Prod.snd

theorem keys_nodup (d : Dict κ ν) : d.keys.Nodup := d.nodup

/-- The dictionary with only the entries that pass `p`. -/
def filter (p : κ × ν → Bool) (d : Dict κ ν) : Dict κ ν where
  entries := d.entries.filter p
  nodup := d.nodup.sublist (List.filter_sublist.map Prod.fst)

variable [DecidableEq κ]

/-- `d.get(k)`. -/
def get? (d : Dict κ ν) (k : κ) : Option ν :=
  (d.entries.find? fun e => e.1 = k).map Prod.snd

/-- `k in d`. -/
def contains (d : Dict κ ν) (k : κ) : Bool := (d.get? k).isSome

/-- The entry list of `d[k] = v`: in place when the key is present, else at the end. -/
def setEntries (l : List (κ × ν)) (k : κ) (v : ν) : List (κ × ν) :=
  if k ∈ l.map Prod.fst then l.map fun e => if e.1 = k then (k, v) else e
  else l ++ [(k, v)]

theorem setEntries_keys (l : List (κ × ν)) (k : κ) (v : ν) :
    (setEntries l k v).map Prod.fst =
      if k ∈ l.map Prod.fst then l.map Prod.fst else l.map Prod.fst ++ [k] := by
  unfold setEntries
  split
  · rw [List.map_map]
    refine List.map_congr_left ?_
    intro e _
    by_cases he : e.1 = k <;> simp [he]
  · simp

/-- `d[k] = v`. -/
def set (d : Dict κ ν) (k : κ) (v : ν) : Dict κ ν where
  entries := setEntries d.entries k v
  nodup := by
    rw [setEntries_keys]
    split
    · exact d.nodup
    · next hk => exact List.nodup_append.mpr ⟨d.nodup, by simp, by aesop⟩

/-- `d.pop(k, None)`. -/
def erase (d : Dict κ ν) (k : κ) : Dict κ ν := d.filter fun e => e.1 ≠ k

/-- `d.move_to_end(k)` of a key that is present. -/
def moveToEnd (d : Dict κ ν) (k : κ) : Dict κ ν :=
  match d.get? k with
  | none => d
  | some v => (d.erase k).set k v

omit [DecidableEq κ] in
/-- `d.popitem(last=False)`, done `n` times. -/
def dropOldest (n : Nat) (d : Dict κ ν) : Dict κ ν where
  entries := d.entries.drop n
  nodup := d.nodup.sublist ((List.drop_sublist n d.entries).map Prod.fst)

/-- `d.update(other)`. -/
def update (d other : Dict κ ν) : Dict κ ν := other.entries.foldl (fun d e => d.set e.1 e.2) d

/-- The dictionary of a dict display, where a later entry of a key replaces an earlier one. -/
def ofList (entries : List (κ × ν)) : Dict κ ν := entries.foldl (fun d e => d.set e.1 e.2) ∅

/-! ### Lookup -/

theorem mem_entries_iff {d : Dict κ ν} {k : κ} {v : ν} :
    (k, v) ∈ d.entries ↔ d.get? k = some v := by
  obtain ⟨l, hl⟩ := d
  simp only [get?]
  induction l with
  | nil => simp
  | cons e l ih =>
      obtain ⟨a, w⟩ := e
      simp only [List.map_cons, List.nodup_cons] at hl
      by_cases ha : a = k
      · subst ha
        have hnot : (a, v) ∉ l := fun hmem => hl.1 (List.mem_map.mpr ⟨_, hmem, rfl⟩)
        rw [List.find?_cons_of_pos (by simp)]
        simp [hnot, eq_comm]
      · rw [List.find?_cons_of_neg (by simpa using ha), ← ih hl.2, List.mem_cons]
        simp [Ne.symm ha]

theorem get?_eq_none_iff {d : Dict κ ν} {k : κ} : d.get? k = none ↔ k ∉ d.keys := by
  rw [Option.eq_none_iff_forall_ne_some]
  simp only [ne_eq, ← mem_entries_iff, keys, List.mem_map, Prod.exists, exists_and_right,
    exists_eq_right, not_exists]

theorem mem_keys_of_get? {d : Dict κ ν} {k : κ} {v : ν} (h : d.get? k = some v) : k ∈ d.keys :=
  List.mem_map.mpr ⟨(k, v), mem_entries_iff.mpr h, rfl⟩

theorem mem_values_iff {d : Dict κ ν} {v : ν} : v ∈ d.values ↔ ∃ k, d.get? k = some v := by
  simp [values, ← mem_entries_iff]

@[simp] theorem get?_empty (k : κ) : (∅ : Dict κ ν).get? k = none := rfl

theorem get?_filter {d : Dict κ ν} {p : κ × ν → Bool} {k : κ} :
    (d.filter p).get? k = (d.get? k).filter fun v => p (k, v) := by
  refine Option.ext ?_
  intro v
  rw [← mem_entries_iff, filter, List.mem_filter, mem_entries_iff, Option.filter_eq_some_iff]

theorem get?_erase {d : Dict κ ν} {k k' : κ} :
    (d.erase k).get? k' = if k' = k then none else d.get? k' := by
  rw [erase, get?_filter]
  by_cases h : k' = k <;> cases d.get? k' <;> simp [h, Option.filter]

@[simp] theorem get?_erase_self {d : Dict κ ν} {k : κ} : (d.erase k).get? k = none := by
  simp [get?_erase]

theorem get?_set {d : Dict κ ν} {k k' : κ} {v : ν} :
    (d.set k v).get? k' = if k' = k then some v else d.get? k' := by
  refine Option.ext ?_
  intro w
  rw [← mem_entries_iff]
  simp only [set, setEntries]
  split
  · next hk =>
      obtain ⟨⟨a, u⟩, he, rfl⟩ := List.mem_map.mp hk
      by_cases h : k' = a
      · rw [if_pos h, List.mem_map, Option.some.injEq]
        constructor
        · rintro ⟨e', _, he'⟩
          split at he' <;> simp_all
        · rintro rfl
          exact ⟨(a, u), he, by simp [h]⟩
      · rw [if_neg h, List.mem_map, ← mem_entries_iff]
        constructor
        · rintro ⟨e', he', heq⟩
          split at heq <;> simp_all
        · intro hmem
          exact ⟨_, hmem, by simp [h]⟩
  · next hk =>
      by_cases h : k' = k
      · subst h
        have hnone : (k', w) ∉ d.entries := fun hmem => hk (List.mem_map.mpr ⟨_, hmem, rfl⟩)
        simp [hnone, eq_comm]
      · simp [h, mem_entries_iff]

@[simp] theorem get?_set_self {d : Dict κ ν} {k : κ} {v : ν} : (d.set k v).get? k = some v := by
  simp [get?_set]

@[simp] theorem get?_moveToEnd {d : Dict κ ν} {k k' : κ} :
    (d.moveToEnd k).get? k' = d.get? k' := by
  unfold moveToEnd
  split
  · rfl
  · next v hk =>
      rw [get?_set, get?_erase]
      by_cases h : k' = k
      · rw [if_pos h, h, hk]
      · rw [if_neg h, if_neg h]

omit [DecidableEq κ] in
@[simp] theorem entries_dropOldest {d : Dict κ ν} {n : Nat} :
    (d.dropOldest n).entries = d.entries.drop n := rfl

theorem get?_of_get?_dropOldest {d : Dict κ ν} {n : Nat} {k : κ} {v : ν}
    (h : (d.dropOldest n).get? k = some v) : d.get? k = some v :=
  mem_entries_iff.mp (List.mem_of_mem_drop (mem_entries_iff.mpr h))

/-- One pass over a list of entries that assigns or pops each key in turn, as a loop over
`list(d.items())` does: every visited key ends up with what its own visit left. -/
theorem get?_foldl_visit {f : κ → ν → Option ν} {l : List (κ × ν)}
    (hl : (l.map Prod.fst).Nodup) (d : Dict κ ν) (k : κ) :
    (l.foldl (fun d e => (f e.1 e.2).elim (d.erase e.1) (d.set e.1)) d).get? k =
      (l.find? fun e => e.1 = k).elim (d.get? k) fun e => f e.1 e.2 := by
  induction l generalizing d with
  | nil => rfl
  | cons e l ih =>
      simp only [List.map_cons, List.nodup_cons] at hl
      rw [List.foldl_cons, ih hl.2]
      by_cases he : e.1 = k
      · subst he
        have hnone : (l.find? fun e' => e'.1 = e.1) = none := by
          simp only [List.find?_eq_none, decide_eq_true_eq]
          exact fun e' hmem heq => hl.1 (heq ▸ List.mem_map.mpr ⟨e', hmem, rfl⟩)
        rw [hnone, List.find?_cons_of_pos (by simp)]
        cases hf : f e.1 e.2 <;> simp [hf]
      · rw [List.find?_cons_of_neg (by simpa using he)]
        cases l.find? fun e => e.1 = k with
        | some e' => rfl
        | none => cases hf : f e.1 e.2 <;> simp [get?_erase, get?_set, Ne.symm he]

theorem get?_update {d other : Dict κ ν} {k : κ} :
    (d.update other).get? k = (other.get? k).or (d.get? k) := by
  have hvisit := get?_foldl_visit (f := fun _ v => some v) other.nodup d k
  refine hvisit.trans ?_
  unfold get?
  cases other.entries.find? fun e => e.1 = k <;> rfl

/-! ### The entry list after an update -/

/-- A key that is not present is added at the end. -/
theorem entries_set_of_not_mem {d : Dict κ ν} {k : κ} {v : ν} (h : d.get? k = none) :
    (d.set k v).entries = d.entries ++ [(k, v)] := by
  rw [get?_eq_none_iff, keys] at h
  simp [set, setEntries, h]

theorem keys_set {d : Dict κ ν} {k : κ} {v : ν} :
    (d.set k v).keys = if k ∈ d.keys then d.keys else d.keys ++ [k] :=
  setEntries_keys d.entries k v

/-- The keys stay the assigned ones, each where it was assigned first. -/
theorem keys_set_eraseDups [BEq κ] [LawfulBEq κ] {d : Dict κ ν} {ks : List κ}
    (h : d.keys = ks.eraseDups) (k : κ) (v : ν) : (d.set k v).keys = (ks ++ [k]).eraseDups := by
  rw [keys_set, h, List.eraseDups_append]
  by_cases hk : k ∈ ks
  · rw [if_pos (List.mem_eraseDups.mpr hk)]
    simp [List.removeAll, hk]
  · rw [if_neg (mt List.mem_eraseDups.mp hk)]
    simp [List.removeAll, hk, List.eraseDups_cons]

theorem entries_eq_filterMap_keys (d : Dict κ ν) :
    d.entries = d.keys.filterMap fun k => (d.get? k).map fun v => (k, v) := by
  have hself : ∀ e ∈ d.entries, some e = (d.get? e.1).map fun v => (e.1, v) := by
    intro e he
    rw [mem_entries_iff.mp he, Option.map_some]
  calc d.entries = d.entries.filterMap some := List.filterMap_some.symm
    _ = d.entries.filterMap fun e => (d.get? e.1).map fun v => (e.1, v) :=
        List.filterMap_congr hself
    _ = d.keys.filterMap fun k => (d.get? k).map fun v => (k, v) := by
        rw [keys, List.filterMap_map]
        rfl

/-- A dictionary is its keys, in their order, and the lookups. -/
theorem ext_get? {d d' : Dict κ ν} (hkeys : d.keys = d'.keys) (hget : ∀ k, d.get? k = d'.get? k) :
    d = d' := by
  apply ext
  rw [entries_eq_filterMap_keys d, entries_eq_filterMap_keys d', hkeys, funext hget]

@[simp] theorem entries_erase {d : Dict κ ν} {k : κ} :
    (d.erase k).entries = d.entries.filter fun e => e.1 ≠ k := rfl

/-- Erasing a list of keys one by one keeps the entries of all other keys, in order. -/
theorem entries_foldl_erase (ks : List κ) (d : Dict κ ν) :
    (ks.foldl erase d).entries = d.entries.filter fun e => e.1 ∉ ks := by
  induction ks generalizing d with
  | nil => simp
  | cons k ks ih =>
      rw [List.foldl_cons, ih, entries_erase, List.filter_filter]
      refine List.filter_congr ?_
      intro e _
      simp [not_or, Bool.and_comm]

/-! ### Renaming of keys -/

section MapKeys

variable {κ' : Type} [DecidableEq κ'] (f : κ ↪ κ')

omit [DecidableEq κ] [DecidableEq κ'] in
/-- The dictionary with its keys renamed. -/
def mapKeys (d : Dict κ ν) : Dict κ' ν where
  entries := d.entries.map fun e => (f e.1, e.2)
  nodup := by
    rw [List.map_map]
    have hmap := d.nodup.map f.injective
    rwa [List.map_map] at hmap

variable {f}

@[simp] theorem get?_mapKeys {d : Dict κ ν} {k : κ} : (d.mapKeys f).get? (f k) = d.get? k := by
  simp only [get?, mapKeys, List.find?_map, Option.map_map, Function.comp_def, f.injective.eq_iff]

theorem mapKeys_erase {d : Dict κ ν} {k : κ} :
    (d.erase k).mapKeys f = (d.mapKeys f).erase (f k) := by
  apply ext
  simp only [mapKeys, entries_erase, List.filter_map, Function.comp_def, ne_eq, f.injective.eq_iff]

theorem mapKeys_set {d : Dict κ ν} {k : κ} {v : ν} :
    (d.set k v).mapKeys f = (d.mapKeys f).set (f k) v := by
  have hmem : f k ∈ (d.entries.map fun e => (f e.1, e.2)).map Prod.fst ↔
      k ∈ d.entries.map Prod.fst := by
    simp only [List.mem_map, exists_exists_and_eq_and, f.injective.eq_iff]
  apply ext
  simp only [mapKeys, set, setEntries, hmem]
  split
  · rw [List.map_map, List.map_map]
    refine List.map_congr_left ?_
    intro e _
    by_cases he : e.1 = k <;> simp [he]
  · simp

theorem mapKeys_moveToEnd {d : Dict κ ν} {k : κ} :
    (d.moveToEnd k).mapKeys f = (d.mapKeys f).moveToEnd (f k) := by
  rw [moveToEnd, moveToEnd, get?_mapKeys]
  cases d.get? k with
  | none => rfl
  | some v => rw [mapKeys_set, mapKeys_erase]

omit [DecidableEq κ] [DecidableEq κ'] in
theorem mapKeys_dropOldest {d : Dict κ ν} {n : Nat} :
    (d.dropOldest n).mapKeys f = (d.mapKeys f).dropOldest n :=
  ext List.map_drop

end MapKeys

end Dict

end PxManager.Core
