import Mathlib.Data.List.Dedup
import PxManager.Core.Dict
import PxManager.Core.Machine

/-!
# PxManager.Core.Lru

**Caches with a limit on their size** that drop the least recently used entry, as an `OrderedDict`
keeps them: a hit moves its key to the end, and so does a store, which then pops entries from the
front until the limit is kept.

The keys that were touched, by a hit or a store, make up the history of such a cache. `dedup` keeps
the last occurrence of everything in a list, so `touches.dedup` is the keys in the order in which
they were last touched, and the keys of the cache are some of these in the same order.

A program uses its cache in steps of its own. An `LruMachine` says which steps touch, write and
expire which keys, and it is `Lawful` if every step has one of the four effects that the
operations above have. Every lawful machine keeps the `LruLaw`.
-/

namespace PxManager.Core

variable {κ ν : Type} [DecidableEq κ]

/-! ### Keys after an update -/

namespace Dict

variable {d : Dict κ ν} {k : κ} {v : ν}

theorem keys_erase : (d.erase k).keys = d.keys.filter fun k' => k' ≠ k := by
  rw [keys, entries_erase, keys, List.filter_map]
  rfl

omit [DecidableEq κ] in
theorem keys_dropOldest {n : Nat} : (d.dropOldest n).keys = d.keys.drop n := List.map_drop

/-- A key that is moved is the last one. -/
theorem keys_moveToEnd (hk : k ∈ d.keys) :
    (d.moveToEnd k).keys = (d.keys.filter fun k' => k' ≠ k) ++ [k] := by
  unfold moveToEnd
  split
  · next hnone => exact absurd hk (get?_eq_none_iff.mp hnone)
  · rw [keys_set, keys_erase, if_neg (by simp)]

theorem keys_set_moveToEnd :
    ((d.set k v).moveToEnd k).keys = (d.keys.filter fun k' => k' ≠ k) ++ [k] := by
  have hk : k ∈ (d.set k v).keys := by
    rw [keys_set]
    split
    · next hmem => exact hmem
    · exact List.mem_append_right _ (List.mem_singleton_self k)
  rw [keys_moveToEnd hk, keys_set]
  split
  · rfl
  · simp

end Dict

namespace Lru

variable {maxSize : Nat} {d d' : Dict κ ν} {k : κ} {touches : List κ}

/-! ### The history -/

theorem dedup_concat (l : List κ) (k : κ) :
    (l ++ [k]).dedup = (l.dedup.filter fun k' => k' ≠ k) ++ [k] := by
  induction l with
  | nil => rfl
  | cons a l ih =>
      rw [List.cons_append]
      by_cases hmem : a ∈ l
      · rw [List.dedup_cons_of_mem (List.mem_append_left _ hmem), ih,
          List.dedup_cons_of_mem hmem]
      · rw [List.dedup_cons_of_notMem hmem]
        by_cases heq : a = k
        · subst heq
          rw [List.dedup_cons_of_mem (by simp), ih, List.filter_cons_of_neg (by simp)]
        · rw [List.dedup_cons_of_notMem (by simp [hmem, heq]), ih,
            List.filter_cons_of_pos (by simpa using heq)]
          rfl

omit [DecidableEq κ] in
/-- A key that has been touched has been touched for the last time. -/
theorem exists_last_touch (hk : k ∈ touches) :
    ∃ earlier later, touches = earlier ++ k :: later ∧ k ∉ later := by
  obtain ⟨later, earlier, heq, hnot⟩ := List.eq_append_cons_of_mem (List.mem_reverse.mpr hk)
  refine ⟨earlier.reverse, later.reverse, ?_, by simpa using hnot⟩
  rw [← List.reverse_reverse touches, heq]
  simp

/-- At least `maxSize` other keys have been touched since the key was touched last. -/
def Overtaken (maxSize : Nat) (touches : List κ) (k : κ) : Prop :=
  ∃ earlier later, touches = earlier ++ k :: later ∧ k ∉ later ∧ maxSize ≤ later.dedup.length

omit [DecidableEq κ] in
/-- What comes after an element of a list without repetitions is in the rest of the list. -/
theorem sublist_of_cons_sublist {newer earlier later : List κ} (hnot : k ∉ earlier)
    (h : (k :: newer).Sublist (earlier ++ k :: later)) : newer.Sublist later := by
  induction earlier with
  | nil => exact List.cons_sublist_cons.mp h
  | cons a earlier ih =>
      rw [List.mem_cons, not_or] at hnot
      cases h with
      | cons _ h => exact ih hnot.2 h
      | cons_cons _ h => exact absurd rfl hnot.1

/-- As many keys as come after a key in the order of their last touches have overtaken it. -/
theorem overtaken_of_sublist {newer : List κ} (h : (k :: newer).Sublist touches.dedup)
    (hlen : maxSize ≤ newer.length) : Overtaken maxSize touches k := by
  have hmem : k ∈ touches := List.mem_dedup.mp (h.subset List.mem_cons_self)
  obtain ⟨earlier, later, rfl, hnot⟩ := exists_last_touch hmem
  refine ⟨earlier, later, rfl, hnot, Nat.le_trans hlen (List.Sublist.length_le ?_)⟩
  obtain ⟨front, hfront⟩ : (k :: later.dedup) <:+ (earlier ++ k :: later).dedup := by
    rw [List.dedup_append, List.dedup_cons_of_notMem hnot]
    exact List.suffix_union_right _ _
  have hnodup := List.nodup_dedup (earlier ++ k :: later)
  rw [← hfront] at h hnodup
  refine sublist_of_cons_sublist ?_ h
  exact fun hk => List.disjoint_of_nodup_append hnodup hk List.mem_cons_self

/-! ### The cache -/

/-- `cache[k] = v`, `cache.move_to_end(k)`, and `popitem(last=False)` while there are more than
`maxSize` entries. -/
def store (maxSize : Nat) (k : κ) (v : ν) (d : Dict κ ν) : Dict κ ν :=
  let d := (d.set k v).moveToEnd k
  d.dropOldest (d.entries.length - maxSize)

/-- The keys are in the order of their last touches, and there are not too many. -/
structure Ordered (maxSize : Nat) (d : Dict κ ν) (touches : List κ) : Prop where
  order : d.keys.Sublist touches.dedup
  size : d.entries.length ≤ maxSize

/-- The effect of a step on a cache: what it has touched and written, and the cache after it. An
entry may expire only if the step says so. -/
inductive Effect (maxSize : Nat) (expired : κ → Prop) (d : Dict κ ν) :
    List κ → Option (κ × ν) → Dict κ ν → Prop
  | keep : Effect maxSize expired d [] none d
  | hit (k : κ) (hk : k ∈ d.keys) : Effect maxSize expired d [k] none (d.moveToEnd k)
  | expire (k : κ) (hk : expired k) : Effect maxSize expired d [] none (d.erase k)
  | store (k : κ) (v : ν) : Effect maxSize expired d [k] (some (k, v)) (store maxSize k v d)

/-- The entry that is stored is the last one, so it is kept if any is. -/
theorem get?_store (hpos : 0 < maxSize) : (store maxSize k v d).get? k = some v := by
  have hget : ((d.set k v).moveToEnd k).get? k = some v := by simp
  have hkeys := Dict.keys_set_moveToEnd (d := d) (k := k) (v := v)
  unfold store
  dsimp only
  generalize (d.set k v).moveToEnd k = newest at hget hkeys
  obtain ⟨older, last, hentries, -, hlast⟩ := List.map_eq_append_iff.mp hkeys
  obtain ⟨e, rfl, rfl⟩ := List.map_eq_singleton_iff.mp hlast
  have hmem : e ∈ newest.entries := by simp [hentries]
  obtain rfl : e.2 = v := Option.some.inj ((Dict.mem_entries_iff.mp hmem).symm.trans hget)
  refine Dict.mem_entries_iff.mp ?_
  have hlength : newest.entries.length = older.length + 1 := by simp [hentries]
  rw [Dict.entries_dropOldest, hlength, hentries, List.drop_append_of_le_length (by omega)]
  simp

theorem Ordered.empty : Ordered maxSize (∅ : Dict κ ν) [] := ⟨.slnil, Nat.zero_le _⟩

/-- The keys of a cache that moves a key to the end. -/
theorem concat_sublist (h : d.keys.Sublist touches.dedup) (k : κ) :
    ((d.keys.filter fun k' => k' ≠ k) ++ [k]).Sublist (touches ++ [k]).dedup := by
  rw [dedup_concat]
  exact (h.filter _).append (.refl _)

omit [DecidableEq κ] in
theorem length_keys : d.keys.length = d.entries.length := List.length_map _

theorem Ordered.effect {expired : κ → Prop} {touched : List κ} {written : Option (κ × ν)}
    (h : Ordered maxSize d touches) (he : Effect maxSize expired d touched written d') :
    Ordered maxSize d' (touches ++ touched) := by
  cases he with
  | keep =>
      rw [List.append_nil]
      exact h
  | hit k hk =>
      refine ⟨?_, ?_⟩
      · rw [Dict.keys_moveToEnd hk]
        exact concat_sublist h.order k
      · -- the key is taken out once and put back once
        have hlt : (d.keys.filter fun k' => k' ≠ k).length < d.keys.length :=
          List.length_filter_lt_length_iff_exists.mpr ⟨k, hk, by simp⟩
        have hsize := h.size
        rw [← length_keys] at hsize ⊢
        rw [Dict.keys_moveToEnd hk, List.length_append, List.length_singleton]
        omega
  | expire k _ =>
      rw [List.append_nil]
      refine ⟨?_, Nat.le_trans (List.length_filter_le _ _) h.size⟩
      rw [Dict.keys_erase]
      exact List.filter_sublist.trans h.order
  | store k v =>
      refine ⟨?_, ?_⟩
      · rw [store, Dict.keys_dropOldest, Dict.keys_set_moveToEnd]
        exact (List.drop_sublist _ _).trans (concat_sublist h.order k)
      · rw [store, Dict.entries_dropOldest, List.length_drop]
        omega

/-- An entry that a step removes was found expired, or has been overtaken. -/
theorem removed_of_effect {expired : κ → Prop} {touched : List κ} {written : Option (κ × ν)}
    (h : Ordered maxSize d touches) (he : Effect maxSize expired d touched written d')
    (hk : k ∈ d.keys) (hgone : k ∉ d'.keys) :
    expired k ∨ Overtaken maxSize (touches ++ touched) k := by
  cases he with
  | keep => exact absurd hk hgone
  | hit k' hk' =>
      rw [Dict.keys_moveToEnd hk'] at hgone
      simp [hk] at hgone
  | expire k' hexpired =>
      rw [Dict.keys_erase, List.mem_filter, not_and] at hgone
      have heq : k = k' := by simpa using hgone hk
      exact .inl (heq ▸ hexpired)
  | store k' v =>
      right
      have horder := concat_sublist h.order k'
      rw [store, Dict.keys_dropOldest] at hgone
      rw [← Dict.keys_set_moveToEnd (v := v)] at horder
      generalize hnewest : (d.set k' v).moveToEnd k' = newest at hgone horder
      -- the key was among those that the loop has popped
      have hmem : k ∈ newest.keys := by
        rw [← hnewest, Dict.keys_set_moveToEnd]
        by_cases heq : k = k'
        · simp [heq]
        · simp [hk, heq]
      rw [← List.take_append_drop (newest.entries.length - maxSize) newest.keys,
        List.mem_append] at hmem
      obtain ⟨older, newer, hpopped⟩ := List.append_of_mem (hmem.resolve_right hgone)
      have hpos : 0 < newest.entries.length - maxSize := by
        refine Nat.pos_of_ne_zero ?_
        intro hzero
        rw [hzero, List.take_zero] at hpopped
        simp at hpopped
      set latest := newer ++ newest.keys.drop (newest.entries.length - maxSize) with hlatest
      have hsub : (k :: latest).Sublist (touches ++ [k']).dedup := by
        refine List.Sublist.trans ?_ horder
        conv_rhs => rw [← List.take_append_drop (newest.entries.length - maxSize) newest.keys,
          hpopped]
        rw [List.append_assoc, List.cons_append]
        exact List.sublist_append_right _ _
      have hlen : maxSize ≤ latest.length := by
        rw [hlatest, List.length_append, List.length_drop, length_keys]
        omega
      exact overtaken_of_sublist hsub hlen

/-- What a step writes is in the cache after it. -/
theorem get?_of_written {expired : κ → Prop} {touched : List κ} {v : ν} (hpos : 0 < maxSize)
    (he : Effect maxSize expired d touched (some (k, v)) d') : d'.get? k = some v := by
  cases he with
  | store => exact get?_store hpos

/-- So is every key that it touches. -/
theorem mem_keys_of_touched {expired : κ → Prop} {touched : List κ} {written : Option (κ × ν)}
    (hpos : 0 < maxSize) (he : Effect maxSize expired d touched written d') (hk : k ∈ touched) :
    k ∈ d'.keys := by
  cases he with
  | keep => cases hk
  | hit k' hk' =>
      obtain rfl := List.mem_singleton.mp hk
      rw [Dict.keys_moveToEnd hk']
      simp
  | expire => cases hk
  | store k' v =>
      obtain rfl := List.mem_singleton.mp hk
      exact Dict.mem_keys_of_get? (get?_store hpos)

/-- What a step leaves in a cache was there, or has been written. -/
theorem get?_of_effect {expired : κ → Prop} {touched : List κ} {written : Option (κ × ν)}
    (he : Effect maxSize expired d touched written d') {v : ν} (hv : d'.get? k = some v) :
    d.get? k = some v ∨ written = some (k, v) := by
  cases he with
  | keep => exact .inl hv
  | hit k' hk' =>
      rw [Dict.get?_moveToEnd] at hv
      exact .inl hv
  | expire k' _ =>
      rw [Dict.get?_erase] at hv
      split at hv
      · cases hv
      · exact .inl hv
  | store k' v' =>
      have hset := Dict.get?_of_get?_dropOldest hv
      rw [Dict.get?_moveToEnd, Dict.get?_set] at hset
      split at hset
      · next heq =>
          cases hset
          exact .inr (heq ▸ rfl)
      · exact .inl hset

end Lru

/-! ### Machines with a cache -/

/-- A machine one part of whose state is a cache. -/
structure LruMachine (σ α κ ν : Type) where
  step : σ → α → Option σ
  cache : σ → Dict κ ν
  maxSize : Nat
  /-- The keys that a step touches. -/
  touched : σ → α → σ → List κ
  /-- The entry that a step writes. -/
  written : σ → α → Option (κ × ν)
  /-- The step finds the entry of the key expired. -/
  expired : σ → α → κ → Prop

namespace LruMachine

variable {σ α : Type} (m : LruMachine σ α κ ν)

/-- Every step has one of the four effects. -/
def Lawful : Prop :=
  ∀ s a s', m.step s a = some s' →
    Lru.Effect m.maxSize (m.expired s a) (m.cache s) (m.touched s a s') (m.written s a) (m.cache s')

/-- What holds in a state, given the keys that were touched before. -/
structure Law (s : σ) (touches : List κ) : Prop where
  /-- The keys are in the order of their last touches. -/
  order : (m.cache s).keys.Sublist touches.dedup
  size : (m.cache s).entries.length ≤ m.maxSize
  /-- An entry goes only because it is found expired, or because `maxSize` others were touched
  after it. -/
  removed : ∀ a s', m.step s a = some s' → ∀ k ∈ (m.cache s).keys, k ∉ (m.cache s').keys →
    m.expired s a k ∨ Lru.Overtaken m.maxSize (touches ++ m.touched s a s') k
  /-- An entry changes only where it is written. -/
  changed : ∀ a s', m.step s a = some s' → ∀ k v, (m.cache s').get? k = some v →
    (m.cache s).get? k = some v ∨ m.written s a = some (k, v)
  /-- What is written is there afterwards, and so is every key that is touched. -/
  stored : 0 < m.maxSize → ∀ a s', m.step s a = some s' → ∀ k v, m.written s a = some (k, v) →
    (m.cache s').get? k = some v
  present : 0 < m.maxSize → ∀ a s', m.step s a = some s' → ∀ k ∈ m.touched s a s',
    k ∈ (m.cache s').keys

/-- **A lawful machine keeps the law** in every state that it reaches from an empty cache. -/
theorem Lawful.law {m : LruMachine σ α κ ν} (hm : m.Lawful) {init s : σ} {actions : List α}
    (hinit : m.cache init = ∅) (hrun : run m.step init actions = some s) :
    m.Law s (reports m.step m.touched init actions) := by
  have hordered : Lru.Ordered m.maxSize (m.cache s)
      ([] ++ reports m.step m.touched init actions) := by
    have hempty : Lru.Ordered m.maxSize (m.cache init) [] := by
      rw [hinit]
      exact Lru.Ordered.empty
    exact @run_induction_reports _ _ m.step _ _ _ _ m.touched
      (fun s touches => Lru.Ordered m.maxSize (m.cache s) touches)
      (fun s touches a s' h hstep => h.effect (hm s a s' hstep)) [] hempty hrun
  rw [List.nil_append] at hordered
  exact
    { order := hordered.order
      size := hordered.size
      removed := fun a s' hstep k => Lru.removed_of_effect hordered (hm s a s' hstep)
      changed := fun a s' hstep k v => Lru.get?_of_effect (hm s a s' hstep)
      stored := fun hpos a s' hstep k v hwritten =>
        Lru.get?_of_written hpos (hwritten ▸ hm s a s' hstep)
      present := fun hpos a s' hstep k => Lru.mem_keys_of_touched hpos (hm s a s' hstep) }

end LruMachine

end PxManager.Core
