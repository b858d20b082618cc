import Mathlib.Data.List.Forall2
import PxManager.Core.Python

/-!
# PxManager.Core.JsonEq

**Equality of JSON values**, as `==` compares them: 1, 1.0 and `True` are equal, and so are objects
with equal values under the same keys. This is an equivalence relation.
-/

namespace PxManager.Core

namespace Json

/-! ### Induction -/

/-- A document is `None`, a number, a text, a list or an object. -/
@[elab_as_elim]
theorem induction {motive : Json → Prop} (null : motive .null)
    (number : ∀ a x, number? a = some x → motive a) (str : ∀ s, motive (.str s))
    (arr : ∀ xs, (∀ x ∈ xs, motive x) → motive (.arr xs))
    (obj : ∀ xs : List (String × Json), (∀ m ∈ xs, motive m.2) → motive (.obj xs)) : ∀ a, motive a
  | .null => null
  | .bool b => number (.bool b) _ rfl
  | .int n => number (.int n) _ rfl
  | .float x => number (.float x) _ rfl
  | .str s => str s
  | .arr xs => arr xs fun x _ => induction null number str arr obj x
  | .obj xs => obj xs fun m _ => induction null number str arr obj m.2
termination_by a => sizeOf a
decreasing_by
  · next hx =>
      have hlt := List.sizeOf_lt_of_mem hx
      simp only [Json.arr.sizeOf_spec]
      omega
  · next hm =>
      have hlt := List.sizeOf_lt_of_mem hm
      cases m
      simp only [Json.obj.sizeOf_spec, Prod.mk.sizeOf_spec] at hlt ⊢
      omega

/-! ### Members -/

/-- Both dictionaries have the key, with equal values, or neither has it. -/
def SameMember (a b : Option Json) : Prop := Option.Rel (fun x y => Json.eq x y = true) a b

theorem get?_cons (key key' : String) (value : Json) (members : List (String × Json)) :
    get? ((key', value) :: members) key =
      (get? members key).or (if key' = key then some value else none) := by
  have happend := get?_append [(key', value)] members key
  rw [List.singleton_append] at happend
  rw [happend]
  congr 1
  by_cases h : key' = key <;> simp [get?, h]

theorem mem_of_get? {members : List (String × Json)} {key : String} {value : Json}
    (h : get? members key = some value) : (key, value) ∈ members := by
  obtain ⟨m, hfind, rfl⟩ := Option.map_eq_some_iff.mp h
  have hkey : m.1 = key := by simpa using List.find?_some hfind
  rw [← hkey]
  exact List.mem_reverse.mp (List.mem_of_find?_eq_some hfind)

theorem isSome_get? {members : List (String × Json)} {key : String} :
    (get? members key).isSome = members.any fun m => m.1 = key := by
  rw [get?, Option.isSome_map, Bool.eq_iff_iff, List.find?_isSome, List.any_eq_true]
  simp

/-- Every member of the first dictionary is equal to one of the second. -/
theorem eqMembers_iff {xs ys : List (String × Json)} :
    eqMembers xs ys = true ↔ ∀ key value, get? xs key = some value →
      ∃ other, get? ys key = some other ∧ Json.eq value other = true := by
  induction xs with
  | nil => simp [eqMembers, get?]
  | cons m xs ih =>
      obtain ⟨key', value'⟩ := m
      rw [eqMembers, Bool.and_eq_true, Bool.or_eq_true, ih, ← isSome_get?]
      constructor
      · rintro ⟨hhead, htail⟩ key value hget
        rw [get?_cons] at hget
        cases hxs : get? xs key with
        | some later =>
            rw [hxs] at hget
            exact htail key value (hxs.trans hget)
        | none =>
            rw [hxs, Option.none_or] at hget
            split at hget
            · next heq =>
                subst heq
                cases hget
                rw [hxs] at hhead
                exact (Option.any_eq_true _ _).mp (hhead.resolve_left (by simp))
            · cases hget
      · intro h
        refine ⟨?_, fun key value hget => h key value (by rw [get?_cons, hget, Option.some_or])⟩
        cases hxs : get? xs key' with
        | some later => exact .inl rfl
        | none =>
            exact .inr ((Option.any_eq_true _ _).mpr (h key' value' (by rw [get?_cons, hxs]; simp)))

/-! ### What is equal to a value -/

theorem eq_null_iff {b : Json} : Json.eq .null b = true ↔ b = .null := by
  cases b <;> simp [Json.eq]

theorem eq_str_iff {s : String} {b : Json} : Json.eq (.str s) b = true ↔ b = .str s := by
  cases b <;> simp [Json.eq, eq_comm]

theorem eq_number_iff {a b : Json} {x : PyFloat} (ha : a.number? = some x) :
    Json.eq a b = true ↔ b.number? = some x := by
  cases a with
  | bool a => cases b <;> simp [Json.eq, ← ha]
  | int a => cases b <;> simp [Json.eq, ← ha]
  | float a => cases b <;> simp [Json.eq, ← ha]
  | _ => cases ha

theorem eqItems_iff {xs ys : List Json} :
    eqItems xs ys = true ↔ List.Forall₂ (fun x y => Json.eq x y = true) xs ys := by
  induction xs generalizing ys with
  | nil => cases ys <;> simp [eqItems]
  | cons x xs ih => cases ys <;> simp [eqItems, ih]

theorem eq_arr_iff {xs : List Json} {b : Json} :
    Json.eq (.arr xs) b = true ↔
      ∃ ys, b = .arr ys ∧ List.Forall₂ (fun x y => Json.eq x y = true) xs ys := by
  cases b with
  | arr ys => simp [Json.eq, eqItems_iff]
  | _ => simp [Json.eq]

/-- Members that are equal one by one, with no key left over. -/
theorem eq_obj_iff {xs : List (String × Json)} {b : Json} :
    Json.eq (.obj xs) b = true ↔
      ∃ ys, b = .obj ys ∧ ∀ key, SameMember (get? xs key) (get? ys key) := by
  cases b with
  | obj ys =>
      rw [Json.eq, Bool.and_eq_true, eqMembers_iff, List.all_eq_true]
      constructor
      · rintro ⟨hmembers, hkeys⟩
        refine ⟨ys, rfl, fun key => ?_⟩
        cases hxs : get? xs key with
        | some value =>
            obtain ⟨other, hys, heq⟩ := hmembers key value hxs
            rw [hys]
            exact .some heq
        | none =>
            cases hys : get? ys key with
            | none => exact .none
            | some other =>
                have hkey := hkeys _ (mem_of_get? hys)
                rw [hxs] at hkey
                cases hkey
      · rintro ⟨ys', heq, hsame⟩
        cases heq
        constructor
        · intro key value hget
          have hmember := hsame key
          rw [hget] at hmember
          generalize get? ys key = other at hmember
          cases hmember with
          | some heq => exact ⟨_, rfl, heq⟩
        · intro m hm
          have hsome : (get? ys m.1).isSome = true := by
            rw [isSome_get?]
            exact List.any_eq_true.mpr ⟨m, hm, decide_eq_true rfl⟩
          have hmember := hsame m.1
          revert hsome hmember
          cases get? xs m.1 <;> cases get? ys m.1 <;> intro hsome hmember
          · cases hsome
          · cases hmember
          · cases hsome
          · rfl
  | _ => simp [Json.eq]

/-! ### An equivalence relation -/

theorem eq_refl (a : Json) : Json.eq a a = true := by
  induction a using induction with
  | null => exact eq_null_iff.mpr rfl
  | number a x ha => exact (eq_number_iff ha).mpr ha
  | str s => exact eq_str_iff.mpr rfl
  | arr xs ih => exact eq_arr_iff.mpr ⟨xs, rfl, List.forall₂_same.mpr ih⟩
  | obj xs ih =>
      refine eq_obj_iff.mpr ⟨xs, rfl, fun key => ?_⟩
      cases hget : get? xs key with
      | none => exact .none
      | some value => exact .some (ih _ (mem_of_get? hget))

theorem eq_symm {a b : Json} (h : Json.eq a b = true) : Json.eq b a = true := by
  induction a using induction generalizing b with
  | null => exact eq_null_iff.mp h ▸ h
  | number a x ha => exact (eq_number_iff ((eq_number_iff ha).mp h)).mpr ha
  | str s => exact eq_str_iff.mp h ▸ eq_refl _
  | arr xs ih =>
      obtain ⟨ys, rfl, hall⟩ := eq_arr_iff.mp h
      refine eq_arr_iff.mpr ⟨xs, rfl, ?_⟩
      clear h
      induction hall with
      | nil => exact .nil
      | cons hxy _ hrest =>
          rw [List.forall_mem_cons] at ih
          exact .cons (ih.1 hxy) (hrest ih.2)
  | obj xs ih =>
      obtain ⟨ys, rfl, hall⟩ := eq_obj_iff.mp h
      refine eq_obj_iff.mpr ⟨xs, rfl, fun key => ?_⟩
      have hmem := fun value => @mem_of_get? xs key value
      have hsame := hall key
      generalize get? xs key = value, get? ys key = value' at hmem hsame
      cases hsame with
      | none => exact .none
      | some heq => exact .some (ih _ (hmem _ rfl) heq)

theorem eq_trans {a b c : Json} (hab : Json.eq a b = true) (hbc : Json.eq b c = true) :
    Json.eq a c = true := by
  induction a using induction generalizing b c with
  | null => exact eq_null_iff.mp hab ▸ hbc
  | number a x ha => exact (eq_number_iff ha).mpr ((eq_number_iff ((eq_number_iff ha).mp hab)).mp hbc)
  | str s => exact eq_str_iff.mp hab ▸ hbc
  | arr xs ih =>
      obtain ⟨ys, rfl, hxs⟩ := eq_arr_iff.mp hab
      obtain ⟨zs, rfl, hys⟩ := eq_arr_iff.mp hbc
      refine eq_arr_iff.mpr ⟨zs, rfl, ?_⟩
      clear hab hbc
      induction hxs generalizing zs with
      | nil =>
          cases hys
          exact .nil
      | cons hxy _ hrest =>
          cases hys with
          | cons hyz hys =>
              rw [List.forall_mem_cons] at ih
              exact .cons (ih.1 hxy hyz) (hrest ih.2 _ hys)
  | obj xs ih =>
      obtain ⟨ys, rfl, hxs⟩ := eq_obj_iff.mp hab
      obtain ⟨zs, rfl, hys⟩ := eq_obj_iff.mp hbc
      refine eq_obj_iff.mpr ⟨zs, rfl, fun key => ?_⟩
      have hmem := fun value => @mem_of_get? xs key value
      have hsame := hxs key
      have hsame' := hys key
      generalize get? xs key = value, get? ys key = value', get? zs key = value'' at hmem hsame hsame'
      cases hsame with
      | none =>
          cases hsame'
          exact .none
      | some hxy =>
          cases hsame' with
          | some hyz => exact .some (ih _ (hmem _ rfl) hxy hyz)

namespace SameMember

variable {a b c : Option Json}

theorem refl (a : Option Json) : SameMember a a := by
  cases a with
  | none => exact .none
  | some value => exact .some (eq_refl value)

theorem symm (h : SameMember a b) : SameMember b a := by
  cases h with
  | none => exact .none
  | some heq => exact .some (eq_symm heq)

theorem trans (hab : SameMember a b) (hbc : SameMember b c) : SameMember a c := by
  cases hab with
  | none => exact hbc
  | some hxy =>
      cases hbc with
      | some hyz => exact .some (eq_trans hxy hyz)

theorem eq_none_iff (h : SameMember a b) : a = none ↔ b = none := by
  cases h <;> simp

end SameMember

end Json

end PxManager.Core
