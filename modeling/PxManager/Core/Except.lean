import Mathlib.Data.List.Forall2

/-!
# PxManager.Core.Except

Computations that succeed: each step of one that returns has returned, and each of its checks has
passed. The last section is about list comprehensions that have a value.
-/

namespace PxManager.Core

variable {ε α β : Type}

theorem exists_of_isOk {x : Except ε α} (h : x.isOk = true) : ∃ a, x = .ok a := by
  cases x with
  | ok a => exact ⟨a, rfl⟩
  | error e => cases h

theorem ok_bind (a : α) (f : α → Except ε β) : (.ok a >>= f) = f a := rfl

theorem bind_eq_ok {x : Except ε α} {f : α → Except ε β} {b : β} (h : x >>= f = .ok b) :
    ∃ a, x = .ok a ∧ f a = .ok b := by
  cases x with
  | error e => cases h
  | ok a => exact ⟨a, rfl, h⟩

theorem bind_eq_ok_iff {x : Except ε α} {f : α → Except ε β} {b : β} :
    x >>= f = .ok b ↔ ∃ a, x = .ok a ∧ f a = .ok b := by
  refine ⟨bind_eq_ok, ?_⟩
  rintro ⟨a, rfl, h⟩
  exact h

/-- A computation that went past an `if` with a `throw`. -/
theorem of_guard_eq_ok {p : Prop} [Decidable p] {e : ε} {f : PUnit → Except ε β} {b : β}
    (h : (if p then throw e >>= f else f ⟨⟩) = .ok b) : ¬ p ∧ f ⟨⟩ = .ok b := by
  by_cases hp : p
  · rw [if_pos hp] at h
    cases h
  · rw [if_neg hp] at h
    exact ⟨hp, h⟩

/-- A list comprehension returns if every element does. -/
theorem mapM_eq_ok_iff {f : α → Except ε β} {xs : List α} {ys : List β} :
    xs.mapM f = .ok ys ↔ List.Forall₂ (fun x y => f x = .ok y) xs ys := by
  induction xs generalizing ys with
  | nil => cases ys <;> simp [pure, Except.pure]
  | cons x xs ih =>
      rw [List.mapM_cons]
      constructor
      · intro h
        obtain ⟨y, hy, h⟩ := bind_eq_ok h
        obtain ⟨ys', hys', h⟩ := bind_eq_ok h
        cases h
        exact .cons hy (ih.mp hys')
      · intro h
        cases h with
        | cons hy hys =>
            rw [hy, show xs.mapM f = .ok _ from ih.mpr hys]
            rfl

section Comprehension

variable {f : α → Except ε β} {xs : List α} {ys : List β}

theorem length_of_mapM (h : xs.mapM f = .ok ys) : ys.length = xs.length :=
  (mapM_eq_ok_iff.mp h).length_eq.symm

theorem getElem?_of_mapM (h : xs.mapM f = .ok ys) {i : Nat} {y : β} (hy : ys[i]? = some y) :
    ∃ x, xs[i]? = some x ∧ f x = .ok y := by
  obtain ⟨hlt, rfl⟩ := List.getElem?_eq_some_iff.mp hy
  have hlt' : i < xs.length := length_of_mapM h ▸ hlt
  exact ⟨xs[i], List.getElem?_eq_getElem hlt', (mapM_eq_ok_iff.mp h).get hlt' hlt⟩

/-- The same where the elements come with their places. -/
theorem getElem?_of_mapM_zipIdx {g : α × Nat → Except ε β} {start : Nat}
    (h : (xs.zipIdx start).mapM g = .ok ys) {i : Nat} {y : β} (hy : ys[i]? = some y) :
    ∃ x, xs[i]? = some x ∧ g (x, start + i) = .ok y := by
  obtain ⟨x, hx, hg⟩ := getElem?_of_mapM h hy
  rw [List.getElem?_zipIdx] at hx
  obtain ⟨x', hx', rfl⟩ := Option.map_eq_some_iff.mp hx
  exact ⟨x', hx', hg⟩

/-- A list comprehension whose elements all return. -/
theorem exists_mapM_eq_ok {r : α → β → Prop} (h : ∀ x ∈ xs, ∃ y, f x = .ok y ∧ r x y) :
    ∃ ys, xs.mapM f = .ok ys ∧ List.Forall₂ r xs ys := by
  induction xs with
  | nil => exact ⟨[], rfl, .nil⟩
  | cons x xs ih =>
      obtain ⟨y, hy, hr⟩ := h x List.mem_cons_self
      obtain ⟨ys, hys, hall⟩ := ih fun x hx => h x (List.mem_cons_of_mem _ hx)
      refine ⟨y :: ys, ?_, .cons hr hall⟩
      rw [List.mapM_cons, hy, hys]
      rfl

end Comprehension

section OptionComprehension

variable {f : α → Option β} {xs : List α} {ys : List β}

theorem mapM_cons_eq_some {x : α} (h : (x :: xs).mapM f = some ys) :
    ∃ y ys', f x = some y ∧ xs.mapM f = some ys' ∧ ys = y :: ys' := by
  rw [List.mapM_cons] at h
  obtain ⟨y, hy, h⟩ := Option.bind_eq_some_iff.mp h
  obtain ⟨ys', hys', h⟩ := Option.bind_eq_some_iff.mp h
  cases h
  exact ⟨y, ys', hy, hys', rfl⟩

theorem forall₂_of_mapM (h : xs.mapM f = some ys) :
    List.Forall₂ (fun x y => f x = some y) xs ys := by
  induction xs generalizing ys with
  | nil =>
      cases h
      exact .nil
  | cons x xs ih =>
      obtain ⟨y, ys', hy, hys', rfl⟩ := mapM_cons_eq_some h
      exact .cons hy (ih hys')

theorem exists_of_mem_mapM (h : xs.mapM f = some ys) {y : β} (hy : y ∈ ys) :
    ∃ x ∈ xs, f x = some y := by
  induction xs generalizing ys with
  | nil =>
      cases h
      cases hy
  | cons x xs ih =>
      obtain ⟨y', ys', hx, hxs, rfl⟩ := mapM_cons_eq_some h
      rcases List.mem_cons.mp hy with rfl | hy'
      · exact ⟨x, List.mem_cons_self, hx⟩
      · obtain ⟨x', hmem, hx'⟩ := ih hxs hy'
        exact ⟨x', List.mem_cons_of_mem _ hmem, hx'⟩

theorem forall_mem_of_mapM (h : xs.mapM f = some ys) {p : β → Prop}
    (hp : ∀ x y, f x = some y → p y) : ∀ y ∈ ys, p y := by
  intro y hy
  obtain ⟨x, -, hx⟩ := exists_of_mem_mapM h hy
  exact hp x y hx

theorem forall_mem_left_of_mapM (h : xs.mapM f = some ys) {p : α → Prop}
    (hp : ∀ x y, f x = some y → p x) : ∀ x ∈ xs, p x :=
  ((List.forall₂_and_left xs ys).mp ((forall₂_of_mapM h).imp fun x y hx => ⟨hp x y hx, hx⟩)).1

end OptionComprehension

end PxManager.Core
