import PxManager.Core.Text

/-!
# PxManager.Core.Regex

`finditer` and `sub` of a regular expression that never matches the empty text.

An expression is given by what it matches at a position. It sees the character before the position,
for its lookbehinds, and the text from there on. The text is searched from left to right, and the
search goes on after each match.
-/

namespace PxManager.Core

/-- A regular expression with groups in `γ`. -/
structure Regex (γ : Type) where
  /-- The match at the start of a text, after the character before it: its groups and its text. -/
  match? : Option Char → Text → Option (γ × Text)
  prefix_of_match : ∀ {prev s groups source}, match? prev s = some (groups, source) → source <+: s
  ne_nil_of_match : ∀ {prev s groups source}, match? prev s = some (groups, source) → source ≠ []

namespace Regex

variable {γ : Type} (re : Regex γ)

/-- The search goes on after the character `prev`, and after `skip` more characters that are part of
the last match. -/
def scanFrom (prev : Option Char) (skip : Nat) : Text → List (Char ⊕ γ × Text)
  | [] => []
  | c :: s =>
      match skip with
      | skip + 1 => scanFrom (some c) skip s
      | 0 =>
          match re.match? prev (c :: s) with
          | some (groups, source) =>
              .inr (groups, source) :: scanFrom (some c) (source.length - 1) s
          | none => .inl c :: scanFrom (some c) 0 s

/-- The matches in a text, and the characters outside them. -/
def scan (s : Text) : List (Char ⊕ γ × Text) := re.scanFrom none 0 s

/-- `sub`, where a match is replaced by a text made from its groups. -/
def sub (template : γ → Text) (s : Text) : Text :=
  (re.scan s).flatMap (Sum.elim (fun c => [c]) fun m => template m.1)

variable {re} {prev : Option Char} {s : Text}

theorem scanFrom_skip (prev : Option Char) (source rest : Text) :
    re.scanFrom prev source.length (source ++ rest) =
      re.scanFrom (source.getLast?.or prev) 0 rest := by
  induction source generalizing prev with
  | nil => rfl
  | cons c source ih =>
      rw [List.cons_append, List.length_cons, scanFrom, ih, List.getLast?_cons]
      cases source.getLast? <;> rfl

/-- The search goes on after a match. -/
theorem scanFrom_of_match {groups : γ} {source rest : Text}
    (h : re.match? prev (source ++ rest) = some (groups, source)) :
    re.scanFrom prev 0 (source ++ rest) =
      .inr (groups, source) :: re.scanFrom source.getLast? 0 rest := by
  cases source with
  | nil => exact absurd rfl (re.ne_nil_of_match h)
  | cons c source =>
      rw [List.cons_append] at h ⊢
      rw [scanFrom, h]
      dsimp only
      rw [List.length_cons, Nat.add_sub_cancel, scanFrom_skip, List.getLast?_cons]
      cases source.getLast? <;> rfl

theorem scanFrom_of_none {c : Char} (h : re.match? prev (c :: s) = none) :
    re.scanFrom prev 0 (c :: s) = .inl c :: re.scanFrom (some c) 0 s := by
  rw [scanFrom, h]

variable (re) in
/-- Induction along a search. -/
theorem scan_induction {P : Option Char → Text → Prop} (nil : ∀ prev, P prev [])
    (plain : ∀ prev c s, re.match? prev (c :: s) = none → P (some c) s → P prev (c :: s))
    (found : ∀ prev groups source rest, re.match? prev (source ++ rest) = some (groups, source) →
      P source.getLast? rest → P prev (source ++ rest)) (prev : Option Char) (s : Text) :
    P prev s := by
  induction hlength : s.length using Nat.strong_induction_on generalizing prev s with
  | _ n ih =>
      subst hlength
      cases s with
      | nil => exact nil prev
      | cons c s =>
          cases hmatch : re.match? prev (c :: s) with
          | none => exact plain prev c s hmatch (ih s.length (by simp) (some c) s rfl)
          | some m =>
              obtain ⟨groups, source⟩ := m
              obtain ⟨rest, hrest⟩ := re.prefix_of_match hmatch
              have hsource := List.length_pos_iff.mpr (re.ne_nil_of_match hmatch)
              rw [← hrest] at hmatch ⊢
              refine found prev groups source rest hmatch (ih rest.length ?_ _ rest rfl)
              rw [← hrest, List.length_append]
              omega

end Regex

/-! ### Lazy dots -/

/-- `.+?`, with what it has taken already, in front of what `stop` accepts. -/
def lazyDots (stop : Option Char → Text → Bool) (taken : Text) : Text → Option Text
  | [] => if taken ≠ [] ∧ stop taken.getLast? [] then some taken else none
  | c :: s =>
      if taken ≠ [] ∧ stop taken.getLast? (c :: s) then some taken
      else if c = '\n' then none
      else lazyDots stop (taken ++ [c]) s

/-- What the dots take is not empty, and comes before what is accepted. -/
theorem of_lazyDots {stop : Option Char → Text → Bool} {taken s group : Text}
    (h : lazyDots stop taken s = some group) :
    ∃ more rest, group = taken ++ more ∧ s = more ++ rest ∧ group ≠ [] ∧
      stop group.getLast? rest = true ∧ ∀ c ∈ more, c ≠ '\n' := by
  induction s generalizing taken with
  | nil =>
      rw [lazyDots] at h
      split at h
      · next hstop =>
          cases h
          exact ⟨[], [], (List.append_nil _).symm, rfl, hstop.1, hstop.2, by simp⟩
      · cases h
  | cons c s ih =>
      rw [lazyDots] at h
      split at h
      · next hstop =>
          cases h
          exact ⟨[], c :: s, (List.append_nil _).symm, rfl, hstop.1, hstop.2, by simp⟩
      · split at h
        · cases h
        · next hline =>
            obtain ⟨more, rest, rfl, rfl, hne, hstop, hmore⟩ := ih h
            refine ⟨c :: more, rest, by simp, rfl, hne, hstop, ?_⟩
            intro d hd
            rcases List.mem_cons.mp hd with rfl | hd
            · exact hline
            · exact hmore d hd

end PxManager.Core
