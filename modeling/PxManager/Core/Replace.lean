import PxManager.Core.Escape
import PxManager.Core.Regex

/-!
# PxManager.Core.Replace

`str.replace`, and how two replacements take backslash escapes away.

The first replacement reads the backslash before each quote. An escaped backslash is never followed
by a quote without one of its own, so no half of it is taken, and the second replacement finds each
backslash of the text twice.
-/

namespace PxManager.Core

/-- The expression for the text `c :: rest`. -/
def Regex.literal (c : Char) (rest : Text) : Regex Unit where
  match? _ s := if c :: rest <+: s then some ((), c :: rest) else none
  prefix_of_match h := by
    obtain ⟨hfront, h⟩ := Option.ite_none_right_eq_some.mp h
    cases h
    exact hfront
  ne_nil_of_match h := by
    obtain ⟨-, h⟩ := Option.ite_none_right_eq_some.mp h
    cases h
    exact List.cons_ne_nil c rest

/-- `text.replace(old, new)`. -/
def replace (old new text : Text) : Text :=
  match old with
  | [] => new ++ text.flatMap fun c => c :: new
  | c :: rest => (Regex.literal c rest).sub (fun _ => new) text

section Replace

variable {c : Char} {rest : Text}

/-- What comes before a position does not matter. -/
theorem scanFrom_literal (prev : Option Char) (skip : Nat) (text : Text) :
    (Regex.literal c rest).scanFrom prev skip text =
      (Regex.literal c rest).scanFrom none skip text := by
  induction text generalizing prev skip with
  | nil => rfl
  | cons d text ih =>
      cases skip with
      | succ skip => exact (ih (some d) skip).trans (ih (some d) skip).symm
      | zero => rfl

theorem replace_nil (c : Char) (rest new : Text) : replace (c :: rest) new [] = [] := rfl

/-- The text is replaced where it is found. -/
theorem replace_append (c : Char) (rest new text : Text) :
    replace (c :: rest) new (c :: rest ++ text) = new ++ replace (c :: rest) new text := by
  have hmatch : (Regex.literal c rest).match? none (c :: rest ++ text) = some ((), c :: rest) :=
    if_pos (List.prefix_append _ _)
  have hscan : (Regex.literal c rest).scan (c :: rest ++ text) =
      .inr ((), c :: rest) :: (Regex.literal c rest).scan text :=
    (Regex.scanFrom_of_match hmatch).trans (congrArg _ (scanFrom_literal _ 0 text))
  rw [replace, Regex.sub, hscan, List.flatMap_cons]
  rfl

/-- A character that it does not begin with stays. -/
theorem replace_cons {d : Char} {text : Text} (h : ¬ c :: rest <+: d :: text) (new : Text) :
    replace (c :: rest) new (d :: text) = d :: replace (c :: rest) new text := by
  have hmatch : (Regex.literal c rest).match? none (d :: text) = none := if_neg h
  have hscan : (Regex.literal c rest).scan (d :: text) =
      .inl d :: (Regex.literal c rest).scan text :=
    (Regex.scanFrom_of_none hmatch).trans (congrArg _ (scanFrom_literal _ 0 text))
  rw [replace, Regex.sub, hscan, List.flatMap_cons]
  rfl

theorem replace_cons_of_ne {d : Char} (h : d ≠ c) (new text : Text) :
    replace (c :: rest) new (d :: text) = d :: replace (c :: rest) new text := by
  refine replace_cons ?_ new
  rw [List.cons_prefix_cons]
  exact fun hfront => h hfront.1.symm

/-- For one character, each occurrence is replaced. -/
theorem replace_singleton (new text : Text) :
    replace [c] new text = text.flatMap fun d => if d = c then new else [d] := by
  induction text with
  | nil => exact replace_nil c [] new
  | cons d text ih =>
      by_cases heq : d = c
      · subst heq
        calc replace [d] new (d :: text) = new ++ replace [d] new text :=
              replace_append d [] new text
          _ = (d :: text).flatMap fun e => if e = d then new else [e] := by
              rw [ih, List.flatMap_cons, if_pos rfl]
      · rw [replace_cons_of_ne heq, ih, List.flatMap_cons, if_neg heq, List.singleton_append]

end Replace

/-! ### Escapes -/

section Unescape

variable {quote : Char}

/-- The two replacements that escape. -/
theorem replace_replace_eq_escapeChars (h : quote ≠ '\\') (text : Text) :
    replace [quote] ['\\', quote] (replace ['\\'] ['\\', '\\'] text) =
      escapeChars ['\\', quote] text := by
  rw [replace_singleton, replace_singleton]
  exact flatMap_flatMap_escape h text

theorem escapeChars_cons (special : List Char) (c : Char) (text : Text) :
    escapeChars special (c :: text) =
      (if c ∈ special then ['\\', c] else [c]) ++ escapeChars special text := rfl

/-- An escaped text does not begin with a quote. -/
theorem head?_escapeChars (h : quote ≠ '\\') (text : Text) :
    (escapeChars ['\\', quote] text).head? ≠ some quote := by
  cases text with
  | nil => exact nofun
  | cons c text =>
      rw [escapeChars_cons]
      split
      · rw [List.cons_append, List.head?_cons, ne_eq, Option.some.injEq]
        exact Ne.symm h
      · next hplain =>
          simp only [List.mem_cons, List.not_mem_nil, or_false, not_or] at hplain
          rw [List.singleton_append, List.head?_cons, ne_eq, Option.some.injEq]
          exact hplain.2

/-- The first replacement takes the backslashes before the quotes. -/
theorem replace_quote_escapeChars (h : quote ≠ '\\') (text : Text) :
    replace ['\\', quote] [quote] (escapeChars ['\\', quote] text) = escapeChars ['\\'] text := by
  induction text with
  | nil => rfl
  | cons c text ih =>
      rw [escapeChars_cons, escapeChars_cons]
      by_cases hbackslash : c = '\\'
      · subst hbackslash
        -- neither half of an escaped backslash has a quote after it
        have hfirst : ¬ ['\\', quote] <+: '\\' :: '\\' :: escapeChars ['\\', quote] text := by
          simp [h]
        have hsecond : ¬ ['\\', quote] <+: '\\' :: escapeChars ['\\', quote] text := by
          intro hfront
          rw [List.cons_prefix_cons] at hfront
          obtain ⟨back, hback⟩ := hfront.2
          refine head?_escapeChars h text ?_
          rw [← hback]
          rfl
        rw [if_pos (by simp), if_pos (by simp), List.cons_append, List.singleton_append,
          replace_cons hfirst, replace_cons hsecond, ih]
        rfl
      · by_cases hquote : c = quote
        · subst hquote
          rw [if_pos (by simp), if_neg (by simp [h]), replace_append, ih]
        · rw [if_neg (by simp [hbackslash, hquote]), if_neg (by simp [hbackslash]),
            List.singleton_append, replace_cons_of_ne hbackslash, ih]
          rfl

/-- The second replacement takes one of each two backslashes. -/
theorem replace_backslashes_escapeChars (text : Text) :
    replace ['\\', '\\'] ['\\'] (escapeChars ['\\'] text) = text := by
  induction text with
  | nil => rfl
  | cons c text ih =>
      rw [escapeChars_cons]
      by_cases hbackslash : c = '\\'
      · subst hbackslash
        rw [if_pos (by simp), replace_append, ih]
        rfl
      · rw [if_neg (by simp [hbackslash]), List.singleton_append, replace_cons_of_ne hbackslash, ih]

end Unescape

end PxManager.Core
