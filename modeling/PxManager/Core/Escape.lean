import PxManager.Core.Text

/-!
# PxManager.Core.Escape

**Backslash escapes.** A text is written with a backslash before each backslash and each separator,
and read by splitting at the separators that have none.

Two replacements, of the backslash first and of the separator then, are one pass over the text.
-/

namespace PxManager.Core

/-- A backslash before each of the characters. -/
def escapeChars (special : List Char) (text : Text) : Text :=
  text.flatMap fun c => if c ∈ special then ['\\', c] else [c]

/-- The fields of a text: it is split at separators, and a backslash takes the next character as it
is. `field` is what has been read of the first field. -/
def splitUnescaped (separator : Char) (field : Text) (escaped : Bool) : Text → List Text
  | [] => [field]
  | c :: text =>
      if escaped then splitUnescaped separator (field ++ [c]) false text
      else if c = '\\' then splitUnescaped separator field true text
      else if c = separator then field :: splitUnescaped separator [] false text
      else splitUnescaped separator (field ++ [c]) false text

/-- Replacing the backslash and then another character. -/
theorem flatMap_flatMap_escape {separator : Char} (h : separator ≠ '\\') (text : Text) :
    (text.flatMap fun c => if c = '\\' then ['\\', '\\'] else [c]).flatMap
      (fun c => if c = separator then ['\\', separator] else [c]) =
        escapeChars ['\\', separator] text := by
  rw [escapeChars, List.flatMap_assoc]
  congr 1
  funext c
  by_cases hbackslash : c = '\\'
  · rw [hbackslash]
    simp [Ne.symm h]
  · rw [if_neg hbackslash, List.flatMap_singleton]
    by_cases hseparator : c = separator
    · simp [hseparator]
    · simp [hbackslash, hseparator]

section Split

variable {separator : Char}

theorem splitUnescaped_append_plain {text : Text} (hseparator : separator ∉ text)
    (hbackslash : '\\' ∉ text) (field rest : Text) :
    splitUnescaped separator field false (text ++ rest) =
      splitUnescaped separator (field ++ text) false rest := by
  induction text generalizing field with
  | nil => simp
  | cons c text ih =>
      rw [List.mem_cons, not_or] at hseparator hbackslash
      rw [List.cons_append, splitUnescaped, if_neg Bool.false_ne_true,
        if_neg (Ne.symm hbackslash.1), if_neg (Ne.symm hseparator.1),
        ih hseparator.2 hbackslash.2, List.append_assoc, List.singleton_append]

theorem splitUnescaped_separator (h : separator ≠ '\\') (field text : Text) :
    splitUnescaped separator field false (separator :: text) =
      field :: splitUnescaped separator [] false text := by
  rw [splitUnescaped, if_neg Bool.false_ne_true, if_neg h, if_pos rfl]

/-- An escaped text is read as the text. -/
theorem splitUnescaped_append_escape (text field rest : Text) :
    splitUnescaped separator field false (escapeChars ['\\', separator] text ++ rest) =
      splitUnescaped separator (field ++ text) false rest := by
  induction text generalizing field with
  | nil => simp [escapeChars]
  | cons c text ih =>
      have hcons : escapeChars ['\\', separator] (c :: text) =
          (if c ∈ ['\\', separator] then ['\\', c] else [c]) ++
            escapeChars ['\\', separator] text := rfl
      have hchar : ∀ rest, splitUnescaped separator field false
          ((if c ∈ ['\\', separator] then ['\\', c] else [c]) ++ rest) =
            splitUnescaped separator (field ++ [c]) false rest := by
        intro rest
        split
        · rfl
        · next hplain =>
            simp only [List.mem_cons, List.not_mem_nil, or_false, not_or] at hplain
            exact splitUnescaped_append_plain (by simpa using Ne.symm hplain.2)
              (by simpa using Ne.symm hplain.1) field rest
      rw [hcons, List.append_assoc, hchar, ih, List.append_assoc, List.singleton_append]

end Split

end PxManager.Core
