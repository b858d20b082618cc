import PxManager.Core.Lines

/-!
# PxManager.Core.Newlines

The newlines of a text file that is read in text mode, and the lines of a text without the
whitespace around them.

Reading turns `\r\n` and `\r` into `\n`, and `splitlines` breaks at the same places before and
after.
-/

namespace PxManager.Core

/-- What `read_text` makes of the line ends. -/
def translateNewlines : Text → Text
  | [] => []
  | c :: s =>
      -- of `\r\n`, the `\n` is kept
      if c = '\r' ∧ s.head? = some '\n' then translateNewlines s
      else (if c = '\r' then '\n' else c) :: translateNewlines s

theorem splitlinesFrom_translateNewlines (line s : Text) :
    splitlinesFrom line (translateNewlines s) = splitlinesFrom line s := by
  induction s generalizing line with
  | nil => rfl
  | cons c s ih =>
      rw [translateNewlines, splitlinesFrom]
      split
      · exact ih line
      · by_cases hreturn : c = '\r'
        · have hnewline : ¬ ('\n' = '\r' ∧ (translateNewlines s).head? = some '\n') :=
            fun h => absurd h.1 (by decide)
          have hboundary : isLineBoundary c = true := hreturn ▸ rfl
          rw [if_pos hreturn, splitlinesFrom, if_neg hnewline, if_pos (by decide), if_pos hboundary,
            ih]
        · rw [if_neg hreturn, splitlinesFrom, if_neg (fun h => hreturn h.1), ih, ih]

/-- The lines are the same in any style. -/
theorem splitlines_translateNewlines (s : Text) :
    splitlines (translateNewlines s) = splitlines s :=
  splitlinesFrom_translateNewlines [] s

/-- Every character of a text is read as it is, but for `\r`. -/
theorem mem_translateNewlines {s : Text} {c : Char} (h : c ∈ s) :
    c = '\r' ∨ c ∈ translateNewlines s := by
  induction s with
  | nil => cases h
  | cons d s ih =>
      rw [translateNewlines]
      by_cases hreturn : c = '\r'
      · exact .inl hreturn
      · refine .inr ?_
        rcases List.mem_cons.mp h with rfl | h
        · rw [if_neg (fun h => hreturn h.1), if_neg hreturn]
          exact List.mem_cons_self
        · have hmem := (ih h).resolve_left hreturn
          split
          · exact hmem
          · exact List.mem_cons_of_mem _ hmem

theorem mem_of_mem_translateNewlines {s : Text} {c : Char} (h : c ∈ translateNewlines s) :
    c = '\n' ∨ c ∈ s := by
  induction s with
  | nil => cases h
  | cons d s ih =>
      rw [translateNewlines] at h
      split at h
      · exact (ih h).imp_right (List.mem_cons_of_mem d)
      · rcases List.mem_cons.mp h with heq | h
        · split at heq
          · exact .inl heq
          · exact .inr (heq ▸ List.mem_cons_self)
        · exact (ih h).imp_right (List.mem_cons_of_mem d)

theorem translateNewlines_eq_nil_iff {s : Text} : translateNewlines s = [] ↔ s = [] := by
  cases s with
  | nil => simp [translateNewlines]
  | cons c s =>
      induction s generalizing c with
      | nil => simp [translateNewlines]
      | cons d s ih =>
          rw [translateNewlines]
          split
          · simpa using ih d
          · simp

/-! ### Whitespace at the ends -/

theorem strip_eq_self_iff {s : Text} :
    strip s = s ↔ s.head?.any isSpace = false ∧ s.getLast?.any isSpace = false := by
  constructor
  · intro h
    refine ⟨?_, ?_⟩
    · cases s with
      | nil => rfl
      | cons c t => exact isSpace_of_strip_eq_cons h
    · cases s using List.reverseRecOn with
      | nil => rfl
      | append_singleton t c _ =>
          rw [List.getLast?_append_of_ne_nil _ (by simp), List.getLast?_singleton, Option.any_some]
          have hself : (t ++ [c]).rdropWhile isSpace = t ++ [c] := by
            rw [← h]
            exact List.rdropWhile_idempotent isSpace _
          by_contra hspace
          rw [List.rdropWhile_concat_pos _ _ _ (eq_true_of_ne_false hspace)] at hself
          have hle := (List.rdropWhile_prefix isSpace t).length_le
          rw [hself, List.length_append, List.length_singleton] at hle
          exact Nat.not_succ_le_self _ hle
  · intro ⟨hhead, hlast⟩
    have hdrop : s.dropWhile isSpace = s := by
      cases s with
      | nil => rfl
      | cons c t => exact List.dropWhile_cons_of_neg (by simpa using hhead)
    rw [strip, hdrop]
    cases s using List.reverseRecOn with
    | nil => rfl
    | append_singleton t c => exact List.rdropWhile_concat_neg _ _ _ (by simpa using hlast)

theorem mem_of_mem_strip {s : Text} {c : Char} (h : c ∈ strip s) : c ∈ s :=
  (List.dropWhile_sublist isSpace).subset ((List.rdropWhile_prefix isSpace _).subset h)

/-- What is removed are spaces. -/
theorem mem_strip_of_mem {s : Text} {c : Char} (h : c ∈ s) (hc : isSpace c = false) :
    c ∈ strip s := by
  have hdrop : ∀ {s : Text}, c ∈ s → c ∈ s.dropWhile isSpace := by
    intro s hmem
    rw [← List.takeWhile_append_dropWhile (p := isSpace) (l := s), List.mem_append] at hmem
    refine hmem.resolve_left fun hspace => ?_
    rw [List.mem_takeWhile_imp hspace] at hc
    cases hc
  rw [strip, rstrip, List.rdropWhile, List.mem_reverse]
  exact hdrop (List.mem_reverse.mpr (hdrop h))

theorem isSpace_head?_translateNewlines (s : Text) :
    (translateNewlines s).head?.any isSpace = s.head?.any isSpace := by
  induction s with
  | nil => rfl
  | cons c s ih =>
      rw [translateNewlines]
      split
      · next hpair =>
          rw [ih, hpair.2, hpair.1]
          rfl
      · split
        · next hreturn =>
            rw [hreturn]
            rfl
        · rfl

theorem isSpace_getLast?_translateNewlines (s : Text) :
    (translateNewlines s).getLast?.any isSpace = s.getLast?.any isSpace := by
  induction s with
  | nil => rfl
  | cons c s ih =>
      by_cases hnil : s = []
      · subst hnil
        by_cases hreturn : c = '\r'
        · subst hreturn
          rfl
        · simp [translateNewlines, hreturn]
      · have hlast : ∀ (d : Char) {t : Text}, t ≠ [] → (d :: t).getLast? = t.getLast? :=
          fun d _ h => List.getLast?_cons_of_ne_nil h
        rw [hlast c hnil, ← ih, translateNewlines]
        split
        · rfl
        · rw [hlast _ (mt translateNewlines_eq_nil_iff.mp hnil)]

/-- A text has no whitespace at its ends, whatever the newlines. -/
theorem strip_translateNewlines_iff {s : Text} :
    strip (translateNewlines s) = translateNewlines s ↔ strip s = s := by
  rw [strip_eq_self_iff, strip_eq_self_iff, isSpace_head?_translateNewlines,
    isSpace_getLast?_translateNewlines]

/-! ### Trimmed lines -/

/-- The lines that are not blank, without the whitespace around them. -/
def trimmed (lines : List Text) : List Text := (lines.map strip).filter (· ≠ [])

/-- The lines of a text that are not blank, without the whitespace around them. -/
def trimmedLines (s : Text) : List Text := trimmed (splitlines s)

theorem trimmed_cons_of_strip (line : Text) (lines : List Text) :
    trimmed (line :: lines) =
      if strip line = [] then trimmed lines else strip line :: trimmed lines := by
  rw [trimmed, List.map_cons]
  split
  · next h => exact List.filter_cons_of_neg (by simpa using h)
  · next h => exact List.filter_cons_of_pos (by simpa using h)

theorem trimmedLines_translateNewlines (s : Text) :
    trimmedLines (translateNewlines s) = trimmedLines s := by
  rw [trimmedLines, splitlines_translateNewlines, trimmedLines]

end PxManager.Core
