import PxManager.Core.Text

/-!
# PxManager.Core.Lines

`str.splitlines`. Besides `\n` it breaks at `\r`, at `\r\n` as one boundary, and at the other
boundaries of Unicode.

A newline ends a line wherever it stands, so the lines after it are those of the text after it.
-/

namespace PxManager.Core

/-- The characters at which `str.splitlines` breaks. -/
def isLineBoundary (c : Char) : Bool :=
  let n := c.toNat
  (0x0a ≤ n ∧ n ≤ 0x0d) || (0x1c ≤ n ∧ n ≤ 0x1e) || n = 0x85 || n = 0x2028 || n = 0x2029

theorem isSpace_of_isLineBoundary {c : Char} (h : isLineBoundary c = true) : isSpace c = true := by
  simp only [isLineBoundary, isSpace, Bool.or_eq_true, decide_eq_true_eq] at h ⊢
  omega

/-- The lines of a text, with `line` the part of the first that has been read. -/
def splitlinesFrom (line : Text) : Text → List Text
  | [] => if line.isEmpty then [] else [line]
  | c :: s =>
      -- `\r\n` is one boundary: the `\n` ends the line
      if c = '\r' ∧ s.head? = some '\n' then splitlinesFrom line s
      else if isLineBoundary c then line :: splitlinesFrom [] s
      else splitlinesFrom (line ++ [c]) s

/-- `str.splitlines()`. -/
def splitlines (s : Text) : List Text := splitlinesFrom [] s

/-- The lines after a newline are those of the text after it. -/
theorem splitlinesFrom_append_newline (line a b : Text) :
    splitlinesFrom line (a ++ '\n' :: b) = splitlinesFrom line (a ++ ['\n']) ++ splitlines b := by
  induction a generalizing line with
  | nil => rfl
  | cons c a ih =>
      have hhead : (a ++ '\n' :: b).head? = (a ++ ['\n']).head? := by cases a <;> rfl
      simp only [List.cons_append, splitlinesFrom, hhead]
      split
      · exact ih line
      · split
        · rw [ih [], List.cons_append]
        · exact ih (line ++ [c])

theorem splitlines_append_newline (a b : Text) :
    splitlines (a ++ '\n' :: b) = splitlines (a ++ ['\n']) ++ splitlines b :=
  splitlinesFrom_append_newline [] a b

/-- Every newline ends a line. -/
theorem count_newline_le_length_splitlinesFrom (line s : Text) :
    s.count '\n' ≤ (splitlinesFrom line s).length := by
  induction s generalizing line with
  | nil => exact Nat.zero_le _
  | cons c s ih =>
      rw [splitlinesFrom]
      split
      · next hreturn =>
          rw [hreturn.1, List.count_cons_of_ne (by decide)]
          exact ih line
      · split
        · have := ih []
          rw [List.count_cons, List.length_cons]
          split <;> omega
        · next hboundary =>
            have hne : c ≠ '\n' := by
              intro heq
              exact hboundary (heq ▸ rfl)
            rw [List.count_cons_of_ne hne]
            exact ih (line ++ [c])

theorem count_newline_le_length_splitlines (s : Text) :
    s.count '\n' ≤ (splitlines s).length :=
  count_newline_le_length_splitlinesFrom [] s

/-! ### Texts of one line -/

/-- A text without boundaries is read to its end as part of the line. -/
theorem splitlinesFrom_append {s : Text} (h : ∀ c ∈ s, isLineBoundary c = false) (line t : Text) :
    splitlinesFrom line (s ++ t) = splitlinesFrom (line ++ s) t := by
  induction s generalizing line with
  | nil => simp
  | cons c s ih =>
      obtain ⟨hc, hs⟩ := List.forall_mem_cons.mp h
      have hreturn : ¬ (c = '\r' ∧ (s ++ t).head? = some '\n') := by
        intro heq
        rw [heq.1] at hc
        exact absurd hc (by decide)
      rw [List.cons_append, splitlinesFrom, if_neg hreturn, if_neg (by simp [hc]), ih hs,
        List.append_assoc, List.singleton_append]

/-- A boundary before the newline makes a second line. A `\r` right before it does not. -/
theorem two_le_length_splitlinesFrom {s : Text} (line : Text)
    (h : ∃ c ∈ s, isLineBoundary c = true) (hlast : s.getLast? ≠ some '\r') :
    2 ≤ (splitlinesFrom line (s ++ ['\n'])).length := by
  induction s generalizing line with
  | nil =>
      obtain ⟨c, hc, -⟩ := h
      cases hc
  | cons c s ih =>
      rw [List.cons_append, splitlinesFrom]
      split
      · next hreturn =>
          cases s with
          | nil => exact absurd (congrArg some hreturn.1) hlast
          | cons d s =>
              obtain rfl : d = '\n' := Option.some.inj hreturn.2
              exact ih line ⟨'\n', List.mem_cons_self, rfl⟩ (by simpa using hlast)
      · split
        · have := count_newline_le_length_splitlinesFrom [] (s ++ ['\n'])
          rw [List.count_append, List.count_singleton_self] at this
          rw [List.length_cons]
          omega
        · next hplain =>
            have hs : ∃ c ∈ s, isLineBoundary c = true := by
              obtain ⟨b, hb, hboundary⟩ := h
              rcases List.mem_cons.mp hb with rfl | hb
              · exact absurd hboundary hplain
              · exact ⟨b, hb, hboundary⟩
            refine ih _ hs ?_
            cases s with
            | nil => simp
            | cons d s => simpa using hlast

/-- A text is one line of a file exactly if it has no boundary. -/
theorem splitlines_eq_singleton_iff {s : Text} (hlast : s.getLast? ≠ some '\r') :
    (∃ line, splitlines (s ++ ['\n']) = [line]) ↔ ∀ c ∈ s, isLineBoundary c = false := by
  constructor
  · intro h c hc
    obtain ⟨line, hline⟩ := h
    by_contra hboundary
    have htwo := two_le_length_splitlinesFrom [] ⟨c, hc, eq_true_of_ne_false hboundary⟩ hlast
    have hone := congrArg List.length hline
    rw [splitlines] at hone
    rw [hone] at htwo
    exact Nat.not_lt_of_le htwo Nat.one_lt_two
  · intro h
    exact ⟨s, splitlinesFrom_append h [] ['\n']⟩

/-! ### Files of lines -/

/-- A text without boundaries. -/
def SingleLine (s : Text) : Prop := ∀ c ∈ s, isLineBoundary c = false

instance (s : Text) : Decidable (SingleLine s) :=
  inferInstanceAs (Decidable (∀ c ∈ s, isLineBoundary c = false))

theorem singleLine_append {s t : Text} : SingleLine (s ++ t) ↔ SingleLine s ∧ SingleLine t :=
  List.forall_mem_append

/-- A text of lines, with a newline after each. -/
def unlines (lines : List Text) : Text := lines.flatMap (· ++ ['\n'])

theorem unlines_cons (line : Text) (lines : List Text) :
    unlines (line :: lines) = line ++ '\n' :: unlines lines := by
  simp [unlines]

theorem splitlines_unlines_cons (line : Text) (lines : List Text) :
    splitlines (unlines (line :: lines)) =
      splitlines (line ++ ['\n']) ++ splitlines (unlines lines) := by
  rw [unlines_cons, splitlines_append_newline]

/-- Single lines are read as they were written. -/
theorem splitlines_unlines {lines : List Text} (h : ∀ line ∈ lines, SingleLine line) :
    splitlines (unlines lines) = lines := by
  induction lines with
  | nil => rfl
  | cons line lines ih =>
      obtain ⟨hline, hlines⟩ := List.forall_mem_cons.mp h
      have hone : splitlines (line ++ ['\n']) = [line] := splitlinesFrom_append hline [] ['\n']
      rw [splitlines_unlines_cons, ih hlines, hone, List.singleton_append]

theorem one_le_length_splitlines_append_newline (line : Text) :
    1 ≤ (splitlines (line ++ ['\n'])).length := by
  have h := count_newline_le_length_splitlines (line ++ ['\n'])
  rw [List.count_append, List.count_singleton_self] at h
  omega

theorem length_le_length_splitlines_unlines (lines : List Text) :
    lines.length ≤ (splitlines (unlines lines)).length := by
  induction lines with
  | nil => exact Nat.zero_le _
  | cons line lines ih =>
      have hone := one_le_length_splitlines_append_newline line
      rw [splitlines_unlines_cons, List.length_append, List.length_cons]
      omega

/-- There are as many lines as were written exactly if each of them is single. -/
theorem length_splitlines_unlines_iff {lines : List Text}
    (h : ∀ line ∈ lines, line.getLast? ≠ some '\r') :
    (splitlines (unlines lines)).length = lines.length ↔ ∀ line ∈ lines, SingleLine line := by
  induction lines with
  | nil => simp [unlines, splitlines, splitlinesFrom]
  | cons line lines ih =>
      obtain ⟨hlast, hlasts⟩ := List.forall_mem_cons.mp h
      have hle := length_le_length_splitlines_unlines lines
      rw [splitlines_unlines_cons, List.length_append, List.length_cons, List.forall_mem_cons,
        ← ih hlasts]
      by_cases hline : SingleLine line
      · have hone : splitlines (line ++ ['\n']) = [line] := splitlinesFrom_append hline [] ['\n']
        rw [hone, List.length_singleton]
        exact ⟨fun heq => ⟨hline, by omega⟩, fun heq => by omega⟩
      · have hboundary : ∃ c ∈ line, isLineBoundary c = true := by
          simpa [SingleLine] using hline
        have htwo := two_le_length_splitlinesFrom [] hboundary hlast
        rw [← splitlines] at htwo
        exact ⟨fun heq => by omega, fun heq => absurd heq.1 hline⟩

end PxManager.Core
