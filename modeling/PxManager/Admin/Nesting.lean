import PxManager.Admin.Injection

/-!
# PxManager.Admin.Nesting

When the tags that `render_message_markdown` writes are well nested.

The tags of bold parts are, and those of a link are around a part that is rendered on its own. The
italic parts are put in later, without regard to the bold ones. So everything is well nested exactly
if no italic part begins inside a bold part and ends outside of it, or the other way round.
-/

namespace PxManager.Admin

open PxManager.Core
open PxManager.Login (urlsplit)

/-! ### Nesting -/

/-- What is between `<` and `>` in a text, which is read from inside a tag or from outside. -/
def rawTags (inside : Option Text) : Text → List Text
  | [] => []
  | c :: s =>
      match inside with
      | none => rawTags (if c = '<' then some [] else none) s
      | some tag => if c = '>' then tag :: rawTags none s else rawTags (some (tag ++ [c])) s

/-- The elements that are open after a tag. A closing tag has to close the last one. -/
def openAfter (opened : List Text) : Text → Option (List Text)
  | '/' :: name =>
      match opened with
      | [] => none
      | last :: opened => if last = name then some opened else none
  | tag => some (tag.takeWhile (· ≠ ' ') :: opened)

/-- The elements that are open after tags. -/
def nest (opened : List Text) : List Text → Option (List Text)
  | [] => some opened
  | tag :: tags => (openAfter opened tag).bind fun opened => nest opened tags

/-- Every closing tag closes the element that was opened last, and nothing stays open. -/
def WellNested (html : Text) : Prop := nest [] (rawTags none html) = some []

/-! ### Italic pairs -/

/-- Where the asterisks are that stand alone, by the number of bold tags before them, and where the
line breaks are. An odd number is inside a bold part. -/
def marks (region : Nat) (afterStar : Bool) : List Sym → List (Option Nat)
  | [] => []
  | .tag _ :: s => marks (region + 1) false s
  | .char c :: s =>
      if isAlone afterStar (.char c :: s) then some region :: marks region true s
      else if c = '\n' then none :: marks region false s
      else marks region (c = '*') s

/-- Two asterisks on a line are the ends of an italic part. -/
def italicPairs : List (Option Nat) → List (Nat × Nat)
  | some first :: some last :: rest => (first, last) :: italicPairs rest
  | _ :: rest => italicPairs rest
  | [] => []

/-- Both ends are in one bold part, or between the same two, or both are in none. -/
def Uncrossed (pair : Nat × Nat) : Prop :=
  pair.1 = pair.2 ∨ (pair.1 % 2 = 0 ∧ pair.2 % 2 = 0)

instance (pair : Nat × Nat) : Decidable (Uncrossed pair) :=
  inferInstanceAs (Decidable (_ ∨ _))

/-- No italic part of a text crosses an end of a bold one. -/
def NoCrossing (text : Text) : Prop :=
  ∀ pair ∈ italicPairs (marks 0 false (boldSyms (escapeHtml text))), Uncrossed pair

instance (text : Text) : Decidable (NoCrossing text) :=
  inferInstanceAs (Decidable (∀ pair ∈ _, Uncrossed pair))

/-! ### Nesting of symbols -/

/-- `nest`, on symbols. -/
def nestSyms (opened : List Text) : List Sym → Option (List Text)
  | [] => some opened
  | .char _ :: s => nestSyms opened s
  | .tag t :: s => (openAfter opened t.content).bind fun opened => nestSyms opened s

theorem nestSyms_append (opened : List Text) (s s' : List Sym) :
    nestSyms opened (s ++ s') = (nestSyms opened s).bind fun opened => nestSyms opened s' := by
  induction s generalizing opened with
  | nil => rfl
  | cons sym s ih =>
      cases sym with
      | char c => exact ih opened
      | tag t =>
          show (openAfter opened t.content).bind _ = ((openAfter opened t.content).bind _).bind _
          rw [Option.bind_assoc]
          exact congrArg _ (funext fun opened => ih opened)

theorem rawTags_append_of_notMem {w : Text} (tag s : Text) (h : '>' ∉ w) :
    rawTags (some tag) (w ++ '>' :: s) = (tag ++ w) :: rawTags none s := by
  induction w generalizing tag with
  | nil => simp [rawTags]
  | cons c w ih =>
      rw [List.mem_cons, not_or] at h
      show (if c = '>' then _ else rawTags (some (tag ++ [c])) (w ++ '>' :: s)) = _
      rw [if_neg (Ne.symm h.1), ih _ h.2, List.append_assoc, List.singleton_append]

/-- The tags of safe symbols are those in their text. -/
theorem nest_rawTags {checkNetloc : Text → Bool} {syms : List Sym}
    (h : ∀ sym ∈ syms, sym.Safe checkNetloc) (opened : List Text) :
    nest opened (rawTags none (syms.flatMap Sym.html)) = nestSyms opened syms := by
  induction syms generalizing opened with
  | nil => rfl
  | cons sym syms ih =>
      obtain ⟨hsym, hsyms⟩ := List.forall_mem_cons.mp h
      cases sym with
      | char c =>
          have hc : c ≠ '<' := fun heq => by simp [Sym.Safe, isMarkup, heq] at hsym
          show nest opened (rawTags (if c = '<' then some [] else none) (syms.flatMap Sym.html)) = _
          rw [if_neg hc]
          exact ih hsyms opened
      | tag t =>
          have hcontent : '>' ∉ t.content := by
            cases t with
            | a href =>
                intro hmem
                have hparts : '>' ∈ hrefStart ++ href ++ hrefEnd := hmem
                rw [List.mem_append, List.mem_append] at hparts
                rcases hparts with (hstart | hhref) | hend
                · exact absurd hstart (by decide)
                · exact absurd (hsym.1 '>' hhref) (by decide)
                · exact absurd hend (by decide +kernel)
            | _ => decide
          have hhtml : (.tag t :: syms).flatMap Sym.html =
              '<' :: (t.content ++ '>' :: syms.flatMap Sym.html) := by
            rw [List.flatMap_cons, Sym.html, Tag.html, List.append_assoc]
            rfl
          rw [hhtml]
          show nest opened (rawTags (some []) (t.content ++ '>' :: syms.flatMap Sym.html)) = _
          rw [rawTags_append_of_notMem [] _ hcontent, List.nil_append]
          show (openAfter opened t.content).bind _ = (openAfter opened t.content).bind _
          exact congrArg _ (funext fun opened => ih hsyms opened)

/-! ### Bold parts -/

/-- The tags of bold parts open and close them in turn, and the last one is closed. -/
def Alternates (bold : Bool) : List Sym → Prop
  | [] => bold = false
  | .char _ :: s => Alternates bold s
  | .tag .strong :: s => bold = false ∧ Alternates true s
  | .tag .strongEnd :: s => bold = true ∧ Alternates false s
  | .tag _ :: _ => False

theorem alternates_chars_append (bold : Bool) (w : Text) (s : List Sym) :
    Alternates bold (chars w ++ s) ↔ Alternates bold s := by
  induction w with
  | nil => rfl
  | cons c w ih => exact ih

theorem alternates_boldSyms (s : Text) : Alternates false (boldSyms s) := by
  rw [boldSyms]
  induction boldRe.scan s with
  | nil => rfl
  | cons found rest ih =>
      cases found with
      | inl c => exact ih
      | inr m =>
          rw [List.flatMap_cons, boldSym, List.append_assoc]
          exact ⟨rfl, (alternates_chars_append true m.1 _).mpr ⟨rfl, ih⟩⟩

/-! ### Pairs -/

/-- `closes` looks for the next asterisk of the line. -/
theorem marks_of_closes {region : Nat} {afterStar : Bool} {s : List Sym}
    (h : closes afterStar s = true) :
    ∃ last rest, marks region afterStar s = some last :: rest ∧ region ≤ last := by
  induction s generalizing region afterStar with
  | nil => cases h
  | cons sym s ih =>
      cases sym with
      | tag t =>
          obtain ⟨last, rest, hmarks, hle⟩ := @ih (region + 1) false h
          exact ⟨last, rest, hmarks, Nat.le_of_succ_le hle⟩
      | char c =>
          rw [closes] at h
          rw [marks]
          split at h
          · next halone => exact ⟨region, _, if_pos halone, Nat.le_refl region⟩
          · next halone =>
              rw [if_neg halone]
              split at h
              · cases h
              · next hline =>
                  rw [if_neg hline]
                  exact ih h

theorem marks_of_not_closes {region : Nat} {afterStar : Bool} {s : List Sym}
    (h : closes afterStar s = false) (last : Nat) (rest : List (Option Nat)) :
    marks region afterStar s ≠ some last :: rest := by
  induction s generalizing region afterStar with
  | nil => simp [marks]
  | cons sym s ih =>
      cases sym with
      | tag t => exact ih h
      | char c =>
          rw [closes] at h
          rw [marks]
          split at h
          · cases h
          · next halone =>
              rw [if_neg halone]
              split at h
              · next hline =>
                  rw [if_pos hline]
                  intro heq
                  cases (List.cons.inj heq).1
              · next hline =>
                  rw [if_neg hline]
                  exact ih h

/-- All pairs are uncrossed. -/
def uncrossed (marks : List (Option Nat)) : Bool :=
  (italicPairs marks).all fun pair => decide (Uncrossed pair)

theorem uncrossed_some_some (first last : Nat) (rest : List (Option Nat)) :
    uncrossed (some first :: some last :: rest) =
      (decide (Uncrossed (first, last)) && uncrossed rest) := rfl

/-- An asterisk that has no partner makes no pair. -/
theorem uncrossed_of_not_closes {region first : Nat} {afterStar : Bool} {s : List Sym}
    (h : closes afterStar s = false) :
    uncrossed (some first :: marks region afterStar s) = uncrossed (marks region afterStar s) := by
  have hhead : ∀ last rest, marks region afterStar s ≠ some last :: rest := marks_of_not_closes h
  cases hmarks : marks region afterStar s with
  | nil => rfl
  | cons mark rest =>
      cases mark with
      | none => rfl
      | some last => exact absurd hmarks (hhead last rest)

/-- The elements that are open in a region, besides those around it. -/
def inRegion (region : Nat) (around : List Text) : List Text :=
  if region % 2 = 1 then "strong".toList :: around else around

theorem inRegion_even {region : Nat} (h : region % 2 = 0) (around : List Text) :
    inRegion region around = around := if_neg (by omega)

theorem inRegion_odd {region : Nat} (h : region % 2 = 1) (around : List Text) :
    inRegion region around = "strong".toList :: around := if_pos h

/-- What nesting comes to. -/
def outcome (around : List Text) (marks : List (Option Nat)) : Option (List Text) :=
  if uncrossed marks then some around else none

/-- What `emphasize` makes of a rest of a text is well nested exactly if the pairs in it are
uncrossed. An italic part that is open has begun outside of the bold parts, or in the one where the
rest begins. -/
structure Nests (region : Nat) (afterStar : Bool) (s : List Sym) (around : List Text) : Prop where
  outside : nestSyms (inRegion region around) (emphasize false afterStar s) =
    outcome around (marks region afterStar s)
  openedOutside (hcloses : closes afterStar s = true) (first : Nat) (hfirst : first % 2 = 0) :
    nestSyms (inRegion region ("em".toList :: around)) (emphasize true afterStar s) =
      outcome around (some first :: marks region afterStar s)
  openedInBold (hcloses : closes afterStar s = true) (hregion : region % 2 = 1) :
    nestSyms ("em".toList :: inRegion region around) (emphasize true afterStar s) =
      outcome around (some region :: marks region afterStar s)

section Steps

variable {region : Nat} {afterStar : Bool} {s : List Sym} {around : List Text}

theorem Nests.nil (h : region % 2 = 0) : Nests region afterStar [] around where
  outside := by
    rw [inRegion_even h]
    rfl
  openedOutside hcloses := nomatch hcloses
  openedInBold hcloses := nomatch hcloses

theorem Nests.strong (h : Nests (region + 1) false s around) (hregion : region % 2 = 0) :
    Nests region afterStar (.tag .strong :: s) around where
  outside := by
    have hs := h.outside
    rw [inRegion_odd (by omega)] at hs
    rw [inRegion_even hregion]
    exact hs
  openedOutside hcloses first hfirst := by
    have hs := h.openedOutside hcloses first hfirst
    rw [inRegion_odd (by omega)] at hs
    rw [inRegion_even hregion]
    exact hs
  openedInBold hcloses hodd := by omega

/-- An italic part that was opened in a bold part and is closed after it. -/
theorem uncrossed_eq_false (hregion : region % 2 = 1) (hcloses : closes afterStar s = true) :
    uncrossed (some region :: marks (region + 1) afterStar s) = false := by
  obtain ⟨last, rest, hmarks, hle⟩ := @marks_of_closes (region + 1) _ _ hcloses
  have hcrossed : ¬ Uncrossed (region, last) := by
    unfold Uncrossed
    omega
  rw [hmarks, uncrossed_some_some, decide_eq_false hcrossed, Bool.false_and]

theorem Nests.strongEnd (h : Nests (region + 1) false s around) (hregion : region % 2 = 1) :
    Nests region afterStar (.tag .strongEnd :: s) around where
  outside := by
    have hs := h.outside
    rw [inRegion_even (by omega)] at hs
    rw [inRegion_odd hregion]
    exact hs
  openedOutside hcloses first hfirst := by
    have hs := h.openedOutside hcloses first hfirst
    rw [inRegion_even (by omega)] at hs
    rw [inRegion_odd hregion]
    exact hs
  openedInBold hcloses _ := by
    have hcloses' : closes false s = true := hcloses
    have hcrossed : outcome around (some region :: marks (region + 1) false s) = none := by
      rw [outcome, uncrossed_eq_false hregion hcloses']
      rfl
    rw [inRegion_odd hregion]
    exact hcrossed.symm

/-- An asterisk that stands alone is the end of an open italic part, or may open one. -/
theorem Nests.alone {c : Char} (h : Nests region true s around)
    (halone : isAlone afterStar (.char c :: s) = true) :
    Nests region afterStar (.char c :: s) around where
  outside := by
    rw [emphasize, marks, if_pos halone, if_pos halone, if_neg Bool.false_ne_true]
    split
    · next hcloses =>
        by_cases hregion : region % 2 = 1
        · exact h.openedInBold hcloses hregion
        · have heven : region % 2 = 0 := by omega
          have hs := h.openedOutside hcloses region heven
          rw [inRegion_even heven] at hs ⊢
          exact hs
    · next hcloses =>
        have hmarks := @uncrossed_of_not_closes region region _ _ (Bool.eq_false_iff.mpr hcloses)
        rw [outcome, hmarks]
        exact h.outside
  openedOutside _ first hfirst := by
    rw [emphasize, marks, if_pos halone, if_pos halone, if_pos rfl, outcome, uncrossed_some_some]
    by_cases hregion : region % 2 = 1
    · have hcrossed : ¬ Uncrossed (first, region) := by
        unfold Uncrossed
        omega
      rw [inRegion_odd hregion, decide_eq_false hcrossed, Bool.false_and]
      rfl
    · have heven : region % 2 = 0 := by omega
      have hpair : Uncrossed (first, region) := Or.inr ⟨hfirst, heven⟩
      have hs := h.outside
      rw [inRegion_even heven] at hs ⊢
      rw [decide_eq_true hpair, Bool.true_and]
      exact hs
  openedInBold _ hregion := by
    have hpair : Uncrossed (region, region) := Or.inl rfl
    rw [emphasize, marks, if_pos halone, if_pos halone, if_pos rfl, outcome, uncrossed_some_some,
      decide_eq_true hpair, Bool.true_and]
    exact h.outside

/-- Every other character stays, and no pair goes over a line break. -/
theorem Nests.char {c : Char} (h : Nests region (c = '*') s around)
    (halone : ¬ isAlone afterStar (.char c :: s) = true) :
    Nests region afterStar (.char c :: s) around := by
  have hemphasize : ∀ opened, emphasize opened afterStar (.char c :: s) =
      .char c :: emphasize opened (c = '*') s := fun opened => if_neg halone
  by_cases hline : c = '\n'
  · have hcloses : closes afterStar (.char c :: s) ≠ true := by
      rw [closes, if_neg halone, if_pos hline]
      exact Bool.false_ne_true
    have hmarks : marks region afterStar (.char c :: s) = none :: marks region (c = '*') s := by
      rw [marks, if_neg halone, if_pos hline, hline]
      rfl
    refine ⟨?_, fun h => absurd h hcloses, fun h => absurd h hcloses⟩
    rw [hemphasize, hmarks]
    exact h.outside
  · have hcloses : closes afterStar (.char c :: s) = closes (c = '*') s :=
      (if_neg halone).trans (if_neg hline)
    have hmarks : marks region afterStar (.char c :: s) = marks region (c = '*') s :=
      (if_neg halone).trans (if_neg hline)
    constructor
    · rw [hemphasize, hmarks]
      exact h.outside
    · rw [hcloses, hemphasize, hmarks]
      exact h.openedOutside
    · rw [hcloses, hemphasize, hmarks]
      exact h.openedInBold

end Steps

/-- What `emphasize` makes of symbols is well nested exactly if the pairs are uncrossed. -/
theorem nests {region : Nat} {s : List Sym} (h : Alternates (decide (region % 2 = 1)) s)
    (afterStar : Bool) (around : List Text) : Nests region afterStar s around := by
  induction s generalizing region afterStar with
  | nil =>
      have hregion := of_decide_eq_false h
      exact Nests.nil (by omega)
  | cons sym s ih =>
      cases sym with
      | char c =>
          by_cases halone : isAlone afterStar (.char c :: s) = true
          · exact (ih h true).alone halone
          · exact (ih h (c = '*')).char halone
      | tag t =>
          cases t with
          | strong =>
              have hregion := of_decide_eq_false h.1
              have hnext : decide ((region + 1) % 2 = 1) = true := decide_eq_true (by omega)
              have hs : Alternates (decide ((region + 1) % 2 = 1)) s := by
                rw [hnext]
                exact h.2
              exact (ih hs false).strong (by omega)
          | strongEnd =>
              have hregion := of_decide_eq_true h.1
              have hnext : decide ((region + 1) % 2 = 1) = false := decide_eq_false (by omega)
              have hs : Alternates (decide ((region + 1) % 2 = 1)) s := by
                rw [hnext]
                exact h.2
              exact (ih hs false).strongEnd hregion
          | _ => exact h.elim

/-! ### Messages -/

theorem nestSyms_inlineSyms (around : List Text) (text : Text) :
    nestSyms around (inlineSyms text) = if NoCrossing text then some around else none := by
  have hbold : Alternates (decide (0 % 2 = 1)) (boldSyms (escapeHtml text)) :=
    alternates_boldSyms _
  have hnests : Nests 0 false (boldSyms (escapeHtml text)) around := nests hbold false around
  have hoff : nestSyms around (inlineSyms text) =
      outcome around (marks 0 false (boldSyms (escapeHtml text))) := hnests.outside
  have huncrossed : uncrossed (marks 0 false (boldSyms (escapeHtml text))) = true ↔
      NoCrossing text := by
    simp only [uncrossed, List.all_eq_true, decide_eq_true_eq, NoCrossing]
  rw [hoff, outcome]
  simp only [huncrossed]

section Messages

variable {checkNetloc : Text → Bool}

/-- The tags of a link are around its text. -/
theorem nestSyms_link (around : List Text) (href text : Text) :
    nestSyms around (.tag (.a href) :: inlineSyms text ++ [.tag .aEnd]) =
      if NoCrossing text then some around else none := by
  have hopen : openAfter around (Tag.a href).content = some ("a".toList :: around) := rfl
  have hclose : nestSyms ("a".toList :: around) [.tag .aEnd] = some around := rfl
  show (openAfter around (Tag.a href).content).bind
    (fun opened => nestSyms opened (inlineSyms text ++ [.tag .aEnd])) = _
  rw [hopen, Option.bind_some, nestSyms_append, nestSyms_inlineSyms]
  split
  · exact hclose
  · rfl

theorem nestSyms_segmentSyms {segment : Segment} {syms : List Sym}
    (h : segmentSyms checkNetloc segment = some syms) (around : List Text) :
    nestSyms around syms =
      if NoCrossing (segment.kept checkNetloc) then some around else none := by
  cases segment with
  | plain text =>
      cases h
      exact nestSyms_inlineSyms around text
  | link l =>
      obtain ⟨parsed, hparsed, hsyms⟩ := Option.map_eq_some_iff.mp h
      subst hsyms
      simp only [Segment.kept, hparsed]
      split
      · exact nestSyms_inlineSyms around l.source
      · exact nestSyms_link around (escapeHtml l.url) l.text

theorem nestSyms_mapM_segmentSyms {parts : List Segment} {syms : List (List Sym)}
    (h : parts.mapM (segmentSyms checkNetloc) = some syms) :
    nestSyms [] syms.flatten = some [] ↔
      ∀ segment ∈ parts, NoCrossing (segment.kept checkNetloc) := by
  induction parts generalizing syms with
  | nil =>
      cases h
      exact iff_of_true rfl (fun _ hmem => (List.not_mem_nil hmem).elim)
  | cons segment parts ih =>
      obtain ⟨first, rest, hfirst, hrest, rfl⟩ := mapM_cons_eq_some h
      rw [List.flatten_cons, nestSyms_append, nestSyms_segmentSyms hfirst, List.forall_mem_cons,
        ← ih hrest]
      split
      · next hsegment => exact (and_iff_right hsegment).symm
      · next hsegment => exact iff_of_false (fun heq => nomatch heq) (fun h => hsegment h.1)

end Messages

/-- A message is rendered, and well nested, exactly if `urlparse` raises for none of its links, and
no italic part crosses an end of a bold one. -/
theorem wellNested_iff (checkNetloc : Text → Bool) (message : Text) :
    (∃ html, renderMessageMarkdown checkNetloc message = some html ∧ WellNested html) ↔
      (∀ link, .link link ∈ segments message → (urlsplit checkNetloc link.url).isSome = true) ∧
        ∀ segment ∈ segments message, NoCrossing (segment.kept checkNetloc) := by
  rw [← isSome_mapM_segmentSyms_iff, renderMessageMarkdown_eq]
  cases hsyms : (segments message).mapM (segmentSyms checkNetloc) with
  | none => simp
  | some syms =>
      obtain ⟨hsafe, -⟩ := mapM_segmentSyms_spec hsyms
      have hnested : WellNested (syms.flatten.flatMap Sym.html) ↔
          ∀ segment ∈ segments message, NoCrossing (segment.kept checkNetloc) := by
        rw [WellNested, nest_rawTags hsafe, nestSyms_mapM_segmentSyms hsyms]
      simp [hnested]

/-- Three asterisks at each end: the bold part takes two of those at the end, the italic one the
last. -/
theorem not_wellNested_tripleStar :
    ¬ ∀ message html, renderMessageMarkdown bracketsMatch message = some html →
      WellNested html := by
  intro hall
  have hhtml : renderMessageMarkdown bracketsMatch "***a***".toList =
      some "<strong><em>a</strong></em>".toList := by
    decide +kernel
  have hnested := hall _ _ hhtml
  revert hnested
  unfold WellNested
  decide +kernel

end PxManager.Admin
