import PxManager.Admin.Markup

/-!
# PxManager.Admin.Injection

What `render_message_markdown` writes is safe to put into a page, and shows what was written.

Everything is escaped before the tags are put in, and the substitutions only replace asterisks. So
the characters outside the tags are the escaped message without some of its asterisks.

There is HTML for every message whose links `urlparse` can split. For others, such as one to
`http://[`, it raises `ValueError`, which nobody handles.
-/

namespace PxManager.Admin

open PxManager.Core
open PxManager.Login (urlsplit)

/-! ### What is promised -/

/-- The characters that `html.escape` leaves no trace of. -/
def isMarkup (c : Char) : Bool := c ∈ ['<', '>', '"', '\'']

section Statement

variable (checkNetloc : Text → Bool)

/-- A character that is no markup, one of the fixed tags, or the tag of a link to a URL of an
accepted scheme. -/
def Sym.Safe : Sym → Prop
  | .char c => isMarkup c = false
  | .tag (.a href) =>
      (∀ c ∈ href, isMarkup c = false) ∧
        ∃ parsed, urlsplit checkNetloc (unescapeHtml href) = some parsed ∧ parsed.1 ∈ linkSchemes
  | .tag _ => True

/-- What is kept of a part: of a link that is accepted, its text. -/
def Segment.kept : Segment → Text
  | .plain text => text
  | .link l =>
      match urlsplit checkNetloc l.url with
      | some parsed => if parsed.1 ∉ linkSchemes then l.source else l.text
      | none => l.source

/-- A text without some of its asterisks. -/
inductive DropsStars : Text → Text → Prop
  | nil : DropsStars [] []
  | keep {s t : Text} (c : Char) (h : DropsStars s t) : DropsStars (c :: s) (c :: t)
  | drop {s t : Text} (h : DropsStars s t) : DropsStars ('*' :: s) t

/-- The HTML is made of safe symbols, and its characters are those that are kept of the message,
without some asterisks. -/
def InjectionSafe (message html : Text) : Prop :=
  ∃ syms : List Sym, html = syms.flatMap Sym.html ∧ (∀ sym ∈ syms, sym.Safe checkNetloc) ∧
    DropsStars ((segments message).flatMap (Segment.kept checkNetloc))
      (unescapeHtml (syms.flatMap Sym.text))

end Statement

/-! ### Escaping -/

theorem unescapeHtml_cons {c : Char} (h : c ≠ '&') (s : Text) :
    unescapeHtml (c :: s) = c :: unescapeHtml s := by
  rw [unescapeHtml]
  all_goals
    intro s' heq
    exact absurd heq h

/-- What `html.escape` writes for a character. -/
theorem escapeHtmlChar_spec (c : Char) :
    (∀ d ∈ escapeHtmlChar c, isMarkup d = false) ∧
      (∀ s, unescapeHtml (escapeHtmlChar c ++ s) = c :: unescapeHtml s) ∧
      (c ≠ '*' → '*' ∉ escapeHtmlChar c) := by
  by_cases hspecial : c ∈ ['&', '<', '>', '"', '\'']
  · simp only [List.mem_cons, List.not_mem_nil, or_false] at hspecial
    rcases hspecial with rfl | rfl | rfl | rfl | rfl
    all_goals exact ⟨by decide, fun _ => rfl, fun _ => by decide⟩
  · simp only [List.mem_cons, List.not_mem_nil, or_false, not_or] at hspecial
    obtain ⟨hamp, hlt, hgt, hquot, hapos⟩ := hspecial
    have hself : escapeHtmlChar c = [c] := by
      simp [escapeHtmlChar, hamp, hlt, hgt, hquot, hapos]
    rw [hself]
    refine ⟨?_, fun s => unescapeHtml_cons hamp s, fun hstar => by simp [Ne.symm hstar]⟩
    intro d hd
    rw [List.mem_singleton.mp hd]
    simp [isMarkup, hlt, hgt, hquot, hapos]

theorem isMarkup_of_mem_escapeHtml {s : Text} {c : Char} (h : c ∈ escapeHtml s) :
    isMarkup c = false := by
  obtain ⟨d, -, hc⟩ := List.mem_flatMap.mp h
  exact (escapeHtmlChar_spec d).1 c hc

theorem unescapeHtml_escapeHtml (s : Text) : unescapeHtml (escapeHtml s) = s := by
  induction s with
  | nil => rfl
  | cons c s ih => exact ((escapeHtmlChar_spec c).2.1 _).trans (congrArg (c :: ·) ih)

/-! ### Asterisks -/

namespace DropsStars

variable {s t s' t' : Text}

theorem refl : (s : Text) → DropsStars s s
  | [] => .nil
  | c :: s => .keep c (refl s)

theorem append (h : DropsStars s t) (h' : DropsStars s' t') : DropsStars (s ++ s') (t ++ t') := by
  induction h with
  | nil => exact h'
  | keep c _ ih => exact .keep c ih
  | drop _ ih => exact .drop ih

theorem trans {u : Text} (h : DropsStars s t) (h' : DropsStars t u) : DropsStars s u := by
  induction h generalizing u with
  | nil => exact h'
  | keep c _ ih =>
      cases h' with
      | keep _ h' => exact .keep c (ih h')
      | drop h' => exact .drop (ih h')
  | drop _ ih => exact .drop (ih h')

theorem mem (h : DropsStars s t) {c : Char} (hc : c ∈ t) : c ∈ s := by
  induction h with
  | nil => exact hc
  | keep d _ ih =>
      rcases List.mem_cons.mp hc with rfl | hc
      · exact List.mem_cons_self
      · exact List.mem_cons_of_mem _ (ih hc)
  | drop _ ih => exact List.mem_cons_of_mem _ (ih hc)

/-- A part without asterisks is kept. -/
theorem of_append {w : Text} (hplain : '*' ∉ w) (h : DropsStars (w ++ s) t) :
    ∃ t', t = w ++ t' ∧ DropsStars s t' := by
  induction w generalizing t with
  | nil => exact ⟨t, rfl, h⟩
  | cons c w ih =>
      rw [List.mem_cons, not_or] at hplain
      generalize hs : c :: w ++ s = u at h
      cases h with
      | nil => cases hs
      | keep d h =>
          obtain ⟨rfl, rfl⟩ := List.cons.inj hs
          obtain ⟨t', rfl, ht'⟩ := ih hplain.2 h
          exact ⟨t', rfl, ht'⟩
      | drop h => exact absurd (List.cons.inj hs).1.symm hplain.1

/-- What is dropped of an escaped text is dropped of the text. -/
theorem of_escapeHtml (h : DropsStars (escapeHtml s) t) :
    ∃ shown, t = escapeHtml shown ∧ DropsStars s shown := by
  induction s generalizing t with
  | nil =>
      cases h
      exact ⟨[], rfl, .nil⟩
  | cons c s ih =>
      by_cases hc : c = '*'
      · subst hc
        generalize hs : escapeHtml ('*' :: s) = u at h
        have hs' : '*' :: escapeHtml s = u := hs
        cases h with
        | nil => cases hs'
        | keep d h =>
            obtain ⟨rfl, rfl⟩ := List.cons.inj hs'
            obtain ⟨shown, rfl, hshown⟩ := ih h
            exact ⟨'*' :: shown, rfl, .keep '*' hshown⟩
        | drop h =>
            obtain ⟨-, rfl⟩ := List.cons.inj hs'
            obtain ⟨shown, rfl, hshown⟩ := ih h
            exact ⟨shown, rfl, .drop hshown⟩
      · obtain ⟨t', rfl, ht'⟩ := of_append ((escapeHtmlChar_spec c).2.2 hc) h
        obtain ⟨shown, rfl, hshown⟩ := ih ht'
        exact ⟨c :: shown, rfl, .keep c hshown⟩

end DropsStars

/-! ### Inline parts -/

/-- The bold substitution drops the asterisks around its groups. -/
theorem dropsStars_boldSyms (s : Text) : DropsStars s ((boldSyms s).flatMap Sym.text) := by
  have hchars : ∀ s : Text, (chars s).flatMap Sym.text = s := by
    intro s
    induction s with
    | nil => rfl
    | cons c s ih => exact congrArg (c :: ·) ih
  have hfrom : ∀ (prev : Option Char) (s : Text),
      DropsStars s (((boldRe.scanFrom prev 0 s).flatMap boldSym).flatMap Sym.text) := by
    intro prev s
    induction prev, s using boldRe.scan_induction with
    | nil prev => exact .nil
    | plain prev c s hnone ih =>
        rw [Regex.scanFrom_of_none hnone]
        exact .keep c ih
    | found prev group source rest hmatch ih =>
        rw [Regex.scanFrom_of_match hmatch]
        obtain ⟨rfl, -⟩ := eq_of_matchBold hmatch
        rw [List.flatMap_cons, List.flatMap_append]
        refine DropsStars.append ?_ ih
        simp only [boldSym, List.flatMap_append, List.flatMap_cons, List.flatMap_nil, hchars]
        exact .drop (.drop ((DropsStars.refl group).append (.drop (.drop .nil))))
  exact hfrom none s

/-- The italic substitution drops the asterisks that it makes tags of. -/
theorem dropsStars_emphasize (opened afterStar : Bool) (s : List Sym) :
    DropsStars (s.flatMap Sym.text) ((emphasize opened afterStar s).flatMap Sym.text) := by
  induction s generalizing opened afterStar with
  | nil => exact .nil
  | cons sym s ih =>
      cases sym with
      | tag t => exact ih opened false
      | char c =>
          rw [emphasize]
          split
          · next halone =>
              have hc : c = '*' := by
                simp only [isAlone, Bool.and_eq_true, decide_eq_true_eq] at halone
                exact halone.1.1
              subst hc
              split
              · exact .drop (ih false true)
              · split
                · exact .drop (ih true true)
                · exact .keep '*' (ih false true)
          · exact .keep c (ih opened _)

/-- Only the tags of italic parts are added. -/
theorem mem_emphasize {opened afterStar : Bool} {s : List Sym} {t : Tag}
    (h : .tag t ∈ emphasize opened afterStar s) : .tag t ∈ s ∨ t = .em ∨ t = .emEnd := by
  induction s generalizing opened afterStar with
  | nil => cases h
  | cons sym s ih =>
      have hrest : ∀ {opened afterStar : Bool}, .tag t ∈ emphasize opened afterStar s →
          .tag t ∈ sym :: s ∨ t = .em ∨ t = .emEnd :=
        fun h => (ih h).imp_left (List.mem_cons_of_mem _)
      cases sym with
      | tag t' =>
          rcases List.mem_cons.mp h with heq | h
          · exact Or.inl (heq ▸ List.mem_cons_self)
          · exact hrest h
      | char c =>
          rw [emphasize] at h
          split at h
          · split at h
            · rcases List.mem_cons.mp h with heq | h
              · exact Or.inr (Or.inr (Sym.tag.inj heq))
              · exact hrest h
            · split at h
              · rcases List.mem_cons.mp h with heq | h
                · exact Or.inr (Or.inl (Sym.tag.inj heq))
                · exact hrest h
              · exact hrest ((List.mem_cons.mp h).resolve_left Sym.noConfusion)
          · exact hrest ((List.mem_cons.mp h).resolve_left Sym.noConfusion)

/-- An inline part is escaped, and shows what was written, without some asterisks. -/
theorem inlineSyms_spec (checkNetloc : Text → Bool) (text : Text) :
    (∀ sym ∈ inlineSyms text, sym.Safe checkNetloc) ∧
      ∃ shown, (inlineSyms text).flatMap Sym.text = escapeHtml shown ∧ DropsStars text shown := by
  have hdrops : DropsStars (escapeHtml text) ((inlineSyms text).flatMap Sym.text) :=
    (dropsStars_boldSyms _).trans (dropsStars_emphasize false false _)
  refine ⟨?_, hdrops.of_escapeHtml⟩
  intro sym hsym
  cases sym with
  | char c =>
      have hmem : c ∈ (inlineSyms text).flatMap Sym.text :=
        List.mem_flatMap.mpr ⟨_, hsym, List.mem_singleton_self c⟩
      exact isMarkup_of_mem_escapeHtml (hdrops.mem hmem)
  | tag t =>
      rcases mem_emphasize hsym with hbold | rfl | rfl
      · rcases boldOnly_boldSyms _ t hbold with rfl | rfl <;> trivial
      · trivial
      · trivial

/-! ### Messages -/

section Messages

variable {checkNetloc : Text → Bool}

theorem segmentSyms_spec {segment : Segment} {syms : List Sym}
    (h : segmentSyms checkNetloc segment = some syms) :
    (∀ sym ∈ syms, sym.Safe checkNetloc) ∧
      ∃ shown, syms.flatMap Sym.text = escapeHtml shown ∧
        DropsStars (segment.kept checkNetloc) shown := by
  cases segment with
  | plain text =>
      cases h
      exact inlineSyms_spec checkNetloc text
  | link l =>
      obtain ⟨parsed, hparsed, hsyms⟩ := Option.map_eq_some_iff.mp h
      subst hsyms
      simp only [Segment.kept, hparsed]
      split
      · exact inlineSyms_spec checkNetloc l.source
      · next hscheme =>
          obtain ⟨hsafe, shown, hshown, hdrops⟩ := inlineSyms_spec checkNetloc l.text
          refine ⟨?_, shown, ?_, hdrops⟩
          · intro sym hsym
            rw [List.mem_append, List.mem_cons, List.mem_singleton] at hsym
            rcases hsym with (rfl | hsym) | rfl
            · refine ⟨fun c hc => isMarkup_of_mem_escapeHtml hc, parsed, ?_, not_not.mp hscheme⟩
              rw [unescapeHtml_escapeHtml, hparsed]
            · exact hsafe sym hsym
            · trivial
          · rw [List.flatMap_append, List.flatMap_cons, hshown]
            exact List.append_nil _

theorem escapeHtml_append (s t : Text) : escapeHtml (s ++ t) = escapeHtml s ++ escapeHtml t :=
  List.flatMap_append

theorem mapM_segmentSyms_spec {parts : List Segment} {syms : List (List Sym)}
    (h : parts.mapM (segmentSyms checkNetloc) = some syms) :
    (∀ sym ∈ syms.flatten, sym.Safe checkNetloc) ∧
      ∃ shown, syms.flatten.flatMap Sym.text = escapeHtml shown ∧
        DropsStars (parts.flatMap (Segment.kept checkNetloc)) shown := by
  induction parts generalizing syms with
  | nil =>
      cases h
      exact ⟨fun _ hsym => (List.not_mem_nil hsym).elim, [], rfl, .nil⟩
  | cons segment parts ih =>
      obtain ⟨first, rest, hfirst, hrest, rfl⟩ := mapM_cons_eq_some h
      obtain ⟨hsafe, shown, hshown, hdrops⟩ := segmentSyms_spec hfirst
      obtain ⟨hsafe', shown', hshown', hdrops'⟩ := ih hrest
      refine ⟨?_, shown ++ shown', ?_, hdrops.append hdrops'⟩
      · intro sym hsym
        rcases List.mem_append.mp hsym with hsym | hsym
        · exact hsafe sym hsym
        · exact hsafe' sym hsym
      · rw [List.flatten_cons, List.flatMap_append, hshown, hshown', escapeHtml_append]

end Messages

/-- A message is rendered, and safely, exactly if `urlparse` raises for none of its links. -/
theorem rendersSafely_iff (checkNetloc : Text → Bool) (message : Text) :
    (∃ html, renderMessageMarkdown checkNetloc message = some html ∧
        InjectionSafe checkNetloc message html) ↔
      ∀ link, .link link ∈ segments message → (urlsplit checkNetloc link.url).isSome = true := by
  rw [← isSome_mapM_segmentSyms_iff, renderMessageMarkdown_eq]
  cases hsyms : (segments message).mapM (segmentSyms checkNetloc) with
  | none => simp
  | some syms =>
      obtain ⟨hsafe, shown, hshown, hdrops⟩ := mapM_segmentSyms_spec hsyms
      rw [← unescapeHtml_escapeHtml shown, ← hshown] at hdrops
      exact ⟨fun _ => rfl, fun _ => ⟨_, rfl, syms.flatten, rfl, hsafe, hdrops⟩⟩

/-- The check of `urlsplit` that both brackets are there or none. -/
def bracketsMatch (netloc : Text) : Bool := decide ('[' ∈ netloc ↔ ']' ∈ netloc)

/-- A link to something that is no address. -/
theorem not_rendersSafely_bracket :
    ¬ ∀ message, ∃ html, renderMessageMarkdown bracketsMatch message = some html ∧
      InjectionSafe bracketsMatch message html := by
  intro hall
  obtain ⟨html, hhtml, -⟩ := hall "[a](http://[)".toList
  have hnone : renderMessageMarkdown bracketsMatch "[a](http://[)".toList = none := by
    decide +kernel
  rw [hnone] at hhtml
  cases hhtml

end PxManager.Admin
