import PxManager.Admin.Markdown

/-!
# PxManager.Admin.Markup

`render_message_markdown` on characters and tags instead of on text.

The second substitution of `render_inline_markdown` runs over the text that the first has made. A
tag has no asterisk and no line break in it, so the italic expression passes over it, and it sees no
asterisk next to another one across it. Along a text, the italic expression makes pairs of the
asterisks that stand alone: each opens a part if there is a next one on its line, which then closes
it. `emphasize` does this in one pass.
-/

namespace PxManager.Admin

open PxManager.Core
open PxManager.Login (urlsplit)

/-! ### Characters and tags -/

inductive Tag
  | strong
  | strongEnd
  | em
  | emEnd
  | a (href : Text)
  | aEnd
  deriving DecidableEq

/-- What comes before the address in the tag of a link. -/
def hrefStart : Text := "a href=\"".toList

/-- What comes after it. -/
def hrefEnd : Text := "\" target=\"_blank\" rel=\"noopener noreferrer\"".toList

/-- What is between `<` and `>`. -/
def Tag.content : Tag → Text
  | .strong => "strong".toList
  | .strongEnd => "/strong".toList
  | .em => "em".toList
  | .emEnd => "/em".toList
  | .a href => hrefStart ++ href ++ hrefEnd
  | .aEnd => "/a".toList

def Tag.html (tag : Tag) : Text := '<' :: tag.content ++ ['>']

inductive Sym
  | char (c : Char)
  | tag (tag : Tag)
  deriving DecidableEq

def Sym.html : Sym → Text
  | .char c => [c]
  | .tag t => t.html

/-- The character that a symbol is, if it is one. -/
def Sym.text : Sym → Text
  | .char c => [c]
  | .tag _ => []

/-- A text, character by character. -/
def chars (s : Text) : List Sym := s.map .char

theorem chars_append (s t : Text) : chars (s ++ t) = chars s ++ chars t := List.map_append

theorem flatMap_html_chars (s : Text) : (chars s).flatMap Sym.html = s := by
  induction s with
  | nil => rfl
  | cons c s ih => exact congrArg (c :: ·) ih

/-! ### Bold parts -/

/-- What a search for bold parts makes of what it has found. -/
def boldSym : Char ⊕ Text × Text → List Sym
  | .inl c => [.char c]
  | .inr (group, _) => .tag .strong :: chars group ++ [.tag .strongEnd]

/-- The first substitution. -/
def boldSyms (s : Text) : List Sym := (boldRe.scan s).flatMap boldSym

theorem flatMap_html_boldSyms (s : Text) :
    (boldSyms s).flatMap Sym.html =
      boldRe.sub (fun group => "<strong>".toList ++ group ++ "</strong>".toList) s := by
  have hsym : ∀ found, (boldSym found).flatMap Sym.html =
      Sum.elim (fun c => [c])
        (fun m : Text × Text => "<strong>".toList ++ m.1 ++ "</strong>".toList) found := by
    intro found
    cases found with
    | inl c => rfl
    | inr m =>
        obtain ⟨group, source⟩ := m
        simp only [boldSym, List.flatMap_append, List.flatMap_cons, flatMap_html_chars,
          List.flatMap_nil, Sum.elim_inr]
        rfl
  rw [boldSyms, List.flatMap_assoc, Regex.sub]
  exact congrArg (fun f => List.flatMap f (boldRe.scan s)) (funext hsym)

/-- Only tags of bold parts are in the symbols. -/
def BoldOnly (s : List Sym) : Prop := ∀ t, Sym.tag t ∈ s → t = .strong ∨ t = .strongEnd

theorem boldOnly_cons {sym : Sym} {s : List Sym} (h : BoldOnly (sym :: s)) : BoldOnly s :=
  fun t ht => h t (List.mem_cons_of_mem _ ht)

theorem boldOnly_boldSyms (s : Text) : BoldOnly (boldSyms s) := by
  intro t ht
  obtain ⟨found, -, hmem⟩ := List.mem_flatMap.mp ht
  cases found with
  | inl c => simp [boldSym] at hmem
  | inr m => simpa [boldSym, chars] using hmem

/-! ### Italic parts -/

/-- An asterisk stands at the start of the symbols, and stands alone. -/
def isAlone (afterStar : Bool) : List Sym → Bool
  | .char c :: s => c = '*' && !afterStar && s.head? ≠ some (.char '*')
  | _ => false

/-- An asterisk that stands alone comes before the end of the line. -/
def closes (afterStar : Bool) : List Sym → Bool
  | [] => false
  | .tag _ :: s => closes false s
  | .char c :: s =>
      if isAlone afterStar (.char c :: s) then true
      else if c = '\n' then false
      else closes (c = '*') s

/-- The second substitution, inside an italic part or outside. -/
def emphasize (opened afterStar : Bool) : List Sym → List Sym
  | [] => []
  | .tag t :: s => .tag t :: emphasize opened false s
  | .char c :: s =>
      if isAlone afterStar (.char c :: s) then
        if opened then .tag .emEnd :: emphasize false true s
        else if closes true s then .tag .em :: emphasize true true s
        else .char c :: emphasize false true s
      else .char c :: emphasize opened (c = '*') s

/-- `render_inline_markdown`, on symbols. -/
def inlineSyms (text : Text) : List Sym := emphasize false false (boldSyms (escapeHtml text))

theorem eq_star_of_isSingle {prev : Option Char} {c : Char} {s : Text}
    (h : isSingle prev (c :: s) = true) : c = '*' := by
  unfold isSingle at h
  split at h
  · next heq => exact (List.cons.inj heq).1
  · cases h

theorem isAlone_chars (prev : Option Char) (s : Text) :
    isAlone (prev = some '*') (chars s) = isSingle prev s := by
  cases s with
  | nil => rfl
  | cons c s =>
      by_cases hc : c = '*'
      · subst hc
        cases s <;> simp [chars, isAlone, isSingle]
      · unfold isSingle
        split
        · next heq => exact absurd (List.cons.inj heq).1 hc
        · simp [chars, isAlone, hc]

/-- What is taken of the group ends in an asterisk. Before the group comes the one that opens it. -/
def endsInStar (taken : Text) : Bool := taken.getLast?.getD '*' = '*'

theorem endsInStar_concat (taken : Text) (c : Char) :
    endsInStar (taken ++ [c]) = decide (c = '*') := by
  simp [endsInStar]

/-- The group ends before an asterisk that stands alone. -/
theorem stop_iff_isAlone (taken s : Text) :
    (taken ≠ [] ∧ isSingle taken.getLast? s = true) ↔
      isAlone (endsInStar taken) (chars s) = true := by
  cases hlast : taken.getLast? with
  | none =>
      have hnil : taken = [] := List.getLast?_eq_none_iff.mp hlast
      cases s <;> simp [endsInStar, hnil, chars, isAlone]
  | some d =>
      have hne : taken ≠ [] := fun hnil => by simp [hnil] at hlast
      rw [← isAlone_chars]
      simp [endsInStar, hlast, hne]

theorem closes_of_lazyDots_eq_none {taken s : Text} (h : lazyDots isSingle taken s = none) :
    closes (endsInStar taken) (chars s) = false := by
  induction s generalizing taken with
  | nil => rfl
  | cons c s ih =>
      rw [lazyDots] at h
      split at h
      · cases h
      · next hstop =>
          have halone := mt (stop_iff_isAlone taken (c :: s)).mpr hstop
          refine (if_neg halone).trans ?_
          split at h
          · next hline => exact if_pos hline
          · next hline =>
              have hrest := ih h
              rw [endsInStar_concat] at hrest
              exact (if_neg hline).trans hrest

/-- What the group of the italic expression takes, `emphasize` goes through. -/
theorem emphasize_of_lazyDots {taken s group : Text}
    (h : lazyDots isSingle taken s = some group) :
    ∃ more rest, group = taken ++ more ∧ s = more ++ '*' :: rest ∧
      closes (endsInStar taken) (chars s) = true ∧
      emphasize true (endsInStar taken) (chars s) =
        chars more ++ .tag .emEnd :: emphasize false true (chars rest) := by
  induction s generalizing taken with
  | nil => simp [lazyDots, isSingle] at h
  | cons c s ih =>
      rw [lazyDots] at h
      split at h
      · next hstop =>
          cases h
          have halone := (stop_iff_isAlone group (c :: s)).mp hstop
          have hc : c = '*' := by
            simp only [chars, List.map_cons, isAlone, Bool.and_eq_true, decide_eq_true_eq] at halone
            exact halone.1.1
          refine ⟨[], s, (List.append_nil _).symm, by rw [hc]; rfl, ?_, ?_⟩
          · exact if_pos halone
          · exact if_pos halone
      · next hstop =>
          have halone := mt (stop_iff_isAlone taken (c :: s)).mpr hstop
          split at h
          · cases h
          · next hline =>
              obtain ⟨more, rest, rfl, rfl, hcloses, hemphasize⟩ := ih h
              rw [endsInStar_concat] at hcloses hemphasize
              refine ⟨c :: more, rest, by simp, rfl, ?_, ?_⟩
              · exact (if_neg halone).trans ((if_neg hline).trans hcloses)
              · exact (if_neg halone).trans (congrArg (Sym.char c :: ·) hemphasize)

theorem emphasize_of_matchItalic_eq_none {prev : Option Char} {c : Char} {s : Text}
    (h : matchItalic prev (c :: s) = none) :
    emphasize false (prev = some '*') (chars (c :: s)) =
      .char c :: emphasize false (c = '*') (chars s) := by
  by_cases hsingle : isSingle prev (c :: s) = true
  · rw [matchItalic, if_pos hsingle, Option.map_eq_none_iff] at h
    have hcloses : ¬ closes true (chars s) = true :=
      Bool.eq_false_iff.mp (closes_of_lazyDots_eq_none h)
    obtain rfl : c = '*' := eq_star_of_isSingle hsingle
    rw [← isAlone_chars] at hsingle
    exact (if_pos hsingle).trans ((if_neg Bool.false_ne_true).trans (if_neg hcloses))
  · rw [← isAlone_chars] at hsingle
    exact if_neg hsingle

theorem emphasize_of_matchItalic {prev : Option Char} {group rest : Text}
    (h : matchItalic prev ('*' :: group ++ ['*'] ++ rest) = some (group, '*' :: group ++ ['*'])) :
    emphasize false (prev = some '*') (chars ('*' :: group ++ ['*'] ++ rest)) =
      .tag .em :: (chars group ++ .tag .emEnd :: emphasize false true (chars rest)) := by
  have hsingle : isSingle prev ('*' :: group ++ ['*'] ++ rest) = true := by
    by_contra hsingle
    rw [matchItalic, if_neg hsingle] at h
    cases h
  rw [matchItalic, if_pos hsingle, Option.map_eq_some_iff] at h
  obtain ⟨group', hdots, hgroup⟩ := h
  obtain rfl : group' = group := congrArg Prod.fst hgroup
  obtain ⟨more, rest', hmore, hrest, hcloses, hemphasize⟩ := emphasize_of_lazyDots hdots
  rw [List.nil_append] at hmore
  subst hmore
  obtain rfl : rest = rest' := by simpa using hrest
  rw [← isAlone_chars] at hsingle
  have htail : ('*' :: group' ++ ['*'] ++ rest).tail = group' ++ ['*'] ++ rest := rfl
  rw [htail] at hcloses hemphasize
  exact (if_pos hsingle).trans ((if_neg Bool.false_ne_true).trans
    ((if_pos hcloses).trans (congrArg (Sym.tag .em :: ·) hemphasize)))

/-- The second substitution, of a text. -/
theorem sub_italicRe_eq (prev : Option Char) (s : Text) :
    (italicRe.scanFrom prev 0 s).flatMap (Sum.elim (fun c => [c])
        fun m => "<em>".toList ++ m.1 ++ "</em>".toList) =
      (emphasize false (prev = some '*') (chars s)).flatMap Sym.html := by
  induction prev, s using italicRe.scan_induction with
  | nil prev => rfl
  | plain prev c s hnone ih =>
      rw [Regex.scanFrom_of_none hnone, List.flatMap_cons, ih,
        emphasize_of_matchItalic_eq_none hnone, List.flatMap_cons]
      simp only [Option.some.injEq]
      rfl
  | found prev group source rest hmatch ih =>
      rw [Regex.scanFrom_of_match hmatch, List.flatMap_cons, ih]
      obtain ⟨rfl, -⟩ := eq_of_matchItalic hmatch
      have hlast : decide (('*' :: group ++ ['*']).getLast? = some '*') = true := by
        rw [List.getLast?_concat]
        rfl
      rw [emphasize_of_matchItalic hmatch, hlast]
      simp only [Sum.elim_inr, List.flatMap_cons, List.flatMap_append, flatMap_html_chars,
        List.append_assoc]
      rfl

/-! ### Tags in the text -/

theorem isAlone_of_ne {afterStar : Bool} {c : Char} {s : List Sym} (h : c ≠ '*') :
    ¬ isAlone afterStar (.char c :: s) = true := by
  simp [isAlone, h]

/-- A text without asterisks is passed over. -/
theorem emphasize_chars_append {w : Text} (hplain : ∀ c ∈ w, c ≠ '*') (opened afterStar : Bool)
    (s : List Sym) :
    emphasize opened afterStar (chars w ++ s) =
      chars w ++ emphasize opened (afterStar && w.isEmpty) s := by
  induction w generalizing afterStar with
  | nil => simp [chars]
  | cons c w ih =>
      obtain ⟨hc, hw⟩ := List.forall_mem_cons.mp hplain
      have htail := ih hw (decide (c = '*'))
      rw [decide_eq_false hc, Bool.false_and] at htail
      refine (if_neg (isAlone_of_ne hc)).trans ?_
      rw [decide_eq_false hc, List.isEmpty_cons, Bool.and_false]
      exact congrArg (Sym.char c :: ·) htail

theorem closes_chars_append {w : Text} (hplain : ∀ c ∈ w, c ≠ '*' ∧ c ≠ '\n') (afterStar : Bool)
    (s : List Sym) :
    closes afterStar (chars w ++ s) = closes (afterStar && w.isEmpty) s := by
  induction w generalizing afterStar with
  | nil => simp [chars]
  | cons c w ih =>
      obtain ⟨⟨hc, hline⟩, hw⟩ := List.forall_mem_cons.mp hplain
      have htail := ih hw (decide (c = '*'))
      rw [decide_eq_false hc, Bool.false_and] at htail
      refine (if_neg (isAlone_of_ne hc)).trans ((if_neg hline).trans ?_)
      rw [decide_eq_false hc, List.isEmpty_cons, Bool.and_false]
      exact htail

/-- No tag of a bold part has an asterisk or a line break in it. -/
theorem plain_of_boldOnly {t : Tag} {s : List Sym} (h : BoldOnly (.tag t :: s)) :
    ∀ c ∈ t.html, c ≠ '*' ∧ c ≠ '\n' := by
  rcases h t List.mem_cons_self with rfl | rfl <;> decide

/-- Symbols and their text begin with an asterisk alike. -/
theorem isAlone_chars_html (afterStar : Bool) (c : Char) (s : List Sym) :
    isAlone afterStar (.char c :: chars (s.flatMap Sym.html)) =
      isAlone afterStar (.char c :: s) := by
  have hhead : (chars (s.flatMap Sym.html)).head? = some (.char '*') ↔
      s.head? = some (.char '*') := by
    cases s with
    | nil => rfl
    | cons sym s =>
        cases sym with
        | char d => rfl
        | tag t => simp [chars, Sym.html, Tag.html]
  simp only [isAlone, ne_eq, hhead]

theorem closes_chars_html {s : List Sym} (h : BoldOnly s) (afterStar : Bool) :
    closes afterStar (chars (s.flatMap Sym.html)) = closes afterStar s := by
  induction s generalizing afterStar with
  | nil => rfl
  | cons sym s ih =>
      cases sym with
      | char c =>
          show closes afterStar (.char c :: chars (s.flatMap Sym.html)) = _
          rw [closes, closes, isAlone_chars_html, ih (boldOnly_cons h)]
      | tag t =>
          show closes afterStar (chars (t.html ++ s.flatMap Sym.html)) = closes false s
          rw [chars_append, closes_chars_append (plain_of_boldOnly h), Tag.html, List.cons_append,
            List.isEmpty_cons, Bool.and_false, ih (boldOnly_cons h)]

/-- The second substitution does the same on the text of the symbols. -/
theorem emphasize_chars_html {s : List Sym} (h : BoldOnly s) (opened afterStar : Bool) :
    (emphasize opened afterStar (chars (s.flatMap Sym.html))).flatMap Sym.html =
      (emphasize opened afterStar s).flatMap Sym.html := by
  induction s generalizing opened afterStar with
  | nil => rfl
  | cons sym s ih =>
      have hs := ih (boldOnly_cons h)
      cases sym with
      | char c =>
          show (emphasize opened afterStar (.char c :: chars (s.flatMap Sym.html))).flatMap _ = _
          rw [emphasize, emphasize, isAlone_chars_html, closes_chars_html (boldOnly_cons h)]
          split
          · split
            · rw [List.flatMap_cons, List.flatMap_cons, hs]
            · split
              · rw [List.flatMap_cons, List.flatMap_cons, hs]
              · rw [List.flatMap_cons, List.flatMap_cons, hs]
          · rw [List.flatMap_cons, List.flatMap_cons, hs]
      | tag t =>
          have hplain : ∀ c ∈ t.html, c ≠ '*' := fun c hc => (plain_of_boldOnly h c hc).1
          show (emphasize opened afterStar (chars (t.html ++ s.flatMap Sym.html))).flatMap _ = _
          rw [chars_append, emphasize_chars_append hplain, List.flatMap_append, flatMap_html_chars,
            emphasize, List.flatMap_cons, Tag.html, List.cons_append, List.isEmpty_cons,
            Bool.and_false, hs]
          rfl

/-- `render_inline_markdown` writes the symbols. -/
theorem renderInlineMarkdown_eq (text : Text) :
    renderInlineMarkdown text = (inlineSyms text).flatMap Sym.html := by
  rw [renderInlineMarkdown, inlineSyms, ← emphasize_chars_html (boldOnly_boldSyms _),
    flatMap_html_boldSyms]
  exact sub_italicRe_eq none _

/-! ### Messages -/

section Messages

variable (checkNetloc : Text → Bool)

/-- `render_link`, on symbols. -/
def linkSyms (link : Link) : Option (List Sym) :=
  (urlsplit checkNetloc link.url).map fun parsed =>
    if parsed.1 ∉ linkSchemes then inlineSyms link.source
    else .tag (.a (escapeHtml link.url)) :: inlineSyms link.text ++ [.tag .aEnd]

/-- A part of the HTML, on symbols. -/
def segmentSyms : Segment → Option (List Sym)
  | .plain text => some (inlineSyms text)
  | .link link => linkSyms checkNetloc link

theorem html_a (href : Text) :
    (Tag.a href).html = "<a href=\"".toList ++ href ++
      "\" target=\"_blank\" rel=\"noopener noreferrer\">".toList := by
  have hopen : "<a href=\"".toList = '<' :: hrefStart := rfl
  have hclose : "\" target=\"_blank\" rel=\"noopener noreferrer\">".toList =
      hrefEnd ++ ['>'] := by
    decide +kernel
  show '<' :: (hrefStart ++ href ++ hrefEnd) ++ ['>'] = _
  rw [hopen, hclose]
  simp only [List.append_assoc, List.cons_append]

theorem renderSegment_eq (segment : Segment) :
    renderSegment checkNetloc segment =
      (segmentSyms checkNetloc segment).map (List.flatMap Sym.html) := by
  cases segment with
  | plain text => exact congrArg some (renderInlineMarkdown_eq text)
  | link link =>
      rw [renderSegment, segmentSyms, renderLink, linkSyms, Option.map_map]
      refine congrArg (fun f => Option.map f _) ?_
      funext parsed
      rw [Function.comp_apply]
      split
      · exact renderInlineMarkdown_eq link.source
      · rw [renderInlineMarkdown_eq, List.flatMap_append, List.flatMap_cons, List.flatMap_cons,
          List.flatMap_nil, List.append_nil, Sym.html, html_a]
        rfl

/-- `render_message_markdown` writes the symbols of its parts. -/
theorem renderMessageMarkdown_eq (message : Text) :
    renderMessageMarkdown checkNetloc message =
      ((segments message).mapM (segmentSyms checkNetloc)).map
        fun parts => parts.flatten.flatMap Sym.html := by
  have hparts : ∀ parts : List Segment, parts.mapM (renderSegment checkNetloc) =
      (parts.mapM (segmentSyms checkNetloc)).map (List.map (List.flatMap Sym.html)) := by
    intro parts
    induction parts with
    | nil => rfl
    | cons segment parts ih =>
        rw [List.mapM_cons, List.mapM_cons, renderSegment_eq, ih]
        cases segmentSyms checkNetloc segment with
        | none => rfl
        | some syms =>
            cases parts.mapM (segmentSyms checkNetloc) with
            | none => rfl
            | some rest => rfl
  rw [renderMessageMarkdown, hparts, Option.map_map]
  refine congrArg (fun f => Option.map f _) ?_
  funext parts
  rw [Function.comp_apply, List.flatMap_def, List.map_flatten, List.flatten_flatten, List.map_map]
  rfl

variable {checkNetloc}

/-- Parts are rendered unless `urlparse` raises for one of their links. -/
theorem isSome_mapM_segmentSyms_iff {parts : List Segment} :
    (parts.mapM (segmentSyms checkNetloc)).isSome = true ↔
      ∀ l, .link l ∈ parts → (urlsplit checkNetloc l.url).isSome = true := by
  induction parts with
  | nil => simp
  | cons segment parts ih =>
      have hfirst : (segmentSyms checkNetloc segment).isSome = true ↔
          ∀ l, .link l = segment → (urlsplit checkNetloc l.url).isSome = true := by
        cases segment with
        | plain text => simp [segmentSyms]
        | link l => simp [segmentSyms, linkSyms]
      have hcons : ((segment :: parts).mapM (segmentSyms checkNetloc)).isSome = true ↔
          (segmentSyms checkNetloc segment).isSome = true ∧
            (parts.mapM (segmentSyms checkNetloc)).isSome = true := by
        rw [List.mapM_cons]
        cases segmentSyms checkNetloc segment <;>
          cases parts.mapM (segmentSyms checkNetloc) <;> simp
      rw [hcons, hfirst, ih]
      simp only [List.mem_cons, or_imp, forall_and]

end Messages

end PxManager.Admin
