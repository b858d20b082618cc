import PxManager.Core.Except
import PxManager.Core.Regex
import PxManager.Login.Retpath

/-!
# PxManager.Admin.Markdown

`render_message_markdown`, which makes HTML of the message that an administrator has written. It
splits the message at its links. What is between the links, and the texts of the links, is escaped,
and then two regular expressions put the tags of bold and italic parts in.
-/

namespace PxManager.Admin

open PxManager.Core
open PxManager.Login (urlsplit)

/-! ### `html.escape` -/

/-- A character in `html.escape`. -/
def escapeHtmlChar (c : Char) : Text :=
  if c = '&' then ['&', 'a', 'm', 'p', ';']
  else if c = '<' then ['&', 'l', 't', ';']
  else if c = '>' then ['&', 'g', 't', ';']
  else if c = '"' then ['&', 'q', 'u', 'o', 't', ';']
  else if c = '\'' then ['&', '#', 'x', '2', '7', ';']
  else [c]

/-- `html.escape(s)`. -/
def escapeHtml (s : Text) : Text := s.flatMap escapeHtmlChar

/-- `html.unescape(s)`, of the references that `html.escape` makes. -/
def unescapeHtml : Text → Text
  | '&' :: 'a' :: 'm' :: 'p' :: ';' :: s => '&' :: unescapeHtml s
  | '&' :: 'l' :: 't' :: ';' :: s => '<' :: unescapeHtml s
  | '&' :: 'g' :: 't' :: ';' :: s => '>' :: unescapeHtml s
  | '&' :: 'q' :: 'u' :: 'o' :: 't' :: ';' :: s => '"' :: unescapeHtml s
  | '&' :: '#' :: 'x' :: '2' :: '7' :: ';' :: s => '\'' :: unescapeHtml s
  | c :: s => c :: unescapeHtml s
  | [] => []

/-! ### The regular expressions -/

/-- The groups of `LINK_RE`. -/
structure Link where
  text : Text
  url : Text

/-- What a link is written as. -/
def Link.source (link : Link) : Text :=
  '[' :: link.text ++ ']' :: '(' :: link.url ++ [')']

/-- `\[([^\]\n]+)\]\(([^)\s]+)\)`. The two groups take all they can, since what must follow them is
not in them. -/
def matchLink : Text → Option (Link × Text)
  | '[' :: s =>
      let inText := fun c => decide (c ≠ ']' ∧ c ≠ '\n')
      match s.dropWhile inText with
      | ']' :: '(' :: s' =>
          let inUrl := fun c => decide (c ≠ ')' ∧ isSpace c = false)
          let link := ⟨s.takeWhile inText, s'.takeWhile inUrl⟩
          if link.text ≠ [] ∧ link.url ≠ [] ∧ (s'.dropWhile inUrl).head? = some ')' then
            some (link, link.source)
          else none
      | _ => none
  | _ => none

theorem eq_of_matchLink {s source : Text} {link : Link} (h : matchLink s = some (link, source)) :
    source = link.source ∧ source <+: s := by
  unfold matchLink at h
  split at h
  · next s =>
      dsimp only at h
      split at h
      · next s' hs' =>
          split at h
          · next hmatch =>
              cases h
              obtain ⟨rest, hrest⟩ := List.head?_eq_some_iff.mp hmatch.2.2
              refine ⟨rfl, rest, ?_⟩
              have htext := List.takeWhile_append_dropWhile (l := s)
                (p := fun c => decide (c ≠ ']' ∧ c ≠ '\n'))
              have hurl := List.takeWhile_append_dropWhile (l := s')
                (p := fun c => decide (c ≠ ')' ∧ isSpace c = false))
              rw [hrest] at hurl
              rw [hs', ← hurl] at htext
              simp only [Link.source, List.cons_append, List.append_assoc, List.nil_append]
              rw [htext]
          · cases h
      · cases h
  · cases h

/-- `LINK_RE`. -/
def linkRe : Regex Link where
  match? _ s := matchLink s
  prefix_of_match h := (eq_of_matchLink h).2
  ne_nil_of_match h := by
    rw [(eq_of_matchLink h).1]
    exact List.cons_ne_nil _ _

/-- What is after the group of `BOLD_RE`. -/
def boldStop (_ : Option Char) : Text → Bool
  | '*' :: '*' :: _ => true
  | _ => false

/-- `\*\*(.+?)\*\*`. -/
def matchBold : Text → Option (Text × Text)
  | '*' :: '*' :: s =>
      (lazyDots boldStop [] s).map fun group => (group, '*' :: '*' :: group ++ ['*', '*'])
  | _ => none

theorem eq_of_matchBold {s source group : Text} (h : matchBold s = some (group, source)) :
    source = '*' :: '*' :: group ++ ['*', '*'] ∧ source <+: s := by
  unfold matchBold at h
  split at h
  · obtain ⟨_, hgroup, heq⟩ := Option.map_eq_some_iff.mp h
    cases heq
    obtain ⟨more, rest, hmore, rfl, -, hstop, -⟩ := of_lazyDots hgroup
    rw [List.nil_append] at hmore
    subst hmore
    unfold boldStop at hstop
    split at hstop
    · next rest => exact ⟨rfl, rest, by simp⟩
    · cases hstop
  · cases h

/-- `BOLD_RE`. -/
def boldRe : Regex Text where
  match? _ s := matchBold s
  prefix_of_match h := (eq_of_matchBold h).2
  ne_nil_of_match h := by
    rw [(eq_of_matchBold h).1]
    exact List.cons_ne_nil _ _

/-- `(?<!\*)\*(?!\*)`. -/
def isSingle (prev : Option Char) : Text → Bool
  | '*' :: s => prev ≠ some '*' && s.head? ≠ some '*'
  | _ => false

/-- `(?<!\*)\*(?!\*)(.+?)(?<!\*)\*(?!\*)`. -/
def matchItalic (prev : Option Char) (s : Text) : Option (Text × Text) :=
  if isSingle prev s then
    (lazyDots isSingle [] s.tail).map fun group => (group, '*' :: group ++ ['*'])
  else none

theorem eq_of_matchItalic {prev : Option Char} {s source group : Text}
    (h : matchItalic prev s = some (group, source)) :
    source = '*' :: group ++ ['*'] ∧ source <+: s := by
  unfold matchItalic at h
  split at h
  · next hsingle =>
      obtain ⟨_, hgroup, heq⟩ := Option.map_eq_some_iff.mp h
      cases heq
      unfold isSingle at hsingle
      split at hsingle
      · next s =>
          obtain ⟨more, rest, hmore, hs, -, hstop, -⟩ := of_lazyDots hgroup
          rw [List.nil_append] at hmore
          subst hmore
          rw [List.tail_cons] at hs
          subst hs
          unfold isSingle at hstop
          split at hstop
          · next rest => exact ⟨rfl, rest, by simp⟩
          · cases hstop
      · cases hsingle
  · cases h

/-- `ITALIC_RE`. -/
def italicRe : Regex Text where
  match? := matchItalic
  prefix_of_match h := (eq_of_matchItalic h).2
  ne_nil_of_match h := by
    rw [(eq_of_matchItalic h).1]
    exact List.cons_ne_nil _ _

/-! ### Rendering -/

/-- `render_inline_markdown`. -/
def renderInlineMarkdown (text : Text) : Text :=
  let escapedText := escapeHtml text
  let escapedText :=
    boldRe.sub (fun group => "<strong>".toList ++ group ++ "</strong>".toList) escapedText
  italicRe.sub (fun group => "<em>".toList ++ group ++ "</em>".toList) escapedText

/-- The schemes of the links that are rendered as links. -/
def linkSchemes : List Text := ["http".toList, "https".toList, "mailto".toList]

/-- A part of a message: a link, or what is between two links. -/
inductive Segment
  | plain (text : Text)
  | link (link : Link)

/-- The parts of a message, given a search for the links and what it has read of a plain part. -/
def segmentsFrom (plain : Text) : List (Char ⊕ Link × Text) → List Segment
  | [] => [.plain plain]
  | .inl c :: found => segmentsFrom (plain ++ [c]) found
  | .inr (link, _) :: found => .plain plain :: .link link :: segmentsFrom [] found

/-- The parts of a message. -/
def segments (message : Text) : List Segment := segmentsFrom [] (linkRe.scan message)

section Render

variable (checkNetloc : Text → Bool)

/-- `render_link`. `none` is the `ValueError` of `urlparse`. -/
def renderLink (link : Link) : Option Text :=
  (urlsplit checkNetloc link.url).map fun parsed =>
    if parsed.1 ∉ linkSchemes then renderInlineMarkdown link.source
    else
      "<a href=\"".toList ++ escapeHtml link.url ++
        "\" target=\"_blank\" rel=\"noopener noreferrer\">".toList ++
        renderInlineMarkdown link.text ++ "</a>".toList

/-- A part of the HTML. -/
def renderSegment : Segment → Option Text
  | .plain text => some (renderInlineMarkdown text)
  | .link link => renderLink checkNetloc link

/-- `render_message_markdown`. -/
def renderMessageMarkdown (message : Text) : Option Text :=
  ((segments message).mapM (renderSegment checkNetloc)).map List.flatten

end Render

/-- What a part is written as. -/
def Segment.source : Segment → Text
  | .plain text => text
  | .link l => l.source

/-- The parts make the message up. -/
theorem flatMap_segments (message : Text) :
    (segments message).flatMap Segment.source = message := by
  have hfrom : ∀ (prev : Option Char) (s plain : Text),
      (segmentsFrom plain (linkRe.scanFrom prev 0 s)).flatMap Segment.source = plain ++ s := by
    intro prev s
    induction prev, s using linkRe.scan_induction with
    | nil prev =>
        intro plain
        rfl
    | plain prev c s hnone ih =>
        intro plain
        rw [Regex.scanFrom_of_none hnone, segmentsFrom, ih, List.append_assoc,
          List.singleton_append]
    | found prev link source rest hmatch ih =>
        intro plain
        rw [Regex.scanFrom_of_match hmatch, segmentsFrom, List.flatMap_cons, List.flatMap_cons, ih,
          (eq_of_matchLink hmatch).1]
        rfl
  exact hfrom none message []

end PxManager.Admin
