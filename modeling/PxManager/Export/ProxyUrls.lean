import PxManager.Core.Netloc
import PxManager.Core.UrlEncode
import PxManager.Login.Retpath
import PxManager.Telegram.ProxyLinks

/-!
# PxManager.Export.ProxyUrls

URLs of proxies: credentials and parameters are quoted, and the host and the port are written as
they are. What is read of such a URL is what was written into it.
-/

namespace PxManager.Export

open PxManager.Core PxManager.Health PxManager.Login PxManager.Telegram

/-! ### URLs -/

/-- A scheme in lower case. -/
def isScheme (scheme : Text) : Bool :=
  scheme.head?.any (fun c => isAscii c && c.isAlpha) &&
    scheme.all (fun c => isAscii c && (c.isAlphanum || c ∈ ['+', '-', '.'])) &&
      scheme.map Char.toLower = scheme

/-- `scheme://netloc?query`. -/
def urlText (scheme netloc query : Text) : Text :=
  scheme ++ ':' :: '/' :: '/' :: (netloc ++ '?' :: query)

/-- Parts that are not broken where they should not be. -/
structure PlainUrl (scheme netloc query : Text) : Prop where
  scheme : isScheme scheme = true
  netloc : ∀ c ∈ netloc, c ∉ ['/', '?', '#', '\t', '\r', '\n']
  query : ∀ c ∈ query, c ∉ ['#', '\t', '\r', '\n']

section Url

variable {scheme netloc query : Text}

theorem isScheme_iff : isScheme scheme = true ↔
    scheme.head?.any (fun c => isAscii c && c.isAlpha) = true ∧
      scheme.all (fun c => isAscii c && (c.isAlphanum || c ∈ ['+', '-', '.'])) = true ∧
        scheme.map Char.toLower = scheme := by
  rw [isScheme, Bool.and_eq_true, Bool.and_eq_true, decide_eq_true_eq, and_assoc]

/-- The characters of a scheme. -/
theorem not_mem_scheme (h : isScheme scheme = true) {c : Char}
    (hc : (isAscii c && (c.isAlphanum || c ∈ ['+', '-', '.'])) = false) : c ∉ scheme := by
  intro hmem
  have hall := List.all_eq_true.mp (isScheme_iff.mp h).2.1 c hmem
  rw [hc] at hall
  cases hall

theorem splitScheme_append (h : isScheme scheme = true) (rest : Text) :
    splitScheme (scheme ++ ':' :: rest) = (scheme, rest) := by
  obtain ⟨hhead, hall, hlower⟩ := isScheme_iff.mp h
  have hcolon : ∀ c ∈ scheme, decide (c ≠ ':') = true := by
    intro c hc
    refine decide_eq_true ?_
    rintro rfl
    exact not_mem_scheme h (by decide) hc
  have htake : (scheme ++ ':' :: rest).takeWhile (· ≠ ':') = scheme := by
    rw [List.takeWhile_append_of_pos hcolon, List.takeWhile_cons_of_neg (by decide),
      List.append_nil]
  have hdrop : (scheme ++ ':' :: rest).drop (scheme.length + 1) = rest := by
    rw [List.drop_append, List.drop_of_length_le (Nat.le_succ _)]
    simp
  have hmem : ':' ∈ scheme ++ ':' :: rest := by simp
  rw [splitScheme]
  simp only [htake, hlower, hdrop]
  rw [if_pos ⟨hmem, hhead, hall⟩]

/-- Nothing is taken from the front or out of the text. -/
theorem filter_dropWhile_urlText (h : PlainUrl scheme netloc query) :
    ((urlText scheme netloc query).dropWhile fun c => c.toNat ≤ 0x20).filter
      (fun c => c ∉ ['\t', '\r', '\n']) = urlText scheme netloc query := by
  have hscheme : ∀ c ∈ ['\t', '\r', '\n'], c ∉ scheme := by
    intro c hc
    refine not_mem_scheme h.scheme ?_
    revert c
    decide
  have hdrop : (urlText scheme netloc query).dropWhile (fun c => c.toNat ≤ 0x20) =
      urlText scheme netloc query := by
    have hhead := (isScheme_iff.mp h.scheme).1
    cases hscheme : scheme with
    | nil =>
        rw [hscheme] at hhead
        cases hhead
    | cons c rest =>
        rw [hscheme, List.head?_cons, Option.any_some, Bool.and_eq_true] at hhead
        refine List.dropWhile_cons_of_neg ?_
        rw [decide_eq_true_eq, Nat.not_le]
        have hall : ∀ c, isAscii c = true → c.isAlpha = true → 0x20 < c.toNat := by
          intro c
          apply forall_of_isAscii
          decide +kernel
        exact hall c hhead.1 hhead.2
  rw [hdrop, List.filter_eq_self]
  intro c hc
  refine decide_eq_true ?_
  intro hbreak
  rcases List.mem_append.mp hc with hc | hc
  · exact hscheme c hbreak hc
  · simp only [List.mem_cons, List.mem_append] at hc
    rcases hc with rfl | rfl | rfl | hc | rfl | hc
    · exact absurd hbreak (by decide)
    · exact absurd hbreak (by decide)
    · exact absurd hbreak (by decide)
    · exact h.netloc c hc (by simp only [List.mem_cons] at hbreak ⊢; tauto)
    · exact absurd hbreak (by decide)
    · exact h.query c hc (by simp only [List.mem_cons] at hbreak ⊢; tauto)

theorem netloc_all (h : PlainUrl scheme netloc query) :
    ∀ c ∈ netloc, decide (c ∉ ['/', '?', '#']) = true := by
  intro c hc
  refine decide_eq_true ?_
  intro hmem
  refine h.netloc c hc ?_
  simp only [List.mem_cons] at hmem ⊢
  tauto

theorem urlsplit_urlText {checkNetloc : Text → Bool} (h : PlainUrl scheme netloc query)
    (hcheck : checkNetloc netloc = true) :
    urlsplit checkNetloc (urlText scheme netloc query) = some (scheme, netloc) := by
  have hnetloc : (netloc ++ '?' :: query).takeWhile (· ∉ ['/', '?', '#']) = netloc := by
    rw [List.takeWhile_append_of_pos (netloc_all h), List.takeWhile_cons_of_neg (by decide),
      List.append_nil]
  have hslashes : ['/', '/'] <+: '/' :: '/' :: (netloc ++ '?' :: query) := by simp
  unfold urlsplit
  dsimp only
  rw [filter_dropWhile_urlText h, urlText, splitScheme_append h.scheme]
  simp only [if_pos hslashes, List.drop_succ_cons, List.drop_zero, hnetloc, hcheck, Bool.not_true,
    Bool.false_eq_true, and_false, if_false]

theorem urlQuery_urlText (h : PlainUrl scheme netloc query) :
    urlQuery (urlText scheme netloc query) = query := by
  have hnetloc : (netloc ++ '?' :: query).dropWhile (· ∉ ['/', '?', '#']) = '?' :: query := by
    rw [List.dropWhile_append_of_pos (netloc_all h), List.dropWhile_cons_of_neg (by decide)]
  have hslashes : ['/', '/'] <+: '/' :: '/' :: (netloc ++ '?' :: query) := by simp
  have hquery : ('?' :: query).takeWhile (· ≠ '#') = '?' :: query := by
    rw [List.takeWhile_eq_self_iff]
    intro c hc
    refine decide_eq_true ?_
    rintro rfl
    rcases List.mem_cons.mp hc with heq | hc
    · exact absurd heq (by decide)
    · exact h.query _ hc (by decide)
  unfold urlQuery
  dsimp only
  rw [filter_dropWhile_urlText h, urlText, splitScheme_append h.scheme]
  simp only [if_pos hslashes, List.drop_succ_cons, List.drop_zero, hnetloc, hquery]
  rw [List.dropWhile_cons_of_neg (by decide), List.drop_succ_cons, List.drop_zero]

end Url

/-! ### Reading -/

/-- A URL with credentials, decoded. -/
structure ProxyUrl where
  scheme : Text
  username : Text
  password : Text
  host : Text
  port : Text
  query : Text

/-- The URL of a proxy. -/
def readProxyUrl (checkNetloc : Text → Bool) (url : Text) : Option ProxyUrl := do
  let (scheme, netloc) ← urlsplit checkNetloc url
  let username ← (userinfo netloc).1
  let password ← (userinfo netloc).2
  let port ← (hostinfo netloc).2
  let username ← unquote username
  let password ← unquote password
  return { scheme, username, password, host := (hostinfo netloc).1, port, query := urlQuery url }

/-! ### Hosts and ports -/

/-- A host that is written into a network location as it is, as domain names and IPv4 addresses
are. -/
structure NetlocHost (checkNetloc : Text → Bool) (host : Text) : Prop where
  plain : ∀ c ∈ host, isSpace c = false ∧ c ∉ ['/', '?', '#', '@', ':', '[', ']']
  accepted : ∀ front back, (∀ c ∈ front ++ back, isAscii c = true ∧ c ∉ ['[', ']']) →
    checkNetloc (front ++ host ++ back) = true

/-- A numeric port. -/
def IsNumeric (port : Text) : Prop := port ≠ [] ∧ ∀ c ∈ port, c.isDigit = true

instance (port : Text) : Decidable (IsNumeric port) :=
  inferInstanceAs (Decidable (port ≠ [] ∧ ∀ c ∈ port, c.isDigit = true))

/-- `urlsplit` checks nothing but brackets in an ASCII text. -/
def ChecksNoAscii (checkNetloc : Text → Bool) : Prop :=
  ∀ netloc, (∀ c ∈ netloc, isAscii c = true ∧ c ∉ ['[', ']']) → checkNetloc netloc = true

/-- Letters, digits, dots and hyphens make such a host. -/
theorem NetlocHost.of_isUnreserved {checkNetloc : Text → Bool} (hcheck : ChecksNoAscii checkNetloc)
    {host : Text} (h : ∀ c ∈ host, isUnreserved c = true) : NetlocHost checkNetloc host := by
  have hdelimiter : ∀ d ∈ ['/', '?', '#', '@', ':', '[', ']'], isUnreserved d = false := by decide
  have hplain : ∀ c ∈ host, c ∉ ['/', '?', '#', '@', ':', '[', ']'] := by
    intro c hc hmem
    have hunreserved := h c hc
    rw [hdelimiter c hmem] at hunreserved
    cases hunreserved
  refine ⟨fun c hc => ⟨isSpace_of_isUnreserved (h c hc), hplain c hc⟩, ?_⟩
  intro front back hall
  refine hcheck _ ?_
  intro c hc
  rcases List.mem_append.mp hc with hc | hc
  · rcases List.mem_append.mp hc with hc | hc
    · exact hall c (List.mem_append_left _ hc)
    · refine ⟨isAscii_of_isUnreserved (h c hc), ?_⟩
      intro hmem
      refine hplain c hc ?_
      simp only [List.mem_cons] at hmem ⊢
      tauto
  · exact hall c (List.mem_append_right _ hc)

section Line

variable {checkNetloc : Text → Bool} {scheme username password host port query : Text}

/-- `username:password@host:port`, quoted. -/
def netlocText (username password host port : Text) : Text :=
  quote username ++ ':' :: quote password ++ '@' :: (host ++ ':' :: port)

theorem not_mem_quote {c : Char} (hpercent : c ≠ '%') (hreserved : isUnreserved c = false)
    (text : Text) : c ∉ quote text := by
  intro hmem
  rcases isQuoted_of_mem_quote hmem with h | h | h
  · exact hpercent h
  · rw [hreserved] at h
    cases h
  · exact List.not_mem_nil h

theorem isAscii_of_mem_quote {text : Text} {c : Char} (h : c ∈ quote text) :
    isAscii c = true := by
  rw [quote_eq] at h
  exact isAscii_of_mem_quoteSafe (by simp) text c h

theorem not_mem_of_isDigit {port : Text} (h : ∀ c ∈ port, c.isDigit = true) {c : Char}
    (hc : c.isDigit = false) : c ∉ port := by
  intro hmem
  rw [h c hmem] at hc
  cases hc

/-- What holds of the characters of the parts holds of all. -/
theorem forall_mem_netlocText {p : Char → Prop} (hquoted : ∀ text, ∀ c ∈ quote text, p c)
    (hcolon : p ':') (hat : p '@') (hhost : ∀ c ∈ host, p c) (hport : ∀ c ∈ port, p c) :
    ∀ c ∈ netlocText username password host port, p c := by
  simp only [netlocText, List.forall_mem_append, List.forall_mem_cons]
  exact ⟨⟨hquoted username, hcolon, hquoted password⟩, hat, hhost, hcolon, hport⟩

theorem plainUrl_netlocText (username password : Text) (hscheme : isScheme scheme = true)
    (hhost : NetlocHost checkNetloc host) (hport : IsNumeric port)
    (hquery : ∀ c ∈ query, c ∉ ['#', '\t', '\r', '\n']) :
    PlainUrl scheme (netlocText username password host port) query := by
  have hreserved : ∀ c ∈ ['/', '?', '#', '\t', '\r', '\n'],
      c ≠ '%' ∧ isUnreserved c = false ∧ c.isDigit = false ∧
        (isSpace c = true ∨ c ∈ ['/', '?', '#', '@', ':', '[', ']']) := by
    decide
  refine ⟨hscheme, forall_mem_netlocText ?_ (by decide) (by decide) ?_ ?_, hquery⟩
  · intro text c hc hmem
    obtain ⟨hpercent, hunreserved, -⟩ := hreserved c hmem
    exact not_mem_quote hpercent hunreserved text hc
  · intro c hc hmem
    obtain ⟨hnot, hplain⟩ := hhost.plain c hc
    obtain ⟨-, -, -, hspace | hdelimiter⟩ := hreserved c hmem
    · rw [hnot] at hspace
      cases hspace
    · exact hplain hdelimiter
  · intro c hc hmem
    obtain ⟨-, -, hdigit, -⟩ := hreserved c hmem
    exact not_mem_of_isDigit hport.2 hdigit hc

theorem userinfo_netlocText (hhost : NetlocHost checkNetloc host) (hport : IsNumeric port) :
    userinfo (netlocText username password host port) =
      (some (quote username), some (quote password)) := by
  refine userinfo_append (not_mem_quote (by decide) (by decide) username) _ ?_
  intro hmem
  simp only [List.mem_append, List.mem_cons] at hmem
  rcases hmem with hmem | hmem | hmem
  · exact (hhost.plain _ hmem).2 (by decide)
  · exact absurd hmem (by decide)
  · exact not_mem_of_isDigit hport.2 (by decide) hmem

theorem hostinfo_netlocText (hhost : NetlocHost checkNetloc host) (hport : IsNumeric port) :
    hostinfo (netlocText username password host port) = (host, some port) := by
  have hplain : ∀ c ∈ ['@', '['], c ∉ host ++ ':' :: port := by
    intro c hc hmem
    have hall : ∀ c ∈ ['@', '['], c ≠ ':' ∧ c.isDigit = false ∧
        c ∈ ['/', '?', '#', '@', ':', '[', ']'] := by decide
    obtain ⟨hcolon, hdigit, hdelimiter⟩ := hall c hc
    rcases List.mem_append.mp hmem with hmem | hmem
    · exact (hhost.plain c hmem).2 hdelimiter
    · rcases List.mem_cons.mp hmem with rfl | hmem
      · exact hcolon rfl
      · exact not_mem_of_isDigit hport.2 hdigit hmem
  rw [netlocText, hostinfo_append _ (hplain '@' (by decide))]
  exact hostinfo_plain (fun hmem => (hhost.plain _ hmem).2 (by decide)) hplain hport.1

theorem checkNetloc_netlocText (hhost : NetlocHost checkNetloc host) (hport : IsNumeric port) :
    checkNetloc (netlocText username password host port) = true := by
  have haccepted := hhost.accepted (quote username ++ ':' :: quote password ++ ['@']) (':' :: port)
  have hassoc : quote username ++ ':' :: quote password ++ ['@'] ++ host ++ ':' :: port =
      netlocText username password host port := by
    simp [netlocText, List.append_assoc]
  -- the part around the host is the location without it
  have haround : quote username ++ ':' :: quote password ++ ['@'] ++ ':' :: port =
      netlocText username password [] port := by
    simp [netlocText, List.append_assoc]
  rw [hassoc, haround] at haccepted
  refine haccepted (forall_mem_netlocText ?_ (by decide) (by decide) (List.forall_mem_nil _) ?_)
  · intro text c hc
    refine ⟨isAscii_of_mem_quote hc, ?_⟩
    intro hmem
    have hall : ∀ c ∈ ['[', ']'], c ≠ '%' ∧ isUnreserved c = false := by decide
    exact not_mem_quote (hall c hmem).1 (hall c hmem).2 text hc
  · intro c hc
    have hunreserved : isUnreserved c = true := by
      simp [isUnreserved, Char.isAlphanum, hport.2 c hc]
    refine ⟨isAscii_of_isUnreserved hunreserved, ?_⟩
    intro hmem
    have hall : ∀ c ∈ ['[', ']'], isUnreserved c = false := by decide
    rw [hall c hmem] at hunreserved
    cases hunreserved

/-- The URL of a proxy is read back. -/
theorem readProxyUrl_urlText (hscheme : isScheme scheme = true)
    (hhost : NetlocHost checkNetloc host) (hport : IsNumeric port)
    (hquery : ∀ c ∈ query, c ∉ ['#', '\t', '\r', '\n']) :
    readProxyUrl checkNetloc (urlText scheme (netlocText username password host port) query) =
      some { scheme, username, password, host, port, query } := by
  have hplain := plainUrl_netlocText username password hscheme hhost hport hquery
  rw [readProxyUrl, urlsplit_urlText hplain (checkNetloc_netlocText hhost hport),
    urlQuery_urlText hplain]
  simp only [Option.bind_eq_bind, Option.bind_some, userinfo_netlocText hhost hport,
    hostinfo_netlocText hhost hport, unquote_quote]
  rfl

/-- The URL of a proxy has no spaces in it. -/
theorem isSpace_urlText (hscheme : isScheme scheme = true) (hhost : NetlocHost checkNetloc host)
    (hport : IsNumeric port) (hquery : ∀ c ∈ query, isSpace c = false) :
    ∀ c ∈ urlText scheme (netlocText username password host port) query, isSpace c = false := by
  have hschemeSpace : ∀ c ∈ scheme, isSpace c = false := by
    intro c hc
    have hall := List.all_eq_true.mp (isScheme_iff.mp hscheme).2.1 c hc
    rw [Bool.and_eq_true, Bool.or_eq_true, decide_eq_true_eq] at hall
    rcases hall.2 with halphanum | hsign
    · exact isSpace_of_isUnreserved (by simp [isUnreserved, halphanum])
    · have hsigns : ∀ c ∈ ['+', '-', '.'], isSpace c = false := by decide
      exact hsigns c hsign
  have hnetloc : ∀ c ∈ netlocText username password host port, isSpace c = false :=
    forall_mem_netlocText (fun _ _ hc =>
        (isQuoted_of_mem_quote hc).isSpace_eq_false fun _ h => (List.not_mem_nil h).elim)
      (by decide) (by decide) (fun c hc => (hhost.plain c hc).1)
      (fun c hc => isSpace_of_isDigit (hport.2 c hc))
  simp only [urlText, List.forall_mem_append, List.forall_mem_cons]
  exact ⟨hschemeSpace, by decide, by decide, by decide, hnetloc, by decide, hquery⟩

end Line

end PxManager.Export
