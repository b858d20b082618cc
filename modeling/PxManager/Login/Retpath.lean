import Mathlib.Logic.Function.Iterate
import PxManager.Core.Text

/-!
# PxManager.Login.Retpath

`safe_retpath` of `main.py`, and the way a target takes through the login: `redirect_to_login`
puts it into a query argument, the login page into a form field, and the login redirects to it.

`safe_retpath` decodes its argument until nothing changes and refuses it when one of the texts
on the way is not a local path. A decoding that changes the text makes it shorter, so the loop
ends; and once nothing changes, all further decodings are the same text, so the loop has seen
every decoding there is.

The checks of `urlsplit` on a network location are outside the model (`checkNetloc`). They play
no part: a local path has none.
-/

namespace PxManager.Login

open PxManager.Core

/-! ### `urlsplit` -/

/-- The scheme that `urlsplit` finds, in lower case, and the text after it. -/
def splitScheme (url : Text) : Text × Text :=
  let head := url.takeWhile (· ≠ ':')
  if ':' ∈ url ∧ head.head?.any (fun c => isAscii c && c.isAlpha) ∧
      head.all (fun c => isAscii c && (c.isAlphanum || c ∈ ['+', '-', '.'])) then
    (head.map Char.toLower, url.drop (head.length + 1))
  else ([], url)

/-- The `scheme` and the `netloc` of `urlsplit(url)`. `none` is `ValueError`, which only a
network location raises. -/
def urlsplit (checkNetloc : Text → Bool) (url : Text) : Option (Text × Text) :=
  let url := url.dropWhile fun c => c.toNat ≤ 0x20
  let url := url.filter fun c => c ∉ ['\t', '\r', '\n']
  let (scheme, url) := splitScheme url
  let netloc := if ['/', '/'] <+: url then (url.drop 2).takeWhile (· ∉ ['/', '?', '#']) else []
  if netloc ≠ [] ∧ !checkNetloc netloc then none else some (scheme, netloc)

/-! ### `safe_retpath` -/

/-- The first check of each round. -/
abbrev Refused (value : Text) : Prop :=
  ¬ ['/'] <+: value ∨ ['/', '/'] <+: value ∨
    ∃ c ∈ value, c.toNat < 32 ∨ c.toNat = 127 ∨ c = '\\'

variable (checkNetloc : Text → Bool)

/-- The `while` loop of `safe_retpath`. -/
def retpathLoop (original value : Text) : Text :=
  if Refused value then ['/']
  else
    match urlsplit checkNetloc value with
    | none => ['/']
    | some (scheme, netloc) =>
        if scheme ≠ [] ∨ netloc ≠ [] then ['/']
        else
          match _hunquote : unquote value with
          | none => ['/']
          | some decoded =>
              if _hne : decoded = value then original else retpathLoop original decoded
termination_by value.length
decreasing_by exact length_lt_of_unquote _hunquote _hne

/-- `safe_retpath`. -/
def safeRetpath (value : Text) : Text :=
  if 2048 < value.length then ['/'] else retpathLoop checkNetloc value value

/-! ### What it accepts -/

/-- A path of this site, and nothing a browser could take for more. -/
structure IsLocal (value : Text) : Prop where
  slash : value.head? = some '/'
  not_slashes : value.tail.head? ≠ some '/'
  plain : ∀ c ∈ value, 0x20 ≤ c.toNat ∧ c.toNat ≠ 0x7f ∧ c ≠ '\\'

theorem plain_of_all {value : Text}
    (h : value.all (fun c => decide (0x20 ≤ c.toNat ∧ c.toNat ≠ 0x7f ∧ c ≠ '\\')) = true) :
    ∀ c ∈ value, 0x20 ≤ c.toNat ∧ c.toNat ≠ 0x7f ∧ c ≠ '\\' :=
  fun c hc => of_decide_eq_true (List.all_eq_true.mp h c hc)

/-- The strict percent-decoding, applied `n` times. -/
def unquoteTimes : Nat → Text → Option Text
  | 0, value => some value
  | n + 1, value => unquote value >>= unquoteTimes n

/-- Every repeated decoding exists and is a local path. -/
def AlwaysLocal (value : Text) : Prop :=
  ∀ n, ∃ decoded, unquoteTimes n value = some decoded ∧ IsLocal decoded

/-- The targets that `safe_retpath` is there to accept. -/
def StaysLocal (value : Text) : Prop := value.length ≤ 2048 ∧ AlwaysLocal value

theorem not_refused_iff {value : Text} : ¬ Refused value ↔ IsLocal value := by
  have hplain : (¬ ∃ c ∈ value, c.toNat < 32 ∨ c.toNat = 127 ∨ c = '\\') ↔
      ∀ c ∈ value, 0x20 ≤ c.toNat ∧ c.toNat ≠ 0x7f ∧ c ≠ '\\' := by
    simp only [not_exists, not_and, not_or, not_lt]
  have hslash : ['/'] <+: value ↔ value.head? = some '/' := by
    cases value with
    | nil => simp
    | cons c rest => simp only [List.cons_prefix_cons, List.nil_prefix, and_true, List.head?_cons,
        Option.some.injEq, eq_comm]
  have hslashes : value.head? = some '/' →
      (['/', '/'] <+: value ↔ value.tail.head? = some '/') := by
    intro hhead
    match value, hhead with
    | [c], _ => simp
    | c :: c' :: rest, hhead =>
        obtain rfl : c = '/' := Option.some.inj hhead
        simp only [List.cons_prefix_cons, List.nil_prefix, and_true, true_and, List.tail_cons,
          List.head?_cons, Option.some.injEq, eq_comm]
  simp only [Refused, not_or, not_not, hplain, hslash]
  constructor
  · intro ⟨h₁, h₂, h₃⟩
    exact ⟨h₁, fun h => h₂ ((hslashes h₁).mpr h), h₃⟩
  · intro ⟨h₁, h₂, h₃⟩
    exact ⟨h₁, fun h => h₂ ((hslashes h₁).mp h), h₃⟩

/-- A local path has neither a scheme nor a network location. -/
theorem urlsplit_of_isLocal {value : Text} (h : IsLocal value) :
    urlsplit checkNetloc value = some ([], []) := by
  have hslashes : ¬ ['/', '/'] <+: value := fun h' => not_refused_iff.mpr h (Or.inr (Or.inl h'))
  have hfilter : value.filter (fun c => c ∉ ['\t', '\r', '\n']) = value := by
    refine List.filter_eq_self.mpr fun c hc => decide_eq_true ?_
    intro hmem
    have hle := (h.plain c hc).1
    simp only [List.mem_cons, List.not_mem_nil, or_false] at hmem
    rcases hmem with rfl | rfl | rfl <;> exact absurd hle (by decide)
  obtain ⟨rest, rfl⟩ : ∃ rest, value = '/' :: rest := by
    match value, h.slash with
    | c :: rest, hslash => exact ⟨rest, by rw [Option.some.inj hslash]⟩
  have hdrop : ('/' :: rest).dropWhile (fun c => c.toNat ≤ 0x20) = '/' :: rest :=
    List.dropWhile_cons_of_neg (by decide)
  have hscheme : splitScheme ('/' :: rest) = ([], '/' :: rest) := by
    refine if_neg ?_
    intro h
    have hhead : (('/' :: rest).takeWhile (· ≠ ':')).head? = some '/' := rfl
    rw [hhead] at h
    exact absurd h.2.1 (by decide)
  unfold urlsplit
  simp only [hdrop, hfilter, hscheme, if_neg hslashes]
  rfl

theorem alwaysLocal_iff {value : Text} :
    AlwaysLocal value ↔ IsLocal value ∧ ∃ decoded, unquote value = some decoded ∧
      AlwaysLocal decoded := by
  constructor
  · intro h
    obtain ⟨_, hzero, hlocal⟩ := h 0
    obtain rfl := Option.some.inj hzero
    refine ⟨hlocal, ?_⟩
    obtain ⟨_, hone, -⟩ := h 1
    obtain ⟨decoded, hdecoded, -⟩ := Option.bind_eq_some_iff.mp hone
    refine ⟨decoded, hdecoded, ?_⟩
    intro n
    obtain ⟨w, hw, hlocal'⟩ := h (n + 1)
    rw [unquoteTimes, hdecoded] at hw
    exact ⟨w, hw, hlocal'⟩
  · intro ⟨hlocal, decoded, hdecoded, h⟩ n
    cases n with
    | zero => exact ⟨value, rfl, hlocal⟩
    | succ n =>
        obtain ⟨w, hw, hlocal'⟩ := h n
        exact ⟨w, by rw [unquoteTimes, hdecoded]; exact hw, hlocal'⟩

/-- A local path that decodes to itself is its own decoding forever. -/
theorem AlwaysLocal.of_unquote_eq_self {value : Text} (h : IsLocal value)
    (hself : unquote value = some value) : AlwaysLocal value := by
  have htimes : ∀ n, unquoteTimes n value = some value := by
    intro n
    induction n with
    | zero => rfl
    | succ n ih =>
        rw [unquoteTimes, hself]
        exact ih
  exact fun n => ⟨value, htimes n, h⟩

theorem retpathLoop_of_alwaysLocal {original value : Text} (h : AlwaysLocal value) :
    retpathLoop checkNetloc original value = original := by
  fun_induction retpathLoop checkNetloc original value with
  | case1 value hrefused =>
      exact absurd hrefused (not_refused_iff.mpr (alwaysLocal_iff.mp h).1)
  | case2 value hrefused hsplit =>
      rw [urlsplit_of_isLocal checkNetloc (alwaysLocal_iff.mp h).1] at hsplit
      cases hsplit
  | case3 value hrefused scheme netloc hsplit hfound =>
      rw [urlsplit_of_isLocal checkNetloc (alwaysLocal_iff.mp h).1] at hsplit
      cases hsplit
      simp at hfound
  | case4 value hrefused scheme netloc hsplit hfound hnone =>
      obtain ⟨decoded, hdecoded, -⟩ := (alwaysLocal_iff.mp h).2
      rw [hdecoded] at hnone
      cases hnone
  | case5 => rfl
  | case6 value hrefused scheme netloc hsplit hfound decoded hdecoded hne ih =>
      -- the next round starts from a decoding that always stays local as well
      obtain ⟨decoded', hdecoded', h'⟩ := (alwaysLocal_iff.mp h).2
      rw [hdecoded, Option.some.injEq] at hdecoded'
      exact ih (hdecoded' ▸ h')

theorem retpathLoop_of_not_alwaysLocal {original value : Text} (h : ¬ AlwaysLocal value) :
    retpathLoop checkNetloc original value = ['/'] := by
  fun_induction retpathLoop checkNetloc original value with
  | case1 | case2 | case3 | case4 => rfl
  | case5 scheme netloc hfound value hrefused hsplit hself =>
      -- accepted: nothing changes any more, and what is local now stays so
      have hlocal := not_refused_iff.mp hrefused
      exact absurd (AlwaysLocal.of_unquote_eq_self hlocal hself) h
  | case6 value hrefused scheme netloc hsplit hfound decoded hdecoded hne ih =>
      have hlocal := not_refused_iff.mp hrefused
      exact ih fun h' => h (alwaysLocal_iff.mpr ⟨hlocal, decoded, hdecoded, h'⟩)

theorem safeRetpath_of_staysLocal {value : Text} (h : StaysLocal value) :
    safeRetpath checkNetloc value = value := by
  rw [safeRetpath, if_neg (not_lt.mpr h.1), retpathLoop_of_alwaysLocal checkNetloc h.2]

theorem safeRetpath_of_not_staysLocal {value : Text} (h : ¬ StaysLocal value) :
    safeRetpath checkNetloc value = ['/'] := by
  unfold safeRetpath
  split
  · rfl
  · next hle =>
      exact retpathLoop_of_not_alwaysLocal checkNetloc fun h' => h ⟨not_lt.mp hle, h'⟩

theorem staysLocal_slash : StaysLocal ['/'] :=
  ⟨by decide, AlwaysLocal.of_unquote_eq_self ⟨rfl, by decide, plain_of_all rfl⟩ rfl⟩

theorem staysLocal_safeRetpath (value : Text) : StaysLocal (safeRetpath checkNetloc value) := by
  by_cases h : StaysLocal value
  · rwa [safeRetpath_of_staysLocal checkNetloc h]
  · rw [safeRetpath_of_not_staysLocal checkNetloc h]
    exact staysLocal_slash

/-! ### The way through the login -/

/-- What `get_argument` and `get_body_argument` of a Tornado handler make of the decoded values of a
name: the last one, with control characters other than tabs and line breaks as spaces, and stripped.
The default is returned as it is. -/
def getArgument (values : List Text) (default : Text) : Text :=
  match values.getLast? with
  | none => default
  | some value =>
      strip (value.map fun c =>
        if c.toNat ≤ 0x08 ∨ (0x0e ≤ c.toNat ∧ c.toNat ≤ 0x1f) then ' ' else c)

/-- The `retpath` that `IndexHandler` takes from the decoded values: it goes into the form of the
page, or is where the login redirects to. -/
def argumentRetpath (values : List Text) : Text :=
  safeRetpath checkNetloc (getArgument values ['/'])

/-- Where a user ends who asked for `uri` without a session: `redirect_to_login` sends the target
through the query, the login page into the form, each refused login from the form into the next
one, and the accepted login redirects to it. `viaQuery` and `viaForm` are what arrives of a text
that is sent in the query and in the form. -/
def retpathChain (viaQuery viaForm : Text → Text) (uri : Text) (refusals : Nat) : Text :=
  let location := safeRetpath checkNetloc uri
  let form := argumentRetpath checkNetloc [viaQuery location]
  let post form := argumentRetpath checkNetloc [viaForm form]
  post (post^[refusals] form)

/-- A text without control characters arrives as it was sent. -/
def Delivers (via : Text → Text) : Prop :=
  ∀ value : Text, (∀ c ∈ value, 0x20 ≤ c.toNat ∧ c.toNat ≠ 0x7f) → via value = value

theorem isSpace_printable {c : Char} (hspace : isSpace c = true) (hplain : 0x20 ≤ c.toNat) :
    c = ' ' ∨ isAscii c = false := by
  by_cases hc : c.toNat = 0x20
  · exact Or.inl (Char.ext (UInt32.toNat_inj.mp hc))
  · right
    simp only [isSpace, Bool.or_eq_true, decide_eq_true_eq] at hspace
    exact decide_eq_false (by omega)

theorem IsLocal.of_append_space {value : Text} {c : Char} (hspace : isSpace c = true)
    (h : IsLocal (value ++ [c])) : IsLocal value := by
  have hplain : ∀ c ∈ value, 0x20 ≤ c.toNat ∧ c.toNat ≠ 0x7f ∧ c ≠ '\\' :=
    fun c' hc' => h.plain c' (List.mem_append_left _ hc')
  match value, h.slash, h.not_slashes, hplain with
  | [], hslash, _, _ =>
      obtain rfl : c = '/' := Option.some.inj hslash
      cases hspace
  | [c'], hslash, _, hplain => exact ⟨hslash, by simp, hplain⟩
  | c' :: c'' :: rest, hslash, hslashes, hplain => exact ⟨hslash, hslashes, hplain⟩

theorem unquoteTimes_append_space {c : Char} (hc : c = ' ' ∨ isAscii c = false) (n : Nat)
    (value : Text) : unquoteTimes n (value ++ [c]) = (unquoteTimes n value).map (· ++ [c]) := by
  induction n generalizing value with
  | zero => rfl
  | succ n ih =>
      rw [unquoteTimes, unquoteTimes, unquote_append_space value hc]
      cases unquote value with
      | none => rfl
      | some decoded => exact ih decoded

/-- A target stays local without a space at its end. -/
theorem StaysLocal.of_append_space {value : Text} {c : Char} (hspace : isSpace c = true)
    (h : StaysLocal (value ++ [c])) : StaysLocal value := by
  obtain ⟨hlen, hlocal⟩ := h
  refine ⟨le_trans (by simp) hlen, ?_⟩
  intro n
  have hplain := (alwaysLocal_iff.mp hlocal).1.plain c (by simp)
  obtain ⟨decoded, hdecoded, hlocal'⟩ := hlocal n
  rw [unquoteTimes_append_space (isSpace_printable hspace hplain.1)] at hdecoded
  obtain ⟨decoded', hdecoded', rfl⟩ := Option.map_eq_some_iff.mp hdecoded
  exact ⟨decoded', hdecoded', hlocal'.of_append_space hspace⟩

theorem StaysLocal.rstrip {value : Text} (h : StaysLocal value) : StaysLocal (rstrip value) := by
  induction value using List.reverseRecOn with
  | nil => exact h
  | append_singleton value c ih =>
      by_cases hspace : isSpace c = true
      · rw [Core.rstrip, List.rdropWhile_concat_pos _ _ _ hspace]
        exact ih (h.of_append_space hspace)
      · rwa [Core.rstrip, List.rdropWhile_concat_neg _ _ _ hspace]

/-- `get_argument` takes the trailing whitespace of a target, and nothing else. -/
theorem getArgument_of_staysLocal {value : Text} (h : StaysLocal value) (default : Text) :
    getArgument [value] default = Core.rstrip value := by
  obtain ⟨hslash, -, hplain⟩ := (alwaysLocal_iff.mp h.2).1
  have hmap : value.map (fun c => if c.toNat ≤ 0x08 ∨ (0x0e ≤ c.toNat ∧ c.toNat ≤ 0x1f) then ' '
      else c) = value := by
    refine (List.map_congr_left fun c hc => if_neg ?_).trans (List.map_id value)
    have := (hplain c hc).1
    omega
  have hstrip : value.dropWhile isSpace = value := by
    match value, hslash with
    | c :: rest, hslash =>
        obtain rfl : c = '/' := Option.some.inj hslash
        exact List.dropWhile_cons_of_neg (by decide)
  show strip (value.map _) = _
  rw [hmap, strip, hstrip]

theorem argumentRetpath_of_staysLocal {via : Text → Text} (hvia : Delivers via) {value : Text}
    (h : StaysLocal value) : argumentRetpath checkNetloc [via value] = Core.rstrip value := by
  have hplain := (alwaysLocal_iff.mp h.2).1.plain
  rw [hvia value fun c hc => ⟨(hplain c hc).1, (hplain c hc).2.1⟩, argumentRetpath,
    getArgument_of_staysLocal h, safeRetpath_of_staysLocal checkNetloc h.rstrip]

/-- The chain delivers a target that stays local, without its trailing whitespace. -/
theorem retpathChain_of_staysLocal {viaQuery viaForm : Text → Text} (hquery : Delivers viaQuery)
    (hform : Delivers viaForm) {uri : Text} (h : StaysLocal uri) (refusals : Nat) :
    retpathChain checkNetloc viaQuery viaForm uri refusals = Core.rstrip uri := by
  have hidem : Core.rstrip (Core.rstrip uri) = Core.rstrip uri := List.rdropWhile_idempotent _ _
  have hpost : argumentRetpath checkNetloc [viaForm (Core.rstrip uri)] = Core.rstrip uri :=
    (argumentRetpath_of_staysLocal checkNetloc hform h.rstrip).trans hidem
  unfold retpathChain
  dsimp only
  rw [safeRetpath_of_staysLocal checkNetloc h, argumentRetpath_of_staysLocal checkNetloc hquery h,
    Function.iterate_fixed hpost, hpost]

/-- The chain ends at `/` for any other target. -/
theorem retpathChain_of_not_staysLocal {viaQuery viaForm : Text → Text}
    (hquery : Delivers viaQuery) (hform : Delivers viaForm) {uri : Text} (h : ¬ StaysLocal uri)
    (refusals : Nat) : retpathChain checkNetloc viaQuery viaForm uri refusals = ['/'] := by
  have hslash := retpathChain_of_staysLocal checkNetloc hquery hform staysLocal_slash refusals
  rw [show Core.rstrip ['/'] = ['/'] by decide] at hslash
  rw [← hslash]
  unfold retpathChain
  rw [safeRetpath_of_not_staysLocal checkNetloc h,
    safeRetpath_of_staysLocal checkNetloc staysLocal_slash]

/-- **`safe_retpath` accepts exactly the targets that stay local** under any number of
percent-decodings, and is idempotent. The way through the login keeps an accepted target up to
whitespace at its end. -/
theorem safeRetpath_iff_staysLocal :
    (∀ value, StaysLocal value → safeRetpath checkNetloc value = value) ∧
    (∀ value, ¬ StaysLocal value → safeRetpath checkNetloc value = ['/']) ∧
    (∀ value, safeRetpath checkNetloc (safeRetpath checkNetloc value) =
      safeRetpath checkNetloc value) ∧
    ∀ viaQuery viaForm, Delivers viaQuery → Delivers viaForm → ∀ uri refusals,
      (StaysLocal uri →
        retpathChain checkNetloc viaQuery viaForm uri refusals = Core.rstrip uri) ∧
      (¬ StaysLocal uri → retpathChain checkNetloc viaQuery viaForm uri refusals = ['/']) :=
  ⟨fun _ => safeRetpath_of_staysLocal checkNetloc,
    fun _ => safeRetpath_of_not_staysLocal checkNetloc,
    fun value => safeRetpath_of_staysLocal checkNetloc (staysLocal_safeRetpath checkNetloc value),
    fun _ _ hquery hform _ refusals =>
      ⟨fun h => retpathChain_of_staysLocal checkNetloc hquery hform h refusals,
        fun h => retpathChain_of_not_staysLocal checkNetloc hquery hform h refusals⟩⟩

/-- A target without whitespace arrives as it was, after any number of refused logins. -/
theorem safeRetpath_iff_staysLocal_health :
    retpathChain (fun _ => true) id id "/health?x=1".toList 3 = "/health?x=1".toList := by
  have hlocal : StaysLocal "/health?x=1".toList :=
    ⟨by decide, AlwaysLocal.of_unquote_eq_self
      ⟨by decide, by decide, plain_of_all (by decide)⟩ (by decide)⟩
  have hchain := (safeRetpath_iff_staysLocal fun _ => true).2.2.2 id id (fun _ _ => rfl)
    (fun _ _ => rfl) "/health?x=1".toList 3
  exact (hchain.1 hlocal).trans (by decide)

/-- A target keeps its query, but not the no-break space at its end. -/
theorem retpathChain_strips :
    ∃ uri : Text, uri = "/health?x=\u00a0".toList ∧ StaysLocal uri ∧
      retpathChain (fun _ => true) id id uri 0 ≠ uri := by
  have hlocal : StaysLocal "/health?x=\u00a0".toList :=
    ⟨by decide, AlwaysLocal.of_unquote_eq_self
      ⟨by decide, by decide, plain_of_all (by decide)⟩ (by decide)⟩
  refine ⟨_, rfl, hlocal, ?_⟩
  have hid : Delivers id := fun _ _ => rfl
  rw [retpathChain_of_staysLocal _ hid hid hlocal]
  decide

end PxManager.Login
