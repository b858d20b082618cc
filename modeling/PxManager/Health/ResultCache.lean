import PxManager.Core.Dumps
import PxManager.Health.Hosts

/-!
# PxManager.Health.ResultCache

`HEALTH_RESULT_CACHE` of `main.py`: results of health checks that are kept for some seconds.

Each check makes its own text of what its result is about, and together with the name of the check
this text is the key. `Subject` is what a result is about, and `Subject.key` is that key. No two
subjects have the same key, as long as no user name contains NUL.

`ResultCache` is the dictionary, with a history of what was stored and served. The program keeps no
such history.
-/

namespace PxManager.Health

open PxManager.Core

/-- `HEALTH_CACHE_TTL_SECONDS`. -/
def healthCacheTtlSeconds : ℚ := 25
/-- `COUNTRY_CACHE_TTL_SECONDS`. -/
def countryCacheTtlSeconds : ℚ := 5 * 60

/-- The result of a check. -/
abbrev HealthResult := Dict String Json

/-- A user name. The login form cannot send NUL. -/
structure Username where
  text : Text
  nul_notMem : '\x00' ∉ text

theorem Username.ext {a b : Username} (h : a.text = b.text) : a = b := by
  cases a
  cases b
  cases h
  rfl

/-- The protocols of `HealthProtocolHandler`. -/
inductive Protocol
  | h2
  | h3
  deriving DecidableEq, Repr

def Protocol.name : Protocol → Text
  | .h2 => "h2".toList
  | .h3 => "h3".toList

/-- The key of `HEALTH_RESULT_CACHE`. -/
structure HealthKey where
  checkName : String
  host : Text
  deriving DecidableEq

/-- What a result is about. -/
inductive Subject
  | connect (host : String)
  | ping (host : String)
  | proxyRequest (host : String) (username : Username)
  | protocol (host : String) (port : ℤ) (username : Username) (version : Protocol)
  | country (host : String) (port : ℤ) (username : Username) (exitIp : String)

/-- The key under which the code of each check keeps its results. -/
def Subject.key : Subject → HealthKey
  | .connect host => ⟨"connect", host.toList⟩
  | .ping host => ⟨"ping", host.toList⟩
  | .proxyRequest host username => ⟨"proxy_request", host.toList ++ '\x00' :: username.text⟩
  | .protocol host port username version =>
      ⟨"protocol", host.toList ++ ':' :: decimal port ++ '\x00' :: username.text ++
        '\x00' :: version.name⟩
  -- `json.dumps([host, port, username, exit_ip])`
  | .country host port username exitIp =>
      ⟨"country", '[' :: (dumpsString host.toList ++ ',' :: ' ' :: (decimal port ++ ',' :: ' ' ::
        (dumpsString username.text ++ ',' :: ' ' :: (dumpsString exitIp.toList ++ [']']))))⟩

/-- How long a result is kept. -/
def ttl (checkName : String) : ℚ :=
  if checkName = "country" then countryCacheTtlSeconds else healthCacheTtlSeconds

/-! ### Keys -/

theorem notMem_decimal {c : Char} (hdigit : c.isDigit = false) (hminus : c ≠ '-') (n : ℤ) :
    c ∉ decimal n := by
  intro hmem
  rcases isDigit_of_mem_decimal hmem with h | h
  · rw [hdigit] at h
    cases h
  · exact hminus h

theorem Protocol.name_injective {p q : Protocol} (h : p.name = q.name) : p = q := by
  revert p q
  have hall : ∀ p q : Protocol, p.name = q.name → p = q := by
    intro p q
    cases p <;> cases q <;> decide
  exact @hall

/-- The text is cut at the last NUL, at the NUL before it, and at the last colon before that. -/
theorem protocolKey_injective {host host' : String} {port port' : ℤ}
    {username username' : Username} {version version' : Protocol}
    (h : (Subject.protocol host port username version).key =
      (Subject.protocol host' port' username' version').key) :
    host = host' ∧ port = port' ∧ username = username' ∧ version = version' := by
  have hname : ∀ p : Protocol, '\x00' ∉ p.name := by
    intro p
    cases p <;> decide
  have hport : ∀ n, ':' ∉ decimal n := notMem_decimal (by decide) (by decide)
  simp only [Subject.key, HealthKey.mk.injEq, true_and] at h
  obtain ⟨h, hversion⟩ := append_cons_inj_last (hname version) (hname version') h
  obtain ⟨h, husername⟩ := append_cons_inj_last username.nul_notMem username'.nul_notMem h
  obtain ⟨hhost, hport⟩ := append_cons_inj_last (hport port) (hport port') h
  exact ⟨String.toList_inj.mp hhost, decimal_injective hport, Username.ext husername,
    Protocol.name_injective hversion⟩

/-- The strings of the list are cut off one by one. -/
theorem countryKey_injective {host host' : String} {port port' : ℤ} {username username' : Username}
    {exitIp exitIp' : String}
    (h : (Subject.country host port username exitIp).key =
      (Subject.country host' port' username' exitIp').key) :
    host = host' ∧ port = port' ∧ username = username' ∧ exitIp = exitIp' := by
  have hcomma : ∀ n, ',' ∉ decimal n := notMem_decimal (by decide) (by decide)
  simp only [Subject.key, HealthKey.mk.injEq, true_and, List.cons.injEq] at h
  obtain ⟨hhost, h⟩ := dumpsString_append_inj h
  obtain ⟨hport, h⟩ := append_cons_inj (hcomma port) (hcomma port')
    (List.cons.inj (List.cons.inj h).2).2
  obtain ⟨husername, h⟩ := dumpsString_append_inj (List.cons.inj h).2
  obtain ⟨hexit, -⟩ := dumpsString_append_inj (List.cons.inj (List.cons.inj h).2).2
  exact ⟨String.toList_inj.mp hhost, decimal_injective hport, Username.ext husername,
    String.toList_inj.mp hexit⟩

/-- **No two subjects have the same key.** -/
theorem Subject.key_injective {a b : Subject} (h : a.key = b.key) : a = b := by
  have hname := congrArg HealthKey.checkName h
  cases a with
  | connect host =>
      cases b with
      | connect host' => rw [String.toList_inj.mp (congrArg HealthKey.host h)]
      | _ => simp [Subject.key] at hname
  | ping host =>
      cases b with
      | ping host' => rw [String.toList_inj.mp (congrArg HealthKey.host h)]
      | _ => simp [Subject.key] at hname
  | proxyRequest host username =>
      cases b with
      | proxyRequest host' username' =>
          obtain ⟨hhost, husername⟩ := append_cons_inj_last username.nul_notMem
            username'.nul_notMem (congrArg HealthKey.host h)
          rw [String.toList_inj.mp hhost, Username.ext husername]
      | _ => simp [Subject.key] at hname
  | protocol host port username version =>
      cases b with
      | protocol host' port' username' version' =>
          obtain ⟨rfl, rfl, rfl, rfl⟩ := protocolKey_injective h
          rfl
      | _ => simp [Subject.key] at hname
  | country host port username exitIp =>
      cases b with
      | country host' port' username' exitIp' =>
          obtain ⟨rfl, rfl, rfl, rfl⟩ := countryKey_injective h
          rfl
      | _ => simp [Subject.key] at hname

/-! ### The cache -/

/-- Something was stored or served. `ι` names the parts of the program that use the cache. -/
inductive Event (ι : Type)
  | computed (user : ι) (subject : Subject) (result : HealthResult) (time : ℚ)
  | served (user : ι) (subject : Subject) (result : HealthResult) (time : ℚ)

def Event.user {ι : Type} : Event ι → ι
  | .computed user .. => user
  | .served user .. => user

def Event.subject {ι : Type} : Event ι → Subject
  | .computed _ subject .. => subject
  | .served _ subject .. => subject

structure ResultCache (ι : Type) where
  entries : Dict HealthKey (ℚ × HealthResult)
  history : List (Event ι)

namespace ResultCache

variable {ι : Type}

def empty : ResultCache ι := ⟨∅, []⟩

/-- `get_cached_health_result`. -/
def get (c : ResultCache ι) (user : ι) (subject : Subject) (now : ℚ) :
    Option HealthResult × ResultCache ι :=
  match c.entries.get? subject.key with
  | none => (none, c)
  | some (cachedAt, result) =>
      if ttl subject.key.checkName ≤ now - cachedAt then
        (none, { c with entries := c.entries.erase subject.key })
      else (some result, { c with history := c.history ++ [.served user subject result now] })

/-- `set_cached_health_result`. -/
def set (c : ResultCache ι) (user : ι) (subject : Subject) (result : HealthResult) (now : ℚ) :
    ResultCache ι where
  entries := c.entries.set subject.key (now, result)
  history := c.history ++ [.computed user subject result now]

/-! ### Where the results come from -/

/-- The invariant of the cache: every entry was computed, and whatever was served had been computed
before for the same subject and was still fresh. -/
structure Sound (c : ResultCache ι) (clock : ℚ) : Prop where
  entry : ∀ key cachedAt result, c.entries.get? key = some (cachedAt, result) →
    cachedAt ≤ clock ∧ ∃ user subject, .computed user subject result cachedAt ∈ c.history ∧
      subject.key = key
  served : ∀ before after user subject result now,
    c.history = before ++ .served user subject result now :: after →
      ∃ user' time, .computed user' subject result time ∈ before ∧ time ≤ now ∧
        now - time < ttl subject.key.checkName

theorem Sound.empty (clock : ℚ) : Sound (ResultCache.empty : ResultCache ι) clock where
  entry key cachedAt result h := by cases h
  served before after user subject result now h := by simp [ResultCache.empty] at h

variable {c : ResultCache ι} {clock now : ℚ}

theorem Sound.later (h : c.Sound clock) (hnow : clock ≤ now) : c.Sound now where
  entry key cachedAt result hget :=
    let ⟨hle, hcomputed⟩ := h.entry key cachedAt result hget
    ⟨hle.trans hnow, hcomputed⟩
  served := h.served

/-- An element of a longer list is the new one, or was there before. -/
theorem cases_concat {α : Type} {l before after : List α} {x e : α}
    (h : l ++ [e] = before ++ x :: after) :
    (before = l ∧ x = e) ∨ ∃ after', l = before ++ x :: after' := by
  rcases List.eq_nil_or_concat after with rfl | ⟨after', e', rfl⟩
  · obtain ⟨rfl, heq⟩ := List.append_inj' h rfl
    exact .inl ⟨rfl, (List.cons.inj heq).1.symm⟩
  · rw [List.concat_eq_append, ← List.cons_append, ← List.append_assoc] at h
    exact .inr ⟨after', (List.append_inj' h rfl).1⟩

theorem Sound.set (h : c.Sound clock) (hnow : clock ≤ now) (user : ι) (subject : Subject)
    (result : HealthResult) : (c.set user subject result now).Sound now where
  entry key cachedAt result' hget := by
    rw [ResultCache.set, Dict.get?_set] at hget
    split at hget
    · next heq =>
        cases hget
        exact ⟨le_rfl, user, subject, by simp [ResultCache.set], heq.symm⟩
    · obtain ⟨hle, user', subject', hmem, hkey⟩ := h.entry key cachedAt result' hget
      exact ⟨hle.trans hnow, user', subject', List.mem_append_left _ hmem, hkey⟩
  served before after user' subject' result' now' heq := by
    rcases cases_concat heq with ⟨-, hevent⟩ | ⟨after', hold⟩
    · cases hevent
    · exact h.served before after' user' subject' result' now' hold

/-- A read finds nothing, and at most drops the entry; or it finds what was computed for the same
subject and is still fresh. -/
theorem Sound.get_cases (h : c.Sound clock) (hnow : clock ≤ now) (user : ι) (subject : Subject) :
    (∃ entries, c.get user subject now = (none, { c with entries }) ∧
      ∀ key entry, entries.get? key = some entry → c.entries.get? key = some entry) ∨
    ∃ result user' time, c.get user subject now =
        (some result, { c with history := c.history ++ [.served user subject result now] }) ∧
      .computed user' subject result time ∈ c.history ∧ time ≤ now ∧
      now - time < ttl subject.key.checkName := by
  unfold ResultCache.get
  split
  · exact .inl ⟨c.entries, rfl, fun _ _ hget => hget⟩
  · next cachedAt result hget =>
      split
      · refine .inl ⟨_, rfl, ?_⟩
        intro key entry hget'
        rw [Dict.get?_erase] at hget'
        split at hget'
        · cases hget'
        · exact hget'
      · next hfresh =>
          obtain ⟨hle, user', subject', hmem, hkey⟩ := h.entry _ cachedAt result hget
          obtain rfl := Subject.key_injective hkey
          exact .inr ⟨result, user', cachedAt, rfl, hmem, hle.trans hnow, not_le.mp hfresh⟩

/-- What is served was computed for the same subject. -/
theorem Sound.get_some (h : c.Sound clock) (hnow : clock ≤ now) {user : ι} {subject : Subject}
    {result : HealthResult} {c' : ResultCache ι} (hget : c.get user subject now = (some result, c')) :
    (∃ user' time, .computed user' subject result time ∈ c.history) ∧
      c'.history = c.history ++ [.served user subject result now] := by
  rcases h.get_cases hnow user subject with ⟨entries, heq, -⟩ |
    ⟨result', user', time, heq, hmem, -, -⟩
  · cases heq.symm.trans hget
  · cases heq.symm.trans hget
    exact ⟨⟨user', time, hmem⟩, rfl⟩

theorem Sound.get_none (h : c.Sound clock) (hnow : clock ≤ now) {user : ι} {subject : Subject}
    {c' : ResultCache ι} (hget : c.get user subject now = (none, c')) :
    c'.history = c.history := by
  rcases h.get_cases hnow user subject with ⟨entries, heq, -⟩ | ⟨result', user', time, heq, -⟩
  · cases heq.symm.trans hget
    rfl
  · cases heq.symm.trans hget

theorem Sound.get (h : c.Sound clock) (hnow : clock ≤ now) (user : ι) (subject : Subject) :
    (c.get user subject now).2.Sound now := by
  rcases h.get_cases hnow user subject with ⟨entries, heq, hentries⟩ |
    ⟨result, user', time, heq, hmem, hle, hfresh⟩
  · rw [heq]
    exact ⟨fun key cachedAt result' hget =>
      (h.later hnow).entry key cachedAt result' (hentries key _ hget), h.served⟩
  · rw [heq]
    refine ⟨?_, ?_⟩
    · intro key cachedAt result' hget
      obtain ⟨hle', user'', subject', hmem', hkey⟩ := (h.later hnow).entry key cachedAt result' hget
      exact ⟨hle', user'', subject', List.mem_append_left _ hmem', hkey⟩
    · intro before after user'' subject' result' now' hsplit
      rcases cases_concat hsplit with ⟨rfl, hevent⟩ | ⟨after', hold⟩
      · cases hevent
        exact ⟨user', time, hmem, hle, hfresh⟩
      · exact h.served before after' user'' subject' result' now' hold

end ResultCache

end PxManager.Health
