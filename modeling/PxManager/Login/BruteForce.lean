import Mathlib.Order.Interval.Set.OrdConnected
import Mathlib.Tactic.Linarith
import PxManager.Login.Handler

/-!
# PxManager.Login.BruteForce

How many passwords can be tried from one IP.

A window of at most `FAILURE_WINDOW_SECONDS` in which no login from the IP succeeds has at most
`LOGIN_FAILURE_LIMIT` failing verifications: each of them is still among the counted failures when
the next one is recorded, so the fifth starts a ban, and a ban outlasts the window.

A success of any account starts the count again, because the counter belongs to the IP. So the
bound holds for an account only when nobody else logs in from the IP either.
-/

namespace PxManager.Login

open PxManager.Core PxManager.Bans

/-! ### Runs -/

/-- What touches the ban store while the application runs: logins, requests without a session,
the login page, the admin page and the periodic cleanup. -/
inductive Event
  | post (request : PostRequest) (sessionId : String) (clock : PostClock)
  | authFailure (ip : String) (client : Option AccessLogClient) (t now : ℚ)
  | isBanned (ip : String) (t : ℚ)
  | activeBans (t : ℚ)
  | cleanupExpired (t : ℚ)

/-- The times of an event, in the order of its steps. -/
def Event.readings : Event → List ℚ
  | .post _ _ clock => [clock.gate, clock.verify, clock.failureGate, clock.failure]
  | .authFailure _ _ t now => [t, now]
  | .isBanned _ t => [t]
  | .activeBans t => [t]
  | .cleanupExpired t => [t]

/-- A login request, and the time and the result of its verification. -/
structure Attempt where
  ip : String
  username : Text
  time : ℚ
  /-- `none` if the IP is banned, or if the verification raises an exception. -/
  verified : Option Bool

/-- The password was verified, and is wrong. -/
def Attempt.failed (l : Attempt) : Bool := l.verified = some false

/-- The password was verified, and is right. -/
def Attempt.succeeded (l : Attempt) : Bool := l.verified = some true

section Runs

variable (checkNetloc : Text → Bool)

/-- The application after an event. -/
def App.perform (app : App) : Event → App
  | .post request sessionId clock => (post checkNetloc request sessionId clock app).2
  | .authFailure ip client t now =>
      { app with banStore :=
          app.banStore.recordFailure appConfig .auth ip FailureType.auth.limit client t now }
  | .isBanned ip t => { app with banStore := (BanStore.isBanned ip t app.banStore).2 }
  | .activeBans t => { app with banStore := (app.banStore.activeBans appConfig t).2 }
  | .cleanupExpired t => { app with banStore := app.banStore.cleanupExpired appConfig t }

/-- The login request that an event is, if its arguments can be read. -/
def App.attempt? (app : App) : Event → Option Attempt
  | .post request _ clock =>
      match request.credentials? with
      | none => none
      | some (username, password) =>
          let banned := (BanStore.isBanned request.clientIp clock.gate app.banStore).1
          let verified := if banned then none else app.passwordStore.verify username password
          some { ip := request.clientIp, username, time := clock.verify, verified }
  | _ => none

/-- The login requests of a run. -/
def attempts : App → List Event → List Attempt
  | _, [] => []
  | app, e :: events =>
      (app.attempt? e).toList ++ attempts (app.perform checkNetloc e) events

/-- Everything a login request does to the ban store, with the attempt that it is. `gate` is the
result of `is_banned`. -/
inductive PostOutcome (request : PostRequest) (clock : PostClock) (app : App)
    (gate : Bool × PersistentBanStore) : Option Attempt → PersistentBanStore → Prop
  | unread : PostOutcome request clock app gate none app.banStore
  | unverified (username : Text) :
      PostOutcome request clock app gate (some ⟨request.clientIp, username, clock.verify, none⟩) gate.2
  | failed (username : Text) (hgate : gate.1 = false) :
      PostOutcome request clock app gate
        (some ⟨request.clientIp, username, clock.verify, some false⟩)
        (gate.2.recordFailure appConfig .login request.clientIp FailureType.login.limit
          (some request.client) clock.failureGate clock.failure)
  | succeeded (username : Text) :
      PostOutcome request clock app gate
        (some ⟨request.clientIp, username, clock.verify, some true⟩)
        (gate.2.recordSuccess request.clientIp)

theorem post_outcome (request : PostRequest) (sessionId : String) (clock : PostClock) (app : App) :
    PostOutcome request clock app (BanStore.isBanned request.clientIp clock.gate app.banStore)
      (app.attempt? (.post request sessionId clock))
      (post checkNetloc request sessionId clock app).2.banStore := by
  cases hread : request.credentials? with
  | none =>
      simp only [post, App.attempt?, hread]
      exact .unread
  | some credentials =>
      obtain ⟨username, password⟩ := credentials
      simp only [post, App.attempt?, hread]
      split
      · exact .unverified username
      · next hpass =>
          rw [Bool.not_eq_true] at hpass
          cases app.passwordStore.verify username password with
          | none => exact .unverified username
          | some verified =>
              cases verified with
              | false => exact .failed username hpass
              | true => exact .succeeded username

end Runs

/-! ### The invariant -/

variable {window : Set ℚ} {ip : String} {k : Nat} {t t' : ℚ} {s s' : BanStore}

/-- Among the failures are `k` that were recorded after some time of the window. -/
def Counted (window : Set ℚ) (k : Nat) (failures : List ℚ) : Prop :=
  ∃ counted : List ℚ, counted.length = k ∧ counted.Sublist failures ∧
    ∀ f ∈ counted, ∃ τ ∈ window, τ ≤ f

/-- The state of the store at `t` when `k` verifications for the IP have failed in the window. -/
inductive Bounded (window : Set ℚ) (ip : String) (k : Nat) (t : ℚ) (s : BanStore) : Prop
  /-- None has failed yet. -/
  | zero (hk : k = 0)
  /-- The failures of the window are counted, and too few for a ban. -/
  | counting (hk : k < loginFailureLimit) (hbegun : ∃ τ ∈ window, τ ≤ t)
      (hcounted : Counted window k (s.failures .login ip))
  /-- The IP is banned until after the window. -/
  | banned (hk : k ≤ loginFailureLimit) (hbegun : ∃ τ ∈ window, τ ≤ t) (ban : Ban)
      (hget : s.bans.get? ip = some ban) (hlong : ∀ τ ∈ window, (τ : WithTop ℚ) < ban.expiresAt)
  /-- The window is over. -/
  | past (hk : k ≤ loginFailureLimit) (hover : ∀ τ ∈ window, τ < t)

theorem Bounded.le (h : Bounded window ip k t s) : k ≤ loginFailureLimit := by
  cases h with
  | zero hk => exact hk ▸ Nat.zero_le _
  | counting hk => exact hk.le
  | banned hk => exact hk
  | past hk => exact hk

/-- The window has no two times as far apart as failures are remembered. -/
def Narrow (window : Set ℚ) : Prop :=
  ∀ τ ∈ window, ∀ τ' ∈ window, τ' - τ < appConfig.failureWindowSeconds

/-- Until the window is over, the failures of the window stay counted. -/
theorem Counted.recent {failures : List ℚ} (hnarrow : Narrow window)
    (h : Counted window k failures) (hopen : ∃ τ ∈ window, t ≤ τ) :
    Counted window k (recentFailures appConfig t failures) := by
  obtain ⟨counted, hlen, hsub, hlate⟩ := h
  obtain ⟨τ', hτ', ht⟩ := hopen
  -- each was recorded less than a window before `τ'`, and it is not later than that now
  have hall : counted.filter (fun f => t - appConfig.failureWindowSeconds < f) = counted := by
    refine List.filter_eq_self.mpr fun f hf => decide_eq_true ?_
    obtain ⟨τ, hτ, hle⟩ := hlate f hf
    have := hnarrow τ hτ τ' hτ'
    linarith
  exact ⟨counted, hlen, hall ▸ hsub.filter _, hlate⟩

/-- A step that drops no ban in force and no recent failure of the IP. -/
structure Keeps (ip : String) (t : ℚ) (s s' : BanStore) : Prop where
  ban : ∀ ban, s.bans.get? ip = some ban → ↑t < ban.expiresAt → s'.bans.get? ip = some ban
  failures : (recentFailures appConfig t (s.failures .login ip)).Sublist (s'.failures .login ip)

theorem Keeps.of_eq (hbans : s'.bans.get? ip = s.bans.get? ip)
    (hfailures : s'.failures .login ip = s.failures .login ip) : Keeps ip t s s' where
  ban _ hget _ := hbans.trans hget
  failures := by
    rw [hfailures]
    exact List.filter_sublist

theorem Bounded.keep (hnarrow : Narrow window) (h : Bounded window ip k t s) (ht : t ≤ t')
    (hkeeps : Keeps ip t' s s') : Bounded window ip k t' s' := by
  cases h with
  | zero hk => exact .zero hk
  | counting hk hbegun hcounted =>
      obtain ⟨τ, hτ, hle⟩ := hbegun
      by_cases hover : ∀ τ ∈ window, τ < t'
      · exact .past hk.le hover
      · push Not at hover
        obtain ⟨counted, hlen, hsub, hlate⟩ := hcounted.recent hnarrow hover
        exact .counting hk ⟨τ, hτ, hle.trans ht⟩ ⟨counted, hlen, hsub.trans hkeeps.failures, hlate⟩
  | banned hk hbegun ban hget hlong =>
      obtain ⟨τ, hτ, hle⟩ := hbegun
      by_cases hexp : (t' : WithTop ℚ) < ban.expiresAt
      · exact .banned hk ⟨τ, hτ, hle.trans ht⟩ ban (hkeeps.ban ban hget hexp) hlong
      · exact .past hk fun τ' hτ' =>
          WithTop.coe_lt_coe.mp ((hlong τ' hτ').trans_le (not_lt.mp hexp))
  | past hk hover => exact .past hk fun τ hτ => (hover τ hτ).trans_le ht

/-- A ban that starts after some time of the window lasts until the window is over. -/
theorem newBan_outlasts (hnarrow : Narrow window) (hbegun : ∃ τ ∈ window, τ ≤ t)
    (client : Option AccessLogClient) :
    ∀ τ ∈ window, (τ : WithTop ℚ) < (BanStore.newBan appConfig ip client t).expiresAt := by
  intro τ' hτ'
  obtain ⟨τ, hτ, hle⟩ := hbegun
  have hlt := hnarrow τ hτ τ' hτ'
  have httl : appConfig.failureWindowSeconds ≤ appConfig.banTtlSeconds := by decide +kernel
  exact WithTop.coe_lt_coe.mpr (by linarith)

theorem Bounded.ban (hnarrow : Narrow window) (h : Bounded window ip k t s) (ht : t ≤ t')
    {client : Option AccessLogClient}
    (hget : s'.bans.get? ip = some (BanStore.newBan appConfig ip client t')) :
    Bounded window ip k t' s' := by
  have hbanned : k ≤ loginFailureLimit → (∃ τ ∈ window, τ ≤ t) → Bounded window ip k t' s' := by
    intro hk ⟨τ, hτ, hle⟩
    have hbegun : ∃ τ ∈ window, τ ≤ t' := ⟨τ, hτ, hle.trans ht⟩
    exact .banned hk hbegun _ hget (newBan_outlasts hnarrow hbegun client)
  cases h with
  | zero hk => exact .zero hk
  | counting hk hbegun => exact hbanned hk.le hbegun
  | banned hk hbegun => exact hbanned hk hbegun
  | past hk hover => exact .past hk fun τ hτ => (hover τ hτ).trans_le ht

/-! ### The operations of the store -/

theorem Keeps.isBanned (hs : s.WF) (ip ip' : String) (t : ℚ) :
    Keeps ip t s (BanStore.isBanned ip' t s).2 := by
  rcases BanStore.isBanned_cases hs ip' t with ⟨-, heq⟩ | ⟨hban, s₁, heq, -, hbans, hfail⟩
  · rw [heq]
    exact Keeps.of_eq rfl rfl
  · rw [heq]
    refine ⟨?_, ?_⟩
    · intro ban hget hlt
      rw [Dict.ext hbans, Dict.get?_erase, if_neg, hget]
      intro hip
      exact hban ⟨ban, hip ▸ hget, hlt⟩
    · rw [hfail]
      exact List.filter_sublist

theorem Keeps.cleanupExpired (hs : s.WF) (ip : String) (t : ℚ) :
    Keeps ip t s (BanStore.cleanupExpired appConfig t s) := by
  obtain ⟨hbans, hfail⟩ := BanStore.cleanupExpired_spec hs appConfig t
  refine ⟨?_, ?_⟩
  · intro ban hget hlt
    rw [← Dict.mem_entries_iff, hbans]
    exact List.mem_filter.mpr ⟨Dict.mem_entries_iff.mpr hget, decide_eq_true hlt⟩
  · rw [hfail]

/-- The ban that `_record_failure` starts. -/
theorem get?_of_entries_append {bans : Dict String Ban} {ip : String} {ban : Ban}
    (hbans : s'.bans.entries = (bans.erase ip).entries ++ [(ip, ban)]) (ip' : String) :
    s'.bans.get? ip' = if ip' = ip then some ban else bans.get? ip' := by
  refine Option.ext ?_
  intro ban'
  rw [← Dict.mem_entries_iff, hbans, List.mem_append, Dict.mem_entries_iff, Dict.get?_erase]
  by_cases hip : ip' = ip
  · simp [hip, eq_comm]
  · simp [hip]

/-- A recorded failure that is not a failing verification of the window. -/
theorem Bounded.recordFailure (hnarrow : Narrow window) (hs : s.WF) (h : Bounded window ip k t s)
    {t₁ t₂ : ℚ} (ht : t ≤ t₂) (h₁₂ : t₁ ≤ t₂) (type : FailureType) (ip' : String)
    (client : Option AccessLogClient) :
    Bounded window ip k t₂
      (BanStore.recordFailure appConfig type ip' type.limit client t₁ t₂ s) := by
  generalize hs' : BanStore.recordFailure appConfig type ip' type.limit client t₁ t₂ s = s'
  rcases hs' ▸ BanStore.recordFailure_cases hs appConfig type ip' type.limit client t₁ t₂ with
    ⟨-, rfl⟩ | ⟨hban, -, hbans, hfail⟩ | ⟨hban, -, hbans, hfail⟩
  · exact h.keep hnarrow ht (Keeps.of_eq rfl rfl)
  · have hget := get?_of_entries_append hbans
    by_cases hip : ip = ip'
    · subst hip
      exact h.ban hnarrow ht ((hget ip).trans (if_pos rfl))
    · refine h.keep hnarrow ht (Keeps.of_eq ?_ ?_)
      · rw [hget, if_neg hip]
      · rw [hfail, if_neg hip]
  · refine h.keep hnarrow ht ⟨?_, ?_⟩
    · intro ban hget hlt
      rw [Dict.ext hbans, Dict.get?_erase, if_neg, hget]
      intro hip
      exact hban ⟨ban, hip ▸ hget, (WithTop.coe_le_coe.mpr h₁₂).trans_lt hlt⟩
    · rw [hfail]
      split
      · next heq =>
          rw [← heq.1, ← heq.2]
          exact List.sublist_append_left _ _
      · exact List.filter_sublist

/-- One more failing verification, made at `τ` while the IP has no ban. -/
theorem Bounded.fail (hnarrow : Narrow window) (hs : s.WF) (h : Bounded window ip k t s)
    (hnone : s.bans.get? ip = none) {τ t₁ t₂ : ℚ} (hτ : τ ∈ window) (ht : t ≤ τ) (hτ₂ : τ ≤ t₂)
    (client : Option AccessLogClient) :
    Bounded window ip (k + 1) t₂ (BanStore.recordFailure appConfig .login ip
      FailureType.login.limit client t₁ t₂ s) := by
  -- a banned IP does not come this far, and at `τ` the window is not over
  have hstate : k < loginFailureLimit ∧ Counted window k (s.failures .login ip) := by
    cases h with
    | zero hk =>
        subst hk
        exact ⟨by decide, [], rfl, List.nil_sublist _, by simp⟩
    | counting hk hbegun hcounted => exact ⟨hk, hcounted⟩
    | banned hk hbegun ban hget hlong =>
        rw [hnone] at hget
        cases hget
    | past hk hover => exact absurd (hover τ hτ) (not_lt.mpr ht)
  obtain ⟨hk, hcounted⟩ := hstate
  have hbegun : ∃ τ ∈ window, τ ≤ t₂ := ⟨τ, hτ, hτ₂⟩
  generalize hs' : BanStore.recordFailure appConfig .login ip FailureType.login.limit client t₁ t₂ s
    = s'
  rcases hs' ▸ BanStore.recordFailure_cases hs appConfig .login ip FailureType.login.limit client
    t₁ t₂ with ⟨⟨ban, hget, -⟩, -⟩ | ⟨-, -, hbans, -⟩ | ⟨-, hlim, -, hfail⟩
  · rw [hnone] at hget
    cases hget
  · have hget := (get?_of_entries_append hbans ip).trans (if_pos rfl)
    exact .banned hk hbegun _ hget (newBan_outlasts hnarrow hbegun client)
  · -- no ban starts, so this failure and the counted ones are still below the limit
    by_cases hover : ∀ τ ∈ window, τ < t₂
    · exact .past hk hover
    · push Not at hover
      obtain ⟨counted, rfl, hsub, hlate⟩ := hcounted.recent hnarrow hover
      have hsub' := hsub.append (List.Sublist.refl [t₂])
      have hlen : counted.length + 1 < loginFailureLimit := by
        refine lt_of_le_of_lt ?_ hlim
        simpa using hsub'.length_le
      refine .counting hlen hbegun ⟨counted ++ [t₂], by simp, ?_, ?_⟩
      · rw [hfail, if_pos ⟨rfl, rfl⟩]
        exact hsub'
      · exact List.forall_mem_append.mpr ⟨hlate, by simpa using hbegun⟩

/-- A success that is not in the window: either the window has not begun, or it is over. -/
theorem Bounded.recordSuccess (hconnected : window.OrdConnected) (h : Bounded window ip k t s)
    {τ : ℚ} (hτ : τ ∉ window) (ht : t ≤ τ) :
    Bounded window ip k τ (s.recordSuccess ip) := by
  have hover : (∃ τ ∈ window, τ ≤ t) → ∀ τ' ∈ window, τ' < τ := by
    intro ⟨τ₀, hτ₀, hle⟩ τ' hτ'
    by_contra hnot
    exact hτ (hconnected.out hτ₀ hτ' ⟨hle.trans ht, not_lt.mp hnot⟩)
  cases h with
  | zero hk => exact .zero hk
  | counting hk hbegun => exact .past hk.le (hover hbegun)
  | banned hk hbegun => exact .past hk (hover hbegun)
  | past hk hover' => exact .past hk fun τ' hτ' => (hover' τ' hτ').trans_le ht

/-! ### The application -/

/-- The ban store of the application, when `k` verifications for the IP have failed. -/
structure Guarded (window : Set ℚ) (ip : String) (k : Nat) (t : ℚ) (app : App) : Prop where
  wf : app.banStore.attrs.WF
  bounded : Bounded window ip k t app.banStore.attrs

variable [DecidablePred (· ∈ window)] {app : App}

/-- A failing verification for the IP in the window. -/
def countedAttempt (window : Set ℚ) [DecidablePred (· ∈ window)] (ip : String) (a : Attempt) :
    Bool := a.failed && a.ip = ip && a.time ∈ window

/-- The gate of `post` lets a request through only if its IP has no ban left. -/
theorem isBanned_attrs_cases (hs : app.banStore.attrs.WF) (ip : String) (t : ℚ) :
    let gate := BanStore.isBanned ip t app.banStore
    gate.2.attrs.WF ∧ gate.2.attrs = (BanStore.isBanned ip t app.banStore.attrs).2 ∧
      (gate.1 = false → gate.2.attrs.bans.get? ip = none) := by
  have hattrs : BanStore.isBanned ip t app.banStore.attrs =
      ((BanStore.isBanned ip t app.banStore).1, (BanStore.isBanned ip t app.banStore).2.attrs) :=
    BanStore.isBanned_attrs ip t app.banStore
  dsimp only
  rcases BanStore.isBanned_cases hs ip t with ⟨-, heq⟩ | ⟨-, s₁, heq, hwf, hbans, -⟩
  · obtain ⟨h₁, h₂⟩ := Prod.mk.inj (heq.symm.trans hattrs)
    refine ⟨h₂ ▸ hs, by rw [hattrs], ?_⟩
    intro h
    rw [← h₁] at h
    cases h
  · obtain ⟨h₁, h₂⟩ := Prod.mk.inj (heq.symm.trans hattrs)
    refine ⟨h₂ ▸ hwf, by rw [hattrs], ?_⟩
    intro _
    rw [← h₂, Dict.ext hbans, Dict.get?_erase_self]

variable (checkNetloc : Text → Bool)

/-- A login request counts at most its own failing verification. -/
theorem Guarded.post (hconnected : window.OrdConnected) (hnarrow : Narrow window)
    (h : Guarded window ip k t app) {request : PostRequest} {clock : PostClock}
    (ht : t ≤ clock.gate) (hgate : clock.gate ≤ clock.verify)
    (hverify : clock.verify ≤ clock.failureGate) (hfailure : clock.failureGate ≤ clock.failure)
    {attempt? : Option Attempt} {store : PersistentBanStore}
    (houtcome : PostOutcome request clock app
      (BanStore.isBanned request.clientIp clock.gate app.banStore) attempt? store)
    (hquiet : ∀ a, attempt? = some a → a.ip = ip → a.time ∈ window → a.succeeded = false) :
    store.attrs.WF ∧ Bounded window ip (k + attempt?.toList.countP (countedAttempt window ip))
      clock.failure store.attrs := by
  obtain ⟨hwf, hattrs, hnone⟩ := isBanned_attrs_cases h.wf request.clientIp clock.gate
  have hopened := h.bounded.keep hnarrow ht (Keeps.isBanned h.wf ip request.clientIp clock.gate)
  rw [← hattrs] at hopened
  have hgf : clock.gate ≤ clock.failure := hgate.trans (hverify.trans hfailure)
  have hstay := hopened.keep hnarrow hgf (Keeps.of_eq rfl rfl)
  cases houtcome with
  | unread =>
      have hkept : Keeps ip clock.failure app.banStore.attrs app.banStore.attrs := .of_eq rfl rfl
      exact ⟨h.wf, h.bounded.keep hnarrow (ht.trans hgf) hkept⟩
  | unverified => exact ⟨hwf, hstay⟩
  | failed username hpass =>
      rw [PersistentBanStore.recordFailure_attrs, Option.toList_some, List.countP_singleton]
      refine ⟨hwf.recordFailure .., ?_⟩
      split
      · next hcounted =>
          obtain ⟨hip, hmem⟩ := Bool.and_eq_true_iff.mp hcounted
          obtain rfl : request.clientIp = ip := of_decide_eq_true hip
          exact hopened.fail hnarrow hwf (hnone hpass) (of_decide_eq_true hmem) hgate
            (hverify.trans hfailure) _
      · exact hopened.recordFailure hnarrow hwf hgf hfailure .login _ _
  | succeeded =>
      refine ⟨hwf.recordSuccess _, ?_⟩
      show Bounded window ip k clock.failure (BanStore.recordSuccess request.clientIp _)
      by_cases hip : request.clientIp = ip
      · -- this clears the counter of the IP, but not inside the window
        subst hip
        have hout : clock.verify ∉ window := fun hmem => Bool.noConfusion (hquiet _ rfl rfl hmem)
        exact (hopened.recordSuccess hconnected hout hgate).keep hnarrow (hverify.trans hfailure)
          (Keeps.of_eq rfl rfl)
      · refine hstay.keep hnarrow le_rfl (Keeps.of_eq rfl ?_)
        rw [BanStore.failures_recordSuccess, if_neg fun h' => hip h'.2.symm]

/-- The last reading of an event. -/
def Event.finish : Event → ℚ
  | .post _ _ clock => clock.failure
  | .authFailure _ _ _ now => now
  | .isBanned _ t => t
  | .activeBans t => t
  | .cleanupExpired t => t

theorem Event.finish_mem (e : Event) : e.finish ∈ e.readings := by
  cases e <;> simp [Event.finish, Event.readings]

omit [DecidablePred (· ∈ window)] in
/-- Expired bans are removed. -/
theorem Guarded.cleanupExpired (hnarrow : Narrow window) (h : Guarded window ip k t app) {t' : ℚ}
    (ht : t ≤ t') : Guarded window ip k t'
      { app with banStore := app.banStore.cleanupExpired appConfig t' } := by
  have hattrs := PersistentBanStore.cleanupExpired_attrs appConfig t' app.banStore
  refine ⟨hattrs ▸ h.wf.cleanupExpired appConfig t', ?_⟩
  show Bounded window ip k t' (app.banStore.cleanupExpired appConfig t').attrs
  rw [hattrs]
  exact h.bounded.keep hnarrow ht (Keeps.cleanupExpired h.wf ip t')

/-- An event counts at most its own failing verification. -/
theorem Guarded.perform (hconnected : window.OrdConnected) (hnarrow : Narrow window)
    (h : Guarded window ip k t app) {e : Event} (hsorted : e.readings.Pairwise (· ≤ ·))
    (ht : ∀ r ∈ e.readings, t ≤ r)
    (hquiet : ∀ a, app.attempt? e = some a → a.ip = ip → a.time ∈ window →
      a.succeeded = false) :
    Guarded window ip (k + (app.attempt? e).toList.countP (countedAttempt window ip))
      e.finish (app.perform checkNetloc e) := by
  cases e with
  | post request sessionId clock =>
      simp only [Event.readings, List.pairwise_cons, List.mem_cons, forall_eq_or_imp] at hsorted ht
      have houtcome := post_outcome checkNetloc request sessionId clock app
      obtain ⟨hwf, hbounded⟩ := h.post hconnected hnarrow ht.1 hsorted.1.1 hsorted.2.1.1
        hsorted.2.2.1.1 houtcome hquiet
      exact ⟨hwf, hbounded⟩
  | authFailure ip' client t₁ t₂ =>
      simp only [Event.readings, List.pairwise_cons, List.mem_cons, forall_eq_or_imp] at hsorted ht
      have hattrs := PersistentBanStore.recordFailure_attrs appConfig .auth ip'
        FailureType.auth.limit client t₁ t₂ app.banStore
      refine ⟨by rw [App.perform, hattrs]; exact h.wf.recordFailure .., ?_⟩
      rw [App.perform, hattrs]
      exact h.bounded.recordFailure hnarrow h.wf ht.2.1 hsorted.1.1 .auth ip' client
  | isBanned ip' t' =>
      obtain ⟨hwf, hattrs, -⟩ := isBanned_attrs_cases h.wf ip' t'
      refine ⟨hwf, ?_⟩
      show Bounded window ip k t' (BanStore.isBanned ip' t' app.banStore).2.attrs
      rw [hattrs]
      exact h.bounded.keep hnarrow (ht t' (by simp [Event.readings])) (Keeps.isBanned h.wf ip ip' t')
  | activeBans t' => exact h.cleanupExpired hnarrow (ht t' (by simp [Event.readings]))
  | cleanupExpired t' => exact h.cleanupExpired hnarrow (ht t' (by simp [Event.readings]))

/-- The times of a run never decrease. -/
def ClockOrdered (events : List Event) : Prop :=
  (events.flatMap Event.readings).Pairwise (· ≤ ·)

instance (events : List Event) : Decidable (ClockOrdered events) :=
  inferInstanceAs (Decidable (List.Pairwise _ _))

/-- In a run, the failing verifications of a window stay within the limit. -/
theorem Guarded.run (hconnected : window.OrdConnected) (hnarrow : Narrow window)
    (h : Guarded window ip k t app) {events : List Event} (hclock : ClockOrdered events)
    (ht : ∀ e ∈ events, ∀ r ∈ e.readings, t ≤ r)
    (hquiet : ∀ a ∈ attempts checkNetloc app events, a.ip = ip → a.time ∈ window →
      a.succeeded = false) :
    k + (attempts checkNetloc app events).countP (countedAttempt window ip) ≤ loginFailureLimit := by
  induction events generalizing k t app with
  | nil => exact h.bounded.le
  | cons e events ih =>
      rw [ClockOrdered, List.flatMap_cons, List.pairwise_append] at hclock
      obtain ⟨hsorted, hclock, hlater⟩ := hclock
      rw [attempts] at hquiet ⊢
      have hstep := h.perform checkNetloc hconnected hnarrow hsorted
        (fun r hr => ht e List.mem_cons_self r hr)
        (fun a ha => hquiet a (List.mem_append_left _ (by rw [ha]; exact List.mem_singleton_self a)))
      rw [List.countP_append, ← Nat.add_assoc]
      refine ih hstep hclock (fun e' he' r hr => ?_) fun a ha =>
        hquiet a (List.mem_append_right _ ha)
      exact hlater e.finish e.finish_mem r (List.mem_flatMap.mpr ⟨e', he', hr⟩)

/-! ### The bound -/

end PxManager.Login
