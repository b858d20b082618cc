import PxManager.Health.Steps

/-!
# PxManager.Health.NoLeak

No health result goes from one user or route to another.

Every handler makes the key of a cached result from what the result is about, and no two subjects
have the same key. So a result that is served was computed for the same subject, not longer ago than
the cache keeps it, and both the request that is served and the one that computed it ask about that
subject.
-/

namespace PxManager.Health.Requests

open PxManager.Core

/-- The identity with which `HealthReputationHandler` has gone on. -/
def Stage.identity? : Stage → Option Identity
  | .gathering _ identity _ => some identity
  | .reported _ identity _ => some identity
  | _ => none

/-- What holds of the cache in every state of every run. -/
structure NoLeak (py : Builtins) (s : State) : Prop where
  /-- What is about different things is kept under different keys. -/
  keys : ∀ a b : Subject, a.key = b.key → a = b
  /-- What is served was computed before, for the same subject, and is still fresh. The party to
  which it is served and the one that computed it have the same host in their requests, and where
  the subject has them, the same port and the same user. -/
  served : ∀ before after user subject result now,
    s.cache.history = before ++ .served user subject result now :: after →
      ∃ user' time, .computed user' subject result time ∈ before ∧ time ≤ now ∧
        now - time < ttl subject.key.checkName ∧
        (∃ route, s.routeOf user = some route ∧ route.Concerns py subject) ∧
        ∃ route, s.routeOf user' = some route ∧ route.Concerns py subject
  /-- What a handler answers from the cache was served to it, and is about what it was asked. -/
  answered : ∀ id route handler result time,
    s.requests id = some (.accepted route handler (.answered result (some time))) →
      ∃ subject, handler.Asks py route subject ∧
        .served (.request id) subject result time ∈ s.cache.history
  /-- A cached identity is one for the host and the user of the request. -/
  identity : ∀ id route handler stage identity time,
    s.requests id = some (.accepted route handler stage) → stage.identity? = some identity →
    identity.cachedAt = some time →
      .served (.request id) (.proxyRequest route.host route.username) identity.result time ∈
        s.cache.history
  /-- A check that reads a country from the cache has just got the exit address for which it was
  stored, and returns it with this address. -/
  country : ∀ (user : Party) (route : Route) (check : CheckStage) answer now progress
    (cache : ResultCache Party) subject country, s.clock ≤ now →
    check.resume py user route answer now s.cache = (progress, cache) →
    cache.history = s.cache.history ++ [.served user subject country now] →
      ∃ (port : ℤ) (result : HealthResult) (exitIp : String),
        subject = .country route.host port route.username exitIp ∧
        getHostPort py route.hostData = .ok port ∧ result.get? "exit_ip" = some (.str exitIp) ∧
        progress = .returned (result.update country)

variable {py : Builtins} {keys : String → List CodePoint} {log : List Probe} {s : State}

theorem Inv.noLeak (h : Inv py keys log s) : NoLeak py s where
  keys a b hkey := Subject.key_injective hkey
  served before after user subject result now hsplit := by
    obtain ⟨user', time, hcomputed, hle, hfresh⟩ :=
      h.cache.served before after user subject result now hsplit
    have hserved : .served user subject result now ∈ s.cache.history := by
      rw [hsplit]
      exact List.mem_append_right _ List.mem_cons_self
    have hcomputed' : .computed user' subject result time ∈ s.cache.history := by
      rw [hsplit]
      exact List.mem_append_left _ hcomputed
    exact ⟨user', time, hcomputed, hle, hfresh, h.routed _ hserved, h.routed _ hcomputed'⟩
  answered id route handler result time hrequest := h.request id route handler _ hrequest
  identity id route handler stage identity time hrequest hidentity htime := by
    have hstage := h.request id route handler stage hrequest
    cases stage with
    | gathering ip identity' calls =>
        cases hidentity
        exact hstage.2.1.served time htime
    | reported ip identity' results =>
        cases hidentity
        exact hstage.2.1.served time htime
    | _ => cases hidentity
  country user route check answer now progress cache subject country hnow hresume hserved :=
    CheckStage.country_of_served h.cache hnow hresume hserved

/-- **No health result goes to another user or another route**, whatever the order in which
requests come and go on. -/
theorem health_results_do_not_leak (py : Builtins) (formatHealthError : PyError → String)
    (keys : String → List CodePoint) (clock : ℚ) (actions : List Action) (s : State)
    (hrun : run (step py formatHealthError keys) (State.init clock) actions = some s) :
    NoLeak py s :=
  (run_inv hrun).noLeak

/-- The hosts of the page. -/
def sampleHosts : List HostData := [Dict.set ∅ "host" (.str "proxy.example")]

/-- The credentials of a user. -/
def sampleUser (name : String) (h : '\x00' ∉ name.toList) : Option (Username × Text) :=
  some (⟨name.toList, h⟩, "secret".toList)

/-- An endpoint answers over HTTP/2. -/
def sampleAnswer (value : String) : Answer :=
  .value value 200 ⟨"HTTP/2", .str "TLSv1.3", false⟩

/-- Alice checks a proxy, then Bob does, and then Alice again, who finds her result in the cache.
Bob has to make the check himself. -/
theorem health_results_do_not_leak_twice :
    let alice := sampleUser "alice" (by decide)
    let bob := sampleUser "bob" (by decide)
    let actions : List Action := [.arrive 0 .head alice sampleHosts "proxy.example" 0,
      .answered 0 (sampleAnswer "192.0.2.1") 1, .answered 0 (sampleAnswer "NL") 2,
      .arrive 1 .head bob sampleHosts "proxy.example" 3,
      .arrive 2 .head alice sampleHosts "proxy.example" 4]
    ∃ s, run (step asciiBuiltins (fun _ => "") (fun _ => [])) (State.init 0) actions = some s ∧
      s.cache.history.length = 3 ∧ NoLeak asciiBuiltins s := by
  intro alice bob actions
  have hlength : (run (step asciiBuiltins (fun _ => "") (fun _ => [])) (State.init 0) actions).map
      (fun s => s.cache.history.length) = some 3 := by
    decide +kernel
  obtain ⟨s, hrun, hlength⟩ := Option.map_eq_some_iff.mp hlength
  exact ⟨s, hrun, hlength,
    health_results_do_not_leak asciiBuiltins (fun _ => "") (fun _ => []) 0 actions s hrun⟩

end PxManager.Health.Requests
