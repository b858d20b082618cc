import PxManager.Health.NoLeak

/-!
# PxManager.Health.Classification

A classification by Yandex is never attributed to another exit address.

Yandex classifies whoever asks, so `yandex_check` finds out the exit address of its proxy first. Its
result is shared by `cached_check` with all who have this address, whatever their proxies. The run
behind a result is that of the task behind it, and it belongs to the request that has started the
task, not to those which join it.
-/

namespace PxManager.Health.Requests

open PxManager.Core

/-- A verified run for the address has returned the result. It may have been cached since. -/
def ClassifiedBy (log : List Probe) (s : State) (ip : String) (result : Reputation.Result) :
    Prop :=
  ∃ i run key loaded time, s.runs i = some run ∧ run.ip = ip ∧ run.Verified log i ∧
    s.reputation.Finished i key (.result loaded) time ∧ key.provider = "yandex" ∧ key.ip = ip ∧
    (result = loaded ∨ result = loaded.set "cached" (.bool true))

/-- The identity is one for the host and the user: the request has got the address from an endpoint
itself, or it has read a fresh result of such a check from the cache. -/
def IdentityFor (log : List Probe) (s : State) (id : Nat) (route : Route) (ip : String)
    (identity : Identity) : Prop :=
  (identity.cachedAt = none ∧ ⟨.request id, route, ip⟩ ∈ log) ∨
    ∃ now user time, identity.cachedAt = some now ∧
      .computed user (.proxyRequest route.host route.username) identity.result time ∈
        s.cache.history ∧ time ≤ now ∧ now - time < healthCacheTtlSeconds

/-- What holds of the reputation results in every state of every run. -/
structure Attributed (log : List Probe) (s : State) : Prop where
  /-- Whoever gets a result with status ok for an address gets that of a run which has verified this
  address through its own route before it has asked Yandex through the same route. -/
  delivered : ∀ caller c result, s.reputation.callers caller = some c →
    c.key.provider = "yandex" → c.result? = some result → Reputation.isOk result = true →
      ClassifiedBy log s c.key.ip result
  /-- A response is for the address that was asked for, and this is the exit address of an identity
  for the host and the user. -/
  identity : ∀ id route handler ip identity results,
    s.requests id = some (.accepted route handler (.reported ip identity results)) →
      handler = .reputation ip ∧ isTrue identity.result "ok" = true ∧
      identity.result.get? "exit_ip" = some (.str ip) ∧ IdentityFor log s id route ip identity
  /-- And if Yandex has classified anything in it, then this address. -/
  reported : ∀ id route handler ip identity results,
    s.requests id = some (.accepted route handler (.reported ip identity results)) →
      ∀ result, ("yandex", result) ∈ results → Reputation.isOk result = true →
        ∃ name loaded, result = named "yandex" name loaded ∧ ClassifiedBy log s ip loaded

variable {py : Builtins} {keys : String → List CodePoint} {log : List Probe} {s : State}

/-- What a call for Yandex has returned comes from the run of the task behind it. -/
theorem Inv.classifiedBy (h : Inv py keys log s) {caller : Nat} {c : Reputation.Caller}
    {result : Reputation.Result} (hc : s.reputation.callers caller = some c)
    (hprovider : c.key.provider = "yandex") (hresult : c.result? = some result)
    (hok : Reputation.isOk result = true) : ClassifiedBy log s c.key.ip result := by
  obtain ⟨i, loaded, time, hfinished, hloaded, heq⟩ :=
    (h.reputation.callers caller c hc).result hresult hok
  obtain ⟨task, htask, hkey, houtcome⟩ := hfinished
  obtain ⟨run, hi⟩ := h.task_run i task htask (hkey ▸ hprovider)
  obtain ⟨task', htask', hkey', hverified⟩ := (h.run i run hi).task
  obtain rfl := Option.some.inj (htask.symm.trans htask')
  have hip : run.ip = c.key.ip := by rw [← hkey, hkey']
  exact ⟨i, run, c.key, loaded, time, hi, hip, hverified loaded time houtcome hloaded,
    ⟨task, htask, hkey, houtcome⟩, hprovider, rfl, heq⟩

theorem IdentityOk.identityFor (h : Inv py keys log s) {id : Nat} {route : Route} {ip : String}
    {identity : Identity} (hidentity : IdentityOk log s.cache.history id route ip identity) :
    IdentityFor log s id route ip identity := by
  cases hcached : identity.cachedAt with
  | none => exact .inl ⟨hcached, hidentity.probed hcached⟩
  | some now =>
      obtain ⟨before, after, hsplit⟩ := List.append_of_mem (hidentity.served now hcached)
      obtain ⟨user, time, hcomputed, hle, hfresh⟩ :=
        h.cache.served before after _ _ identity.result now hsplit
      refine .inr ⟨now, user, time, hcached, ?_, hle, ?_⟩
      · rw [hsplit]
        exact List.mem_append_left _ hcomputed
      · simpa [ttl, Subject.key] using hfresh

theorem Inv.attributed (h : Inv py keys log s) : Attributed log s where
  delivered caller c result hc hprovider hresult hok := h.classifiedBy hc hprovider hresult hok
  identity id route handler ip identity results hrequest := by
    obtain ⟨hhandler, hidentity, -⟩ := h.request id route handler _ hrequest
    exact ⟨hhandler, hidentity.ok, hidentity.exit_ip, hidentity.identityFor h⟩
  reported id route handler ip identity results hrequest result hmem hok := by
    obtain ⟨-, -, hentries⟩ := h.request id route handler _ hrequest
    obtain ⟨caller, c, loaded, name, hc, hkey, hloaded, heq⟩ := hentries _ hmem hok
    dsimp only at hkey heq
    rw [heq, isOk_named] at hok
    have hprovider : c.key.provider = "yandex" := by rw [hkey]
    have hclassified := h.classifiedBy hc hprovider hloaded hok
    rw [hkey] at hclassified
    exact ⟨name, loaded, heq, hclassified⟩

/-- **No classification is attributed to another exit address**, whatever the order of the requests
and whatever the proxies do with their exits. -/
theorem classifications_attributed (py : Builtins) (formatHealthError : PyError → String)
    (keys : String → List CodePoint) (clock : ℚ) (actions : List Action) (s : State)
    (hrun : run (step py formatHealthError keys) (State.init clock) actions = some s) :
    Attributed (reports (step py formatHealthError keys) probes (State.init clock) actions) s :=
  (run_inv hrun).attributed

/-- Two proxies. -/
def twoHosts : List HostData :=
  [Dict.set ∅ "host" (.str "one.example"), Dict.set ∅ "host" (.str "two.example")]

/-- Alice and Bob have different proxies with the same exit. The check of Alice is run, and Bob
finds its result in the cache. -/
theorem classifications_attributed_shared :
    let alice := sampleUser "alice" (by decide)
    let bob := sampleUser "bob" (by decide)
    let ip := "192.0.2.1"
    let actions : List Action := [.arrive 0 (.reputation ip) alice twoHosts "one.example" 0,
      .answered 0 (sampleAnswer ip) 1, .answered 0 (sampleAnswer "NL") 2,
      .call 0 "yandex" 0 3, .probed 0 (sampleAnswer ip) 0 4,
      .classified 0 (.responded (some "1")) 0 5, .other (.clear 0), .other (.deliver 0),
      .arrive 1 (.reputation ip) bob twoHosts "two.example" 6,
      .answered 1 (sampleAnswer ip) 7, .answered 1 (sampleAnswer "NL") 8, .call 1 "yandex" 1 9]
    let machine := step asciiBuiltins (fun _ => "") (fun _ => [])
    ∃ s, run machine (State.init 0) actions = some s ∧
      ((s.reputation.callers 1).bind Reputation.Caller.result?).map Reputation.isOk = some true ∧
      Attributed (reports machine probes (State.init 0) actions) s := by
  intro alice bob ip actions machine
  have hok : (run machine (State.init 0) actions).map
      (fun s => ((s.reputation.callers 1).bind Reputation.Caller.result?).map Reputation.isOk) =
        some (some true) := by
    decide +kernel
  obtain ⟨s, hrun, hok⟩ := Option.map_eq_some_iff.mp hok
  exact ⟨s, hrun, hok,
    classifications_attributed asciiBuiltins (fun _ => "") (fun _ => []) 0 actions s hrun⟩

end PxManager.Health.Requests
