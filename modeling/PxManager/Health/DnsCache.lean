import PxManager.Health.Dns
import PxManager.Reputation.Lru

/-!
# PxManager.Health.DnsCache

What `DNS_RESULT_CACHE` and `CACHE` have in common, and where the cached DNS answers come from.
-/

namespace PxManager.Health.Dns

open PxManager.Core

variable {lower : Text → Text} {s s' : State}

/-! ### Cached answers -/

/-- A call has received the answer from the resolver at the time. -/
def Obtained (lower : Text → Text) (s : State) (key : DnsKey) (result : DnsResult) (time : ℚ) :
    Prop :=
  ∃ call host resolver, s.calls call = some (.answered host resolver result time) ∧
    dnsKey lower host resolver = key

/-- The invariant of the cached answers. -/
structure Inv (lower : Text → Text) (s : State) : Prop where
  /-- A cached answer was obtained an hour before it expires. -/
  entry : ∀ key expires result, s.cache.get? key = some (expires, result) →
    result.ok = true ∧ ∃ time, Obtained lower s key result time ∧ time ≤ s.clock ∧
      expires = time + dnsCacheTtlSeconds
  /-- An answer that was served from the cache was obtained less than an hour before. -/
  served : ∀ call host resolver result now, s.calls call = some (.hit host resolver result now) →
    ∃ time, Obtained lower s (dnsKey lower host resolver) result time ∧ time ≤ now ∧
      now - time < dnsCacheTtlSeconds

theorem Inv.init (clock : ℚ) : Inv lower (State.init clock) where
  entry key expires result h := by cases h
  served call host resolver result now h := by cases h

/-- A call that is not over yet, or has not begun. -/
def Open (s : State) (call : Nat) : Prop :=
  s.calls call = none ∨ ∃ host resolver, s.calls call = some (.resolving host resolver)

theorem setCall_other (s : State) {call call' : Nat} (h : call' ≠ call) (c : Call) :
    (s.setCall call c).calls call' = s.calls call' := Function.update_of_ne h ..

/-- What has been obtained stays obtained. -/
theorem Obtained.setCall {key : DnsKey} {result : DnsResult} {time : ℚ} {call : Nat}
    (hopen : Open s call) (h : Obtained lower s key result time) (c : Call) :
    Obtained lower (s.setCall call c) key result time := by
  obtain ⟨call', host, resolver, hcall, hkey⟩ := h
  have hne : call' ≠ call := by
    rintro rfl
    rcases hopen with hnone | ⟨host', resolver', hresolving⟩
    · rw [hnone] at hcall
      cases hcall
    · rw [hresolving] at hcall
      cases hcall
  exact ⟨call', host, resolver, (setCall_other s hne c).trans hcall, hkey⟩

/-- One call goes on. Every cached answer was cached before, or is the one that the call has just
received. -/
theorem Inv.advance (h : Inv lower s) {call : Nat} (hopen : Open s call) {c : Call}
    {cache : Dict DnsKey (ℚ × DnsResult)} {now : ℚ} (hnow : s.clock ≤ now)
    (hcache : ∀ key expires result, cache.get? key = some (expires, result) →
      s.cache.get? key = some (expires, result) ∨ result.ok = true ∧ ∃ host resolver,
        c = .answered host resolver result now ∧ dnsKey lower host resolver = key ∧
        expires = now + dnsCacheTtlSeconds)
    (hserved : ∀ host resolver result now, c = .hit host resolver result now →
      ∃ time, Obtained lower s (dnsKey lower host resolver) result time ∧ time ≤ now ∧
        now - time < dnsCacheTtlSeconds) :
    Inv lower ({ s with cache, clock := now }.setCall call c) where
  entry key expires result hget := by
    rcases hcache key expires result hget with hold | ⟨hok, host, resolver, rfl, hkey, hexpires⟩
    · obtain ⟨hok, time, hobtained, hle, hexpires⟩ := h.entry key expires result hold
      exact ⟨hok, time, hobtained.setCall hopen c, hle.trans hnow, hexpires⟩
    · exact ⟨hok, now, ⟨call, host, resolver, setCall_calls .., hkey⟩, le_rfl, hexpires⟩
  served call' host resolver result time hcall := by
    by_cases heq : call' = call
    · subst heq
      rw [setCall_calls, Option.some.injEq] at hcall
      obtain ⟨obtainedAt, hobtained, hrest⟩ := hserved host resolver result time hcall
      exact ⟨obtainedAt, hobtained.setCall hopen c, hrest⟩
    · rw [setCall_other _ heq] at hcall
      obtain ⟨obtainedAt, hobtained, hrest⟩ := h.served call' host resolver result time hcall
      exact ⟨obtainedAt, hobtained.setCall hopen c, hrest⟩

theorem Inv.step (h : Inv lower s) {a : Action} (hstep : step lower s a = some s') :
    Inv lower s' := by
  have hchanged : ∀ key entry, s'.cache.get? key = some entry →
      s.cache.get? key = some entry ∨ written lower s a = some (key, entry) :=
    fun key entry => Lru.get?_of_effect (dnsMachine_lawful lower s a s' hstep)
  cases a with
  | lookup call host resolver now =>
      -- a lookup writes nothing
      have hkept : ∀ key expires result, s'.cache.get? key = some (expires, result) →
          s.cache.get? key = some (expires, result) :=
        fun key expires result hget => (hchanged key _ hget).resolve_right (by simp [written])
      obtain ⟨hnone, hnow, ⟨expires, result, hget, hlt, rfl⟩ | ⟨expires, result, hget, hle, rfl⟩ |
        ⟨hget, rfl⟩⟩ := step_lookup hstep
      · refine h.advance (.inl hnone) hnow (fun key e r hr => .inl (hkept key e r hr)) ?_
        rintro host' resolver' result' now' ⟨⟩
        obtain ⟨-, time, hobtained, htime, rfl⟩ := h.entry _ expires result hget
        exact ⟨time, hobtained, htime.trans hnow, sub_lt_iff_lt_add'.mpr hlt⟩
      · exact h.advance (.inl hnone) hnow (fun key e r hr => .inl (hkept key e r hr))
          (fun _ _ _ _ hc => by cases hc)
      · exact h.advance (.inl hnone) hnow (fun key e r hr => .inl (hkept key e r hr))
          (fun _ _ _ _ hc => by cases hc)
  | answer call result now =>
      obtain ⟨host, resolver, hcall, hnow, hcases⟩ := step_answer hstep
      have hopen : Open s call := .inr ⟨host, resolver, hcall⟩
      rcases hcases with ⟨hok, rfl⟩ | ⟨hok, rfl⟩
      · refine h.advance hopen hnow ?_ (fun _ _ _ _ hc => by cases hc)
        intro key expires result' hget
        rcases hchanged key _ hget with hold | hwritten
        · exact .inl hold
        · simp only [written, hcall, hok, if_true, Option.some.injEq,
            Prod.mk.injEq] at hwritten
          obtain ⟨rfl, rfl, rfl⟩ := hwritten
          exact .inr ⟨hok, host, resolver, rfl, rfl, rfl⟩
      · exact h.advance hopen hnow (fun key e r hr => .inl hr) (fun _ _ _ _ hc => by cases hc)
  | fail call =>
      obtain ⟨host, resolver, hcall, rfl⟩ := step_fail hstep
      exact h.advance (.inr ⟨host, resolver, hcall⟩) le_rfl (fun key e r hr => .inl hr)
        (fun _ _ _ _ hc => by cases hc)

/-! ### Both caches -/

/-- What holds of `DNS_RESULT_CACHE`, given the keys that were touched before. -/
structure DnsCacheLaw (lower : Text → Text) (s : State) (touches : List DnsKey) : Prop where
  lru : (dnsMachine lower).Law s touches
  ok : ∀ key expires result, s.cache.get? key = some (expires, result) → result.ok = true
  /-- What is served from the cache was obtained less than an hour before, by a call for the same
  host in lower case and the same resolver. -/
  served : ∀ call host resolver result now, s.calls call = some (.hit host resolver result now) →
    ∃ call' host' time, s.calls call' = some (.answered host' resolver result time) ∧
      lower host' = lower host ∧ time ≤ now ∧ now - time < dnsCacheTtlSeconds
  /-- A read leaves an entry as it is, with its time, or removes it. -/
  reads : ∀ call host resolver now s', step lower s (.lookup call host resolver now) = some s' →
    ∀ key entry, s'.cache.get? key = some entry → s.cache.get? key = some entry

/-- What holds of `CACHE` of `reputation.py`, given the keys that were touched before. -/
structure ReputationCacheLaw (s : Reputation.State) (touches : List Reputation.CacheKey) :
    Prop where
  lru : Reputation.cacheMachine.Law s touches
  ok : ∀ key time result, s.cache.get? key = some (time, result) → Reputation.isOk result = true
  reads : ∀ caller key now s', Reputation.step s (.call caller key now) = some s' →
    ∀ key' entry, s'.cache.get? key' = some entry → s.cache.get? key' = some entry

theorem Inv.law (h : Inv lower s) {touches : List DnsKey}
    (hlru : (dnsMachine lower).Law s touches) : DnsCacheLaw lower s touches where
  lru := hlru
  ok key expires result hget := (h.entry key expires result hget).1
  served call host resolver result now hcall := by
    obtain ⟨time, ⟨call', host', resolver', hcall', hkey⟩, hrest⟩ :=
      h.served call host resolver result now hcall
    simp only [dnsKey, DnsKey.mk.injEq] at hkey
    obtain ⟨hhost, rfl⟩ := hkey
    exact ⟨call', host', time, hcall', hhost, hrest⟩
  reads call host resolver now s' hstep key entry hget :=
    (hlru.changed (.lookup call host resolver now) s' hstep key entry hget).resolve_right
      (by simp [dnsMachine, written])

/-- **Both caches keep the law of an LRU cache with a time limit**, in every state that they reach,
for calls that are interleaved in any order. -/
theorem caches_keep_law (lower : Text → Text) (clock : ℚ) :
    (∀ actions s, run (step lower) (State.init clock) actions = some s →
      DnsCacheLaw lower s (reports (step lower) (touched lower) (State.init clock) actions)) ∧
    (∀ actions s, run Reputation.step (Reputation.State.init clock) actions = some s →
      ReputationCacheLaw s
        (reports Reputation.step Reputation.touched (Reputation.State.init clock) actions)) := by
  constructor
  · intro actions s hrun
    have hinv : Inv lower s := run_induction (fun _ _ _ _ h hstep => h.step hstep)
      (Inv.init clock) hrun
    exact hinv.law ((dnsMachine_lawful lower).law rfl hrun)
  · intro actions s hrun
    have hsound : Reputation.Sound s := run_induction
      (fun _ _ _ _ h hstep => (h.step hstep).1) (Reputation.Sound.init clock) hrun
    have hlru := Reputation.cacheMachine_lawful.law rfl hrun
    exact
      { lru := hlru
        ok := fun key time result hget => (hsound.inv.cache_task key time result hget).2.1
        reads := fun caller key now s' hstep key' entry hget =>
          (hlru.changed (.call caller key now) s' hstep key' entry hget).resolve_right
            (by simp [Reputation.cacheMachine, Reputation.written]) }

/-- Two hosts are looked up, and the first is served from the cache under another spelling. Two
addresses are checked, and the first is served from the cache, which drops neither. -/
theorem caches_keep_law_hit :
    let lower := List.map Char.toLower
    let ok : DnsResult := ⟨true, ["192.0.2.1"], none⟩
    let actions : List Action := [.lookup 0 "A.example".toList .system 0, .answer 0 ok 1,
      .lookup 1 "b.example".toList .system 2, .answer 1 ok 3,
      .lookup 2 "a.example".toList .system 4]
    ∃ s, run (step lower) (State.init 0) actions = some s ∧
      s.cache.keys = [⟨"b.example".toList, .system⟩, ⟨"a.example".toList, .system⟩] ∧
      DnsCacheLaw lower s (reports (step lower) (touched lower) (State.init 0) actions) ∧
    let key : Reputation.CacheKey := ⟨"ipqs", "192.0.2.1", []⟩
    let key' : Reputation.CacheKey := ⟨"ipqs", "192.0.2.2", []⟩
    let check : Reputation.CheckOutcome := .returned (Dict.set ∅ "status" (.str "ok"))
    let checks : List Reputation.Action := [.call 0 key 0, .call 1 key' 0, .finish 0 check 5 1,
      .finish 1 check 5 2, .clear 0, .call 2 key 3]
    ∃ s, run Reputation.step (Reputation.State.init 0) checks = some s ∧
      s.cache.keys = [key', key] ∧
      ReputationCacheLaw s (reports Reputation.step Reputation.touched (.init 0) checks) := by
  intro lower ok actions
  have hkeys : (run (step lower) (State.init 0) actions).map (fun s => s.cache.keys) =
      some [⟨"b.example".toList, .system⟩, ⟨"a.example".toList, .system⟩] := by
    decide +kernel
  obtain ⟨s, hrun, hkeys⟩ := Option.map_eq_some_iff.mp hkeys
  refine ⟨s, hrun, hkeys, (caches_keep_law lower 0).1 actions s hrun, ?_⟩
  intro key key' check checks
  have hkeys' : (run Reputation.step (Reputation.State.init 0) checks).map (fun s => s.cache.keys) =
      some [key', key] := by
    decide +kernel
  obtain ⟨s', hrun', hkeys'⟩ := Option.map_eq_some_iff.mp hkeys'
  exact ⟨s', hrun', hkeys', (caches_keep_law lower 0).2 checks s' hrun'⟩

end PxManager.Health.Dns
