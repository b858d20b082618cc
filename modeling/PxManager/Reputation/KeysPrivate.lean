import Mathlib.Logic.Equiv.Basic
import PxManager.Health.Requests
import PxManager.Reputation.Service

/-!
# PxManager.Reputation.KeysPrivate

The API keys do not influence what `get_reputation` returns.

A key is in two places: in the requests to its provider, and in the keys of `CACHE` and `PENDING`.
An answer is parsed without it, and the texts of exceptions, which may contain it, are dropped. The
machine of `cached_check` does not look into its keys, so the runs of two processes with different
API keys are the same up to a renaming of them.

The key of ProxyCheck goes into an URL. If it has a lone surrogate in it, the URL cannot be made,
and the exception for that is not one of those that `check_service` handles. The provider is then
reported as unavailable, whatever it would have answered.
-/

namespace PxManager.Reputation

open PxManager.Core

/-! ### Renaming of keys -/

section Rename

variable (ρ : CacheKey ↪ CacheKey)

/-- A task for the renamed key. -/
def LoadTask.rename (task : LoadTask) : LoadTask := { task with key := ρ task.key }

/-- A call with the renamed key. -/
def Caller.rename : Caller → Caller
  | .waiting key task => .waiting (ρ key) task
  | .hit key result time => .hit (ρ key) result time
  | .received key task outcome => .received (ρ key) task outcome
  | .cancelled key => .cancelled (ρ key)

/-- The state with all keys renamed. -/
def State.rename (s : State) : State where
  cache := s.cache.mapKeys ρ
  pending := s.pending.mapKeys ρ
  tasks := s.tasks.map (LoadTask.rename ρ)
  callers := fun caller => (s.callers caller).map (Caller.rename ρ)
  clock := s.clock

/-- The action with its key renamed. -/
def Action.rename : Action → Action
  | .call caller key now => .call caller (ρ key) now
  | a => a

variable {ρ}

@[simp] theorem Caller.result?_rename (c : Caller) : (c.rename ρ).result? = c.result? := by
  cases c with
  | waiting key task => rfl
  | hit key result time => rfl
  | received key task outcome => cases outcome <;> rfl
  | cancelled key => rfl

theorem State.rename_setCaller (s : State) (caller : Nat) (c : Caller) :
    (s.setCaller caller c).rename ρ = (s.rename ρ).setCaller caller (c.rename ρ) := by
  simp only [State.rename, State.setCaller, State.mk.injEq, true_and, and_true]
  funext caller'
  by_cases h : caller' = caller
  · subst h
    simp
  · simp [h]

theorem State.getElem?_tasks_rename (s : State) (i : Nat) :
    (s.rename ρ).tasks[i]? = s.tasks[i]?.map (LoadTask.rename ρ) := List.getElem?_map

theorem State.outcome_rename (s : State) (i : Nat) :
    (s.rename ρ).tasks[i]?.bind LoadTask.outcome = s.tasks[i]?.bind LoadTask.outcome := by
  rw [State.getElem?_tasks_rename]
  cases s.tasks[i]? <;> rfl

theorem State.rename_await (s : State) (caller : Nat) (key : CacheKey) (i : Nat) :
    (s.await caller key i).rename ρ = (s.rename ρ).await caller (ρ key) i := by
  unfold State.await
  rw [State.outcome_rename]
  cases s.tasks[i]?.bind LoadTask.outcome with
  | none => exact s.rename_setCaller caller _
  | some outcome => exact s.rename_setCaller caller _

theorem State.rename_join (s : State) (caller : Nat) (key : CacheKey) :
    (s.join caller key).rename ρ = (s.rename ρ).join caller (ρ key) := by
  have hpending : (s.rename ρ).pending.get? (ρ key) = s.pending.get? key := Dict.get?_mapKeys
  unfold State.join
  rw [hpending]
  cases s.pending.get? key with
  | some i => exact s.rename_await caller key i
  | none =>
      dsimp only
      rw [State.rename_await]
      simp [State.rename, LoadTask.rename, Dict.mapKeys_set]

theorem State.rename_cachedCheck (s : State) (caller : Nat) (key : CacheKey) (now : ℚ) :
    (s.cachedCheck caller key now).rename ρ = (s.rename ρ).cachedCheck caller (ρ key) now := by
  have hcache : (s.rename ρ).cache.get? (ρ key) = s.cache.get? key := Dict.get?_mapKeys
  unfold State.cachedCheck
  rw [hcache]
  cases s.cache.get? key with
  | none => exact s.rename_join caller key
  | some entry =>
      obtain ⟨time, result⟩ := entry
      dsimp only
      split
      · rw [State.rename_setCaller]
        simp only [State.rename, Dict.mapKeys_moveToEnd]
        rfl
      · rw [State.rename_join]
        simp only [State.rename, Dict.mapKeys_erase]

theorem mapKeys_storeResult (key : CacheKey) (result : Result) (now : ℚ) (cache : Cache) :
    (storeResult key result now cache).mapKeys ρ =
      storeResult (ρ key) result now (cache.mapKeys ρ) := by
  have hlength : ∀ cache : Cache, (cache.mapKeys ρ).entries.length = cache.entries.length :=
    fun cache => List.length_map _
  unfold storeResult
  split
  · rw [Dict.mapKeys_dropOldest, ← hlength, Dict.mapKeys_moveToEnd, Dict.mapKeys_set]
  · rfl

theorem State.rename_finishLoad (s : State) (i : Nat) (task : LoadTask) (check : CheckOutcome)
    (wallTime : ℤ) (now : ℚ) :
    (s.finishLoad i task check wallTime now).rename ρ =
      (s.rename ρ).finishLoad i (task.rename ρ) check wallTime now := by
  unfold State.finishLoad
  cases loadResult wallTime check with
  | none => simp [State.rename, LoadTask.rename, List.map_set]
  | some result =>
      simp [State.rename, LoadTask.rename, List.map_set, mapKeys_storeResult]

/-- The machine of `cached_check` does not look into its keys. -/
theorem step_rename (s : State) (a : Action) :
    step (s.rename ρ) (a.rename ρ) = (step s a).map (State.rename ρ) := by
  have hclock : (s.rename ρ).clock = s.clock := rfl
  have hcallers : ∀ caller, (s.rename ρ).callers caller =
      (s.callers caller).map (Caller.rename ρ) := fun _ => rfl
  cases a with
  | call caller key now =>
      simp only [step, Action.rename, hcallers, hclock]
      cases s.callers caller with
      | some c => rfl
      | none =>
          simp only [Option.map_none]
          split
          · exact congrArg some
              (State.rename_cachedCheck { s with clock := now } caller key now).symm
          · rfl
  | finish i check wallTime now =>
      simp only [step, Action.rename, State.getElem?_tasks_rename, hclock]
      cases s.tasks[i]? with
      | none => rfl
      | some task =>
          simp only [Option.map_some, LoadTask.rename]
          split
          · exact congrArg some (State.rename_finishLoad { s with clock := now } i task check
              wallTime now).symm
          · rfl
  | clear i =>
      simp only [step, Action.rename, State.getElem?_tasks_rename]
      cases s.tasks[i]? with
      | none => rfl
      | some task =>
          simp only [Option.map_some, LoadTask.rename]
          split
          · simp [State.rename, LoadTask.rename, List.map_set, Dict.mapKeys_erase]
          · rfl
  | deliver caller =>
      simp only [step, Action.rename, hcallers]
      cases s.callers caller with
      | none => rfl
      | some c =>
          cases c with
          | waiting key i =>
              simp only [Option.map_some, Caller.rename, State.outcome_rename]
              cases s.tasks[i]?.bind LoadTask.outcome with
              | none => rfl
              | some outcome =>
                  exact congrArg some
                    (State.rename_setCaller s caller (.received key i outcome.1)).symm
          | hit key result time => rfl
          | received key task outcome => rfl
          | cancelled key => rfl
  | cancel caller =>
      simp only [step, Action.rename, hcallers]
      cases s.callers caller with
      | none => rfl
      | some c =>
          cases c with
          | waiting key i =>
              exact congrArg some (State.rename_setCaller s caller (.cancelled key)).symm
          | hit key result time => rfl
          | received key task outcome => rfl
          | cancelled key => rfl

end Rename

/-! ### `check_service` without the key -/

/-- Two clients answer the requests for every address in the same way, up to the texts of
exceptions. -/
def SameUpstream (keys keys' : String → List CodePoint) (client client' : HttpRequest → Fetch) :
    Prop :=
  ∀ provider ip request request', serviceRequest provider ip (keys provider) = some request →
    serviceRequest provider ip (keys' provider) = some request' →
      (client request).behaviour = (client' request').behaviour

/-- The keys of ProxyCheck can both be encoded, or both not. -/
def SameEncoding (keys keys' : String → List CodePoint) : Prop :=
  (scalars? (keys "proxycheck")).isSome = (scalars? ( keys' "proxycheck")).isSome

/-- Whether a request can be made depends on the key of ProxyCheck alone. -/
theorem SameEncoding.isSome_serviceRequest {keys keys' : String → List CodePoint}
    (h : SameEncoding keys keys') (provider ip : String) :
    (serviceRequest provider ip (keys provider)).isSome =
      (serviceRequest provider ip (keys' provider)).isSome := by
  unfold serviceRequest
  dsimp only
  split
  · rfl
  · split
    · rfl
    · split
      · next hprovider =>
          rw [hprovider, Option.isSome_map, Option.isSome_map]
          exact h
      · split
        · rfl
        · split <;> rfl

/-- What `check_service` returns depends on the behaviour of the provider. -/
theorem checkService_eq {ipaddress : Ipaddress} {keys keys' : String → List CodePoint}
    {client client' : HttpRequest → Fetch} (hencoding : SameEncoding keys keys')
    (hupstream : SameUpstream keys keys' client client') (provider ip : String) :
    checkService ipaddress provider ip (keys provider) client =
      checkService ipaddress provider ip (keys' provider) client' := by
  have hsome := hencoding.isSome_serviceRequest provider ip
  unfold checkService
  cases hrequest : serviceRequest provider ip (keys provider) with
  | none =>
      have hrequest' : serviceRequest provider ip (keys' provider) = none := by
        rw [hrequest, Option.isSome_none] at hsome
        exact Option.not_isSome_iff_eq_none.mp (by simp [← hsome])
      rw [hrequest']
  | some request =>
      rw [hrequest, Option.isSome_some] at hsome
      obtain ⟨request', hrequest'⟩ := Option.isSome_iff_exists.mp hsome.symm
      rw [hrequest']
      dsimp only
      rw [← fetchOutcome_behaviour, hupstream provider ip request request' hrequest hrequest',
        fetchOutcome_behaviour]

namespace Lookup

open Health.Requests (providers named unconfigured)
open Health.Requests.State (configured)

/-! ### `get_reputation` -/

/-- How a call of `get_reputation` ends. -/
inductive Answer
  | returned (results : List Result)
  | raised

/-- A call of `get_reputation`. -/
structure Gathering where
  ip : String
  /-- It has a `yandex_check`. -/
  yandex : Bool
  /-- The calls of `cached_check` that have been made. -/
  calls : List (String × Nat)
  answer : Option Answer

structure State where
  service : Reputation.State
  gatherings : Nat → Option Gathering

/-- The process before the first call. -/
def State.init (clock : ℚ) : State := ⟨.init clock, fun _ => none⟩

inductive Action
  /-- `get_reputation` is called. -/
  | get (id : Nat) (ip : String) (yandex : Bool)
  /-- `one(provider)` calls `cached_check`. -/
  | call (id : Nat) (provider : String) (caller : Nat) (now : ℚ)
  /-- `check_service` ends with an answer of the client, and `load` goes on. -/
  | fetched (task : Nat) (client : HttpRequest → Fetch) (wallTime : ℤ) (now : ℚ)
  /-- `yandex_check` ends, and `load` goes on. -/
  | yandexChecked (task : Nat) (check : CheckOutcome) (wallTime : ℤ) (now : ℚ)
  | clear (task : Nat)
  | deliver (caller : Nat)
  | cancel (caller : Nat)
  /-- `asyncio.gather` returns. -/
  | return_ (id : Nat)
  /-- It raises. -/
  | raise (id : Nat)

/-- The providers that are asked. -/
def asked (yandex : Bool) : List (String × String) :=
  providers.filter fun p => p.1 ≠ "yandex" || yandex

namespace State

variable (s : State)

def setGathering (id : Nat) (gathering : Gathering) : State :=
  { s with gatherings := Function.update s.gatherings id (some gathering) }

/-- An action of `cached_check`. -/
def stepService (a : Reputation.Action) : Option State :=
  (Reputation.step s.service a).map fun service => { s with service }

/-- The check of a task ends, if it is one for Yandex or one for another provider. -/
def finish (yandex : Bool) (task : Nat) (check : CacheKey → CheckOutcome) (wallTime : ℤ)
    (now : ℚ) : Option State :=
  match s.service.tasks[task]? with
  | none => none
  | some t =>
      if decide (t.key.provider = "yandex") = yandex then
        s.stepService (.finish task (check t.key) wallTime now)
      else none

/-- What `one(provider)` returns. -/
def result? (keys : String → List CodePoint) (calls : List (String × Nat))
    (provider : String × String) : Option Result :=
  if configured keys provider.1 then do
    let caller ← calls.lookup provider.1
    let c ← s.service.callers caller
    let result ← c.result?
    return named provider.1 provider.2 result
  else some (named provider.1 provider.2 unconfigured)

/-- An exception has reached a call of `cached_check`. -/
def hasRaised (caller : Nat) : Bool :=
  match s.service.callers caller with
  | some (.received _ _ .exception) => true
  | _ => false

end State

/-- One action, if it is possible. -/
def step (ipaddress : Ipaddress) (keys : String → List CodePoint) (s : State) :
    Action → Option State
  | .get id ip yandex =>
      match s.gatherings id with
      | some _ => none
      | none => some (s.setGathering id ⟨ip, yandex, [], none⟩)
  | .call id provider caller now =>
      match s.gatherings id with
      | some g =>
          if provider ∈ (asked g.yandex).map Prod.fst ∧ configured keys provider ∧
              provider ∉ g.calls.map Prod.fst then
            (s.stepService (.call caller ⟨provider, g.ip, keys provider⟩ now)).map fun s =>
              s.setGathering id { g with calls := g.calls ++ [(provider, caller)] }
          else none
      | none => none
  | .fetched task client wallTime now =>
      s.finish false task
        (fun key => checkService ipaddress key.provider key.ip (keys key.provider) client)
        wallTime now
  | .yandexChecked task check wallTime now => s.finish true task (fun _ => check) wallTime now
  | .clear task => s.stepService (.clear task)
  | .deliver caller => s.stepService (.deliver caller)
  | .cancel caller => s.stepService (.cancel caller)
  | .return_ id =>
      match s.gatherings id with
      | some g =>
          if g.answer.isSome then none
          else ((asked g.yandex).mapM (s.result? keys g.calls)).map fun results =>
            s.setGathering id { g with answer := some (.returned results) }
      | none => none
  | .raise id =>
      match s.gatherings id with
      | some g =>
          if g.answer.isNone ∧ g.calls.any fun call => s.hasRaised call.2 then
            some (s.setGathering id { g with answer := some .raised })
          else none
      | none => none

/-! ### Two processes -/

/-- What happens in two processes whose providers behave alike. -/
inductive SameAction (keys keys' : String → List CodePoint) : Action → Action → Prop
  | get id ip yandex : SameAction keys keys' (.get id ip yandex) (.get id ip yandex)
  | call id provider caller now :
      SameAction keys keys' (.call id provider caller now) (.call id provider caller now)
  | fetched task client client' wallTime now (h : SameUpstream keys keys' client client') :
      SameAction keys keys' (.fetched task client wallTime now)
        (.fetched task client' wallTime now)
  | yandexChecked task check wallTime now :
      SameAction keys keys' (.yandexChecked task check wallTime now)
        (.yandexChecked task check wallTime now)
  | clear task : SameAction keys keys' (.clear task) (.clear task)
  | deliver caller : SameAction keys keys' (.deliver caller) (.deliver caller)
  | cancel caller : SameAction keys keys' (.cancel caller) (.cancel caller)
  | return_ id : SameAction keys keys' (.return_ id) (.return_ id)
  | raise id : SameAction keys keys' (.raise id) (.raise id)

/-- All calls of `get_reputation` are in the same place, and have the same answers. -/
def SameAnswers (s t : State) : Prop := ∀ id, s.gatherings id = t.gatherings id

/-- The keys of `CACHE` with the API keys of two processes exchanged. -/
def exchange (keys keys' : String → List CodePoint) : CacheKey ↪ CacheKey where
  toFun key := { key with key := Equiv.swap (keys key.provider) (keys' key.provider) key.key }
  inj' := by
    intro a b h
    obtain ⟨provider, ip, key⟩ := a
    obtain ⟨provider', ip', key'⟩ := b
    simp only [CacheKey.mk.injEq] at h
    obtain ⟨rfl, rfl, hkey⟩ := h
    rw [(Equiv.swap _ _).injective hkey]

theorem exchange_own (keys keys' : String → List CodePoint) (provider ip : String) :
    exchange keys keys' ⟨provider, ip, keys provider⟩ = ⟨provider, ip, keys' provider⟩ :=
  congrArg (CacheKey.mk provider ip) (Equiv.swap_apply_left _ _)

/-- The state of the one process is that of the other, with the API keys exchanged. -/
structure Exchanged (keys keys' : String → List CodePoint) (s t : State) : Prop where
  service : t.service = s.service.rename (exchange keys keys')
  gatherings : t.gatherings = s.gatherings

section Steps

variable {ipaddress : Ipaddress} {keys keys' : String → List CodePoint} {s t : State}

theorem mapM_congr {α β : Type} {f g : α → Option β} {l : List α} (h : ∀ a ∈ l, f a = g a) :
    l.mapM f = l.mapM g := by
  induction l with
  | nil => rfl
  | cons a l ih =>
      obtain ⟨ha, hl⟩ := List.forall_mem_cons.mp h
      rw [List.mapM_cons, List.mapM_cons, ha, ih hl]

theorem rel_map {σ : Type} {R : σ → σ → Prop} {f g : σ → σ} {x y : Option σ}
    (h : Option.Rel R x y) (hmap : ∀ {s t}, R s t → R (f s) (g t)) :
    Option.Rel R (x.map f) (y.map g) := by
  cases h with
  | none => exact .none
  | some h => exact .some (hmap h)

theorem Exchanged.setGathering (h : Exchanged keys keys' s t) (id : Nat) (g : Gathering) :
    Exchanged keys keys' (s.setGathering id g) (t.setGathering id g) where
  service := h.service
  gatherings := by simp [State.setGathering, h.gatherings]

theorem Exchanged.stepService (h : Exchanged keys keys' s t) {a a' : Reputation.Action}
    (ha : a' = a.rename (exchange keys keys')) :
    Option.Rel (Exchanged keys keys') (s.stepService a) (t.stepService a') := by
  unfold State.stepService
  rw [h.service, ha, step_rename]
  cases Reputation.step s.service a with
  | none => exact .none
  | some service => exact .some ⟨rfl, h.gatherings⟩

theorem Exchanged.callers (h : Exchanged keys keys' s t) (caller : Nat) :
    t.service.callers caller =
      (s.service.callers caller).map (Caller.rename (exchange keys keys')) := by
  rw [h.service]
  rfl

theorem Exchanged.finish (h : Exchanged keys keys' s t) (check check' : CacheKey → CheckOutcome)
    (hcheck : ∀ key, check' (exchange keys keys' key) = check key) (yandex : Bool) (task : Nat)
    (wallTime : ℤ) (now : ℚ) :
    Option.Rel (Exchanged keys keys') (s.finish yandex task check wallTime now)
      (t.finish yandex task check' wallTime now) := by
  have htask : t.service.tasks[task]? =
      s.service.tasks[task]?.map (LoadTask.rename (exchange keys keys')) := by
    rw [h.service]
    exact Reputation.State.getElem?_tasks_rename ..
  unfold State.finish
  rw [htask]
  cases s.service.tasks[task]? with
  | none => exact .none
  | some l =>
      simp only [Option.map_some, LoadTask.rename, hcheck]
      have hprovider : (exchange keys keys' l.key).provider = l.key.provider := rfl
      rw [hprovider]
      split
      · exact h.stepService rfl
      · exact .none

theorem Exchanged.result? (h : Exchanged keys keys' s t)
    {provider : String × String} (hconfigured : configured keys provider.1 =
      configured keys' provider.1) (calls : List (String × Nat)) :
    t.result? keys' calls provider = s.result? keys calls provider := by
  unfold State.result?
  rw [hconfigured]
  split
  · simp only [h.callers, Option.bind_eq_bind, Option.bind_map, Function.comp_def,
      Caller.result?_rename]
  · rfl

theorem Exchanged.hasRaised (h : Exchanged keys keys' s t) (caller : Nat) :
    t.hasRaised caller = s.hasRaised caller := by
  unfold State.hasRaised
  rw [h.callers]
  cases s.service.callers caller with
  | none => rfl
  | some c =>
      cases c with
      | waiting key task => rfl
      | hit key result time => rfl
      | received key task outcome => cases outcome <;> rfl
      | cancelled key => rfl

theorem Exchanged.call (h : Exchanged keys keys' s t)
    (hasked : ∀ yandex, ∀ p ∈ asked yandex, configured keys p.1 = configured keys' p.1)
    (id : Nat) (provider : String) (caller : Nat) (now : ℚ) :
    Option.Rel (Exchanged keys keys') (step ipaddress keys s (.call id provider caller now))
      (step ipaddress keys' t (.call id provider caller now)) := by
  simp only [step, h.gatherings]
  cases s.gatherings id with
  | none => exact .none
  | some g =>
      dsimp only
      by_cases hasks : provider ∈ (asked g.yandex).map Prod.fst
      · obtain ⟨p, hp, rfl⟩ := List.mem_map.mp hasks
        rw [hasked g.yandex p hp]
        split
        · refine rel_map (h.stepService ?_) ?_
          · exact congrArg (Reputation.Action.call caller · now) (exchange_own ..).symm
          · exact fun hst => hst.setGathering id _
        · exact .none
      · rw [if_neg (by simp [hasks]), if_neg (by simp [hasks])]
        exact .none

theorem Exchanged.return_ (h : Exchanged keys keys' s t)
    (hasked : ∀ yandex, ∀ p ∈ asked yandex, configured keys p.1 = configured keys' p.1)
    (id : Nat) :
    Option.Rel (Exchanged keys keys') (step ipaddress keys s (.return_ id))
      (step ipaddress keys' t (.return_ id)) := by
  simp only [step, h.gatherings]
  cases s.gatherings id with
  | none => exact .none
  | some g =>
      dsimp only
      split
      · exact .none
      · have hresults : (asked g.yandex).mapM (t.result? keys' g.calls) =
            (asked g.yandex).mapM (s.result? keys g.calls) :=
          mapM_congr fun p hp => h.result? (hasked g.yandex p hp) g.calls
        rw [hresults]
        cases (asked g.yandex).mapM (s.result? keys g.calls) with
        | none => exact .none
        | some results => exact .some (h.setGathering id _)

/-- Two processes whose providers behave alike take the same steps. -/
theorem Exchanged.step (h : Exchanged keys keys' s t)
    (hconfigured : ∀ p ∈ providers, configured keys p.1 = configured keys' p.1)
    (hencoding : SameEncoding keys keys') {a a' : Action} (ha : SameAction keys keys' a a') :
    Option.Rel (Exchanged keys keys') (step ipaddress keys s a) (step ipaddress keys' t a') := by
  have hasked : ∀ yandex, ∀ p ∈ asked yandex, configured keys p.1 = configured keys' p.1 :=
    fun yandex p hp => hconfigured p (List.mem_filter.mp hp).1
  cases ha with
  | get id ip yandex =>
      simp only [Lookup.step, h.gatherings]
      cases s.gatherings id with
      | some g => exact .none
      | none => exact .some (h.setGathering id _)
  | call id provider caller now => exact h.call hasked id provider caller now
  | fetched task client client' wallTime now hupstream =>
      simp only [Lookup.step]
      refine h.finish _ _ ?_ false task wallTime now
      intro key
      exact (checkService_eq hencoding hupstream key.provider key.ip).symm
  | yandexChecked task check wallTime now =>
      simp only [Lookup.step]
      exact h.finish (fun _ => check) (fun _ => check) (fun _ => rfl) true task wallTime now
  | clear task => exact h.stepService rfl
  | deliver caller => exact h.stepService rfl
  | cancel caller => exact h.stepService rfl
  | return_ id => exact h.return_ hasked id
  | raise id =>
      simp only [Lookup.step, h.gatherings, h.hasRaised]
      cases s.gatherings id with
      | none => exact .none
      | some g =>
          dsimp only
          split
          · exact .some (h.setGathering id _)
          · exact .none

/-- **API keys do not influence what leaves the server.** Two processes whose keys configure the
same providers, and whose providers behave alike up to the texts of exceptions, return the same
results, if the keys of ProxyCheck can both be encoded or both not. -/
theorem results_independent_of_keys (ipaddress : Ipaddress) (keys keys' : String → List CodePoint)
    (hconfigured : ∀ p ∈ providers, configured keys p.1 = configured keys' p.1)
    (hencoding : SameEncoding keys keys') (clock : ℚ) (actions actions' : List Action)
    (hactions : List.Forall₂ (SameAction keys keys') actions actions') :
    Option.Rel SameAnswers (run (step ipaddress keys) (State.init clock) actions)
      (run (step ipaddress keys') (State.init clock) actions') := by
  have hinit : Exchanged keys keys' (State.init clock) (State.init clock) := ⟨rfl, rfl⟩
  have hruns : Option.Rel (Exchanged keys keys')
      (run (step ipaddress keys) (State.init clock) actions)
      (run (step ipaddress keys') (State.init clock) actions') :=
    run_related_actions (fun _ _ _ _ h ha => h.step hconfigured hencoding ha) hactions hinit
  generalize run (step ipaddress keys) (State.init clock) actions = x at hruns ⊢
  generalize run (step ipaddress keys') (State.init clock) actions' = y at hruns ⊢
  cases hruns with
  | none => exact .none
  | some h => exact .some fun id => (congrFun h.gatherings id).symm

end Steps

/-! ### Two keys -/

/-- The addresses of `ipaddress` by their texts, and the networks of one address. -/
def textAddresses : Ipaddress where
  Address := String
  Network := String
  decEq := inferInstance
  address := Json.asStr?
  network := Json.asStr?
  contains network address := network = address

/-- The keys of a process in which one provider is configured. -/
def oneKey (provider : String) (key : List CodePoint) : String → List CodePoint :=
  fun p => if p = provider then key else []

/-- An answer of ProxyCheck or of `ipqualityscore.com` about the address `192.0.2.1`. -/
def sampleAnswer : Fetch := .response (some (.obj [("status", .str "ok"), ("success", .bool true),
  ("192.0.2.1", .obj [("proxy", .str "no")]), ("vpn", .bool false)]))

/-- A lookup in which the public lists cannot be reached, an exception of the client has the text
`error`, and a provider answers. -/
def sampleLookup (provider error : String) : List Action :=
  [.get 0 "192.0.2.1" false, .call 0 "rkn" 0 1, .call 0 provider 1 1,
    .fetched 0 (fun _ => .raised error) 0 2, .fetched 1 (fun _ => sampleAnswer) 0 3,
    .deliver 0, .deliver 1, .return_ 0]

/-- Which results of a lookup are `ok`. -/
def okResults (s : State) : Option (List Bool) :=
  match (s.gatherings 0).bind Gathering.answer with
  | some (.returned results) => some (results.map isOk)
  | _ => none

theorem sameAction_sampleLookup (keys keys' : String → List CodePoint)
    (provider error error' : String) :
    List.Forall₂ (SameAction keys keys') (sampleLookup provider error)
      (sampleLookup provider error') := by
  have hraised : SameUpstream keys keys' (fun _ => .raised error) (fun _ => .raised error') :=
    fun _ _ _ _ _ _ => rfl
  have hanswer : SameUpstream keys keys' (fun _ => sampleAnswer) (fun _ => sampleAnswer) :=
    fun _ _ _ _ _ _ => rfl
  exact .cons (.get ..) (.cons (.call ..) (.cons (.call ..) (.cons (.fetched _ _ _ _ _ hraised)
    (.cons (.fetched _ _ _ _ _ hanswer) (.cons (.deliver ..) (.cons (.deliver ..)
      (.cons (.return_ ..) .nil)))))))

/-- Two keys, which the texts of the exceptions contain. -/
theorem results_independent_of_keys_ipqs :
    let keys := oneKey "ipqs" (codePoints "first".toList)
    let keys' := oneKey "ipqs" (codePoints "second".toList)
    ∃ s t, run (step textAddresses keys) (State.init 0) (sampleLookup "ipqs" "first") = some s ∧
      run (step textAddresses keys') (State.init 0) (sampleLookup "ipqs" "second") = some t ∧
      okResults s = some [false, false, false, true, false] ∧ SameAnswers s t := by
  intro keys keys'
  have hrel := results_independent_of_keys textAddresses keys keys' (by decide +kernel) rfl 0 _ _
    (sameAction_sampleLookup keys keys' "ipqs" "first" "second")
  have hok : (run (step textAddresses keys) (State.init 0) (sampleLookup "ipqs" "first")).map
      okResults = some (some [false, false, false, true, false]) := by
    decide +kernel
  obtain ⟨s, hs, hok⟩ := Option.map_eq_some_iff.mp hok
  rw [hs] at hrel
  cases ht : run (step textAddresses keys') (State.init 0) (sampleLookup "ipqs" "second") with
  | none =>
      rw [ht] at hrel
      cases hrel
  | some t =>
      rw [ht] at hrel
      cases hrel with
      | some h => exact ⟨s, t, hs, rfl, hok, h⟩

/-- A key of ProxyCheck that is a lone surrogate: the answer of the provider is not asked for. -/
theorem not_results_independent_of_keys_surrogate :
    ¬ ∀ (keys keys' : String → List CodePoint) (actions actions' : List Action),
      (∀ p ∈ providers, configured keys p.1 = configured keys' p.1) →
      List.Forall₂ (SameAction keys keys') actions actions' →
      Option.Rel SameAnswers (run (step textAddresses keys) (State.init 0) actions)
        (run (step textAddresses keys') (State.init 0) actions') := by
  intro hall
  let keys := oneKey "proxycheck" (codePoints "first".toList)
  let keys' := oneKey "proxycheck" [0xd800]
  let actions := sampleLookup "proxycheck" ""
  have hrel := hall keys keys' actions actions (by decide +kernel)
    (sameAction_sampleLookup keys keys' "proxycheck" "" "")
  have hok : (run (step textAddresses keys) (State.init 0) actions).map okResults =
      some (some [false, false, true, false, false]) := by
    decide +kernel
  have hok' : (run (step textAddresses keys') (State.init 0) actions).map okResults =
      some (some [false, false, false, false, false]) := by
    decide +kernel
  generalize run (step textAddresses keys) (State.init 0) actions = x at hrel hok
  generalize run (step textAddresses keys') (State.init 0) actions = y at hrel hok'
  cases hrel with
  | none => cases hok
  | @some s t h =>
      have hsame : okResults s = okResults t := by
        unfold okResults
        rw [h 0]
      rw [Option.map_some, hsame] at hok
      rw [Option.map_some, Option.some.inj hok] at hok'
      exact absurd hok' (by decide)

end Lookup

end PxManager.Reputation
