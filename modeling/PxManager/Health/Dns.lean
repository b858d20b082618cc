import Mathlib.Algebra.Order.Field.Rat
import Mathlib.Logic.Function.Basic
import PxManager.Core.Lru
import PxManager.Core.Text

/-!
# PxManager.Health.Dns

`resolve_host_with_dns` of `main.py`: DNS answers that are kept for an hour.

A call is two actions of a machine: `lookup` is the code up to the `await`, and `answer` is the
code after it. What the resolver answers, and when, is open. Calls of one host may wait at the
same time, since nothing here holds back a second one.

Readings of `time.monotonic()` are rationals, an idealization: the time at which an entry expires is
not rounded.
-/

namespace PxManager.Health.Dns

open PxManager.Core

/-- `DNS_CACHE_TTL_SECONDS`. -/
def dnsCacheTtlSeconds : ℚ := 60 * 60
/-- `DNS_CACHE_MAX_SIZE`. -/
def dnsCacheMaxSize : Nat := 1024

/-- The keys of `DNS_RESOLVERS`. -/
inductive Resolver
  | system
  | cloudflare
  deriving DecidableEq, Repr

/-- What `build_dns_result` makes. -/
structure DnsResult where
  ok : Bool
  addresses : List String
  error : Option String

/-- The key of `DNS_RESULT_CACHE`. -/
structure DnsKey where
  host : Text
  resolver : Resolver
  deriving DecidableEq, Repr

/-- Where a call of `resolve_host_with_dns` is. -/
inductive Call
  | resolving (host : Text) (resolver : Resolver)
  /-- Returned what the resolver answered at the given time. -/
  | answered (host : Text) (resolver : Resolver) (result : DnsResult) (time : ℚ)
  /-- Returned the cached answer at the given time. -/
  | hit (host : Text) (resolver : Resolver) (result : DnsResult) (time : ℚ)
  /-- An exception has left the `await`. -/
  | raised

structure State where
  /-- `DNS_RESULT_CACHE`: when an answer expires, and the answer. -/
  cache : Dict DnsKey (ℚ × DnsResult)
  calls : Nat → Option Call
  /-- The last reading of `time.monotonic()`. -/
  clock : ℚ

/-- The process before the first call. -/
def State.init (clock : ℚ) : State := ⟨∅, fun _ => none, clock⟩

inductive Action
  | lookup (call : Nat) (host : Text) (resolver : Resolver) (now : ℚ)
  | answer (call : Nat) (result : DnsResult) (now : ℚ)
  | fail (call : Nat)

def State.setCall (s : State) (call : Nat) (c : Call) : State :=
  { s with calls := Function.update s.calls call (some c) }

section Machine

-- `str.lower`
variable (lower : Text → Text)

def dnsKey (host : Text) (resolver : Resolver) : DnsKey := ⟨lower host, resolver⟩

/-- `resolve_host_with_dns` up to its `await`. -/
def State.lookup (s : State) (call : Nat) (host : Text) (resolver : Resolver) (now : ℚ) : State :=
  let key := dnsKey lower host resolver
  match s.cache.get? key with
  | some (expires, result) =>
      if now < expires then
        { s with cache := s.cache.moveToEnd key }.setCall call (.hit host resolver result now)
      else { s with cache := s.cache.erase key }.setCall call (.resolving host resolver)
  | none => s.setCall call (.resolving host resolver)

/-- `resolve_host_with_dns` after its `await`. -/
def State.answer (s : State) (call : Nat) (host : Text) (resolver : Resolver) (result : DnsResult)
    (now : ℚ) : State :=
  let key := dnsKey lower host resolver
  let cache :=
    if result.ok then
      let cache := (s.cache.set key (now + dnsCacheTtlSeconds, result)).moveToEnd key
      -- `while len(DNS_RESULT_CACHE) > DNS_CACHE_MAX_SIZE`
      cache.dropOldest (cache.entries.length - dnsCacheMaxSize)
    else s.cache
  { s with cache }.setCall call (.answered host resolver result now)

/-- One action, if it is possible. -/
def step (s : State) : Action → Option State
  | .lookup call host resolver now =>
      match s.calls call with
      | some _ => none
      | none =>
          if s.clock ≤ now then
            some ({ s with clock := now }.lookup lower call host resolver now)
          else none
  | .answer call result now =>
      match s.calls call with
      | some (.resolving host resolver) =>
          if s.clock ≤ now then
            some ({ s with clock := now }.answer lower call host resolver result now)
          else none
      | _ => none
  | .fail call =>
      match s.calls call with
      | some (.resolving _ _) => some (s.setCall call .raised)
      | _ => none

/-! ### The cache -/

/-- The keys that an action touches: a hit, or a store. -/
def touched (s : State) (a : Action) (s' : State) : List DnsKey :=
  match a with
  | .lookup call host resolver _ =>
      match s'.calls call with
      | some (.hit ..) => [dnsKey lower host resolver]
      | _ => []
  | .answer call result _ =>
      match s.calls call with
      | some (.resolving host resolver) => if result.ok then [dnsKey lower host resolver] else []
      | _ => []
  | .fail _ => []

/-- The entry that an action writes. -/
def written (s : State) : Action → Option (DnsKey × ℚ × DnsResult)
  | .answer call result now =>
      match s.calls call with
      | some (.resolving host resolver) =>
          if result.ok then some (dnsKey lower host resolver, now + dnsCacheTtlSeconds, result)
          else none
      | _ => none
  | _ => none

/-- The action looks for the key and finds that its entry has expired. -/
def Expired (s : State) (a : Action) (key : DnsKey) : Prop :=
  match a with
  | .lookup _ host resolver now => key = dnsKey lower host resolver ∧
      ∃ expires result, s.cache.get? key = some (expires, result) ∧ expires ≤ now
  | _ => False

/-- `DNS_RESULT_CACHE` in its machine. -/
def dnsMachine : LruMachine State Action DnsKey (ℚ × DnsResult) where
  step := step lower
  cache := State.cache
  maxSize := dnsCacheMaxSize
  touched := touched lower
  written := written lower
  expired := Expired lower

end Machine

/-! ### What the actions do -/

variable {lower : Text → Text} {s s' : State}

theorem setCall_calls (s : State) (call : Nat) (c : Call) :
    (s.setCall call c).calls call = some c := Function.update_self ..

/-- A lookup is a hit, or goes on to the resolver. -/
theorem step_lookup {call : Nat} {host : Text} {resolver : Resolver} {now : ℚ}
    (h : step lower s (.lookup call host resolver now) = some s') :
    s.calls call = none ∧ s.clock ≤ now ∧
      ((∃ expires result, s.cache.get? (dnsKey lower host resolver) = some (expires, result) ∧
          now < expires ∧
          s' = { s with
            clock := now
            cache := s.cache.moveToEnd (dnsKey lower host resolver) }.setCall call
              (.hit host resolver result now)) ∨
        (∃ expires result, s.cache.get? (dnsKey lower host resolver) = some (expires, result) ∧
          expires ≤ now ∧
          s' = { s with
            clock := now
            cache := s.cache.erase (dnsKey lower host resolver) }.setCall call
              (.resolving host resolver)) ∨
        (s.cache.get? (dnsKey lower host resolver) = none ∧
          s' = { s with clock := now }.setCall call (.resolving host resolver))) := by
  simp only [step] at h
  split at h
  · cases h
  · next hnone =>
      obtain ⟨hnow, h⟩ := Option.ite_none_right_eq_some.mp h
      refine ⟨hnone, hnow, ?_⟩
      cases h
      unfold State.lookup
      dsimp only
      split
      · next expires result hget =>
          split
          · next hlt => exact .inl ⟨expires, result, hget, hlt, rfl⟩
          · next hnot => exact .inr (.inl ⟨expires, result, hget, not_lt.mp hnot, rfl⟩)
      · next hget => exact .inr (.inr ⟨hget, rfl⟩)

theorem step_answer {call : Nat} {result : DnsResult} {now : ℚ}
    (h : step lower s (.answer call result now) = some s') :
    ∃ host resolver, s.calls call = some (.resolving host resolver) ∧ s.clock ≤ now ∧
      ((result.ok = true ∧
          s' = { s with
            clock := now
            cache := Lru.store dnsCacheMaxSize (dnsKey lower host resolver)
              (now + dnsCacheTtlSeconds, result) s.cache }.setCall call
                (.answered host resolver result now)) ∨
        (result.ok = false ∧
          s' = { s with clock := now }.setCall call (.answered host resolver result now))) := by
  simp only [step] at h
  split at h
  · next host resolver hcall =>
      obtain ⟨hnow, h⟩ := Option.ite_none_right_eq_some.mp h
      refine ⟨host, resolver, hcall, hnow, ?_⟩
      cases h
      unfold State.answer
      cases hok : result.ok with
      | true => exact .inl ⟨rfl, rfl⟩
      | false => exact .inr ⟨rfl, rfl⟩
  · cases h

theorem step_fail {call : Nat} (h : step lower s (.fail call) = some s') :
    ∃ host resolver, s.calls call = some (.resolving host resolver) ∧
      s' = s.setCall call .raised := by
  simp only [step] at h
  split at h
  · next host resolver hcall => exact ⟨host, resolver, hcall, (Option.some.inj h).symm⟩
  · cases h

/-- Every action has one of the effects of an LRU cache. -/
theorem dnsMachine_lawful (lower : Text → Text) : (dnsMachine lower).Lawful := by
  intro s a s' hstep
  cases a with
  | lookup call host resolver now =>
      obtain ⟨-, -, ⟨expires, result, hget, hlt, rfl⟩ | ⟨expires, result, hget, hle, rfl⟩ |
        ⟨hget, rfl⟩⟩ := step_lookup hstep
      · have hk : dnsKey lower host resolver ∈ s.cache.keys := Dict.mem_keys_of_get? hget
        simp only [dnsMachine, touched, setCall_calls]
        exact .hit _ hk
      · simp only [dnsMachine, touched, setCall_calls]
        exact .expire _ ⟨rfl, expires, result, hget, hle⟩
      · simp only [dnsMachine, touched, setCall_calls]
        exact .keep
  | answer call result now =>
      obtain ⟨host, resolver, hcall, -, ⟨hok, rfl⟩ | ⟨hok, rfl⟩⟩ := step_answer hstep
      · simp only [dnsMachine, touched, written, hcall, hok]
        exact .store _ _
      · simp only [dnsMachine, touched, written, hcall, hok]
        exact .keep
  | fail call =>
      have hstep : step lower s (.fail call) = some s' := hstep
      obtain ⟨host, resolver, -, rfl⟩ := step_fail hstep
      exact .keep

end PxManager.Health.Dns
