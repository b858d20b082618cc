import PxManager.Core.Lru
import PxManager.Reputation.SingleFlight

/-!
# PxManager.Reputation.Lru

`CACHE` of `reputation.py` as an LRU cache.
-/

namespace PxManager.Reputation

open PxManager.Core

/-- The keys that an action touches: a hit, or a store. -/
def touched (s : State) (a : Action) (s' : State) : List CacheKey :=
  match a with
  | .call caller key _ =>
      match s'.callers caller with
      | some (.hit ..) => [key]
      | _ => []
  | .finish i check wallTime _ =>
      match s.tasks[i]?, loadResult wallTime check with
      | some task, some result => if isOk result then [task.key] else []
      | _, _ => []
  | _ => []

/-- The entry that an action writes. -/
def written (s : State) : Action → Option (CacheKey × ℚ × Result)
  | .finish i check wallTime now =>
      match s.tasks[i]?, loadResult wallTime check with
      | some task, some result => if isOk result then some (task.key, now, result) else none
      | _, _ => none
  | _ => none

/-- The action looks for the key and finds that its entry has expired. -/
def Expired (s : State) (a : Action) (key : CacheKey) : Prop :=
  match a with
  | .call _ key' now => key = key' ∧
      ∃ time result, s.cache.get? key = some (time, result) ∧ cacheTtlSeconds ≤ now - time
  | _ => False

/-- `CACHE` in its machine. -/
def cacheMachine : LruMachine State Action CacheKey (ℚ × Result) where
  step := step
  cache := State.cache
  maxSize := cacheMaxSize
  touched := touched
  written := written
  expired := Expired

variable {s s' : State}

/-- A call that goes on with a task neither changes the cache nor is a hit. -/
theorem join_cache (s : State) (caller : Nat) (key : CacheKey) :
    (s.join caller key).cache = s.cache ∧
      ∀ key' result time, (s.join caller key).callers caller ≠ some (.hit key' result time) := by
  have hawait : ∀ (s : State) (i : Nat), (s.await caller key i).cache = s.cache ∧
      ∀ key' result time,
        (s.await caller key i).callers caller ≠ some (.hit key' result time) := by
    intro s i
    unfold State.await
    split <;> exact ⟨rfl, fun _ _ _ h => by simp [setCaller_callers] at h⟩
  unfold State.join
  split
  · exact hawait s _
  · exact hawait _ _

theorem touched_call {caller : Nat} {key : CacheKey} {now : ℚ}
    (h : ∀ key' result time, s'.callers caller ≠ some (.hit key' result time)) :
    touched s (.call caller key now) s' = [] := by
  cases hcaller : s'.callers caller with
  | none => simp only [touched, hcaller]
  | some c =>
      cases c with
      | hit key' result time => exact absurd hcaller (h key' result time)
      | _ => simp only [touched, hcaller]

/-- Every action has one of the effects of an LRU cache. -/
theorem cacheMachine_lawful : cacheMachine.Lawful := by
  intro s a s' hstep
  cases a with
  | call caller key now =>
      obtain ⟨-, -, rfl⟩ := step_call hstep
      simp only [cacheMachine, written]
      unfold State.cachedCheck
      dsimp only
      split
      · next time result hget =>
          split
          · next hfresh =>
              have hk : key ∈ s.cache.keys := Dict.mem_keys_of_get? hget
              simp only [touched, setCaller_callers]
              exact .hit _ hk
          · next hstale =>
              obtain ⟨hcache, hnot⟩ := join_cache
                { s with clock := now, cache := s.cache.erase key } caller key
              rw [touched_call hnot, hcache]
              exact .expire _ ⟨rfl, time, result, hget, not_lt.mp hstale⟩
      · obtain ⟨hcache, hnot⟩ := join_cache { s with clock := now } caller key
        rw [touched_call hnot, hcache]
        exact .keep
  | finish i check wallTime now =>
      obtain ⟨task, htask, -, -, rfl⟩ := step_finish hstep
      simp only [cacheMachine, touched, written, htask]
      unfold State.finishLoad
      cases hload : loadResult wallTime check with
      | none => exact .keep
      | some result =>
          cases hok : isOk result with
          | true =>
              simp only [storeResult, hok, if_true]
              exact .store _ _
          | false =>
              simp only [storeResult, hok, Bool.false_eq_true, if_false]
              exact .keep
  | clear i =>
      obtain ⟨task, -, -, -, rfl⟩ := step_clear hstep
      exact .keep
  | deliver caller =>
      obtain ⟨key, i, outcome, time, -, -, rfl⟩ := step_deliver hstep
      exact .keep
  | cancel caller =>
      obtain ⟨key, i, -, rfl⟩ := step_cancel hstep
      exact .keep

end PxManager.Reputation
