import Mathlib.Algebra.Order.Field.Rat
import Mathlib.Logic.Function.Basic
import PxManager.Core.Dict
import PxManager.Core.Json
import PxManager.Core.Machine
import PxManager.Core.Text

/-!
# PxManager.Reputation.Cache

`cached_check` of `reputation.py`: results that are kept for a day, and one load for all who wait
for the same one.

The event loop runs one piece of code between two awaits at a time, so each such piece is one
action of a machine:

* `call`: `cached_check` up to `await asyncio.shield(task)`. If the task has finished already,
  the await returns at once, so the caller has its result in the same step.
* `finish`: `load` from the end of `await check()` to its own end.
* `clear`: the done-callback of the task, which clears `PENDING`.
* `deliver`: the caller goes on from its await.
* `cancel`: the caller is cancelled while it waits. `shield` keeps this from the task, so the
  only trace of it is the caller's own.

The actions may come in any order in which they are possible. The event loop knows fewer orders:
it runs the callbacks of a task in the order in which they were added. Clock readings are rationals,
so the age of an entry is exact.
-/

namespace PxManager.Reputation

open PxManager.Core

/-- `CACHE_TTL_SECONDS`. -/
def cacheTtlSeconds : ℚ := 24 * 60 * 60
/-- `CACHE_MAX_SIZE`. -/
def cacheMaxSize : Nat := 1024

/-- The key of `CACHE` and `PENDING`. -/
structure CacheKey where
  provider : String
  ip : String
  key : List CodePoint
  deriving DecidableEq, Repr

/-- The dictionary that a check returns. -/
abbrev Result := Dict String Json

/-- `result['status'] == 'ok'`. -/
def isOk (result : Result) : Bool := (result.get? "status").bind Json.asStr? = some "ok"

/-- How `await check()` ends in `load`. -/
inductive CheckOutcome
  | returned (result : Result)
  /-- An `Exception`, which `load` catches. -/
  | raised
  /-- What `load` does not catch: a cancellation, or a result that is no dictionary. -/
  | escaped

/-- How the task of `load` ends. -/
inductive Outcome
  | result (result : Result)
  | exception

/-- The result of `load`, or `none` if an exception leaves it. -/
def loadResult (wallTime : ℤ) (check : CheckOutcome) : Option Result :=
  let complete (result : Result) : Result :=
    let result := if result.contains "status" then result else result.set "status" (.str "error")
    (result.set "checked_at" (.int wallTime)).set "cached" (.bool false)
  match check with
  | .returned result => some (complete result)
  | .raised =>
      some (complete ((Dict.set ∅ "status" (.str "error")).set "error" (.str "Сервис недоступен")))
  | .escaped => none

/-- `CACHE`: the time at which a result was stored, and the result. -/
abbrev Cache := Dict CacheKey (ℚ × Result)

/-- What `load` does to `CACHE` at time `now`. -/
def storeResult (key : CacheKey) (result : Result) (now : ℚ) (cache : Cache) : Cache :=
  if isOk result then
    let cache := (cache.set key (now, result)).moveToEnd key
    -- `while len(CACHE) > CACHE_MAX_SIZE`
    cache.dropOldest (cache.entries.length - cacheMaxSize)
  else cache

/-! ### The machine -/

/-- A task that runs `load`. -/
structure LoadTask where
  key : CacheKey
  /-- The caller whose `check` the task awaits. -/
  starter : Nat
  /-- How the task ended, and at what time. -/
  outcome : Option (Outcome × ℚ)
  /-- The done-callback has run. -/
  cleared : Bool

/-- Where a call of `cached_check` is. -/
inductive Caller
  | waiting (key : CacheKey) (task : Nat)
  /-- Returned the cached result at the given time. -/
  | hit (key : CacheKey) (result : Result) (time : ℚ)
  /-- Returned the result of the task, or raised its exception. -/
  | received (key : CacheKey) (task : Nat) (outcome : Outcome)
  | cancelled (key : CacheKey)

structure State where
  cache : Cache
  pending : Dict CacheKey Nat
  tasks : List LoadTask
  callers : Nat → Option Caller
  /-- The last reading of `monotonic()`. -/
  clock : ℚ

/-- The process before the first call. -/
def State.init (clock : ℚ) : State := ⟨∅, ∅, [], fun _ => none, clock⟩

inductive Action
  | call (caller : Nat) (key : CacheKey) (now : ℚ)
  | finish (task : Nat) (check : CheckOutcome) (wallTime : ℤ) (now : ℚ)
  | clear (task : Nat)
  | deliver (caller : Nat)
  | cancel (caller : Nat)

namespace State

/-- The state of one caller. -/
def setCaller (s : State) (caller : Nat) (c : Caller) : State :=
  { s with callers := Function.update s.callers caller (some c) }

/-- `await asyncio.shield(task)`. -/
def await (s : State) (caller : Nat) (key : CacheKey) (i : Nat) : State :=
  match s.tasks[i]?.bind LoadTask.outcome with
  | some (outcome, _) => s.setCaller caller (.received key i outcome)
  | none => s.setCaller caller (.waiting key i)

/-- The second half of `cached_check`: join the pending task, or start one. -/
def join (s : State) (caller : Nat) (key : CacheKey) : State :=
  match s.pending.get? key with
  | some i => s.await caller key i
  | none =>
      let i := s.tasks.length
      let task : LoadTask := { key, starter := caller, outcome := none, cleared := false }
      { s with tasks := s.tasks ++ [task], pending := s.pending.set key i }.await caller key i

/-- `cached_check` up to its `await`. -/
def cachedCheck (s : State) (caller : Nat) (key : CacheKey) (now : ℚ) : State :=
  match s.cache.get? key with
  | some (time, result) =>
      if now - time < cacheTtlSeconds then
        { s with cache := s.cache.moveToEnd key }.setCaller caller
          (.hit key (result.set "cached" (.bool true)) now)
      else { s with cache := s.cache.erase key }.join caller key
  | none => s.join caller key

/-- `load` after its `await`. -/
def finishLoad (s : State) (i : Nat) (task : LoadTask) (check : CheckOutcome) (wallTime : ℤ)
    (now : ℚ) : State :=
  match loadResult wallTime check with
  | some result =>
      { s with
        cache := storeResult task.key result now s.cache
        tasks := s.tasks.set i { task with outcome := some (.result result, now) } }
  | none => { s with tasks := s.tasks.set i { task with outcome := some (.exception, now) } }

end State

/-- One action, if it is possible. -/
def step (s : State) : Action → Option State
  | .call caller key now =>
      match s.callers caller with
      | some _ => none
      | none =>
          if s.clock ≤ now then some ({ s with clock := now }.cachedCheck caller key now) else none
  | .finish i check wallTime now =>
      match s.tasks[i]? with
      | none => none
      | some task =>
          if task.outcome.isNone ∧ s.clock ≤ now then
            some ({ s with clock := now }.finishLoad i task check wallTime now)
          else none
  | .clear i =>
      match s.tasks[i]? with
      | none => none
      | some task =>
          if task.outcome.isSome ∧ !task.cleared then
            some { s with
              pending := s.pending.erase task.key
              tasks := s.tasks.set i { task with cleared := true } }
          else none
  | .deliver caller =>
      match s.callers caller with
      | some (.waiting key i) =>
          match s.tasks[i]?.bind LoadTask.outcome with
          | some (outcome, _) => some (s.setCaller caller (.received key i outcome))
          | none => none
      | _ => none
  | .cancel caller =>
      match s.callers caller with
      | some (.waiting key _) => some (s.setCaller caller (.cancelled key))
      | _ => none

end PxManager.Reputation
