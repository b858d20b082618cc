import PxManager.Reputation.Cache

/-!
# PxManager.Reputation.SingleFlight

What callers of `cached_check` can rely on, whatever the order of the actions.

The invariant ties the three tables together: `PENDING` holds exactly the tasks whose
done-callback has not run (`pending_task`, `task_pending`), and `CACHE` holds only results of
finished tasks, with the time at which they finished (`cache_task`). A task that has not finished
has not run its callback, so there is one for each key at most.
-/

namespace PxManager.Reputation

open PxManager.Core

variable {s s' : State}

/-- The task has finished with the outcome at the time. -/
def State.Finished (s : State) (i : Nat) (key : CacheKey) (outcome : Outcome) (time : ℚ) : Prop :=
  ∃ task, s.tasks[i]? = some task ∧ task.key = key ∧ task.outcome = some (outcome, time)

/-- The invariant of the two tables and the tasks. -/
structure Inv (s : State) : Prop where
  /-- A pending task is one for its key, and its callback has not run. -/
  pending_task : ∀ key i, s.pending.get? key = some i →
    ∃ task, s.tasks[i]? = some task ∧ task.key = key ∧ task.cleared = false
  /-- A task is pending until its callback has run. -/
  task_pending : ∀ (i : Nat) (task : LoadTask), s.tasks[i]? = some task → task.cleared = false →
    s.pending.get? task.key = some i
  /-- The callback runs after the task. -/
  running : ∀ (i : Nat) (task : LoadTask), s.tasks[i]? = some task → task.outcome = none →
    task.cleared = false
  /-- A cached result is that of a task which finished at the time stored with it. -/
  cache_task : ∀ key time result, s.cache.get? key = some (time, result) →
    time ≤ s.clock ∧ isOk result = true ∧ ∃ i, s.Finished i key (.result result) time
  /-- The result of a task says that it is not cached. -/
  not_cached : ∀ (i : Nat) (task : LoadTask) (result : Result) time, s.tasks[i]? = some task →
    task.outcome = some (.result result, time) → result.get? "cached" = some (.bool false)

theorem Inv.init (clock : ℚ) : Inv (State.init clock) where
  pending_task key i h := by cases h
  task_pending i task h := by cases h
  running i task h := by cases h
  cache_task key time result h := by cases h
  not_cached i task result time h := by cases h

/-- A later state: every task is still there, for the same key and with the outcome it had. -/
def Extends (s s' : State) : Prop :=
  ∀ (i : Nat) (task : LoadTask), s.tasks[i]? = some task →
    ∃ task' : LoadTask, s'.tasks[i]? = some task' ∧ task'.key = task.key ∧
    ∀ outcome, task.outcome = some outcome → task'.outcome = some outcome

theorem Extends.of_eq (h : s'.tasks = s.tasks) : Extends s s' :=
  fun _ task htask => ⟨task, h ▸ htask, rfl, fun _ h => h⟩

theorem Extends.finished (h : Extends s s') {i : Nat} {key : CacheKey} {outcome : Outcome}
    {time : ℚ} (hfin : s.Finished i key outcome time) : s'.Finished i key outcome time := by
  obtain ⟨task, htask, hkey, hout⟩ := hfin
  obtain ⟨task', htask', hkey', hkeep⟩ := h i task htask
  exact ⟨task', htask', hkey'.trans hkey, hkeep _ hout⟩

/-! ### What callers know -/

/-- What holds of a caller: it has a fresh cached result of a load for its key, or it waits for or
has received the outcome of one load for its key. -/
def CallerOk (s : State) : Caller → Prop
  | .waiting key i => ∃ task, s.tasks[i]? = some task ∧ task.key = key
  | .hit key result now => ∃ i loaded time, s.Finished i key (.result loaded) time ∧
      isOk loaded = true ∧ time ≤ now ∧ now - time < cacheTtlSeconds ∧
      result = loaded.set "cached" (.bool true)
  | .received key i outcome => ∃ time, s.Finished i key outcome time
  | .cancelled _ => True

theorem CallerOk.extends (h : Extends s s') {c : Caller} (hc : CallerOk s c) : CallerOk s' c := by
  cases c with
  | waiting key i =>
      obtain ⟨task, htask, hkey⟩ := hc
      obtain ⟨task', htask', hkey', -⟩ := h i task htask
      exact ⟨task', htask', hkey'.trans hkey⟩
  | hit key result now =>
      obtain ⟨i, loaded, time, hfin, hrest⟩ := hc
      exact ⟨i, loaded, time, h.finished hfin, hrest⟩
  | received key i outcome =>
      obtain ⟨time, hfin⟩ := hc
      exact ⟨time, h.finished hfin⟩
  | cancelled key => trivial

/-- The state of every caller is as it should be. -/
def CallersOk (s : State) : Prop := ∀ caller c, s.callers caller = some c → CallerOk s c

theorem CallersOk.setCaller (h : CallersOk s) (caller : Nat) {c : Caller} (hc : CallerOk s c) :
    CallersOk (s.setCaller caller c) := by
  intro caller' c' hc'
  simp only [State.setCaller] at hc'
  by_cases heq : caller' = caller
  · subst heq
    rw [Function.update_self] at hc'
    exact Option.some.inj hc' ▸ hc
  · rw [Function.update_of_ne heq] at hc'
    exact h caller' c' hc'

theorem Inv.setCaller (h : Inv s) (caller : Nat) (c : Caller) : Inv (s.setCaller caller c) :=
  ⟨h.1, h.2, h.3, h.4, h.5⟩

/-- Both parts of the invariant. -/
structure Sound (s : State) : Prop where
  inv : Inv s
  callers : CallersOk s

theorem Sound.init (clock : ℚ) : Sound (State.init clock) where
  inv := Inv.init clock
  callers caller c h := by cases h

theorem Sound.setCaller (h : Sound s) (caller : Nat) {c : Caller} (hc : CallerOk s c) :
    Sound (s.setCaller caller c) := ⟨h.inv.setCaller caller c, h.callers.setCaller caller hc⟩

/-! ### The pieces of code -/

theorem setCaller_callers (s : State) (caller : Nat) (c : Caller) :
    (s.setCaller caller c).callers caller = some c := Function.update_self ..

/-- An await returns at once if the task has finished. -/
theorem await_cases {i : Nat} {task : LoadTask} (htask : s.tasks[i]? = some task) (caller : Nat)
    (key : CacheKey) :
    (task.outcome = none ∧ s.await caller key i = s.setCaller caller (.waiting key i)) ∨
    ∃ outcome time, task.outcome = some (outcome, time) ∧
      s.await caller key i = s.setCaller caller (.received key i outcome) := by
  unfold State.await
  rw [htask, Option.bind_some]
  cases hout : task.outcome with
  | none => exact Or.inl ⟨rfl, rfl⟩
  | some outcome => exact Or.inr ⟨outcome.1, outcome.2, rfl, rfl⟩

/-- The caller waits for the task, or has received its outcome. -/
def OnTask (s : State) (caller : Nat) (key : CacheKey) (i : Nat) : Prop :=
  s.callers caller = some (.waiting key i) ∨
    ∃ outcome, s.callers caller = some (.received key i outcome)

theorem Sound.await (h : Sound s) {i : Nat} {task : LoadTask} (htask : s.tasks[i]? = some task)
    (caller : Nat) : Sound (s.await caller task.key i) ∧
      (s.await caller task.key i).tasks = s.tasks ∧
      OnTask (s.await caller task.key i) caller task.key i := by
  rcases await_cases htask caller task.key with ⟨-, heq⟩ | ⟨outcome, time, hout, heq⟩
  · rw [heq]
    exact ⟨h.setCaller caller ⟨task, htask, rfl⟩, rfl, Or.inl (setCaller_callers ..)⟩
  · rw [heq]
    exact ⟨h.setCaller caller ⟨time, task, htask, rfl, hout⟩, rfl,
      Or.inr ⟨outcome, setCaller_callers ..⟩⟩

/-- The state with a new task for a key that has none. -/
theorem Inv.newTask (h : Inv s) {key : CacheKey} (hnone : s.pending.get? key = none)
    (caller : Nat) :
    Inv { s with
      tasks := s.tasks ++ [⟨key, caller, none, false⟩]
      pending := s.pending.set key s.tasks.length } := by
  have hold : ∀ (i : Nat) (task : LoadTask), s.tasks[i]? = some task →
      (s.tasks ++ [⟨key, caller, none, false⟩])[i]? = some task := by
    intro i task htask
    rw [List.getElem?_append_left (List.getElem?_eq_some_iff.mp htask).1, htask]
  have hcases : ∀ (i : Nat) (task : LoadTask),
      (s.tasks ++ [⟨key, caller, none, false⟩])[i]? = some task →
      s.tasks[i]? = some task ∨ (i = s.tasks.length ∧ task = ⟨key, caller, none, false⟩) := by
    intro i task htask
    rw [List.getElem?_append] at htask
    split at htask
    · exact Or.inl htask
    · obtain ⟨hlt, heq⟩ := List.getElem?_eq_some_iff.mp htask
      rw [List.length_singleton] at hlt
      exact Or.inr ⟨by omega, by simpa using heq.symm⟩
  -- a task of this key whose callback has not run would be pending
  have hne : ∀ (i : Nat) (task : LoadTask), s.tasks[i]? = some task → task.cleared = false →
      task.key ≠ key := by
    intro i task htask hcleared heq
    have hpending := h.task_pending i task htask hcleared
    rw [heq, hnone] at hpending
    cases hpending
  constructor
  case pending_task =>
    intro key' i hget
    rw [Dict.get?_set] at hget
    split at hget
    · next heq =>
        cases hget
        exact ⟨_, List.getElem?_concat_length, heq.symm, rfl⟩
    · obtain ⟨task, htask, hrest⟩ := h.pending_task key' i hget
      exact ⟨task, hold i task htask, hrest⟩
  case task_pending =>
    intro i task htask hcleared
    rcases hcases i task htask with hold' | ⟨rfl, rfl⟩
    · -- the new entry is under another key
      rw [Dict.get?_set, if_neg (hne i task hold' hcleared)]
      exact h.task_pending i task hold' hcleared
    · exact Dict.get?_set_self
  case running =>
    intro i task htask hout
    rcases hcases i task htask with hold' | ⟨-, rfl⟩
    · exact h.running i task hold' hout
    · rfl
  case cache_task =>
    intro key' time result hget
    obtain ⟨htime, hok, i, task, htask, hfin⟩ := h.cache_task key' time result hget
    exact ⟨htime, hok, i, task, hold i task htask, hfin⟩
  case not_cached =>
    intro i task result time htask hout
    rcases hcases i task htask with hold' | ⟨-, rfl⟩
    · exact h.not_cached i task result time hold' hout
    · cases hout

/-- The task that a call goes on with: one whose callback has not run, or a new one. -/
def JoinedTask (s s' : State) (caller : Nat) (key : CacheKey) (i : Nat) : Prop :=
  (∃ task, s.tasks[i]? = some task ∧ task.key = key ∧ task.cleared = false) ∨
    (s.tasks[i]? = none ∧ s'.tasks[i]? = some ⟨key, caller, none, false⟩)

theorem Sound.join (h : Sound s) (caller : Nat) (key : CacheKey) :
    Sound (s.join caller key) ∧ Extends s (s.join caller key) ∧
      ∃ i, OnTask (s.join caller key) caller key i ∧
        JoinedTask s (s.join caller key) caller key i := by
  unfold State.join
  cases hget : s.pending.get? key with
  | some i =>
      obtain ⟨task, htask, rfl, hcleared⟩ := h.inv.pending_task key i hget
      obtain ⟨hsound, htasks, hon⟩ := h.await htask caller
      exact ⟨hsound, Extends.of_eq htasks, i, hon, Or.inl ⟨task, htask, rfl, hcleared⟩⟩
  | none =>
      set s₁ : State := { s with
        tasks := s.tasks ++ [⟨key, caller, none, false⟩]
        pending := s.pending.set key s.tasks.length } with hs₁
      have hext : Extends s s₁ := by
        intro i task htask
        refine ⟨task, ?_, rfl, fun _ h => h⟩
        rw [hs₁, List.getElem?_append_left (List.getElem?_eq_some_iff.mp htask).1, htask]
      have hsound₁ : Sound s₁ :=
        ⟨h.inv.newTask hget caller, fun caller' c hc => (h.callers caller' c hc).extends hext⟩
      have hnew : s₁.tasks[s.tasks.length]? = some ⟨key, caller, none, false⟩ :=
        List.getElem?_concat_length
      obtain ⟨hsound, htasks, hon⟩ := hsound₁.await hnew caller
      refine ⟨hsound, ?_, s.tasks.length, hon, Or.inr ⟨?_, ?_⟩⟩
      · intro i task htask
        obtain ⟨task', htask', hrest⟩ := hext i task htask
        exact ⟨task', by rw [← htask', ← htasks], hrest⟩
      · exact List.getElem?_eq_none (Nat.le_refl _)
      · rw [← hnew, ← htasks]

/-- Dropping cached results, and the clock going on. -/
theorem Inv.dropCached (h : Inv s) {cache : Cache} {clock : ℚ}
    (hsub : ∀ key v, cache.get? key = some v → s.cache.get? key = some v)
    (hclock : s.clock ≤ clock) : Inv { s with cache, clock } where
  pending_task := h.pending_task
  task_pending := h.task_pending
  running := h.running
  cache_task key time result hget :=
    let ⟨htime, hrest⟩ := h.cache_task key time result (hsub key _ hget)
    ⟨htime.trans hclock, hrest⟩
  not_cached := h.not_cached

theorem Sound.dropCached (h : Sound s) {cache : Cache} {clock : ℚ}
    (hsub : ∀ key v, cache.get? key = some v → s.cache.get? key = some v)
    (hclock : s.clock ≤ clock) : Sound { s with cache, clock } :=
  ⟨h.inv.dropCached hsub hclock, h.callers⟩

/-- A call returns a cached result that is fresh, or goes on with a task. -/
theorem Sound.cachedCheck (h : Sound s) (caller : Nat) (key : CacheKey) {now : ℚ}
    (hnow : s.clock ≤ now) :
    let s' := { s with clock := now }.cachedCheck caller key now
    Sound s' ∧ Extends s s' ∧ ((∃ result, s'.callers caller = some (.hit key result now)) ∨
      ∃ i, OnTask s' caller key i ∧ JoinedTask s s' caller key i) := by
  dsimp only
  unfold State.cachedCheck
  dsimp only
  split
  · next time result hget =>
      split
      · next hfresh =>
          obtain ⟨htime, hok, i, hfin⟩ := h.inv.cache_task key time result hget
          have hsound : Sound { s with cache := s.cache.moveToEnd key, clock := now } :=
            h.dropCached (fun key' v hv => by rwa [Dict.get?_moveToEnd] at hv) hnow
          have hhit : CallerOk s (.hit key (result.set "cached" (.bool true)) now) :=
            ⟨i, result, time, hfin, hok, htime.trans hnow, hfresh, rfl⟩
          exact ⟨hsound.setCaller caller hhit, Extends.of_eq rfl, Or.inl ⟨_, setCaller_callers ..⟩⟩
      · have hsound : Sound { s with cache := s.cache.erase key, clock := now } := by
          refine h.dropCached (fun key' v hv => ?_) hnow
          rw [Dict.get?_erase] at hv
          split at hv
          · cases hv
          · exact hv
        obtain ⟨hsound', hext, hjoin⟩ := hsound.join caller key
        exact ⟨hsound', hext, Or.inr hjoin⟩
  · have hsound : Sound { s with clock := now } := h.dropCached (fun _ _ hv => hv) hnow
    obtain ⟨hsound', hext, hjoin⟩ := hsound.join caller key
    exact ⟨hsound', hext, Or.inr hjoin⟩

/-- The tasks after an update of one. -/
theorem getElem?_set_task {tasks : List LoadTask} {i : Nat} {task : LoadTask}
    (htask : tasks[i]? = some task) (task' : LoadTask) (j : Nat) :
    (tasks.set i task')[j]? = if j = i then some task' else tasks[j]? := by
  rw [List.getElem?_set]
  by_cases heq : i = j
  · rw [if_pos heq, if_pos heq.symm, if_pos (List.getElem?_eq_some_iff.mp htask).1]
  · rw [if_neg heq, if_neg (Ne.symm heq)]

theorem extends_set {i : Nat} {task task' : LoadTask} (htask : s.tasks[i]? = some task)
    (hkey : task'.key = task.key)
    (hout : ∀ outcome, task.outcome = some outcome → task'.outcome = some outcome)
    (htasks : s'.tasks = s.tasks.set i task') : Extends s s' := by
  intro j t ht
  rw [htasks, getElem?_set_task htask]
  by_cases heq : j = i
  · subst heq
    rw [htask, Option.some.injEq] at ht
    subst ht
    exact ⟨task', if_pos rfl, hkey, hout⟩
  · exact ⟨t, by rw [if_neg heq, ht], rfl, fun _ h => h⟩

theorem loadResult_not_cached {wallTime : ℤ} {check : CheckOutcome} {result : Result}
    (h : loadResult wallTime check = some result) : result.get? "cached" = some (.bool false) := by
  cases check with
  | returned r => exact Option.some.inj h ▸ Dict.get?_set_self
  | raised => exact Option.some.inj h ▸ Dict.get?_set_self
  | escaped => cases h

/-- What `CACHE` holds after a load: at most what it held, and the result if it is ok. -/
theorem get?_storeResult {key key' : CacheKey} {result : Result} {now : ℚ} {cache : Cache}
    {v : ℚ × Result} (h : (storeResult key result now cache).get? key' = some v) :
    (key' = key ∧ v = (now, result) ∧ isOk result = true) ∨ cache.get? key' = some v := by
  unfold storeResult at h
  split at h
  · next hok =>
      have hset := Dict.get?_of_get?_dropOldest h
      rw [Dict.get?_moveToEnd, Dict.get?_set] at hset
      split at hset
      · next heq => exact Or.inl ⟨heq, (Option.some.inj hset).symm, hok⟩
      · exact Or.inr hset
  · exact Or.inr h

/-- The state after a task has finished. -/
def State.finishTask (s : State) (i : Nat) (task : LoadTask) (outcome : Outcome) (now : ℚ)
    (cache : Cache) : State :=
  { s with
    clock := now
    cache
    tasks := s.tasks.set i { task with outcome := some (outcome, now) } }

/-- A running task finishes. `cache` holds what it held before, and at most the new result. -/
theorem Sound.finishTask (h : Sound s) {i : Nat} {task : LoadTask}
    (htask : s.tasks[i]? = some task) (hrun : task.outcome = none) {outcome : Outcome} {now : ℚ}
    (hnow : s.clock ≤ now)
    (hfresh : ∀ result, outcome = .result result → result.get? "cached" = some (.bool false))
    {cache : Cache} (hcache : ∀ key v, cache.get? key = some v →
      (key = task.key ∧ ∃ result, outcome = .result result ∧ v = (now, result) ∧
        isOk result = true) ∨ s.cache.get? key = some v) :
    Sound (s.finishTask i task outcome now cache) ∧
      Extends s (s.finishTask i task outcome now cache) := by
  set finished : LoadTask := { task with outcome := some (outcome, now) } with hfinished
  have hget : ∀ j : Nat, (s.finishTask i task outcome now cache).tasks[j]? =
      if j = i then some finished else s.tasks[j]? := getElem?_set_task htask finished
  have hext : Extends s (s.finishTask i task outcome now cache) :=
    @extends_set s _ i task finished htask rfl (fun _ hout => by rw [hrun] at hout; cases hout) rfl
  refine ⟨⟨?_, fun c x hx => (h.callers c x hx).extends hext⟩, hext⟩
  constructor
  case pending_task =>
    intro key j hpending
    obtain ⟨t, ht, hkey, hcleared⟩ := h.inv.pending_task key j hpending
    rw [hget]
    by_cases heq : j = i
    · subst heq
      rw [htask, Option.some.injEq] at ht
      subst ht
      exact ⟨_, if_pos rfl, hkey, hcleared⟩
    · exact ⟨t, by rw [if_neg heq, ht], hkey, hcleared⟩
  case task_pending =>
    intro j t ht hcleared
    rw [hget] at ht
    split at ht
    · next heq =>
        cases ht
        subst heq
        exact h.inv.task_pending j task htask hcleared
    · exact h.inv.task_pending j t ht hcleared
  case running =>
    intro j t ht hout
    rw [hget] at ht
    split at ht
    · cases ht
      cases hout
    · exact h.inv.running j t ht hout
  case cache_task =>
    intro key time result hcached
    rcases hcache key _ hcached with ⟨rfl, result', hout, heq, hok⟩ | hold
    · -- stored just now, by the task that has finished
      cases heq
      exact ⟨le_rfl, hok, i, _, (hget i).trans (if_pos rfl), rfl, by rw [hfinished, hout]⟩
    · obtain ⟨htime, hok, j, hfin⟩ := h.inv.cache_task key time result hold
      exact ⟨htime.trans hnow, hok, j, hext.finished hfin⟩
  case not_cached =>
    intro j t result time ht hout
    rw [hget] at ht
    split at ht
    · cases ht
      exact hfresh result (Prod.mk.inj (Option.some.inj hout)).1
    · exact h.inv.not_cached j t result time ht hout

theorem Sound.finishLoad (h : Sound s) {i : Nat} {task : LoadTask}
    (htask : s.tasks[i]? = some task) (hrun : task.outcome = none) (check : CheckOutcome)
    (wallTime : ℤ) {now : ℚ} (hnow : s.clock ≤ now) :
    let s' := { s with clock := now }.finishLoad i task check wallTime now
    Sound s' ∧ Extends s s' := by
  dsimp only
  unfold State.finishLoad
  split
  · next result hload =>
      refine h.finishTask htask hrun hnow ?_ ?_
      · intro r hr
        cases hr
        exact loadResult_not_cached hload
      · intro key v hv
        rcases get?_storeResult hv with ⟨hkey, hval, hok⟩ | hold
        · exact Or.inl ⟨hkey, result, rfl, hval, hok⟩
        · exact Or.inr hold
  · exact h.finishTask htask hrun hnow (fun r hr => by cases hr) fun _ _ hv => Or.inr hv

/-- The done-callback of a finished task. -/
theorem Sound.clear (h : Sound s) {i : Nat} {task : LoadTask} (htask : s.tasks[i]? = some task)
    (hdone : task.outcome.isSome = true) (hcleared : task.cleared = false) :
    let s' : State := { s with
      pending := s.pending.erase task.key
      tasks := s.tasks.set i { task with cleared := true } }
    Sound s' ∧ Extends s s' := by
  intro s'
  set done : LoadTask := { task with cleared := true }
  have hget : ∀ j : Nat, s'.tasks[j]? = if j = i then some done else s.tasks[j]? :=
    getElem?_set_task htask done
  have hext : Extends s s' := @extends_set s s' i task done htask rfl (fun _ h => h) rfl
  have hpending : s.pending.get? task.key = some i := h.inv.task_pending i task htask hcleared
  refine ⟨⟨?_, fun c x hx => (h.callers c x hx).extends hext⟩, hext⟩
  constructor
  case pending_task =>
    intro key j hget'
    rw [Dict.get?_erase] at hget'
    split at hget'
    · cases hget'
    · next hkey =>
        obtain ⟨t, ht, rfl, hopen⟩ := h.inv.pending_task key j hget'
        have hne : j ≠ i := by
          intro heq
          subst heq
          rw [htask, Option.some.injEq] at ht
          exact hkey (ht ▸ rfl)
        exact ⟨t, by rw [hget, if_neg hne, ht], rfl, hopen⟩
  case task_pending =>
    intro j t ht hopen
    rw [hget] at ht
    split at ht
    · cases ht
      cases hopen
    · next hne =>
        -- a task with the same key would be the one that is cleared
        have hpending' := h.inv.task_pending j t ht hopen
        rw [Dict.get?_erase, if_neg, hpending']
        intro heq
        rw [heq, hpending] at hpending'
        exact hne (Option.some.inj hpending').symm
  case running =>
    intro j t ht hout
    rw [hget] at ht
    split at ht
    · cases ht
      rw [show task.outcome = none from hout] at hdone
      cases hdone
    · exact h.inv.running j t ht hout
  case cache_task =>
    intro key time result hcached
    obtain ⟨htime, hok, j, hfin⟩ := h.inv.cache_task key time result hcached
    exact ⟨htime, hok, j, hext.finished hfin⟩
  case not_cached =>
    intro j t result time ht hout
    rw [hget] at ht
    split at ht
    · next heq =>
        cases ht
        subst heq
        exact h.inv.not_cached j task result time htask hout
    · exact h.inv.not_cached j t result time ht hout

/-! ### The actions -/

theorem step_call {caller : Nat} {key : CacheKey} {now : ℚ}
    (h : step s (.call caller key now) = some s') :
    s.callers caller = none ∧ s.clock ≤ now ∧
      s' = { s with clock := now }.cachedCheck caller key now := by
  simp only [step] at h
  split at h
  · cases h
  · next hnone =>
      obtain ⟨hnow, h⟩ := Option.ite_none_right_eq_some.mp h
      exact ⟨hnone, hnow, (Option.some.inj h).symm⟩

theorem step_finish {i : Nat} {check : CheckOutcome} {wallTime : ℤ} {now : ℚ}
    (h : step s (.finish i check wallTime now) = some s') :
    ∃ task, s.tasks[i]? = some task ∧ task.outcome = none ∧ s.clock ≤ now ∧
      s' = { s with clock := now }.finishLoad i task check wallTime now := by
  simp only [step] at h
  split at h
  · cases h
  · next task htask =>
      obtain ⟨⟨hrun, hnow⟩, h⟩ := Option.ite_none_right_eq_some.mp h
      exact ⟨task, htask, Option.isNone_iff_eq_none.mp hrun, hnow, (Option.some.inj h).symm⟩

theorem step_clear {i : Nat} (h : step s (.clear i) = some s') :
    ∃ task, s.tasks[i]? = some task ∧ task.outcome.isSome = true ∧ task.cleared = false ∧
      s' = { s with
        pending := s.pending.erase task.key
        tasks := s.tasks.set i { task with cleared := true } } := by
  simp only [step] at h
  split at h
  · cases h
  · next task htask =>
      obtain ⟨⟨hdone, hcleared⟩, h⟩ := Option.ite_none_right_eq_some.mp h
      rw [Bool.not_eq_true'] at hcleared
      exact ⟨task, htask, hdone, hcleared, (Option.some.inj h).symm⟩

theorem step_deliver {caller : Nat} (h : step s (.deliver caller) = some s') :
    ∃ key i outcome time, s.callers caller = some (.waiting key i) ∧
      s.tasks[i]?.bind LoadTask.outcome = some (outcome, time) ∧
      s' = s.setCaller caller (.received key i outcome) := by
  simp only [step] at h
  split at h
  · next key i hcaller =>
      split at h
      · next outcome time hout =>
          exact ⟨key, i, outcome, time, hcaller, hout, (Option.some.inj h).symm⟩
      · cases h
  · cases h

theorem step_cancel {caller : Nat} (h : step s (.cancel caller) = some s') :
    ∃ key i, s.callers caller = some (.waiting key i) ∧
      s' = s.setCaller caller (.cancelled key) := by
  simp only [step] at h
  split at h
  · next key i hcaller => exact ⟨key, i, hcaller, (Option.some.inj h).symm⟩
  · cases h

/-- What a caller waits for is a load for its key, so what is delivered to it is the outcome of
one. -/
theorem Sound.finished_of_waiting (h : Sound s) {caller : Nat} {key : CacheKey} {i : Nat}
    {outcome : Outcome} {time : ℚ} (hcaller : s.callers caller = some (.waiting key i))
    (hout : s.tasks[i]?.bind LoadTask.outcome = some (outcome, time)) :
    s.Finished i key outcome time := by
  obtain ⟨task, htask, hkey⟩ := h.callers caller _ hcaller
  rw [htask, Option.bind_some] at hout
  exact ⟨task, htask, hkey, hout⟩

/-- Every action keeps the invariant, and every task with its outcome. -/
theorem Sound.step (h : Sound s) {a : Action} (hstep : step s a = some s') :
    Sound s' ∧ Extends s s' := by
  cases a with
  | call caller key now =>
      obtain ⟨-, hnow, rfl⟩ := step_call hstep
      obtain ⟨hsound, hext, -⟩ := h.cachedCheck caller key hnow
      exact ⟨hsound, hext⟩
  | finish i check wallTime now =>
      obtain ⟨task, htask, hrun, hnow, rfl⟩ := step_finish hstep
      exact h.finishLoad htask hrun check wallTime hnow
  | clear i =>
      obtain ⟨task, htask, hdone, hcleared, rfl⟩ := step_clear hstep
      exact h.clear htask hdone hcleared
  | deliver caller =>
      obtain ⟨key, i, outcome, time, hcaller, hout, rfl⟩ := step_deliver hstep
      have hfin := h.finished_of_waiting hcaller hout
      exact ⟨h.setCaller caller ⟨time, hfin⟩, Extends.of_eq rfl⟩
  | cancel caller =>
      obtain ⟨key, i, -, rfl⟩ := step_cancel hstep
      exact ⟨h.setCaller caller trivial, Extends.of_eq rfl⟩

/-! ### One caller among others -/

theorem setCaller_other (s : State) {caller caller' : Nat} (hne : caller ≠ caller') (c : Caller) :
    (s.setCaller caller' c).callers caller = s.callers caller :=
  Function.update_of_ne hne _ _

theorem await_other (s : State) {caller caller' : Nat} (hne : caller ≠ caller') (key : CacheKey)
    (i : Nat) : (s.await caller' key i).callers caller = s.callers caller := by
  unfold State.await
  split
  · exact setCaller_other s hne _
  · exact setCaller_other s hne _

theorem join_other (s : State) {caller caller' : Nat} (hne : caller ≠ caller') (key : CacheKey) :
    (s.join caller' key).callers caller = s.callers caller := by
  unfold State.join
  split
  · exact await_other s hne key _
  · exact await_other _ hne key _

theorem cachedCheck_other (s : State) {caller caller' : Nat} (hne : caller ≠ caller')
    (key : CacheKey) (now : ℚ) :
    (s.cachedCheck caller' key now).callers caller = s.callers caller := by
  unfold State.cachedCheck
  split
  · split
    · exact setCaller_other _ hne _
    · exact join_other _ hne key
  · exact join_other s hne key

/-- What can happen to a caller after its call: nothing, or the end of its wait. -/
theorem step_caller (h : Sound s) {a : Action} (hstep : step s a = some s') {caller : Nat}
    {c : Caller} (hc : s.callers caller = some c) :
    s'.callers caller = some c ∨ ∃ key i, c = .waiting key i ∧
      ((a = .cancel caller ∧ s'.callers caller = some (.cancelled key)) ∨
        ∃ outcome time, s.Finished i key outcome time ∧
          s'.callers caller = some (.received key i outcome)) := by
  cases a with
  | call caller' key now =>
      obtain ⟨hnone, -, rfl⟩ := step_call hstep
      -- whoever calls has not called before
      have hne : caller ≠ caller' := by
        intro heq
        rw [← heq, hc] at hnone
        cases hnone
      exact Or.inl ((cachedCheck_other _ hne key now).trans hc)
  | finish i check wallTime now =>
      obtain ⟨task, -, -, -, rfl⟩ := step_finish hstep
      left
      unfold State.finishLoad
      split
      · exact hc
      · exact hc
  | clear i =>
      obtain ⟨task, -, -, -, rfl⟩ := step_clear hstep
      exact Or.inl hc
  | deliver caller' =>
      obtain ⟨key, i, outcome, time, hcaller, hout, rfl⟩ := step_deliver hstep
      by_cases heq : caller = caller'
      · subst heq
        have hfin := h.finished_of_waiting hcaller hout
        rw [hc, Option.some.injEq] at hcaller
        exact Or.inr ⟨key, i, hcaller, Or.inr ⟨outcome, time, hfin, setCaller_callers ..⟩⟩
      · exact Or.inl ((setCaller_other s heq _).trans hc)
  | cancel caller' =>
      obtain ⟨key, i, hcaller, rfl⟩ := step_cancel hstep
      by_cases heq : caller = caller'
      · subst heq
        rw [hc, Option.some.injEq] at hcaller
        exact Or.inr ⟨key, i, hcaller, Or.inl ⟨rfl, setCaller_callers ..⟩⟩
      · exact Or.inl ((setCaller_other s heq _).trans hc)

/-- The action is one of the caller itself. -/
def Action.about (caller : Nat) : Action → Prop
  | .call c _ _ => c = caller
  | .deliver c => c = caller
  | .cancel c => c = caller
  | .finish _ _ _ _ => False
  | .clear _ => False

/-- Two states that differ in one caller at most. -/
structure SameButFor (caller : Nat) (s t : State) : Prop where
  cache : t.cache = s.cache
  pending : t.pending = s.pending
  tasks : t.tasks = s.tasks
  clock : t.clock = s.clock
  callers : ∀ c, c ≠ caller → t.callers c = s.callers c

variable {caller : Nat} {t : State}

theorem SameButFor.setCaller (h : SameButFor caller s t) (c : Nat) (x : Caller) :
    SameButFor caller (s.setCaller c x) (t.setCaller c x) := by
  refine ⟨h.cache, h.pending, h.tasks, h.clock, ?_⟩
  intro c' hc'
  by_cases heq : c' = c
  · subst heq
    rw [setCaller_callers, setCaller_callers]
  · rw [setCaller_other s heq x, setCaller_other t heq x]
    exact h.callers c' hc'

theorem SameButFor.await (h : SameButFor caller s t) (c : Nat) (key : CacheKey) (i : Nat) :
    SameButFor caller (s.await c key i) (t.await c key i) := by
  unfold State.await
  rw [h.tasks]
  split
  · exact h.setCaller c _
  · exact h.setCaller c _

theorem SameButFor.join (h : SameButFor caller s t) (c : Nat) (key : CacheKey) :
    SameButFor caller (s.join c key) (t.join c key) := by
  unfold State.join
  rw [h.pending]
  split
  · exact h.await c key _
  · dsimp only
    rw [h.tasks]
    refine SameButFor.await ?_ c key _
    exact ⟨h.cache, rfl, rfl, h.clock, h.callers⟩

theorem SameButFor.cachedCheck (h : SameButFor caller s t) (c : Nat) (key : CacheKey) (now : ℚ) :
    SameButFor caller ({ s with clock := now }.cachedCheck c key now)
      ({ t with clock := now }.cachedCheck c key now) := by
  unfold State.cachedCheck
  dsimp only
  rw [h.cache]
  split
  · split
    · refine SameButFor.setCaller ?_ c _
      exact ⟨rfl, h.pending, h.tasks, rfl, h.callers⟩
    · refine SameButFor.join ?_ c key
      exact ⟨rfl, h.pending, h.tasks, rfl, h.callers⟩
  · refine SameButFor.join ?_ c key
    exact ⟨rfl, h.pending, h.tasks, rfl, h.callers⟩

/-- The others neither see nor feel the one caller in which the states differ. -/
theorem SameButFor.step (h : SameButFor caller s t) {a : Action} (ha : ¬ a.about caller) :
    Option.Rel (SameButFor caller) (step s a) (step t a) := by
  cases a with
  | call c key now =>
      simp only [Reputation.step, h.callers c ha, h.clock]
      split
      · exact .none
      · split
        · exact .some (h.cachedCheck c key now)
        · exact .none
  | finish i check wallTime now =>
      simp only [Reputation.step, h.tasks, h.clock]
      split
      · exact .none
      · split
        · refine .some ?_
          unfold State.finishLoad
          dsimp only
          rw [h.cache]
          split
          · exact ⟨rfl, h.pending, rfl, rfl, h.callers⟩
          · exact ⟨rfl, h.pending, rfl, rfl, h.callers⟩
        · exact .none
  | clear i =>
      simp only [Reputation.step, h.tasks, h.pending]
      split
      · exact .none
      · split
        · exact .some ⟨h.cache, rfl, rfl, h.clock, h.callers⟩
        · exact .none
  | deliver c =>
      simp only [Reputation.step, h.callers c ha, h.tasks]
      split
      · next key i _ =>
          cases s.tasks[i]?.bind LoadTask.outcome with
          | none => exact .none
          | some outcome => exact .some (h.setCaller c _)
      · exact .none
  | cancel c =>
      simp only [Reputation.step, h.callers c ha]
      split
      · exact .some (h.setCaller c _)
      · exact .none

/-! ### Single flight -/

/-- The dictionary that a call has returned. -/
def Caller.result? : Caller → Option Result
  | .hit _ result _ => some result
  | .received _ _ (.result result) => some result
  | _ => none

/-- What holds in every state of every run. -/
structure SingleFlight (s : State) : Prop where
  /-- There is at most one unfinished load for a key. -/
  one_load : ∀ (i j : Nat) (task task' : LoadTask), s.tasks[i]? = some task →
    s.tasks[j]? = some task' → task.outcome = none → task'.outcome = none →
    task.key = task'.key → i = j
  /-- A result that says it is cached is that of a load for the same key, which finished with
  status ok less than the lifetime before the call. -/
  cached : ∀ caller c (result : Result), s.callers caller = some c → c.result? = some result →
    result.get? "cached" = some (.bool true) →
    ∃ key now i loaded time, c = .hit key result now ∧ s.Finished i key (.result loaded) time ∧
      isOk loaded = true ∧ time ≤ now ∧ now - time < cacheTtlSeconds ∧
      result = loaded.set "cached" (.bool true)
  /-- A new call returns such a result, or goes on with the load for its key: a new one, or one
  whose done-callback has not run. -/
  arrives : ∀ caller key now s', step s (.call caller key now) = some s' →
    (∃ result, s'.callers caller = some (.hit key result now)) ∨
      ∃ i, OnTask s' caller key i ∧ JoinedTask s s' caller key i
  /-- From then on the caller keeps what it has returned; and if it waits, it goes on waiting for
  the same load until it is cancelled or receives the outcome of the load. -/
  waits : ∀ a s', step s a = some s' → ∀ caller c, s.callers caller = some c →
    s'.callers caller = some c ∨ ∃ key i, c = .waiting key i ∧
      ((a = .cancel caller ∧ s'.callers caller = some (.cancelled key)) ∨
        ∃ outcome time, s.Finished i key outcome time ∧
          s'.callers caller = some (.received key i outcome))
  /-- Whoever waits for a load gets its outcome once it has finished. -/
  receives : ∀ caller key i, s.callers caller = some (.waiting key i) →
    (∃ task, s.tasks[i]? = some task ∧ task.key = key) ∧
      ∀ outcome time, s.Finished i key outcome time →
        ∃ s', step s (.deliver caller) = some s' ∧
          s'.callers caller = some (.received key i outcome)
  /-- Whoever has received an outcome has that of the load it waited for. -/
  received : ∀ caller key i outcome, s.callers caller = some (.received key i outcome) →
    ∃ time, s.Finished i key outcome time
  /-- A cancelled call leaves the load and the others alone: what they do next, they can do just
  as well without the cancellation, and to the same end. -/
  cancels : ∀ caller s', step s (.cancel caller) = some s' → SameButFor caller s s' ∧
    ∀ actions : List Action, (∀ a ∈ actions, ¬ a.about caller) →
      Option.Rel (SameButFor caller) (run step s actions) (run step s' actions)

/-- Two tasks for a key whose callbacks have not run are the same one. -/
theorem Inv.one_load (h : Inv s) {i j : Nat} {task task' : LoadTask}
    (htask : s.tasks[i]? = some task) (htask' : s.tasks[j]? = some task')
    (hout : task.outcome = none) (hout' : task'.outcome = none) (hkey : task.key = task'.key) :
    i = j := by
  have hi := h.task_pending i task htask (h.running i task htask hout)
  have hj := h.task_pending j task' htask' (h.running j task' htask' hout')
  rw [hkey, hj] at hi
  exact (Option.some.inj hi).symm

theorem Sound.singleFlight (h : Sound s) : SingleFlight s where
  one_load i j task task' htask htask' hout hout' hkey :=
    h.inv.one_load htask htask' hout hout' hkey
  cached caller c result hc hresult hcached := by
    have hok := h.callers caller c hc
    cases c with
    | hit key r now =>
        obtain rfl := Option.some.inj hresult
        obtain ⟨i, loaded, time, hrest⟩ := hok
        exact ⟨key, now, i, loaded, time, rfl, hrest⟩
    | received key i outcome =>
        cases outcome with
        | result r =>
            obtain rfl := Option.some.inj hresult
            obtain ⟨time, task, htask, -, hout⟩ := hok
            -- what a load returns says that it is not cached
            have hfresh := h.inv.not_cached i task r time htask hout
            rw [hcached] at hfresh
            cases hfresh
        | exception => cases hresult
    | waiting key i => cases hresult
    | cancelled key => cases hresult
  arrives caller key now s' hstep := by
    obtain ⟨-, hnow, rfl⟩ := step_call hstep
    exact (h.cachedCheck caller key hnow).2.2
  waits a s' hstep caller c hc := step_caller h hstep hc
  receives caller key i hc := by
    refine ⟨h.callers caller _ hc, ?_⟩
    intro outcome time hfin
    obtain ⟨task, htask, -, hout⟩ := hfin
    refine ⟨s.setCaller caller (.received key i outcome), ?_, setCaller_callers ..⟩
    simp only [Reputation.step, hc, htask, Option.bind_some, hout]
  received caller key i outcome hc := h.callers caller _ hc
  cancels caller s' hstep := by
    obtain ⟨key, i, -, rfl⟩ := step_cancel hstep
    have hsame : SameButFor caller s (s.setCaller caller (.cancelled key)) :=
      ⟨rfl, rfl, rfl, rfl, fun c hc => setCaller_other s hc _⟩
    exact ⟨hsame, fun actions hactions =>
      run_related (fun s t a ha hst => hst.step (hactions a ha)) hsame⟩

/-- **`cached_check` is single-flight**, and what it returns comes from a load for the same key. -/
theorem cachedCheck_singleFlight (clock : ℚ) (actions : List Action) (s : State)
    (hrun : run step (State.init clock) actions = some s) : SingleFlight s := by
  have hsound : Sound s :=
    run_induction (fun _ _ _ _ h hstep => (h.step hstep).1) (Sound.init clock) hrun
  exact hsound.singleFlight

/-- Two callers share a load, the first is cancelled, the second receives the result, and a third
finds it in the cache. -/
theorem cachedCheck_singleFlight_shared :
    let key : CacheKey := ⟨"ipapi", "192.0.2.1", []⟩
    let actions : List Action := [.call 0 key 1, .call 1 key 2, .cancel 0,
      .finish 0 (.returned (Dict.set ∅ "status" (.str "ok"))) 0 3, .clear 0, .deliver 1,
      .call 2 key 4]
    ∃ s, run step (State.init 0) actions = some s ∧ s.tasks.length = 1 ∧ SingleFlight s := by
  intro key actions
  have hlen : (run step (State.init 0) actions).map (fun s => s.tasks.length) = some 1 := by
    decide +kernel
  obtain ⟨s, hrun, hlen⟩ := Option.map_eq_some_iff.mp hlen
  exact ⟨s, hrun, hlen, cachedCheck_singleFlight 0 actions s hrun⟩

end PxManager.Reputation
