import PxManager.Reputation.SingleFlight

/-!
# PxManager.Reputation.Tasks

What one action of the `cached_check` machine does to one task and to one caller. Whoever builds on
the machine needs these facts and not the code behind them.
-/

namespace PxManager.Reputation

open PxManager.Core

variable {s s' : State}

/-- The key with which `cached_check` was called. -/
def Caller.key : Caller → CacheKey
  | .waiting key _ => key
  | .hit key _ _ => key
  | .received key _ _ => key
  | .cancelled key => key

/-- How a task ends whose check has the outcome. -/
def ended (wallTime : ℤ) (check : CheckOutcome) : Outcome :=
  match loadResult wallTime check with
  | some result => .result result
  | none => .exception

/-! ### The clock -/

theorem await_clock (s : State) (caller : Nat) (key : CacheKey) (i : Nat) :
    (s.await caller key i).clock = s.clock := by
  unfold State.await
  split <;> rfl

theorem join_clock (s : State) (caller : Nat) (key : CacheKey) :
    (s.join caller key).clock = s.clock := by
  unfold State.join
  split
  · exact await_clock s caller key _
  · exact await_clock _ caller key _

theorem cachedCheck_clock (s : State) (caller : Nat) (key : CacheKey) (now : ℚ) :
    (s.cachedCheck caller key now).clock = s.clock := by
  unfold State.cachedCheck
  split
  · split
    · rfl
    · exact join_clock _ caller key
  · exact join_clock s caller key

/-- The clock never goes back. -/
theorem step_clock_le {a : Action} (hstep : step s a = some s') : s.clock ≤ s'.clock := by
  cases a with
  | call caller key now =>
      obtain ⟨-, hnow, rfl⟩ := step_call hstep
      rw [cachedCheck_clock]
      exact hnow
  | finish i check wallTime now =>
      obtain ⟨task, -, -, hnow, rfl⟩ := step_finish hstep
      unfold State.finishLoad
      split
      · exact hnow
      · exact hnow
  | clear i =>
      obtain ⟨task, -, -, -, rfl⟩ := step_clear hstep
      exact le_rfl
  | deliver caller =>
      obtain ⟨key, i, outcome, time, -, -, rfl⟩ := step_deliver hstep
      exact le_rfl
  | cancel caller =>
      obtain ⟨key, i, -, rfl⟩ := step_cancel hstep
      exact le_rfl

/-! ### One task -/

theorem await_tasks (s : State) (caller : Nat) (key : CacheKey) (i : Nat) :
    (s.await caller key i).tasks = s.tasks := by
  unfold State.await
  split <;> rfl

/-- A call starts one task at most. -/
theorem join_tasks (s : State) (caller : Nat) (key : CacheKey) :
    (s.join caller key).tasks = s.tasks ∨
      (s.join caller key).tasks = s.tasks ++ [⟨key, caller, none, false⟩] := by
  unfold State.join
  split
  · exact .inl (await_tasks s caller key _)
  · exact .inr (await_tasks _ caller key _)

theorem cachedCheck_tasks (s : State) (caller : Nat) (key : CacheKey) (now : ℚ) :
    (s.cachedCheck caller key now).tasks = s.tasks ∨
      (s.cachedCheck caller key now).tasks = s.tasks ++ [⟨key, caller, none, false⟩] := by
  unfold State.cachedCheck
  split
  · split
    · exact .inl rfl
    · exact join_tasks _ caller key
  · exact join_tasks s caller key

theorem finishLoad_tasks (s : State) (i : Nat) (task : LoadTask) (check : CheckOutcome)
    (wallTime : ℤ) (now : ℚ) : (s.finishLoad i task check wallTime now).tasks =
      s.tasks.set i { task with outcome := some (ended wallTime check, now) } := by
  unfold State.finishLoad ended
  cases loadResult wallTime check <;> rfl

/-- What has become of a task: it is as it was, but for its callback, or the action has finished it,
or the action is the call that has started it. -/
inductive TaskStep (s : State) (a : Action) (i : Nat) (task' : LoadTask) : Prop
  | kept (task : LoadTask) (htask : s.tasks[i]? = some task) (hkey : task'.key = task.key)
      (houtcome : task'.outcome = task.outcome)
  | finished (task : LoadTask) (htask : s.tasks[i]? = some task) (hkey : task'.key = task.key)
      (check : CheckOutcome) (wallTime : ℤ) (now : ℚ)
      (haction : a = .finish i check wallTime now)
      (houtcome : task'.outcome = some (ended wallTime check, now))
  | started (caller : Nat) (now : ℚ) (haction : a = .call caller task'.key now)
      (hindex : i = s.tasks.length) (houtcome : task'.outcome = none)

theorem step_task {a : Action} (hstep : step s a = some s') {i : Nat} {task' : LoadTask}
    (htask' : s'.tasks[i]? = some task') : TaskStep s a i task' := by
  cases a with
  | call caller key now =>
      obtain ⟨-, -, rfl⟩ := step_call hstep
      rcases cachedCheck_tasks { s with clock := now } caller key now with htasks | htasks
      · rw [htasks] at htask'
        exact .kept task' htask' rfl rfl
      · rw [htasks, List.getElem?_append] at htask'
        split at htask'
        · exact .kept task' htask' rfl rfl
        · next hge =>
            obtain ⟨hlt, heq⟩ := List.getElem?_eq_some_iff.mp htask'
            have hindex : i = s.tasks.length := by
              rw [List.length_singleton] at hlt
              dsimp only at hge hlt
              omega
            obtain rfl : ⟨key, caller, none, false⟩ = task' := by simpa using heq
            exact .started caller now rfl hindex rfl
  | finish j check wallTime now =>
      obtain ⟨task, htask, -, -, rfl⟩ := step_finish hstep
      rw [finishLoad_tasks, getElem?_set_task htask] at htask'
      split at htask'
      · next heq =>
          cases htask'
          subst heq
          exact .finished task htask rfl check wallTime now rfl rfl
      · exact .kept task' htask' rfl rfl
  | clear j =>
      obtain ⟨task, htask, -, -, rfl⟩ := step_clear hstep
      rw [getElem?_set_task htask] at htask'
      split at htask'
      · next heq =>
          cases htask'
          subst heq
          exact .kept task htask rfl rfl
      · exact .kept task' htask' rfl rfl
  | deliver caller =>
      obtain ⟨key, j, outcome, time, -, -, rfl⟩ := step_deliver hstep
      exact .kept task' htask' rfl rfl
  | cancel caller =>
      obtain ⟨key, j, -, rfl⟩ := step_cancel hstep
      exact .kept task' htask' rfl rfl

theorem loadResult_of_ended {wallTime : ℤ} {check : CheckOutcome} {result : Result}
    (h : ended wallTime check = .result result) : loadResult wallTime check = some result := by
  unfold ended at h
  split at h
  · next hload =>
      cases h
      exact hload
  · cases h

/-- A load has status ok only if its check has. -/
theorem isOk_of_loadResult {wallTime : ℤ} {check : CheckOutcome} {result : Result}
    (h : loadResult wallTime check = some result) (hok : isOk result = true) :
    ∃ checked, check = .returned checked ∧ isOk checked = true := by
  cases check with
  | escaped => cases h
  | raised =>
      cases h
      simp [isOk, Dict.contains, Dict.get?_set, Json.asStr?] at hok
  | returned checked =>
      refine ⟨checked, rfl, ?_⟩
      cases h
      unfold isOk at hok ⊢
      dsimp only at hok
      split at hok
      · simpa [Dict.get?_set] using hok
      · simp [Dict.get?_set, Json.asStr?] at hok

/-! ### One caller -/

/-- A caller keeps its key, and what it has returned. -/
def Caller.Before (c c' : Caller) : Prop :=
  c'.key = c.key ∧ ∀ result, c.result? = some result → c' = c

theorem step_before (h : Sound s) {a : Action} (hstep : step s a = some s') {caller : Nat}
    {c : Caller} (hc : s.callers caller = some c) :
    ∃ c', s'.callers caller = some c' ∧ c.Before c' := by
  rcases step_caller h hstep hc with hkept | ⟨key, i, rfl, hends⟩
  · exact ⟨c, hkept, rfl, fun _ _ => rfl⟩
  · rcases hends with ⟨-, hcancelled⟩ | ⟨outcome, time, -, hreceived⟩
    · exact ⟨_, hcancelled, rfl, fun result hresult => by cases hresult⟩
    · exact ⟨_, hreceived, rfl, fun result hresult => by cases hresult⟩

/-- Whoever has called is there with its key. -/
theorem Sound.called (h : Sound s) {caller : Nat} {key : CacheKey} {now : ℚ}
    (hstep : Reputation.step s (.call caller key now) = some s') :
    ∃ c, s'.callers caller = some c ∧ c.key = key := by
  obtain ⟨-, hnow, rfl⟩ := step_call hstep
  obtain ⟨-, -, hhit | ⟨i, hon, -⟩⟩ := h.cachedCheck caller key hnow
  · obtain ⟨result, hcaller⟩ := hhit
    exact ⟨_, hcaller, rfl⟩
  · rcases hon with hwaiting | ⟨outcome, hreceived⟩
    · exact ⟨_, hwaiting, rfl⟩
    · exact ⟨_, hreceived, rfl⟩

/-- A dictionary that a call has returned with status ok is that of a finished task for its key, or
that of one from the cache. -/
theorem CallerOk.result {c : Caller} (h : CallerOk s c) {result : Result}
    (hresult : c.result? = some result) (hok : isOk result = true) :
    ∃ i loaded time, s.Finished i c.key (.result loaded) time ∧ isOk loaded = true ∧
      (result = loaded ∨ result = loaded.set "cached" (.bool true)) := by
  cases c with
  | hit key r now =>
      obtain rfl := Option.some.inj hresult
      obtain ⟨i, loaded, time, hfin, hloaded, -, -, heq⟩ := h
      exact ⟨i, loaded, time, hfin, hloaded, .inr heq⟩
  | received key i outcome =>
      cases outcome with
      | result r =>
          obtain rfl := Option.some.inj hresult
          obtain ⟨time, hfin⟩ := h
          exact ⟨i, r, time, hfin, hok, .inl rfl⟩
      | exception => cases hresult
  | waiting key i => cases hresult
  | cancelled key => cases hresult

end PxManager.Reputation
