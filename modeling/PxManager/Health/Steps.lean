import PxManager.Core.Except
import PxManager.Health.Invariant

/-!
# PxManager.Health.Steps

Every action of the machine keeps its invariant.

The requests of the handlers are in `PxManager.Health.Invariant`. What is left are the actions that
also move `cached_check`. Whatever such an action does to a task, the run of the task is still as
`RunOk` says (`RunOk.step`); and a new task for Yandex comes with the run of the request that has
started it (`Inv.startRun`).
-/

namespace PxManager.Health.Requests

open PxManager.Core

variable {py : Builtins} {keys : String → List CodePoint} {formatHealthError : PyError → String}
  {log : List Probe} {s s' : State}

/-! ### `cached_check` -/

section Reputation

variable {reputation : Reputation.State} {i : Nat} {run run' : YandexRun} {wallTime : ℤ} {now : ℚ}

/-- The tasks, the callers and the runs go on. -/
theorem Inv.setReputation (h : Inv py keys log s) (hclock : s.clock ≤ reputation.clock)
    (hsound : Reputation.Sound reputation)
    (hcallers : CallersStay s.reputation.callers reputation.callers)
    {runs : Nat → Option YandexRun} (hroute : ∀ i run, s.runs i = some run →
      ∃ run', runs i = some run' ∧ run'.route = run.route)
    (hrun : ∀ i run, runs i = some run → RunOk py keys log reputation.tasks i run)
    (htask : ∀ (i : Nat) (task : Reputation.LoadTask), reputation.tasks[i]? = some task →
      task.key.provider = "yandex" → ∃ run, runs i = some run) :
    Inv py keys log { s with reputation, runs } where
  cache := h.cache.later hclock
  routed e he := by
    obtain ⟨route, hroute', hconcerns⟩ := h.routed e he
    refine ⟨route, ?_, hconcerns⟩
    cases huser : e.user with
    | request id => rwa [huser] at hroute'
    | yandex i =>
        rw [huser] at hroute'
        obtain ⟨run, hrun, rfl⟩ := Option.map_eq_some_iff.mp hroute'
        obtain ⟨run', hrun', hsame⟩ := hroute i run hrun
        simp [State.routeOf, hrun', hsame]
  plain := h.plain
  reputation := hsound
  request id route handler stage hrequest :=
    (h.request id route handler stage hrequest).mono (fun _ hp => hp) (fun _ he => he) hcallers
  run := hrun
  task_run := htask

/-- An action of `cached_check`. -/
theorem Inv.stepReputation (h : Inv py keys log s) {a : Reputation.Action}
    (hstep : Reputation.step s.reputation a = some reputation)
    {runs : Nat → Option YandexRun} (hroute : ∀ i run, s.runs i = some run →
      ∃ run', runs i = some run' ∧ run'.route = run.route)
    (hrun : ∀ i run, runs i = some run → RunOk py keys log reputation.tasks i run)
    (htask : ∀ (i : Nat) (task : Reputation.LoadTask), reputation.tasks[i]? = some task →
      task.key.provider = "yandex" → ∃ run, runs i = some run) :
    Inv py keys log { s with reputation, runs } :=
  h.setReputation (Reputation.step_clock_le hstep) (h.reputation.step hstep).1
    (fun _ _ hc => Reputation.step_before h.reputation hstep hc) hroute hrun htask

/-- A run stays with its route while another state of it is written. -/
theorem exists_update {runs : Nat → Option YandexRun} (hi : runs i = some run)
    (hroute : run'.route = run.route) (j : Nat) (run₀ : YandexRun) (hj : runs j = some run₀) :
    ∃ run₁, Function.update runs i (some run') j = some run₁ ∧ run₁.route = run₀.route := by
  by_cases heq : j = i
  · subst heq
    rw [hi, Option.some.injEq] at hj
    exact ⟨run', Function.update_self .., hj ▸ hroute⟩
  · exact ⟨run₀, by rw [Function.update_of_ne heq, hj], rfl⟩

/-- A run goes on. -/
theorem Inv.setRun (h : Inv py keys log s) (hi : s.runs i = some run)
    (hroute : run'.route = run.route) (hrun : RunOk py keys log s.reputation.tasks i run') :
    Inv py keys log (s.setRun i run') := by
  refine h.setReputation le_rfl h.reputation .refl (exists_update hi hroute) ?_ ?_
  · intro j run₁ hj
    rcases update_eq_some hj with ⟨rfl, rfl⟩ | ⟨-, hj⟩
    · exact hrun
    · exact h.run j run₁ hj
  · intro j task htask hprovider
    obtain ⟨run₀, hj⟩ := h.task_run j task htask hprovider
    obtain ⟨run₁, hj', -⟩ := exists_update hi hroute j run₀ hj
    exact ⟨run₁, hj'⟩

/-- A run is still that of its task, and verified if that has just finished with status ok. -/
theorem RunOk.step {rs rs' : Reputation.State} {a : Reputation.Action}
    (hrun : RunOk py keys log rs.tasks i run) (hsound : Reputation.Sound rs)
    (hstep : Reputation.step rs a = some rs')
    (hends : ∀ check wallTime now, a = .finish i check wallTime now →
      ∀ checked, check = .returned checked → Reputation.isOk checked = true → run.Verified log i) :
    RunOk py keys log rs'.tasks i run := by
  obtain ⟨task, htask, hkey, hverified⟩ := hrun.task
  obtain ⟨task', htask', hkey', -⟩ := (hsound.step hstep).2 i task htask
  refine ⟨⟨task', htask', hkey'.trans hkey, ?_⟩, hrun.stage⟩
  intro result time houtcome hok
  cases Reputation.step_task hstep htask' with
  | kept task₀ htask₀ _ hsame =>
      rw [htask, Option.some.injEq] at htask₀
      rw [hsame, ← htask₀] at houtcome
      exact hverified result time houtcome hok
  | finished _ _ _ check wallTime now haction hended =>
      rw [hended, Option.some.injEq, Prod.mk.injEq] at houtcome
      have hload := Reputation.loadResult_of_ended houtcome.1
      obtain ⟨checked, hcheck, hchecked⟩ := Reputation.isOk_of_loadResult hload hok
      exact hends check wallTime now haction checked hcheck hchecked
  | started _ _ _ _ hnone =>
      rw [hnone] at houtcome
      cases houtcome

/-- A task for Yandex has a run, or the action is the call that has just started it. -/
theorem Inv.task_cases (h : Inv py keys log s) {a : Reputation.Action}
    (hstep : Reputation.step s.reputation a = some reputation) {task : Reputation.LoadTask}
    (htask : reputation.tasks[i]? = some task) (hprovider : task.key.provider = "yandex") :
    (∃ run, s.runs i = some run) ∨
      ∃ caller now, a = .call caller task.key now ∧ i = s.reputation.tasks.length := by
  cases Reputation.step_task hstep htask with
  | kept task₀ htask₀ hkey => exact .inl (h.task_run i task₀ htask₀ (hkey ▸ hprovider))
  | finished task₀ htask₀ hkey => exact .inl (h.task_run i task₀ htask₀ (hkey ▸ hprovider))
  | started caller now haction hindex => exact .inr ⟨caller, now, haction, hindex⟩

/-- A run ends, with status ok only if it is verified. -/
theorem Inv.finishRun (h : Inv py keys log s) (hi : s.runs i = some run)
    (hroute : run'.route = run.route) (hip : run'.ip = run.ip)
    {outcome : Reputation.CheckOutcome}
    (hends : ∀ checked, outcome = .returned checked → Reputation.isOk checked = true →
      run'.Verified log i)
    (hstep : s.finishRun i run' outcome wallTime now = some s') : Inv py keys log s' := by
  obtain ⟨reputation, hfinish, rfl⟩ := Option.map_eq_some_iff.mp hstep
  have hroute' : ({ run' with stage := .over } : YandexRun).route = run.route := hroute
  refine h.stepReputation hfinish (exists_update hi hroute') ?_ ?_
  · intro j run₁ hj
    rcases update_eq_some hj with ⟨rfl, rfl⟩ | ⟨hne, hj⟩
    · obtain ⟨task, htask, hkey, -⟩ := (h.run j run hi).task
      obtain ⟨task₀, htask₀, hnone, -⟩ := Reputation.step_finish hfinish
      rw [htask, Option.some.injEq] at htask₀
      subst htask₀
      have hover : RunOk py keys log s.reputation.tasks j { run' with stage := .over } := by
        refine ⟨⟨task, htask, hip ▸ hkey, ?_⟩, trivial⟩
        intro result time houtcome
        rw [hnone] at houtcome
        cases houtcome
      refine hover.step h.reputation hfinish ?_
      intro check wallTime' now' haction checked hcheck hok
      cases haction
      exact hends checked hcheck hok
    · refine (h.run j run₁ hj).step h.reputation hfinish ?_
      intro check wallTime' now' haction
      cases haction
      exact absurd rfl hne
  · intro j task htask hprovider
    obtain ⟨run₀, hj⟩ | ⟨_, _, haction, -⟩ := h.task_cases hfinish htask hprovider
    · obtain ⟨run₁, hj', -⟩ := exists_update hi hroute' j run₀ hj
      exact ⟨run₁, hj'⟩
    · cases haction

theorem isOk_exitChanged : Reputation.isOk exitChanged = false := by decide

/-- `yandex_check`, after an endpoint has answered to its check. -/
theorem Inv.resumeRun (h : Inv py keys log s) (hi : s.runs i = some run) {check : CheckStage}
    (hstage : run.stage = .probing check) (hnow : s.clock ≤ now) {answer : Answer}
    (hvalue : ∀ endpoint later errors value statusCode metadata,
      check = .echo endpoint later errors → answer = .value value statusCode metadata →
        ⟨.yandex i, run.route, value⟩ ∈ log)
    (hstep : s.resumeRun py i run check answer wallTime now = some s') : Inv py keys log s' := by
  have hrun := h.run i run hi
  have hprobing := hrun.stage
  rw [YandexRun.StageOk, hstage] at hprobing
  obtain ⟨hknows, htrace, htold⟩ := hprobing
  have hroute : s.routeOf (.yandex i) = some run.route := by
    rw [State.routeOf, hi]
    rfl
  unfold State.resumeRun at hstep
  rcases hresume : check.resume py (.yandex i) run.route answer now s.cache with ⟨progress, cache⟩
  have hresumed := CheckStage.resumed hknows hresume
  have hcache : Inv py keys log (s.setCache cache now) :=
    h.setCache hroute hnow (hresumed.sound h.cache hnow) (hresumed.grows h.cache hnow hknows)
  have htold' := CheckStage.told h.cache hnow h.plain htold hvalue hresume
  have hi' : (s.setCache cache now).runs i = some run := hi
  rw [hresume] at hstep
  cases progress with
  | awaits check' =>
      cases hstep
      exact hcache.setRun hi' rfl ⟨hrun.task, hresumed.knows, htrace, htold'⟩
  | raised error =>
      refine hcache.finishRun hi' rfl rfl ?_ hstep
      intro checked hchecked
      cases hchecked
  | returned current =>
      dsimp only at hstep
      split at hstep
      · refine hcache.finishRun hi' ?_ ?_ ?_ hstep
        · rfl
        · rfl
        · intro checked hchecked hok
          cases hchecked
          rw [isOk_exitChanged] at hok
          cases hok
      · next hcurrent =>
          cases hstep
          simp only [Bool.or_eq_true, Bool.not_eq_true', decide_eq_true_eq, not_or,
            Bool.not_eq_false, not_not, textOf_eq_some_iff] at hcurrent
          have hverified : ∀ stage, YandexRun.Verified log i { run with
              stage, trace := run.trace ++ [.probed run.route current] ++ [.asked run.route] } :=
            fun stage => ⟨htold' run.ip hcurrent.2, current, by simp [htrace], hcurrent⟩
          obtain ⟨task, htask, hkey, -⟩ := hrun.task
          refine hcache.setRun hi' ?_ ⟨⟨task, htask, hkey, ?_⟩, ?_⟩
          · rfl
          · exact fun _ _ _ _ => hverified _
          · exact hverified _

/-- The runs that there are stay as they are while someone calls `cached_check`. -/
theorem Inv.runs_of_call (h : Inv py keys log s) {caller : Nat} {key : Reputation.CacheKey}
    (hcall : Reputation.step s.reputation (.call caller key now) = some reputation) (j : Nat)
    (run : YandexRun) (hj : s.runs j = some run) : RunOk py keys log reputation.tasks j run := by
  refine (h.run j run hj).step h.reputation hcall ?_
  intro check wallTime now haction
  cases haction

/-- A call starts a task for Yandex, and with it the check of the request that calls. -/
theorem Inv.startRun (h : Inv py keys log s) {caller : Nat} {ip : String}
    (hcall : Reputation.step s.reputation (.call caller ⟨"yandex", ip, keys "yandex"⟩ now) =
      some reputation)
    (hlt : s.reputation.tasks.length < reputation.tasks.length) (route : Route) :
    Inv py keys log { s with
      reputation
      runs := Function.update s.runs s.reputation.tasks.length
        (some ⟨route, ip, .probing .start, []⟩) } := by
  have hlast := Reputation.step_task hcall (List.getElem?_eq_getElem hlt)
  have hnot : ∀ task : Reputation.LoadTask,
      s.reputation.tasks[s.reputation.tasks.length]? ≠ some task := by
    intro task htask
    exact absurd (List.getElem?_eq_some_iff.mp htask).1 (lt_irrefl _)
  have hother : ∀ j run, s.runs j = some run → j ≠ s.reputation.tasks.length := by
    intro j run hj heq
    subst heq
    obtain ⟨task, htask, -⟩ := (h.run _ run hj).task
    exact hnot task htask
  refine h.stepReputation hcall ?_ ?_ ?_
  · intro j run hj
    exact ⟨run, by rw [Function.update_of_ne (hother j run hj), hj], rfl⟩
  · intro j run hj
    rcases update_eq_some hj with ⟨rfl, rfl⟩ | ⟨-, hj⟩
    · cases hlast with
      | kept task htask => exact absurd htask (hnot task)
      | finished task htask => exact absurd htask (hnot task)
      | started _ _ haction _ hnone =>
          refine ⟨⟨_, List.getElem?_eq_getElem hlt, ?_, ?_⟩, trivial, rfl, trivial⟩
          · injection haction with _ hkey
            exact hkey.symm
          · intro result time houtcome
            rw [hnone] at houtcome
            cases houtcome
    · exact h.runs_of_call hcall j run hj
  · intro j task htask hprovider
    by_cases heq : j = s.reputation.tasks.length
    · exact ⟨_, by rw [heq, Function.update_self]⟩
    · rw [Function.update_of_ne heq]
      obtain hrun | ⟨_, _, -, hindex⟩ := h.task_cases hcall htask hprovider
      · exact hrun
      · exact absurd hindex heq

/-- A call joins a task, or starts one that is not for Yandex. -/
theorem Inv.join (h : Inv py keys log s) {caller : Nat} {key : Reputation.CacheKey}
    (hcall : Reputation.step s.reputation (.call caller key now) = some reputation)
    (hnot : ¬ (key.provider = "yandex" ∧ s.reputation.tasks.length < reputation.tasks.length)) :
    Inv py keys log { s with reputation } := by
  refine h.stepReputation hcall (fun _ run hj => ⟨run, hj, rfl⟩) (h.runs_of_call hcall) ?_
  intro j task htask hprovider
  obtain hrun | ⟨_, _, haction, hindex⟩ := h.task_cases hcall htask hprovider
  · exact hrun
  · injection haction with _ hkey
    rw [← hkey] at hprovider
    have hlt := (List.getElem?_eq_some_iff.mp htask).1
    rw [hindex] at hlt
    exact absurd ⟨hprovider, hlt⟩ hnot

/-- `one(provider)` calls `cached_check`. -/
theorem Inv.callProvider (h : Inv py keys log s) {id : Nat} {route : Route} {handler : Handler}
    {ip : String} {identity : Identity} {calls : List (String × Nat)}
    (hrequest : s.requests id = some (.accepted route handler (.gathering ip identity calls)))
    {provider : String} {caller : Nat}
    (hstep : s.callProvider keys id route handler ip identity calls provider caller now = some s') :
    Inv py keys log s' := by
  obtain ⟨reputation, hcall, rfl⟩ := Option.map_eq_some_iff.mp hstep
  obtain ⟨hhandler, hidentity, hcalls⟩ := h.request id route handler _ hrequest
  -- the caller of this call is a new one
  have hstage : StageOk py keys log s.cache.history reputation.callers id route handler
      (.gathering ip identity (calls ++ [(provider, caller)])) := by
    refine ⟨hhandler, hidentity, ?_⟩
    intro call hmem
    rcases List.mem_append.mp hmem with hold | hnew
    · exact (hcalls call hold).mono fun _ _ hc => Reputation.step_before h.reputation hcall hc
    · rw [List.mem_singleton.mp hnew]
      exact h.reputation.called hcall
  dsimp only
  split
  · next hnew =>
      obtain ⟨rfl, hlt⟩ := hnew
      have hruns := h.startRun hcall hlt route
      exact hruns.setRequest (mayTake_of_eq hrequest) le_rfl hruns.cache .refl hstage
  · next hnot =>
      have hruns := h.join hcall hnot
      exact hruns.setRequest (mayTake_of_eq hrequest) le_rfl hruns.cache .refl hstage

/-- What other code does with `cached_check`. -/
theorem Inv.other (h : Inv py keys log s) {a : Reputation.Action}
    (hallowed : otherAllowed s.reputation a = true)
    (hstep : Reputation.step s.reputation a = some reputation) :
    Inv py keys log { s with reputation } := by
  refine h.stepReputation hstep (fun _ run hj => ⟨run, hj, rfl⟩) ?_ ?_
  · intro j run hj
    have hrun := h.run j run hj
    refine hrun.step h.reputation hstep ?_
    intro check wallTime now haction
    subst haction
    -- it ends no task of Yandex
    obtain ⟨task, htask, hkey, -⟩ := hrun.task
    simp [otherAllowed, htask, hkey] at hallowed
  · intro j task htask hprovider
    obtain hrun | ⟨_, _, haction, -⟩ := h.task_cases hstep htask hprovider
    · exact hrun
    · rw [haction] at hallowed
      simp [otherAllowed, hprovider] at hallowed

end Reputation

/-! ### Reports -/

theorem isOk_named {provider name : String} {result : Reputation.Result} :
    Reputation.isOk (named provider name result) = Reputation.isOk result := by
  simp [Reputation.isOk, named, Dict.get?_update, Dict.ofList, Dict.get?_set]

/-- The entry of a provider is what its call has returned, or says that there is no key. -/
theorem entryOk_of_providerResult {ip : String} {calls : List (String × Nat)}
    (hcalls : ∀ call ∈ calls, CallOk keys s.reputation.callers ip call)
    {provider : String × String} {entry : String × Reputation.Result}
    (h : s.providerResult keys calls provider = some entry) :
    EntryOk keys s.reputation.callers ip entry := by
  intro hok
  unfold State.providerResult at h
  split at h
  · obtain ⟨caller, hlookup, h⟩ := Option.bind_eq_some_iff.mp h
    obtain ⟨c, hc, h⟩ := Option.bind_eq_some_iff.mp h
    obtain ⟨result, hresult, h⟩ := Option.bind_eq_some_iff.mp h
    cases h
    obtain ⟨before, after, hsplit, -⟩ := List.lookup_eq_some_iff.mp hlookup
    obtain ⟨c', hc', hkey⟩ := hcalls (provider.1, caller) (by rw [hsplit]; simp)
    obtain rfl := Option.some.inj (hc.symm.trans hc')
    exact ⟨caller, c, result, provider.2, hc, hkey, hresult, rfl⟩
  · cases h
    have hunconfigured : Reputation.isOk unconfigured = false := by decide
    rw [isOk_named, hunconfigured] at hok
    cases hok

theorem Inv.report (h : Inv py keys log s) {id : Nat} {route : Route} {handler : Handler}
    {ip : String} {identity : Identity} {calls : List (String × Nat)}
    (hrequest : s.requests id = some (.accepted route handler (.gathering ip identity calls)))
    {results : List (String × Reputation.Result)}
    (hresults : providers.mapM (s.providerResult keys calls) = some results) :
    Inv py keys log (s.setRequest id (.accepted route handler (.reported ip identity results))) := by
  obtain ⟨hhandler, hidentity, hcalls⟩ := h.request id route handler _ hrequest
  refine h.setRequest (mayTake_of_eq hrequest) le_rfl h.cache .refl ⟨hhandler, hidentity, ?_⟩
  intro entry hentry
  obtain ⟨provider, -, hprovider⟩ := exists_of_mem_mapM hresults hentry
  exact entryOk_of_providerResult hcalls hprovider

/-! ### Every action -/

/-- Every action keeps the invariant. -/
theorem step_inv (h : Inv py keys log s) {a : Action}
    (hstep : step py formatHealthError keys s a = some s') :
    Inv py keys (log ++ probes s a s') s' := by
  have hprobes : ∀ p ∈ probes s a s', p ∈ log ++ probes s a s' :=
    fun _ hp => List.mem_append_right _ hp
  replace h : Inv py keys (log ++ probes s a s') s := h.mono fun _ hp => List.mem_append_left _ hp
  generalize log ++ probes s a s' = log at h hprobes ⊢
  cases a with
  | arrive id handler credentials hosts host now =>
      simp only [step] at hstep
      split at hstep
      · cases hstep
      · next hnone =>
          obtain ⟨hnow, hstep⟩ := Option.ite_none_right_eq_some.mp hstep
          cases hstep
          exact h.arrive hnone hnow handler credentials hosts host
  | connected id error now =>
      simp only [step] at hstep
      split at hstep
      · next route handler hrequest =>
          obtain ⟨⟨hnow, -⟩, hstep⟩ := Option.ite_none_right_eq_some.mp hstep
          cases hstep
          have hsubject : route.Concerns py (.connect route.host) := rfl
          exact h.answer (mayTake_of_eq hrequest) hnow hsubject trivial handler
      · cases hstep
  | pinged id outcome now =>
      simp only [step] at hstep
      split at hstep
      · next route handler hrequest =>
          obtain ⟨hnow, hstep⟩ := Option.ite_none_right_eq_some.mp hstep
          cases hstep
          have hsubject : route.Concerns py (.ping route.host) := rfl
          exact h.answer (mayTake_of_eq hrequest) hnow hsubject trivial handler
      · cases hstep
  | tgChecked id outcome now =>
      simp only [step] at hstep
      split at hstep
      · next route handler hrequest =>
          obtain ⟨hnow, hstep⟩ := Option.ite_none_right_eq_some.mp hstep
          cases hstep
          have hsubject : route.Concerns py (.proxyRequest route.host route.username) := ⟨rfl, rfl⟩
          exact h.answer (mayTake_of_eq hrequest) hnow hsubject trivial handler
      · cases hstep
  | negotiated id outcome now =>
      simp only [step] at hstep
      split at hstep
      · next route handler port version hrequest =>
          obtain ⟨hnow, hstep⟩ := Option.ite_none_right_eq_some.mp hstep
          cases hstep
          have hport : getHostPort py route.hostData = .ok port :=
            h.request id route handler _ hrequest
          have hsubject : route.Concerns py (.protocol route.host port route.username version) :=
            ⟨rfl, hport, rfl⟩
          exact h.answer (mayTake_of_eq hrequest) hnow hsubject trivial handler
      · cases hstep
  | answered id answer now =>
      simp only [step] at hstep
      split at hstep
      · next route check hrequest =>
          obtain ⟨hnow, hstep⟩ := Option.ite_none_right_eq_some.mp hstep
          cases hstep
          exact h.resumeHead hrequest hnow answer
      · next route ip check hrequest =>
          obtain ⟨hnow, hstep⟩ := Option.ite_none_right_eq_some.mp hstep
          cases hstep
          refine h.resumeIdentity hrequest hnow ?_
          intro endpoint later errors value statusCode metadata hcheck hanswer
          subst hcheck hanswer
          exact hprobes _ (by simp [probes, hrequest])
      · cases hstep
  | call id provider caller now =>
      simp only [step] at hstep
      split at hstep
      · next route handler ip identity calls hrequest =>
          obtain ⟨-, hstep⟩ := Option.ite_none_right_eq_some.mp hstep
          exact h.callProvider hrequest hstep
      · cases hstep
  | probed task answer wallTime now =>
      simp only [step] at hstep
      split at hstep
      · next run hrun =>
          split at hstep
          · next check hstage =>
              obtain ⟨hnow, hstep⟩ := Option.ite_none_right_eq_some.mp hstep
              refine h.resumeRun hrun hstage hnow ?_ hstep
              intro endpoint later errors value statusCode metadata hcheck hanswer
              subst hcheck hanswer
              obtain ⟨route, ip, stage, trace⟩ := run
              subst hstage
              exact hprobes _ (by simp [probes, hrun])
          · cases hstep
      · cases hstep
  | classified task answer wallTime now =>
      simp only [step] at hstep
      split at hstep
      · next run hrun =>
          split at hstep
          · next hstage =>
              have hverified := (h.run task run hrun).stage
              rw [YandexRun.StageOk, hstage] at hverified
              exact h.finishRun hrun rfl rfl (fun _ _ _ => hverified) hstep
          · cases hstep
      · cases hstep
  | aborted task wallTime now =>
      simp only [step] at hstep
      split at hstep
      · next run hrun =>
          refine h.finishRun hrun rfl rfl ?_ hstep
          intro checked hchecked
          cases hchecked
      · cases hstep
  | other a =>
      simp only [step] at hstep
      obtain ⟨hallowed, hstep⟩ := Option.ite_none_right_eq_some.mp hstep
      obtain ⟨reputation, hother, rfl⟩ := Option.map_eq_some_iff.mp hstep
      exact h.other hallowed hother
  | report id =>
      simp only [step] at hstep
      split at hstep
      · next route handler ip identity calls hrequest =>
          obtain ⟨results, hresults, rfl⟩ := Option.map_eq_some_iff.mp hstep
          exact h.report hrequest hresults
      · cases hstep
  | raise id =>
      simp only [step] at hstep
      split at hstep
      · next route handler ip identity calls hrequest =>
          obtain ⟨-, hstep⟩ := Option.ite_none_right_eq_some.mp hstep
          cases hstep
          exact h.fail (mayTake_of_eq hrequest) handler 500
      · cases hstep

/-- The invariant holds whatever the order of the actions. -/
theorem run_inv {clock : ℚ} {actions : List Action}
    (hrun : run (step py formatHealthError keys) (State.init clock) actions = some s) :
    Inv py keys (reports (step py formatHealthError keys) probes (State.init clock) actions) s := by
  have hinit : Inv py keys [] (State.init clock) := Inv.init clock
  have hinv := @run_induction_reports _ _ (step py formatHealthError keys) _ _ _ _ probes
    (fun s log => Inv py keys log s) (fun _ _ _ _ h hstep => step_inv h hstep) [] hinit hrun
  rwa [List.nil_append] at hinv

end PxManager.Health.Requests
