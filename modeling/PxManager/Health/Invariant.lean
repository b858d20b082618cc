import PxManager.Health.Requests
import PxManager.Reputation.Tasks

/-!
# PxManager.Health.Invariant

The invariant of the machine in `PxManager.Health.Requests`.

It says of every request and of every run of `yandex_check` what they know where they are
(`StageOk`, `RunOk`), and who has written the history of the cache (`Inv.routed`). A request that
goes on may lengthen this history and call `cached_check`, and neither takes anything from what the
others know (`StageOk.mono`). So each handler is looked at on its own, by `Inv.setRequest`.

Where an exit address comes from is a matter of the past: `probes` reports the answers of the
IP-echo endpoints, and the invariant is about a state and all that has been reported before it.
-/

namespace PxManager.Health.Requests

open PxManager.Core

/-! ### Whose results they are -/

def Request.route? : Request → Option Route
  | .rejected _ => none
  | .accepted route _ _ => some route

/-- The route that a party asks about. -/
def State.routeOf (s : State) : Party → Option Route
  | .request id => (s.requests id).bind Request.route?
  | .yandex task => (s.runs task).map YandexRun.route

/-- The request is new, or it is one for the route. -/
def State.MayTake (s : State) (id : Nat) (route : Route) : Prop :=
  ∀ request, s.requests id = some request → request.route? = some route

/-- What the handler answers is about the subject. -/
def Handler.Asks (py : Builtins) (route : Route) : Handler → Subject → Prop
  | .connect, .connect host => host = route.host
  | .ping, .ping host => host = route.host
  | .head, .proxyRequest host username => host = route.host ∧ username = route.username
  | .protocol name, .protocol host port username version =>
      name.toList = version.name ∧ host = route.host ∧
        getHostPort py route.hostData = .ok port ∧ username = route.username
  | _, _ => False

theorem Handler.Asks.concerns {py : Builtins} {route : Route} {handler : Handler}
    {subject : Subject} (h : handler.Asks py route subject) : route.Concerns py subject := by
  cases handler with
  | protocol name =>
      cases subject with
      | protocol host port username version => exact h.2
      | _ => cases h
  | _ =>
      cases subject with
      | _ =>
          first
            | exact h
            | cases h

/-- An IP-echo endpoint has answered to the check of a party, asked through the route. -/
structure Probe where
  user : Party
  route : Route
  exitIp : String

/-- What an action reports. -/
def probes (s : State) (a : Action) (_ : State) : List Probe :=
  match a with
  | .answered id (.value value _ _) _ =>
      match s.requests id with
      | some (.accepted route _ (.checkingHead (.echo ..))) => [⟨.request id, route, value⟩]
      | some (.accepted route _ (.identifying (.echo ..))) => [⟨.request id, route, value⟩]
      | _ => []
  | .probed task (.value value _ _) _ _ =>
      match s.runs task with
      | some ⟨route, _, .probing (.echo ..), _⟩ => [⟨.yandex task, route, value⟩]
      | _ => []
  | _ => []

/-- The identity has the exit address, and is one for the host and the user of the request: it was
served to the request, or an endpoint has given the address to it through its own route. -/
structure IdentityOk (log : List Probe) (history : List (Event Party)) (id : Nat) (route : Route)
    (ip : String) (identity : Identity) : Prop where
  ok : isTrue identity.result "ok" = true
  exit_ip : identity.result.get? "exit_ip" = some (.str ip)
  served : ∀ time, identity.cachedAt = some time →
    .served (.request id) (.proxyRequest route.host route.username) identity.result time ∈ history
  probed : identity.cachedAt = none → ⟨.request id, route, ip⟩ ∈ log

/-! ### The invariant -/

/-- The callers of `cached_check`. -/
abbrev Callers := Nat → Option Reputation.Caller

/-- `cached_check` was called for the provider and the address. -/
def CallOk (keys : String → List CodePoint) (callers : Callers) (ip : String)
    (call : String × Nat) : Prop :=
  ∃ c, callers call.2 = some c ∧ c.key = ⟨call.1, ip, keys call.1⟩

/-- A result with status ok in a response is what `cached_check` has returned for the provider and
the address. -/
def EntryOk (keys : String → List CodePoint) (callers : Callers) (ip : String)
    (entry : String × Reputation.Result) : Prop :=
  Reputation.isOk entry.2 = true → ∃ caller c result name, callers caller = some c ∧
    c.key = ⟨entry.1, ip, keys entry.1⟩ ∧ c.result? = some result ∧
    entry.2 = named entry.1 name result

/-- What a request knows at a stage. -/
def StageOk (py : Builtins) (keys : String → List CodePoint) (log : List Probe)
    (history : List (Event Party)) (callers : Callers) (id : Nat) (route : Route)
    (handler : Handler) : Stage → Prop
  | .checkingHead check => check.Knows py route
  | .identifying check => check.Knows py route ∧
      check.Told fun exitIp => ⟨.request id, route, exitIp⟩ ∈ log
  | .negotiating port _ => getHostPort py route.hostData = .ok port
  | .answered result (some time) => ∃ subject, handler.Asks py route subject ∧
      .served (.request id) subject result time ∈ history
  | .gathering ip identity calls => handler = .reputation ip ∧
      IdentityOk log history id route ip identity ∧ ∀ call ∈ calls, CallOk keys callers ip call
  | .reported ip identity results => handler = .reputation ip ∧
      IdentityOk log history id route ip identity ∧ ∀ entry ∈ results, EntryOk keys callers ip entry
  | _ => True

/-- The run has made the check, got its own address from an endpoint by it, and has asked Yandex
through the same route after that. -/
def YandexRun.Verified (log : List Probe) (i : Nat) (run : YandexRun) : Prop :=
  ⟨.yandex i, run.route, run.ip⟩ ∈ log ∧
    ∃ current, run.trace = [.probed run.route current, .asked run.route] ∧
      isTrue current "ok" = true ∧ current.get? "exit_ip" = some (.str run.ip)

/-- What a run of `yandex_check` knows where it is. -/
def YandexRun.StageOk (py : Builtins) (log : List Probe) (i : Nat) (run : YandexRun) : Prop :=
  match run.stage with
  | .probing check => check.Knows py run.route ∧ run.trace = [] ∧
      check.Told fun exitIp => ⟨.yandex i, run.route, exitIp⟩ ∈ log
  | .asking => run.Verified log i
  | .over => True

/-- A run is that of a task for its address, and if the task has a result with status ok, it is
verified. -/
structure RunOk (py : Builtins) (keys : String → List CodePoint) (log : List Probe)
    (tasks : List Reputation.LoadTask) (i : Nat) (run : YandexRun) : Prop where
  task : ∃ task : Reputation.LoadTask, tasks[i]? = some task ∧
    task.key = ⟨"yandex", run.ip, keys "yandex"⟩ ∧
    ∀ result time, task.outcome = some (.result result, time) → Reputation.isOk result = true →
      run.Verified log i
  stage : run.StageOk py log i

structure Inv (py : Builtins) (keys : String → List CodePoint) (log : List Probe) (s : State) :
    Prop where
  cache : s.cache.Sound s.clock
  /-- Parties use the cache for their routes. -/
  routed : ∀ e ∈ s.cache.history, ∃ route, s.routeOf e.user = some route ∧
    route.Concerns py e.subject
  plain : ∀ e ∈ s.cache.history, Plain e
  reputation : Reputation.Sound s.reputation
  request : ∀ id route handler stage, s.requests id = some (.accepted route handler stage) →
    StageOk py keys log s.cache.history s.reputation.callers id route handler stage
  run : ∀ i run, s.runs i = some run → RunOk py keys log s.reputation.tasks i run
  /-- Every task for Yandex has a run. -/
  task_run : ∀ (i : Nat) (task : Reputation.LoadTask), s.reputation.tasks[i]? = some task →
    task.key.provider = "yandex" → ∃ run, s.runs i = some run

variable {py : Builtins} {keys : String → List CodePoint} {formatHealthError : PyError → String}
  {log : List Probe} {s s' : State}

theorem Inv.init (clock : ℚ) : Inv py keys [] (State.init clock) where
  cache := .empty clock
  routed e he := by cases he
  plain e he := by cases he
  reputation := .init clock
  request id route handler stage h := by cases h
  run i run h := by cases h
  task_run i task h := by cases h

/-! ### What stays -/

section Mono

variable {log' : List Probe} {history history' : List (Event Party)} {callers callers' : Callers}
  {id : Nat} {route : Route} {handler : Handler} {ip : String}

theorem IdentityOk.mono (hlog : ∀ p ∈ log, p ∈ log') (hhistory : ∀ e ∈ history, e ∈ history')
    {identity : Identity} (h : IdentityOk log history id route ip identity) :
    IdentityOk log' history' id route ip identity where
  ok := h.ok
  exit_ip := h.exit_ip
  served time htime := hhistory _ (h.served time htime)
  probed htime := hlog _ (h.probed htime)

/-- Every caller is still there, with its key and with what it has returned. -/
def CallersStay (callers callers' : Callers) : Prop :=
  ∀ caller c, callers caller = some c → ∃ c', callers' caller = some c' ∧ c.Before c'

theorem CallersStay.refl : CallersStay callers callers :=
  fun _ c hc => ⟨c, hc, rfl, fun _ _ => rfl⟩

theorem CallOk.mono (hcallers : CallersStay callers callers') {call : String × Nat}
    (h : CallOk keys callers ip call) : CallOk keys callers' ip call := by
  obtain ⟨c, hc, hkey⟩ := h
  obtain ⟨c', hc', hkey', -⟩ := hcallers _ c hc
  exact ⟨c', hc', hkey'.trans hkey⟩

theorem EntryOk.mono (hcallers : CallersStay callers callers')
    {entry : String × Reputation.Result} (h : EntryOk keys callers ip entry) :
    EntryOk keys callers' ip entry := by
  intro hok
  obtain ⟨caller, c, result, name, hc, hkey, hresult, heq⟩ := h hok
  obtain ⟨c', hc', -, hsame⟩ := hcallers caller c hc
  obtain rfl := hsame result hresult
  exact ⟨caller, c', result, name, hc', hkey, hresult, heq⟩

/-- What a request knows stays true while others go on. -/
theorem StageOk.mono (hlog : ∀ p ∈ log, p ∈ log') (hhistory : ∀ e ∈ history, e ∈ history')
    (hcallers : CallersStay callers callers') {stage : Stage}
    (h : StageOk py keys log history callers id route handler stage) :
    StageOk py keys log' history' callers' id route handler stage := by
  cases stage with
  | identifying check =>
      obtain ⟨hknows, htold⟩ := h
      exact ⟨hknows, htold.mono fun exitIp hp => hlog _ hp⟩
  | answered result cachedAt =>
      cases cachedAt with
      | none => trivial
      | some time =>
          obtain ⟨subject, hasks, hserved⟩ := h
          exact ⟨subject, hasks, hhistory _ hserved⟩
  | gathering ip identity calls =>
      obtain ⟨hhandler, hidentity, hcalls⟩ := h
      exact ⟨hhandler, hidentity.mono hlog hhistory,
        fun call hcall => (hcalls call hcall).mono hcallers⟩
  | reported ip identity results =>
      obtain ⟨hhandler, hidentity, hentries⟩ := h
      exact ⟨hhandler, hidentity.mono hlog hhistory,
        fun entry hentry => (hentries entry hentry).mono hcallers⟩
  | _ => exact h

theorem YandexRun.Verified.mono (hlog : ∀ p ∈ log, p ∈ log') {i : Nat} {run : YandexRun}
    (h : run.Verified log i) : run.Verified log' i :=
  ⟨hlog _ h.1, h.2⟩

theorem YandexRun.StageOk.mono (hlog : ∀ p ∈ log, p ∈ log') {i : Nat} {run : YandexRun}
    (h : run.StageOk py log i) : run.StageOk py log' i := by
  unfold YandexRun.StageOk at h ⊢
  split at h
  · obtain ⟨hknows, htrace, htold⟩ := h
    exact ⟨hknows, htrace, htold.mono fun exitIp hp => hlog _ hp⟩
  · exact h.mono hlog
  · trivial

/-- The invariant holds whatever else has been reported. -/
theorem Inv.mono (h : Inv py keys log s) (hlog : ∀ p ∈ log, p ∈ log') : Inv py keys log' s where
  cache := h.cache
  routed := h.routed
  plain := h.plain
  reputation := h.reputation
  request id route handler stage hrequest :=
    (h.request id route handler stage hrequest).mono hlog (fun _ he => he) .refl
  run i run hi := by
    obtain ⟨task, htask, hkey, hverified⟩ := (h.run i run hi).task
    exact ⟨⟨task, htask, hkey, fun result time houtcome hok =>
      (hverified result time houtcome hok).mono hlog⟩, (h.run i run hi).stage.mono hlog⟩
  task_run := h.task_run

end Mono

theorem update_eq_some {α : Type} {f : Nat → Option α} {i j : Nat} {a b : α}
    (h : Function.update f i (some a) j = some b) : (j = i ∧ b = a) ∨ (j ≠ i ∧ f j = some b) := by
  by_cases heq : j = i
  · subst heq
    rw [Function.update_self, Option.some.injEq] at h
    exact .inl ⟨rfl, h.symm⟩
  · rw [Function.update_of_ne heq] at h
    exact .inr ⟨heq, h⟩

theorem routeOf_setRequest {id : Nat} {route : Route} (hmay : s.MayTake id route)
    (handler : Handler) (stage : Stage) {user : Party} {route' : Route}
    (h : s.routeOf user = some route') :
    (s.setRequest id (.accepted route handler stage)).routeOf user = some route' := by
  cases user with
  | yandex task => exact h
  | request id' =>
      by_cases heq : id' = id
      · subst heq
        obtain ⟨request, hrequest, hroute⟩ := Option.bind_eq_some_iff.mp h
        rw [hmay request hrequest] at hroute
        simpa [State.routeOf, State.setRequest, Request.route?] using hroute
      · simpa [State.routeOf, State.setRequest, Function.update_of_ne heq] using h

/-! ### Requests -/

section Requests

variable {id : Nat} {route : Route} {handler : Handler} {now : ℚ} {cache : ResultCache Party}

/-- A request is registered or goes on, and may use the cache. -/
theorem Inv.setRequest (h : Inv py keys log s) (hmay : s.MayTake id route) (hnow : s.clock ≤ now)
    (hsound : cache.Sound now) (hgrows : Grows py (.request id) route s.cache cache)
    {stage : Stage}
    (hstage : StageOk py keys log cache.history s.reputation.callers id route handler stage) :
    Inv py keys log ((s.setCache cache now).setRequest id (.accepted route handler stage)) where
  cache := hsound
  routed e he := by
    rcases hgrows.new e he with hold | ⟨huser, hsubject, -⟩
    · obtain ⟨route', hroute, hconcerns⟩ := h.routed e hold
      have hmay' : (s.setCache cache now).MayTake id route := hmay
      exact ⟨route', routeOf_setRequest hmay' handler stage hroute, hconcerns⟩
    · refine ⟨route, ?_, hsubject⟩
      rw [huser]
      simp [State.routeOf, State.setRequest, Request.route?]
  plain e he := (hgrows.new e he).elim (h.plain e) fun hnew => hnew.2.2
  reputation := h.reputation.dropCached (fun _ _ hget => hget) hnow
  request id' route' handler' stage' hrequest := by
    rcases update_eq_some hrequest with ⟨rfl, heq⟩ | ⟨-, hrequest⟩
    · cases heq
      exact hstage
    · exact (h.request id' route' handler' stage' hrequest).mono (fun _ hp => hp) hgrows.old .refl
  run := h.run
  task_run := h.task_run

/-- A request is rejected before it has a route. -/
theorem Inv.reject (h : Inv py keys log s) (hnone : s.requests id = none) (status : Nat) :
    Inv py keys log (s.setRequest id (.rejected status)) where
  cache := h.cache
  routed e he := by
    obtain ⟨route, hroute, hconcerns⟩ := h.routed e he
    refine ⟨route, ?_, hconcerns⟩
    cases huser : e.user with
    | yandex task => rwa [huser] at hroute
    | request id' =>
        rw [huser] at hroute
        have hne : id' ≠ id := by
          intro heq
          subst heq
          simp [State.routeOf, hnone] at hroute
        simpa [State.routeOf, State.setRequest, Function.update_of_ne hne] using hroute
  plain := h.plain
  reputation := h.reputation
  request id' route handler stage hrequest := by
    rcases update_eq_some hrequest with ⟨-, heq⟩ | ⟨-, hrequest⟩
    · cases heq
    · exact h.request id' route handler stage hrequest
  run := h.run
  task_run := h.task_run

/-- A party that has a route uses the cache for it. -/
theorem Inv.setCache (h : Inv py keys log s) {user : Party} (hroute : s.routeOf user = some route)
    (hnow : s.clock ≤ now) (hsound : cache.Sound now)
    (hgrows : Grows py user route s.cache cache) : Inv py keys log (s.setCache cache now) where
  cache := hsound
  routed e he := by
    rcases hgrows.new e he with hold | ⟨rfl, hsubject, -⟩
    · exact h.routed e hold
    · exact ⟨route, hroute, hsubject⟩
  plain e he := (hgrows.new e he).elim (h.plain e) fun hnew => hnew.2.2
  reputation := h.reputation.dropCached (fun _ _ hget => hget) hnow
  request id' route' handler' stage' hrequest :=
    (h.request id' route' handler' stage' hrequest).mono (fun _ hp => hp) hgrows.old .refl
  run := h.run
  task_run := h.task_run

/-- A request gives up, and what it has read from the cache is of no use. -/
theorem Inv.fail (h : Inv py keys log s) (hmay : s.MayTake id route) (handler : Handler)
    (status : Nat) : Inv py keys log (s.fail id route handler status) :=
  h.setRequest hmay le_rfl h.cache .refl trivial

/-- A handler answers what is cached for its subject, or goes on. -/
theorem Inv.getOr (h : Inv py keys log s) (hmay : s.MayTake id route) (hnow : s.clock ≤ now)
    {subject : Subject} (hasks : handler.Asks py route subject) {stage : Stage}
    (hstage : ∀ history, StageOk py keys log history s.reputation.callers id route handler stage) :
    Inv py keys log (s.getOr id route handler subject stage now) := by
  have hsound := h.cache.get hnow (.request id) subject
  have hgrows : Grows py (.request id) route s.cache (s.cache.get _ subject now).2 :=
    Grows.get h.cache hnow hasks.concerns
  unfold State.getOr
  rcases hget : s.cache.get (.request id) subject now with ⟨found, cache⟩
  rw [hget] at hsound hgrows
  cases found with
  | none => exact h.setRequest hmay hnow hsound hgrows (hstage _)
  | some result =>
      obtain ⟨-, hhistory⟩ := h.cache.get_some hnow hget
      refine h.setRequest hmay hnow hsound hgrows ⟨subject, hasks, ?_⟩
      rw [hhistory]
      exact List.mem_append_right _ (List.mem_singleton_self _)

/-- A handler stores its result and answers it. -/
theorem Inv.answer (h : Inv py keys log s) (hmay : s.MayTake id route) (hnow : s.clock ≤ now)
    {subject : Subject} {result : HealthResult} (hsubject : route.Concerns py subject)
    (hplain : Plain (.computed (Party.request id) subject result now)) (handler : Handler) :
    Inv py keys log (s.answer id route handler subject result now) :=
  h.setRequest hmay hnow (h.cache.set hnow ..) (.set hsubject hplain) trivial

/-- `HealthReputationHandler` goes on only if the identity has the address it was asked for. -/
theorem Inv.identified (h : Inv py keys log s) (hmay : s.MayTake id route) (hnow : s.clock ≤ now)
    (hsound : cache.Sound now) (hgrows : Grows py (.request id) route s.cache cache)
    {identity : Identity} (ip : String)
    (hserved : ∀ time, identity.cachedAt = some time →
      .served (.request id) (.proxyRequest route.host route.username) identity.result time ∈
        cache.history)
    (hprobed : identity.cachedAt = none →
      identity.result.get? "exit_ip" = some (.str ip) → ⟨.request id, route, ip⟩ ∈ log) :
    Inv py keys log ((s.setCache cache now).identified id route ip identity) := by
  unfold State.identified
  split
  · exact h.setRequest hmay hnow hsound hgrows trivial
  · next hok =>
      split
      · exact h.setRequest hmay hnow hsound hgrows trivial
      · next hexit =>
          rw [not_not, textOf_eq_some_iff] at hexit
          simp only [Bool.or_eq_true, Bool.not_eq_true', not_or, Bool.not_eq_false] at hok
          have hidentity : IdentityOk log cache.history id route ip identity :=
            ⟨hok.1, hexit, hserved, fun hnone => hprobed hnone hexit⟩
          refine h.setRequest hmay hnow hsound hgrows ⟨rfl, hidentity, ?_⟩
          intro call hcall
          cases hcall

theorem toList_of_version {name : String} {version : Protocol}
    (h : (if name = "h2" then some Protocol.h2 else if name = "h3" then some .h3 else none) =
      some version) : name.toList = version.name := by
  split at h
  · next heq =>
      cases h
      rw [heq]
      rfl
  · obtain ⟨heq, h⟩ := Option.ite_none_right_eq_some.mp h
    cases h
    rw [heq]
    rfl

/-- A handler, from the host entry to its first await. -/
theorem Inv.handle (h : Inv py keys log s) (hmay : s.MayTake id route) (hnow : s.clock ≤ now)
    (handler : Handler) : Inv py keys log (s.handle py id route handler now) := by
  unfold State.handle
  cases handler with
  | connect =>
      have hasks : Handler.connect.Asks py route (.connect route.host) := rfl
      exact h.getOr hmay hnow hasks fun _ => trivial
  | ping =>
      have hasks : Handler.ping.Asks py route (.ping route.host) := rfl
      exact h.getOr hmay hnow hasks fun _ => trivial
  | head =>
      have hasks : Handler.head.Asks py route (.proxyRequest route.host route.username) :=
        ⟨rfl, rfl⟩
      refine h.getOr hmay hnow hasks fun _ => ?_
      split <;> trivial
  | protocol name =>
      dsimp only
      split
      · exact h.fail hmay _ 400
      · next version hversion =>
          split
          · exact h.fail hmay _ 400
          · cases hport : getHostPort py route.hostData with
            | error error => exact h.fail hmay _ 500
            | ok port =>
                have hasks : (Handler.protocol name).Asks py route
                    (.protocol route.host port route.username version) :=
                  ⟨toList_of_version hversion, rfl, hport, rfl⟩
                exact h.getOr hmay hnow hasks fun _ => hport
  | reputation ip =>
      dsimp only
      split
      · exact h.fail hmay _ 400
      · have hsubject : route.Concerns py (.proxyRequest route.host route.username) := ⟨rfl, rfl⟩
        have hsound := h.cache.get hnow (.request id) (.proxyRequest route.host route.username)
        have hgrows : Grows py (.request id) route s.cache (s.cache.get _ _ now).2 :=
          Grows.get h.cache hnow hsubject
        rcases hget : s.cache.get (.request id) (.proxyRequest route.host route.username) now with
          ⟨found, cache⟩
        rw [hget] at hsound hgrows
        cases found with
        | none => exact h.setRequest hmay hnow hsound hgrows ⟨trivial, trivial⟩
        | some result =>
            obtain ⟨-, hhistory⟩ := h.cache.get_some hnow hget
            refine h.identified hmay hnow hsound hgrows ip ?_ ?_
            · intro time htime
              cases htime
              rw [hhistory]
              exact List.mem_append_right _ (List.mem_singleton_self _)
            · intro hnone
              cases hnone

/-- A request arrives. -/
theorem Inv.arrive (h : Inv py keys log s) (hnone : s.requests id = none) (hnow : s.clock ≤ now)
    (handler : Handler) (credentials : Option (Username × Text)) (hosts : List HostData)
    (host : String) : Inv py keys log (s.arrive py id handler credentials hosts host now) := by
  have hmay : ∀ route, s.MayTake id route := by
    intro route request hrequest
    rw [hnone] at hrequest
    cases hrequest
  unfold State.arrive
  split
  · exact h.reject hnone 401
  · split
    · exact h.reject hnone 400
    · exact h.handle (hmay _) hnow handler

/-! ### Checks of requests -/

theorem mayTake_of_eq {stage : Stage} (h : s.requests id = some (.accepted route handler stage)) :
    s.MayTake id route := by
  intro request hrequest
  rw [h] at hrequest
  cases hrequest
  rfl

theorem routeOf_of_eq {stage : Stage} (h : s.requests id = some (.accepted route handler stage)) :
    s.routeOf (.request id) = some route := by
  rw [State.routeOf, h]
  rfl

/-- `HealthHeadHandler`, after an endpoint has answered. -/
theorem Inv.resumeHead (h : Inv py keys log s) {check : CheckStage}
    (hrequest : s.requests id = some (.accepted route .head (.checkingHead check)))
    (hnow : s.clock ≤ now) (answer : Answer) :
    Inv py keys log (s.resumeHead py formatHealthError id route check answer now) := by
  have hmay := mayTake_of_eq hrequest
  have hroute := routeOf_of_eq hrequest
  have hsubject : route.Concerns py (.proxyRequest route.host route.username) := ⟨rfl, rfl⟩
  have hknows : check.Knows py route := h.request id route .head _ hrequest
  unfold State.resumeHead
  rcases hresume : check.resume py (.request id) route answer now s.cache with ⟨progress, cache⟩
  have hresumed := CheckStage.resumed hknows hresume
  have hsound := hresumed.sound h.cache hnow
  have hgrows := hresumed.grows h.cache hnow hknows
  rw [hresume]
  cases progress with
  | awaits check' => exact h.setRequest hmay hnow hsound hgrows hresumed.knows
  | returned result =>
      exact (h.setCache hroute hnow hsound hgrows).answer hmay le_rfl hsubject trivial _
  | raised error =>
      exact (h.setCache hroute hnow hsound hgrows).answer hmay le_rfl hsubject trivial _

/-- `HealthReputationHandler`, after an endpoint has answered. -/
theorem Inv.resumeIdentity (h : Inv py keys log s) {ip : String} {check : CheckStage}
    (hrequest : s.requests id = some (.accepted route (.reputation ip) (.identifying check)))
    (hnow : s.clock ≤ now) {answer : Answer}
    (hvalue : ∀ endpoint later errors value statusCode metadata,
      check = .echo endpoint later errors → answer = .value value statusCode metadata →
        ⟨.request id, route, value⟩ ∈ log) :
    Inv py keys log (s.resumeIdentity py id route ip check answer now) := by
  have hmay := mayTake_of_eq hrequest
  obtain ⟨hknows, htold⟩ := h.request id route _ _ hrequest
  unfold State.resumeIdentity
  rcases hresume : check.resume py (.request id) route answer now s.cache with ⟨progress, cache⟩
  have hresumed := CheckStage.resumed hknows hresume
  have hsound := hresumed.sound h.cache hnow
  have hgrows := hresumed.grows h.cache hnow hknows
  have htold' := CheckStage.told h.cache hnow h.plain htold hvalue hresume
  rw [hresume]
  cases progress with
  | awaits check' => exact h.setRequest hmay hnow hsound hgrows ⟨hresumed.knows, htold'⟩
  | raised error => exact h.setRequest hmay hnow hsound hgrows trivial
  | returned result =>
      refine h.identified hmay hnow hsound hgrows ip ?_ ?_
      · intro time htime
        cases htime
      · exact fun _ hexit => htold' ip hexit

end Requests

end PxManager.Health.Requests
