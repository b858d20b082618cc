import Mathlib.Logic.Function.Basic
import PxManager.Core.Machine
import PxManager.Health.ProxyCheck

/-!
# PxManager.Health.ExitCountry

Whether the country that `run_https_proxy_request_check` reports is the one of the address that it
reports.

The address and the country come from two requests, and a proxy may leave by another address in
between. The function takes no notice of that: it returns the country of the second exit with the
address of the first, and keeps the pair in the cache for others.

A machine runs calls of the function side by side. Whenever a request is answered, the action says
by which exit it went. An IP-echo endpoint answers with that exit, and a country endpoint with its
country.
-/

namespace PxManager.Health.ExitCountry

open PxManager.Core

/-- How an endpoint replies, apart from what it says of the exit. -/
inductive Reply
  | responded (statusCode : ℤ) (metadata : Metadata)
  | failed (error : String)
  | timedOut

/-- Where a call of `run_https_proxy_request_check` is. -/
inductive Call
  | running (route : Route) (stage : CheckStage)
  | returned (result : HealthResult)
  | raised

structure State where
  cache : ResultCache Nat
  calls : Nat → Option Call
  /-- The last reading of `time.monotonic()`. -/
  clock : ℚ

/-- The process before the first call. -/
def State.init (clock : ℚ) : State := ⟨.empty, fun _ => none, clock⟩

inductive Action
  | start (call : Nat) (route : Route)
  | answer (call : Nat) (exit : String) (reply : Reply) (now : ℚ)

def State.setCall (s : State) (call : Nat) (c : Call) : State :=
  { s with calls := Function.update s.calls call (some c) }

section Machine

variable (py : Builtins) (countryOf : String → String)

/-- The answer to the request of a stage by an exit. -/
def answerBy (stage : CheckStage) (exit : String) : Reply → Answer
  | .responded statusCode metadata =>
      match stage with
      | .echo .. => .value exit statusCode metadata
      | .country .. => .value (countryOf exit) statusCode metadata
  | .failed error => .failed error
  | .timedOut => .timedOut

/-- The call after a piece of it. -/
def Call.after (route : Route) : Progress → Call
  | .awaits stage => .running route stage
  | .returned result => .returned result
  | .raised _ => .raised

/-- One action, if it is possible. -/
def step (s : State) : Action → Option State
  | .start call route =>
      match s.calls call with
      | some _ => none
      | none => some (s.setCall call (.running route .start))
  | .answer call exit reply now =>
      match s.calls call with
      | some (.running route stage) =>
          if s.clock ≤ now then
            let (progress, cache) := stage.resume py call route
              (answerBy countryOf stage exit reply) now s.cache
            some ({ s with cache, clock := now }.setCall call (.after route progress))
          else none
      | _ => none

end Machine

/-! ### Right results -/

/-- If the result is ok, its country is the one of its address, or it has none. -/
def Correct (countryOf : String → String) (result : HealthResult) : Prop :=
  isTrue result "ok" = true → ∀ exitIp, result.get? "exit_ip" = some (.str exitIp) →
    ∀ value, result.get? "country_code" = some value → value = .null ∨
      value = .str (countryOf exitIp)

/-- If the action is the response of a country endpoint, the exit has the same country as the
address that the call has found before. -/
def sameCountry (countryOf : String → String) (s : State) : Action → Bool
  | .answer call exit (.responded ..) _ =>
      match s.calls call with
      | some (.running _ (.country result ..)) =>
          (textOf result "exit_ip").all fun exitIp => countryOf exit = countryOf exitIp
      | _ => true
  | _ => true

variable {py : Builtins} {countryOf : String → String} {s s' : State}

/-- What `run_https_proxy_country_check` returns: a country, or none. -/
structure IsCountry (country : HealthResult) (value : Json) : Prop where
  code : country.get? "country_code" = some value
  ok : country.get? "ok" = none
  exitIp : country.get? "exit_ip" = none

theorem isCountry_countryFound (targetHost value : String) (statusCode : ℤ) (metadata : Metadata) :
    IsCountry (countryFound targetHost
      (endpointResult .country targetHost (.value value statusCode metadata))) (.str value) := by
  have hvalue := get?_endpointResult .country targetHost value statusCode metadata
  simp only [ResponseKind.field] at hvalue
  constructor <;> simp [countryFound, Dict.ofList, Dict.get?_set, hvalue]

theorem isCountry_countryFailure (errors : List String) :
    IsCountry (countryFailure errors) .null := by
  constructor <;> simp [countryFailure, Dict.ofList, Dict.get?_set]

/-- A result that is completed with a country. -/
theorem correct_update_iff {result country : HealthResult} {value : Json} {exitIp : String}
    (hcountry : IsCountry country value) (hok : isTrue result "ok" = true)
    (hexit : result.get? "exit_ip" = some (.str exitIp)) :
    Correct countryOf (result.update country) ↔ value = .null ∨ value = .str (countryOf exitIp) := by
  have hok' : isTrue (result.update country) "ok" = true := by
    rw [isTrue, Dict.get?_update, hcountry.ok]
    exact hok
  have hexit' : (result.update country).get? "exit_ip" = some (.str exitIp) := by
    rw [Dict.get?_update, hcountry.exitIp]
    exact hexit
  have hcode : (result.update country).get? "country_code" = some value := by
    rw [Dict.get?_update, hcountry.code]
    rfl
  constructor
  · intro h
    exact h hok' exitIp hexit' value hcode
  · intro h _ exitIp' hexit'' value' hvalue'
    rw [hexit', Option.some.injEq, Json.str.injEq] at hexit''
    rw [hcode, Option.some.injEq] at hvalue'
    rw [← hexit'', ← hvalue']
    exact h

theorem correct_of_not_ok {result : HealthResult} (h : isTrue result "ok" = false) :
    Correct countryOf result := by
  intro hok
  rw [h] at hok
  cases hok

/-! ### The invariant -/

/-- The invariant, as long as every country endpoint was asked by an exit of the right country. -/
structure Inv (py : Builtins) (countryOf : String → String) (s : State) : Prop where
  cache : s.cache.Sound s.clock
  stages : ∀ call route stage, s.calls call = some (.running route stage) → stage.Knows py route
  countries : ∀ user host port username exitIp country time,
    .computed user (.country host port username exitIp) country time ∈ s.cache.history →
      ∃ value, IsCountry country value ∧ (value = .null ∨ value = .str (countryOf exitIp))
  results : ∀ call result, s.calls call = some (.returned result) → Correct countryOf result

theorem Inv.init (clock : ℚ) : Inv py countryOf (State.init clock) where
  cache := .empty clock
  stages call route stage h := by cases h
  countries user host port username exitIp country time h := by cases h
  results call result h := by cases h

theorem step_start {call : Nat} {route : Route}
    (h : step py countryOf s (.start call route) = some s') :
    s.calls call = none ∧ s' = s.setCall call (.running route .start) := by
  simp only [step] at h
  split at h
  · cases h
  · next hnone => exact ⟨hnone, (Option.some.inj h).symm⟩

theorem step_answer {call : Nat} {exit : String} {reply : Reply} {now : ℚ}
    (h : step py countryOf s (.answer call exit reply now) = some s') :
    ∃ route stage progress cache, s.calls call = some (.running route stage) ∧ s.clock ≤ now ∧
      stage.resume py call route (answerBy countryOf stage exit reply) now s.cache =
        (progress, cache) ∧
      s' = { s with cache, clock := now }.setCall call (.after route progress) := by
  simp only [step] at h
  split at h
  · next route stage hcall =>
      obtain ⟨hnow, h⟩ := Option.ite_none_right_eq_some.mp h
      exact ⟨route, stage, _, _, hcall, hnow, rfl, (Option.some.inj h).symm⟩
  · cases h

theorem setCall_calls (s : State) (call call' : Nat) (c : Call) :
    (s.setCall call c).calls call' = if call' = call then some c else s.calls call' :=
  Function.update_apply ..

/-- What the invariant says of a call. -/
def CallOk (py : Builtins) (countryOf : String → String) : Call → Prop
  | .running route stage => stage.Knows py route
  | .returned result => Correct countryOf result
  | .raised => True

/-- A call goes on, and the invariant holds of what it goes on with. -/
theorem Inv.setCall (h : Inv py countryOf s) (call : Nat) {c : Call} {cache : ResultCache Nat}
    {now : ℚ} (hcache : cache.Sound now) (hc : CallOk py countryOf c)
    (hcountries : ∀ user host port username exitIp country time,
      .computed user (.country host port username exitIp) country time ∈ cache.history →
        ∃ value, IsCountry country value ∧ (value = .null ∨ value = .str (countryOf exitIp))) :
    Inv py countryOf ({ s with cache, clock := now }.setCall call c) where
  cache := hcache
  stages call' route stage hcall := by
    rw [setCall_calls] at hcall
    split at hcall
    · rw [Option.some.inj hcall] at hc
      exact hc
    · exact h.stages call' route stage hcall
  countries := hcountries
  results call' result hcall := by
    rw [setCall_calls] at hcall
    split at hcall
    · rw [Option.some.inj hcall] at hc
      exact hc
    · exact h.results call' result hcall

/-- The country that a lookup ends with is right if and only if it was asked by an exit of the right
country. -/
theorem finished_iff {route : Route} {result country : HealthResult} {subject : Subject}
    {endpoint : Endpoint} {later : List Endpoint} {errors : List String} {call : Nat}
    {exit : String} {reply : Reply} (now : ℚ)
    (hcall : s.calls call = some (.running route (.country result subject endpoint later errors)))
    (hknows : (CheckStage.country result subject endpoint later errors).Knows py route)
    (hcountry : (∃ value statusCode metadata,
        answerBy countryOf (.country result subject endpoint later errors) exit reply =
          .value value statusCode metadata ∧
        country = countryFound endpoint.host (endpointResult .country endpoint.host
          (answerBy countryOf (.country result subject endpoint later errors) exit reply))) ∨
      (∀ value statusCode metadata,
        answerBy countryOf (.country result subject endpoint later errors) exit reply ≠
          .value value statusCode metadata) ∧
        ∃ errors', country = countryFailure errors') :
    ∃ value exitIp port, IsCountry country value ∧
      subject = .country route.host port route.username exitIp ∧
      ((value = .null ∨ value = .str (countryOf exitIp)) ↔
        sameCountry countryOf s (.answer call exit reply now) = true) ∧
      (Correct countryOf (result.update country) ↔
        sameCountry countryOf s (.answer call exit reply now) = true) := by
  obtain ⟨hok, port, exitIp, -, hsubject, hexit⟩ := hknows
  suffices h : ∃ value, IsCountry country value ∧
      ((value = .null ∨ value = .str (countryOf exitIp)) ↔
        sameCountry countryOf s (.answer call exit reply now) = true) by
    obtain ⟨value, hvalue, hiff⟩ := h
    exact ⟨value, exitIp, port, hvalue, hsubject, hiff,
      (correct_update_iff hvalue hok hexit).trans hiff⟩
  cases reply with
  | responded statusCode metadata =>
      rcases hcountry with ⟨value, statusCode', metadata', -, rfl⟩ | ⟨hnot, -⟩
      · refine ⟨.str (countryOf exit), isCountry_countryFound .., ?_⟩
        simp [sameCountry, hcall, textOf, hexit, Json.asStr?]
      · exact absurd rfl (hnot _ _ _)
  | _ =>
      rcases hcountry with ⟨value, statusCode', metadata', hanswer, -⟩ | ⟨-, errors', rfl⟩
      · cases hanswer
      · exact ⟨.null, isCountry_countryFailure errors', by simp [sameCountry]⟩

/-- While a call does not look for a country, nothing is asked of the exit. -/
theorem sameCountry_of_not_country {call : Nat} {route : Route} {stage : CheckStage}
    (hcall : s.calls call = some (.running route stage))
    (hstage : ∀ result subject endpoint later errors,
      stage ≠ .country result subject endpoint later errors) (exit : String) (reply : Reply)
    (now : ℚ) : sameCountry countryOf s (.answer call exit reply now) = true := by
  cases reply with
  | responded statusCode metadata =>
      cases stage with
      | echo endpoint later errors => simp [sameCountry, hcall]
      | country result subject endpoint later errors =>
          exact absurd rfl (hstage result subject endpoint later errors)
  | _ => simp [sameCountry]

/-- A result of a step is right, or the step has asked by an exit of another country. -/
theorem Inv.step (h : Inv py countryOf s) {a : Action} (hstep : step py countryOf s a = some s')
    (hsame : sameCountry countryOf s a = true) : Inv py countryOf s' := by
  cases a with
  | start call route =>
      obtain ⟨-, rfl⟩ := step_start hstep
      have hc : CallOk py countryOf (.running route .start) := trivial
      exact h.setCall call h.cache hc h.countries
  | answer call exit reply now =>
      obtain ⟨route, stage, progress, cache, hcall, hnow, hresume, rfl⟩ := step_answer hstep
      have hknows := h.stages call route stage hcall
      have hresumed := CheckStage.resumed hknows hresume
      have hsound := hresumed.sound h.cache hnow
      generalize hanswer : answerBy countryOf stage exit reply = answer at hresumed
      cases hresumed with
      | unfinished _ _ _ hnext hreturned =>
          refine h.setCall call hsound ?_ h.countries
          cases progress with
          | awaits stage' => exact hnext stage' rfl
          | returned result => exact correct_of_not_ok (hreturned result rfl)
          | raised error => trivial
      | cached _ _ result country port exitIp _ hok hport hexit hstage hget =>
          obtain ⟨⟨user, time, hmem⟩, hhistory⟩ := h.cache.get_some hnow hget
          obtain ⟨value, hvalue, hright⟩ := h.countries _ _ _ _ _ _ _ hmem
          refine h.setCall call hsound ?_ ?_
          · exact (correct_update_iff hvalue hok hexit).mpr hright
          · intro user' host port' username exitIp' country' time' hmem'
            rw [hhistory] at hmem'
            have hold := (List.mem_append.mp hmem').resolve_right (by simp)
            exact h.countries _ _ _ _ _ _ _ hold
      | missed _ stage' _ port exitIp _ hknows' hport hstage hget =>
          refine h.setCall call hsound ?_ ?_
          · exact hknows'
          · rw [h.cache.get_none hnow hget]
            exact h.countries
      | finished result country subject endpoint later errors _ hcountry =>
          rw [← hanswer] at hcountry
          obtain ⟨value, exitIp, port, hvalue, rfl, hright, hcorrect⟩ :=
            finished_iff now hcall hknows hcountry
          refine h.setCall call hsound ?_ ?_
          · exact hcorrect.mpr hsame
          · intro user' host port' username exitIp' country' time' hmem'
            rcases List.mem_append.mp hmem' with hold | hnew
            · exact h.countries _ _ _ _ _ _ _ hold
            · cases List.mem_singleton.mp hnew
              exact ⟨value, hvalue, hright.mpr hsame⟩

/-- A call that has returned stays as it is. -/
theorem step_returned {a : Action} (hstep : step py countryOf s a = some s') {call : Nat}
    {result : HealthResult} (hcall : s.calls call = some (.returned result)) :
    s'.calls call = some (.returned result) := by
  cases a with
  | start call' route =>
      obtain ⟨hnone, rfl⟩ := step_start hstep
      rw [setCall_calls, if_neg, hcall]
      rintro rfl
      rw [hnone] at hcall
      cases hcall
  | answer call' exit reply now =>
      obtain ⟨route, stage, progress, cache, hrunning, -, -, rfl⟩ := step_answer hstep
      rw [setCall_calls, if_neg, hcall]
      rintro rfl
      rw [hrunning] at hcall
      cases hcall

/-- A wrong result has been returned. -/
def Wrong (countryOf : String → String) (s : State) : Prop :=
  ∃ call result, s.calls call = some (.returned result) ∧ ¬ Correct countryOf result

/-- A country endpoint that is asked by an exit of another country makes a wrong result. -/
theorem sameCountry_of_right (h : Inv py countryOf s) {a : Action}
    (hstep : step py countryOf s a = some s') (hright : ¬ Wrong countryOf s') :
    sameCountry countryOf s a = true := by
  cases a with
  | start call route => rfl
  | answer call exit reply now =>
      obtain ⟨route, stage, progress, cache, hcall, hnow, hresume, rfl⟩ := step_answer hstep
      have hknows := h.stages call route stage hcall
      have hresumed := CheckStage.resumed hknows hresume
      generalize hanswer : answerBy countryOf stage exit reply = answer at hresumed
      cases hresumed with
      | unfinished _ _ _ hnext hreturned hvalue =>
          cases reply with
          | responded statusCode metadata =>
              refine sameCountry_of_not_country hcall ?_ ..
              rintro result subject endpoint later errors rfl
              exact hvalue _ _ _ _ _ _ _ _ rfl hanswer.symm
          | _ => simp [sameCountry]
      | cached _ _ result country port exitIp _ hok hport hexit hstage hget =>
          exact sameCountry_of_not_country hcall hstage ..
      | missed _ stage' _ port exitIp _ hknows' hport hstage hget =>
          exact sameCountry_of_not_country hcall hstage ..
      | finished result country subject endpoint later errors _ hcountry =>
          rw [← hanswer] at hcountry
          obtain ⟨value, exitIp, port, hvalue, -, -, hcorrect⟩ :=
            finished_iff now hcall hknows hcountry
          refine hcorrect.mp ?_
          by_contra hwrong
          exact hright ⟨call, _, by rw [setCall_calls, if_pos rfl]; rfl, hwrong⟩

/-- **When the reported country is that of the reported address.** In every run, all results are
right if and only if each country endpoint that answers is asked by an exit of the same country as
the address that the same call has found before. -/
theorem results_correct_iff (py : Builtins) (countryOf : String → String) (clock : ℚ)
    {actions : List Action} {s : State}
    (hrun : run (step py countryOf) (State.init clock) actions = some s) :
    (∀ call result, s.calls call = some (.returned result) → Correct countryOf result) ↔
      Along (step py countryOf) (fun s a _ => sameCountry countryOf s a = true) (State.init clock)
        actions := by
  constructor
  · intro hresults
    have hright : ¬ Wrong countryOf s := by
      rintro ⟨call, result, hcall, hwrong⟩
      exact hwrong (hresults call result hcall)
    have hpersists : ∀ s a s', Wrong countryOf s → step py countryOf s a = some s' →
        Wrong countryOf s' := by
      rintro s a s' ⟨call, result, hcall, hwrong⟩ hstep
      exact ⟨call, result, step_returned hstep hcall, hwrong⟩
    have hinit : Inv py countryOf (State.init clock) := Inv.init clock
    refine along_of_not hpersists ?_ hinit hrun hright
    intro s a s' h hstep hright
    have hsame := sameCountry_of_right h hstep hright
    exact ⟨hsame, h.step hstep hsame⟩
  · intro halong
    have hinv : Inv py countryOf s := run_induction_along
      (fun s a s' h hsame hstep => h.step hstep hsame) (Inv.init clock) halong hrun
    exact hinv.results

/-! ### Runs -/

/-- A proxy without a port. -/
def sampleRoute : Route where
  hostData := Dict.set ∅ "host" (.str "proxy.example")
  host := "proxy.example"
  get?_host := rfl
  username := ⟨"alice".toList, by decide⟩
  password := "secret".toList

/-- The countries of two addresses. -/
def sampleCountryOf (exit : String) : String := if exit = "192.0.2.1" then "NL" else "DE"

/-- A response over HTTP/2. -/
def sampleReply : Reply := .responded 200 ⟨"HTTP/2", .str "TLSv1.3", false⟩

/-- Two calls by the same exit, of which the second finds the country in the cache. -/
theorem results_correct_iff_cached :
    let actions : List Action := [.start 0 sampleRoute, .answer 0 "192.0.2.1" sampleReply 1,
      .answer 0 "192.0.2.1" sampleReply 2, .start 1 sampleRoute,
      .answer 1 "192.0.2.1" sampleReply 3]
    ∃ s, run (step asciiBuiltins sampleCountryOf) (State.init 0) actions = some s ∧
      s.cache.history.length = 2 ∧
      ∀ call result, s.calls call = some (.returned result) → Correct sampleCountryOf result := by
  intro actions
  have hlength : (run (step asciiBuiltins sampleCountryOf) (State.init 0) actions).map
      (fun s => s.cache.history.length) = some 2 := by
    decide +kernel
  obtain ⟨s, hrun, hlength⟩ := Option.map_eq_some_iff.mp hlength
  refine ⟨s, hrun, hlength, (results_correct_iff asciiBuiltins sampleCountryOf 0 hrun).mpr ?_⟩
  decide +kernel

/-- The proxy changes its exit between the two requests of a call, and the result has the country
of the second exit. -/
theorem results_wrong_after_change :
    ¬ ∀ (py : Builtins) (countryOf : String → String) (clock : ℚ) (actions : List Action)
      (s : State), run (step py countryOf) (State.init clock) actions = some s →
        ∀ call result, s.calls call = some (.returned result) → Correct countryOf result := by
  intro h
  let actions : List Action := [.start 0 sampleRoute, .answer 0 "192.0.2.1" sampleReply 1,
    .answer 0 "192.0.2.2" sampleReply 2]
  have hresult : (run (step asciiBuiltins sampleCountryOf) (State.init 0) actions).bind
      (fun s => (s.calls 0).bind fun c => match c with
        | .returned result =>
            some (isTrue result "ok", textOf result "exit_ip", textOf result "country_code")
        | _ => none) = some (true, some "192.0.2.1", some "DE") := by
    decide +kernel
  obtain ⟨s, hrun, hresult⟩ := Option.bind_eq_some_iff.mp hresult
  obtain ⟨c, hcall, hresult⟩ := Option.bind_eq_some_iff.mp hresult
  split at hresult
  · next result =>
      simp only [Option.some.injEq, Prod.mk.injEq] at hresult
      obtain ⟨hok, hexit, hcode⟩ := hresult
      have hcorrect := h asciiBuiltins sampleCountryOf 0 actions s hrun 0 result hcall hok _
        (textOf_eq_some_iff.mp hexit) _ (textOf_eq_some_iff.mp hcode)
      simp [sampleCountryOf] at hcorrect
  · cases hresult

end PxManager.Health.ExitCountry
