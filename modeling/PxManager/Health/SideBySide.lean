import Mathlib.Logic.Function.Basic
import Mathlib.Logic.Relation
import PxManager.Health.ExitCountry
import PxManager.Health.Fetch

/-!
# PxManager.Health.SideBySide

Calls of `run_https_proxy_request_check` side by side, down to the operations of their requests.

A call has a stage, and the request that the stage waits for is a coroutine with a world of its own.
In any order, an operation of a call is answered in any way, or a request has ended and the call
goes on; the calls share the cache of countries. In every state, whatever a call asks of the network
is in place there, and each result is well formed: its address and its country, wherever they come
from.
-/

namespace PxManager.Health.SideBySide

open PxManager.Core
open PxManager.Core.Coroutine
open PxManager.Transport

/-! ### The machine -/

/-- Where a call is. -/
inductive Call
  | running (route : Route) (stage : CheckStage) (request : Requesting Found) (w : World)
  | returned (result : HealthResult)
  | raised

structure State where
  cache : ResultCache Nat
  calls : Nat → Option Call
  /-- The last reading of `time.monotonic()`. -/
  clock : ℚ

/-- The process before the first call. -/
def State.init (clock : ℚ) : State := ⟨.empty, fun _ => none, clock⟩

def State.setCall (s : State) (call : Nat) (c : Call) : State :=
  { s with calls := Function.update s.calls call (some c) }

/-- What a stage asks for, and where. -/
def askedBy : CheckStage → ResponseKind × Endpoint
  | .echo endpoint _ _ => (.ip, endpoint)
  | .country _ _ endpoint _ _ => (.country, endpoint)

section Machine

variable (py : Builtins) (json : JsonReader) (portError : PyError → String)

/-- The request of a stage. The port of the entry is read in `proxy_tunnel`, so a port that is no
number is an exception there. -/
def requestOf (turns : Nat) (route : Route) (stage : CheckStage) : Requesting Found :=
  match getHostPort py route.hostData with
  | .error e => done (.ok (.answer (.failed (portError e))))
  | .ok port =>
      endpointFound json turns
        ⟨route.host, port, ((route.hostData.get? "http3_enabled").getD .null).truthy⟩
        route.username.text route.password (.value (askedBy stage).1) (askedBy stage).2

/-- The call after a piece of it. -/
def Call.after (turns : Nat) (route : Route) : Progress → Call
  | .awaits stage => .running route stage (requestOf py json portError turns route stage) .new
  | .returned result => .returned result
  | .raised _ => .raised

/-- One step of the process. -/
inductive Step (s : State) : State → Prop
  | start (call turns : Nat) (route : Route) (hcall : s.calls call = none) :
      Step s (s.setCall call (.after py json portError turns route (.awaits .start)))
  /-- An operation of a request returns or raises. -/
  | goesOn {call : Nat} {route : Route} {stage : CheckStage} {w : World} {op : RequestOp}
      {resume : Except RequestError op.Ans → Requesting Found} (answer : Except RequestError op.Ans)
      (hcall : s.calls call = some (.running route stage (.await op resume) w)) :
      Step s (s.setCall call (.running route stage (resume answer) (w.after op answer)))
  /-- A request has ended with an answer. -/
  | answered {call : Nat} {route : Route} {stage : CheckStage} {w : World} {answer : Answer}
      {progress : Progress} {cache : ResultCache Nat} {now : ℚ} (turns : Nat)
      (hcall : s.calls call = some (.running route stage (.done (.ok (.answer answer))) w))
      (hnow : s.clock ≤ now)
      (hresume : stage.resume py call route answer now s.cache = (progress, cache)) :
      Step s ({ s with cache, clock := now }.setCall call
        (.after py json portError turns route progress))
  /-- A request was cancelled. -/
  | failed {call : Nat} {route : Route} {stage : CheckStage} {w : World} {e : RequestError}
      (hcall : s.calls call = some (.running route stage (.done (.error e)) w)) :
      Step s (s.setCall call .raised)

end Machine

/-! ### What holds in every state -/

/-- A country in a result: none, or a code. -/
def IsCountryCode (value : Json) : Prop :=
  value = .null ∨ ∃ code, value = .str code ∧ IsValue .country code.toList

/-- A result that is ok has an address and a country. -/
def WellFormed (result : HealthResult) : Prop :=
  isTrue result "ok" = true →
    (∃ exitIp, result.get? "exit_ip" = some (.str exitIp) ∧ IsValue .ip exitIp.toList) ∧
      ∃ value, result.get? "country_code" = some value ∧ IsCountryCode value

/-- The request of a stage keeps to its place, and ends with what its response says. -/
def Behaves (json : JsonReader) (stage : CheckStage) (request : Requesting Found) (w : World) : Prop :=
  request.wp (watching World.after) (Permitted .auto)
    (fun outcome w => Answered json (.value (askedBy stage).1) w outcome) w

/-- What holds of a call. -/
def CallOk (py : Builtins) (json : JsonReader) : Call → Prop
  | .running route stage request w => stage.Knows py route ∧
      stage.Told (fun exitIp => IsValue .ip exitIp.toList) ∧ Behaves json stage request w
  | .returned result => WellFormed result
  | .raised => True

/-- The invariant of the machine. -/
structure Inv (py : Builtins) (json : JsonReader) (s : State) : Prop where
  cache : s.cache.Sound s.clock
  plain : ∀ e ∈ s.cache.history, Plain e
  countries : ∀ user host port username exitIp country time,
    .computed user (.country host port username exitIp) country time ∈ s.cache.history →
      IsValue .ip exitIp.toList ∧
        ∃ value, ExitCountry.IsCountry country value ∧ IsCountryCode value
  calls : ∀ call c, s.calls call = some c → CallOk py json c

variable {py : Builtins} {json : JsonReader} {portError : PyError → String} {s s' : State}

theorem Inv.init (clock : ℚ) : Inv py json (State.init clock) where
  cache := .empty clock
  plain e he := by cases he
  countries user host port username exitIp country time h := by cases h
  calls call c h := by cases h

/-- A call goes on, and the invariant holds of what it goes on with. -/
theorem Inv.setCall (h : Inv py json s) (call : Nat) {c : Call} (hc : CallOk py json c) :
    Inv py json (s.setCall call c) where
  cache := h.cache
  plain := h.plain
  countries := h.countries
  calls call' c' hcall := by
    change Function.update s.calls call (some c) call' = some c' at hcall
    rw [Function.update_apply] at hcall
    split at hcall
    · cases hcall
      exact hc
    · exact h.calls call' c' hcall

/-- The request of a stage behaves. -/
theorem behaves_requestOf (turns : Nat) (route : Route) (stage : CheckStage) :
    Behaves json stage (requestOf py json portError turns route stage) .new := by
  unfold requestOf
  cases getHostPort py route.hostData with
  | ok port => exact wp_endpointFound
  | error e =>
      refine ⟨rfl, ?_, ?_⟩
      · intro found hfound
        cases hfound
        exact .failed _ _
      · intro e he
        cases he

/-- A country that is added to an address. -/
theorem wellFormed_update {result country : HealthResult} {value : Json} {exitIp : String}
    (hcountry : ExitCountry.IsCountry country value) (hcode : IsCountryCode value)
    (hexit : result.get? "exit_ip" = some (.str exitIp)) (hip : IsValue .ip exitIp.toList) :
    WellFormed (result.update country) := by
  refine fun _ => ⟨⟨exitIp, ?_, hip⟩, value, ?_, hcode⟩
  · rw [get?_update_exit_ip hcountry.exitIp, hexit]
  · rw [Dict.get?_update, hcountry.code]
    rfl

/-- What a piece of a check leaves in the cache and in its call, when its answer is well formed. -/
theorem Inv.resume (h : Inv py json s) {call : Nat} {route : Route} {stage : CheckStage}
    {answer : Answer} {progress : Progress} {cache : ResultCache Nat} {now : ℚ} (hnow : s.clock ≤ now)
    (hknows : stage.Knows py route) (htold : stage.Told fun exitIp => IsValue .ip exitIp.toList)
    (hvalue : ∀ value statusCode metadata, answer = .value value statusCode metadata →
      IsValue (askedBy stage).1 value.toList)
    (hresume : stage.resume py call route answer now s.cache = (progress, cache)) :
    Inv py json { s with cache, clock := now } ∧
      (∀ result, progress = .returned result → WellFormed result) ∧
      ∀ stage', progress = .awaits stage' → stage'.Knows py route ∧
        stage'.Told fun exitIp => IsValue .ip exitIp.toList := by
  have hresumed := CheckStage.resumed hknows hresume
  have hgrows := hresumed.grows h.cache hnow hknows
  have htold' : progress.Told fun exitIp => IsValue .ip exitIp.toList := by
    refine CheckStage.told h.cache hnow h.plain htold ?_ hresume
    rintro endpoint later errors value statusCode metadata rfl hanswer
    exact hvalue value statusCode metadata hanswer
  have hplain : ∀ e ∈ cache.history, Plain e := fun e he =>
    (hgrows.new e he).elim (h.plain e) fun hnew => hnew.2.2
  have hstages : ∀ stage', progress = .awaits stage' → stage'.Knows py route ∧
      stage'.Told fun exitIp => IsValue .ip exitIp.toList := by
    rintro stage' rfl
    exact ⟨hresumed.knows, htold'⟩
  have hinv : (∀ user host port username exitIp country time,
      .computed user (.country host port username exitIp) country time ∈ cache.history →
        IsValue .ip exitIp.toList ∧
          ∃ value, ExitCountry.IsCountry country value ∧ IsCountryCode value) →
      Inv py json { s with cache, clock := now } :=
    fun hcountries => ⟨hresumed.sound h.cache hnow, hplain, hcountries, h.calls⟩
  cases hresumed with
  | unfinished _ _ _ hnext hreturned =>
      refine ⟨hinv h.countries, ?_, hstages⟩
      rintro result rfl hok
      rw [hreturned result rfl] at hok
      cases hok
  | cached _ _ result country port exitIp _ hok hport hexit hstage hget =>
      obtain ⟨⟨user, time, hmem⟩, hhistory⟩ := h.cache.get_some hnow hget
      obtain ⟨-, value, hcountry, hcode⟩ := h.countries _ _ _ _ _ _ _ hmem
      refine ⟨hinv ?_, ?_, hstages⟩
      · intro user' host port' username exitIp' country' time' hmem'
        rw [hhistory] at hmem'
        exact h.countries _ _ _ _ _ _ _ ((List.mem_append.mp hmem').resolve_right (by simp))
      · intro result' hreturned
        cases hreturned
        have hip := htold' exitIp (by rw [get?_update_exit_ip hcountry.exitIp, hexit])
        exact wellFormed_update hcountry hcode hexit hip
  | missed _ stage' _ port exitIp _ hknows' hport hstage hget =>
      refine ⟨hinv ?_, ?_, hstages⟩
      · rw [h.cache.get_none hnow hget]
        exact h.countries
      · intro result hreturned
        cases hreturned
  | finished result country subject endpoint later errors _ hcountry =>
      obtain ⟨hok, port, exitIp, hport, rfl, hexit⟩ := hknows
      obtain ⟨value, hisCountry, hcode⟩ :
          ∃ value, ExitCountry.IsCountry country value ∧ IsCountryCode value := by
        rcases hcountry with ⟨value, statusCode, metadata, rfl, rfl⟩ | ⟨-, errors', rfl⟩
        · exact ⟨.str value, ExitCountry.isCountry_countryFound .., .inr ⟨value, rfl,
            hvalue value statusCode metadata rfl⟩⟩
        · exact ⟨.null, ExitCountry.isCountry_countryFailure errors', .inl rfl⟩
      refine ⟨hinv ?_, ?_, hstages⟩
      · intro user' host port' username exitIp' country' time' hmem'
        rcases List.mem_append.mp hmem' with hold | hnew
        · exact h.countries _ _ _ _ _ _ _ hold
        · cases List.mem_singleton.mp hnew
          exact ⟨htold exitIp hexit, value, hisCountry, hcode⟩
      · intro result' hreturned
        cases hreturned
        exact wellFormed_update hisCountry hcode hexit (htold exitIp hexit)

/-- Every step keeps the invariant. -/
theorem Inv.step (h : Inv py json s) (hstep : Step py json portError s s') : Inv py json s' := by
  cases hstep with
  | start call turns route hcall =>
      exact h.setCall call ⟨trivial, trivial, behaves_requestOf turns route _⟩
  | goesOn answer hcall =>
      obtain ⟨hknows, htold, hbehaves⟩ := h.calls _ _ hcall
      exact h.setCall _ ⟨hknows, htold, hbehaves.2 answer _ rfl⟩
  | failed hcall => exact h.setCall _ trivial
  | @answered call route stage w answer progress cache now turns hcall hnow hresume =>
      obtain ⟨hknows, htold, hbehaves⟩ := h.calls _ _ hcall
      have hvalue : ∀ value statusCode metadata, answer = .value value statusCode metadata →
          IsValue (askedBy stage).1 value.toList := by
        rintro value statusCode metadata rfl
        obtain ⟨valueKind, hkind, hvalue⟩ := isValue_of_tells (hbehaves.tells _ rfl)
        cases hkind
        exact hvalue
      obtain ⟨hinv, hreturned, hnext⟩ := h.resume hnow hknows htold hvalue hresume
      refine hinv.setCall call ?_
      cases progress with
      | awaits stage' =>
          exact ⟨(hnext stage' rfl).1, (hnext stage' rfl).2, behaves_requestOf turns route stage'⟩
      | returned result => exact hreturned result rfl
      | raised error => trivial

/-- **Calls side by side.** In every state that the process comes to: whatever a call asks of the
network is in place there, and no tunnel of it is left open when its request has ended; every result
has an address in its one spelling and a country that is none or a code, or is not ok; and each
entry of the cache is the country of an address in its one spelling, and is none or a code. -/
theorem checks_side_by_side (py : Builtins) (json : JsonReader) (portError : PyError → String)
    (clock : ℚ) (s : State)
    (hreaches : Relation.ReflTransGen (Step py json portError) (State.init clock) s) :
    (∀ call route stage op resume w,
        s.calls call = some (.running route stage (.await op resume) w) → Permitted .auto w op) ∧
      (∀ call route stage outcome w,
        s.calls call = some (.running route stage (.done outcome) w) → w.channel = .closed) ∧
      (∀ call result, s.calls call = some (.returned result) → WellFormed result) ∧
      ∀ user host port username exitIp country time,
        .computed user (.country host port username exitIp) country time ∈ s.cache.history →
          IsValue .ip exitIp.toList ∧
            ∃ value, country.get? "country_code" = some value ∧ IsCountryCode value := by
  have hinv : Inv py json s := by
    induction hreaches with
    | refl => exact Inv.init clock
    | tail _ hstep ih => exact ih.step hstep
  refine ⟨?_, ?_, ?_, ?_⟩
  · intro call route stage op resume w hcall
    exact (hinv.calls call _ hcall).2.2.1
  · intro call route stage outcome w hcall
    exact (hinv.calls call _ hcall).2.2.closed
  · intro call result hcall
    exact hinv.calls call _ hcall
  · intro user host port username exitIp country time hmem
    obtain ⟨hip, value, hcountry, hcode⟩ := hinv.countries _ _ _ _ _ _ _ hmem
    exact ⟨hip, value, hcountry.code, hcode⟩

/-! ### Two calls -/

section Runs

variable {call : Nat} {route : Route} {stage : CheckStage}

theorem calls_setCall_self (c : Call) : (s.setCall call c).calls call = some c :=
  Function.update_self ..

theorem setCall_eq_self {c : Call} (hcall : s.calls call = some c) : s.setCall call c = s := by
  obtain ⟨cache, calls, clock⟩ := s
  exact congrArg (State.mk cache · clock) (Function.update_eq_self_iff.mpr hcall.symm)

theorem setCall_setCall (c c' : Call) : (s.setCall call c).setCall call c' = s.setCall call c' :=
  congrArg (State.mk s.cache · s.clock) (Function.update_idem ..)

/-- A request comes to its end when a network answers it. -/
theorem reaches_done (answer : World → (op : RequestOp) → Except RequestError op.Ans)
    {request : Requesting Found} {w : World} {outcome : Except RequestError Found}
    (hcall : s.calls call = some (.running route stage request w))
    (hfollow : (request.follow (fun w op => (answer w op, w.after op (answer w op))) w).1 =
      some outcome) :
    ∃ w', Relation.ReflTransGen (Step py json portError) s
      (s.setCall call (.running route stage (.done outcome) w')) := by
  induction request generalizing s w with
  | done result =>
      cases Option.some.inj hfollow
      exact ⟨w, by rw [setCall_eq_self hcall]⟩
  | await op resume ih =>
      have hstep : Step py json portError s _ := .goesOn (answer w op) hcall
      obtain ⟨w', hrest⟩ := ih (answer w op) (calls_setCall_self (s := s) _) hfollow
      rw [setCall_setCall] at hrest
      exact ⟨w', .head hstep hrest⟩
  | running => cases hfollow

/-- A call goes on with the answer that comes of its request. -/
theorem reaches_answered (call : Nat) (answer : World → (op : RequestOp) → Except RequestError op.Ans)
    {turns : Nat} (given : Answer) {progress : Progress} {cache : ResultCache Nat} {now : ℚ}
    (hcall : s.calls call = some (.after py json portError turns route (.awaits stage)))
    (hfollow : ((requestOf py json portError turns route stage).follow
      (fun w op => (answer w op, w.after op (answer w op))) .new).1 = some (.ok (.answer given)))
    (hnow : s.clock ≤ now) (hresume : stage.resume py call route given now s.cache = (progress, cache)) :
    Relation.ReflTransGen (Step py json portError) s
      ({ s with cache, clock := now }.setCall call (.after py json portError turns route progress)) := by
  obtain ⟨w', hdone⟩ := reaches_done answer hcall hfollow
  set ended : Call := .running route stage (.done (.ok (.answer given))) w'
  have hstep : Step py json portError (s.setCall call ended)
      (({ s with cache, clock := now }.setCall call ended).setCall call
        (.after py json portError turns route progress)) :=
    .answered turns (calls_setCall_self ended) hnow hresume
  rw [setCall_setCall] at hstep
  exact hdone.tail hstep

end Runs

/-- A network where the target responds with a body. -/
def answerWith (body : Text) (w : World) : (op : RequestOp) → Except RequestError op.Ans
  | .nextEvent => .ok (match w.events with
      | [] => .response 200 "1.1" []
      | [_] => .data (encodeUtf8 body)
      | _ => .endOfMessage)
  | op => sampleAnswer w op

/-- A process with one call. -/
def sampleState : State :=
  (State.init 0).setCall 0 (.after asciiBuiltins sampleReader (fun _ => "") 3 ExitCountry.sampleRoute
    (.awaits .start))

/-- A call has its result, and its country is in the cache, while another one waits for the
network. -/
theorem checks_side_by_side_twoCalls : ∃ (s : State) (result : HealthResult) (op : RequestOp)
    (resume : Except RequestError op.Ans → Requesting Found) (w : World),
    Relation.ReflTransGen (Step asciiBuiltins sampleReader fun _ => "") (State.init 0) s ∧
      s.calls 0 = some (.returned result) ∧ WellFormed result ∧ isTrue result "ok" = true ∧
      textOf result "country_code" = some "NL" ∧
      s.calls 1 = some (.running ExitCountry.sampleRoute .start (.await op resume) w) ∧
      Permitted .auto w op ∧
      ∃ user host port username exitIp country time,
        .computed user (.country host port username exitIp) country time ∈ s.cache.history ∧
          IsValue .ip exitIp.toList := by
  have hstart : Relation.ReflTransGen (Step asciiBuiltins sampleReader fun _ => "") (State.init 0)
      sampleState := .single (.start 0 3 ExitCountry.sampleRoute rfl)
  have hecho := reaches_answered (s := sampleState) 0 (answerWith "192.0.2.1".toList)
    (.value "192.0.2.1" 200 ⟨"HTTP/2", .str "TLSv1.3", false⟩) (calls_setCall_self _) rfl
    (show (0 : ℚ) ≤ 1 by decide +kernel) rfl
  have hother := (hstart.trans hecho).tail (.start 1 3 ExitCountry.sampleRoute rfl)
  have hreaches := hother.trans (reaches_answered 0 (answerWith "NL".toList)
    (.value "NL" 200 ⟨"HTTP/2", .str "TLSv1.3", false⟩) rfl rfl
    (show (1 : ℚ) ≤ 2 by decide +kernel) rfl)
  obtain ⟨hpermitted, -, hresult, hcache⟩ := checks_side_by_side _ _ _ _ _ hreaches
  exact ⟨_, _, _, _, _, hreaches, rfl, hresult 0 _ rfl, rfl, rfl, rfl, hpermitted 1 _ _ _ _ _ rfl,
    _, _, _, _, _, _, _, List.mem_cons_self, (hcache _ _ _ _ _ _ _ List.mem_cons_self).1⟩

end PxManager.Health.SideBySide
