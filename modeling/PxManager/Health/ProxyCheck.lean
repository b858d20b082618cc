import PxManager.Health.ResultCache

/-!
# PxManager.Health.ProxyCheck

`run_https_proxy_request_check` of `main.py`: the exit address of a proxy, and its country.

The function awaits one request through the proxy after the other: it asks the IP-echo endpoints
until one answers, and then the country endpoints, unless the country of the address is cached. A
`CheckStage` says for which request it waits, and `CheckStage.resume` is the code from there to the
next await or to the end. The answers are open.
-/

namespace PxManager.Health

open PxManager.Core

/-- A host entry and the credentials for it. -/
structure Route where
  hostData : HostData
  /-- `host_data["host"]`. -/
  host : String
  get?_host : hostData.get? "host" = some (.str host)
  username : Username
  password : Text

/-- `get_host_port`. -/
def getHostPort (py : Builtins) (hostData : HostData) : Except PyError ℤ :=
  py.int ((hostData.get? "port").getD (.int 443))

/-- The subject is about the route. -/
def Route.Concerns (py : Builtins) (route : Route) : Subject → Prop
  | .connect host => host = route.host
  | .ping host => host = route.host
  | .proxyRequest host username => host = route.host ∧ username = route.username
  | .protocol host port username _ =>
      host = route.host ∧ getHostPort py route.hostData = .ok port ∧ username = route.username
  | .country host port username _ =>
      host = route.host ∧ getHostPort py route.hostData = .ok port ∧ username = route.username

/-! ### Endpoints -/

/-- Where an endpoint listens. -/
structure Endpoint where
  host : String
  port : Nat
  path : String

/-- `IP_ECHO_ENDPOINTS`: the first, and those to fall back on. -/
def ipEchoEndpoints : Endpoint × List Endpoint :=
  (⟨"speed.cloudflare.com", 443, "/cdn-cgi/trace"⟩,
    [⟨"ifconfig.me", 443, "/ip"⟩, ⟨"api.ipify.org", 443, "/"⟩, ⟨"icanhazip.com", 443, "/"⟩])

/-- `COUNTRY_ENDPOINTS`. -/
def countryEndpoints : Endpoint × List Endpoint :=
  (⟨"speed.cloudflare.com", 443, "/cdn-cgi/trace"⟩,
    [⟨"ifconfig.co", 443, "/country-iso"⟩, ⟨"ipapi.co", 443, "/country_code/"⟩,
      ⟨"api.country.is", 443, "/"⟩])

/-- `response_kind`, apart from `"yandex"`. -/
inductive ResponseKind
  | ip
  | country

/-- The field of a result with the value that was asked for. -/
def ResponseKind.field : ResponseKind → String
  | .ip => "exit_ip"
  | .country => "country_code"

/-- What `proxy_request` says about the connection to the proxy. -/
structure Metadata where
  httpVersion : String
  tlsVersion : Json
  fallback : Bool

def Metadata.members (metadata : Metadata) : List (String × Json) :=
  [("proxy_http_version", .str metadata.httpVersion),
    ("proxy_tls_version", metadata.tlsVersion)] ++
    if metadata.fallback then [("proxy_fallback_from", .str "HTTP/3")] else []

/-- How a request to an endpoint ends. -/
inductive Answer
  /-- A response with the value that was asked for. -/
  | value (value : String) (statusCode : ℤ) (metadata : Metadata)
  /-- An exception, by its text: the request failed, or there is no such value in the response. -/
  | failed (error : String)
  /-- `asyncio.timeout(10)`. -/
  | timedOut

/-- `run_https_proxy_request_check_endpoint`. -/
def endpointResult (kind : ResponseKind) (targetHost : String) : Answer → HealthResult
  | .value value statusCode metadata => .ofList
      ([("ok", .bool true), ("status", .str "responded"), ("status_code", .int statusCode),
        ("status_line", .str (targetHost ++ ": " ++ value))] ++ metadata.members ++
        [(kind.field, .str value), ("request_kind", .str "https"), ("error", .null)])
  | .failed error => .ofList
      [("ok", .bool false), ("status", .str "error"), ("status_code", .null),
        ("status_line", .null), ("request_kind", .str "https"), ("error", .str error)]
  | .timedOut => .ofList [("ok", .bool false), ("error", .str "Таймаут запроса")]

/-- `result.get(key)`, as a condition. -/
def isTrue (result : HealthResult) (key : String) : Bool := ((result.get? key).getD .null).truthy

/-- `result.get(key)`, where that is a string. -/
def textOf (result : HealthResult) (key : String) : Option String :=
  (result.get? key).bind Json.asStr?

/-- `f"{target_host}: {result['error']}"`. -/
def endpointError (targetHost : String) (result : HealthResult) : String :=
  targetHost ++ ": " ++ (textOf result "error").getD ""

/-- `"; ".join(errors)`. -/
def joinErrors (errors : List String) : String := String.intercalate "; " errors

/-! ### The check -/

/-- The request for which the check waits. `endpoint` has been asked, and `later` are left. -/
inductive CheckStage
  | echo (endpoint : Endpoint) (later : List Endpoint) (errors : List String)
  /-- The exit address is known, and its country is not cached. -/
  | country (result : HealthResult) (subject : Subject) (endpoint : Endpoint)
      (later : List Endpoint) (errors : List String)

/-- How a piece of the check ends. -/
inductive Progress
  | awaits (stage : CheckStage)
  | returned (result : HealthResult)
  | raised (error : PyError)

/-- `run_https_proxy_request_check` up to its first await. -/
def CheckStage.start : CheckStage := .echo ipEchoEndpoints.1 ipEchoEndpoints.2 []

/-- The result when no IP-echo endpoint has answered. -/
def requestFailure (errors : List String) : HealthResult := .ofList
  [("ok", .bool false), ("status", .str "error"), ("status_code", .null), ("status_line", .null),
    ("request_kind", .str "https"),
    ("error", .str (if errors = [] then "proxy request failed" else joinErrors errors))]

/-- What `run_https_proxy_country_check` returns for an answer. -/
def countryFound (targetHost : String) (result : HealthResult) : HealthResult := .ofList
  [("country_code", (result.get? "country_code").getD .null),
    ("country_provider", .str targetHost), ("country_error", .null)]

/-- What it returns when no country endpoint has answered. -/
def countryFailure (errors : List String) : HealthResult := .ofList
  [("country_code", .null), ("country_provider", .null), ("country_error", .str (joinErrors errors))]

section Resume

variable {ι : Type} (py : Builtins) (user : ι) (route : Route)

/-- The code after an IP-echo endpoint has answered. -/
def resumeEcho (endpoint : Endpoint) (later : List Endpoint) (errors : List String)
    (answer : Answer) (now : ℚ) (cache : ResultCache ι) : Progress × ResultCache ι :=
  let result := endpointResult .ip endpoint.host answer
  if isTrue result "ok" then
    match getHostPort py route.hostData with
    | .error error => (.raised error, cache)
    | .ok port =>
        let subject := .country route.host port route.username
          ((textOf result "exit_ip").getD "")
        match cache.get user subject now with
        | (some country, cache) => (.returned (result.update country), cache)
        | (none, cache) =>
            (.awaits (.country result subject countryEndpoints.1 countryEndpoints.2 []), cache)
  else
    let errors := errors ++ [endpointError endpoint.host result]
    match later with
    | endpoint :: later => (.awaits (.echo endpoint later errors), cache)
    | [] => (.returned (requestFailure errors), cache)

/-- The code after a country endpoint has answered. -/
def resumeCountry (result : HealthResult) (subject : Subject) (endpoint : Endpoint)
    (later : List Endpoint) (errors : List String) (answer : Answer) (now : ℚ)
    (cache : ResultCache ι) : Progress × ResultCache ι :=
  let answered := endpointResult .country endpoint.host answer
  if isTrue answered "ok" then
    let country := countryFound endpoint.host answered
    (.returned (result.update country), cache.set user subject country now)
  else
    let errors := errors ++ [endpointError endpoint.host answered]
    match later with
    | endpoint :: later => (.awaits (.country result subject endpoint later errors), cache)
    | [] =>
        let country := countryFailure errors
        (.returned (result.update country), cache.set user subject country now)

/-- `run_https_proxy_request_check` after an answer. -/
def CheckStage.resume (stage : CheckStage) (answer : Answer) (now : ℚ) (cache : ResultCache ι) :
    Progress × ResultCache ι :=
  match stage with
  | .echo endpoint later errors =>
      resumeEcho py user route endpoint later errors answer now cache
  | .country result subject endpoint later errors =>
      resumeCountry user result subject endpoint later errors answer now cache

end Resume

/-! ### What the pieces do -/

@[simp] theorem isTrue_endpointResult (kind : ResponseKind) (targetHost : String)
    (answer : Answer) : isTrue (endpointResult kind targetHost answer) "ok" =
      match answer with
      | .value .. => true
      | _ => false := by
  cases answer with
  | value value statusCode metadata =>
      cases hfallback : metadata.fallback <;> cases kind <;>
        simp [isTrue, endpointResult, Dict.ofList, Metadata.members, hfallback, Dict.get?_set,
          ResponseKind.field, Json.truthy]
  | failed error => rfl
  | timedOut => rfl

theorem textOf_eq_some_iff {result : HealthResult} {key text : String} :
    textOf result key = some text ↔ result.get? key = some (.str text) := by
  unfold textOf
  cases result.get? key with
  | none => simp
  | some value => cases value <;> simp [Json.asStr?]

/-- The value that was asked for is in the result. -/
theorem get?_endpointResult (kind : ResponseKind) (targetHost value : String) (statusCode : ℤ)
    (metadata : Metadata) :
    (endpointResult kind targetHost (.value value statusCode metadata)).get? kind.field =
      some (.str value) := by
  cases kind <;> simp [endpointResult, Dict.ofList, List.foldl_append, Dict.get?_set,
    ResponseKind.field]

section Resume

variable {ι : Type} {py : Builtins} {user : ι} {route : Route} {endpoint : Endpoint}
  {later : List Endpoint} {errors : List String} {answer : Answer} {now : ℚ}
  {cache : ResultCache ι}

/-! The pieces, branch by branch. -/

theorem resumeEcho_value (value : String) (statusCode : ℤ) (metadata : Metadata) :
    resumeEcho py user route endpoint later errors (.value value statusCode metadata) now cache =
      match getHostPort py route.hostData with
      | .error error => (.raised error, cache)
      | .ok port =>
          match cache.get user (.country route.host port route.username value) now with
          | (some country, cache) =>
              (.returned ((endpointResult .ip endpoint.host
                (.value value statusCode metadata)).update country), cache)
          | (none, cache) =>
              (.awaits (.country (endpointResult .ip endpoint.host
                  (.value value statusCode metadata))
                (.country route.host port route.username value) countryEndpoints.1
                countryEndpoints.2 []), cache) := by
  have hok := isTrue_endpointResult .ip endpoint.host (.value value statusCode metadata)
  have hexit := get?_endpointResult .ip endpoint.host value statusCode metadata
  simp only [ResponseKind.field] at hexit
  unfold resumeEcho
  rw [if_pos hok, textOf, hexit]
  rfl

theorem resumeEcho_of_not_value
    (h : ∀ value statusCode metadata, answer ≠ .value value statusCode metadata) :
    resumeEcho py user route endpoint later errors answer now cache =
      match (later : List Endpoint) with
      | endpoint' :: later => (.awaits (.echo endpoint' later (errors ++
          [endpointError endpoint.host (endpointResult .ip endpoint.host answer)])), cache)
      | [] => (.returned (requestFailure (errors ++
          [endpointError endpoint.host (endpointResult .ip endpoint.host answer)])), cache) := by
  have hok := isTrue_endpointResult .ip endpoint.host answer
  unfold resumeEcho
  cases answer with
  | value value statusCode metadata => exact absurd rfl (h value statusCode metadata)
  | _ => rw [if_neg (by simp [hok])]

theorem resumeCountry_value (result : HealthResult) (subject : Subject) (value : String)
    (statusCode : ℤ) (metadata : Metadata) :
    resumeCountry user result subject endpoint later errors (.value value statusCode metadata) now
        cache =
      let country := countryFound endpoint.host
        (endpointResult .country endpoint.host (.value value statusCode metadata))
      (.returned (result.update country), cache.set user subject country now) := by
  have hok := isTrue_endpointResult .country endpoint.host (.value value statusCode metadata)
  unfold resumeCountry
  rw [if_pos hok]

theorem resumeCountry_of_not_value (result : HealthResult) (subject : Subject)
    (h : ∀ value statusCode metadata, answer ≠ .value value statusCode metadata) :
    resumeCountry user result subject endpoint later errors answer now cache =
      let errors := errors ++
        [endpointError endpoint.host (endpointResult .country endpoint.host answer)]
      match (later : List Endpoint) with
      | endpoint :: later => (.awaits (.country result subject endpoint later errors), cache)
      | [] => (.returned (result.update (countryFailure errors)),
          cache.set user subject (countryFailure errors) now) := by
  have hok := isTrue_endpointResult .country endpoint.host answer
  unfold resumeCountry
  cases answer with
  | value value statusCode metadata => exact absurd rfl (h value statusCode metadata)
  | _ => rw [if_neg (by simp [hok])]

/-- What a check knows at a stage. -/
def CheckStage.Knows (py : Builtins) (route : Route) : CheckStage → Prop
  | .echo .. => True
  | .country result subject _ _ _ => isTrue result "ok" = true ∧ ∃ port exitIp,
      getHostPort py route.hostData = .ok port ∧
      subject = .country route.host port route.username exitIp ∧
      result.get? "exit_ip" = some (.str exitIp)

/-- What a piece of a check does, by how it ends. -/
inductive Resumed (py : Builtins) (user : ι) (route : Route) (now : ℚ) (cache : ResultCache ι) :
    CheckStage → Answer → Progress → ResultCache ι → Prop
  /-- Nothing has been found, or the port of the entry is no number. -/
  | unfinished (stage : CheckStage) (answer : Answer) (progress : Progress)
      (hnext : ∀ stage', progress = .awaits stage' → stage'.Knows py route)
      (hreturned : ∀ result, progress = .returned result → isTrue result "ok" = false)
      (hvalue : ∀ result subject endpoint later errors value statusCode metadata,
        stage = .country result subject endpoint later errors →
          answer ≠ .value value statusCode metadata) :
      Resumed py user route now cache stage answer progress cache
  /-- The country of the address is cached. -/
  | cached (stage : CheckStage) (answer : Answer) (result country : HealthResult) (port : ℤ)
      (exitIp : String) (cache' : ResultCache ι) (hok : isTrue result "ok" = true)
      (hport : getHostPort py route.hostData = .ok port)
      (hexit : result.get? "exit_ip" = some (.str exitIp))
      (hstage : ∀ result subject endpoint later errors,
        stage ≠ .country result subject endpoint later errors)
      (hget : cache.get user (.country route.host port route.username exitIp) now =
        (some country, cache')) :
      Resumed py user route now cache stage answer (.returned (result.update country)) cache'
  /-- It is not. -/
  | missed (stage stage' : CheckStage) (answer : Answer) (port : ℤ) (exitIp : String)
      (cache' : ResultCache ι) (hknows : stage'.Knows py route)
      (hport : getHostPort py route.hostData = .ok port)
      (hstage : ∀ result subject endpoint later errors,
        stage ≠ .country result subject endpoint later errors)
      (hget : cache.get user (.country route.host port route.username exitIp) now =
        (none, cache')) :
      Resumed py user route now cache stage answer (.awaits stage') cache'
  /-- The lookup of the country is over. -/
  | finished (result country : HealthResult) (subject : Subject) (endpoint : Endpoint)
      (later : List Endpoint) (errors : List String) (answer : Answer)
      (hcountry : (∃ value statusCode metadata, answer = .value value statusCode metadata ∧
          country = countryFound endpoint.host (endpointResult .country endpoint.host answer)) ∨
        (∀ value statusCode metadata, answer ≠ .value value statusCode metadata) ∧
          ∃ errors', country = countryFailure errors') :
      Resumed py user route now cache (.country result subject endpoint later errors) answer
        (.returned (result.update country)) (cache.set user subject country now)

theorem isTrue_requestFailure (errors : List String) :
    isTrue (requestFailure errors) "ok" = false := by
  simp [requestFailure, isTrue, Dict.ofList, Dict.get?_set, Json.truthy]

theorem resumeEcho_resumed : Resumed py user route now cache (.echo endpoint later errors) answer
    (resumeEcho py user route endpoint later errors answer now cache).1
    (resumeEcho py user route endpoint later errors answer now cache).2 := by
  cases answer with
  | value value statusCode metadata =>
      have hok := isTrue_endpointResult .ip endpoint.host (.value value statusCode metadata)
      have hexit := get?_endpointResult .ip endpoint.host value statusCode metadata
      simp only [ResponseKind.field] at hexit
      rw [resumeEcho_value]
      cases hport : getHostPort py route.hostData with
      | error error =>
          refine .unfinished _ _ _ ?_ ?_ ?_ <;> intros <;> simp_all
      | ok port =>
          dsimp only
          rcases hget : cache.get user (.country route.host port route.username value) now with
            ⟨found, cache'⟩
          cases found with
          | some country =>
              exact .cached _ _ _ country port value cache' hok hport hexit (by simp) hget
          | none =>
              refine .missed _ _ _ port value cache' ?_ hport (by simp) hget
              exact ⟨hok, port, value, hport, rfl, hexit⟩
  | _ =>
      rw [resumeEcho_of_not_value (by simp)]
      cases later with
      | cons endpoint' later' =>
          refine .unfinished _ _ _ ?_ ?_ ?_
          · intro stage' hnext
            cases hnext
            trivial
          · intro result hreturned
            cases hreturned
          · intro result subject endpoint later errors value statusCode metadata hstage
            cases hstage
      | nil =>
          refine .unfinished _ _ _ ?_ ?_ ?_
          · intro stage' hnext
            cases hnext
          · intro result hreturned
            cases hreturned
            exact isTrue_requestFailure _
          · intro result subject endpoint later errors value statusCode metadata hstage
            cases hstage

theorem resumeCountry_resumed {result : HealthResult} {subject : Subject}
    (h : (CheckStage.country result subject endpoint later errors).Knows py route) :
    Resumed py user route now cache (.country result subject endpoint later errors) answer
      (resumeCountry user result subject endpoint later errors answer now cache).1
      (resumeCountry user result subject endpoint later errors answer now cache).2 := by
  cases answer with
  | value value statusCode metadata =>
      rw [resumeCountry_value]
      exact .finished _ _ _ _ _ _ _ (.inl ⟨value, statusCode, metadata, rfl, rfl⟩)
  | _ =>
      rw [resumeCountry_of_not_value _ _ (by simp)]
      cases later with
      | cons endpoint' later' =>
          refine .unfinished _ _ _ ?_ ?_ ?_
          · intro stage' hnext
            cases hnext
            exact h
          · intro result hreturned
            cases hreturned
          · intro result subject endpoint later errors value statusCode metadata _ hanswer
            cases hanswer
      | nil => exact .finished _ _ _ _ _ _ _ (.inr ⟨by simp, _, rfl⟩)

/-- A piece of a check does one of these. -/
theorem CheckStage.resumed {stage : CheckStage} {progress : Progress} {cache' : ResultCache ι}
    (h : stage.Knows py route)
    (hresume : stage.resume py user route answer now cache = (progress, cache')) :
    Resumed py user route now cache stage answer progress cache' := by
  obtain ⟨rfl, rfl⟩ := Prod.mk.inj hresume
  cases stage with
  | echo endpoint later errors => exact resumeEcho_resumed
  | country result subject endpoint later errors => exact resumeCountry_resumed h

/-- Every piece keeps the invariant of the cache. -/
theorem Resumed.sound {stage : CheckStage} {progress : Progress} {cache' : ResultCache ι}
    (hr : Resumed py user route now cache stage answer progress cache') {clock : ℚ}
    (h : cache.Sound clock) (hnow : clock ≤ now) : cache'.Sound now := by
  cases hr with
  | unfinished => exact h.later hnow
  | cached _ _ result country port exitIp _ hok hport hexit hstage hget =>
      have hsound := h.get hnow user (.country route.host port route.username exitIp)
      rwa [hget] at hsound
  | missed _ stage' _ port exitIp _ hknows hport hstage hget =>
      have hsound := h.get hnow user (.country route.host port route.username exitIp)
      rwa [hget] at hsound
  | finished => exact h.set hnow ..

/-- After a request for a country the cache is only written. -/
theorem resumeCountry_cache (result : HealthResult) (subject : Subject) :
    (resumeCountry user result subject endpoint later errors answer now cache).2 = cache ∨
      ∃ country, (resumeCountry user result subject endpoint later errors answer now cache).2 =
        cache.set user subject country now := by
  cases answer with
  | value value statusCode metadata =>
      rw [resumeCountry_value]
      exact .inr ⟨_, rfl⟩
  | _ =>
      rw [resumeCountry_of_not_value _ _ (by simp)]
      cases later with
      | cons endpoint' later' => exact .inl rfl
      | nil => exact .inr ⟨_, rfl⟩

/-- A check reads the country of the exit address that it has just got, and nothing else. -/
theorem CheckStage.country_of_served {stage : CheckStage} {progress : Progress}
    {cache' : ResultCache ι} {subject : Subject} {country : HealthResult} {clock : ℚ}
    (h : cache.Sound clock) (hnow : clock ≤ now)
    (hresume : stage.resume py user route answer now cache = (progress, cache'))
    (hserved : cache'.history = cache.history ++ [.served user subject country now]) :
    ∃ (port : ℤ) (result : HealthResult) (exitIp : String),
      subject = .country route.host port route.username exitIp ∧
      getHostPort py route.hostData = .ok port ∧ result.get? "exit_ip" = some (.str exitIp) ∧
      progress = .returned (result.update country) := by
  have hsame : cache.history ≠ cache.history ++ [.served user subject country now] := by simp
  cases stage with
  | echo endpoint later errors =>
      have hresumed : Resumed py user route now cache (.echo endpoint later errors) answer progress
          cache' := by
        obtain ⟨rfl, rfl⟩ := Prod.mk.inj hresume
        exact resumeEcho_resumed
      cases hresumed with
      | unfinished => exact absurd hserved hsame
      | missed _ stage' _ port exitIp _ hknows hport hstage hget =>
          rw [h.get_none hnow hget] at hserved
          exact absurd hserved hsame
      | cached _ _ result country' port exitIp _ hok hport hexit hstage hget =>
          rw [(h.get_some hnow hget).2, List.append_cancel_left_eq] at hserved
          cases hserved
          exact ⟨port, result, exitIp, rfl, hport, hexit, rfl⟩
  | country result subject' endpoint later errors =>
      have hcache : (resumeCountry user result subject' endpoint later errors answer now cache).2 =
          cache' := congrArg Prod.snd hresume
      rcases resumeCountry_cache result subject' with heq | ⟨country', heq⟩
      · rw [← hcache, heq] at hserved
        exact absurd hserved hsame
      · rw [← hcache, heq] at hserved
        simp [ResultCache.set] at hserved

/-- A stored country says nothing of the exit address. -/
def Plain : Event ι → Prop
  | .computed _ (.country ..) result _ => result.get? "exit_ip" = none
  | _ => True

/-- One part of the program has used the cache, for subjects of its own route. -/
structure Grows (py : Builtins) (user : ι) (route : Route) (cache cache' : ResultCache ι) :
    Prop where
  old : ∀ e ∈ cache.history, e ∈ cache'.history
  new : ∀ e ∈ cache'.history,
    e ∈ cache.history ∨ e.user = user ∧ route.Concerns py e.subject ∧ Plain e

theorem Grows.refl : Grows py user route cache cache := ⟨fun _ he => he, fun _ he => .inl he⟩

/-- A new event at the end of the history. -/
theorem Grows.concat {cache' : ResultCache ι} {e : Event ι}
    (hhistory : cache'.history = cache.history ++ [e]) (huser : e.user = user)
    (hsubject : route.Concerns py e.subject) (hplain : Plain e) :
    Grows py user route cache cache' := by
  refine ⟨?_, ?_⟩
  · intro e' he'
    rw [hhistory]
    exact List.mem_append_left _ he'
  · intro e' he'
    rw [hhistory, List.mem_append, List.mem_singleton] at he'
    rcases he' with hold | rfl
    · exact .inl hold
    · exact .inr ⟨huser, hsubject, hplain⟩

theorem Grows.get {clock : ℚ} (h : cache.Sound clock) (hnow : clock ≤ now) {subject : Subject}
    (hsubject : route.Concerns py subject) :
    Grows py user route cache (cache.get user subject now).2 := by
  rcases h.get_cases hnow user subject with ⟨entries, heq, -⟩ | ⟨result, user', time, heq, -⟩
  · rw [heq]
    exact ⟨fun _ he => he, fun _ he => .inl he⟩
  · rw [heq]
    exact Grows.concat rfl rfl hsubject trivial

theorem Grows.set {subject : Subject} {result : HealthResult}
    (hsubject : route.Concerns py subject) (hplain : Plain (.computed user subject result now)) :
    Grows py user route cache (cache.set user subject result now) :=
  Grows.concat rfl rfl hsubject hplain

theorem get?_countryFound_exit_ip (targetHost : String) (result : HealthResult) :
    (countryFound targetHost result).get? "exit_ip" = none := by
  simp [countryFound, Dict.ofList, Dict.get?_set]

theorem get?_countryFailure_exit_ip (errors : List String) :
    (countryFailure errors).get? "exit_ip" = none := by
  simp [countryFailure, Dict.ofList, Dict.get?_set]

/-- A check uses the cache for the country of its own route. -/
theorem Resumed.grows {stage : CheckStage} {progress : Progress} {cache' : ResultCache ι}
    (hr : Resumed py user route now cache stage answer progress cache') {clock : ℚ}
    (h : cache.Sound clock) (hnow : clock ≤ now) (hknows : stage.Knows py route) :
    Grows py user route cache cache' := by
  cases hr with
  | unfinished => exact Grows.refl
  | cached _ _ result country port exitIp _ hok hport hexit hstage hget =>
      have hsubject : route.Concerns py (.country route.host port route.username exitIp) :=
        ⟨rfl, hport, rfl⟩
      have hgrows : Grows py user route cache (cache.get user _ now).2 := Grows.get h hnow hsubject
      rwa [hget] at hgrows
  | missed _ stage' _ port exitIp _ hknows hport hstage hget =>
      have hsubject : route.Concerns py (.country route.host port route.username exitIp) :=
        ⟨rfl, hport, rfl⟩
      have hgrows : Grows py user route cache (cache.get user _ now).2 := Grows.get h hnow hsubject
      rwa [hget] at hgrows
  | finished result country subject endpoint later errors _ hcountry =>
      obtain ⟨-, port, exitIp, hport, rfl, -⟩ := hknows
      have hsubject : route.Concerns py (.country route.host port route.username exitIp) :=
        ⟨rfl, hport, rfl⟩
      refine Grows.set hsubject ?_
      rcases hcountry with ⟨value, statusCode, metadata, -, rfl⟩ | ⟨-, errors', rfl⟩
      · exact get?_countryFound_exit_ip ..
      · exact get?_countryFailure_exit_ip errors'

/-- A check goes on with what it knows. -/
theorem Resumed.knows {stage stage' : CheckStage} {cache' : ResultCache ι}
    (hr : Resumed py user route now cache stage answer (.awaits stage') cache') :
    stage'.Knows py route := by
  cases hr with
  | unfinished _ _ _ hnext => exact hnext stage' rfl
  | missed _ _ _ port exitIp _ hknows => exact hknows

/-! ### Where exit addresses come from -/

/-- The exit address that a check holds, if any, is one of those that `P` allows. -/
def CheckStage.Told (P : String → Prop) : CheckStage → Prop
  | .echo .. => True
  | .country result .. => ∀ exitIp, result.get? "exit_ip" = some (.str exitIp) → P exitIp

theorem CheckStage.Told.mono {P Q : String → Prop} (hpq : ∀ exitIp, P exitIp → Q exitIp)
    {stage : CheckStage} (h : stage.Told P) : stage.Told Q := by
  cases stage with
  | echo endpoint later errors => trivial
  | country result subject endpoint later errors =>
      exact fun exitIp hexit => hpq exitIp (h exitIp hexit)

/-- And so is the one that a piece of a check ends with. -/
def Progress.Told (P : String → Prop) : Progress → Prop
  | .awaits stage => stage.Told P
  | .returned result => ∀ exitIp, result.get? "exit_ip" = some (.str exitIp) → P exitIp
  | .raised _ => True

/-- A country is added to a result, and the exit address stays. -/
theorem get?_update_exit_ip {result country : HealthResult}
    (h : country.get? "exit_ip" = none) :
    (result.update country).get? "exit_ip" = result.get? "exit_ip" := by
  rw [Dict.get?_update, h, Option.none_or]

variable {P : String → Prop}

theorem resumeEcho_told {clock : ℚ} (h : cache.Sound clock) (hnow : clock ≤ now)
    (hplain : ∀ e ∈ cache.history, Plain e)
    (hvalue : ∀ value statusCode metadata, answer = .value value statusCode metadata → P value) :
    (resumeEcho py user route endpoint later errors answer now cache).1.Told P := by
  cases answer with
  | value value statusCode metadata =>
      have hexit := get?_endpointResult .ip endpoint.host value statusCode metadata
      simp only [ResponseKind.field] at hexit
      have htold : ∀ exitIp, (endpointResult .ip endpoint.host
          (.value value statusCode metadata)).get? "exit_ip" = some (.str exitIp) → P exitIp := by
        intro exitIp heq
        rw [hexit] at heq
        cases heq
        exact hvalue value statusCode metadata rfl
      rw [resumeEcho_value]
      cases hport : getHostPort py route.hostData with
      | error error => trivial
      | ok port =>
          dsimp only
          rcases hget : cache.get user (.country route.host port route.username value) now with
            ⟨found, cache'⟩
          cases found with
          | none => exact htold
          | some country =>
              obtain ⟨⟨user', time, hcomputed⟩, -⟩ := h.get_some hnow hget
              intro exitIp heq
              rw [get?_update_exit_ip (hplain _ hcomputed)] at heq
              exact htold exitIp heq
  | _ =>
      rw [resumeEcho_of_not_value (by simp)]
      cases later with
      | cons endpoint' later' => trivial
      | nil =>
          intro exitIp heq
          simp [requestFailure, Dict.ofList, Dict.get?_set] at heq

theorem resumeCountry_told {result : HealthResult} {subject : Subject}
    (htold : ∀ exitIp, result.get? "exit_ip" = some (.str exitIp) → P exitIp) :
    (resumeCountry user result subject endpoint later errors answer now cache).1.Told P := by
  cases answer with
  | value value statusCode metadata =>
      rw [resumeCountry_value]
      intro exitIp heq
      rw [get?_update_exit_ip (get?_countryFound_exit_ip ..)] at heq
      exact htold exitIp heq
  | _ =>
      rw [resumeCountry_of_not_value _ _ (by simp)]
      cases later with
      | cons endpoint' later' => exact htold
      | nil =>
          intro exitIp heq
          rw [get?_update_exit_ip (get?_countryFailure_exit_ip _)] at heq
          exact htold exitIp heq

/-- A check holds and returns exit addresses that IP-echo endpoints have given to it. -/
theorem CheckStage.told {stage : CheckStage} {progress : Progress} {cache' : ResultCache ι}
    {clock : ℚ} (h : cache.Sound clock) (hnow : clock ≤ now)
    (hplain : ∀ e ∈ cache.history, Plain e) (htold : stage.Told P)
    (hvalue : ∀ endpoint later errors value statusCode metadata,
      stage = .echo endpoint later errors → answer = .value value statusCode metadata → P value)
    (hresume : stage.resume py user route answer now cache = (progress, cache')) :
    progress.Told P := by
  obtain ⟨rfl, rfl⟩ := Prod.mk.inj hresume
  cases stage with
  | echo endpoint later errors =>
      exact resumeEcho_told h hnow hplain fun value statusCode metadata =>
        hvalue endpoint later errors value statusCode metadata rfl
  | country result subject endpoint later errors => exact resumeCountry_told htold

end Resume

end PxManager.Health
