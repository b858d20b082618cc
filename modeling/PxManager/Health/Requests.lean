import PxManager.Health.ProxyCheck
import PxManager.Reputation.SingleFlight

/-!
# PxManager.Health.Requests

The health handlers of `main.py` that share results: `HealthConnectHandler`, `HealthPingHandler`,
`HealthHeadHandler`, `HealthProtocolHandler` and `HealthReputationHandler`, with `get_reputation` of
`reputation.py`.

Requests are pieces of code between awaits, and so is the check of Yandex, which runs in a task of
`cached_check`. All of them use `HEALTH_RESULT_CACHE`. What comes from outside, such as the answers
of endpoints, is open.

The machine of `cached_check` is a part of this one. What other pages and providers do with it is
the action `other`.
-/

namespace PxManager.Health.Requests

open PxManager.Core

/-- Who uses `HEALTH_RESULT_CACHE`: a request, or the task of a Yandex check. -/
inductive Party
  | request (id : Nat)
  | yandex (task : Nat)
  deriving DecidableEq, Repr

/-- The handlers, with the query arguments that they read besides `host`. -/
inductive Handler
  | connect
  | ping
  | head
  | protocol (name : String)
  | reputation (ip : String)

/-- The argument of `get_allowed_health_host_for_check`. -/
def Handler.checkName : Handler → String
  | .connect => "connect"
  | .ping => "ping"
  | _ => "head"

/-- The identity that `HealthReputationHandler` goes on with. -/
structure Identity where
  result : HealthResult
  /-- When it was read from the cache. If it was not, the request has made the check itself. -/
  cachedAt : Option ℚ

/-- Where a handler is. -/
inductive Stage
  | connecting
  | pinging
  /-- `run_tg_proxy_request_check`. -/
  | checkingTg
  /-- `run_https_proxy_request_check`, of `HealthHeadHandler`. -/
  | checkingHead (check : CheckStage)
  | negotiating (port : ℤ) (version : Protocol)
  /-- `run_https_proxy_request_check`, of `HealthReputationHandler`. -/
  | identifying (check : CheckStage)
  /-- `get_reputation`, with the calls of `cached_check` that have been made for the address. -/
  | gathering (ip : String) (identity : Identity) (calls : List (String × Nat))
  /-- Answered with a result, which was read from the cache at the time if there is one. -/
  | answered (result : HealthResult) (cachedAt : Option ℚ)
  /-- Answered with the results of the providers for an address. -/
  | reported (ip : String) (identity : Identity) (results : List (String × Reputation.Result))
  /-- Answered with an error status. -/
  | failed (status : Nat)

inductive Request
  | rejected (status : Nat)
  | accepted (route : Route) (handler : Handler) (stage : Stage)

/-- Where `yandex_check` is. -/
inductive RunStage
  | probing (check : CheckStage)
  | asking
  | over

/-- What a run of `yandex_check` has done. -/
inductive RunEvent
  /-- `run_https_proxy_request_check` has returned. -/
  | probed (route : Route) (current : HealthResult)
  /-- The request to Yandex was made. -/
  | asked (route : Route)

/-- A run of the `yandex_check` of a request: the route and the address are those in its closure. -/
structure YandexRun where
  route : Route
  ip : String
  stage : RunStage
  trace : List RunEvent

structure State where
  cache : ResultCache Party
  reputation : Reputation.State
  requests : Nat → Option Request
  /-- The runs of `yandex_check`, by their tasks. -/
  runs : Nat → Option YandexRun

/-- The process before the first request. -/
def State.init (clock : ℚ) : State := ⟨.empty, .init clock, fun _ => none, fun _ => none⟩

/-- How the request of `HealthProtocolHandler` ends. -/
inductive Negotiation
  | responded (status : ℤ) (metadata : Metadata)
  | failed (error : String)
  | timedOut

/-- How the request to Yandex ends. -/
inductive YandexAnswer
  /-- A response, with the header `x-yandex-eu-request` if it has one. -/
  | responded (detected : Option String)
  | failed (error : String)
  | timedOut

inductive Action
  | arrive (id : Nat) (handler : Handler) (credentials : Option (Username × Text))
      (hosts : List HostData) (host : String) (now : ℚ)
  | connected (id : Nat) (error : Option String) (now : ℚ)
  | pinged (id : Nat) (outcome : Except String HealthResult) (now : ℚ)
  | tgChecked (id : Nat) (outcome : Except String HealthResult) (now : ℚ)
  | negotiated (id : Nat) (outcome : Negotiation) (now : ℚ)
  /-- An endpoint answers to the check of a request. -/
  | answered (id : Nat) (answer : Answer) (now : ℚ)
  /-- `one(provider)` of `get_reputation` calls `cached_check`. -/
  | call (id : Nat) (provider : String) (caller : Nat) (now : ℚ)
  /-- An endpoint answers to the check in a run of `yandex_check`. -/
  | probed (task : Nat) (answer : Answer) (wallTime : ℤ) (now : ℚ)
  | classified (task : Nat) (answer : YandexAnswer) (wallTime : ℤ) (now : ℚ)
  /-- The task of a run is cancelled. -/
  | aborted (task : Nat) (wallTime : ℤ) (now : ℚ)
  | other (a : Reputation.Action)
  /-- `asyncio.gather` returns. -/
  | report (id : Nat)
  /-- It raises. -/
  | raise (id : Nat)

/-! ### Results -/

/-- `host_data.get("source") == "tg-proxies"`. -/
def isTg (hostData : HostData) : Bool := (hostData.get? "source").bind Json.asStr? = some "tg-proxies"

/-- The result of `HealthConnectHandler`. -/
def connectResult (py : Builtins) (route : Route) (error : Option String) : HealthResult :=
  let port := match getHostPort py route.hostData with
    | .ok port => .int port
    | .error _ => .null
  let result := Dict.ofList [("ok", .bool false), ("host", .str route.host), ("port", port),
    ("status", .str "error"), ("error", .null)]
  match error with
  | some error => result.set "error" (.str error)
  | none => (result.set "ok" (.bool true)).set "status" (.str "connected")

/-- The result of `HealthPingHandler` before the check. -/
def pingDefaults (route : Route) : HealthResult := .ofList
  [("ok", .bool false), ("host", .str route.host), ("status", .str "error"),
    ("packet_loss_percent", .null), ("rtt_avg_ms", .null), ("error", .null)]

/-- The result of `HealthHeadHandler` before the check. -/
def headDefaults (route : Route) : HealthResult := .ofList
  [("ok", .bool false), ("host", .str route.host), ("port", .null), ("status", .str "error"),
    ("status_code", .null), ("status_line", .null),
    ("request_kind", .str (if isTg route.hostData then "telegram" else "https")),
    ("error", .null)]

/-- The result with what a check has returned, or with its exception. -/
def completed (result : HealthResult) : Except String HealthResult → HealthResult
  | .ok checked => result.update checked
  | .error error => result.set "error" (.str error)

/-- The result of `HealthProtocolHandler`. -/
def protocolResult (py : Builtins) : Negotiation → HealthResult
  | .responded status metadata =>
      if 200 ≤ status ∧ status < 300 then .ofList ([("ok", .bool true)] ++ metadata.members ++
        [("status_line", .str (metadata.httpVersion ++ " согласован · " ++
          String.ofList (py.str metadata.tlsVersion)))])
      else .ofList [("ok", .bool false),
        ("error", .str ("Cloudflare HTTP " ++ String.ofList (decimal status)))]
  | .failed error => .ofList [("ok", .bool false), ("error", .str error)]
  | .timedOut => .ofList [("ok", .bool false), ("error", .str "Таймаут согласования")]

/-- `run_https_proxy_request_check_endpoint` with `response_kind="yandex"`. -/
def yandexResult : YandexAnswer → Reputation.Result
  | .responded detected =>
      if detected = some "0" ∨ detected = some "1" then .ofList [("status", .str "ok"),
        ("fields", .obj [("VPN обнаружен", .bool (detected = some "1"))])]
      else .ofList [("status", .str "unknown"),
        ("error", .str "Неизвестный формат ответа Яндекса")]
  | .failed error => .ofList
      [("ok", .bool false), ("status", .str "error"), ("status_code", .null),
        ("status_line", .null), ("request_kind", .str "https"), ("error", .str error)]
  | .timedOut => .ofList [("ok", .bool false), ("error", .str "Таймаут запроса")]

/-- What `yandex_check` returns if the proxy has another exit now. -/
def exitChanged : Reputation.Result := .ofList
  [("status", .str "error"), ("error", .str "Выходной IP изменился или недоступен")]

/-- `PROVIDERS`. -/
def providers : List (String × String) :=
  [("yandex", "Яндекс"), ("rkn", "РКН · публичные списки (Cheburcheck)"),
    ("cloudflare", "Cloudflare Radar · провайдер"), ("proxycheck", "ProxyCheck"),
    ("ipqs", "IPQualityScore"), ("ipapi", "ipapi.is")]

/-- The result of a provider that has no key. -/
def unconfigured : Reputation.Result := .ofList
  [("status", .str "unconfigured"), ("error", .str "API-ключ не настроен")]

/-- `{'provider': provider, 'name': PROVIDERS[provider], **result}`. -/
def named (provider name : String) (result : Reputation.Result) : Reputation.Result :=
  (Dict.ofList [("provider", .str provider), ("name", .str name)]).update result

/-! ### The handlers -/

namespace State

variable (s : State)

/-- The last reading of `time.monotonic()`. -/
def clock : ℚ := s.reputation.clock

def setRequest (id : Nat) (request : Request) : State :=
  { s with requests := Function.update s.requests id (some request) }

def setRun (task : Nat) (run : YandexRun) : State :=
  { s with runs := Function.update s.runs task (some run) }

/-- The cache after a use of it, and the time of that. -/
def setCache (cache : ResultCache Party) (now : ℚ) : State :=
  { s with cache, reputation := { s.reputation with clock := now } }

/-- A handler answers what is cached, or goes on. -/
def getOr (id : Nat) (route : Route) (handler : Handler) (subject : Subject) (stage : Stage)
    (now : ℚ) : State :=
  match s.cache.get (.request id) subject now with
  | (some result, cache) =>
      (s.setCache cache now).setRequest id (.accepted route handler (.answered result (some now)))
  | (none, cache) => (s.setCache cache now).setRequest id (.accepted route handler stage)

/-- A handler stores its result and answers it. -/
def answer (id : Nat) (route : Route) (handler : Handler) (subject : Subject)
    (result : HealthResult) (now : ℚ) : State :=
  (s.setCache (s.cache.set (.request id) subject result now) now).setRequest id
    (.accepted route handler (.answered result none))

def fail (id : Nat) (route : Route) (handler : Handler) (status : Nat) : State :=
  s.setRequest id (.accepted route handler (.failed status))

/-- `HealthReputationHandler` once the identity is known. -/
def identified (id : Nat) (route : Route) (ip : String) (identity : Identity) : State :=
  if !isTrue identity.result "ok" || !isTrue identity.result "exit_ip" then
    s.fail id route (.reputation ip) 502
  else if textOf identity.result "exit_ip" ≠ some ip then
    s.fail id route (.reputation ip) 409
  else s.setRequest id (.accepted route (.reputation ip) (.gathering ip identity []))

section Code

variable (py : Builtins)

/-- A handler, from the host entry to its first await. -/
def handle (id : Nat) (route : Route) (handler : Handler) (now : ℚ) : State :=
  match handler with
  | .connect => s.getOr id route handler (.connect route.host) .connecting now
  | .ping => s.getOr id route handler (.ping route.host) .pinging now
  | .head =>
      s.getOr id route handler (.proxyRequest route.host route.username)
        (if isTg route.hostData then .checkingTg else .checkingHead .start) now
  | .protocol name =>
      match (if name = "h2" then some Protocol.h2 else if name = "h3" then some .h3 else none) with
      | none => s.fail id route handler 400
      | some version =>
          if isTg route.hostData then s.fail id route handler 400
          else
            match getHostPort py route.hostData with
            | .error _ => s.fail id route handler 500
            | .ok port =>
                s.getOr id route handler (.protocol route.host port route.username version)
                  (.negotiating port version) now
  | .reputation ip =>
      if isTg route.hostData then s.fail id route handler 400
      else
        match s.cache.get (.request id) (.proxyRequest route.host route.username) now with
        | (some result, cache) => (s.setCache cache now).identified id route ip ⟨result, some now⟩
        | (none, cache) =>
            (s.setCache cache now).setRequest id (.accepted route handler (.identifying .start))

/-- A request arrives. -/
def arrive (id : Nat) (handler : Handler) (credentials : Option (Username × Text))
    (hosts : List HostData) (host : String) (now : ℚ) : State :=
  match credentials with
  | none => s.setRequest id (.rejected 401)
  | some (username, password) =>
      match h : getAllowedHealthHostForCheck hosts host handler.checkName with
      | .error _ => s.setRequest id (.rejected 400)
      | .ok hostData =>
          s.handle py id
            { hostData, host, username, password
              get?_host := host_of_getAllowedHealthHostForCheck h } handler now

section Checks

variable (formatHealthError : PyError → String)

/-- `HealthHeadHandler`, after an endpoint has answered. -/
def resumeHead (id : Nat) (route : Route) (check : CheckStage) (answer : Answer) (now : ℚ) :
    State :=
  let subject := .proxyRequest route.host route.username
  match check.resume py (.request id) route answer now s.cache with
  | (.awaits check, cache) =>
      (s.setCache cache now).setRequest id (.accepted route .head (.checkingHead check))
  | (.returned result, cache) =>
      (s.setCache cache now).answer id route .head subject
        (completed (headDefaults route) (.ok result)) now
  | (.raised error, cache) =>
      (s.setCache cache now).answer id route .head subject
        (completed (headDefaults route) (.error (formatHealthError error))) now

end Checks

/-- `HealthReputationHandler`, after an endpoint has answered. -/
def resumeIdentity (id : Nat) (route : Route) (ip : String) (check : CheckStage) (answer : Answer)
    (now : ℚ) : State :=
  match check.resume py (.request id) route answer now s.cache with
  | (.awaits check, cache) =>
      (s.setCache cache now).setRequest id (.accepted route (.reputation ip) (.identifying check))
  | (.returned result, cache) => (s.setCache cache now).identified id route ip ⟨result, none⟩
  | (.raised _, cache) => (s.setCache cache now).fail id route (.reputation ip) 500

/-! ### Yandex -/

/-- A run of `yandex_check` ends, and `load` goes on. -/
def finishRun (task : Nat) (run : YandexRun) (outcome : Reputation.CheckOutcome) (wallTime : ℤ)
    (now : ℚ) : Option State :=
  (Reputation.step s.reputation (.finish task outcome wallTime now)).map fun reputation =>
    { s with reputation }.setRun task { run with stage := .over }

/-- `yandex_check`, after an endpoint has answered to its check. -/
def resumeRun (task : Nat) (run : YandexRun) (check : CheckStage) (answer : Answer) (wallTime : ℤ)
    (now : ℚ) : Option State :=
  match check.resume py (.yandex task) run.route answer now s.cache with
  | (.awaits check, cache) =>
      some ((s.setCache cache now).setRun task { run with stage := .probing check })
  | (.returned current, cache) =>
      let s := s.setCache cache now
      let run := { run with trace := run.trace ++ [.probed run.route current] }
      if !isTrue current "ok" || textOf current "exit_ip" ≠ some run.ip then
        s.finishRun task run (.returned exitChanged) wallTime now
      else
        some (s.setRun task
          { run with stage := .asking, trace := run.trace ++ [.asked run.route] })
  | (.raised _, cache) => (s.setCache cache now).finishRun task run .raised wallTime now

end Code

/-! ### `get_reputation` -/

section Reputation

variable (keys : String → List CodePoint)

/-- A provider is asked without a key, or has one. -/
def configured (provider : String) : Bool :=
  provider = "yandex" || provider = "rkn" || keys provider ≠ []

/-- `one(provider)` calls `cached_check`. If that starts a task for Yandex, it runs the
`yandex_check` of this request. -/
def callProvider (id : Nat) (route : Route) (handler : Handler) (ip : String) (identity : Identity)
    (calls : List (String × Nat)) (provider : String) (caller : Nat) (now : ℚ) : Option State :=
  let key := ⟨provider, ip, keys provider⟩
  (Reputation.step s.reputation (.call caller key now)).map fun reputation =>
    let task := s.reputation.tasks.length
    let next := { s with reputation }.setRequest id
      (.accepted route handler (.gathering ip identity (calls ++ [(provider, caller)])))
    if provider = "yandex" ∧ task < reputation.tasks.length then
      next.setRun task ⟨route, ip, .probing .start, []⟩
    else next

/-- The result of a provider. -/
def providerResult (calls : List (String × Nat)) (provider : String × String) :
    Option (String × Reputation.Result) :=
  if configured keys provider.1 then do
    let caller ← calls.lookup provider.1
    let c ← s.reputation.callers caller
    let result ← c.result?
    return (provider.1, named provider.1 provider.2 result)
  else some (provider.1, named provider.1 provider.2 unconfigured)

/-- The exception of a load has reached the caller. -/
def hasRaised (caller : Nat) : Bool :=
  match s.reputation.callers caller with
  | some (.received _ _ .exception) => true
  | _ => false

end Reputation

end State

/-- What the rest of the program does with `cached_check`: it makes no calls for Yandex, and ends no
task of those. -/
def otherAllowed (reputation : Reputation.State) : Reputation.Action → Bool
  | .call _ key _ => key.provider ≠ "yandex"
  | .finish task .. => (reputation.tasks[task]?).all fun t => t.key.provider ≠ "yandex"
  | _ => true

/-- One action, if it is possible. -/
def step (py : Builtins) (formatHealthError : PyError → String) (keys : String → List CodePoint)
    (s : State) : Action → Option State
  | .arrive id handler credentials hosts host now =>
      match s.requests id with
      | some _ => none
      | none =>
          if s.clock ≤ now then some (s.arrive py id handler credentials hosts host now) else none
  | .connected id error now =>
      match s.requests id with
      | some (.accepted route handler .connecting) =>
          -- there is no connection without a port
          if s.clock ≤ now ∧ (error.isSome ∨ (getHostPort py route.hostData).isOk) then
            some (s.answer id route handler (.connect route.host) (connectResult py route error) now)
          else none
      | _ => none
  | .pinged id outcome now =>
      match s.requests id with
      | some (.accepted route handler .pinging) =>
          if s.clock ≤ now then
            some (s.answer id route handler (.ping route.host)
              (completed (pingDefaults route) outcome) now)
          else none
      | _ => none
  | .tgChecked id outcome now =>
      match s.requests id with
      | some (.accepted route handler .checkingTg) =>
          if s.clock ≤ now then
            some (s.answer id route handler (.proxyRequest route.host route.username)
              (completed (headDefaults route) outcome) now)
          else none
      | _ => none
  | .negotiated id outcome now =>
      match s.requests id with
      | some (.accepted route handler (.negotiating port version)) =>
          if s.clock ≤ now then
            some (s.answer id route handler (.protocol route.host port route.username version)
              (protocolResult py outcome) now)
          else none
      | _ => none
  | .answered id answer now =>
      match s.requests id with
      | some (.accepted route .head (.checkingHead check)) =>
          if s.clock ≤ now then some (s.resumeHead py formatHealthError id route check answer now)
          else none
      | some (.accepted route (.reputation ip) (.identifying check)) =>
          if s.clock ≤ now then some (s.resumeIdentity py id route ip check answer now) else none
      | _ => none
  | .call id provider caller now =>
      match s.requests id with
      | some (.accepted route handler (.gathering ip identity calls)) =>
          if provider ∈ providers.map Prod.fst ∧ State.configured keys provider ∧
              provider ∉ calls.map Prod.fst then
            s.callProvider keys id route handler ip identity calls provider caller now
          else none
      | _ => none
  | .probed task answer wallTime now =>
      match s.runs task with
      | some run =>
          match run.stage with
          | .probing check =>
              if s.clock ≤ now then s.resumeRun py task run check answer wallTime now else none
          | _ => none
      | none => none
  | .classified task answer wallTime now =>
      match s.runs task with
      | some run =>
          match run.stage with
          | .asking => s.finishRun task run (.returned (yandexResult answer)) wallTime now
          | _ => none
      | none => none
  | .aborted task wallTime now =>
      match s.runs task with
      | some run => s.finishRun task run .escaped wallTime now
      | none => none
  | .other a =>
      if otherAllowed s.reputation a then
        (Reputation.step s.reputation a).map fun reputation => { s with reputation }
      else none
  | .report id =>
      match s.requests id with
      | some (.accepted route handler (.gathering ip identity calls)) =>
          (providers.mapM (s.providerResult keys calls)).map fun results =>
            s.setRequest id (.accepted route handler (.reported ip identity results))
      | _ => none
  | .raise id =>
      match s.requests id with
      | some (.accepted route handler (.gathering _ _ calls)) =>
          if calls.any fun call => s.hasRaised call.2 then some (s.fail id route handler 500) else none
      | _ => none

end PxManager.Health.Requests
