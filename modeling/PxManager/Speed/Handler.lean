import PxManager.Health.ProxyCheck
import PxManager.Health.Speed
import PxManager.Speed.Measure

/-!
# PxManager.Speed.Handler

`HealthSpeedHandler.post` of `main.py` and `run_speed_test` of `proxy_speed.py`, and the process
that serves any number of such requests at a time.

`settings["speed_test_running"]` lets one measurement run at a time. A request is a coroutine, and
what it waits for is answered in any order; an answer may be the cancellation that
`on_connection_close` makes, or a timeout, which is an exception like any other.
-/

namespace PxManager.Speed

open PxManager.Core
open PxManager.Core.Coroutine
open PxManager.Health
open PxManager.Health.Speed (sizesMb protocols isKind http3Enabled validParameters)

/-! ### The measurement with its client -/

/-- `async with` around a measurement. -/
def withClient (client : ClientConfig) (body : Measurement Unit) : Measurement Unit := do
  call (SpeedOp.enter client)
  body.ensuring (call SpeedOp.exit)

/-- `host_data.get(key, '')`. -/
def credential (hostData : HostData) (key : String) : Json := (hostData.get? key).getD (.str "")

/-- The client of `httpx` for a host entry. -/
def httpxClient (hostData : HostData) (host : String) (port : ℤ) (username password protocol : Text) :
    ClientConfig :=
  let socks5 := isKind hostData "socks5"
  let auth :=
    if socks5 then (credential hostData "username", credential hostData "password")
    else (textJson username, textJson password)
  .httpx (if socks5 then "socks5" else "https") host port
    (if auth.1.truthy || auth.2.truthy then some auth else none)
    (protocol = "h2".toList) (protocol = "h1".toList)

/-- The client for the protocol of a measurement. -/
def clientFor (hostData : HostData) (host : String) (port : ℤ) (username password protocol : Text) :
    ClientConfig :=
  if protocol = "h3".toList then .http3 host port username password
  else httpxClient hostData host port username password protocol

/-- `run_speed_test`. -/
def runSpeedTest (lib : Library) (hostData : HostData) (host : String) (port : ℤ)
    (username password : Text) (megabytes : Nat) (protocol : Text) : Measurement Unit :=
  if (megabytes : ℤ) ∉ sizesMb ∨ protocol ∉ protocols then
    throw (.valueError "Некорректные параметры замера".toList)
  else if isKind hostData "mtproxy" then
    throw (.valueError "MTProxy не поддерживает HTTP-запросы к Cloudflare".toList)
  else if protocol = "h3".toList ∧ http3Enabled hostData = false then
    throw (.valueError "Для этого маршрута не настроен MASQUE/HTTP3".toList)
  else
    withClient (clientFor hostData host port username password protocol)
      (measure lib megabytes protocol)

/-! ### The handler -/

/-- The arguments of a request. Those that are not UTF-8 are left to `Health.Speed`: they end a
request with status 400. -/
structure Arguments where
  /-- `get_authenticated_credentials`. -/
  credentials : Option (Text × Text)
  hosts : List HostData
  host : String
  /-- The body arguments, where they are given. -/
  megabytes : Option Text
  protocol : Option Text

/-- The request as `Health.Speed` has it. -/
def Arguments.toRequest (py : Builtins) (args : Arguments) : Health.Speed.SpeedRequest where
  credentials := args.credentials
  hosts := args.hosts
  host := args.host
  arguments := .decoded (py.parseInt (args.megabytes.getD "10".toList))
    (args.protocol.getD "h2".toList)

/-- A measurement that a request may make. -/
structure Plan where
  hostData : HostData
  host : String
  username : Text
  password : Text
  megabytes : Nat
  protocol : Text

/-- `post`, up to the lock. The error is the status of the response. -/
def plan (py : Builtins) (args : Arguments) : Except Nat Plan :=
  match args.credentials with
  | none => .error 401
  | some (username, password) =>
      match getAllowedHealthHostForCheck args.hosts args.host "head" with
      | .error _ => .error 400
      | .ok hostData =>
          let protocol := args.protocol.getD "h2".toList
          match py.parseInt (args.megabytes.getD "10".toList) with
          | none => .error 400
          | some megabytes =>
              if validParameters hostData megabytes protocol then
                .ok ⟨hostData, args.host, username, password, megabytes.toNat, protocol⟩
              else .error 400

/-- The error record. -/
def errorResult (message : Text) : List (String × Json) :=
  [("stage", .str "error"), ("error", textJson message)]

/-- The publication of an error. -/
def publishError (message : Text) : Measurement Unit :=
  tryCatch (publishResult (errorResult message)) fun
    | .streamClosed => pure ()
    | e => throw e

/-- The `except` clauses. -/
def handleError (e : SpeedError) : Measurement Unit :=
  match e.message? with
  | none => pure ()
  | some message => publishError message

/-- The exceptions of `get_host_port`. -/
def portError (intError : Json → Text) (hostData : HostData) : PyError → SpeedError
  | .valueError _ => .valueError (intError ((hostData.get? "port").getD (.int 443)))
  | _ => .other

section Post

variable (py : Builtins) (lib : Library) (intError : Json → Text)

/-- The port of a plan. -/
def portOf (plan : Plan) : Except SpeedError ℤ :=
  (getHostPort py plan.hostData).mapError (portError intError plan.hostData)

/-- The `try` statement of `post`, apart from its `finally` block. -/
def postBody (plan : Plan) : Measurement Unit :=
  tryCatch (do
    let port ← done (portOf py intError plan)
    runSpeedTest lib plan.hostData plan.host port plan.username plan.password plan.megabytes
      plan.protocol) handleError

end Post

/-! ### The process -/

/-- A request of the process. -/
inductive Response
  | refused (status : Nat)
  /-- What it has done, and what is left to do. -/
  | measuring (plan : Plan) (log : List SpeedEvent) (rest : Measurement Unit)
  | ended (plan : Plan) (log : List SpeedEvent) (result : Except SpeedError Unit)

/-- The process. -/
structure Server where
  /-- `settings["speed_test_running"]`. -/
  running : Bool
  requests : Nat → Option Response

/-- The process before the first request. -/
def Server.init : Server := ⟨false, fun _ => none⟩

/-- A request, and the flag with it: the `finally` block is at the end of the coroutine. -/
def Server.set (s : Server) (id : Nat) (plan : Plan) (log : List SpeedEvent) :
    Measurement Unit → Server
  | .done result =>
      ⟨false, fun i => if i = id then some (.ended plan log result) else s.requests i⟩
  | rest => ⟨true, fun i => if i = id then some (.measuring plan log rest) else s.requests i⟩

/-- A request that is refused. -/
def Server.refuse (s : Server) (id status : Nat) : Server :=
  { s with requests := fun i => if i = id then some (.refused status) else s.requests i }

/-- What happens in the process. -/
inductive ServerAction
  | arrive (id : Nat) (args : Arguments)
  /-- What a request waits for is answered. -/
  | answer (id : Nat) (answer : (op : SpeedOp) → Except SpeedError op.Ans)

/-- One action. -/
def Server.step (py : Builtins) (lib : Library) (intError : Json → Text) (s : Server) :
    ServerAction → Option Server
  | .arrive id args =>
      match s.requests id with
      | some _ => none
      | none =>
          match plan py args with
          | .error status => some (s.refuse id status)
          | .ok plan =>
              if s.running then some (s.refuse id 409)
              else some (s.set id plan [] (postBody py lib intError plan))
  | .answer id answer =>
      match s.requests id with
      | some (.measuring plan log (.await op resume)) =>
          some (s.set id plan (log ++ [⟨op, answer op⟩]) (resume (answer op)))
      | _ => none

/-- The request is being served. -/
def Server.Measuring (s : Server) (id : Nat) : Prop :=
  ∃ plan log rest, s.requests id = some (.measuring plan log rest)

end PxManager.Speed
