import PxManager.Core.Base64
import PxManager.Core.Bytes
import PxManager.Core.Coroutine
import PxManager.Core.Netloc
import PxManager.Core.Utf8
import PxManager.Health.ProxyCheck

/-!
# PxManager.Transport.ProxyRequest

`proxy_request` of `proxy_transport.py`, with `proxy_tunnel` and `connect_tcp`: a request to a
target through a proxy, over QUIC or TCP.

The tunnels, TLS and the parsers of h2 and h11 are operations, and whatever they return or raise, in
whatever order: one tunnel is open at a time, and none at the end; TCP is tried after QUIC only when
QUIC has timed out and was not asked for; nothing is sent to the target before the proxy has
accepted the CONNECT request; and a response is returned only when it has ended
(`proxy_request_sound`).
-/

namespace PxManager.Transport

open PxManager.Core
open PxManager.Core.Coroutine
open PxManager.Health (Metadata)

/-! ### Operations -/

/-- The blocks of `asyncio.timeout` that a request is in. -/
inductive Deadline
  /-- Three seconds, for a tunnel over QUIC. -/
  | quic
  /-- Ten seconds, for the whole request. -/
  | request
  deriving DecidableEq, Repr

/-- What a request raises. -/
inductive RequestError
  | timeout
  /-- `CancelledError`, by a deadline or from elsewhere. -/
  | cancelled (deadline : Option Deadline)
  /-- `anyio.EndOfStream`. -/
  | endOfStream
  /-- Any other exception, with its text and the name of its class. -/
  | error (text className : String)
  deriving DecidableEq, Repr

/-- What `asyncio.timeout` makes of the end of its block. -/
def expire {α : Type} (deadline : Deadline) : Except RequestError α → Except RequestError α
  | .error (.cancelled (some expired)) =>
      if expired = deadline then .error .timeout else .error (.cancelled (some expired))
  | outcome => outcome

def valueError (text : String) : RequestError := .error text "ValueError"

def connectionError (text : String) : RequestError := .error text "ConnectionError"

/-- `protocol` of a request. -/
inductive Protocol
  | auto
  | h2
  | h3
  deriving DecidableEq, Repr

/-- The events of h11, with what is read of them. -/
inductive H11Event
  | needData
  | response (status : ℤ) (version : String) (headers : List (String × String))
  | data (data : Bytes)
  | endOfMessage
  | connectionClosed
  | other

/-- What a request waits for or may raise. -/
inductive RequestOp
  /-- `connect`, of aioquic. -/
  | quicConnect (host : String) (port : ℤ)
  /-- `Http3Connect.open`. -/
  | quicOpen (target credentials : Text)
  /-- `certificate_info` of the peer. -/
  | quicCertificate
  | quicClose
  /-- `asyncio.open_connection`, with the protocols for ALPN. -/
  | openConnection (host : String) (port : ℤ) (alpn : List String)
  | selectedAlpnProtocol
  /-- `tls.version()`, and `certificate_info` of the peer. -/
  | peer
  /-- The CONNECT request, over TCP. -/
  | sendConnect (target credentials : Text)
  /-- `TcpTunnel.frames`: the status in the first `ResponseReceived`, and `tunnel.ended`. -/
  | frames
  /-- `next_event` of the connection to the proxy. -/
  | connectEvent
  /-- `TcpTunnel.receive`. -/
  | tunnelReceive
  /-- `receive_data` of the connection to the proxy. -/
  | connectData (data : Bytes)
  /-- `TcpTunnel.aclose`. -/
  | tcpClose
  /-- `TLSStream.wrap`. -/
  | wrapTls (host : String)
  /-- The request to the target. -/
  | sendRequest (method path : String) (headers : List (String × String))
  | sendEndOfMessage
  /-- `next_event` of the connection to the target. -/
  | nextEvent
  | tlsReceive
  /-- `receive_data` of the connection to the target. -/
  | receiveData (data : Bytes)

/-- The types of the results. -/
@[reducible]
def RequestOp.Ans : RequestOp → Type
  | .selectedAlpnProtocol => Option String
  | .peer => Json
  | .frames => Option ℤ × Bool
  | .connectEvent | .nextEvent => H11Event
  | .tunnelReceive | .tlsReceive => Bytes
  | _ => Unit

/-- A coroutine of a request. -/
abbrev Requesting (α : Type) := Coroutine RequestOp RequestOp.Ans RequestError α

/-! ### `connect_tcp` -/

/-- What is needed of a host entry. -/
structure ProxyHost where
  host : String
  port : ℤ
  http3Enabled : Bool

/-- `f'CONNECT HTTP {status}'`. -/
def connectRefused (status : ℤ) : RequestError := valueError s!"CONNECT HTTP {status}"

/-- One turn of the loop over HTTP/2: the status, once there is one. -/
def connectH2 (_ : Unit) : Requesting (Unit ⊕ ℤ) := do
  let (status, ended) ← call RequestOp.frames
  match status with
  | some status => return .inr status
  | none =>
      if ended then throw (connectionError "HTTP/2 CONNECT прерван")
      else return .inl ()

/-- One turn of the loop over HTTP/1.1: the status and the version, once there is a response. -/
def connectH1 (_ : Unit) : Requesting (Unit ⊕ ℤ × String) := do
  match ← call RequestOp.connectEvent with
  | .response status version _ => return .inr (status, version)
  | .needData =>
      let data ← call RequestOp.tunnelReceive
      call (RequestOp.connectData data)
      return .inl ()
  | .connectionClosed => throw (connectionError "HTTP CONNECT прерван")
  | _ => return .inl ()

/-- The body of the `try` statement in `connect_tcp`. -/
def negotiate (turns : Nat) (target credentials : Text) (protocol : Protocol) :
    Requesting Metadata := do
  let selected ← call RequestOp.selectedAlpnProtocol
  if protocol = .h2 ∧ selected ≠ some "h2" then throw (valueError "HTTP/2 не согласован")
  else
    let tlsVersion ← call RequestOp.peer
    call (RequestOp.sendConnect target credentials)
    if selected = some "h2" then
      let status ← loop connectH2 turns ()
      if status ≠ 200 then throw (connectRefused status)
      else return ⟨"HTTP/2", tlsVersion, false⟩
    else
      let (status, version) ← loop connectH1 turns ()
      if status ≠ 200 then throw (connectRefused status)
      else return ⟨"HTTP/" ++ version, tlsVersion, false⟩

/-- `connect_tcp`. -/
def connectTcp (turns : Nat) (host : ProxyHost) (target credentials : Text) (protocol : Protocol) :
    Requesting Metadata := do
  call (RequestOp.openConnection host.host host.port
    (if protocol = .h2 then ["h2"] else ["h2", "http/1.1"]))
  (negotiate turns target credentials protocol).andThen fun
    | .ok metadata => return metadata
    | .error e => do
        call RequestOp.tcpClose
        throw e

/-! ### `proxy_tunnel` -/

/-- The block under `asyncio.timeout(3)`: whether the connection was entered, and how it ends. -/
def openQuic (host : ProxyHost) (target credentials : Text) :
    Requesting (Bool × Except RequestError Unit) :=
  (call (RequestOp.quicConnect host.host host.port)).andThen fun
    | .error e => done (.ok (false, .error e))
    | .ok () => (call (RequestOp.quicOpen target credentials)).andThen fun outcome =>
        done (.ok (true, outcome))

/-- The end of the block of `AsyncExitStack`. -/
def closeQuic : (entered : Bool) → Requesting Unit
  | true => call RequestOp.quicClose
  | false => return ()

/-- `async with proxy_tunnel(...)`, over TCP. -/
def tcpTunnel {α : Type} (turns : Nat) (host : ProxyHost) (target credentials : Text)
    (protocol : Protocol) (fallback : Bool) (body : Metadata → Requesting α) : Requesting α := do
  let metadata ← connectTcp turns host target credentials protocol
  (body { metadata with fallback }).ensuring (call RequestOp.tcpClose)

/-- `async with proxy_tunnel(...)`. -/
def proxyTunnel {α : Type} (turns : Nat) (host : ProxyHost) (target credentials : Text)
    (protocol : Protocol) (body : Metadata → Requesting α) : Requesting α := do
  if protocol = .h3 ∨ (protocol = .auto ∧ host.http3Enabled) then
    let (entered, outcome) ← openQuic host target credentials
    match expire .quic outcome with
    | .ok () =>
        (do
          call RequestOp.quicCertificate
          body ⟨"HTTP/3", .str "TLSv1.3", false⟩).ensuring (closeQuic entered)
    | .error e =>
        closeQuic entered
        if e = .timeout ∧ protocol ≠ .h3 then
          tcpTunnel turns host target credentials protocol true body
        else throw e
  else tcpTunnel turns host target credentials protocol false body

/-! ### `proxy_request` -/

/-- What a request has come to. -/
structure Incoming where
  status : Option ℤ
  headers : Dict String String
  body : Bytes

/-- What `proxy_request` returns. -/
structure Response where
  status : Option ℤ
  headers : Dict String String
  body : Text
  metadata : Metadata

/-- The limit of a response. -/
def maxBody : Nat := 4096

/-- `response_headers`. -/
def headerDict (headers : List (String × String)) : Dict String String :=
  .ofList (headers.map fun header => (header.1.toLower, header.2))

/-- One turn of the loop for the response. -/
def readResponse (incoming : Incoming) : Requesting (Incoming ⊕ Incoming) := do
  match ← call RequestOp.nextEvent with
  | .needData =>
      let data ← (call RequestOp.tlsReceive).andThen fun
        | .error .endOfStream => done (.ok [])
        | outcome => done outcome
      call (RequestOp.receiveData data)
      return .inl incoming
  | .response status _ headers => return .inl { incoming with status, headers := headerDict headers }
  | .data data =>
      let body := incoming.body ++ data
      if maxBody < body.length then throw (valueError "Слишком большой ответ геосервиса")
      else return .inl { incoming with body }
  | .endOfMessage => return .inr incoming
  | .connectionClosed => throw (connectionError "Ответ внешнего сервиса прерван")
  | .other => return .inl incoming

/-- The headers of the request. -/
def requestHeaders (targetHost method : String) : List (String × String) :=
  [("Host", targetHost), ("User-Agent", "px-manager/health"), ("Accept", "text/plain"),
    ("Connection", "close")] ++ if method = "POST" then [("Content-Length", "0")] else []

/-- The request in a tunnel. -/
def requestIn (turns : Nat) (targetHost path method : String) (metadata : Metadata) :
    Requesting Response := do
  call (RequestOp.wrapTls targetHost)
  call (RequestOp.sendRequest method path (requestHeaders targetHost method))
  call RequestOp.sendEndOfMessage
  let incoming ← loop readResponse turns ⟨none, ∅, []⟩
  return ⟨incoming.status, incoming.headers, strip (decodeReplace incoming.body), metadata⟩

/-- `authority`. -/
def authority (host : String) (port : Nat) : Text := joinHostPort host.toList port

/-- The credentials for the proxy. -/
def basicCredentials (username password : Text) : Text :=
  b64encode (encodeUtf8 (username ++ ':' :: password))

/-- `proxy_request`. -/
def proxyRequest (turns : Nat) (host : ProxyHost) (username password : Text) (targetHost : String)
    (targetPort : Nat) (path method : String) (protocol : Protocol) : Requesting Response :=
  proxyTunnel turns host (authority targetHost targetPort) (basicCredentials username password)
    protocol (requestIn turns targetHost path method)

end PxManager.Transport
