import Mathlib.Data.Rat.Defs
import PxManager.Core.Machine
import PxManager.Transport.Http3

/-!
# PxManager.Speed.Http3Client

`Http3Client` of `proxy_speed.py`: `quic_event_received`, and `request` as a coroutine that stops
at `asyncio.sleep(0)` after each chunk of an upload and at `await response`. Events come in
between. A timeout, a cancellation or an exception of the connection ends it wherever it stops.

A state is that of one request from its start on. The client it starts from may have served any
requests before.
-/

namespace PxManager.Speed

open PxManager.Core
open PxManager.Transport

/-! ### Events -/

/-- `Http3Client`. Times are readings of the clock of `time.monotonic`. -/
structure Http3Client where
  response : Option Future
  stream : Option Nat
  received : Nat
  limit : Nat
  capture : Bool
  body : Bytes
  ttfb : Option ℚ
  started : ℚ

namespace Http3Client

/-- The end mark. -/
def finish (self : Http3Client) (streamEnded : Bool) : Http3Client :=
  if streamEnded then
    match self.ttfb with
    | none =>
        { self with response := some (.exception (.valueError "HTTP/3 ответ без заголовков")) }
    | some _ => { self with response := some .result }
  else self

/-- The loop body of `quic_event_received`. `none` is the `ValueError` of `int`. -/
def handleMessage (now : ℚ) (self : Http3Client) (message : H3Message) : Option Http3Client :=
  if self.response ≠ some .pending ∨ message.stream ≠ self.stream then some self
  else
    match message with
    | .headersReceived _ .malformed _ => none
    | .headersReceived _ .absent streamEnded => some (self.finish streamEnded)
    | .headersReceived _ (.code status) streamEnded =>
        if status < 200 then some self
        else if 300 ≤ status then
          some { self with
            response := some (.exception (.valueError s!"Cloudflare HTTP {status}")) }
        else some ({ self with ttfb := some ((now - self.started) * 1000) }.finish streamEnded)
    | .dataReceived _ data streamEnded =>
        let self := { self with received := self.received + data.length }
        if self.limit < self.received then
          some { self with
            response := some (.exception (.valueError "Слишком большой ответ Cloudflare")) }
        else if self.capture then some ({ self with body := self.body ++ data }.finish streamEnded)
        else some (self.finish streamEnded)
    | .other _ streamEnded => some (self.finish streamEnded)

/-- The loop of `quic_event_received`, with the messages that it gets to. -/
def handleMessages (now : ℚ) : Http3Client → List H3Message → Http3Client × List H3Message
  | self, [] => (self, [])
  | self, message :: messages =>
      match self.handleMessage now message with
      | none => (self, [message])
      | some self =>
          let (self, handled) := handleMessages now self messages
          (self, message :: handled)

/-- A reset or the end of the connection. -/
def interrupt (self : Http3Client) : Http3Client :=
  if self.response = some .pending then
    { self with response := some (.exception (.connectionError "HTTP/3 соединение прервано")) }
  else self

/-- `quic_event_received`, with the messages that it gets to. -/
def quicEventReceived (now : ℚ) (self : Http3Client) (event : QuicEvent) :
    Http3Client × List H3Message :=
  handleMessages now (if event.interrupts then self.interrupt else self) event.messages

end Http3Client

/-! ### The request -/

/-- `len(ZERO_BLOCK)`. -/
def blockSize : Nat := 65536

/-- `ZERO_BLOCK`. -/
def zeroBlock : Bytes := List.replicate blockSize 0

theorem length_zeroBlock : zeroBlock.length = blockSize := List.length_replicate

/-- What `request` returns. -/
structure Result where
  bytes : Nat
  body : Bytes
  ttfbMs : Option ℚ
  seconds : ℚ
  deriving DecidableEq

/-- How `request` ends. -/
inductive Outcome
  | returned (result : Result)
  | raised (error : Http3Error)
  /-- By a timeout, a cancellation or an exception of the connection. -/
  | aborted
  deriving DecidableEq

/-- Where `request` stops. -/
inductive Suspended
  /-- After the chunk at an offset was sent. -/
  | sending (offset : Nat)
  /-- At `await response`. -/
  | awaiting
  deriving DecidableEq, Repr

/-- What happened since the start of the request. -/
inductive Entry
  /-- A reset or the end of the connection. -/
  | interrupted
  | message (message : H3Message)
  /-- A call of `send_data`. -/
  | sent (data : Bytes) (endStream : Bool)
  deriving DecidableEq, Repr

/-- The arguments of `request`, with the stream it gets and the time it starts. -/
structure Request where
  stream : Nat
  upload : Nat
  limit : Nat
  capture : Bool
  started : ℚ

/-- A request on its way. -/
structure State where
  client : Http3Client
  suspended : Option Suspended
  outcome : Option Outcome
  log : List Entry

/-- What can happen to it. -/
inductive Action
  | event (now : ℚ) (event : QuicEvent)
  | resume (now : ℚ)
  | abort

namespace State

/-- The `finally` block. -/
def leave (s : State) (outcome : Outcome) : State :=
  { s with
    client := { s.client with response := none }
    suspended := none
    outcome := some outcome }

/-- `await response` and what follows it. -/
def awaitResponse (now : ℚ) (s : State) : State :=
  match s.client.response with
  | some .result =>
      s.leave (.returned {
        bytes := s.client.received
        body := s.client.body
        ttfbMs := s.client.ttfb
        seconds := now - s.client.started })
  | some (.exception error) => s.leave (.raised error)
  | _ => { s with suspended := some .awaiting }

/-- The upload loop, at the head of its turn for an offset. -/
def uploadFrom (now : ℚ) (upload : Nat) (s : State) (offset : Nat) : State :=
  if offset < upload then
    { s with
      suspended := some (.sending offset)
      log := s.log ++ [.sent (zeroBlock.take (min blockSize (upload - offset)))
        (decide (upload ≤ offset + blockSize))] }
  else s.awaitResponse now

/-- `request`, up to where it stops first. -/
def start (request : Request) (client : Http3Client) : State :=
  uploadFrom request.started request.upload
    { client := { client with
        response := some .pending
        stream := some request.stream
        received := 0
        limit := request.limit
        capture := request.capture
        body := []
        ttfb := none
        started := request.started }
      suspended := none
      outcome := none
      log := [] } 0

/-- The request goes on. -/
def resume (upload : Nat) (now : ℚ) (s : State) : Option State :=
  match s.suspended, s.client.response with
  | some (.sending offset), response =>
      if response ≠ some .pending ∧ offset + blockSize < upload then
        match response with
        | some (.exception error) => some (s.leave (.raised error))
        | _ =>
            some (s.leave (.raised (.connectionError "Cloudflare ответил до завершения отправки")))
      else some (s.uploadFrom now upload (offset + blockSize))
  | some .awaiting, some .pending => none
  | some .awaiting, _ => some (s.awaitResponse now)
  | none, _ => none

/-- One action. -/
def step (request : Request) (s : State) : Action → Option State
  | .event now event =>
      let (client, handled) := s.client.quicEventReceived now event
      some { s with
        client
        log := s.log ++ (if event.interrupts then [.interrupted] else []) ++ handled.map .message }
  | .resume now => s.resume request.upload now
  | .abort => if s.suspended.isSome then some (s.leave .aborted) else none

end State

end PxManager.Speed
