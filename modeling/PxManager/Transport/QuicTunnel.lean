import PxManager.Core.Machine
import PxManager.Core.StreamLog
import PxManager.Core.StreamReader
import PxManager.Transport.Http3

/-!
# PxManager.Transport.QuicTunnel

`QuicTunnel` and `Http3Connect.quic_event_received` of `proxy_transport.py`: what the CONNECT
stream brings is fed to a `StreamReader`, from which one task reads with `receive`.

`buffered` always counts what was fed and is still to be returned. But every reset of a stream and
the end of the connection puts an exception into the reader, also when the CONNECT stream has ended
before, and from then on `receive` raises, whatever is still buffered (`receive_delivers_iff`).
-/

namespace PxManager.Transport

open PxManager.Core

/-! ### The tunnel -/

/-- `QuicTunnel`. -/
structure QuicTunnel where
  reader : StreamReader Http3Error
  buffered : Int

namespace QuicTunnel

/-- The limit of `buffered`. -/
def maxBuffered : Int := 131072

/-- What `receive` comes to. -/
inductive Received
  | returned (data : Bytes)
  | endOfStream
  | raises (error : Http3Error)
  | waits

/-- `feed`. `none` is an assertion error of the reader, for data after the end mark. -/
def feed (self : QuicTunnel) (data : Bytes) : Option QuicTunnel :=
  let buffered := self.buffered + data.length
  if maxBuffered < buffered then
    some {
      reader := self.reader.setException (.valueError "Слишком большой ответ прокси")
      buffered }
  else (self.reader.feedData data).map fun reader => { reader, buffered }

/-- The rest of `receive`, after `reader.read`. -/
def received (self : QuicTunnel) : ReadResult Http3Error × StreamReader Http3Error →
    Received × QuicTunnel
  | (.waits, reader) => (.waits, { self with reader })
  | (.raises error, reader) => (.raises error, { self with reader })
  | (.data data, reader) =>
      if data = [] then (.endOfStream, { self with reader })
      else (.returned data, { reader, buffered := self.buffered - data.length })

/-- `receive`, up to where it waits. -/
def receive (self : QuicTunnel) (maxBytes : Nat) : Received × QuicTunnel :=
  self.received (self.reader.read maxBytes)

/-- A call of `receive` that waited goes on. -/
def resume (self : QuicTunnel) : Option (Received × QuicTunnel) :=
  self.reader.resume.map self.received

end QuicTunnel

/-! ### The protocol -/

/-- What else is recorded of a tunnel. -/
inductive QuicMark
  /-- `receive` raised. -/
  | raised (error : Http3Error)
  /-- `buffered` went beyond its limit. -/
  | tooLarge
  deriving DecidableEq, Repr

/-- `Http3Connect`, and what happened on its tunnel. -/
structure Http3Connect where
  stream : Option Nat
  accepted : Option Future
  tunnel : QuicTunnel
  log : List (StreamEntry QuicMark)
  /-- A reset or the end of the connection was processed. -/
  interrupted : Bool

/-- What can happen to it. -/
inductive QuicAction
  /-- `open`, up to where it waits for `accepted`. -/
  | openStream (stream : Nat)
  | event (event : QuicEvent)
  /-- A call of `receive`, when no other is waiting. -/
  | receive (maxBytes : Nat)
  /-- The call that waited goes on. -/
  | resume
  deriving DecidableEq, Repr

namespace Http3Connect

/-- A new protocol. -/
def new : Http3Connect where
  stream := none
  accepted := none
  tunnel := { reader := StreamReader.new, buffered := 0 }
  log := []
  interrupted := false

/-- `if self.accepted and not self.accepted.done()`: resolve it. -/
def settle (self : Http3Connect) (outcome : Future) : Http3Connect :=
  if self.accepted = some .pending then { self with accepted := some outcome } else self

/-- A reset or the end of the connection. -/
def interrupt (self : Http3Connect) : Http3Connect :=
  let error := .connectionError "HTTP/3 CONNECT прерван"
  let self := self.settle (.exception error)
  { self with
    tunnel := { self.tunnel with reader := self.tunnel.reader.setException error }
    interrupted := true }

/-- The answer to the CONNECT request. -/
def answer (self : Http3Connect) (status : Int) : Http3Connect :=
  if 200 ≤ status then
    self.settle
      (if status = 200 then .result else .exception (.valueError s!"CONNECT HTTP {status}"))
  else self

/-- `self.tunnel.feed(data)`. -/
def feed (self : Http3Connect) (data : Bytes) : Option Http3Connect :=
  (self.tunnel.feed data).map fun tunnel =>
    { self with
      tunnel
      log := self.log ++
        [if QuicTunnel.maxBuffered < tunnel.buffered then .mark .tooLarge else .fed data] }

/-- `if getattr(message, 'stream_ended', False): self.tunnel.reader.feed_eof()`. -/
def finish (self : Http3Connect) (streamEnded : Bool) : Http3Connect :=
  if streamEnded then
    { self with tunnel := { self.tunnel with reader := self.tunnel.reader.feedEof } }
  else self

/-- The loop of `quic_event_received` over the messages. -/
def handleMessages (self : Http3Connect) : List H3Message → Option Http3Connect
  | [] => some self
  | message :: messages =>
      if message.stream ≠ self.stream then self.handleMessages messages
      else
        match message with
        | .headersReceived _ .malformed _ => some self -- `int` raises
        | .headersReceived _ .absent streamEnded =>
            ((self.answer 0).finish streamEnded).handleMessages messages
        | .headersReceived _ (.code status) streamEnded =>
            ((self.answer status).finish streamEnded).handleMessages messages
        | .dataReceived _ data streamEnded =>
            (self.feed data).bind fun self => (self.finish streamEnded).handleMessages messages
        | .other _ streamEnded => (self.finish streamEnded).handleMessages messages

/-- `quic_event_received`. -/
def quicEventReceived (self : Http3Connect) (event : QuicEvent) : Option Http3Connect :=
  (if event.interrupts then self.interrupt else self).handleMessages event.messages

/-- A call of `receive` has come to something. -/
def after (self : Http3Connect) : QuicTunnel.Received × QuicTunnel → Http3Connect
  | (.returned data, tunnel) => { self with tunnel, log := self.log ++ [.returned data] }
  | (.endOfStream, tunnel) => { self with tunnel, log := self.log ++ [.endOfStream] }
  | (.raises error, tunnel) => { self with tunnel, log := self.log ++ [.mark (.raised error)] }
  | (.waits, tunnel) => { self with tunnel }

/-- One action. HTTP/3 brings no data after the end mark of a stream, so an assertion error of the
reader is no step. -/
def step (self : Http3Connect) : QuicAction → Option Http3Connect
  | .openStream stream =>
      if self.stream = none then some { self with stream, accepted := some .pending } else none
  | .event event => self.quicEventReceived event
  | .receive maxBytes =>
      if self.tunnel.reader.reading = none then some (self.after (self.tunnel.receive maxBytes))
      else none
  | .resume => self.tunnel.resume.map self.after

end Http3Connect

end PxManager.Transport
