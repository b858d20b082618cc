import PxManager.Core.Bytes

/-!
# PxManager.Transport.Http3

What aioquic tells a protocol: the QUIC events, with the messages that `H3Connection.handle_event`
makes of them, and a future that the protocol resolves.
-/

namespace PxManager.Transport

open PxManager.Core

/-- What the protocols raise. -/
inductive Http3Error
  | connectionError (text : String)
  | valueError (text : String)
  deriving DecidableEq, Repr

/-- A future without a value. -/
inductive Future
  | pending
  | result
  | exception (error : Http3Error)
  deriving DecidableEq, Repr

/-- What `dict(headers)` has under `:status`: nothing, a number, or something that is none. -/
inductive HeaderStatus
  | absent
  | code (status : Int)
  | malformed
  deriving DecidableEq, Repr

/-- The messages of `aioquic.h3.events`. -/
inductive H3Message
  | headersReceived (stream : Nat) (status : HeaderStatus) (streamEnded : Bool)
  | dataReceived (stream : Nat) (data : Bytes) (streamEnded : Bool)
  | other (stream : Option Nat) (streamEnded : Bool)
  deriving DecidableEq, Repr

namespace H3Message

/-- `getattr(message, 'stream_id', None)`. -/
def stream : H3Message → Option Nat
  | .headersReceived stream _ _ => some stream
  | .dataReceived stream _ _ => some stream
  | .other stream _ => stream

/-- `getattr(message, 'stream_ended', False)`. -/
def streamEnded : H3Message → Bool
  | .headersReceived _ _ ended => ended
  | .dataReceived _ _ ended => ended
  | .other _ ended => ended

end H3Message

/-- The QUIC events that the protocols look at. -/
inductive QuicEventKind
  | connectionTerminated
  | streamReset (stream : Nat)
  | other
  deriving DecidableEq, Repr

/-- A QUIC event, with what `handle_event` returns for it. -/
structure QuicEvent where
  kind : QuicEventKind
  messages : List H3Message
  deriving DecidableEq, Repr

/-- `isinstance(event, (ConnectionTerminated, StreamReset))`. -/
def QuicEvent.interrupts (event : QuicEvent) : Bool :=
  match event.kind with
  | .connectionTerminated | .streamReset _ => true
  | .other => false

end PxManager.Transport
