import PxManager.Core.Machine
import PxManager.Core.SharedReader
import PxManager.Core.StreamLog
import PxManager.Transport.TcpTunnel

/-!
# PxManager.Transport.Callers

A tunnel over HTTP/2 from `connect_tcp` on: the CONNECT loop, `receive` and `send` all read frames
into the same `pending`, in any order that the peer and the callers choose.

A call stops where it has to wait for the reader, and at each `writer.drain()`. What runs between
two stops runs alone, so a call that finds bytes in the reader takes them at once (`running`). The
drain at the end of `send` is left out: nothing comes after it.
-/

namespace PxManager.Transport

open PxManager.Core

/-- A call that is in `frames`, or the CONNECT loop there. -/
inductive Caller
  | connect
  | receive (maxBytes : ℕ+)
  | send (item : Bytes) (offset : Int)
  deriving DecidableEq, Repr

/-- Whether it is a call of `receive`. -/
def Caller.receives : Caller → Bool
  | .receive _ => true
  | _ => false

/-- A call that is in `writer.drain()`. -/
inductive Draining
  /-- Before the CONNECT loop. -/
  | connect
  /-- In `send`, before it calls `frames`. -/
  | send (item : Bytes) (offset : Int)
  /-- In `frames`, which is to return these events. -/
  | frames (caller : Caller) (events : List H2Event)
  deriving DecidableEq, Repr

/-- How `connect_tcp` stands. -/
inductive Connect
  | running
  /-- It has returned the tunnel, and others may call it. -/
  | returned
  | raised (error : TunnelError)
  deriving DecidableEq, Repr

/-- A tunnel and its callers. -/
structure State (κ : Type) where
  tunnel : TcpTunnel κ
  connect : Connect
  reader : SharedReader Caller
  /-- The call that has found bytes in the reader and takes them now. -/
  running : Option Caller
  draining : List Draining
  /-- The DATA that was read, and what `receive` made of it. The marks are what else `frames`
  raised. -/
  log : List (StreamEntry TunnelError)

/-- What can happen to it. -/
inductive Action
  /-- A call of `receive`. -/
  | receive (maxBytes : ℕ+)
  /-- A call of `send`. -/
  | send (item : Bytes)
  /-- The connection hands bytes to the reader. -/
  | feedData
  /-- The connection tells the reader of its end. -/
  | feedEof
  /-- A call goes on that the reader has woken. -/
  | goOn (caller : Caller)
  /-- The running call takes bytes from the reader, which are the data of some events, and leaves
  some there or none. -/
  | read (events : List H2Event) (unread : Bool)
  /-- A call goes on after `writer.drain()`. -/
  | drained (draining : Draining)
  deriving DecidableEq, Repr

namespace State

variable {κ : Type}

/-- The tunnel that `connect_tcp` has made, when the CONNECT request is written. -/
def init (connection : κ) : State κ where
  tunnel := { connection, pending := [], ended := false }
  connect := .running
  reader := .new
  running := none
  draining := [.connect]
  log := []

/-- `frames` raises in a call. -/
def abandon (s : State κ) (error : TunnelError) : Caller → State κ
  | .connect => { s with connect := .raised error }
  | .receive _ => if error = .endOfStream then { s with log := s.log ++ [.endOfStream] } else s
  | .send _ _ => s

/-- What a call makes of what it finds in the reader. -/
def find (s : State κ) (caller : Caller) : Found → State κ
  | .bytes => { s with running := some caller }
  | .nothing => s.abandon .endOfStream caller
  | .waits => s
  | .runtimeError =>
      { s with log := s.log ++ [StreamEntry.mark TunnelError.runtimeError] }.abandon .runtimeError caller

/-- A call comes to `reader.read`. -/
def readFrames (s : State κ) (caller : Caller) : State κ :=
  let (found, reader) := s.reader.read caller
  { s with reader }.find caller found

/-- A call that waited in `reader.read` goes on. -/
def goOn (s : State κ) (caller : Caller) : State κ :=
  let (found, reader) := s.reader.goOn caller
  { s with reader }.find caller found

/-- `receive`, from the head of its loop on. -/
def receive (s : State κ) (maxBytes : ℕ+) : State κ :=
  match s.tunnel.receive maxBytes with
  | (.returned data, tunnel) => { s with tunnel, log := s.log ++ [.returned data] }
  | (.endOfStream, tunnel) => { s with tunnel, log := s.log ++ [.endOfStream] }
  | (.waits, tunnel) => { s with tunnel }.readFrames (.receive maxBytes)

/-- `send`, from the head of its loop on. If the loop never ends, what happens after it in this
machine does not happen. -/
def send (h2 : H2Connection κ) (s : State κ) (item : Bytes) (offset : Int) : State κ :=
  match TcpTunnel.sendLoop h2 item { self := s.tunnel, offset, calls := [] } with
  | (.waits, sending) =>
      { s with tunnel := sending.self, draining := s.draining ++ [.send item sending.offset] }
  | (_, sending) => { s with tunnel := sending.self }

/-- The first `ResponseReceived` of a batch. -/
def responseStatus (events : List H2Event) : Option Int :=
  events.findSome? fun
    | .responseReceived status => some status
    | _ => none

/-- The CONNECT loop of `connect_tcp`, after `frames` returned these events. -/
def connectLoop (s : State κ) (events : List H2Event) : State κ :=
  match responseStatus events with
  | some status =>
      if status = 200 then { s with connect := .returned }
      else { s with connect := .raised (.valueError s!"CONNECT HTTP {status}") }
  | none =>
      if s.tunnel.ended then
        { s with connect := .raised (.connectionError "HTTP/2 CONNECT прерван") }
      else s.readFrames .connect

/-- A call goes on after `frames` returned these events. -/
def resume (h2 : H2Connection κ) (s : State κ) (events : List H2Event) : Caller → State κ
  | .connect => s.connectLoop events
  | .receive maxBytes => s.receive maxBytes
  | .send item offset => s.send h2 item offset

/-- A call goes on after `writer.drain()`. -/
def drained (h2 : H2Connection κ) (s : State κ) : Draining → State κ
  | .connect => s.readFrames .connect
  | .send item offset => s.readFrames (.send item offset)
  | .frames caller events => s.resume h2 events caller

/-- `frames` in the running call, from the bytes that it takes to its `writer.drain()`. -/
def read (h2 : H2Connection κ) (s : State κ) (caller : Caller) (events : List H2Event)
    (unread : Bool) : State κ :=
  let s := { s with reader := s.reader.take unread, running := none }
  match s.tunnel.frames h2 events with
  | (.ok _, tunnel) =>
      { s with
        tunnel
        draining := s.draining ++ [.frames caller events]
        log := s.log ++ [.fed (payload events)] }
  | (.error error, tunnel) =>
      { s with tunnel, log := s.log ++ [StreamEntry.mark error] }.abandon error caller

/-- One action while no call runs. The tunnel is called when `connect_tcp` has returned it. -/
def act (h2 : H2Connection κ) (s : State κ) : Action → Option (State κ)
  | .receive maxBytes => if s.connect = .returned then some (s.receive maxBytes) else none
  | .send item => if s.connect = .returned then some (s.send h2 item 0) else none
  | .feedData => s.reader.feedData.map fun reader => { s with reader }
  | .feedEof => some { s with reader := s.reader.feedEof }
  | .goOn caller => if caller ∈ s.reader.woken then some (s.goOn caller) else none
  | .read _ _ => none
  | .drained draining =>
      if draining ∈ s.draining then
        some ({ s with draining := s.draining.erase draining }.drained h2 draining)
      else none

/-- One action. A call that runs takes its bytes before anything else happens. -/
def step (h2 : H2Connection κ) (s : State κ) (action : Action) : Option (State κ) :=
  match s.running with
  | none => s.act h2 action
  | some caller =>
      match action with
      | .read events unread => some (s.read h2 caller events unread)
      | _ => none

end State

end PxManager.Transport
