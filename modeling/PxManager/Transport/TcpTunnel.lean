import PxManager.Transport.Http2

/-!
# PxManager.Transport.TcpTunnel

`TcpTunnel` of `proxy_transport.py` over HTTP/2: `frames`, `receive` and `send`. (Over HTTP/1.1 it
hands the bytes of the socket through.)

A call stops where it awaits `reader.read` and goes on with what that returns: a batch of events,
or nothing at the end of the connection. The writer is left out; nothing is read back from it.
-/

namespace PxManager.Transport

open PxManager.Core

/-- `TcpTunnel`. -/
structure TcpTunnel (κ : Type) where
  connection : κ
  pending : Bytes
  ended : Bool

/-- What the methods of the tunnel raise. -/
inductive TunnelError
  | endOfStream
  | valueError (text : String)
  | connectionError (text : String)
  | h2 (error : H2Error)
  /-- `read` while another call waits in `read`. -/
  | runtimeError
  deriving DecidableEq, Repr

namespace TcpTunnel

variable {κ : Type}

/-- The limit of `pending`. -/
def maxPending : Nat := 131072

/-- What `frames` raises beyond it. -/
def tooLarge : TunnelError := .valueError "Слишком большой ответ прокси"

/-! ### Reading frames -/

/-- The loop of `frames` over the events. -/
def handleEvents (h2 : H2Connection κ) :
    TcpTunnel κ → List H2Event → Except TunnelError Unit × TcpTunnel κ
  | self, [] => (.ok (), self)
  | self, event :: events =>
      match event with
      | .dataReceived data flowControlledLength stream =>
          let self := { self with pending := self.pending ++ data }
          if maxPending < self.pending.length then (.error tooLarge, self)
          else
            let connection :=
              h2.acknowledgeReceivedData self.connection flowControlledLength stream
            handleEvents h2 { self with connection } events
      | .streamEnded | .streamReset | .connectionTerminated =>
          handleEvents h2 { self with ended := true } events
      | _ => handleEvents h2 self events

/-- `frames`, after `reader.read` returned the data of some events. -/
def frames (h2 : H2Connection κ) (self : TcpTunnel κ) (events : List H2Event) :
    Except TunnelError Unit × TcpTunnel κ :=
  handleEvents h2 { self with connection := h2.receiveData self.connection events } events

/-- What a batch of events does to the tunnel, unless it is too large. -/
structure TakenIn (tunnel : TcpTunnel κ) (events : List H2Event) (tunnel' : TcpTunnel κ) :
    Prop where
  pending : tunnel'.pending = tunnel.pending ++ payload events
  ended : tunnel'.ended = (tunnel.ended || events.any H2Event.ends)

/-- The two outcomes of the loop of `frames`. -/
def Handled (h2 : H2Connection κ) (self : TcpTunnel κ) (events : List H2Event) : Prop :=
  (∃ self', handleEvents h2 self events = (.error tooLarge, self') ∧
    maxPending < self.pending.length + (payload events).length) ∨
  (∃ self', handleEvents h2 self events = (.ok (), self') ∧ TakenIn self events self' ∧
    h2.outbound self'.connection = h2.outbound self.connection)

variable {h2 : H2Connection κ} {self self₁ : TcpTunnel κ} {event : H2Event} {events : List H2Event}

/-- An event without a payload leaves the rest of the batch to a tunnel with the same `pending`. -/
theorem Handled.cons (h : Handled h2 self₁ events) (hpayload : event.payload = [])
    (hpending : self₁.pending = self.pending) (hended : self₁.ended = (self.ended || event.ends))
    (hout : h2.outbound self₁.connection = h2.outbound self.connection)
    (heq : handleEvents h2 self (event :: events) = handleEvents h2 self₁ events) :
    Handled h2 self (event :: events) := by
  have hsame : payload (event :: events) = payload events := by
    rw [payload_cons, hpayload, List.nil_append]
  unfold Handled
  rw [heq, hsame, ← hpending, ← hout]
  rcases h with h | ⟨self', h, htaken, hout'⟩
  · exact .inl h
  · refine .inr ⟨self', h, ⟨?_, ?_⟩, hout'⟩
    · rw [htaken.pending, hpending, hsame]
    · rw [htaken.ended, hended, List.any_cons, Bool.or_assoc]

theorem handled (h2 : H2Connection κ) (self : TcpTunnel κ) (events : List H2Event) :
    Handled h2 self events := by
  induction events generalizing self with
  | nil => exact .inr ⟨self, rfl, ⟨(List.append_nil _).symm, (Bool.or_false _).symm⟩, rfl⟩
  | cons event events ih =>
      have hended : true = (self.ended || true) := (Bool.or_true _).symm
      have hsame : self.ended = (self.ended || false) := (Bool.or_false _).symm
      cases event with
      | dataReceived data flowControlledLength stream =>
          unfold Handled
          rw [payload_cons, List.length_append, ← Nat.add_assoc]
          simp only [handleEvents, H2Event.payload]
          rw [← List.length_append]
          split
          · -- raised before the DATA is acknowledged
            next hlarge => exact .inl ⟨_, rfl, by omega⟩
          · rcases ih { self with
              pending := self.pending ++ data
              connection :=
                h2.acknowledgeReceivedData self.connection flowControlledLength stream } with
              h | ⟨self', h, htaken, hout⟩
            · exact .inl h
            · refine .inr ⟨self', h, ⟨?_, htaken.ended⟩, ?_⟩
              · rw [htaken.pending, payload_cons, List.append_assoc]
                rfl
              · rw [hout, h2.outbound_acknowledgeReceivedData]
      | streamEnded => exact (ih { self with ended := true }).cons rfl rfl hended rfl rfl
      | streamReset => exact (ih { self with ended := true }).cons rfl rfl hended rfl rfl
      | connectionTerminated => exact (ih { self with ended := true }).cons rfl rfl hended rfl rfl
      | windowUpdated stream delta => exact (ih self).cons rfl rfl hsame rfl rfl
      | remoteSettingsChanged initialWindowSize maxFrameSize =>
          exact (ih self).cons rfl rfl hsame rfl rfl
      | responseReceived status => exact (ih self).cons rfl rfl hsame rfl rfl
      | other => exact (ih self).cons rfl rfl hsame rfl rfl

/-- `frames` raises for a batch that takes `pending` beyond its limit, and takes in any other. -/
theorem frames_cases (h2 : H2Connection κ) (self : TcpTunnel κ) (events : List H2Event) :
    (∃ self', frames h2 self events = (.error tooLarge, self') ∧
      maxPending < self.pending.length + (payload events).length) ∨
    (∃ self', frames h2 self events = (.ok (), self') ∧ TakenIn self events self' ∧
      h2.outbound self'.connection = (h2.outbound self.connection).events events) := by
  rcases handled h2 { self with connection := h2.receiveData self.connection events } events with
    h | ⟨self', h, htaken, hout⟩
  · exact .inl h
  · refine .inr ⟨self', h, ⟨htaken.pending, htaken.ended⟩, ?_⟩
    exact hout.trans (h2.outbound_receiveData _ _)

/-! ### Receiving -/

/-- Where `receive` stops. -/
inductive Received
  | returned (data : Bytes)
  | endOfStream
  /-- In `frames`, for data. -/
  | waits
  deriving DecidableEq, Repr

/-- `receive` up to where it stops. -/
def receive (self : TcpTunnel κ) (maxBytes : Nat) : Received × TcpTunnel κ :=
  if self.pending = [] then
    if self.ended then (.endOfStream, self) else (.waits, self)
  else (.returned (self.pending.take maxBytes), { self with pending := self.pending.drop maxBytes })

/-! ### Sending -/

/-- A call of `send_data`, with the windows it met. -/
structure SendCall where
  data : Bytes
  outbound : Outbound

/-- A call of `send` on its way. -/
structure Sending (κ : Type) where
  self : TcpTunnel κ
  offset : Int
  /-- The calls of `send_data` that have returned. -/
  calls : List SendCall

/-- Where `send` stops. -/
inductive Stop
  /-- After its loop. -/
  | done
  /-- In `frames`, for data. -/
  | waits
  /-- Nowhere: the loop goes on for good, with empty frames. -/
  | hangs
  | raises (error : TunnelError)
  deriving DecidableEq, Repr

/-- A turn of the loop of `send` brings `offset` nearer to the end of the item, or, while the window
is negative, to where the loop goes on for good. -/
theorem turn_lt (h2 : H2Connection κ) {connection connection' : κ} {data : Bytes} {offset length : Int}
    (hok : h2.sendData connection 1 data = .ok connection') (hlt : offset < length)
    (hzero : (h2.outbound connection).frameWindow ≠ 0)
    (hends : ¬ ((h2.outbound connection).frameWindow < 0 ∧ offset < -length)) :
    (if (h2.outbound connection').window < 0 then
        offset + (h2.outbound connection).frameWindow + length + 1
      else length - (offset + (h2.outbound connection).frameWindow)).toNat <
    (if (h2.outbound connection).window < 0 then offset + length + 1 else length - offset).toNat := by
  have hframe : (h2.outbound connection).frameWindow =
    min (h2.outbound connection).window (h2.outbound connection).maxFrame := rfl
  have hmaxFrame := (h2.outbound connection).maxFrame.pos
  obtain ⟨hafter, hnil | hle⟩ := h2.window_of_sendData_ok hok
  · rw [hnil, List.length_nil] at hafter
    split <;> split <;> omega
  · split <;> split <;> omega

/-- The loop of `send` up to where it stops. While the window is negative, `offset` goes down. -/
def sendLoop (h2 : H2Connection κ) (item : Bytes) (sending : Sending κ) : Stop × Sending κ :=
  if sending.offset < item.length then
    let outbound := h2.outbound sending.self.connection
    if outbound.frameWindow = 0 then
      if sending.self.ended then (.raises .endOfStream, sending) else (.waits, sending)
    else
      let data := slice item sending.offset (sending.offset + outbound.frameWindow)
      match _h : h2.sendData sending.self.connection 1 data with
      | .error error => (.raises (.h2 error), sending)
      | .ok connection =>
          let next : Sending κ := {
            self := { sending.self with connection }
            offset := sending.offset + outbound.frameWindow
            calls := sending.calls ++ [{ data, outbound }] }
          -- from here on both indices are before the item, so all slices are empty
          if outbound.frameWindow < 0 ∧ sending.offset < -item.length then (.hangs, next)
          else sendLoop h2 item next
  else (.done, sending)
termination_by
  (if (h2.outbound sending.self.connection).window < 0 then sending.offset + item.length + 1
    else item.length - sending.offset).toNat
decreasing_by
  exact turn_lt h2 _h (by assumption) (by assumption) (by assumption)

/-- `send`, when `reader.read` returns the batches of a script one after the other. -/
def send (h2 : H2Connection κ) (item : Bytes) :
    Sending κ → List (List H2Event) → Stop × Sending κ
  | sending, [] => sendLoop h2 item sending
  | sending, events :: script =>
      match sendLoop h2 item sending with
      | (.waits, sending) =>
          match frames h2 sending.self events with
          | (.ok _, self) => send h2 item { sending with self } script
          | (.error error, self) => (.raises error, { sending with self })
      | stopped => stopped

end TcpTunnel

end PxManager.Transport
