import Mathlib.Data.PNat.Notation
import Mathlib.Data.PNat.Basic
import PxManager.Core.Bytes

/-!
# PxManager.Transport.Http2

What `TcpTunnel` uses of the h2 package: the events that `receive_data` returns, the outbound
flow-control windows, and `send_data`.

h2 is a parameter, `H2Connection`. Its laws say what it does to the windows: they are integers, a
WINDOW_UPDATE raises one of them, a new INITIAL_WINDOW_SIZE moves that of the stream by the
difference and may leave it below zero, and `send_data` takes from both what it accepts and
accepts no data that is longer than they allow. Whether it sends an empty frame while a window is
below zero is left open; the versions of h2 differ there.
-/

namespace PxManager.Transport

open PxManager.Core

/-! ### Events -/

/-- The events of `h2.events`, with what is read of them. -/
inductive H2Event
  | dataReceived (data : Bytes) (flowControlledLength stream : Nat)
  | streamEnded
  | streamReset
  | connectionTerminated
  /-- Stream 0 is the connection. -/
  | windowUpdated (stream delta : Nat)
  /-- INITIAL_WINDOW_SIZE before and after, and the new MAX_FRAME_SIZE, where they change. -/
  | remoteSettingsChanged (initialWindowSize : Option (Nat × Nat)) (maxFrameSize : Option ℕ+)
  | responseReceived (status : Int)
  | other
  deriving DecidableEq, Repr

/-- The DATA payload of an event. -/
def H2Event.payload : H2Event → Bytes
  | .dataReceived data _ _ => data
  | _ => []

/-- The payload of a batch of events. -/
def payload (events : List H2Event) : Bytes :=
  (events.map H2Event.payload).flatten

@[simp] theorem payload_cons (event : H2Event) (events : List H2Event) :
    payload (event :: events) = event.payload ++ payload events := rfl

@[simp] theorem payload_append (events events' : List H2Event) :
    payload (events ++ events') = payload events ++ payload events' := by
  simp [payload]

/-- The marks after which `frames` takes the stream to be over. -/
def H2Event.ends : H2Event → Bool
  | .streamEnded | .streamReset | .connectionTerminated => true
  | _ => false

/-! ### Windows -/

/-- The frame size that HTTP/2 begins with. -/
instance neZero_initialMaxFrame : NeZero (16384 : ℕ) := ⟨by decide⟩

/-- What bounds the DATA that may be sent on the stream. -/
structure Outbound where
  connection : Int
  stream : Int
  /-- `max_outbound_frame_size`. -/
  maxFrame : ℕ+
  deriving DecidableEq, Repr

namespace Outbound

/-- `local_flow_control_window(1)`. -/
def window (self : Outbound) : Int := min self.connection self.stream

/-- What one frame may carry at most, the smaller of `local_flow_control_window(1)` and
`max_outbound_frame_size`. -/
def frameWindow (self : Outbound) : Int := min self.window self.maxFrame

/-- The windows after some bytes were sent. -/
def sent (self : Outbound) (size : Nat) : Outbound :=
  { self with connection := self.connection - size, stream := self.stream - size }

/-- The windows after an event. -/
def event (self : Outbound) : H2Event → Outbound
  | .windowUpdated 0 delta => { self with connection := self.connection + delta }
  | .windowUpdated 1 delta => { self with stream := self.stream + delta }
  | .remoteSettingsChanged initialWindowSize maxFrameSize =>
      { self with
        stream := match initialWindowSize with
          | some (old, new) => self.stream + (new - old)
          | none => self.stream
        maxFrame := maxFrameSize.getD self.maxFrame }
  | _ => self

/-- The windows after a batch of events. -/
def events (self : Outbound) (events : List H2Event) : Outbound :=
  events.foldl event self

@[simp] theorem sent_zero (self : Outbound) : self.sent 0 = self := by
  simp [sent]

@[simp] theorem sent_sent (self : Outbound) (n m : Nat) :
    (self.sent n).sent m = self.sent (n + m) := by
  simp [sent, Int.sub_sub]

theorem window_sent (self : Outbound) (n : Nat) : (self.sent n).window = self.window - n := by
  unfold window sent
  show min (self.connection - n) (self.stream - n) = _
  omega

theorem frameWindow_eq_zero {self : Outbound} : self.frameWindow = 0 ↔ self.window = 0 := by
  have := self.maxFrame.pos
  unfold frameWindow
  omega

theorem frameWindow_pos {self : Outbound} (h : 0 ≤ self.window) (h0 : self.frameWindow ≠ 0) :
    0 < self.frameWindow := by
  have := self.maxFrame.pos
  unfold frameWindow at h0 ⊢
  omega

/-- What was sent before makes no difference to what an event does. -/
theorem event_sent (self : Outbound) (n : Nat) (e : H2Event) :
    (self.sent n).event e = (self.event e).sent n := by
  unfold event sent
  split
  · simp only [mk.injEq, and_true]
    omega
  · simp only [mk.injEq, true_and, and_true]
    omega
  · next initialWindowSize maxFrameSize =>
      cases initialWindowSize with
      | none => rfl
      | some sizes =>
          simp only [mk.injEq, true_and, and_true]
          omega
  · rfl

theorem events_sent (self : Outbound) (n : Nat) (es : List H2Event) :
    (self.sent n).events es = (self.events es).sent n := by
  unfold events
  induction es generalizing self with
  | nil => rfl
  | cons e es ih => rw [List.foldl_cons, List.foldl_cons, event_sent, ih]

end Outbound

/-! ### The connection -/

/-- What `send_data` raises. -/
inductive H2Error
  | flowControl
  | frameTooLarge
  deriving DecidableEq, Repr

/-- An `h2.connection.H2Connection` whose only stream is stream 1, as the tunnel's is. `outbound`
is what it says of its windows. -/
structure H2Connection (κ : Type) where
  outbound : κ → Outbound
  /-- The state after `receive_data` returned these events. -/
  receiveData : κ → List H2Event → κ
  acknowledgeReceivedData : κ → Nat → Nat → κ
  sendData : κ → Nat → Bytes → Except H2Error κ
  outbound_receiveData : ∀ connection events,
    outbound (receiveData connection events) = (outbound connection).events events
  outbound_acknowledgeReceivedData : ∀ connection length stream,
    outbound (acknowledgeReceivedData connection length stream) = outbound connection
  sendData_error : ∀ connection data, data ≠ [] → (outbound connection).window < data.length →
    sendData connection 1 data = .error .flowControl
  sendData_sent : ∀ connection data connection', sendData connection 1 data = .ok connection' →
    outbound connection' = (outbound connection).sent data.length
  sendData_ok : ∀ connection data, (data.length : Int) ≤ (outbound connection).window →
    data.length ≤ ((outbound connection).maxFrame : Nat) →
    ∃ connection', sendData connection 1 data = .ok connection'

/-- A connection that keeps nothing but its windows. It sends empty frames at any time. -/
def windowsOnly : H2Connection Outbound where
  outbound := id
  receiveData := Outbound.events
  acknowledgeReceivedData connection _ _ := connection
  sendData connection _ data :=
    if data ≠ [] ∧ connection.window < data.length then .error .flowControl
    else if (connection.maxFrame : Nat) < data.length then .error .frameTooLarge
    else .ok (connection.sent data.length)
  outbound_receiveData _ _ := rfl
  outbound_acknowledgeReceivedData _ _ _ := rfl
  sendData_error _ _ hdata hlt := if_pos ⟨hdata, hlt⟩
  sendData_sent connection data connection' h := by
    split at h
    · cases h
    · split at h
      · cases h
      · cases h
        rfl
  sendData_ok connection data hwindow hframe := by
    have hfits : ¬ (data ≠ [] ∧ connection.window < data.length) :=
      fun h => Int.not_lt.mpr hwindow h.2
    have hframe : ¬ (connection.maxFrame : Nat) < data.length := Nat.not_lt.mpr hframe
    rw [if_neg hfits, if_neg hframe]
    exact ⟨_, rfl⟩

/-- What `send_data` accepts leaves the window as it is, or open as far as it was open. -/
theorem H2Connection.window_of_sendData_ok {κ : Type} (h2 : H2Connection κ)
    {connection connection' : κ} {data : Bytes}
    (h : h2.sendData connection 1 data = .ok connection') :
    (h2.outbound connection').window = (h2.outbound connection).window - data.length ∧
      (data = [] ∨ (data.length : Int) ≤ (h2.outbound connection).window) := by
  rw [h2.sendData_sent _ _ _ h, Outbound.window_sent]
  refine ⟨rfl, or_iff_not_imp_left.mpr fun hdata => ?_⟩
  by_contra hlt
  rw [h2.sendData_error connection data hdata (by omega)] at h
  cases h

end PxManager.Transport
