import PxManager.Core.Base64
import PxManager.Core.Machine
import PxManager.Core.Netloc
import PxManager.Core.Python
import PxManager.Core.Utf8
import PxManager.Transport.Http3

/-!
# PxManager.Speed.Masque

`MasqueClient`, `TunnelDatagrams` and `http3_client` of `proxy_speed.py`: a QUIC connection inside a
CONNECT-UDP tunnel of the proxy.

`http3_client` is a coroutine that stops at each `await`; the events of the outer connection, those
of the inner one and the packets that the inner one sends come in between, in any order. `log` has
everything that has happened. `Permitted` says what must have happened before something is done to
the outer connection or to the inner one, and `masque_permitted` that it always has.
-/

namespace PxManager.Speed.Masque

open PxManager.Core PxManager.Transport

/-! ### Events of the outer connection -/

/-- What the client looks at in the settings of the proxy. -/
structure Settings where
  h3Datagram : Bool
  enableConnectProtocol : Bool
  deriving DecidableEq

/-- A message of `aioquic.h3.events`. `capsuleProtocol` says whether the header `capsule-protocol`
is `?1`. -/
inductive Message
  | headersReceived (stream : Nat) (status : HeaderStatus) (capsuleProtocol streamEnded : Bool)
  | datagramReceived (stream : Nat) (data : Bytes)
  | dataReceived (stream : Nat) (streamEnded : Bool)
  | other
  deriving DecidableEq

inductive EventKind
  | handshakeCompleted
  | connectionTerminated
  | streamReset
  | other
  deriving DecidableEq

/-- A QUIC event, with what `handle_event` returns for it, and with the settings of the proxy if
they come with it. -/
structure Event where
  kind : EventKind
  messages : List Message
  settings : Option Settings
  deriving DecidableEq

/-- `isinstance(event, (ConnectionTerminated, StreamReset))`. -/
def Event.interrupts (event : Event) : Bool :=
  event.kind = .connectionTerminated ∨ event.kind = .streamReset

/-- `MasqueClient`. `inner` says whether the inner client is set. -/
structure Client where
  handshake : Bool
  disconnected : Bool
  receivedSettings : Option Settings
  settingsReady : Bool
  accepted : Option Future
  stream : Option Nat
  inner : Bool
  failed : Bool

/-- `MasqueClient.__init__`. -/
def Client.new : Client := ⟨false, false, none, false, none, none, false, false⟩

/-- What is done to the two connections. -/
inductive Effect
  | sendHeaders (stream : Nat) (headers : List (Text × Text))
  | sendDatagram (stream : Option Nat) (data : Bytes)
  /-- `self.inner.datagram_received`. -/
  | deliver (data : Bytes)
  | closeInner
  | closeOuter
  /-- `yield inner`: the caller gets the inner client. -/
  | yield
  deriving DecidableEq

namespace Client

/-- `self.inner.close()`, if there is one. -/
def closeInner (self : Client) : List Effect := if self.inner then [.closeInner] else []

/-- `self.accepted.set_exception(error)` or `set_result(None)`, unless it is done. -/
def resolve (self : Client) (future : Future) : Client :=
  if self.accepted = some .pending then { self with accepted := some future } else self

/-- The outcome of a final response. -/
def answered (status : ℤ) (capsuleProtocol : Bool) : Future :=
  if status ≠ 200 ∨ capsuleProtocol = false then
    .exception (.valueError s!"MASQUE CONNECT-UDP отклонён: HTTP {status}")
  else .result

/-- The loop body of `quic_event_received`. `none` is the `ValueError` of `int`. -/
def handleMessage (self : Client) : Message → Option (Client × List Effect)
  | .headersReceived stream status capsuleProtocol streamEnded =>
      if self.stream = some stream then
        match status with
        | .malformed => none
        -- `b'0'`
        | .absent => some (self, [])
        | .code status =>
            if status < 200 then some (self, [])
            else
              some (self.resolve (answered status capsuleProtocol),
                if streamEnded then self.closeInner else [])
      else some (self, [])
  | .datagramReceived stream data =>
      if self.stream = some stream then
        match data with
        | 0 :: payload => some (self, if self.inner then [.deliver payload] else [])
        | _ => some (self, [])
      else some (self, [])
  | .dataReceived stream streamEnded =>
      if self.stream = some stream ∧ streamEnded = true then some (self, self.closeInner)
      else some (self, [])
  | .other => some (self, [])

/-- The loop of `quic_event_received`, and whether it has come to its end. -/
def handleMessages (self : Client) : List Message → Client × List Effect × Bool
  | [] => (self, [], true)
  | message :: messages =>
      match self.handleMessage message with
      | none => (self, [], false)
      | some (self, effects) =>
          let (self, others, ended) := handleMessages self messages
          (self, effects ++ others, ended)

/-- `VerifiedQuicProtocol.quic_event_received`. -/
def verified (self : Client) (event : Event) : Client :=
  match event.kind with
  | .handshakeCompleted => { self with handshake := true }
  | .connectionTerminated => { self with handshake := true, disconnected := true }
  | _ => self

/-- The end of the connection, or a reset. -/
def interrupt (self : Client) : Client :=
  { self with failed := true, settingsReady := true }.resolve
    (.exception (.connectionError "MASQUE соединение прервано"))

/-- `quic_event_received`. -/
def quicEventReceived (self : Client) (event : Event) : Client × List Effect :=
  let self := self.verified event
  let (self, closes) := if event.interrupts then (self.interrupt, self.closeInner) else (self, [])
  let self := { self with receivedSettings := self.receivedSettings.or event.settings }
  let (self, effects, ended) := self.handleMessages event.messages
  if ended ∧ self.receivedSettings.isSome then
    ({ self with settingsReady := true }, closes ++ effects)
  else (self, closes ++ effects)

end Client

/-! ### The request for the tunnel -/

/-- The headers of `tunnel`. -/
def connectHeaders (authority username password : Text) : List (Text × Text) :=
  let credentials := b64encode (encodeUtf8 (username ++ ':' :: password))
  [(":method".toList, "CONNECT".toList), (":protocol".toList, "connect-udp".toList),
    (":scheme".toList, "https".toList), (":authority".toList, authority),
    (":path".toList, "/.well-known/masque/udp/h3.speed.cloudflare.com/443/".toList),
    ("capsule-protocol".toList, "?1".toList),
    ("proxy-authorization".toList, "Basic ".toList ++ credentials)]

/-- The arguments of `http3_client`. -/
structure Target where
  host : Text
  port : ℤ
  username : Text
  password : Text

/-- The headers that are sent to a proxy. -/
def Target.headers (target : Target) : List (Text × Text) :=
  connectHeaders (joinHostPort target.host target.port) target.username target.password

/-! ### The coroutine -/

/-- Where `http3_client` stops. -/
inductive Stage
  /-- `connect`, at `self.handshake.wait()`. -/
  | connecting
  /-- `tunnel`, at `self.settings_ready.wait()`. -/
  | settings
  /-- `tunnel`, at `self.accepted`. -/
  | accepting
  /-- `inner.wait_connected()`. -/
  | innerConnecting
  /-- `yield`. -/
  | running
  /-- `inner.wait_closed()`. -/
  | closingInner
  /-- `connect`, at `protocol.wait_closed()`. -/
  | closingOuter
  | ended
  deriving DecidableEq

/-- What happens. -/
inductive Action
  /-- The outer connection reports an event. -/
  | event (event : Event)
  /-- The coroutine goes on where it stops. `stream` is the next available stream id. -/
  | resume (stream : Nat)
  /-- The block under `async with` ends, normally or by an exception. -/
  | leave
  /-- A timeout, a cancellation or an exception ends the `await` where the coroutine stops. -/
  | interrupt
  /-- The handshake of the inner connection is complete, or the connection is terminated. -/
  | innerHandshake (disconnected : Bool)
  /-- The inner connection sends a packet. -/
  | innerSends (data : Bytes)

/-- An event of one of the connections, or something that was done. -/
inductive Entry
  | event (event : Event)
  /-- The handshake of the inner connection is complete, or the connection is terminated. -/
  | inner (disconnected : Bool)
  | effect (effect : Effect)
  deriving DecidableEq

/-- `http3_client`. -/
structure State where
  client : Client
  stage : Stage
  /-- Has the inner client its transport, `TunnelDatagrams`? -/
  innerMade : Bool
  innerHandshake : Bool
  innerDisconnected : Bool
  raised : Option Http3Error
  log : List Entry

/-- The start of `http3_client`. -/
def State.init : State := ⟨.new, .connecting, false, false, false, none, []⟩

namespace State

/-- The state after something is done. -/
def perform (s : State) (effects : List Effect) : State :=
  { s with log := s.log ++ effects.map .effect }

/-- The `finally` of `connect`. -/
def closeOuter (s : State) : State := { s with stage := .closingOuter }.perform [.closeOuter]

/-- The `finally` of `http3_client`, up to `inner.wait_closed()`. -/
def closeInner (s : State) : State := { s with stage := .closingInner }.perform [.closeInner]

/-- `raise error`. -/
def raise (s : State) (error : Http3Error) : State := { s with raised := some error }

/-- What `wait_connected` raises. -/
def notVerified : Http3Error :=
  .connectionError "Не удалось установить проверенное QUIC-соединение"

/-- The proxy has the settings that `tunnel` asks for. -/
def Offers (settings : Option Settings) : Prop :=
  ∃ s, settings = some s ∧ s.h3Datagram = true ∧ s.enableConnectProtocol = true

instance (settings : Option Settings) : Decidable (Offers settings) :=
  match settings with
  | none => isFalse fun ⟨_, h, _⟩ => by cases h
  | some s =>
      decidable_of_iff (s.h3Datagram = true ∧ s.enableConnectProtocol = true)
        ⟨fun h => ⟨s, rfl, h⟩, fun ⟨_, h, h'⟩ => by cases h; exact h'⟩

/-- The coroutine goes on. -/
def resume (target : Target) (s : State) (stream : Nat) : Option State :=
  match s.stage with
  | .connecting =>
      if s.client.handshake then
        if s.client.disconnected then some (s.raise notVerified).closeOuter
        else some { s with stage := .settings }
      else none
  | .settings =>
      if s.client.settingsReady then
        if s.client.failed ∨ ¬ Offers s.client.receivedSettings then
          some (s.raise (.valueError
            "Прокси не поддерживает MASQUE CONNECT-UDP и HTTP Datagrams")).closeOuter
        else
          let client := { s.client with stream := some stream, accepted := some .pending }
          some ({ s with client, stage := .accepting }.perform [.sendHeaders stream target.headers])
      else none
  | .accepting =>
      match s.client.accepted with
      | some .result =>
          some { s with client := { s.client with inner := true }, stage := .innerConnecting,
                        innerMade := true }
      | some (.exception error) => some (s.raise error).closeOuter
      | _ => none
  | .innerConnecting =>
      if s.innerHandshake then
        if s.innerDisconnected then some (s.raise notVerified).closeInner
        else some ({ s with stage := .running }.perform [.yield])
      else none
  -- The connection is closed, or three seconds are over.
  | .closingInner => some { s with client := { s.client with inner := false } }.closeOuter
  | .closingOuter => if s.client.disconnected then some { s with stage := .ended } else none
  | .running | .ended => none

/-- What follows on an action, where it is possible. -/
def step (target : Target) (s : State) : Action → Option State
  | .event event =>
      let (client, effects) := s.client.quicEventReceived event
      some ({ s with client, log := s.log ++ [Entry.event event] }.perform effects)
  | .resume stream => s.resume target stream
  | .leave => if s.stage = .running then some s.closeInner else none
  | .interrupt =>
      match s.stage with
      | .connecting | .settings | .accepting => some s.closeOuter
      | .innerConnecting => some s.closeInner
      -- The end of the block is not come to, so the inner client stays set.
      | .closingInner => some s.closeOuter
      | .closingOuter => some { s with stage := .ended }
      | .running | .ended => none
  | .innerHandshake disconnected =>
      if s.innerMade then
        some { s with innerHandshake := true
                      innerDisconnected := s.innerDisconnected || disconnected
                      log := s.log ++ [.inner disconnected] }
      else none
  | .innerSends data =>
      -- `TunnelDatagrams.sendto`
      if s.innerMade then some (s.perform [.sendDatagram s.client.stream (0 :: data)]) else none

end State

/-! ### What must have happened -/

/-- The tunnel has been asked for on this stream. -/
def Requested (stream : Nat) (log : List Entry) : Prop :=
  ∃ headers, .effect (.sendHeaders stream headers) ∈ log

/-- The proxy has answered the request on this stream, after it was sent, with status 200 and the
capsule protocol. -/
def Accepted (stream : Nat) (log : List Entry) : Prop :=
  ∃ before event after streamEnded, log = before ++ .event event :: after ∧
    Requested stream before ∧
    .headersReceived stream (.code 200) true streamEnded ∈ event.messages

/-- What must have happened before something is done. -/
def Permitted (target : Target) (before : List Entry) : Effect → Prop
  | .sendHeaders _ headers =>
      -- The proxy has said that it can do this, the connection has not failed, and the credentials
      -- have not been sent yet.
      headers = target.headers ∧ (∃ event, .event event ∈ before ∧ State.Offers event.settings) ∧
        (∀ event, .event event ∈ before → event.interrupts = false) ∧
        ∀ stream headers, .effect (.sendHeaders stream headers) ∉ before
  | .sendDatagram stream data =>
      ∃ n payload, stream = some n ∧ data = 0 :: payload ∧ Accepted n before
  | .deliver payload =>
      ∃ (front : List Entry) (event : Event) (effects : List Effect) (n : Nat),
        before = front ++ .event event :: effects.map .effect ∧
        Accepted n front ∧ .datagramReceived n (0 :: payload) ∈ event.messages
  | .yield => (∃ n, Accepted n before) ∧ .inner false ∈ before ∧ .inner true ∉ before
  | .closeInner | .closeOuter => True

theorem Requested.append {stream : Nat} {log : List Entry} (h : Requested stream log)
    (entries : List Entry) : Requested stream (log ++ entries) :=
  let ⟨headers, hmem⟩ := h
  ⟨headers, List.mem_append_left _ hmem⟩

theorem Accepted.append {stream : Nat} {log : List Entry} (h : Accepted stream log)
    (entries : List Entry) : Accepted stream (log ++ entries) := by
  obtain ⟨before, event, after, streamEnded, rfl, hrequested, hmem⟩ := h
  exact ⟨before, event, after ++ entries, streamEnded, by simp, hrequested, hmem⟩

/-! ### What an event does -/

/-- What messages do to the client. -/
structure Told (messages : List Message) (c c' : Client) (effects : List Effect) : Prop where
  kept : c' = { c with accepted := c'.accepted }
  accepted : c'.accepted = c.accepted ∨ c.accepted = some .pending ∧
    c'.accepted ≠ some .pending ∧ c'.accepted ≠ none ∧
    (c'.accepted = some .result → ∃ n streamEnded, c.stream = some n ∧
      .headersReceived n (.code 200) true streamEnded ∈ messages)
  effects : ∀ effect ∈ effects, c.inner = true ∧ (effect = .closeInner ∨
    ∃ n payload, effect = .deliver payload ∧ c.stream = some n ∧
      .datagramReceived n (0 :: payload) ∈ messages)

theorem Told.refl (messages : List Message) (c : Client) : Told messages c c [] :=
  ⟨rfl, .inl rfl, fun _ h => absurd h List.not_mem_nil⟩

theorem told_closeInner (messages : List Message) {c : Client} :
    ∀ effect ∈ c.closeInner, c.inner = true ∧ (effect = .closeInner ∨
      ∃ n payload, effect = .deliver payload ∧ c.stream = some n ∧
        .datagramReceived n (0 :: payload) ∈ messages) := by
  unfold Client.closeInner
  intro effect heffect
  split at heffect
  · next hinner => exact ⟨hinner, .inl (List.mem_singleton.mp heffect)⟩
  · cases heffect

theorem answered_cases (status : ℤ) (capsuleProtocol : Bool) :
    Client.answered status capsuleProtocol ≠ .pending ∧
      (Client.answered status capsuleProtocol = .result → status = 200 ∧ capsuleProtocol = true) := by
  unfold Client.answered
  split
  · exact ⟨Future.noConfusion, Future.noConfusion⟩
  · next h =>
      rw [not_or, not_not, Bool.not_eq_false] at h
      exact ⟨Future.noConfusion, fun _ => h⟩

theorem told_of_handleMessage {c c' : Client} {message : Message} {effects : List Effect}
    (h : c.handleMessage message = some (c', effects)) : Told [message] c c' effects := by
  cases message with
  | headersReceived stream status capsuleProtocol streamEnded =>
      simp only [Client.handleMessage] at h
      split at h
      · next hstream =>
          split at h
          · cases h
          · cases h
            exact .refl _ _
          · next status =>
              split at h
              · cases h
                exact .refl _ _
              · obtain ⟨hpending, hresult⟩ := answered_cases status capsuleProtocol
                cases h
                have heffects : ∀ effect ∈ (if streamEnded = true then c.closeInner else []),
                    effect ∈ c.closeInner := by
                  intro effect heffect
                  split at heffect
                  · exact heffect
                  · cases heffect
                unfold Client.resolve
                split
                · next haccepted =>
                    refine ⟨rfl, .inr ⟨haccepted, fun h => hpending (Option.some.inj h),
                      Option.some_ne_none _, ?_⟩,
                      fun effect heffect => told_closeInner _ effect (heffects effect heffect)⟩
                    intro heq
                    obtain ⟨rfl, rfl⟩ := hresult (Option.some.inj heq)
                    exact ⟨stream, streamEnded, hstream, List.mem_singleton_self _⟩
                · exact ⟨rfl, .inl rfl,
                    fun effect heffect => told_closeInner _ effect (heffects effect heffect)⟩
      · cases h
        exact .refl _ _
  | datagramReceived stream data =>
      simp only [Client.handleMessage] at h
      split at h
      · next hstream =>
          split at h
          · next payload =>
              cases h
              refine ⟨rfl, .inl rfl, ?_⟩
              intro effect heffect
              split at heffect
              · next hinner =>
                  rw [List.mem_singleton.mp heffect]
                  exact ⟨hinner, .inr ⟨stream, payload, rfl, hstream, List.mem_singleton_self _⟩⟩
              · cases heffect
          · cases h
            exact .refl _ _
      · cases h
        exact .refl _ _
  | dataReceived stream streamEnded =>
      simp only [Client.handleMessage] at h
      split at h
      · cases h
        exact ⟨rfl, .inl rfl, told_closeInner _⟩
      · cases h
        exact .refl _ _
  | other =>
      cases h
      exact .refl _ _

theorem Told.trans {messages messages' : List Message} {a b c : Client}
    {effects effects' : List Effect} (h : Told messages a b effects)
    (h' : Told messages' b c effects') :
    Told (messages ++ messages') a c (effects ++ effects') := by
  have hstream : b.stream = a.stream := by rw [h.kept]
  have hinner : b.inner = a.inner := by rw [h.kept]
  refine ⟨?_, ?_, ?_⟩
  · rw [h'.kept, h.kept]
  · rcases h.accepted with heq | ⟨hpending, hdone, hsome, hresult⟩
    · rcases h'.accepted with heq' | ⟨hpending', hdone', hsome', hresult'⟩
      · exact .inl (heq'.trans heq)
      · refine .inr ⟨heq ▸ hpending', hdone', hsome', ?_⟩
        intro hr
        obtain ⟨n, streamEnded, hn, hmem⟩ := hresult' hr
        exact ⟨n, streamEnded, hstream ▸ hn, List.mem_append_right _ hmem⟩
    · rcases h'.accepted with heq' | ⟨hpending', -⟩
      · rw [heq']
        refine .inr ⟨hpending, hdone, hsome, ?_⟩
        intro hr
        obtain ⟨n, streamEnded, hn, hmem⟩ := hresult hr
        exact ⟨n, streamEnded, hn, List.mem_append_left _ hmem⟩
      · exact absurd hpending' hdone
  · intro effect heffect
    rcases List.mem_append.mp heffect with heffect | heffect
    · obtain ⟨hin, hclose | ⟨n, payload, heq, hn, hmem⟩⟩ := h.effects effect heffect
      · exact ⟨hin, .inl hclose⟩
      · exact ⟨hin, .inr ⟨n, payload, heq, hn, List.mem_append_left _ hmem⟩⟩
    · obtain ⟨hin, hclose | ⟨n, payload, heq, hn, hmem⟩⟩ := h'.effects effect heffect
      · exact ⟨hinner ▸ hin, .inl hclose⟩
      · exact ⟨hinner ▸ hin, .inr ⟨n, payload, heq, hstream ▸ hn, List.mem_append_right _ hmem⟩⟩

theorem told_of_handleMessages (messages : List Message) (c : Client) :
    Told messages c (c.handleMessages messages).1 (c.handleMessages messages).2.1 := by
  induction messages generalizing c with
  | nil => exact .refl _ _
  | cons message messages ih =>
      unfold Client.handleMessages
      cases h : c.handleMessage message with
      | none => exact .refl _ _
      | some next =>
          obtain ⟨c', effects⟩ := next
          exact (told_of_handleMessage h).trans (ih c')

/-- What an event does to the client. -/
structure Received (event : Event) (c c' : Client) (effects : List Effect) : Prop where
  stream : c'.stream = c.stream
  inner : c'.inner = c.inner
  settings : c'.receivedSettings = c.receivedSettings.or event.settings
  failed : c'.failed = (c.failed || event.interrupts)
  ready : c.settingsReady = true ∨ event.interrupts = true → c'.settingsReady = true
  disconnected : c'.disconnected = true →
    c.disconnected = true ∨ event.kind = .connectionTerminated
  handshake : c.handshake = true ∨ event.kind = .connectionTerminated → c'.handshake = true
  resolved : event.interrupts = true → c'.accepted ≠ some .pending
  accepted : c'.accepted = c.accepted ∨ c.accepted = some .pending ∧
    c'.accepted ≠ some .pending ∧ c'.accepted ≠ none ∧
    (c'.accepted = some .result → ∃ n streamEnded, c.stream = some n ∧
      .headersReceived n (.code 200) true streamEnded ∈ event.messages)
  effects : ∀ effect ∈ effects, c.inner = true ∧ (effect = .closeInner ∨
    ∃ n payload, effect = .deliver payload ∧ c.stream = some n ∧
      .datagramReceived n (0 :: payload) ∈ event.messages)

theorem verified_cases (c : Client) (event : Event) :
    ∃ handshake disconnected, c.verified event = { c with handshake, disconnected } ∧
      (c.handshake = true ∨ event.kind = .connectionTerminated → handshake = true) ∧
      (disconnected = true → c.disconnected = true ∨ event.kind = .connectionTerminated) := by
  unfold Client.verified
  cases event.kind with
  | handshakeCompleted => exact ⟨true, c.disconnected, rfl, fun _ => rfl, .inl⟩
  | connectionTerminated => exact ⟨true, true, rfl, fun _ => rfl, fun _ => .inr rfl⟩
  | streamReset => exact ⟨c.handshake, c.disconnected, rfl, by simp, .inl⟩
  | other => exact ⟨c.handshake, c.disconnected, rfl, by simp, .inl⟩

theorem interrupt_cases (c : Client) :
    ∃ accepted, c.interrupt = { c with failed := true, settingsReady := true, accepted } ∧
      accepted ≠ some .pending ∧ (accepted = c.accepted ∨
        c.accepted = some .pending ∧ accepted ≠ none ∧ accepted ≠ some .result) := by
  unfold Client.interrupt Client.resolve
  split
  · next haccepted =>
      have hexception (error : Http3Error) : Future.exception error ≠ .pending ∧
          Future.exception error ≠ .result := ⟨Future.noConfusion, Future.noConfusion⟩
      exact ⟨_, rfl, fun h => (hexception _).1 (Option.some.inj h),
        .inr ⟨haccepted, Option.some_ne_none _, fun h => (hexception _).2 (Option.some.inj h)⟩⟩
  · next haccepted => exact ⟨c.accepted, rfl, haccepted, .inl rfl⟩

/-- What the messages of an event do, and `settings_ready`, after what the event itself has done. -/
theorem Received.of_told {event : Event} {c c₁ c₂ c' : Client} {closes effects : List Effect}
    (h : Received event c c₁ closes) (htold : Told event.messages c₁ c₂ effects)
    (hready : c' = c₂ ∨ c' = { c₂ with settingsReady := true }) :
    Received event c c' (closes ++ effects) := by
  have hstream : c₁.stream = c.stream := h.stream
  have hinner : c₁.inner = c.inner := h.inner
  have hkept : c' = { c₁ with settingsReady := c'.settingsReady, accepted := c₂.accepted } := by
    rcases hready with rfl | rfl <;> rw [htold.kept]
  have hset : c₁.settingsReady = true → c'.settingsReady = true := by
    rcases hready with rfl | rfl
    · rw [htold.kept]
      exact id
    · exact fun _ => rfl
  rw [hkept]
  refine ⟨hstream, hinner, h.settings, h.failed, fun hr => hset (h.ready hr), h.disconnected,
    h.handshake, ?_, ?_, ?_⟩
  · intro hint
    rcases htold.accepted with heq | ⟨-, hdone, -⟩
    · exact heq ▸ h.resolved hint
    · exact hdone
  · rcases htold.accepted with heq | ⟨hpending, hdone, hsome, hresult⟩
    · exact heq ▸ h.accepted
    · rcases h.accepted with heq | ⟨-, hdone', -⟩
      · exact .inr ⟨heq ▸ hpending, hdone, hsome, fun hr => hstream ▸ hresult hr⟩
      · exact absurd hpending hdone'
  · intro effect heffect
    rcases List.mem_append.mp heffect with heffect | heffect
    · exact h.effects effect heffect
    · exact hstream ▸ hinner ▸ htold.effects effect heffect

theorem received_of_quicEventReceived (c : Client) (event : Event) :
    Received event c (c.quicEventReceived event).1 (c.quicEventReceived event).2 := by
  obtain ⟨handshake, disconnected, hverified, hset, hgone⟩ := verified_cases c event
  simp only [Client.quicEventReceived, hverified]
  -- what the event does before its messages are looked at
  cases hint : event.interrupts with
  | false =>
      have h : Received event c
          { c with
            handshake, disconnected, receivedSettings := c.receivedSettings.or event.settings } [] :=
        ⟨rfl, rfl, rfl, by simp [hint], by simp [hint], hgone, hset, by simp [hint], .inl rfl,
          fun _ heffect => absurd heffect List.not_mem_nil⟩
      have hreceived := fun (c' : Client) (hready : c' = _ ∨ c' = _) =>
        h.of_told (told_of_handleMessages _ _) hready
      simp only [Bool.false_eq_true, if_false]
      split
      · exact hreceived _ (.inr rfl)
      · exact hreceived _ (.inl rfl)
  | true =>
      obtain ⟨accepted, hinterrupt, hdone, haccepted⟩ :=
        interrupt_cases { c with handshake, disconnected }
      have h : Received event c
          { c with
            handshake, disconnected, accepted, failed := true, settingsReady := true
            receivedSettings := c.receivedSettings.or event.settings }
          c.closeInner :=
        ⟨rfl, rfl, rfl, by simp [hint], fun _ => rfl, hgone, hset, fun _ => hdone,
          haccepted.imp id fun ⟨hpending, hsome, hresult⟩ =>
            ⟨hpending, hdone, hsome, fun h => absurd h hresult⟩,
          told_closeInner _⟩
      have hreceived := fun (c' : Client) (hready : c' = _ ∨ c' = _) =>
        h.of_told (told_of_handleMessages _ _) hready
      simp only [if_true, hinterrupt]
      split
      · exact hreceived _ (.inr rfl)
      · exact hreceived _ (.inl rfl)

/-! ### Everything that is done is permitted -/

/-- What was done has been permitted each time. -/
def Lawful (target : Target) (log : List Entry) : Prop :=
  ∀ before effect after, log = before ++ .effect effect :: after → Permitted target before effect

theorem Lawful.other {target : Target} {log : List Entry} (h : Lawful target log) {entry : Entry}
    (hentry : ∀ effect, entry ≠ .effect effect) : Lawful target (log ++ [entry]) := by
  intro before effect after heq
  rcases List.eq_nil_or_concat after with rfl | ⟨after, last, rfl⟩
  · exact absurd (List.cons.inj (List.append_inj' heq rfl).2).1 (hentry effect)
  · rw [List.concat_eq_append, ← List.cons_append, ← List.append_assoc] at heq
    exact h before effect after (List.append_inj' heq rfl).1

theorem Lawful.effects {target : Target} {log : List Entry} {effects : List Effect}
    (h : Lawful target log)
    (hpermitted : ∀ done effect rest, effects = done ++ effect :: rest →
      Permitted target (log ++ done.map .effect) effect) :
    Lawful target (log ++ effects.map .effect) := by
  intro before effect after heq
  rcases List.append_eq_append_iff.mp heq with ⟨done, rfl, hdone⟩ | ⟨more, rfl, hmore⟩
  · obtain ⟨left, right, rfl, rfl, hright⟩ := List.map_eq_append_iff.mp hdone
    obtain ⟨effect', rest, rfl, heffect, rfl⟩ := List.map_eq_cons_iff.mp hright
    cases heffect
    exact hpermitted left effect rest rfl
  · cases more with
    | nil =>
        obtain ⟨effect', rest, rfl, heffect, rfl⟩ := List.map_eq_cons_iff.mp hmore.symm
        cases heffect
        rw [List.append_nil] at h
        simpa using hpermitted [] effect rest rfl
    | cons entry more =>
        obtain ⟨rfl, rfl⟩ := List.cons.inj hmore
        exact h before effect more rfl

/-- What holds after every run. -/
structure Inv (target : Target) (s : State) : Prop where
  lawful : Lawful target s.log
  settings : ∀ settings, s.client.receivedSettings = some settings →
    ∃ event, .event event ∈ s.log ∧ event.settings = some settings
  failed : s.client.failed = false → ∀ event, .event event ∈ s.log → event.interrupts = false
  early : s.stage = .connecting ∨ s.stage = .settings →
    s.client.stream = none ∧ s.client.accepted = none ∧
      ∀ stream headers, .effect (.sendHeaders stream headers) ∉ s.log
  requested : ∀ n, s.client.stream = some n → Requested n s.log
  accepted : s.client.accepted = some .result →
    ∃ n, s.client.stream = some n ∧ Accepted n s.log
  made : s.innerMade = true → s.client.accepted = some .result ∧
    s.stage ≠ .connecting ∧ s.stage ≠ .settings ∧ s.stage ≠ .accepting
  inner : s.client.inner = true → s.innerMade = true
  resolved : s.client.failed = true →
    s.client.settingsReady = true ∧ s.client.accepted ≠ some .pending
  disconnected : s.client.disconnected = true →
    s.client.failed = true ∧ s.client.handshake = true
  asked : s.stage = .accepting → s.client.accepted ≠ none
  inside : s.stage = .innerConnecting ∨ s.stage = .running → s.innerMade = true
  yielded : s.stage = .running → .effect .yield ∈ s.log
  handshaken : s.innerHandshake = true → ∃ disconnected, .inner disconnected ∈ s.log
  terminated : .inner true ∈ s.log → s.innerDisconnected = true
  closedOuter : s.stage = .closingOuter ∨ s.stage = .ended → .effect .closeOuter ∈ s.log
  closedInner : s.innerMade = true →
    s.stage = .closingInner ∨ s.stage = .closingOuter ∨ s.stage = .ended →
      .effect .closeInner ∈ s.log

theorem inv_init (target : Target) : Inv target State.init := by
  have hlawful : Lawful target [] := by
    intro before effect after h
    cases before <;> cases h
  constructor <;> simp [State.init, Client.new, hlawful]

namespace Inv

variable {target : Target} {s s' : State}

/-- What is sent into the tunnel, and what comes out of it, goes through a tunnel that the proxy has
accepted. -/
theorem accepted_of_made (h : Inv target s) (hmade : s.innerMade = true) {n : Nat}
    (hstream : s.client.stream = some n) : Accepted n s.log := by
  obtain ⟨n', hn', haccepted⟩ := h.accepted (h.made hmade).1
  exact Option.some.inj (hn'.symm.trans hstream) ▸ haccepted

theorem received (h : Inv target s) {event : Event} {c' : Client} {effects : List Effect}
    (hr : Received event s.client c' effects) :
    Inv target { s with
      client := c', log := (s.log ++ [Entry.event event]) ++ effects.map Entry.effect } := by
  have hmem {entry : Entry} (hentry : entry ∈ s.log) :
      entry ∈ (s.log ++ [Entry.event event]) ++ effects.map Entry.effect :=
    List.mem_append_left _ (List.mem_append_left _ hentry)
  have hevent : Entry.event event ∈ (s.log ++ [Entry.event event]) ++ effects.map Entry.effect :=
    List.mem_append_left _ (List.mem_append_right _ (List.mem_singleton_self _))
  have hevents {event' : Event}
      (h' : .event event' ∈ (s.log ++ [Entry.event event]) ++ effects.map Entry.effect) :
      .event event' ∈ s.log ∨ event' = event := by
    simpa using h'
  refine ⟨?_, ?_, ?_, ?_, ?_, ?_, ?_, ?_, ?_, ?_, ?_, h.inside, ?_, ?_, ?_, ?_, ?_⟩
  · refine (h.lawful.other fun _ => Entry.noConfusion).effects ?_
    intro done effect rest heq
    have heffect : effect ∈ effects := by simp [heq]
    obtain ⟨hin, rfl | ⟨n, payload, rfl, hn, hm⟩⟩ := hr.effects effect heffect
    · trivial
    · exact ⟨s.log, event, done, n, List.append_cons .. |>.symm, h.accepted_of_made (h.inner hin) hn, hm⟩
  · intro settings hsettings
    rw [show c'.receivedSettings = _ from hr.settings, Option.or_eq_some_iff] at hsettings
    rcases hsettings with hold | ⟨-, hnew⟩
    · obtain ⟨event', hlogged, heq⟩ := h.settings settings hold
      exact ⟨event', hmem hlogged, heq⟩
    · exact ⟨event, hevent, hnew⟩
  · intro hfailed event' hlogged
    rw [show c'.failed = _ from hr.failed, Bool.or_eq_false_iff] at hfailed
    rcases hevents hlogged with hlogged | rfl
    · exact h.failed hfailed.1 event' hlogged
    · exact hfailed.2
  · intro hstage
    obtain ⟨hstream, haccepted, hsent⟩ := h.early hstage
    refine ⟨hr.stream.trans hstream, ?_, ?_⟩
    · rcases hr.accepted with heq | ⟨hpending, -⟩
      · exact heq.trans haccepted
      · cases haccepted.symm.trans hpending
    · intro stream headers hlogged
      rcases List.mem_append.mp hlogged with hlogged | hlogged
      · exact hsent stream headers (by simpa using hlogged)
      · obtain ⟨effect, heffect, heq⟩ := List.mem_map.mp hlogged
        obtain ⟨-, rfl | ⟨n, payload, rfl, -⟩⟩ := hr.effects effect heffect <;> cases heq
  · intro n hn
    exact ((h.requested n (hr.stream ▸ hn)).append _).append _
  · intro hresult
    rcases hr.accepted with heq | ⟨hpending, -, -, hnew⟩
    · obtain ⟨n, hn, haccepted⟩ := h.accepted (heq ▸ hresult)
      exact ⟨n, hr.stream.trans hn, (haccepted.append _).append _⟩
    · obtain ⟨n, streamEnded, hn, hm⟩ := hnew hresult
      exact ⟨n, hr.stream.trans hn, s.log, event, effects.map .effect, streamEnded,
        List.append_cons .. |>.symm, h.requested n hn, hm⟩
  · intro hmade
    obtain ⟨hresult, hstage⟩ := h.made hmade
    rcases hr.accepted with heq | ⟨hpending, -⟩
    · exact ⟨heq.trans hresult, hstage⟩
    · cases hresult.symm.trans hpending
  · intro hin
    exact h.inner (hr.inner ▸ hin)
  · intro hfailed
    rw [show c'.failed = _ from hr.failed, Bool.or_eq_true] at hfailed
    rcases hfailed with hfailed | hint
    · obtain ⟨hready, hdone⟩ := h.resolved hfailed
      refine ⟨hr.ready (.inl hready), ?_⟩
      rcases hr.accepted with heq | ⟨hpending, -⟩
      · exact heq ▸ hdone
      · exact absurd hpending hdone
    · exact ⟨hr.ready (.inr hint), hr.resolved hint⟩
  · intro hgone
    rcases hr.disconnected hgone with hgone | hkind
    · obtain ⟨hfailed, hhandshake⟩ := h.disconnected hgone
      exact ⟨hr.failed.trans (by rw [hfailed, Bool.true_or]), hr.handshake (.inl hhandshake)⟩
    · have hint : event.interrupts = true := by simp [Event.interrupts, hkind]
      exact ⟨hr.failed.trans (by rw [hint, Bool.or_true]), hr.handshake (.inr hkind)⟩
  · intro hstage
    rcases hr.accepted with heq | ⟨-, -, hsome, -⟩
    · exact heq ▸ h.asked hstage
    · exact hsome
  · exact fun hstage => hmem (h.yielded hstage)
  · intro hhandshake
    obtain ⟨disconnected, hlogged⟩ := h.handshaken hhandshake
    exact ⟨disconnected, hmem hlogged⟩
  · exact fun hlogged => h.terminated (by simpa using hlogged)
  · exact fun hstage => hmem (h.closedOuter hstage)
  · exact fun hmade hstage => hmem (h.closedInner hmade hstage)

/-- Something is done that is not the request for the tunnel. -/
theorem logged (h : Inv target s) {effect : Effect} (hpermitted : Permitted target s.log effect)
    (hother : ∀ stream headers, effect ≠ .sendHeaders stream headers) :
    Inv target (s.perform [effect]) := by
  have hmem {entry : Entry} (hentry : entry ∈ s.log) : entry ∈ (s.perform [effect]).log :=
    List.mem_append_left _ hentry
  have hold {entry : Entry} (hentry : entry ∈ (s.perform [effect]).log)
      (hne : entry ≠ .effect effect) : entry ∈ s.log := by
    rcases List.mem_append.mp hentry with hentry | hentry
    · exact hentry
    · exact absurd (List.mem_singleton.mp hentry) hne
  refine { h with lawful := ?_, settings := ?_, failed := ?_, early := ?_, requested := ?_,
                  accepted := ?_, yielded := ?_, handshaken := ?_, terminated := ?_
                  closedOuter := ?_, closedInner := ?_ }
  · refine h.lawful.effects fun done effect' rest heq => ?_
    cases done with
    | nil =>
        obtain ⟨rfl, -⟩ := List.cons.inj heq
        simpa using hpermitted
    | cons first done => simp at heq
  · intro settings hsettings
    obtain ⟨event, hlogged, heq⟩ := h.settings settings hsettings
    exact ⟨event, hmem hlogged, heq⟩
  · exact fun hfailed event hlogged => h.failed hfailed event (hold hlogged Entry.noConfusion)
  · intro hstage
    obtain ⟨hstream, haccepted, hsent⟩ := h.early hstage
    refine ⟨hstream, haccepted, fun stream headers hlogged => hsent stream headers (hold hlogged ?_)⟩
    exact fun heq => hother stream headers (Entry.effect.inj heq).symm
  · exact fun n hn => (h.requested n hn).append _
  · intro hresult
    obtain ⟨n, hn, haccepted⟩ := h.accepted hresult
    exact ⟨n, hn, haccepted.append _⟩
  · exact fun hstage => hmem (h.yielded hstage)
  · intro hhandshake
    obtain ⟨disconnected, hlogged⟩ := h.handshaken hhandshake
    exact ⟨disconnected, hmem hlogged⟩
  · exact fun hlogged => h.terminated (hold hlogged Entry.noConfusion)
  · exact fun hstage => hmem (h.closedOuter hstage)
  · exact fun hmade hstage => hmem (h.closedInner hmade hstage)

/-- The inner connection reports an event. -/
theorem innerEvent (h : Inv target s) (disconnected : Bool) :
    Inv target { s with
      innerHandshake := true, innerDisconnected := s.innerDisconnected || disconnected
      log := s.log ++ [.inner disconnected] } := by
  have hmem {entry : Entry} (hentry : entry ∈ s.log) : entry ∈ s.log ++ [.inner disconnected] :=
    List.mem_append_left _ hentry
  have hold {entry : Entry} (hentry : entry ∈ s.log ++ [.inner disconnected])
      (hne : entry ≠ .inner disconnected) : entry ∈ s.log := by
    rcases List.mem_append.mp hentry with hentry | hentry
    · exact hentry
    · exact absurd (List.mem_singleton.mp hentry) hne
  refine { h with lawful := h.lawful.other fun _ => Entry.noConfusion, settings := ?_, failed := ?_
                  early := ?_, requested := ?_, accepted := ?_, yielded := ?_, handshaken := ?_
                  terminated := ?_, closedOuter := ?_, closedInner := ?_ }
  · intro settings hsettings
    obtain ⟨event, hlogged, heq⟩ := h.settings settings hsettings
    exact ⟨event, hmem hlogged, heq⟩
  · exact fun hfailed event hlogged => h.failed hfailed event (hold hlogged Entry.noConfusion)
  · intro hstage
    obtain ⟨hstream, haccepted, hsent⟩ := h.early hstage
    exact ⟨hstream, haccepted, fun stream headers hlogged =>
      hsent stream headers (hold hlogged Entry.noConfusion)⟩
  · exact fun n hn => (h.requested n hn).append _
  · intro hresult
    obtain ⟨n, hn, haccepted⟩ := h.accepted hresult
    exact ⟨n, hn, haccepted.append _⟩
  · exact fun hstage => hmem (h.yielded hstage)
  · exact fun _ => ⟨disconnected, List.mem_append_right _ (List.mem_singleton_self _)⟩
  · intro hlogged
    rw [Bool.or_eq_true]
    rcases List.mem_append.mp hlogged with hlogged | hlogged
    · exact .inl (h.terminated hlogged)
    · exact .inr (Entry.inner.inj (List.mem_singleton.mp hlogged)).symm
  · exact fun hstage => hmem (h.closedOuter hstage)
  · exact fun hmade hstage => hmem (h.closedInner hmade hstage)

/-- The coroutine comes to a stage after the request. -/
theorem later (h : Inv target s) {stage : Stage}
    (hlater : stage ≠ .connecting ∧ stage ≠ .settings ∧ stage ≠ .accepting)
    (hinside : stage = .innerConnecting ∨ stage = .running →
      s.innerMade = true ∧ .effect .yield ∈ s.log)
    (hend : stage = .closingOuter ∨ stage = .ended → .effect .closeOuter ∈ s.log)
    (hinner : s.innerMade = true → stage = .closingInner ∨ stage = .closingOuter ∨ stage = .ended →
      .effect .closeInner ∈ s.log) :
    Inv target { s with stage } :=
  { h with
    early := fun hstage => (hstage.elim hlater.1 hlater.2.1).elim
    made := fun hmade => ⟨(h.made hmade).1, hlater⟩
    asked := fun hstage => absurd hstage hlater.2.2
    inside := fun hstage => (hinside hstage).1
    yielded := fun hstage => (hinside (.inr hstage)).2
    closedOuter := hend
    closedInner := hinner }

theorem closeOuter (h : Inv target s)
    (hinner : s.innerMade = true → .effect .closeInner ∈ s.log) : Inv target s.closeOuter := by
  have hlogged : Inv target (s.perform [.closeOuter]) :=
    h.logged trivial fun _ _ => Effect.noConfusion
  exact hlogged.later (by simp) (by simp)
    (fun _ => List.mem_append_right _ (List.mem_singleton_self _))
    (fun hmade _ => List.mem_append_left _ (hinner hmade))

theorem closeInner (h : Inv target s) : Inv target s.closeInner := by
  have hlogged : Inv target (s.perform [.closeInner]) :=
    h.logged trivial fun _ _ => Effect.noConfusion
  exact hlogged.later (by simp) (by simp) (by simp)
    (fun _ _ => List.mem_append_right _ (List.mem_singleton_self _))

theorem raise (h : Inv target s) (error : Http3Error) : Inv target (s.raise error) := { h with }

/-- The request is sent: the proxy has the settings, and the connection has not failed. -/
theorem request (h : Inv target s) {stream : Nat} (hstage : s.stage = .settings)
    (hfailed : s.client.failed = false) (hoffers : State.Offers s.client.receivedSettings) :
    Inv target (State.perform
      { s with
        client := { s.client with stream := some stream, accepted := some .pending }
        stage := .accepting }
      [.sendHeaders stream target.headers]) := by
  obtain ⟨-, -, hsent⟩ := h.early (.inr hstage)
  obtain ⟨settings, hsettings, hboth⟩ := hoffers
  obtain ⟨event, hlogged, hevent⟩ := h.settings settings hsettings
  have hmade : s.innerMade = true → False := fun hmade => (h.made hmade).2.2.1 hstage
  refine ⟨?_, ?_, ?_, ?_, ?_, ?_, ?_, ?_, ?_, ?_, ?_, ?_, Stage.noConfusion, ?_, ?_, ?_, ?_⟩
  · refine h.lawful.effects fun done effect' rest heq => ?_
    cases done with
    | nil =>
        obtain ⟨rfl, -⟩ := List.cons.inj heq
        rw [List.map_nil, List.append_nil]
        exact ⟨rfl, ⟨event, hlogged, settings, hevent, hboth⟩, h.failed hfailed, hsent⟩
    | cons first done => simp at heq
  · intro settings hsettings
    obtain ⟨event, hlogged, heq⟩ := h.settings settings hsettings
    exact ⟨event, List.mem_append_left _ hlogged, heq⟩
  · intro _ event hlogged
    rcases List.mem_append.mp hlogged with hlogged | hlogged
    · exact h.failed hfailed event hlogged
    · cases List.mem_singleton.mp hlogged
  · exact fun hstage => hstage.elim Stage.noConfusion Stage.noConfusion
  · intro n hn
    obtain rfl := Option.some.inj hn
    exact ⟨target.headers, List.mem_append_right _ (List.mem_singleton_self _)⟩
  · exact fun hresult => Future.noConfusion (Option.some.inj hresult)
  · exact fun hm => (hmade hm).elim
  · exact fun hin => (hmade (h.inner hin)).elim
  · exact fun hf => by cases hfailed.symm.trans hf
  · exact h.disconnected
  · exact fun _ => Option.some_ne_none _
  · exact fun hstage => hstage.elim Stage.noConfusion Stage.noConfusion
  · intro hhandshake
    obtain ⟨disconnected, hlogged⟩ := h.handshaken hhandshake
    exact ⟨disconnected, List.mem_append_left _ hlogged⟩
  · exact fun hlogged => h.terminated (by simpa [State.perform] using hlogged)
  · exact fun hstage => hstage.elim Stage.noConfusion Stage.noConfusion
  · exact fun hm => (hmade hm).elim

/-- The tunnel is accepted, and the inner client has its transport. -/
theorem connectInner (h : Inv target s) 
    (haccepted : s.client.accepted = some .result) :
    Inv target { s with
      client := { s.client with inner := true }, stage := .innerConnecting, innerMade := true } := by
  refine { h with early := ?_, made := ?_, inner := ?_, asked := ?_, inside := ?_, yielded := ?_,
                  closedOuter := ?_, closedInner := ?_ }
  · exact fun hstage => hstage.elim Stage.noConfusion Stage.noConfusion
  · exact fun _ => ⟨haccepted, by simp⟩
  · exact fun _ => rfl
  · exact Stage.noConfusion
  · exact fun _ => rfl
  · exact Stage.noConfusion
  · exact fun hstage => hstage.elim Stage.noConfusion Stage.noConfusion
  · exact fun _ hstage => by rcases hstage with hstage | hstage | hstage <;> cases hstage

/-- The caller gets the inner client: its handshake is complete, and it is not terminated. -/
theorem yield (h : Inv target s) (hstage : s.stage = .innerConnecting)
    (hhandshake : s.innerHandshake = true) (hconnected : ¬ s.innerDisconnected = true) :
    Inv target ({ s with stage := .running }.perform [.yield]) := by
  have hmade := h.inside (.inl hstage)
  have hterminated : Entry.inner true ∉ s.log := fun hlogged => hconnected (h.terminated hlogged)
  have hpermitted : Permitted target s.log .yield := by
    obtain ⟨n, -, haccepted⟩ := h.accepted (h.made hmade).1
    obtain ⟨disconnected, hlogged⟩ := h.handshaken hhandshake
    cases disconnected with
    | false => exact ⟨⟨n, haccepted⟩, hlogged, hterminated⟩
    | true => exact absurd hlogged hterminated
  have hlogged : Inv target (s.perform [.yield]) := h.logged hpermitted fun _ _ => Effect.noConfusion
  exact hlogged.later (by simp)
    (fun _ => ⟨hmade, List.mem_append_right _ (List.mem_singleton_self _)⟩) (by simp) (by simp)

theorem resumed (h : Inv target s) {stream : Nat} (hs : s.resume target stream = some s') :
    Inv target s' := by
  have hearly (hstage : s.stage = .connecting ∨ s.stage = .settings ∨ s.stage = .accepting)
      (error : Http3Error) : Inv target (s.raise error).closeOuter := by
    refine (h.raise error).closeOuter fun hmade => ?_
    obtain ⟨-, h₁, h₂, h₃⟩ := h.made hmade
    exact (hstage.elim h₁ fun hstage => hstage.elim h₂ h₃).elim
  unfold State.resume at hs
  split at hs
  · next hstage =>
      split at hs
      · split at hs
        · exact Option.some.inj hs ▸ hearly (.inl hstage) _
        · rw [← Option.some.inj hs]
          exact { h with
            early := fun _ => h.early (.inl hstage)
            made := fun hmade => absurd hstage (h.made hmade).2.1
            asked := fun h => by cases h
            inside := fun h => by rcases h with h | h <;> cases h
            yielded := fun h => by cases h
            closedOuter := fun h => by rcases h with h | h <;> cases h
            closedInner := fun hmade => absurd hstage (h.made hmade).2.1 }
      · cases hs
  · next hstage =>
      split at hs
      · split at hs
        · exact Option.some.inj hs ▸ hearly (.inr (.inl hstage)) _
        · next hgood =>
            rw [not_or, Bool.not_eq_true, not_not] at hgood
            exact Option.some.inj hs ▸ h.request hstage hgood.1 hgood.2
      · cases hs
  · next hstage =>
      split at hs
      · next haccepted => exact Option.some.inj hs ▸ h.connectInner haccepted
      · exact Option.some.inj hs ▸ hearly (.inr (.inr hstage)) _
      · cases hs
  · next hstage =>
      split at hs
      · next hhandshake =>
          split at hs
          · exact Option.some.inj hs ▸ (h.raise _).closeInner
          · next hconnected => exact Option.some.inj hs ▸ h.yield hstage hhandshake hconnected
      · cases hs
  · next hstage =>
      rw [← Option.some.inj hs]
      have hforgotten : Inv target { s with client := { s.client with inner := false } } :=
        { h with inner := fun h => by cases h }
      exact hforgotten.closeOuter fun hmade => h.closedInner hmade (.inl hstage)
  · next hstage =>
      split at hs
      · rw [← Option.some.inj hs]
        exact h.later (by simp) (by simp) (fun _ => h.closedOuter (.inl hstage))
          fun hmade _ => h.closedInner hmade (.inr (.inl hstage))
      · cases hs
  · cases hs
  · cases hs

theorem interrupted (h : Inv target s) (hs : s.step target .interrupt = some s') :
    Inv target s' := by
  simp only [State.step] at hs
  split at hs
  · next hstage =>
      exact Option.some.inj hs ▸ h.closeOuter fun hmade => absurd hstage (h.made hmade).2.1
  · next hstage =>
      exact Option.some.inj hs ▸ h.closeOuter fun hmade => absurd hstage (h.made hmade).2.2.1
  · next hstage =>
      exact Option.some.inj hs ▸ h.closeOuter fun hmade => absurd hstage (h.made hmade).2.2.2
  · exact Option.some.inj hs ▸ h.closeInner
  · next hstage =>
      exact Option.some.inj hs ▸ h.closeOuter fun hmade => h.closedInner hmade (.inl hstage)
  · next hstage =>
      rw [← Option.some.inj hs]
      exact h.later (by simp) (by simp) (fun _ => h.closedOuter (.inl hstage))
        fun hmade _ => h.closedInner hmade (.inr (.inl hstage))
  · cases hs
  · cases hs

theorem step (h : Inv target s) {action : Action} (hs : s.step target action = some s') :
    Inv target s' := by
  cases action with
  | event event =>
      exact Option.some.inj hs ▸ h.received (received_of_quicEventReceived s.client event)
  | resume stream => exact h.resumed hs
  | leave =>
      simp only [State.step] at hs
      split at hs
      · exact Option.some.inj hs ▸ h.closeInner
      · cases hs
  | interrupt => exact h.interrupted hs
  | innerHandshake disconnected =>
      simp only [State.step] at hs
      split at hs
      · exact Option.some.inj hs ▸ h.innerEvent disconnected
      · cases hs
  | innerSends data =>
      simp only [State.step] at hs
      split at hs
      · next hmade =>
          obtain ⟨n, hn, haccepted⟩ := h.accepted (h.made hmade).1
          rw [← Option.some.inj hs]
          exact h.logged ⟨n, data, hn, rfl, haccepted⟩ fun _ _ => Effect.noConfusion
      · cases hs

end Inv

/-- What `http3_client` awaits of the outer connection comes when that connection is gone. -/
theorem Inv.resume_isSome {target : Target} {s : State} (h : Inv target s)
    (hgone : s.client.disconnected = true)
    (hstage : s.stage ≠ .innerConnecting ∧ s.stage ≠ .running ∧ s.stage ≠ .ended) (stream : Nat) :
    (s.resume target stream).isSome := by
  obtain ⟨hfailed, hhandshake⟩ := h.disconnected hgone
  obtain ⟨hready, hpending⟩ := h.resolved hfailed
  unfold State.resume
  cases heq : s.stage with
  | connecting => simp [hhandshake, hgone]
  | settings => simp [hready, hfailed]
  | accepting =>
      have hasked := h.asked heq
      cases haccepted : s.client.accepted with
      | none => exact absurd haccepted hasked
      | some future =>
          cases future with
          | pending => exact absurd haccepted hpending
          | result => simp
          | exception error => simp
  | innerConnecting => exact absurd heq hstage.1
  | running => exact absurd heq hstage.2.1
  | closingInner => simp
  | closingOuter => simp [hgone]
  | ended => exact absurd heq hstage.2.2

theorem inv_of_run {target : Target} {actions : List Action} {s : State}
    (hrun : run (State.step target) State.init actions = some s) : Inv target s :=
  run_induction (fun _ _ _ _ h hs => h.step hs) (inv_init target) hrun

/-- In every run, whatever the events of the two connections and their order:

* The credentials go out once, to a proxy that has said that it can open such tunnels, and not after
  the connection has failed. Packets go into the tunnel that the proxy has accepted, and only what
  comes out of this tunnel, with context id 0, gets to the inner client.
* `yield` is reached through an accepted tunnel, when the handshake of the inner connection has been
  completed and this connection has not been terminated.
* At the end the outer connection is closed, and the inner one too if there is one.
* When the outer connection is gone, `http3_client` does not go on waiting for it. -/
theorem masque_permitted {target : Target} {actions : List Action} {s : State}
    (hrun : run (State.step target) State.init actions = some s) :
    Lawful target s.log ∧
      (s.stage = .running → .effect .yield ∈ s.log) ∧
      (s.stage = .ended → .effect .closeOuter ∈ s.log ∧
        (s.innerMade = true → .effect .closeInner ∈ s.log)) ∧
      (s.client.disconnected = true →
        s.stage ≠ .innerConnecting ∧ s.stage ≠ .running ∧ s.stage ≠ .ended →
          ∀ stream, (s.resume target stream).isSome) := by
  have h := inv_of_run hrun
  refine ⟨h.lawful, h.yielded, ?_, ?_⟩
  · intro hstage
    exact ⟨h.closedOuter (.inr hstage), fun hmade => h.closedInner hmade (.inr (.inr hstage))⟩
  · exact fun hgone hlive stream => h.resume_isSome hgone hlive stream

/-- A tunnel is opened, a packet goes each way, and the proxy resets the stream. -/
theorem masque_permitted_reset :
    ∃ s : State, Lawful ⟨['p'], 443, ['u'], ['x']⟩ s.log ∧ s.stage = .ended ∧
      .effect (.deliver [7]) ∈ s.log ∧ .effect (.sendDatagram (some 0) [0, 9]) ∈ s.log ∧
      .effect .yield ∈ s.log ∧ .effect .closeInner ∈ s.log := by
  let actions : List Action := [
    .event ⟨.handshakeCompleted, [], none⟩, .resume 0,
    .event ⟨.other, [], some ⟨true, true⟩⟩, .resume 0,
    .event ⟨.other, [.headersReceived 0 (.code 200) true false], none⟩, .resume 0,
    .innerSends [9], .event ⟨.other, [.datagramReceived 0 [0, 7]], none⟩,
    .innerHandshake false, .resume 0, .event ⟨.streamReset, [], none⟩, .leave, .resume 0,
    .event ⟨.connectionTerminated, [], none⟩, .resume 0]
  have hany : (run (State.step ⟨['p'], 443, ['u'], ['x']⟩) State.init actions).any (fun s : State =>
      s.stage = .ended ∧ .effect (.deliver [7]) ∈ s.log ∧
        .effect (.sendDatagram (some 0) [0, 9]) ∈ s.log ∧
        .effect .yield ∈ s.log ∧ .effect .closeInner ∈ s.log) = true := by
    decide +kernel
  obtain ⟨s, hrun, hs⟩ := (Option.any_eq_true _ _).mp hany
  exact ⟨s, (masque_permitted hrun).1, of_decide_eq_true hs⟩

end PxManager.Speed.Masque
