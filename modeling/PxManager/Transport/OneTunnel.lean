import PxManager.Transport.ProxyRequest

/-!
# PxManager.Transport.OneTunnel

What `proxy_request` does with its tunnels, whatever its operations return or raise.

A `World` is what an observer of the operations knows: which tunnel is open and whether the proxy
has accepted the CONNECT request in it, whether QUIC was tried and has timed out, and what h11 has
made of the response. `Permitted` says when an operation is in place, and each part of the request
is shown to keep to that and to leave the world in a certain way.
-/

namespace PxManager.Transport

open PxManager.Core
open PxManager.Core.Coroutine
open PxManager.Health (Metadata)

/-! ### Observations -/

/-- The tunnel that is open. -/
inductive Channel
  | closed
  | quic (accepted : Bool)
  | tcp (accepted : Bool)
  deriving DecidableEq, Repr

/-- What an observer knows of a request. -/
structure World where
  channel : Channel
  quicTried : Bool
  quicTimedOut : Bool
  /-- The events of the connection to the target. -/
  events : List H11Event

/-- Before a request. -/
def World.new : World := ⟨.closed, false, false, []⟩

/-- The attempt over QUIC ends as with `TimeoutError`. -/
def isTimeout (e : RequestError) : Bool := e = .timeout ∨ e = .cancelled (some .quic)

namespace World

/-- The world after an operation. -/
def after (w : World) : (op : RequestOp) → Except RequestError op.Ans → World
  | .quicConnect _ _, .ok _ => { w with channel := .quic false, quicTried := true }
  | .quicConnect _ _, .error e => { w with quicTried := true, quicTimedOut := isTimeout e }
  | .quicOpen _ _, .ok _ => { w with channel := .quic true }
  | .quicOpen _ _, .error e => { w with quicTimedOut := isTimeout e }
  | .quicClose, _ => { w with channel := .closed }
  | .openConnection _ _ _, .ok _ => { w with channel := .tcp false }
  | .frames, .ok (some status, _) => if status = 200 then { w with channel := .tcp true } else w
  | .connectEvent, .ok (.response status _ _) =>
      if status = 200 then { w with channel := .tcp true } else w
  | .tcpClose, _ => { w with channel := .closed }
  | .nextEvent, .ok event => { w with events := w.events ++ [event] }
  | _, _ => w

/-- The proxy has accepted the CONNECT request in the open tunnel. -/
def Accepted (w : World) : Prop := w.channel = .quic true ∨ w.channel = .tcp true

end World

/-- When an operation is in place. -/
def Permitted (protocol : Protocol) (w : World) : RequestOp → Prop
  | .quicConnect _ _ => w.channel = .closed ∧ protocol ≠ .h2 ∧ w.quicTried = false
  | .quicOpen _ _ => w.channel = .quic false
  | .quicCertificate => w.channel = .quic true
  | .quicClose => ∃ accepted, w.channel = .quic accepted
  | .openConnection _ _ _ =>
      w.channel = .closed ∧ protocol ≠ .h3 ∧ (w.quicTried = true → w.quicTimedOut = true)
  | .selectedAlpnProtocol | .peer | .sendConnect _ _ | .frames | .connectEvent | .tunnelReceive
  | .connectData _ => w.channel = .tcp false
  | .tcpClose => ∃ accepted, w.channel = .tcp accepted
  | .wrapTls _ | .sendRequest _ _ _ | .sendEndOfMessage | .nextEvent | .tlsReceive
  | .receiveData _ => w.Accepted

/-! ### The response in the events -/

/-- The part of the body in an event. -/
def H11Event.payload : H11Event → Bytes
  | .data bytes => bytes
  | _ => []

/-- The status and the headers after an event. -/
def headAfter (head : Option ℤ × Dict String String) : H11Event → Option ℤ × Dict String String
  | .response status _ headers => (some status, headerDict headers)
  | _ => head

/-- The status and the headers of a response, by its events. -/
def headOf (events : List H11Event) : Option ℤ × Dict String String := events.foldl headAfter (none, ∅)

/-- The response ends with these events, and has been read to its end. -/
structure Completes (events : List H11Event) (response : Response) : Prop where
  intro ::
  ended : ∃ earlier, events = earlier ++ [.endOfMessage] ∧ .endOfMessage ∉ earlier ∧
    .connectionClosed ∉ earlier
  head : (response.status, response.headers) = headOf events
  body : response.body = strip (decodeReplace (events.flatMap H11Event.payload))
  short : (events.flatMap H11Event.payload).length ≤ maxBody

/-- What holds of a request that has ended. -/
def Closed (w : World) (outcome : Except RequestError Response) : Prop :=
  w.channel = .closed ∧ ∀ response, outcome = .ok response →
    Completes w.events response ∧ response.metadata.fallback = w.quicTimedOut

/-! ### `connect_tcp` -/

section Connect

variable {protocol : Protocol} {w : World}

/-- The answers that leave the world as it is. -/
theorem connectH2_turn {Q : Except RequestError (Unit ⊕ ℤ) → World → Prop}
    (hchannel : w.channel = .tcp false) (hnext : Q (.ok (.inl ())) w)
    (haccepted : Q (.ok (.inr 200)) { w with channel := .tcp true })
    (hrefused : ∀ status, status ≠ 200 → Q (.ok (.inr status)) w) (herror : ∀ e, Q (.error e) w) :
    (connectH2 ()).wp (watching World.after) (Permitted protocol) Q w := by
  refine wp_bind.mpr (wp_call_watching.mpr ⟨hchannel, fun answer => ?_⟩)
  cases answer with
  | error e => exact herror e
  | ok answer =>
      obtain ⟨status, ended⟩ := answer
      cases status with
      | none =>
          cases ended with
          | false => exact hnext
          | true => exact herror _
      | some status =>
          by_cases hstatus : status = 200
          · subst hstatus
            exact haccepted
          · have hafter : w.after .frames (.ok (some status, ended)) = w := if_neg hstatus
            rw [hafter]
            exact hrefused status hstatus

theorem connectH1_turn {Q : Except RequestError (Unit ⊕ ℤ × String) → World → Prop}
    (hchannel : w.channel = .tcp false) (hnext : Q (.ok (.inl ())) w)
    (haccepted : ∀ version, Q (.ok (.inr (200, version))) { w with channel := .tcp true })
    (hrefused : ∀ status version, status ≠ 200 → Q (.ok (.inr (status, version))) w)
    (herror : ∀ e, Q (.error e) w) :
    (connectH1 ()).wp (watching World.after) (Permitted protocol) Q w := by
  refine wp_bind.mpr (wp_call_watching.mpr ⟨hchannel, fun answer => ?_⟩)
  cases answer with
  | error e => exact herror e
  | ok event =>
      cases event with
      | response status version headers =>
          by_cases hstatus : status = 200
          · subst hstatus
            exact haccepted version
          · have hafter : w.after .connectEvent (.ok (.response status version headers)) = w :=
              if_neg hstatus
            rw [hafter]
            exact hrefused status version hstatus
      | needData =>
          refine wp_bind.mpr (wp_call_watching.mpr ⟨hchannel, fun data => ?_⟩)
          cases data with
          | error e => exact herror e
          | ok data =>
              refine wp_bind.mpr (wp_call_watching.mpr ⟨hchannel, fun answer => ?_⟩)
              cases answer with
              | error e => exact herror e
              | ok _ => exact hnext
      | connectionClosed => exact herror _
      | data bytes => exact hnext
      | endOfMessage => exact hnext
      | other => exact hnext

/-- The CONNECT request over TCP: the proxy has accepted it, or an exception is raised. -/
theorem wp_negotiate {turns : Nat} {target credentials : Text}
    {Q : Except RequestError Metadata → World → Prop} (hchannel : w.channel = .tcp false)
    (haccepted : ∀ metadata, Q (.ok metadata) { w with channel := .tcp true })
    (herror : ∀ e accepted, Q (.error e) { w with channel := .tcp accepted }) :
    (negotiate turns target credentials protocol).wp (watching World.after) (Permitted protocol) Q
      w := by
  have herror' : ∀ e, Q (.error e) w := by
    intro e
    have h := herror e false
    rwa [← hchannel] at h
  refine wp_bind.mpr (wp_call_watching.mpr ⟨hchannel, fun selected => ?_⟩)
  cases selected with
  | error e => exact herror' e
  | ok selected =>
      dsimp only
      split
      · exact herror' _
      refine wp_bind.mpr (wp_call_watching.mpr ⟨hchannel, fun tlsVersion => ?_⟩)
      cases tlsVersion with
      | error e => exact herror' e
      | ok tlsVersion =>
          refine wp_bind.mpr (wp_call_watching.mpr ⟨hchannel, fun sent => ?_⟩)
          cases sent with
          | error e => exact herror' e
          | ok _ =>
              dsimp only
              split
              · refine wp_bind.mpr (wp_loop (fun _ w' => w' = w) ?_ turns rfl)
                rintro _ _ rfl
                refine connectH2_turn hchannel rfl ?_ ?_ herror'
                · exact haccepted _
                · intro status hstatus
                  dsimp only
                  rw [if_pos hstatus]
                  exact herror' _
              · refine wp_bind.mpr (wp_loop (fun _ w' => w' = w) ?_ turns rfl)
                rintro _ _ rfl
                refine connectH1_turn hchannel rfl ?_ ?_ herror'
                · exact fun version => haccepted _
                · intro status version hstatus
                  dsimp only
                  rw [if_pos hstatus]
                  exact herror' _

/-- `connect_tcp` leaves a tunnel in which the proxy has accepted the CONNECT request, or none. -/
theorem wp_connectTcp {turns : Nat} {host : ProxyHost} {target credentials : Text}
    {Q : Except RequestError Metadata → World → Prop} (hchannel : w.channel = .closed)
    (hprotocol : protocol ≠ .h3) (hquic : w.quicTried = true → w.quicTimedOut = true)
    (haccepted : ∀ metadata, Q (.ok metadata) { w with channel := .tcp true })
    (herror : ∀ e, Q (.error e) w) :
    (connectTcp turns host target credentials protocol).wp (watching World.after)
      (Permitted protocol) Q w := by
  have hclosed : ({ w with channel := .closed } : World) = w := by rw [← hchannel]
  refine wp_bind.mpr (wp_call_watching.mpr ⟨⟨hchannel, hprotocol, hquic⟩, fun answer => ?_⟩)
  cases answer with
  | error e => exact herror e
  | ok _ =>
      refine wp_andThen.mpr (wp_negotiate rfl haccepted fun e accepted => ?_)
      refine wp_bind.mpr (wp_call_watching.mpr ⟨⟨accepted, rfl⟩, fun answer => ?_⟩)
      have hafter : ∀ answer, ({ w with channel := .tcp accepted } : World).after .tcpClose answer = w :=
        fun _ => hclosed
      cases answer with
      | error e' => exact (hafter (.error e')) ▸ herror e'
      | ok _ => exact (hafter (.ok ())) ▸ herror e

end Connect

/-! ### The request in a tunnel -/

section Response

variable {protocol : Protocol} {w : World}

/-- The response so far is what the events say. -/
structure Read (incoming : Incoming) (events : List H11Event) : Prop where
  head : (incoming.status, incoming.headers) = headOf events
  body : incoming.body = events.flatMap H11Event.payload
  short : incoming.body.length ≤ maxBody
  goesOn : .endOfMessage ∉ events ∧ .connectionClosed ∉ events

theorem headOf_append (events : List H11Event) (event : H11Event) :
    headOf (events ++ [event]) = headAfter (headOf events) event := by
  rw [headOf, List.foldl_append]
  rfl

/-- An event without a part of the response. -/
theorem Read.skip {incoming : Incoming} {events : List H11Event} (h : Read incoming events)
    {event : H11Event} (hhead : headAfter (headOf events) event = headOf events)
    (hpayload : event.payload = []) (hgoesOn : event ≠ .endOfMessage ∧ event ≠ .connectionClosed) :
    Read incoming (events ++ [event]) where
  head := by rw [headOf_append, hhead, h.head]
  body := by simp [h.body, hpayload]
  short := h.short
  goesOn := by simp [h.goesOn, hgoesOn.1.symm, hgoesOn.2.symm]

theorem Read.response {incoming : Incoming} {events : List H11Event} (h : Read incoming events)
    (status : ℤ) (version : String) (headers : List (String × String)) :
    Read { incoming with status := some status, headers := headerDict headers }
      (events ++ [.response status version headers]) where
  head := by
    rw [headOf_append]
    rfl
  body := by simp [h.body, H11Event.payload]
  short := h.short
  goesOn := by simp [h.goesOn]

theorem Read.data {incoming : Incoming} {events : List H11Event} (h : Read incoming events)
    {bytes : Bytes} (hshort : (incoming.body ++ bytes).length ≤ maxBody) :
    Read { incoming with body := incoming.body ++ bytes } (events ++ [.data bytes]) where
  head := by
    rw [headOf_append, h.head]
    rfl
  body := by simp [h.body, H11Event.payload]
  short := hshort
  goesOn := by simp [h.goesOn]

/-- One turn of the loop for the response. -/
theorem readResponse_turn {incoming : Incoming}
    {Q : Except RequestError (Incoming ⊕ Incoming) → World → Prop} (haccepted : w.Accepted)
    (hread : Read incoming w.events)
    (hnext : ∀ incoming' event, Read incoming' (w.events ++ [event]) →
      Q (.ok (.inl incoming')) { w with events := w.events ++ [event] })
    (hended : Q (.ok (.inr incoming)) { w with events := w.events ++ [.endOfMessage] })
    (herror : ∀ e events, Q (.error e) { w with events }) :
    (readResponse incoming).wp (watching World.after) (Permitted protocol) Q w := by
  refine wp_bind.mpr (wp_call_watching.mpr ⟨haccepted, fun answer => ?_⟩)
  cases answer with
  | error e => exact herror e w.events
  | ok event =>
      have hother : headAfter (headOf w.events) event = headOf w.events → event.payload = [] →
          event ≠ .endOfMessage ∧ event ≠ .connectionClosed →
          Q (.ok (.inl incoming)) { w with events := w.events ++ [event] } :=
        fun hhead hpayload hgoesOn => hnext _ event (hread.skip hhead hpayload hgoesOn)
      cases event with
      | needData =>
          refine wp_bind.mpr (wp_andThen.mpr (wp_call_watching.mpr ⟨haccepted, fun data => ?_⟩))
          have hreceive : ∀ data, ((call (RequestOp.receiveData data) : Requesting Unit) >>= fun _ =>
              (return .inl incoming : Requesting (Incoming ⊕ Incoming))).wp (watching World.after)
                (Permitted protocol) Q { w with events := w.events ++ [.needData] } := by
            intro data
            refine wp_bind.mpr (wp_call_watching.mpr ⟨haccepted, fun answer => ?_⟩)
            cases answer with
            | error e => exact herror e _
            | ok _ => exact hother rfl rfl ⟨by simp, by simp⟩
          cases data with
          | ok data => exact hreceive data
          | error e =>
              cases e with
              | endOfStream => exact hreceive []
              | _ => exact herror _ _
      | response status version headers => exact hnext _ _ (hread.response status version headers)
      | data bytes =>
          by_cases hlong : maxBody < (incoming.body ++ bytes).length
          · dsimp only
            rw [if_pos hlong]
            exact herror _ _
          · dsimp only
            rw [if_neg hlong]
            exact hnext _ _ (hread.data (Nat.not_lt.mp hlong))
      | endOfMessage => exact hended
      | connectionClosed => exact herror _ _
      | other => exact hother rfl rfl ⟨by simp, by simp⟩

/-- The request in a tunnel: a response is returned when it has ended. -/
theorem wp_requestIn {turns : Nat} {targetHost path method : String} {metadata : Metadata}
    {Q : Except RequestError Response → World → Prop} (haccepted : w.Accepted)
    (hevents : w.events = [])
    (hQ : ∀ outcome events, (∀ response, outcome = .ok response →
      Completes events response ∧ response.metadata = metadata) → Q outcome { w with events }) :
    (requestIn turns targetHost path method metadata).wp (watching World.after) (Permitted protocol)
      Q w := by
  have herror : ∀ e events, Q (.error e) { w with events } := by
    intro e events
    refine hQ _ events ?_
    intro response hresponse
    cases hresponse
  have hfailed : ∀ e, Q (.error e) w := fun e => herror e w.events
  refine wp_bind.mpr (wp_call_watching.mpr ⟨haccepted, fun answer => ?_⟩)
  cases answer with
  | error e => exact hfailed e
  | ok _ =>
  refine wp_bind.mpr (wp_call_watching.mpr ⟨haccepted, fun answer => ?_⟩)
  cases answer with
  | error e => exact hfailed e
  | ok _ =>
  refine wp_bind.mpr (wp_call_watching.mpr ⟨haccepted, fun answer => ?_⟩)
  cases answer with
  | error e => exact hfailed e
  | ok _ =>
      have hread : Read ⟨none, ∅, []⟩ w.events := by
        rw [hevents]
        exact ⟨rfl, rfl, Nat.zero_le _, by simp⟩
      refine wp_bind.mpr (wp_loop (fun incoming w' =>
        ∃ events, w' = { w with events } ∧ Read incoming events) ?_ turns ⟨w.events, rfl, hread⟩)
      rintro incoming _ ⟨events, rfl, hread⟩
      refine readResponse_turn haccepted hread ?_ ?_ ?_
      · intro incoming' event hnext
        exact ⟨_, rfl, hnext⟩
      · refine hQ _ _ ?_
        intro response hresponse
        cases hresponse
        have hpayload : (events ++ [H11Event.endOfMessage]).flatMap H11Event.payload =
            incoming.body := by
          rw [List.flatMap_append, ← hread.body]
          exact List.append_nil _
        refine ⟨⟨⟨events, rfl, hread.goesOn⟩, ?_, ?_, ?_⟩, rfl⟩
        · rw [headOf_append]
          exact hread.head
        · rw [hpayload]
        · rw [hpayload]
          exact hread.short
      · exact fun e events => herror e events

end Response

/-! ### The tunnel -/

section Tunnel

variable {protocol : Protocol} {w : World} {turns : Nat} {host : ProxyHost}
  {target credentials : Text} {targetHost path method : String}

/-- A response that was received in a tunnel. -/
theorem closed_of_completes {metadata : Metadata} {outcome : Except RequestError Response}
    {events : List H11Event} (hfallback : metadata.fallback = w.quicTimedOut)
    (h : ∀ response, outcome = .ok response → Completes events response ∧ response.metadata = metadata) :
    Closed { w with channel := .closed, events } outcome := by
  refine ⟨rfl, fun response hresponse => ?_⟩
  obtain ⟨hcomplete, rfl⟩ := h response hresponse
  exact ⟨hcomplete, hfallback⟩

theorem closed_error {e : RequestError} (h : w.channel = .closed) : Closed w (.error e) := by
  refine ⟨h, fun response hresponse => ?_⟩
  cases hresponse

/-- Over TCP. -/
theorem wp_tcpTunnel {fallback : Bool} (hchannel : w.channel = .closed) (hevents : w.events = [])
    (hprotocol : protocol ≠ .h3) (hquic : w.quicTried = true → w.quicTimedOut = true)
    (hfallback : fallback = w.quicTimedOut) :
    (tcpTunnel turns host target credentials protocol fallback
      (requestIn turns targetHost path method)).wp (watching World.after) (Permitted protocol)
        (fun outcome w' => Closed w' outcome) w := by
  refine wp_bind.mpr (wp_connectTcp hchannel hprotocol hquic ?_ fun e => closed_error hchannel)
  intro metadata
  refine wp_ensuring.mpr (wp_requestIn (.inr rfl) hevents ?_)
  intro outcome events hcomplete
  refine wp_call_watching.mpr ⟨⟨true, rfl⟩, fun answer => ?_⟩
  cases answer with
  | error e => exact closed_error rfl
  | ok _ => exact closed_of_completes (w := w) hfallback hcomplete

/-- Closing what was entered. -/
theorem wp_closeQuic {entered : Bool} {Q : Except RequestError Unit → World → Prop}
    (hchannel : w.channel = if entered then .quic false else .closed)
    (hQ : ∀ outcome, Q outcome { w with channel := .closed }) :
    (closeQuic entered).wp (watching World.after) (Permitted protocol) Q w := by
  cases entered with
  | true => exact wp_call_watching.mpr ⟨⟨false, hchannel⟩, hQ⟩
  | false =>
      have h := hQ (.ok ())
      rw [if_neg (by decide)] at hchannel
      rw [← hchannel] at h
      exact h

/-- The attempt over QUIC: it is accepted, or it fails, with what was entered still open. -/
theorem wp_openQuic {Q : Except RequestError (Bool × Except RequestError Unit) → World → Prop}
    (hchannel : w.channel = .closed) (hprotocol : protocol ≠ .h2) (htried : w.quicTried = false)
    (haccepted : Q (.ok (true, .ok ())) { w with channel := .quic true, quicTried := true })
    (hfailed : ∀ entered e, Q (.ok (entered, .error e))
      { w with channel := if entered then .quic false else .closed, quicTried := true,
               quicTimedOut := isTimeout e }) :
    (openQuic host target credentials).wp (watching World.after) (Permitted protocol) Q w := by
  refine wp_andThen.mpr (wp_call_watching.mpr ⟨⟨hchannel, hprotocol, htried⟩, fun answer => ?_⟩)
  cases answer with
  | error e =>
      have h := hfailed false e
      rw [if_neg (by decide), ← hchannel] at h
      exact h
  | ok _ =>
      refine wp_andThen.mpr (wp_call_watching.mpr ⟨rfl, fun outcome => ?_⟩)
      cases outcome with
      | error e => exact hfailed true e
      | ok _ => exact haccepted

/-- `asyncio.timeout` turns an exception into `TimeoutError` in the cases that `isTimeout` names. -/
theorem expire_error (e : RequestError) :
    ∃ e', expire .quic (.error e : Except RequestError Unit) = .error e' ∧
      (e' = .timeout ↔ isTimeout e = true) := by
  cases e with
  | timeout => exact ⟨_, rfl, by simp [isTimeout]⟩
  | endOfStream => exact ⟨_, rfl, by simp [isTimeout]⟩
  | error text className => exact ⟨_, rfl, by simp [isTimeout]⟩
  | cancelled deadline =>
      cases deadline with
      | none => exact ⟨_, rfl, by simp [isTimeout]⟩
      | some deadline =>
          cases deadline with
          | quic => exact ⟨.timeout, rfl, by simp [isTimeout]⟩
          | request => exact ⟨_, rfl, by simp [isTimeout]⟩

/-- `async with proxy_tunnel(...)`, with the request in it. -/
theorem wp_proxyTunnel :
    (proxyTunnel turns host target credentials protocol (requestIn turns targetHost path method)).wp
      (watching World.after) (Permitted protocol) (fun outcome w => Closed w outcome) .new := by
  unfold proxyTunnel
  split
  · next hquic =>
      have hprotocol : protocol ≠ .h2 := by
        rcases hquic with rfl | ⟨rfl, -⟩ <;> decide
      refine wp_bind.mpr (wp_openQuic rfl hprotocol rfl ?_ ?_)
      · refine wp_ensuring.mpr (wp_bind.mpr (wp_call_watching.mpr ⟨rfl, fun answer => ?_⟩))
        cases answer with
        | error e =>
            refine wp_call_watching.mpr ⟨⟨true, rfl⟩, fun answer => ?_⟩
            cases answer <;> exact closed_error rfl
        | ok _ =>
            refine wp_requestIn (.inl rfl) rfl ?_
            intro outcome events hcomplete
            refine wp_call_watching.mpr ⟨⟨true, rfl⟩, fun answer => ?_⟩
            cases answer with
            | error e => exact closed_error rfl
            | ok _ => exact closed_of_completes (w := ⟨.closed, true, false, []⟩) rfl hcomplete
      · intro entered e
        obtain ⟨e', he', htimeout⟩ := expire_error e
        dsimp only
        rw [he']
        refine wp_bind.mpr (wp_closeQuic rfl ?_)
        intro outcome
        cases outcome with
        | error e => exact closed_error rfl
        | ok _ =>
            dsimp only
            split
            · next hfallback =>
                have hout := htimeout.mp hfallback.1
                exact wp_tcpTunnel rfl rfl hfallback.2 (fun _ => hout) hout.symm
            · exact closed_error rfl
  · next hquic =>
      have hprotocol : protocol ≠ .h3 := fun h => hquic (.inl h)
      exact wp_tcpTunnel rfl rfl hprotocol (by simp [World.new]) rfl

end Tunnel

/-- **One tunnel at a time.** Whatever the operations of a request return or raise: an operation is
asked for only where it is in place; when the request has ended, no tunnel is left open; and a
response is the one that h11 has read to its end, with its body within the limit, and says of a
fallback iff QUIC has timed out. -/
theorem proxy_request_sound (turns : Nat) (host : ProxyHost) (username password : Text)
    (targetHost : String) (targetPort : Nat) (path method : String) (protocol : Protocol)
    (p : Requesting Response) (w : World)
    (hreaches : Reaches (watching World.after)
      (proxyRequest turns host username password targetHost targetPort path method protocol) .new p w) :
    (∀ op resume, p = .await op resume → Permitted protocol w op) ∧
      ∀ outcome, p = .done outcome → Closed w outcome := by
  have hmeets := wp_of_reaches_of_wp wp_proxyTunnel hreaches
  constructor
  · rintro op resume rfl
    exact hmeets.1
  · rintro outcome rfl
    exact hmeets

/-- A network where QUIC times out, and the target responds over HTTP/2. -/
def sampleAnswer (w : World) : (op : RequestOp) → Except RequestError op.Ans
  | .quicConnect _ _ => .error (.cancelled (some .quic))
  | .quicOpen _ _ | .quicCertificate | .quicClose | .openConnection _ _ _ | .sendConnect _ _
  | .connectData _ | .tcpClose | .wrapTls _ | .sendRequest _ _ _ | .sendEndOfMessage
  | .receiveData _ => .ok ()
  | .selectedAlpnProtocol => .ok (some "h2")
  | .peer => .ok (.str "TLSv1.3")
  | .frames => .ok (some 200, false)
  | .connectEvent => .ok .other
  | .nextEvent => .ok (match w.events with
      | [] => .response 200 "1.1" []
      | [_] => .data [0x4e, 0x4c]
      | _ => .endOfMessage)
  | .tunnelReceive | .tlsReceive => .ok []

/-- The network as an environment. -/
def sampleNetwork (w : World) (op : RequestOp) : Except RequestError op.Ans × World :=
  (sampleAnswer w op, w.after op (sampleAnswer w op))

theorem proxy_request_sound_fallback :
    let request := proxyRequest 3 ⟨"proxy.example", 443, true⟩ [] [] "api.example" 443 "/" "GET" .auto
    ∃ response, (request.follow sampleNetwork .new).1 = some (.ok response) ∧
      Completes (request.follow sampleNetwork .new).2.events response ∧
        response.metadata.fallback = true := by
  intro request
  obtain ⟨response, hresponse⟩ : ∃ response,
      (request.follow sampleNetwork .new).1 = some (.ok response) := ⟨_, rfl⟩
  have hanswer : ∀ w op, watching World.after w op (sampleNetwork w op).1 (sampleNetwork w op).2 :=
    fun _ _ => rfl
  have hreaches := reaches_follow hanswer hresponse
  obtain ⟨-, hdone⟩ := proxy_request_sound 3 ⟨"proxy.example", 443, true⟩ [] [] "api.example" 443 "/"
    "GET" .auto _ _ hreaches
  obtain ⟨hcomplete, hfallback⟩ := (hdone _ rfl).2 response rfl
  exact ⟨response, hresponse, hcomplete, hfallback⟩

end PxManager.Transport
