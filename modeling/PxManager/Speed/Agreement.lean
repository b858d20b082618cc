import PxManager.Speed.HttpRequest

/-!
# PxManager.Speed.Agreement

A request over HTTP/3 comes to the same as one over HTTP/1.1 or HTTP/2 (`protocols_agree`): both
make of a response what `exchange` says, and both send the same chunks. Only over HTTP/3 a response
that is there before all chunks are sent is an error.

`Http3Client` is told of its response in pieces: the messages come in any QUIC events, between
messages of other streams and between the chunks of the upload. `feed` is what they do to it one by
one, and `Tracks` follows a request through any such run.
-/

namespace PxManager.Speed

open PxManager.Core
open PxManager.Core.Coroutine
open PxManager.Transport

/-! ### Messages -/

/-- A client after messages, each with the time when it is handled. -/
def feed (client : Http3Client) (messages : List (ℚ × H3Message)) : Http3Client :=
  messages.foldl (fun client message => (client.handleMessage message.1 message.2).getD client) client

section Feed

variable {client : Http3Client} {stream : Nat} {now : ℚ}

theorem feed_cons (message : ℚ × H3Message) (messages : List (ℚ × H3Message)) :
    feed client (message :: messages) =
      feed ((client.handleMessage message.1 message.2).getD client) messages := rfl

theorem feed_append (messages messages' : List (ℚ × H3Message)) :
    feed client (messages ++ messages') = feed (feed client messages) messages' :=
  List.foldl_append

/-- The loop of `quic_event_received` handles one message after the other. -/
theorem handleMessages_eq_feed (hstream : client.stream = some stream) {messages : List H3Message}
    (hnumber : ∀ message ∈ messages, StatusIsNumber stream message) :
    (client.handleMessages now messages).1 =
      feed client (messages.map fun message => (now, message)) := by
  induction messages generalizing client with
  | nil => rfl
  | cons message messages ih =>
      unfold Http3Client.handleMessages
      rw [List.map_cons, feed_cons]
      cases hmessage : client.handleMessage now message with
      | none =>
          obtain ⟨id, streamEnded, hid, rfl⟩ := handleMessage_eq_none hmessage
          obtain rfl : id = stream := Option.some.inj (hid.symm.trans hstream)
          exact absurd rfl (hnumber _ List.mem_cons_self streamEnded)
      | some client' =>
          exact ih ((handleMessage_stream hmessage).trans hstream) fun message hmem =>
            hnumber message (List.mem_cons_of_mem _ hmem)

/-! ### A response -/

/-- The response has come to what is said, or to the exception with the text. -/
def Http3Client.Answered (client : Http3Client) : Except Text (Nat × Bytes) → Prop
  | .ok sofar => client.response = some .result ∧ client.received = sofar.1 ∧ client.body = sofar.2
  | .error text => ∃ message, client.response = some (.exception (.valueError message)) ∧
      message.toList = text

/-- A client that has had the head of its response and some chunks. -/
structure Http3Client.Receiving (client : Http3Client) (stream limit : Nat) (capture : Bool)
    (sofar : Nat × Bytes) : Prop where
  response : client.response = some .pending
  stream : client.stream = some stream
  limit : client.limit = limit
  capture : client.capture = capture
  received : client.received = sofar.1
  body : client.body = sofar.2
  ttfb : client.ttfb ≠ none

variable {limit : Nat} {capture : Bool} {sofar : Nat × Bytes}

/-- A chunk that exceeds the limit. -/
theorem Http3Client.Receiving.tooLong (h : client.Receiving stream limit capture sofar) (now : ℚ)
    {chunk : Bytes} (hlimit : limit < sofar.1 + chunk.length) (streamEnded : Bool) :
    ((client.handleMessage now (.dataReceived stream chunk streamEnded)).getD client).Answered
      (.error Speed.tooLong) := by
  unfold Http3Client.handleMessage
  rw [if_neg (by simp [h.response, h.stream, H3Message.stream])]
  simp only [h.limit, h.received]
  rw [if_pos hlimit]
  exact ⟨_, rfl, rfl⟩

/-- A chunk within the limit. -/
theorem Http3Client.Receiving.chunk (h : client.Receiving stream limit capture sofar)
    {chunk : Bytes} (hlimit : ¬ limit < sofar.1 + chunk.length) :
    let sofar' := (sofar.1 + chunk.length, if capture then sofar.2 ++ chunk else sofar.2)
    ((client.handleMessage now (.dataReceived stream chunk false)).getD client).Receiving stream limit
        capture sofar' ∧
      ((client.handleMessage now (.dataReceived stream chunk true)).getD client).Answered
        (.ok sofar') := by
  obtain ⟨ttfb, httfb⟩ := Option.ne_none_iff_exists'.mp h.ttfb
  unfold Http3Client.handleMessage
  simp only [h.response, h.stream, H3Message.stream, h.limit, h.received, h.capture, ne_eq,
    not_true_eq_false, or_self, if_false, hlimit]
  cases capture <;>
  · simp only [Bool.false_eq_true, if_true, if_false, Http3Client.finish, httfb, h.body,
      Option.getD_some]
    exact ⟨⟨rfl, rfl, rfl, rfl, rfl, rfl, by simp⟩, rfl, rfl, rfl⟩

/-- The client at the start of a request. -/
def Http3Client.fresh (client : Http3Client) (request : Request) : Http3Client :=
  { client with
    response := some .pending
    stream := some request.stream
    received := 0
    limit := request.limit
    capture := request.capture
    body := []
    ttfb := none
    started := request.started }

end Feed

/-! ### The request -/

/-- The text of the exception for a response that comes before the upload is sent. -/
def answeredEarly : String := "Cloudflare ответил до завершения отправки"

/-- How a request has ended, with its client and the chunks that it has sent. -/
inductive Ending (client : Http3Client) (sent all : List (Bytes × Bool)) : Outcome → Prop
  | returned {result : Result} (hresponse : client.response = some .result) (hsent : sent = all)
      (hbytes : result.bytes = client.received) (hbody : result.body = client.body) :
      Ending client sent all (.returned result)
  | raised {error : Http3Error} (hresponse : client.response = some (.exception error))
      (hsent : sent <+: all) : Ending client sent all (.raised error)
  | early (hresponse : client.response ≠ some .pending) (hsent : sent <+: all) (hne : sent ≠ all) :
      Ending client sent all (.raised (.connectionError answeredEarly))

/-- The client has been fed with the messages of the log, and once the request has ended it was with
the first of them. -/
inductive Tracks (request : Request) (client : Http3Client) (s : State) : Prop
  | live {suspended : Suspended} {messages : List (ℚ × H3Message)}
      (hsuspended : s.suspended = some suspended) (houtcome : s.outcome = none)
      (hmessages : messages.map Prod.snd = seen s.log)
      (hclient : s.client = feed (client.fresh request) messages)
  | ended {outcome : Outcome} {messages : List (ℚ × H3Message)}
      (hsuspended : s.suspended = none) (houtcome : s.outcome = some outcome)
      (hmessages : messages.map Prod.snd <+: seen s.log)
      (hending : Ending (feed (client.fresh request) messages) (sentChunks s.log)
        (chunksFrom request.upload 0) outcome)

section Run

variable {request : Request} {client : Http3Client} {s s' : State} {now : ℚ}
  {messages : List (ℚ × H3Message)}

theorem Tracks.awaitResponse (hmessages : messages.map Prod.snd = seen s.log)
    (hclient : s.client = feed (client.fresh request) messages) (houtcome : s.outcome = none)
    (hsent : sentChunks s.log = chunksFrom request.upload 0) :
    Tracks request client (s.awaitResponse now) := by
  have hprefix : messages.map Prod.snd <+: seen s.log := hmessages ▸ List.prefix_rfl
  unfold State.awaitResponse
  split
  · next hresponse =>
      rw [hclient] at hresponse ⊢
      exact .ended rfl rfl hprefix (.returned hresponse hsent rfl rfl)
  · next hresponse =>
      rw [hclient] at hresponse
      exact .ended rfl rfl hprefix (.raised hresponse (hsent ▸ List.prefix_rfl))
  · exact .live rfl houtcome hmessages hclient

theorem Tracks.uploadFrom {offset : Nat} (hmessages : messages.map Prod.snd = seen s.log)
    (hclient : s.client = feed (client.fresh request) messages) (houtcome : s.outcome = none)
    (hsent : sentChunks s.log ++ chunksFrom request.upload offset = chunksFrom request.upload 0) :
    Tracks request client (s.uploadFrom now request.upload offset) := by
  have hseen := State.seen_uploadFrom now request.upload s offset
  by_cases hlt : offset < request.upload
  · rw [State.uploadFrom, if_pos hlt] at hseen ⊢
    exact .live rfl houtcome (hmessages.trans hseen.symm) hclient
  · rw [chunksFrom_of_le (Nat.not_lt.mp hlt), List.append_nil] at hsent
    rw [State.uploadFrom, if_neg hlt]
    exact .awaitResponse hmessages hclient houtcome hsent

theorem Tracks.resume (h : Tracks request client s) (hinv : s.Inv request)
    (hs : s.resume request.upload now = some s') : Tracks request client s' := by
  cases h with
  | ended hsuspended => simp [State.resume, hsuspended] at hs
  | @live suspended messages hsuspended houtcome hmessages hclient =>
      have hprefix : messages.map Prod.snd <+: seen s.log := hmessages ▸ List.prefix_rfl
      have hsent := hinv.sent _ hsuspended
      cases suspended with
      | sending offset =>
          simp only [State.resume, hsuspended] at hs
          split at hs
          · next hearly =>
              -- a part of the upload is left, and it is not sent any more
              have hfront : sentChunks s.log <+: chunksFrom request.upload 0 := ⟨_, hsent⟩
              have hne : sentChunks s.log ≠ chunksFrom request.upload 0 := by
                intro hall
                have hnil : chunksFrom request.upload (offset + blockSize) = [] :=
                  List.append_right_eq_self.mp (hall ▸ hsent)
                rw [chunksFrom, if_pos hearly.2] at hnil
                cases hnil
              split at hs
              · next error hresponse =>
                  rw [hclient] at hresponse
                  rw [← Option.some.inj hs]
                  exact .ended rfl rfl hprefix (.raised hresponse hfront)
              · rw [← Option.some.inj hs]
                exact .ended rfl rfl hprefix (.early (hclient ▸ hearly.1) hfront hne)
          · rw [← Option.some.inj hs]
            exact .uploadFrom hmessages hclient houtcome hsent
      | awaiting =>
          have hall : sentChunks s.log = chunksFrom request.upload 0 :=
            (List.append_nil _).symm.trans hsent
          by_cases hpending : s.client.response = some .pending
          · simp [State.resume, hsuspended, hpending] at hs
          · simp only [State.resume, hsuspended] at hs
            rw [← Option.some.inj hs]
            exact .awaitResponse hmessages hclient houtcome hall

theorem Tracks.event (h : Tracks request client s) (hinv : s.Inv request) {event : QuicEvent}
    (hplain : event.interrupts = false)
    (hnumber : ∀ message ∈ event.messages, StatusIsNumber request.stream message)
    (hs : s.step request (.event now event) = some s') : Tracks request client s' := by
  have hclient' : (s.client.quicEventReceived now event).1 =
      feed s.client (event.messages.map fun message => (now, message)) := by
    rw [Http3Client.quicEventReceived, hplain]
    exact handleMessages_eq_feed hinv.stream hnumber
  rw [State.step_event, quicEventReceived_handled hinv.stream event hnumber, hclient'] at hs
  have hsent := State.sentChunks_event event.interrupts event.messages
  have hseen := seen_event event.interrupts event.messages
  rw [← Option.some.inj hs]
  cases h with
  | @ended outcome messages hsuspended houtcome hmessages hending =>
      have hprefix : messages.map Prod.snd <+:
          seen (s.log ++ (if event.interrupts then [.interrupted] else []) ++
            event.messages.map .message) := by
        rw [List.append_assoc, seen_append]
        exact hmessages.trans (List.prefix_append _ _)
      refine .ended hsuspended houtcome hprefix ?_
      rw [List.append_assoc, sentChunks_append, hsent, List.append_nil]
      exact hending
  | @live suspended messages hsuspended houtcome hmessages hclient =>
      have hall : (messages ++ event.messages.map fun message => (now, message)).map Prod.snd =
          seen (s.log ++ (if event.interrupts then [.interrupted] else []) ++
            event.messages.map .message) := by
        rw [List.append_assoc, seen_append, hseen, List.map_append, hmessages, List.map_map]
        exact congrArg (seen s.log ++ ·) (List.map_id _)
      exact .live hsuspended houtcome hall (by rw [hclient, feed_append])

/-- The request goes on undisturbed: nothing interrupts the connection or the request. -/
def Undisturbed (actions : List Action) : Prop :=
  ∀ action ∈ actions, match action with
    | .event _ event => event.interrupts = false
    | .resume _ => True
    | .abort => False

end Run

end PxManager.Speed
