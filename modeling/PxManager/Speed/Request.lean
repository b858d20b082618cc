import PxManager.Speed.Http3Client

/-!
# PxManager.Speed.Request

A result of `Http3Client.request` stands for a complete response to a complete request, however
the events of this stream, of other streams and of the connection come in between.

`Accounted` is the invariant: while the response is pending, the fields of the client account for
the DATA of the stream so far, and nothing has interrupted it. What completes it is the first end
mark after a final header (`Completed`), and from then on nothing changes the fields.
-/

namespace PxManager.Speed

open PxManager.Core
open PxManager.Transport

/-! ### What a log says -/

/-- The DATA of a stream. -/
def payloadOf (stream : Nat) (log : List Entry) : Bytes :=
  log.flatMap fun
    | .message (.dataReceived id data _) => if id = stream then data else []
    | _ => []

/-- The messages that the loop of `quic_event_received` got to. -/
def seen (log : List Entry) : List H3Message :=
  log.flatMap fun
    | .message message => [message]
    | _ => []

/-- The calls of `send_data`. -/
def sentChunks (log : List Entry) : List (Bytes × Bool) :=
  log.flatMap fun
    | .sent data endStream => [(data, endStream)]
    | _ => []

/-- A final response header with a status of 200 to 299 was seen. -/
def FinalHeader (stream : Nat) (log : List Entry) : Prop :=
  ∃ status streamEnded, 200 ≤ status ∧ status ≤ 299 ∧
    .message (.headersReceived stream (.code status) streamEnded) ∈ log

@[simp] theorem payloadOf_append (stream : Nat) (log log' : List Entry) :
    payloadOf stream (log ++ log') = payloadOf stream log ++ payloadOf stream log' :=
  List.flatMap_append

@[simp] theorem sentChunks_append (log log' : List Entry) :
    sentChunks (log ++ log') = sentChunks log ++ sentChunks log' :=
  List.flatMap_append

@[simp] theorem seen_append (log log' : List Entry) : seen (log ++ log') = seen log ++ seen log' :=
  List.flatMap_append

theorem seen_event (interrupts : Bool) (messages : List H3Message) :
    seen ((if interrupts then [.interrupted] else []) ++ messages.map .message) = messages := by
  have hmap : seen (messages.map .message) = messages := by
    induction messages with
    | nil => rfl
    | cons message messages ih => exact congrArg (message :: ·) ih
  rw [seen_append, hmap]
  cases interrupts <;> rfl

theorem FinalHeader.append {stream : Nat} {log : List Entry} (h : FinalHeader stream log)
    (log' : List Entry) : FinalHeader stream (log ++ log') := by
  obtain ⟨status, streamEnded, hlow, hhigh, hmem⟩ := h
  exact ⟨status, streamEnded, hlow, hhigh, List.mem_append_left _ hmem⟩

/-! ### The upload -/

/-- The chunks of an upload from an offset on, as the loop cuts them. -/
def chunksFrom (upload offset : Nat) : List (Bytes × Bool) :=
  if offset < upload then
    (zeroBlock.take (min blockSize (upload - offset)),
        decide (upload ≤ offset + blockSize)) ::
      chunksFrom upload (offset + blockSize)
  else []
termination_by upload - offset
decreasing_by
  have : 0 < blockSize := by decide
  omega

theorem chunksFrom_of_le {upload offset : Nat} (h : upload ≤ offset) :
    chunksFrom upload offset = [] := by
  rw [chunksFrom, if_neg (by omega)]

theorem length_of_mem_chunksFrom {upload offset : Nat} {chunk : Bytes × Bool}
    (h : chunk ∈ chunksFrom upload offset) : 1 ≤ chunk.1.length ∧ chunk.1.length ≤ 65536 := by
  fun_induction chunksFrom upload offset with
  | case1 offset hlt ih =>
      rcases List.mem_cons.mp h with rfl | h
      · have : blockSize = 65536 := rfl
        rw [List.length_take, length_zeroBlock]
        omega
      · exact ih h
  | case2 offset hge => cases h

theorem sum_chunksFrom (upload offset : Nat) :
    ((chunksFrom upload offset).map fun chunk => chunk.1.length).sum = upload - offset := by
  fun_induction chunksFrom upload offset with
  | case1 offset hlt ih =>
      rw [List.map_cons, List.sum_cons, ih, List.length_take, length_zeroBlock]
      omega
  | case2 offset hge =>
      rw [List.map_nil, List.sum_nil]
      omega

/-- Only the last chunk ends the stream. -/
def EndsStreamOnce (chunks : List (Bytes × Bool)) : Prop :=
  ∃ init last, chunks = init ++ [(last, true)] ∧ ∀ chunk ∈ init, chunk.2 = false

theorem endsStreamOnce_chunksFrom {upload offset : Nat} (h : offset < upload) :
    EndsStreamOnce (chunksFrom upload offset) := by
  fun_induction chunksFrom upload offset with
  | case1 offset hlt ih =>
      by_cases hlast : upload ≤ offset + blockSize
      · rw [chunksFrom_of_le hlast]
        refine ⟨[], zeroBlock.take (min blockSize (upload - offset)), ?_, ?_⟩
        · rw [decide_eq_true hlast]
          rfl
        · intro chunk hchunk
          cases hchunk
      · obtain ⟨init, last, heq, hinit⟩ := ih (by omega)
        rw [heq, decide_eq_false hlast]
        refine ⟨_ :: init, last, rfl, ?_⟩
        intro chunk hchunk
        rcases List.mem_cons.mp hchunk with rfl | hchunk
        · rfl
        · exact hinit chunk hchunk
  | case2 offset hge => exact absurd h hge

/-! ### The fields of the client -/

/-- The client counts what the request may receive. -/
structure Configured (request : Request) (client : Http3Client) : Prop where
  stream : client.stream = some request.stream
  limit : client.limit = request.limit
  capture : client.capture = request.capture

/-- The fields account for the DATA of a log that nothing has interrupted. -/
structure Accounted (request : Request) (client : Http3Client) (log : List Entry) : Prop where
  received : client.received = (payloadOf request.stream log).length
  le_limit : client.received ≤ request.limit
  body : client.body = if request.capture then payloadOf request.stream log else []
  header : client.ttfb ≠ none → FinalHeader request.stream log
  uninterrupted : .interrupted ∉ log

/-- The message that completes a response: an end mark of the stream, after a final header. -/
structure Completed (request : Request) (client : Http3Client) (before : List Entry)
    (message : H3Message) : Prop where
  accounted : Accounted request client (before ++ [.message message])
  header : client.ttfb ≠ none
  stream : message.stream = some request.stream
  streamEnded : message.streamEnded = true

/-- What holds of the client and the log while the request is on its way. -/
structure Follows (request : Request) (client : Http3Client) (log : List Entry) : Prop where
  configured : Configured request client
  pending : client.response = some .pending → Accounted request client log
  result : client.response = some .result → ∃ before message after,
    log = before ++ .message message :: after ∧ Completed request client before message ∧
      sentChunks after = []

variable {request : Request} {client : Http3Client} {log : List Entry} {message : H3Message}
  {now : ℚ}

theorem Accounted.snoc {entry : Entry} (h : Accounted request client log)
    (hpayload : payloadOf request.stream [entry] = []) (hentry : entry ≠ .interrupted) :
    Accounted request client (log ++ [entry]) := by
  have hsame : payloadOf request.stream (log ++ [entry]) = payloadOf request.stream log := by
    rw [payloadOf_append, hpayload, List.append_nil]
  refine ⟨?_, h.le_limit, ?_, fun hheader => (h.header hheader).append _, ?_⟩
  · rw [hsame]
    exact h.received
  · rw [hsame]
    exact h.body
  · intro hmem
    rcases List.mem_append.mp hmem with hmem | hmem
    · exact h.uninterrupted hmem
    · exact hentry (List.mem_singleton.mp hmem).symm

/-- Once the response is there, nothing that is not sent matters. -/
theorem Follows.snoc {entry : Entry} (h : Follows request client log)
    (hpending : client.response = some .pending → Accounted request client (log ++ [entry]))
    (hsent : client.response = some .result → sentChunks [entry] = []) :
    Follows request client (log ++ [entry]) := by
  refine ⟨h.configured, hpending, ?_⟩
  intro hresult
  obtain ⟨before, message, after, hlog, hcompleted, hafter⟩ := h.result hresult
  refine ⟨before, message, after ++ [entry], ?_, hcompleted, ?_⟩
  · rw [hlog, List.append_assoc, List.cons_append]
  · rw [sentChunks_append, hafter, hsent hresult]
    rfl

theorem Configured.of_eq {client' : Http3Client} (h : Configured request client)
    (hstream : client'.stream = client.stream) (hlimit : client'.limit = client.limit)
    (hcapture : client'.capture = client.capture) : Configured request client' :=
  ⟨hstream.trans h.stream, hlimit.trans h.limit, hcapture.trans h.capture⟩

/-- An exception leaves nothing to account for. -/
theorem Configured.follows_exception {error : Http3Error} (h : Configured request client)
    (hresponse : client.response = some (.exception error)) : Follows request client log := by
  refine ⟨h, ?_, ?_⟩
  · intro hpending
    cases hresponse.symm.trans hpending
  · intro hresult
    cases hresponse.symm.trans hresult

/-- A message that is accounted for may end the stream. -/
theorem Accounted.finish (haccounted : Accounted request client (log ++ [.message message]))
    (hconfigured : Configured request client) (hpending : client.response = some .pending)
    (hstream : message.stream = some request.stream) :
    Follows request (client.finish message.streamEnded) (log ++ [.message message]) := by
  unfold Http3Client.finish
  split
  · next hended =>
      split
      · exact Configured.follows_exception (hconfigured.of_eq rfl rfl rfl) rfl
      · next ttfb httfb =>
          refine ⟨hconfigured.of_eq rfl rfl rfl, ?_, ?_⟩
          · intro h
            cases h
          · intro _
            refine ⟨log, message, [], rfl, ⟨?_, ?_, hstream, hended⟩, rfl⟩
            · exact ⟨haccounted.received, haccounted.le_limit, haccounted.body,
                haccounted.header, haccounted.uninterrupted⟩
            · show client.ttfb ≠ none
              rw [httfb]
              exact Option.some_ne_none _
  · exact ⟨hconfigured, fun _ => haccounted, fun h => by cases hpending.symm.trans h⟩

theorem payloadOf_message_of_ne {stream : Nat} (h : message.stream ≠ some stream) :
    payloadOf stream [.message message] = [] := by
  cases message with
  | dataReceived id data streamEnded =>
      have hid : id ≠ stream := fun heq => h (congrArg some heq)
      simp [payloadOf, hid]
  | headersReceived id status streamEnded => rfl
  | other id streamEnded => rfl

/-- The loop body skips a message. -/
theorem Follows.skip (h : Follows request client log)
    (hpayload : client.response = some .pending →
      payloadOf request.stream [.message message] = []) :
    Follows request client (log ++ [.message message]) :=
  h.snoc (fun hpending => (h.pending hpending).snoc (hpayload hpending) (by simp)) fun _ => rfl

/-- A final header sets the time to the first byte. -/
theorem Accounted.finalHeader {id : Nat} {status : Int} (h : Accounted request client log)
    (hid : id = request.stream) (hlow : 200 ≤ status) (hhigh : status ≤ 299) (streamEnded : Bool)
    (ttfb : ℚ) :
    Accounted request { client with ttfb := some ttfb }
      (log ++ [.message (.headersReceived id (.code status) streamEnded)]) := by
  have hsnoc : Accounted request client
      (log ++ [.message (.headersReceived id (.code status) streamEnded)]) :=
    h.snoc rfl (by simp)
  refine ⟨hsnoc.received, hsnoc.le_limit, hsnoc.body, ?_, hsnoc.uninterrupted⟩
  intro _
  refine ⟨status, streamEnded, hlow, hhigh, ?_⟩
  rw [← hid]
  exact List.mem_append_right _ (List.mem_singleton_self _)

/-- The DATA of the stream is counted and, if it is asked for, kept. -/
theorem Accounted.data {id : Nat} {data : Bytes} (h : Accounted request client log)
    (hconfigured : Configured request client) (hid : id = request.stream)
    (hlimit : client.received + data.length ≤ request.limit) (streamEnded : Bool) :
    Accounted request { client with
        received := client.received + data.length
        body := if client.capture then client.body ++ data else client.body }
      (log ++ [.message (.dataReceived id data streamEnded)]) := by
  have hpayload : payloadOf request.stream (log ++ [.message (.dataReceived id data streamEnded)]) =
      payloadOf request.stream log ++ data := by
    rw [payloadOf_append]
    simp [payloadOf, hid]
  refine ⟨?_, hlimit, ?_, fun hheader => (h.header hheader).append _, ?_⟩
  · rw [hpayload, List.length_append, ← h.received]
  · simp only [hpayload, h.body, hconfigured.capture]
    split <;> rfl
  · simpa using h.uninterrupted

/-- One message, also one at which `int` raises. -/
theorem Follows.handleMessage (h : Follows request client log) (now : ℚ) (message : H3Message) :
    Follows request ((client.handleMessage now message).getD client)
      (log ++ [.message message]) := by
  have hconfigured := h.configured
  unfold Http3Client.handleMessage
  by_cases hskip : client.response ≠ some .pending ∨ message.stream ≠ client.stream
  · -- what is skipped while the response is pending is on another stream
    rw [if_pos hskip]
    refine h.skip fun hpending => payloadOf_message_of_ne ?_
    rcases hskip with hskip | hskip
    · exact absurd hpending hskip
    · exact hconfigured.stream ▸ hskip
  rw [if_neg hskip]
  rw [not_or, not_ne_iff, not_ne_iff, hconfigured.stream] at hskip
  obtain ⟨hpending, hstream⟩ := hskip
  have haccounted := h.pending hpending
  cases message with
  | headersReceived id status streamEnded =>
      cases status with
      | malformed => exact h.skip fun _ => rfl
      | absent => exact (haccounted.snoc rfl (by simp)).finish hconfigured hpending hstream
      | code status =>
          simp only
          split
          · -- an interim header
            exact h.skip fun _ => rfl
          · next hlow =>
              split
              · exact Configured.follows_exception (hconfigured.of_eq rfl rfl rfl) rfl
              · next hhigh =>
                  have haccounted' := haccounted.finalHeader (Option.some.inj hstream)
                    (Int.not_lt.mp hlow) (by omega) streamEnded ((now - client.started) * 1000)
                  exact haccounted'.finish (hconfigured.of_eq rfl rfl rfl) hpending hstream
  | dataReceived id data streamEnded =>
      simp only
      split
      · exact Configured.follows_exception (hconfigured.of_eq rfl rfl rfl) rfl
      · next hlimit =>
          rw [hconfigured.limit] at hlimit
          have hdata := haccounted.data hconfigured (Option.some.inj hstream)
            (Nat.not_lt.mp hlimit) streamEnded
          split
          · next hcapture =>
              rw [if_pos hcapture] at hdata
              exact hdata.finish (hconfigured.of_eq rfl rfl rfl) hpending hstream
          · next hcapture =>
              rw [if_neg hcapture] at hdata
              exact hdata.finish (hconfigured.of_eq rfl rfl rfl) hpending hstream
  | other id streamEnded =>
      exact (haccounted.snoc rfl (by simp)).finish hconfigured hpending hstream

/-- The loop over the messages. -/
theorem Follows.handleMessages (h : Follows request client log) (messages : List H3Message) :
    Follows request (client.handleMessages now messages).1
      (log ++ (client.handleMessages now messages).2.map .message) := by
  induction messages generalizing client log with
  | nil => exact (List.append_nil log).symm ▸ h
  | cons message messages ih =>
      have hfirst := h.handleMessage now message
      unfold Http3Client.handleMessages
      cases hmessage : client.handleMessage now message with
      | none =>
          rw [hmessage] at hfirst
          exact hfirst
      | some client' =>
          rw [hmessage] at hfirst
          have hrest := ih hfirst
          rw [List.append_assoc] at hrest
          exact hrest

theorem Follows.interrupt (h : Follows request client log) :
    Follows request client.interrupt (log ++ [.interrupted]) := by
  unfold Http3Client.interrupt
  split
  · exact Configured.follows_exception (h.configured.of_eq rfl rfl rfl) rfl
  · next hdone => exact h.snoc (fun hpending => absurd hpending hdone) fun _ => rfl

theorem Follows.quicEventReceived (h : Follows request client log) (event : QuicEvent) :
    Follows request (client.quicEventReceived now event).1
      (log ++ (if event.interrupts then [.interrupted] else []) ++
        (client.quicEventReceived now event).2.map .message) := by
  unfold Http3Client.quicEventReceived
  split
  · exact h.interrupt.handleMessages event.messages
  · rw [List.append_nil]
    exact h.handleMessages event.messages

theorem handleMessage_stream {client' : Http3Client}
    (h : client.handleMessage now message = some client') : client'.stream = client.stream := by
  have hfinish : ∀ (client : Http3Client) (streamEnded : Bool),
      (client.finish streamEnded).stream = client.stream := by
    intro client streamEnded
    unfold Http3Client.finish
    split
    · split <;> rfl
    · rfl
  unfold Http3Client.handleMessage at h
  split at h
  · exact Option.some.inj h ▸ rfl
  · cases message with
    | headersReceived id status streamEnded =>
        cases status with
        | malformed => cases h
        | absent => exact Option.some.inj h ▸ hfinish client streamEnded
        | code status =>
            simp only at h
            split at h
            · exact Option.some.inj h ▸ rfl
            · split at h
              · exact Option.some.inj h ▸ rfl
              · exact Option.some.inj h ▸ hfinish _ streamEnded
    | dataReceived id data streamEnded =>
        simp only at h
        split at h
        · exact Option.some.inj h ▸ rfl
        · split at h
          · exact Option.some.inj h ▸ hfinish _ streamEnded
          · exact Option.some.inj h ▸ hfinish _ streamEnded
    | other id streamEnded => exact Option.some.inj h ▸ hfinish client streamEnded

/-- Without a pending response, messages change nothing. -/
theorem handleMessages_of_done (hdone : client.response ≠ some .pending)
    (messages : List H3Message) :
    (client.handleMessages now messages).1 = client := by
  induction messages with
  | nil => rfl
  | cons message messages ih =>
      have hskip : client.handleMessage now message = some client := by
        unfold Http3Client.handleMessage
        rw [if_pos (.inl hdone)]
      unfold Http3Client.handleMessages
      rw [hskip]
      exact ih

theorem quicEventReceived_of_done (hdone : client.response ≠ some .pending) (event : QuicEvent) :
    (client.quicEventReceived now event).1 = client := by
  have hinterrupt : client.interrupt = client := by
    unfold Http3Client.interrupt
    rw [if_neg hdone]
  unfold Http3Client.quicEventReceived
  rw [hinterrupt, ite_self]
  exact handleMessages_of_done hdone _

/-- The messages that some events bring. -/
def delivered (actions : List Action) : List H3Message :=
  actions.flatMap fun
    | .event _ event => event.messages
    | _ => []

/-- `int` does not raise at a message of the stream. -/
def StatusIsNumber (stream : Nat) (message : H3Message) : Prop :=
  ∀ streamEnded, message ≠ .headersReceived stream .malformed streamEnded

theorem handleMessage_eq_none (h : client.handleMessage now message = none) :
    ∃ id streamEnded, client.stream = some id ∧
      message = .headersReceived id .malformed streamEnded := by
  unfold Http3Client.handleMessage at h
  split at h
  · cases h
  · next hown =>
      rw [not_or, not_ne_iff, not_ne_iff] at hown
      cases message with
      | headersReceived id status streamEnded =>
          cases status with
          | malformed => exact ⟨id, streamEnded, hown.2.symm, rfl⟩
          | absent => cases h
          | code status =>
              simp only at h
              split at h
              · cases h
              · split at h <;> cases h
      | dataReceived id data streamEnded =>
          simp only at h
          split at h
          · cases h
          · split at h <;> cases h
      | other id streamEnded => cases h

theorem interrupt_stream (client : Http3Client) : client.interrupt.stream = client.stream := by
  unfold Http3Client.interrupt
  split <;> rfl

/-- `int` ends the loop over the messages, and nothing else does. -/
theorem handleMessages_handled {stream : Nat} (hstream : client.stream = some stream)
    {messages : List H3Message} (hnumber : ∀ message ∈ messages, StatusIsNumber stream message) :
    (client.handleMessages now messages).2 = messages := by
  induction messages generalizing client with
  | nil => rfl
  | cons message messages ih =>
      unfold Http3Client.handleMessages
      cases hmessage : client.handleMessage now message with
      | none =>
          obtain ⟨id, streamEnded, hid, rfl⟩ := handleMessage_eq_none hmessage
          obtain rfl : id = stream := Option.some.inj (hid.symm.trans hstream)
          exact absurd rfl (hnumber _ List.mem_cons_self streamEnded)
      | some client' =>
          have hrest := ih ((handleMessage_stream hmessage).trans hstream) fun message hmem =>
            hnumber message (List.mem_cons_of_mem _ hmem)
          exact congrArg (message :: ·) hrest

theorem quicEventReceived_handled {stream : Nat} (hstream : client.stream = some stream)
    (event : QuicEvent) (hnumber : ∀ message ∈ event.messages, StatusIsNumber stream message) :
    (client.quicEventReceived now event).2 = event.messages := by
  unfold Http3Client.quicEventReceived
  refine handleMessages_handled ?_ hnumber
  split
  · exact (interrupt_stream client).trans hstream
  · exact hstream

/-! ### The request -/

/-- A result that stands for all that the stream brought up to its end mark. -/
structure CompleteResponse (request : Request) (result : Result) (before : List Entry)
    (message : H3Message) : Prop where
  stream : message.stream = some request.stream
  streamEnded : message.streamEnded = true
  header : FinalHeader request.stream (before ++ [.message message])
  bytes : result.bytes = (payloadOf request.stream (before ++ [.message message])).length
  le_limit : result.bytes ≤ request.limit
  body : result.body =
    if request.capture then payloadOf request.stream (before ++ [.message message]) else []
  uninterrupted : .interrupted ∉ before

/-- An upload that was all sent before something. -/
structure CompleteUpload (request : Request) (before after : List Entry) : Prop where
  sizes : ∀ chunk ∈ sentChunks before, 1 ≤ chunk.1.length ∧ chunk.1.length ≤ 65536
  total : ((sentChunks before).map fun chunk => chunk.1.length).sum = request.upload
  endStream : 0 < request.upload → EndsStreamOnce (sentChunks before)
  noneLater : sentChunks after = []

/-- A log in which a message of the stream completes the response, the upload before it. -/
def CompleteExchange (request : Request) (result : Result) (log : List Entry) : Prop :=
  ∃ before message after, log = before ++ .message message :: after ∧
    CompleteResponse request result before message ∧ CompleteUpload request before after

/-- All chunks went out, and the response is there. -/
theorem Completed.exchange {before after : List Entry}
    (hcompleted : Completed request client before message)
    (hlog : log = before ++ .message message :: after) (hafter : sentChunks after = [])
    (hsent : sentChunks log = chunksFrom request.upload 0) :
    CompleteExchange request {
      bytes := client.received
      body := client.body
      ttfbMs := client.ttfb
      seconds := now - client.started } log := by
  -- nothing was sent after the end mark, so the whole upload went out before it
  have hbefore : sentChunks before = chunksFrom request.upload 0 := by
    rw [← hsent, hlog, sentChunks_append]
    show sentChunks before = sentChunks before ++ ([] ++ sentChunks after)
    rw [hafter, List.append_nil, List.append_nil]
  have haccounted := hcompleted.accounted
  refine ⟨before, message, after, hlog, ?_, ?_, ?_, ?_, hafter⟩
  · exact ⟨hcompleted.stream, hcompleted.streamEnded, haccounted.header hcompleted.header,
      haccounted.received, haccounted.le_limit, haccounted.body,
      fun hmem => haccounted.uninterrupted (List.mem_append_left _ hmem)⟩
  · rw [hbefore]
    exact fun chunk hchunk => length_of_mem_chunksFrom hchunk
  · rw [hbefore, sum_chunksFrom]
    rfl
  · rw [hbefore]
    exact endsStreamOnce_chunksFrom

/-- An exchange stays complete, whatever is seen later. -/
theorem CompleteExchange.append {result : Result} (h : CompleteExchange request result log)
    {entries : List Entry} (hsent : sentChunks entries = []) :
    CompleteExchange request result (log ++ entries) := by
  obtain ⟨before, message, after, hlog, hresponse, hupload⟩ := h
  refine ⟨before, message, after ++ entries, ?_, hresponse, ?_⟩
  · rw [hlog, List.append_assoc, List.cons_append]
  · refine ⟨hupload.sizes, hupload.total, hupload.endStream, ?_⟩
    rw [sentChunks_append, hupload.noneLater, hsent]
    rfl

/-- The chunks that are still to be sent. -/
def Suspended.rest (upload : Nat) : Suspended → List (Bytes × Bool)
  | .sending offset => chunksFrom upload (offset + blockSize)
  | .awaiting => []

namespace State

variable {s s' : State}

/-- What holds of a request from its start on. -/
structure Inv (request : Request) (s : State) : Prop where
  stream : s.client.stream = some request.stream
  follows : s.suspended ≠ none → Follows request s.client s.log
  sent : ∀ suspended, s.suspended = some suspended →
    sentChunks s.log ++ suspended.rest request.upload = chunksFrom request.upload 0
  running : s.suspended ≠ none → s.outcome = none
  left : s.suspended = none → s.client.response = none
  returned : ∀ result, s.outcome = some (.returned result) → CompleteExchange request result s.log

theorem inv_suspended {suspended : Suspended} (hsuspended : s.suspended = some suspended)
    (hfollows : Follows request s.client s.log)
    (hsent : sentChunks s.log ++ suspended.rest request.upload = chunksFrom request.upload 0)
    (houtcome : s.outcome = none) : Inv request s where
  stream := hfollows.configured.stream
  follows _ := hfollows
  sent suspended' h := Option.some.inj (hsuspended.symm.trans h) ▸ hsent
  running _ := houtcome
  left h := by cases hsuspended.symm.trans h
  returned result h := by cases houtcome.symm.trans h

theorem inv_left (hsuspended : s.suspended = none)
    (hstream : s.client.stream = some request.stream) (hresponse : s.client.response = none)
    (hreturned : ∀ result, s.outcome = some (.returned result) →
      CompleteExchange request result s.log) : Inv request s where
  stream := hstream
  follows h := absurd hsuspended h
  sent suspended h := by cases hsuspended.symm.trans h
  running h := absurd hsuspended h
  left _ := hresponse
  returned := hreturned

theorem inv_leave {outcome : Outcome} (hstream : s.client.stream = some request.stream)
    (hreturned : ∀ result, outcome = .returned result → CompleteExchange request result s.log) :
    Inv request (s.leave outcome) :=
  inv_left rfl hstream rfl fun result h => hreturned result (Option.some.inj h)

theorem inv_awaitResponse (hfollows : Follows request s.client s.log)
    (hsent : sentChunks s.log = chunksFrom request.upload 0) (houtcome : s.outcome = none) :
    Inv request (s.awaitResponse now) := by
  unfold awaitResponse
  split
  · next hresponse =>
      refine inv_leave hfollows.configured.stream ?_
      intro result hresult
      cases hresult
      obtain ⟨before, message, after, hlog, hcompleted, hafter⟩ := hfollows.result hresponse
      exact hcompleted.exchange hlog hafter hsent
  · exact inv_leave hfollows.configured.stream fun result hresult => by cases hresult
  · exact inv_suspended rfl hfollows ((List.append_nil _).trans hsent) houtcome

theorem inv_uploadFrom {offset : Nat} (hfollows : Follows request s.client s.log)
    (hsent : sentChunks s.log ++ chunksFrom request.upload offset = chunksFrom request.upload 0)
    (hpending : offset < request.upload → s.client.response = some .pending)
    (houtcome : s.outcome = none) : Inv request (s.uploadFrom now request.upload offset) := by
  unfold uploadFrom
  split
  · next hlt =>
      rw [chunksFrom, if_pos hlt] at hsent
      refine inv_suspended rfl (hfollows.snoc ?_ ?_) ?_ houtcome
      · intro h
        exact (hfollows.pending h).snoc rfl (by simp)
      · intro h
        cases (hpending hlt).symm.trans h
      · rw [sentChunks_append, List.append_assoc]
        exact hsent
  · next hge =>
      rw [chunksFrom_of_le (Nat.not_lt.mp hge), List.append_nil] at hsent
      exact inv_awaitResponse hfollows hsent houtcome

theorem inv_start (request : Request) (client : Http3Client) :
    Inv request (start request client) := by
  refine inv_uploadFrom ⟨⟨rfl, rfl, rfl⟩, fun _ => ?_, fun h => by cases h⟩ rfl (fun _ => rfl) rfl
  refine ⟨rfl, Nat.zero_le _, ?_, fun h => absurd rfl h, List.not_mem_nil⟩
  show [] = if request.capture then [] else []
  split <;> rfl

theorem Inv.resume (h : Inv request s) (hs : s.resume request.upload now = some s') :
    Inv request s' := by
  have hlive : ∀ suspended, s.suspended = some suspended → s.suspended ≠ none := by
    intro suspended hsuspended hnone
    cases hsuspended.symm.trans hnone
  unfold State.resume at hs
  split at hs
  · next offset hsuspended =>
      split at hs
      · split at hs
        · cases hs
          exact inv_leave h.stream fun result hresult => by cases hresult
        · cases hs
          exact inv_leave h.stream fun result hresult => by cases hresult
      · next hgo =>
          -- the next chunk is sent only while the response is pending
          cases hs
          refine inv_uploadFrom (h.follows (hlive _ hsuspended)) (h.sent _ hsuspended) ?_
            (h.running (hlive _ hsuspended))
          intro hlt
          by_contra hdone
          exact hgo ⟨hdone, hlt⟩
  · cases hs
  · next hsuspended _ =>
      cases hs
      exact inv_awaitResponse (h.follows (hlive _ hsuspended))
        ((List.append_nil _).symm.trans (h.sent _ hsuspended)) (h.running (hlive _ hsuspended))
  · cases hs

theorem sentChunks_message (messages : List H3Message) :
    sentChunks (messages.map .message) = [] := by
  induction messages with
  | nil => rfl
  | cons message messages ih => exact ih

theorem sentChunks_event (interrupts : Bool) (messages : List H3Message) :
    sentChunks ((if interrupts then [.interrupted] else []) ++ messages.map .message) = [] := by
  rw [sentChunks_append, sentChunks_message]
  cases interrupts <;> rfl

theorem step_event (event : QuicEvent) :
    s.step request (.event now event) = some { s with
      client := (s.client.quicEventReceived now event).1
      log := s.log ++ (if event.interrupts then [.interrupted] else []) ++
        (s.client.quicEventReceived now event).2.map .message } := rfl

theorem Inv.event (h : Inv request s) (event : QuicEvent) :
    Inv request { s with
      client := (s.client.quicEventReceived now event).1
      log := s.log ++ (if event.interrupts then [.interrupted] else []) ++
        (s.client.quicEventReceived now event).2.map .message } := by
  have hsent := sentChunks_event event.interrupts (s.client.quicEventReceived now event).2
  cases hsuspended : s.suspended with
  | none =>
      -- the request has ended and left no response to complete
      have hleft := h.left hsuspended
      have hdone : s.client.response ≠ some .pending := by
        rw [hleft]
        exact fun hpending => by cases hpending
      rw [quicEventReceived_of_done hdone, List.append_assoc]
      exact inv_left rfl h.stream hleft fun result hresult =>
        (h.returned result hresult).append hsent
  | some suspended =>
      have hlive : s.suspended ≠ none := by
        rw [hsuspended]
        exact Option.some_ne_none _
      refine inv_suspended rfl ((h.follows hlive).quicEventReceived event) ?_ (h.running hlive)
      show sentChunks (s.log ++ _ ++ _) ++ _ = _
      rw [List.append_assoc, sentChunks_append, hsent, List.append_nil]
      exact h.sent _ hsuspended

theorem Inv.step {action : Action} (h : Inv request s) (hs : s.step request action = some s') :
    Inv request s' := by
  cases action with
  | event now event => exact Option.some.inj hs ▸ h.event event
  | resume now => exact h.resume hs
  | abort =>
      obtain ⟨-, hs⟩ := Option.ite_none_right_eq_some.mp hs
      exact Option.some.inj hs ▸ inv_leave h.stream fun result hresult => by cases hresult

/-! ### The log is complete -/

theorem seen_awaitResponse (now : ℚ) (s : State) : seen (s.awaitResponse now).log = seen s.log := by
  unfold awaitResponse
  split <;> rfl

theorem seen_uploadFrom (now : ℚ) (upload : Nat) (s : State) (offset : Nat) :
    seen (s.uploadFrom now upload offset).log = seen s.log := by
  unfold uploadFrom
  split
  · rw [seen_append]
    exact List.append_nil _
  · exact seen_awaitResponse now s

theorem seen_resume (hs : s.resume request.upload now = some s') : seen s'.log = seen s.log := by
  unfold State.resume at hs
  split at hs
  · split at hs
    · split at hs
      · exact Option.some.inj hs ▸ rfl
      · exact Option.some.inj hs ▸ rfl
    · exact Option.some.inj hs ▸ seen_uploadFrom now _ s _
  · cases hs
  · exact Option.some.inj hs ▸ seen_awaitResponse now s
  · cases hs

/-- If every `:status` of the stream is a number, no message is lost. -/
theorem Inv.run_seen {actions : List Action} (h : Inv request s)
    (hrun : run (State.step request) s actions = some s')
    (hnumber : ∀ message ∈ delivered actions, StatusIsNumber request.stream message) :
    seen s'.log = seen s.log ++ delivered actions := by
  induction actions generalizing s with
  | nil => exact Option.some.inj hrun ▸ (List.append_nil _).symm
  | cons action actions ih =>
      obtain ⟨s₁, hs, hrun⟩ := run_cons_eq_some.mp hrun
      have hrest := ih (h.step hs) hrun fun message hmem =>
        hnumber message (List.mem_append_right _ hmem)
      cases action with
      | event now event =>
          have hhandled : (s.client.quicEventReceived now event).2 = event.messages :=
            quicEventReceived_handled h.stream event fun message hmem =>
              hnumber message (List.mem_append_left _ hmem)
          rw [step_event, hhandled] at hs
          cases hs
          rw [hrest]
          show seen (s.log ++ _ ++ _) ++ _ = seen s.log ++ (event.messages ++ delivered actions)
          rw [List.append_assoc, seen_append, seen_event, List.append_assoc]
      | resume now =>
          rw [hrest, seen_resume hs]
          rfl
      | abort =>
          obtain ⟨-, hs⟩ := Option.ite_none_right_eq_some.mp hs
          cases hs
          exact hrest

theorem seen_start (request : Request) (client : Http3Client) :
    seen (start request client).log = [] :=
  seen_uploadFrom _ _ _ _

end State

end PxManager.Speed
