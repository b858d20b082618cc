import PxManager.Speed.Request

/-!
# PxManager.Speed.OtherStreams

What is on other streams does not matter to a request that returns a result. A request that starts
from any other client, and is spared the events of other streams, returns the same result.

The two runs are kept in step. They part only where a reset of another stream meets the pending
response, and there the first does not return a result (`Failed`).
-/

namespace PxManager.Speed

open PxManager.Core
open PxManager.Transport

/-- A message of this stream, or of none. -/
def concerns (stream : Nat) (message : H3Message) : Bool :=
  decide (message.stream = none ∨ message.stream = some stream)

/-- An event without what it says of other streams than this one. -/
def forgetEvent (stream : Nat) (event : QuicEvent) : QuicEvent where
  kind :=
    match event.kind with
    | .streamReset id => if id = stream then .streamReset id else .other
    | kind => kind
  messages := event.messages.filter (concerns stream)

/-- An action without what it says of other streams. -/
def Action.forget (stream : Nat) : Action → Action
  | .event now quicEvent => .event now (forgetEvent stream quicEvent)
  | action => action

/-- A request that does not return a result: it has ended otherwise, or its response is an
exception. -/
def State.Failed (s : State) : Prop :=
  (s.suspended ≠ none ∧ ∃ error, s.client.response = some (.exception error)) ∨
    (s.suspended = none ∧ ∀ result, s.outcome ≠ some (.returned result))

variable {request : Request} {client : Http3Client} {now : ℚ}

theorem handleMessages_forget {stream : Nat} (hstream : client.stream = some stream)
    (messages : List H3Message) :
    (client.handleMessages now (messages.filter (concerns stream))).1 =
      (client.handleMessages now messages).1 := by
  induction messages generalizing client with
  | nil => rfl
  | cons message messages ih =>
      by_cases hown : concerns stream message = true
      · rw [List.filter_cons_of_pos hown]
        unfold Http3Client.handleMessages
        cases hmessage : client.handleMessage now message with
        | none => rfl
        | some client' => exact ih ((handleMessage_stream hmessage).trans hstream)
      · have hskip : client.handleMessage now message = some client := by
          unfold Http3Client.handleMessage
          rw [if_pos]
          exact .inr fun heq => hown (decide_eq_true (.inr (heq.trans hstream)))
        rw [List.filter_cons_of_neg hown, ih hstream]
        conv_rhs => unfold Http3Client.handleMessages
        rw [hskip]

/-- Only a reset of another stream that meets the pending response makes a difference. -/
theorem quicEventReceived_forget {stream : Nat} (hstream : client.stream = some stream)
    (event : QuicEvent) :
    (client.quicEventReceived now (forgetEvent stream event)).1 =
        (client.quicEventReceived now event).1 ∨
      ∃ error, (client.quicEventReceived now event).1.response = some (.exception error) := by
  have hkind : (forgetEvent stream event).interrupts = event.interrupts ∨
      event.interrupts = true ∧ (forgetEvent stream event).interrupts = false := by
    unfold QuicEvent.interrupts forgetEvent
    cases event.kind with
    | connectionTerminated => exact .inl rfl
    | other => exact .inl rfl
    | streamReset id =>
        by_cases hid : id = stream
        · exact .inl (by simp [hid])
        · exact .inr (by simp [hid])
  rcases hkind with hkind | ⟨hkind, hforgot⟩
  · -- the same kind of event, with fewer messages
    left
    unfold Http3Client.quicEventReceived
    rw [hkind]
    refine handleMessages_forget ?_ event.messages
    split
    · exact (interrupt_stream client).trans hstream
    · exact hstream
  · -- a reset of another stream, which is forgotten
    by_cases hpending : client.response = some .pending
    · right
      have hexception : client.interrupt.response =
          some (.exception (.connectionError "HTTP/3 соединение прервано")) := by
        unfold Http3Client.interrupt
        rw [if_pos hpending]
      have hdone : client.interrupt.response ≠ some .pending := by
        rw [hexception]
        exact fun h => by cases h
      unfold Http3Client.quicEventReceived
      rw [if_pos hkind, handleMessages_of_done hdone]
      exact ⟨_, hexception⟩
    · left
      rw [quicEventReceived_of_done hpending, quicEventReceived_of_done hpending]

/-- A message of a stream. -/
def Entry.isOn (stream : Nat) : Entry → Bool
  | .message seen => seen.stream == some stream
  | _ => false

/-- The end mark of a stream. -/
def Entry.endsStream (stream : Nat) : Entry → Bool
  | .message seen => seen.stream == some stream && seen.streamEnded
  | _ => false

namespace State

variable {s s' : State} {action : Action}

/-! ### The log is not looked at -/

theorem awaitResponse_log (now : ℚ) (s : State) (log : List Entry) :
    { s with log }.awaitResponse now = { s.awaitResponse now with log } := by
  unfold awaitResponse
  cases hresponse : s.client.response with
  | none => rfl
  | some response => cases response <;> rfl

theorem uploadFrom_log (now : ℚ) (upload : Nat) (s : State) (offset : Nat) (log : List Entry) :
    ∃ log', { s with log }.uploadFrom now upload offset =
      { s.uploadFrom now upload offset with log := log' } := by
  unfold uploadFrom
  split
  · exact ⟨_, rfl⟩
  · exact ⟨log, awaitResponse_log now s log⟩

theorem resume_log (h : s.resume request.upload now = some s') (log : List Entry) :
    ∃ log', { s with log }.resume request.upload now = some { s' with log := log' } := by
  unfold State.resume at h ⊢
  split at h
  · next offset hsuspended =>
      simp only [hsuspended]
      split at h
      · next hdone =>
          rw [if_pos hdone]
          split at h
          · cases h
            exact ⟨log, rfl⟩
          · cases h
            exact ⟨log, rfl⟩
      · next hgo =>
          cases h
          rw [if_neg hgo]
          obtain ⟨log', hlog⟩ := uploadFrom_log now request.upload s (offset + blockSize) log
          exact ⟨log', congrArg some hlog⟩
  · cases h
  · next hsuspended hpending =>
      cases h
      simp only [hsuspended]
      have hlog := awaitResponse_log now s log
      rw [hsuspended] at hlog
      exact ⟨log, congrArg some hlog⟩
  · cases h

/-! ### What has failed stays so -/

theorem failed_leave {outcome : Outcome} (h : ∀ result, outcome ≠ .returned result) :
    (s.leave outcome).Failed :=
  .inr ⟨rfl, fun result heq => h result (Option.some.inj heq)⟩

theorem failed_awaitResponse {error : Http3Error}
    (h : s.client.response = some (.exception error)) : (s.awaitResponse now).Failed := by
  unfold awaitResponse
  rw [h]
  exact failed_leave fun result heq => by cases heq

theorem failed_resume {error : Http3Error} (h : s.client.response = some (.exception error))
    (hs : s.resume request.upload now = some s') : s'.Failed := by
  unfold State.resume at hs
  rw [h] at hs
  split at hs
  · next offset hsuspended =>
      split at hs
      · cases hs
        exact failed_leave fun result heq => by cases heq
      · next hgo =>
          -- the last chunk is out, and `await response` raises
          have hdone : some (Future.exception error) ≠ some .pending := fun heq => by cases heq
          have hend : ¬ offset + blockSize < request.upload := fun hlt => hgo ⟨hdone, hlt⟩
          cases hs
          unfold uploadFrom
          rw [if_neg hend]
          exact failed_awaitResponse h
  · cases hs
  · cases hs
    exact failed_awaitResponse h
  · cases hs

theorem failed_step (hfailed : s.Failed) (hs : s.step request action = some s') : s'.Failed := by
  rcases hfailed with ⟨hlive, error, hresponse⟩ | ⟨hleft, houtcome⟩
  · cases action with
    | event now event =>
        have hdone : s.client.response ≠ some .pending := by
          rw [hresponse]
          exact fun h => by cases h
        rw [step_event, quicEventReceived_of_done hdone] at hs
        cases hs
        exact .inl ⟨hlive, error, hresponse⟩
    | resume now => exact failed_resume hresponse hs
    | abort =>
        obtain ⟨-, hs⟩ := Option.ite_none_right_eq_some.mp hs
        exact Option.some.inj hs ▸ failed_leave fun result heq => by cases heq
  · cases action with
    | event now event =>
        rw [step_event] at hs
        cases hs
        exact .inr ⟨hleft, houtcome⟩
    | resume now =>
        have hs : s.resume request.upload now = some s' := hs
        unfold State.resume at hs
        rw [hleft] at hs
        cases hs
    | abort =>
        obtain ⟨hlive, -⟩ := Option.ite_none_right_eq_some.mp hs
        rw [hleft] at hlive
        cases hlive

/-! ### Two runs in step -/

/-- A step of a request that does not fail is one of the request that is spared the events of other
streams. -/
theorem Inv.step_forget (h : Inv request s) (hs : s.step request action = some s')
    (hgood : ¬ s'.Failed) (log : List Entry) :
    ∃ log', { s with log }.step request (action.forget request.stream) =
      some { s' with log := log' } := by
  cases action with
  | event now event =>
      rw [step_event] at hs
      cases hs
      have heq : (s.client.quicEventReceived now (forgetEvent request.stream event)).1 =
          (s.client.quicEventReceived now event).1 := by
        refine (quicEventReceived_forget h.stream event).resolve_right ?_
        -- an exception would be a failure, or an answer to a request that has ended
        intro ⟨error, hexception⟩
        refine hgood (.inl ⟨fun hleft => ?_, error, hexception⟩)
        have hdone : s.client.response ≠ some .pending := by
          rw [h.left hleft]
          exact fun h => by cases h
        rw [quicEventReceived_of_done hdone, h.left hleft] at hexception
        cases hexception
      simp only [Action.forget, step_event, heq]
      exact ⟨_, rfl⟩
  | resume now => exact resume_log hs log
  | abort =>
      obtain ⟨hlive, hs⟩ := Option.ite_none_right_eq_some.mp hs
      cases hs
      exact ⟨log, if_pos hlive⟩

/-- A run that does not fail is one of the request that is spared the events of other streams. -/
theorem Inv.run_forget {actions : List Action} (h : Inv request s)
    (hrun : run (State.step request) s actions = some s') (hgood : ¬ s'.Failed) (log : List Entry) :
    ∃ log', run (State.step request) { s with log } (actions.map (Action.forget request.stream)) =
      some { s' with log := log' } := by
  induction actions generalizing s log with
  | nil => exact ⟨log, Option.some.inj hrun ▸ rfl⟩
  | cons action actions ih =>
      obtain ⟨s₁, hs, hrun⟩ := run_cons_eq_some.mp hrun
      have hgood₁ := run_not_of_not (fun s action s' => failed_step) hrun hgood
      obtain ⟨log₁, hs₁⟩ := h.step_forget hs hgood₁ log
      obtain ⟨log', hrun'⟩ := ih (h.step hs) hrun log₁
      exact ⟨log', run_cons_eq_some.mpr ⟨_, hs₁, hrun'⟩⟩

/-- HTTP/3 brings nothing on a stream after its end mark. -/
def EndMarkIsLast (stream : Nat) (log : List Entry) : Prop :=
  log.Pairwise fun entry entry' => entry.endsStream stream = true → entry'.isOn stream = false

instance (stream : Nat) (log : List Entry) : Decidable (EndMarkIsLast stream log) :=
  inferInstanceAs (Decidable (log.Pairwise fun entry entry' =>
    entry.endsStream stream = true → entry'.isOn stream = false))

/-- **What a result of `request` means.** Events on this and on other streams come in any order
between the turns of the upload loop. If `request` returns a result, the log of the request has the
end mark of its stream, and up to there:
a final header with a status of 200 to 299; all of the DATA that the result counts, and captures;
no reset and no termination; and the whole upload in chunks of 1 to 65536 bytes, of which the last
ends the stream. The log has every message that was delivered, unless `int` raises at a `:status`.
A request that starts from any other client, and is spared the events of other streams, returns the
same result. -/
theorem request_returned (request : Request) (client : Http3Client) (actions : List Action)
    {result : Result} (hrun : run (step request) (start request client) actions = some s)
    (hresult : s.outcome = some (.returned result)) (hlast : EndMarkIsLast request.stream s.log) :
    (∃ before message after, s.log = before ++ .message message :: after ∧
      (∀ message', .message message' ∈ before → message'.stream = some request.stream →
        message'.streamEnded = false) ∧
      CompleteResponse request result before message ∧ CompleteUpload request before after) ∧
    ((∀ message ∈ delivered actions, StatusIsNumber request.stream message) →
      seen s.log = delivered actions) ∧
    ∀ client', ∃ s', run (step request) (start request client')
      (actions.map (Action.forget request.stream)) = some s' ∧
        s'.outcome = some (.returned result) := by
  have hstart := inv_start request client
  have hinv : Inv request s := run_induction (fun s action s' _ h hs => h.step hs) hstart hrun
  refine ⟨?_, ?_, ?_⟩
  · obtain ⟨before, message, after, hlog, hresponse, hupload⟩ := hinv.returned result hresult
    refine ⟨before, message, after, hlog, fun message' hmem hstream => ?_, hresponse, hupload⟩
    -- an earlier end mark would have this message after it
    obtain ⟨first, rest, rfl⟩ := List.append_of_mem hmem
    rw [hlog, List.append_assoc, List.cons_append] at hlast
    have hpair := List.rel_of_pairwise_cons (List.pairwise_append.mp hlast).2.1
      (List.mem_append_right rest List.mem_cons_self)
    by_contra hended
    rw [Bool.not_eq_false] at hended
    have hon := hpair (by simp [Entry.endsStream, hstream, hended])
    simp [Entry.isOn, hresponse.stream] at hon
  · intro hnumber
    have hseen := hstart.run_seen hrun hnumber
    rwa [seen_start, List.nil_append] at hseen
  · intro client'
    have hgood : ¬ s.Failed := by
      intro hfailed
      rcases hfailed with ⟨hlive, -⟩ | ⟨-, hnot⟩
      · cases (hinv.running hlive).symm.trans hresult
      · exact hnot result hresult
    obtain ⟨log', hrun'⟩ := hstart.run_forget hrun hgood (start request client').log
    exact ⟨_, hrun', hresult⟩

/-- An upload of 3 bytes on stream 8. DATA of stream 4 comes in between, and is not counted. -/
theorem request_returned_upload : ∃ s,
    run (step ⟨8, 3, 65536, true, 0⟩) (start ⟨8, 3, 65536, true, 0⟩
      { response := none, stream := some 4, received := 7, limit := 9, capture := false, body := [1],
        ttfb := some 5, started := 0 })
      [.event 1 ⟨.other, [.dataReceived 4 [9, 9] true]⟩,
        .event 2 ⟨.other, [.headersReceived 8 (.code 200) false]⟩, .resume 3,
        .event 4 ⟨.other, [.dataReceived 8 [5, 6] true]⟩, .resume 5] = some s ∧
    s.outcome = some (.returned { bytes := 2, body := [5, 6], ttfbMs := some 2000, seconds := 5 }) ∧
    ∃ before message after, s.log = before ++ .message message :: after ∧
      CompleteUpload ⟨8, 3, 65536, true, 0⟩ before after := by
  have hrun : (run (step ⟨8, 3, 65536, true, 0⟩) (start ⟨8, 3, 65536, true, 0⟩
      { response := none, stream := some 4, received := 7, limit := 9, capture := false, body := [1],
        ttfb := some 5, started := 0 })
      [.event 1 ⟨.other, [.dataReceived 4 [9, 9] true]⟩,
        .event 2 ⟨.other, [.headersReceived 8 (.code 200) false]⟩, .resume 3,
        .event 4 ⟨.other, [.dataReceived 8 [5, 6] true]⟩, .resume 5]).map
      (fun s => (s.outcome, s.log)) =
      some (some (.returned { bytes := 2, body := [5, 6], ttfbMs := some 2000, seconds := 5 }),
        [.sent [0, 0, 0] true, .message (.dataReceived 4 [9, 9] true),
          .message (.headersReceived 8 (.code 200) false),
          .message (.dataReceived 8 [5, 6] true)]) := by
    decide +kernel
  obtain ⟨s, hrun, heq⟩ := Option.map_eq_some_iff.mp hrun
  obtain ⟨hresult, hlog⟩ := Prod.mk.inj heq
  have hlast : EndMarkIsLast 8 s.log := by
    rw [hlog]
    decide
  obtain ⟨before, message, after, hsplit, -, -, hupload⟩ :=
    (request_returned ⟨8, 3, 65536, true, 0⟩ _ _ hrun hresult hlast).1
  exact ⟨s, hrun, hresult, before, message, after, hsplit, hupload⟩

end State

end PxManager.Speed
