import PxManager.Transport.QuicTunnel

/-!
# PxManager.Transport.QuicReceive

What `QuicTunnel` returns of what it was fed, for every order of events and calls.

A call of `receive` that comes to something after the end mark should return the next bytes, or
raise `EndOfStream` when there are none. It does iff no reset and no end of the connection got in
between: one that was processed before the call was made, or while it was waiting.
-/

namespace PxManager.Transport

open PxManager.Core

namespace Http3Connect

/-- `buffered` went beyond its limit. -/
def LimitHit (s : Http3Connect) : Prop := StreamEntry.mark QuicMark.tooLarge ∈ s.log

instance (s : Http3Connect) : Decidable s.LimitHit :=
  inferInstanceAs (Decidable (StreamEntry.mark QuicMark.tooLarge ∈ s.log))

/-- What holds while the limit is not hit. -/
structure Inv (s : Http3Connect) : Prop where
  buffered : Buffered s.log s.tunnel.reader.buffer
  count : s.tunnel.buffered = s.tunnel.reader.buffer.length
  interrupted : s.tunnel.reader.exception.isSome = s.interrupted
  waits : s.tunnel.reader.WaitsRight

theorem inv_new : Inv new :=
  ⟨Buffered.nil, rfl, rfl, StreamReader.waitsRight_new⟩

variable {s s' : Http3Connect} {messages : List H3Message} {maxBytes : Nat}

/-- A change that keeps what `Inv` looks at. -/
theorem Inv.of_eq (h : Inv s) (htunnel : s'.tunnel = s.tunnel) (hlog : s'.log = s.log)
    (hinterrupted : s'.interrupted = s.interrupted) : Inv s' := by
  refine ⟨?_, ?_, ?_, ?_⟩
  · rw [htunnel, hlog]
    exact h.buffered
  · rw [htunnel]
    exact h.count
  · rw [htunnel, hinterrupted]
    exact h.interrupted
  · rw [htunnel]
    exact h.waits

theorem settle_same (s : Http3Connect) (outcome : Future) :
    (s.settle outcome).tunnel = s.tunnel ∧ (s.settle outcome).log = s.log ∧
      (s.settle outcome).interrupted = s.interrupted := by
  unfold settle
  split <;> exact ⟨rfl, rfl, rfl⟩

theorem Inv.settle (h : Inv s) (outcome : Future) : Inv (s.settle outcome) := by
  obtain ⟨htunnel, hlog, hinterrupted⟩ := settle_same s outcome
  exact h.of_eq htunnel hlog hinterrupted

theorem Inv.answer (h : Inv s) (status : Int) : Inv (s.answer status) := by
  unfold Http3Connect.answer
  split
  · exact h.settle _
  · exact h

theorem Inv.interrupt (h : Inv s) : Inv s.interrupt := by
  have hsettled := h.settle (.exception (.connectionError "HTTP/3 CONNECT прерван"))
  refine ⟨?_, ?_, ?_, hsettled.waits.setException _⟩
  · exact (StreamReader.wake_buffer _).symm ▸ hsettled.buffered
  · exact (StreamReader.wake_buffer _).symm ▸ hsettled.count
  · exact congrArg Option.isSome (StreamReader.wake_exception _)

theorem Inv.finish (h : Inv s) (streamEnded : Bool) : Inv (s.finish streamEnded) := by
  cases streamEnded with
  | false => exact h
  | true =>
      refine ⟨?_, ?_, ?_, h.waits.feedEof⟩
      · exact (StreamReader.wake_buffer _).symm ▸ h.buffered
      · exact (StreamReader.wake_buffer _).symm ▸ h.count
      · exact (congrArg Option.isSome (StreamReader.wake_exception _)).trans h.interrupted

theorem feed_log {data : Bytes} (hfeed : s.feed data = some s') : s.log <+: s'.log := by
  obtain ⟨tunnel, -, rfl⟩ := Option.map_eq_some_iff.mp hfeed
  exact List.prefix_append _ _

theorem Inv.feed {data : Bytes} (h : Inv s) (hfeed : s.feed data = some s')
    (hlimit : ¬ s'.LimitHit) : Inv s' := by
  obtain ⟨tunnel, htunnel, rfl⟩ := Option.map_eq_some_iff.mp hfeed
  unfold QuicTunnel.feed at htunnel
  simp only at htunnel
  by_cases hlarge : QuicTunnel.maxBuffered < s.tunnel.buffered + data.length
  · rw [if_pos hlarge] at htunnel
    cases htunnel
    refine absurd ?_ hlimit
    unfold LimitHit
    simp only [if_pos hlarge]
    exact List.mem_append_right _ (List.mem_singleton_self _)
  · rw [if_neg hlarge] at htunnel
    obtain ⟨reader, hreader, rfl⟩ := Option.map_eq_some_iff.mp htunnel
    obtain ⟨hbuffer, -, hexception⟩ := StreamReader.feedData_eq hreader
    simp only [if_neg hlarge]
    refine ⟨?_, ?_, ?_, h.waits.feedData hreader⟩
    · show Buffered (s.log ++ [.fed data]) reader.buffer
      exact hbuffer ▸ h.buffered.fed data
    · show s.tunnel.buffered + data.length = reader.buffer.length
      rw [hbuffer, h.count, List.length_append]
      omega
    · show reader.exception.isSome = s.interrupted
      rw [hexception]
      exact h.interrupted

theorem LimitHit.of_log (h : s.LimitHit) (hlog : s.log <+: s'.log) : s'.LimitHit :=
  hlog.subset h

theorem finish_log (s : Http3Connect) (streamEnded : Bool) :
    (s.finish streamEnded).log = s.log := by
  cases streamEnded <;> rfl

theorem answer_log (s : Http3Connect) (status : Int) : (s.answer status).log = s.log := by
  unfold answer
  split
  · exact (settle_same s _).2.1
  · rfl

/-- The loop over the messages keeps the log, and `Inv` unless it hits the limit. -/
theorem handleMessages_spec (h : s.handleMessages messages = some s') :
    s.log <+: s'.log ∧ (Inv s → ¬ s'.LimitHit → Inv s') := by
  induction messages generalizing s with
  | nil => exact Option.some.inj h ▸ ⟨List.prefix_refl _, fun hinv _ => hinv⟩
  | cons message messages ih =>
      have hsame : ∀ s₁ : Http3Connect, s₁.log = s.log → (Inv s → Inv s₁) →
          s₁.handleMessages messages = some s' →
          s.log <+: s'.log ∧ (Inv s → ¬ s'.LimitHit → Inv s') := by
        intro s₁ hlog hinv h₁
        obtain ⟨hgrows, hrest⟩ := ih h₁
        exact ⟨hlog ▸ hgrows, fun h => hrest (hinv h)⟩
      rw [handleMessages.eq_def] at h
      simp only at h
      split at h
      · exact hsame s rfl id h
      · cases message with
        | headersReceived stream status streamEnded =>
            cases status with
            | malformed => exact Option.some.inj h ▸ ⟨List.prefix_refl _, fun hinv _ => hinv⟩
            | absent =>
                exact hsame _ ((finish_log _ _).trans (answer_log s 0))
                  (fun hinv => (hinv.answer 0).finish streamEnded) h
            | code status =>
                exact hsame _ ((finish_log _ _).trans (answer_log s status))
                  (fun hinv => (hinv.answer status).finish streamEnded) h
        | dataReceived stream data streamEnded =>
            obtain ⟨s₁, hfeed, h₁⟩ := Option.bind_eq_some_iff.mp h
            obtain ⟨hgrows, hrest⟩ := ih h₁
            rw [finish_log] at hgrows
            refine ⟨(feed_log hfeed).trans hgrows, ?_⟩
            intro hinv hlimit
            have hlimit₁ : ¬ s₁.LimitHit := fun hbad => hlimit (hbad.of_log hgrows)
            exact hrest ((hinv.feed hfeed hlimit₁).finish streamEnded) hlimit
        | other stream streamEnded =>
            exact hsame _ (finish_log s streamEnded) (fun hinv => hinv.finish streamEnded) h

/-- What a call comes to when it takes from a buffer. -/
def taken (buffer : Bytes) (n : Nat) : StreamEntry QuicMark :=
  if buffer = [] then .endOfStream else .returned (buffer.take n)

theorem after_take (s : Http3Connect) (reader : StreamReader Http3Error) {n : Nat} (hn : 1 ≤ n) :
    s.after (s.tunnel.received (reader.take n)) = { s with
      tunnel := {
        reader := { reader with buffer := reader.buffer.drop n }
        buffered := s.tunnel.buffered - (reader.buffer.take n).length }
      log := s.log ++ [taken reader.buffer n] } := by
  unfold taken StreamReader.take QuicTunnel.received
  by_cases hbuffer : reader.buffer = []
  · simp [hbuffer, after]
  · have htake : reader.buffer.take n ≠ [] := by
      intro hnil
      rcases List.take_eq_nil_iff.mp hnil with hzero | hnil
      · omega
      · exact hbuffer hnil
    simp only [if_neg hbuffer, if_neg htake]
    rfl

/-- A call that takes from the buffer keeps `Inv`. -/
theorem Inv.take (h : Inv s) {reader : StreamReader Http3Error} {n : Nat} (hn : 1 ≤ n)
    (hbuffer : reader.buffer = s.tunnel.reader.buffer)
    (hexception : reader.exception = s.tunnel.reader.exception) (hreading : reader.reading = none) :
    Inv (s.after (s.tunnel.received (reader.take n))) := by
  have hbuffered := h.buffered
  have hcount := h.count
  rw [← hbuffer] at hbuffered hcount
  rw [after_take s reader hn]
  refine ⟨?_, ?_, ?_, StreamReader.waitsRight_of_not_reading hreading⟩
  · show Buffered (s.log ++ [taken reader.buffer n]) (reader.buffer.drop n)
    unfold taken
    by_cases hempty : reader.buffer = []
    · rw [if_pos hempty]
      rw [hempty] at hbuffered ⊢
      rw [List.drop_nil]
      exact hbuffered.endOfStream
    · rw [if_neg hempty]
      exact hbuffered.returned hempty hn
  · show s.tunnel.buffered - (reader.buffer.take n).length = (reader.buffer.drop n).length
    rw [hcount, List.length_take, List.length_drop]
    omega
  · show reader.exception.isSome = s.interrupted
    rw [hexception]
    exact h.interrupted

/-- A call that raises keeps `Inv`. -/
theorem Inv.raise (h : Inv s) (error : Http3Error) :
    Inv { s with log := s.log ++ [.mark (.raised error)] } :=
  ⟨h.buffered.mark _, h.count, h.interrupted, h.waits⟩

theorem Inv.receive (h : Inv s) (hn : 1 ≤ maxBytes) (hreading : s.tunnel.reader.reading = none) :
    Inv (s.after (s.tunnel.receive maxBytes)) := by
  unfold QuicTunnel.receive
  rcases s.tunnel.reader.read_cases hn with
    ⟨error, -, hread⟩ | ⟨-, hbuffer, heof, hread⟩ | ⟨-, -, hread⟩
  · rw [hread]
    exact h.raise error
  · rw [hread]
    refine ⟨h.buffered, h.count, h.interrupted, ?_⟩
    refine ⟨?_, ?_, ?_⟩
    · intro n w hw
      cases hw
      exact hn
    · intro n hw
      exact ⟨hbuffer, heof⟩
    · intro n hw
      cases hw
  · rw [hread]
    exact h.take hn rfl rfl hreading

theorem Inv.resume (h : Inv s) {result : QuicTunnel.Received × QuicTunnel}
    (hresume : s.tunnel.resume = some result) : Inv (s.after result) := by
  obtain ⟨read, hread, rfl⟩ := Option.map_eq_some_iff.mp hresume
  rcases StreamReader.resume_cases hread with ⟨n, hreading, rfl⟩ | ⟨n, error, hreading, rfl⟩
  · exact h.take (h.waits.pos n _ hreading) rfl rfl rfl
  · refine ⟨h.buffered.mark _, h.count, h.interrupted, ?_⟩
    exact StreamReader.waitsRight_of_not_reading rfl

/-! ### Runs -/

theorem after_log (s : Http3Connect) (result : QuicTunnel.Received × QuicTunnel) :
    s.log <+: (s.after result).log := by
  obtain ⟨received, tunnel⟩ := result
  cases received with
  | waits => exact List.prefix_refl _
  | returned data => exact List.prefix_append _ _
  | endOfStream => exact List.prefix_append _ _
  | raises error => exact List.prefix_append _ _

theorem interrupt_log (s : Http3Connect) : s.interrupt.log = s.log :=
  (settle_same s _).2.1

variable {action : QuicAction}

theorem step_log (h : s.step action = some s') : s.log <+: s'.log := by
  cases action with
  | openStream stream =>
      obtain ⟨-, h⟩ := Option.ite_none_right_eq_some.mp h
      exact Option.some.inj h ▸ List.prefix_refl _
  | event event =>
      have hlog := (handleMessages_spec h).1
      split at hlog
      · exact interrupt_log s ▸ hlog
      · exact hlog
  | receive maxBytes =>
      obtain ⟨-, h⟩ := Option.ite_none_right_eq_some.mp h
      exact Option.some.inj h ▸ after_log s _
  | resume =>
      obtain ⟨result, -, rfl⟩ := Option.map_eq_some_iff.mp h
      exact after_log s result

theorem limitHit_step (hbad : s.LimitHit) (h : s.step action = some s') : s'.LimitHit :=
  hbad.of_log (step_log h)

theorem Inv.step (hinv : Inv s) (hmax : ∀ n, action = .receive n → 1 ≤ n)
    (h : s.step action = some s') (hlimit : ¬ s'.LimitHit) : Inv s' := by
  cases action with
  | openStream stream =>
      obtain ⟨-, h⟩ := Option.ite_none_right_eq_some.mp h
      exact Option.some.inj h ▸ hinv.of_eq rfl rfl rfl
  | event event =>
      refine (handleMessages_spec h).2 ?_ hlimit
      split
      · exact hinv.interrupt
      · exact hinv
  | receive maxBytes =>
      obtain ⟨hreading, h⟩ := Option.ite_none_right_eq_some.mp h
      exact Option.some.inj h ▸ hinv.receive (hmax maxBytes rfl) hreading
  | resume =>
      obtain ⟨result, hresume, rfl⟩ := Option.map_eq_some_iff.mp h
      exact hinv.resume hresume

/-- What was fed and is still to be returned. -/
def owed (log : List (StreamEntry QuicMark)) : Bytes :=
  (fedBytes log).drop (returnedBytes log).length

/-- After the end mark, a call of `receive` comes to what it should: the next bytes that are owed,
or `EndOfStream` when none are. -/
def Delivers (s : Http3Connect) (action : QuicAction) (s' : Http3Connect) : Prop :=
  s.tunnel.reader.eof = true →
    match action with
    | .receive n => s'.log = s.log ++ [taken (owed s.log) n]
    | .resume => ∀ n w, s.tunnel.reader.reading = some (n, w) →
        s'.log = s.log ++ [taken (owed s.log) n]
    | _ => True

/-- After the end mark, no call of `receive` is made when a reset or the end of the connection was
processed before, and none goes on that had such an event while it was waiting. -/
def Undisturbed (s : Http3Connect) (action : QuicAction) (_ : Http3Connect) : Prop :=
  s.tunnel.reader.eof = true →
    match action with
    | .receive _ => s.interrupted = false
    | .resume => ∀ n error, s.tunnel.reader.reading ≠ some (n, .failed error)
    | _ => True

theorem taken_ne_raised (buffer : Bytes) (n : Nat) (error : Http3Error) :
    taken buffer n ≠ .mark (.raised error) := by
  unfold taken
  split <;> simp

theorem Inv.owed_eq (h : Inv s) : owed s.log = s.tunnel.reader.buffer :=
  h.buffered.drop_fedBytes

/-- A step delivers iff it is undisturbed. -/
theorem Inv.delivers_iff (hinv : Inv s) (hmax : ∀ n, action = .receive n → 1 ≤ n)
    (h : s.step action = some s') : Delivers s action s' ↔ Undisturbed s action s' := by
  unfold Delivers Undisturbed
  refine imp_congr_right ?_
  intro heof
  cases action with
  | openStream stream => exact Iff.rfl
  | event event => exact Iff.rfl
  | receive maxBytes =>
      obtain ⟨-, h⟩ := Option.ite_none_right_eq_some.mp h
      cases h
      have hn := hmax maxBytes rfl
      simp only [← hinv.interrupted, hinv.owed_eq]
      unfold QuicTunnel.receive
      rcases s.tunnel.reader.read_cases hn with
        ⟨error, hexception, hread⟩ | ⟨-, -, hopen, -⟩ | ⟨hexception, -, hread⟩
      · -- `read` raises before it looks at the buffer
        rw [hread, hexception]
        refine iff_of_false (fun hlog => ?_) (by simp)
        have hentry := List.singleton_inj.mp (List.append_cancel_left hlog)
        exact taken_ne_raised _ _ _ hentry.symm
      · rw [heof] at hopen
        cases hopen
      · rw [hread, hexception, after_take s s.tunnel.reader hn]
        exact iff_of_true rfl rfl
  | resume =>
      obtain ⟨result, hresume, rfl⟩ := Option.map_eq_some_iff.mp h
      obtain ⟨read, hread, rfl⟩ := Option.map_eq_some_iff.mp hresume
      simp only [hinv.owed_eq]
      rcases StreamReader.resume_cases hread with ⟨n, hreading, rfl⟩ | ⟨n, error, hreading, rfl⟩
      · -- woken by bytes or by the end mark, the call does not look at the exception again
        refine iff_of_true ?_ ?_
        · intro m w hw
          obtain ⟨rfl, -⟩ := Prod.mk.inj (Option.some.inj (hreading.symm.trans hw))
          rw [after_take s _ (hinv.waits.pos n _ hreading)]
        · intro m error hw
          cases hreading.symm.trans hw
      · refine iff_of_false (fun hlog => ?_) fun hnot => hnot n error hreading
        have hentry := List.singleton_inj.mp (List.append_cancel_left (hlog n _ hreading))
        exact taken_ne_raised _ _ _ hentry.symm

/-- **What `QuicTunnel` delivers.** In every run of events and of calls of `receive` that does not
hit the limit, `buffered` is the number of bytes that were fed and not returned, and no call is
left waiting after the end mark. Every call after the end mark comes to the next bytes that are
owed, and to `EndOfStream` when there are none, iff no reset and no end of the connection disturbs
it. -/
theorem receive_delivers_iff (actions : List QuicAction)
    (hmax : ∀ n, .receive n ∈ actions → 1 ≤ n) (hrun : run step new actions = some s)
    (hlimit : ¬ s.LimitHit) :
    s.tunnel.buffered = (fedBytes s.log).length - (returnedBytes s.log).length ∧
      (s.tunnel.reader.eof = true → ∀ n, s.tunnel.reader.reading ≠ some (n, .waiting)) ∧
      (Along step Delivers new actions ↔ Along step Undisturbed new actions) := by
  have hstep : ∀ s action s', action ∈ actions → Inv s → step s action = some s' →
      ¬ s'.LimitHit → Inv s' :=
    fun s action s' hmem hinv => hinv.step fun n hn => hmax n (hn ▸ hmem)
  have hinv : Inv s :=
    run_induction_unless (fun s action s' => limitHit_step) hstep inv_new hrun hlimit
  refine ⟨?_, ?_, ?_⟩
  · rw [hinv.count, ← hinv.buffered.balance, List.length_append]
    omega
  · intro heof n hn
    rw [(hinv.waits.waiting n hn).2] at heof
    cases heof
  · exact along_iff (fun s action s' => limitHit_step) hstep
      (fun s action s' hmem hinv h _ => hinv.delivers_iff (fun n hn => hmax n (hn ▸ hmem)) h)
      inv_new hrun hlimit

/-- Data, a piece of it, more data with the end mark, and `receive` up to `EndOfStream`. -/
def readToEnd : List QuicAction :=
  [.openStream 0, .event ⟨.other, [.headersReceived 0 (.code 200) false]⟩,
    .event ⟨.other, [.dataReceived 0 [1, 2, 3] false]⟩, .receive 2,
    .event ⟨.other, [.dataReceived 0 [4] true]⟩, .receive 65536, .receive 65536]

theorem receive_delivers_iff_readToEnd : ∃ s, run step new readToEnd = some s ∧
    s.log = [.fed [1, 2, 3], .returned [1, 2], .fed [4], .returned [3, 4], .endOfStream] ∧
    s.tunnel.buffered = (fedBytes s.log).length - (returnedBytes s.log).length ∧
    Along step Delivers new readToEnd := by
  obtain ⟨s, hrun, hlog⟩ : ∃ s, run step new readToEnd = some s ∧
      s.log = [.fed [1, 2, 3], .returned [1, 2], .fed [4], .returned [3, 4], .endOfStream] :=
    Option.map_eq_some_iff.mp (by decide)
  have hmax : ∀ n, .receive n ∈ readToEnd → 1 ≤ n := by
    intro n hn
    simp only [readToEnd, List.mem_cons, reduceCtorEq, QuicAction.receive.injEq, false_or,
      List.not_mem_nil, or_false] at hn
    omega
  have hlimit : ¬ s.LimitHit := by
    rw [LimitHit, hlog]
    decide
  have hundisturbed : Along step Undisturbed new readToEnd := by
    iterate 7 refine (along_cons rfl).mpr ⟨fun _ => by trivial, ?_⟩
    exact trivial
  obtain ⟨hcount, -, hiff⟩ := receive_delivers_iff readToEnd hmax hrun hlimit
  exact ⟨s, hrun, hlog, hcount, hiff.mpr hundisturbed⟩

/-- The end mark comes with data, and the connection is terminated before `receive` is called. -/
def terminatedAfterEnd : List QuicAction :=
  [.openStream 0, .event ⟨.other, [.headersReceived 0 (.code 200) false]⟩,
    .event ⟨.other, [.dataReceived 0 [1, 2, 3] true]⟩, .event ⟨.connectionTerminated, []⟩,
    .receive 65536]

/-- `receive` raises with three bytes in the buffer. -/
theorem receive_raises_after_end :
    (run step new terminatedAfterEnd).map Http3Connect.log =
      some [.fed [1, 2, 3], .mark (.raised (.connectionError "HTTP/3 CONNECT прерван"))] ∧
    ¬ Along step Delivers new terminatedAfterEnd := by
  refine ⟨by decide, ?_⟩
  intro h
  have hend := ((along_cons rfl).mp ((along_cons rfl).mp ((along_cons rfl).mp h).2).2).2
  have hlog := ((along_cons rfl).mp ((along_cons rfl).mp hend).2).1 rfl
  exact absurd hlog (by decide)

end Http3Connect

end PxManager.Transport
