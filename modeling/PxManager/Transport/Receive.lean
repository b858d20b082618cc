import PxManager.Transport.Callers

/-!
# PxManager.Transport.Receive

What `TcpTunnel.receive` makes of the DATA that all callers of a tunnel read.

`frames` takes an empty read for the end of the connection. A call that was woken for bytes which
another call took before it went on gets one too, and `receive` then raises `EndOfStream` although
those bytes may be pending (`receive_ends_before_pending`). Where reads come in turn, `receive` is
an exact byte stream (`receive_exactStream`); and they do when the calls follow one another
(`inTurn_of_oneAtATime`).
-/

namespace PxManager.Transport

open PxManager.Core

namespace State

variable {κ : Type} {h2 : H2Connection κ} {s s' : State κ} {caller : Caller}

/-- `pending` went beyond its limit. -/
def LimitHit (s : State κ) : Prop := StreamEntry.mark TcpTunnel.tooLarge ∈ s.log

instance (s : State κ) : Decidable s.LimitHit :=
  inferInstanceAs (Decidable (StreamEntry.mark TcpTunnel.tooLarge ∈ s.log))

/-- If the call is one of `receive`, it has found nothing that it could return. -/
def Starved (pending : Bytes) (caller : Caller) : Prop :=
  caller.receives = true → pending = []

/-- Unless the limit was hit, `pending` is what the callers of `receive` are still to get. While one
of them waits for the reader nothing is pending, and while a call runs nobody waits. -/
structure Inv (s : State κ) : Prop where
  buffered : ¬ s.LimitHit → Buffered s.log s.tunnel.pending
  reader : s.reader.Keeps (Starved s.tunnel.pending)
  running : s.running ≠ none → s.reader.waiter = none

theorem starved_connect (pending : Bytes) : Starved pending .connect :=
  fun h => by cases h

theorem starved_send (pending item : Bytes) (offset : Int) :
    Starved pending (.send item offset) :=
  fun h => by cases h

/-- An entry that keeps the log right is added where the limit was not hit. -/
theorem Inv.snoc {entry : StreamEntry TunnelError} (h : Inv s)
    (hentry : Buffered s.log s.tunnel.pending → Buffered (s.log ++ [entry]) s.tunnel.pending) :
    Inv { s with log := s.log ++ [entry] } := by
  refine ⟨?_, h.reader, h.running⟩
  intro hlimit
  exact hentry (h.buffered fun hmem => hlimit (List.mem_append_left _ hmem))

theorem inv_init (connection : κ) : Inv (init connection) :=
  ⟨fun _ => Buffered.nil, SharedReader.keeps_new, fun h => absurd rfl h⟩

theorem Inv.abandon {error : TunnelError} (h : Inv s)
    (hend : error = .endOfStream → Starved s.tunnel.pending caller) :
    Inv (s.abandon error caller) := by
  cases caller with
  | connect => exact ⟨h.buffered, h.reader, h.running⟩
  | receive maxBytes =>
      rw [State.abandon]
      by_cases herror : error = .endOfStream
      · rw [if_pos herror]
        refine h.snoc ?_
        rw [hend herror rfl]
        exact Buffered.endOfStream
      · rw [if_neg herror]
        exact h
  | send item offset => exact h

theorem Inv.find {found : Found} (h : Inv s) (hcaller : Starved s.tunnel.pending caller)
    (hfound : found = .bytes → s.reader.waiter = none) : Inv (s.find caller found) := by
  cases found with
  | bytes => exact ⟨h.buffered, h.reader, fun _ => hfound rfl⟩
  | nothing => exact h.abandon fun _ => hcaller
  | waits => exact h
  | runtimeError => exact (h.snoc fun hlog => hlog.mark _).abandon fun herror => by cases herror

theorem Inv.readFrames (h : Inv s) (hrunning : s.running = none)
    (hcaller : Starved s.tunnel.pending caller) : Inv (s.readFrames caller) := by
  unfold State.readFrames
  rcases s.reader.read_cases caller with
    ⟨hunread, heq⟩ | ⟨-, -, heq⟩ | ⟨-, heq⟩ | ⟨hunread, heq⟩
  · -- while somebody waits there is nothing to read
    rw [heq]
    refine h.find hcaller fun _ => ?_
    cases hwaiter : s.reader.waiter with
    | none => rfl
    | some other => cases hunread.symm.trans (h.reader.unread other hwaiter)
  · rw [heq]
    exact h.find hcaller fun hfound => by cases hfound
  · rw [heq]
    exact h.find hcaller fun hfound => by cases hfound
  · rw [heq]
    exact ⟨h.buffered, h.reader.waits hunread hcaller, fun hne => absurd hrunning hne⟩

theorem Inv.goOn (h : Inv s) (hwoken : caller ∈ s.reader.woken) : Inv (s.goOn caller) := by
  have hgoes : Inv { s with reader := (s.reader.goOn caller).2 } :=
    ⟨h.buffered, h.reader.goOn caller, fun _ => rfl⟩
  exact hgoes.find (h.reader.woken caller hwoken) fun _ => rfl

theorem Inv.receive (h : Inv s) (hrunning : s.running = none) (maxBytes : ℕ+) :
    Inv (s.receive maxBytes) := by
  unfold State.receive TcpTunnel.receive
  by_cases hpending : s.tunnel.pending = []
  · rw [if_pos hpending]
    by_cases hended : s.tunnel.ended = true
    · rw [if_pos hended]
      refine h.snoc ?_
      rw [hpending]
      exact Buffered.endOfStream
    · rw [if_neg hended]
      exact h.readFrames hrunning fun _ => hpending
  · -- there is something to return, so no call of `receive` waits for the reader
    rw [if_neg hpending]
    refine ⟨?_, h.reader.imp ?_, h.running⟩
    · intro hlimit
      exact (h.buffered fun hmem => hlimit (List.mem_append_left _ hmem)).returned hpending
        maxBytes.pos
    · intro other hother hreceives
      exact absurd (hother hreceives) hpending

theorem sendLoop_pending (h2 : H2Connection κ) (item : Bytes) (sending : TcpTunnel.Sending κ) :
    (TcpTunnel.sendLoop h2 item sending).2.self.pending = sending.self.pending := by
  fun_induction TcpTunnel.sendLoop h2 item sending with
  | case1 => rfl
  | case2 => rfl
  | case3 => rfl
  | case4 => rfl
  | case5 sending hlt out hzero data connection hok next hends ih => exact ih
  | case6 => rfl

theorem Inv.tunnel {tunnel : TcpTunnel κ} {draining : List Draining} (h : Inv s)
    (hpending : tunnel.pending = s.tunnel.pending) : Inv { s with tunnel, draining } := by
  refine ⟨?_, ?_, h.running⟩
  · intro hlimit
    show Buffered s.log tunnel.pending
    exact hpending ▸ h.buffered hlimit
  · show s.reader.Keeps (Starved tunnel.pending)
    exact hpending ▸ h.reader

theorem Inv.send (h : Inv s) (item : Bytes) (offset : Int) : Inv (s.send h2 item offset) := by
  have hpending := sendLoop_pending h2 item { self := s.tunnel, offset, calls := [] }
  unfold State.send
  split
  · next sending heq =>
      rw [heq] at hpending
      exact h.tunnel hpending
  · next sending _ heq =>
      rw [heq] at hpending
      exact h.tunnel hpending

theorem Inv.connectLoop (h : Inv s) (hrunning : s.running = none) (events : List H2Event) :
    Inv (s.connectLoop events) := by
  unfold State.connectLoop
  split
  · split
    · exact ⟨h.buffered, h.reader, h.running⟩
    · exact ⟨h.buffered, h.reader, h.running⟩
  · split
    · exact ⟨h.buffered, h.reader, h.running⟩
    · exact h.readFrames hrunning (starved_connect _)

theorem Inv.drained (h : Inv s) (hrunning : s.running = none) (draining : Draining) :
    Inv (s.drained h2 draining) := by
  cases draining with
  | connect => exact h.readFrames hrunning (starved_connect _)
  | send item offset => exact h.readFrames hrunning (starved_send _ item offset)
  | frames caller events =>
      cases caller with
      | connect => exact h.connectLoop hrunning events
      | receive maxBytes => exact h.receive hrunning maxBytes
      | send item offset => exact h.send item offset

/-- The running call may add to `pending`, if no call of `receive` is still to go on. -/
theorem Inv.read (h : Inv s) (hrunning : s.running = some caller)
    (hwoken : ∀ other ∈ s.reader.woken, other.receives = false) (events : List H2Event)
    (unread : Bool) : Inv (s.read h2 caller events unread) := by
  have hwaiter : s.reader.waiter = none := h.running (by rw [hrunning]; exact Option.some_ne_none _)
  have hreader : ∀ pending, (s.reader.take unread).Keeps (Starved pending) := by
    intro pending
    refine SharedReader.keeps_of_not_waiting hwaiter ?_
    intro other hother hreceives
    exact absurd hreceives (Bool.eq_false_iff.mp (hwoken other hother))
  unfold State.read
  simp only
  rcases TcpTunnel.frames_cases h2 s.tunnel events with
    ⟨tunnel, hframes, -⟩ | ⟨tunnel, hframes, htaken, -⟩
  · rw [hframes]
    refine Inv.abandon ⟨?_, hreader _, fun hne => absurd rfl hne⟩ fun herror => by cases herror
    intro hlimit
    exact absurd (List.mem_append_right _ (List.mem_singleton_self _)) hlimit
  · rw [hframes]
    refine ⟨?_, hreader _, fun hne => absurd rfl hne⟩
    intro hlimit
    show Buffered _ tunnel.pending
    rw [htaken.pending]
    exact (h.buffered fun hmem => hlimit (List.mem_append_left _ hmem)).fed (payload events)

/-- A call that takes bytes does not take them from a woken call of `receive`. -/
def InTurn (s : State κ) : Action → Prop
  | .read _ _ => ∀ caller ∈ s.reader.woken, caller.receives = false
  | _ => True

instance (s : State κ) : (action : Action) → Decidable (s.InTurn action)
  | .read _ _ =>
      inferInstanceAs (Decidable (∀ caller ∈ s.reader.woken, caller.receives = false))
  | .receive _ | .send _ | .feedData | .feedEof | .goOn _ | .drained _ => isTrue trivial

theorem Inv.act {action : Action} (h : Inv s) (hrunning : s.running = none)
    (hs : s.act h2 action = some s') : Inv s' := by
  cases action with
  | receive maxBytes =>
      obtain ⟨-, hs⟩ := Option.ite_none_right_eq_some.mp hs
      exact Option.some.inj hs ▸ h.receive hrunning maxBytes
  | send item =>
      obtain ⟨-, hs⟩ := Option.ite_none_right_eq_some.mp hs
      exact Option.some.inj hs ▸ h.send item 0
  | feedData =>
      obtain ⟨reader, hfeed, rfl⟩ := Option.map_eq_some_iff.mp hs
      exact ⟨h.buffered, h.reader.feedData hfeed, fun hne => absurd hrunning hne⟩
  | feedEof =>
      rw [← Option.some.inj hs]
      exact ⟨h.buffered, h.reader.feedEof, fun hne => absurd hrunning hne⟩
  | goOn caller =>
      obtain ⟨hwoken, hs⟩ := Option.ite_none_right_eq_some.mp hs
      exact Option.some.inj hs ▸ h.goOn hwoken
  | read events unread => cases hs
  | drained draining =>
      obtain ⟨-, hs⟩ := Option.ite_none_right_eq_some.mp hs
      have htaken : Inv { s with draining := s.draining.erase draining } := h.tunnel rfl
      exact Option.some.inj hs ▸ htaken.drained hrunning draining

theorem Inv.step {action : Action} (h : Inv s) (hturn : s.InTurn action)
    (hs : s.step h2 action = some s') : Inv s' := by
  unfold State.step at hs
  split at hs
  · next hrunning => exact h.act hrunning hs
  · next caller hrunning =>
      split at hs
      · next events unread =>
          exact Option.some.inj hs ▸ h.read hrunning hturn events unread
      · cases hs

/-! ### Calls that follow one another -/

/-- How many calls have not come to their end. -/
def inFlight (s : State κ) : Nat :=
  s.reader.calls.length + s.running.toList.length + s.draining.length

/-- `receive` and `send` are called when no other call is on its way, as one task calls them. -/
def OneAtATime (s : State κ) : Action → Prop
  | .receive _ | .send _ => s.inFlight = 0
  | _ => True

@[simp] theorem inFlight_abandon (s : State κ) (error : TunnelError) (caller : Caller) :
    (s.abandon error caller).inFlight = s.inFlight := by
  cases caller with
  | connect => rfl
  | receive maxBytes =>
      unfold State.abandon
      simp only
      split <;> rfl
  | send item offset => rfl

theorem inFlight_find_le (hrunning : s.running = none) (caller : Caller) (found : Found) :
    (s.find caller found).inFlight ≤ s.inFlight + 1 := by
  cases found with
  | bytes => simp [State.find, inFlight, hrunning, Nat.add_right_comm]
  | nothing => exact (inFlight_abandon s _ caller).le.trans (Nat.le_succ _)
  | waits => exact Nat.le_succ _
  | runtimeError => exact (inFlight_abandon _ _ caller).le.trans (Nat.le_succ _)

theorem inFlight_readFrames_le (hrunning : s.running = none) (caller : Caller) :
    (s.readFrames caller).inFlight ≤ s.inFlight + 1 := by
  unfold State.readFrames
  rcases s.reader.read_cases caller with ⟨-, heq⟩ | ⟨-, -, heq⟩ | ⟨-, heq⟩ | ⟨-, heq⟩
  · rw [heq]
    exact inFlight_find_le hrunning caller .bytes
  · rw [heq]
    exact inFlight_find_le hrunning caller .nothing
  · rw [heq]
    exact inFlight_find_le hrunning caller .runtimeError
  · rw [heq]
    have hwaits := s.reader.length_calls_waits caller
    simp only [State.find, inFlight]
    omega

theorem inFlight_goOn_le (hrunning : s.running = none) (hwoken : caller ∈ s.reader.woken) :
    (s.goOn caller).inFlight ≤ s.inFlight := by
  have hgoes := SharedReader.length_calls_goOn hwoken
  have hle : (s.goOn caller).inFlight ≤ _ :=
    inFlight_find_le (s := { s with reader := (s.reader.goOn caller).2 }) hrunning caller _
  simp only [inFlight] at hle ⊢
  omega

theorem inFlight_receive_le (hrunning : s.running = none) (maxBytes : ℕ+) :
    (s.receive maxBytes).inFlight ≤ s.inFlight + 1 := by
  unfold State.receive
  split
  · exact Nat.le_succ _
  · exact Nat.le_succ _
  · next tunnel _ => exact inFlight_readFrames_le (s := { s with tunnel }) hrunning _

theorem inFlight_send_le (h2 : H2Connection κ) (s : State κ) (item : Bytes) (offset : Int) :
    (s.send h2 item offset).inFlight ≤ s.inFlight + 1 := by
  unfold State.send
  split
  · simp only [inFlight, List.length_append, List.length_singleton]
    omega
  · exact Nat.le_succ _

theorem inFlight_connectLoop_le (hrunning : s.running = none) (events : List H2Event) :
    (s.connectLoop events).inFlight ≤ s.inFlight + 1 := by
  unfold State.connectLoop
  split
  · split
    · exact Nat.le_succ _
    · exact Nat.le_succ _
  · split
    · exact Nat.le_succ _
    · exact inFlight_readFrames_le hrunning _

theorem inFlight_drained_le (h2 : H2Connection κ) (hrunning : s.running = none)
    (draining : Draining) :
    (s.drained h2 draining).inFlight ≤ s.inFlight + 1 := by
  cases draining with
  | connect => exact inFlight_readFrames_le hrunning _
  | send item offset => exact inFlight_readFrames_le hrunning _
  | frames caller events =>
      cases caller with
      | connect => exact inFlight_connectLoop_le hrunning events
      | receive maxBytes => exact inFlight_receive_le hrunning maxBytes
      | send item offset => exact inFlight_send_le h2 s item offset

theorem inFlight_act_le {action : Action} (hone : s.inFlight ≤ 1) (hcalled : s.OneAtATime action)
    (hrunning : s.running = none) (hs : s.act h2 action = some s') : s'.inFlight ≤ 1 := by
  cases action with
  | receive maxBytes =>
      obtain ⟨-, hs⟩ := Option.ite_none_right_eq_some.mp hs
      have hle := inFlight_receive_le hrunning maxBytes
      rw [show s.inFlight = 0 from hcalled, Option.some.inj hs] at hle
      exact hle
  | send item =>
      obtain ⟨-, hs⟩ := Option.ite_none_right_eq_some.mp hs
      have hle := inFlight_send_le h2 s item 0
      rw [show s.inFlight = 0 from hcalled, Option.some.inj hs] at hle
      exact hle
  | feedData =>
      obtain ⟨reader, hfeed, rfl⟩ := Option.map_eq_some_iff.mp hs
      rw [inFlight, SharedReader.length_calls_feedData hfeed]
      exact hone
  | feedEof =>
      rw [← Option.some.inj hs, inFlight, SharedReader.length_calls_feedEof]
      exact hone
  | goOn caller =>
      obtain ⟨hwoken, hs⟩ := Option.ite_none_right_eq_some.mp hs
      exact Option.some.inj hs ▸ (inFlight_goOn_le hrunning hwoken).trans hone
  | read events unread => cases hs
  | drained draining =>
      obtain ⟨hmem, hs⟩ := Option.ite_none_right_eq_some.mp hs
      have hpos := List.length_pos_of_mem hmem
      have hlength := List.length_erase_of_mem hmem
      have hle := inFlight_drained_le (s := { s with draining := s.draining.erase draining }) h2
        hrunning draining
      rw [Option.some.inj hs] at hle
      simp only [inFlight, hlength] at hone hle ⊢
      omega

theorem inFlight_read_le (hone : s.inFlight ≤ 1) (hrunning : s.running = some caller)
    (events : List H2Event) (unread : Bool) : (s.read h2 caller events unread).inFlight ≤ 1 := by
  have hcalls : (s.reader.take unread).calls = s.reader.calls := rfl
  simp only [inFlight, hrunning, Option.toList_some, List.length_singleton] at hone
  unfold State.read
  dsimp only
  split
  · simp only [inFlight, hcalls, Option.toList_none, List.length_nil, List.length_append,
      List.length_singleton]
    omega
  · rw [inFlight_abandon]
    simp only [inFlight, hcalls, Option.toList_none, List.length_nil]
    omega

/-- Calls that follow one another read in turn. -/
theorem inTurn_of_oneAtATime {actions : List Action} (connection : κ)
    (hcalls : Along (step h2) (fun s action _ => s.OneAtATime action) (init connection) actions) :
    Along (step h2) (fun s action _ => s.InTurn action) (init connection) actions := by
  refine hcalls.imp (fun s => s.inFlight ≤ 1) ?_ (Nat.le_refl 1)
  intro s action s' hone hcalled hs
  unfold State.step at hs
  split at hs
  · next hrunning =>
      refine ⟨?_, inFlight_act_le hone hcalled hrunning hs⟩
      cases action with
      | read events unread => cases hs
      | _ => trivial
  · next caller hrunning =>
      split at hs
      · next events unread =>
          refine ⟨?_, Option.some.inj hs ▸ inFlight_read_le hone hrunning events unread⟩
          -- the one call is running, so none is woken
          intro other hother
          have hpos := List.length_pos_of_mem hother
          simp only [inFlight, SharedReader.calls, hrunning, Option.toList_some,
            List.length_singleton, List.length_append] at hone
          omega
      · cases hs

/-- **`receive` over HTTP/2 is an exact byte stream.** Whatever batches the CONNECT loop, `receive`
and `send` read, in whatever order the calls are made and go on: as long as no call reads while a
woken call of `receive` has not gone on, and the limit is not hit, the values that `receive` returns
make up a prefix of the DATA payloads, none of them is empty, and `receive` raises `EndOfStream`
only when it has returned every byte that was read. -/
theorem receive_exactStream (h2 : H2Connection κ) (connection : κ) (actions : List Action)
    (hturn : Along (step h2) (fun s action _ => s.InTurn action) (init connection) actions)
    (hrun : run (step h2) (init connection) actions = some s) (hlimit : ¬ s.LimitHit) :
    returnedBytes s.log <+: fedBytes s.log ∧
      (∀ data, .returned data ∈ s.log → data ≠ []) ∧
      ∀ before, before ++ [.endOfStream] <+: s.log → returnedBytes before = fedBytes before := by
  have hstep : ∀ s action s', Inv s → s.InTurn action → s.step h2 action = some s' → Inv s' :=
    fun s action s' h hturn hs => h.step hturn hs
  have hinv : Inv s := run_induction_along hstep (inv_init connection) hturn hrun
  have hbuffered := hinv.buffered hlimit
  exact ⟨hbuffered.returned_isPrefix, hbuffered.nonempty, hbuffered.complete⟩

/-- A connection whose peer allows 2 bytes. -/
def twoBytes : Outbound where
  connection := 65535
  stream := 2
  maxFrame := 16384

/-- DATA in the batch of the response, a piece of it, a call of `send` that reads more DATA and the
end mark while it waits for window, and `receive` up to its end. -/
theorem receive_exactStream_one_run : ∃ s : State Outbound,
    run (step windowsOnly) (init twoBytes)
      [.drained .connect, .feedData, .goOn .connect,
        .read [.responseReceived 200, .dataReceived [1, 2, 3] 3 1] false,
        .drained (.frames .connect [.responseReceived 200, .dataReceived [1, 2, 3] 3 1]),
        .receive 2, .send [7, 8, 9], .drained (.send [7, 8, 9] 2), .feedData,
        .goOn (.send [7, 8, 9] 2),
        .read [.dataReceived [4, 5] 2 1, .streamEnded, .windowUpdated 1 9] false,
        .receive 65536,
        .drained (.frames (.send [7, 8, 9] 2)
          [.dataReceived [4, 5] 2 1, .streamEnded, .windowUpdated 1 9]),
        .receive 1] = some s ∧
      s.log = [.fed [1, 2, 3], .returned [1, 2], .fed [4, 5], .returned [3, 4, 5], .endOfStream] ∧
      returnedBytes s.log <+: fedBytes s.log := by
  have hlog : (run (step windowsOnly) (init twoBytes)
      [.drained .connect, .feedData, .goOn .connect,
        .read [.responseReceived 200, .dataReceived [1, 2, 3] 3 1] false,
        .drained (.frames .connect [.responseReceived 200, .dataReceived [1, 2, 3] 3 1]),
        .receive 2, .send [7, 8, 9], .drained (.send [7, 8, 9] 2), .feedData,
        .goOn (.send [7, 8, 9] 2),
        .read [.dataReceived [4, 5] 2 1, .streamEnded, .windowUpdated 1 9] false,
        .receive 65536,
        .drained (.frames (.send [7, 8, 9] 2)
          [.dataReceived [4, 5] 2 1, .streamEnded, .windowUpdated 1 9]),
        .receive 1]).map State.log =
      some [.fed [1, 2, 3], .returned [1, 2], .fed [4, 5], .returned [3, 4, 5], .endOfStream] := by
    decide +kernel
  obtain ⟨s, hrun, hlog⟩ := Option.map_eq_some_iff.mp hlog
  have hlimit : ¬ s.LimitHit := by
    rw [LimitHit, hlog]
    decide
  exact ⟨s, hrun, hlog,
    (receive_exactStream windowsOnly twoBytes _ (by decide +kernel) hrun hlimit).1⟩

/-- `receive` waits and is woken for DATA. Before it goes on, a call of `send` is made in another
task, which has to wait for window and reads that DATA. `receive` finds nothing and raises
`EndOfStream`, with three bytes pending. -/
theorem receive_ends_before_pending : ∃ s : State Outbound,
    run (step windowsOnly) (init twoBytes)
      [.drained .connect, .feedData, .goOn .connect, .read [.responseReceived 200] false,
        .drained (.frames .connect [.responseReceived 200]),
        .receive 65536, .feedData, .send [7, 8, 9], .drained (.send [7, 8, 9] 2),
        .read [.dataReceived [1, 2, 3] 3 1] false,
        .drained (.frames (.send [7, 8, 9] 2) [.dataReceived [1, 2, 3] 3 1]),
        .drained (.send [7, 8, 9] 2), .goOn (.receive 65536)] = some s ∧
      ¬ s.LimitHit ∧ s.tunnel.pending = [1, 2, 3] ∧
      ¬ ∀ before, before ++ [.endOfStream] <+: s.log → returnedBytes before = fedBytes before := by
  have hstate : (run (step windowsOnly) (init twoBytes)
      [.drained .connect, .feedData, .goOn .connect, .read [.responseReceived 200] false,
        .drained (.frames .connect [.responseReceived 200]),
        .receive 65536, .feedData, .send [7, 8, 9], .drained (.send [7, 8, 9] 2),
        .read [.dataReceived [1, 2, 3] 3 1] false,
        .drained (.frames (.send [7, 8, 9] 2) [.dataReceived [1, 2, 3] 3 1]),
        .drained (.send [7, 8, 9] 2), .goOn (.receive 65536)]).map
          (fun s => (s.log, s.tunnel.pending)) =
      some ([.fed [], .fed [1, 2, 3], .endOfStream], [1, 2, 3]) := by
    decide +kernel
  obtain ⟨s, hrun, hstate⟩ := Option.map_eq_some_iff.mp hstate
  obtain ⟨hlog, hpending⟩ := Prod.mk.inj hstate
  refine ⟨s, hrun, ?_, hpending, ?_⟩
  · rw [LimitHit, hlog]
    decide
  · intro hends
    have hbefore := hends [.fed [], .fed [1, 2, 3]] (by rw [hlog]; exact List.prefix_refl _)
    revert hbefore
    decide

end State

end PxManager.Transport
