import PxManager.Speed.Handler

/-!
# PxManager.Speed.Lock

The process of `Speed.Handler` refines the one of `Health.Speed`, which has the same handler but
leaves open what `run_speed_test` and `publish` do.

`SamePoint` tells where the handler of a request is when its coroutine has come to a point. An
action of the process is matched by the actions of the other one that it consists of: an arrival by
`post`, the end of the measurement and the end of the publication by `resume`, and an answer inside
one of the two by nothing. So what `Health.Speed` knows of the flag holds of this process too.
-/

namespace PxManager.Speed

open PxManager.Core
open PxManager.Core.Coroutine
open PxManager.Health

/-! ### Requests -/

/-- The exception that `Health.Speed` has for one of a measurement. -/
def SpeedError.raised : SpeedError → Health.Speed.Raised
  | .valueError text => .exception (some text)
  | .cancelled => .cancelled
  | .streamClosed => .streamClosed
  | .connectionReset => .connectionReset
  | .other => .exception none

/-- How `post` is over. -/
def raisedBy : Except SpeedError Unit → Option Health.Speed.Raised
  | .ok () => none
  | .error e => some e.raised

/-- The handler is where the coroutine of the request is. -/
inductive SamePoint : Response → Health.Speed.Handler → Prop
  | refused (status : Nat) : SamePoint (.refused status) ⟨.rejected status, false, false⟩
  | measuring (plan : Plan) (log : List SpeedEvent) {test : Measurement Unit}
      (htest : ∀ result, test ≠ .done result) :
      SamePoint (.measuring plan log (tryCatch test handleError)) ⟨.measuring, true, false⟩
  | publishing (plan : Plan) (log : List SpeedEvent) (message : Text) :
      SamePoint (.measuring plan log (publishError message)) ⟨.publishing message, true, false⟩
  | ended (plan : Plan) (log : List SpeedEvent) (result : Except SpeedError Unit) :
      SamePoint (.ended plan log result) ⟨.finished (raisedBy result), false, false⟩

/-- The processes have the same flag, and their requests are at the same points. -/
structure Implements (s : Server) (t : Health.Speed.State) : Prop where
  running : t.speedTestRunning = s.running
  samePoint : ∀ id, Option.Rel SamePoint (s.requests id) (t.handlers id)

/-- All requests but one are at the same points. -/
def SameElsewhere (id : Nat) (s : Server) (t : Health.Speed.State) : Prop :=
  ∀ i, i ≠ id → Option.Rel SamePoint (s.requests i) (t.handlers i)

/-- The task of a request goes on a number of times. -/
def resumes (id : Nat) (events : List Health.Speed.Event) : List Health.Speed.Action :=
  events.map (.resume id)

/-- The actions are those that an action of the process consists of. -/
inductive Consists (py : Builtins) : ServerAction → List Health.Speed.Action → Prop
  | arrive (id : Nat) (args : Arguments) (events : List Health.Speed.Event) :
      Consists py (.arrive id args) (.post id (args.toRequest py) :: resumes id events)
  | answer (id : Nat) (answer : (op : SpeedOp) → Except SpeedError op.Ans)
      (events : List Health.Speed.Event) : Consists py (.answer id answer) (resumes id events)

variable {py : Builtins} {lib : Library} {intError : Json → Text} {s s' : Server}
  {t t' : Health.Speed.State} {id : Nat}

theorem Implements.handler (h : Implements s t) {response : Response}
    (hrequest : s.requests id = some response) :
    ∃ handler, t.handlers id = some handler ∧ SamePoint response handler := by
  have hsame := h.samePoint id
  rw [hrequest] at hsame
  generalize t.handlers id = found at hsame ⊢
  cases hsame with
  | some hsame => exact ⟨_, rfl, hsame⟩

theorem Implements.request (h : Implements s t) {handler : Health.Speed.Handler}
    (hget : t.handlers id = some handler) :
    ∃ response, s.requests id = some response ∧ SamePoint response handler := by
  have hsame := h.samePoint id
  rw [hget] at hsame
  generalize s.requests id = found at hsame ⊢
  cases hsame with
  | some hsame => exact ⟨_, rfl, hsame⟩

theorem Implements.new (h : Implements s t) (hnew : s.requests id = none) :
    t.handlers id = none := by
  have hsame := h.samePoint id
  rw [hnew] at hsame
  generalize t.handlers id = found at hsame ⊢
  cases hsame
  rfl

theorem Implements.init : Implements .init .init := ⟨rfl, fun _ => .none⟩

/-- One request changes in both processes. -/
theorem Implements.congr (id : Nat) (hs : ∀ i, i ≠ id → s'.requests i = s.requests i)
    (ht : ∀ i, i ≠ id → t'.handlers i = t.handlers i)
    (hothers : SameElsewhere id s t)
    (hid : Option.Rel SamePoint (s'.requests id) (t'.handlers id))
    (hrunning : t'.speedTestRunning = s'.running) : Implements s' t' := by
  refine ⟨hrunning, ?_⟩
  intro i
  by_cases heq : i = id
  · subst heq
    exact hid
  · rw [hs i heq, ht i heq]
    exact hothers i heq

theorem handlers_setHandler_of_ne (t : Health.Speed.State) (handler : Health.Speed.Handler)
    {i : Nat} (h : i ≠ id) : (t.setHandler id handler).handlers i = t.handlers i :=
  Function.update_of_ne h ..

theorem handlers_setHandler (t : Health.Speed.State) (id : Nat) (handler : Health.Speed.Handler) :
    (t.setHandler id handler).handlers id = some handler :=
  Function.update_self ..

theorem Server.set_waiting (s : Server) (id : Nat) (plan : Plan) (log : List SpeedEvent)
    {rest : Measurement Unit} (h : ∀ result, rest ≠ .done result) :
    s.set id plan log rest =
      ⟨true, fun i => if i = id then some (.measuring plan log rest) else s.requests i⟩ := by
  cases rest with
  | done result => exact absurd rfl (h result)
  | await op resume => rfl
  | running => rfl

/-- The `finally` block. -/
theorem implements_leave (plan : Plan) (log : List SpeedEvent) (result : Except SpeedError Unit)
    (hothers : SameElsewhere id s t) :
    Implements (s.set id plan log (.done result)) (t.leave id (raisedBy result)) := by
  refine .congr id (fun i hi => if_neg hi) (fun i hi => handlers_setHandler_of_ne _ _ hi)
    hothers ?_ rfl
  rw [Health.Speed.State.leave, handlers_setHandler, Server.set]
  dsimp only
  rw [if_pos rfl]
  exact .some (.ended plan log result)

/-- A handler that awaits. -/
theorem implements_waiting {plan : Plan} {log : List SpeedEvent} {rest : Measurement Unit}
    {handler : Health.Speed.Handler} (hrest : ∀ result, rest ≠ .done result)
    (hsame : SamePoint (.measuring plan log rest) handler)
    (hothers : SameElsewhere id s t)
    (ht : ∀ i, i ≠ id → t'.handlers i = t.handlers i) (hid : t'.handlers id = some handler)
    (hrunning : t'.speedTestRunning = true) : Implements (s.set id plan log rest) t' := by
  rw [Server.set_waiting s id plan log hrest]
  refine .congr id (fun i hi => if_neg hi) ht hothers ?_ hrunning
  dsimp only
  rw [hid, if_pos rfl]
  exact .some hsame

theorem implements_refuse (h : Implements s t) (id status : Nat) :
    Implements (s.refuse id status) (t.reject id status) := by
  refine .congr id (fun i hi => if_neg hi) (fun i hi => handlers_setHandler_of_ne _ _ hi)
    (fun i _ => h.samePoint i) ?_ h.running
  rw [Health.Speed.State.reject, handlers_setHandler, Server.refuse]
  dsimp only
  rw [if_pos rfl]
  exact .some (.refused status)

/-! ### The measurement -/

theorem step_resume {handler : Health.Speed.Handler} (hget : t.handlers id = some handler)
    {event : Health.Speed.Event} (h : t.resume id handler event = some t') :
    run Health.Speed.step t [.resume id event] = some t' := by
  rw [run, Health.Speed.step, hget]
  dsimp only
  rw [h]
  rfl

theorem publishError_waits (message : Text) (result : Except SpeedError Unit) :
    publishError message ≠ .done result := by
  intro h
  cases h

/-- Wherever the measurement has come to, the handler comes there too. -/
theorem test_simulated (plan : Plan) (log : List SpeedEvent) (test : Measurement Unit)
    (hothers : SameElsewhere id s t)
    (hget : t.handlers id = some ⟨.measuring, true, false⟩) (hrunning : t.speedTestRunning = true) :
    ∃ events t', run Health.Speed.step t (resumes id events) = some t' ∧
      Implements (s.set id plan log (tryCatch test handleError)) t' := by
  have hwaiting : (∀ result, test ≠ .done result) →
      (∀ result, (tryCatch test handleError : Measurement Unit) ≠ .done result) →
        ∃ events t', run Health.Speed.step t (resumes id events) = some t' ∧
          Implements (s.set id plan log (tryCatch test handleError)) t' := by
    intro htest hrest
    exact ⟨[], t, rfl, implements_waiting hrest (.measuring plan log htest) hothers (fun _ _ => rfl)
      hget hrunning⟩
  cases test with
  | await op resume => exact hwaiting (fun _ h => by cases h) (fun _ h => by cases h)
  | running => exact hwaiting (fun _ h => by cases h) (fun _ h => by cases h)
  | done result =>
      -- the `await` of the measurement ends, with what `run_speed_test` ended with
      refine ⟨[.ended (raisedBy result)], t.measured id ⟨.measuring, true, false⟩ (raisedBy result),
        step_resume hget rfl, ?_⟩
      have hpublishing : ∀ message, Implements (s.set id plan log (publishError message))
          (t.setHandler id ⟨.publishing message, true, false⟩) := by
        intro message
        exact implements_waiting (publishError_waits message) (.publishing plan log message) hothers
          (fun i hi => handlers_setHandler_of_ne _ _ hi) (handlers_setHandler ..) hrunning
      cases result with
      | ok _ => exact implements_leave plan log (.ok ()) hothers
      | error e =>
          cases e with
          | valueError text => exact hpublishing text
          | other => exact hpublishing _
          | cancelled => exact implements_leave plan log (.ok ()) hothers
          | streamClosed => exact implements_leave plan log (.ok ()) hothers
          | connectionReset => exact implements_leave plan log (.ok ()) hothers

/-- The publication of an error has ended. -/
theorem publication_simulated (plan : Plan) (log : List SpeedEvent) {message : Text}
    (answer : Except SpeedError Unit)
    (hothers : SameElsewhere id s t)
    (hget : t.handlers id = some ⟨.publishing message, true, false⟩) :
    ∃ t', run Health.Speed.step t [.resume id (.ended (raisedBy answer))] = some t' ∧
      Implements (s.set id plan log (tryCatch (.done answer) fun
        | .streamClosed => pure ()
        | e => throw e)) t' := by
  refine ⟨t.published id (raisedBy answer), step_resume hget rfl, ?_⟩
  cases answer with
  | ok _ => exact implements_leave plan log (.ok ()) hothers
  | error e =>
      cases e with
      | streamClosed => exact implements_leave plan log (.ok ()) hothers
      | valueError text => exact implements_leave plan log (.error (.valueError text)) hothers
      | cancelled => exact implements_leave plan log (.error .cancelled) hothers
      | connectionReset => exact implements_leave plan log (.error .connectionReset) hothers
      | other => exact implements_leave plan log (.error .other) hothers

/-! ### The handler -/

/-- The two handlers refuse the same requests, but for the flag. -/
theorem post_of_plan (t : Health.Speed.State) (id : Nat) (args : Arguments) :
    t.post id (args.toRequest py) =
      match plan py args with
      | .error status => t.reject id status
      | .ok _ =>
          if t.speedTestRunning then t.reject id 409
          else { t with speedTestRunning := true }.setHandler id ⟨.measuring, true, false⟩ := by
  obtain ⟨credentials, hosts, host, megabytes, protocol⟩ := args
  unfold Health.Speed.State.post plan Arguments.toRequest
  cases credentials with
  | none => rfl
  | some credentials =>
      dsimp only
      cases getAllowedHealthHostForCheck hosts host "head" with
      | error e => rfl
      | ok hostData =>
          dsimp only
          cases py.parseInt (megabytes.getD "10".toList) with
          | none => rfl
          | some megabytes =>
              dsimp only [Health.Speed.validArguments]
              generalize protocol.getD "h2".toList = protocol
              by_cases hvalid : Health.Speed.validParameters hostData megabytes protocol = true
              · simp [hvalid]
              · simp [hvalid]

/-- `post` of a request, and what it does at once. -/
theorem arrive_simulated (h : Implements s t) {args : Arguments}
    (hstep : s.step py lib intError (.arrive id args) = some s') :
    ∃ events t', run Health.Speed.step t (.post id (args.toRequest py) :: resumes id events) =
      some t' ∧ Implements s' t' := by
  simp only [Server.step] at hstep
  split at hstep
  · cases hstep
  next hnew =>
  have hfirst : Health.Speed.step t (.post id (args.toRequest py)) =
      some (t.post id (args.toRequest py)) := by
    rw [Health.Speed.step, h.new hnew]
  simp only [run_cons_eq_some, hfirst, Option.some.injEq, exists_eq_left', post_of_plan]
  have hrunning := h.running
  cases hplan : plan py args with
  | error status =>
      rw [hplan] at hstep
      cases hstep
      exact ⟨[], _, rfl, implements_refuse h id status⟩
  | ok plan =>
      rw [hplan] at hstep
      dsimp only at hstep ⊢
      rw [hrunning]
      split at hstep
      · next hflag =>
          cases hstep
          rw [if_pos hflag]
          exact ⟨[], _, rfl, implements_refuse h id 409⟩
      · next hflag =>
          cases hstep
          rw [if_neg hflag]
          refine test_simulated plan [] _ ?_ (handlers_setHandler ..) rfl
          intro i hi
          rw [handlers_setHandler_of_ne _ _ hi]
          exact h.samePoint i

/-- What a request waits for is answered. -/
theorem answer_simulated (h : Implements s t) (hinv : Health.Speed.Inv t)
    {answer : (op : SpeedOp) → Except SpeedError op.Ans}
    (hstep : s.step py lib intError (.answer id answer) = some s') :
    ∃ events t', run Health.Speed.step t (resumes id events) = some t' ∧ Implements s' t' := by
  simp only [Server.step] at hstep
  split at hstep
  case h_2 => cases hstep
  next plan log op resume hrequest =>
  cases hstep
  obtain ⟨handler, hget, hsame⟩ := h.handler hrequest
  have hothers : SameElsewhere id s t := fun i _ => h.samePoint i
  generalize hresponse : Response.measuring plan log (.await op resume) = response at hsame
  cases hsame with
  | refused status => cases hresponse
  | ended plan' log' result => cases hresponse
  | @measuring plan' log' test htest =>
      cases test with
      | done result => exact absurd rfl (htest result)
      | running => cases hresponse
      | await op' resume' =>
          cases hresponse
          refine test_simulated plan _ (resume' (answer op)) hothers hget ?_
          exact hinv.running.mpr ⟨id, _, hget, trivial⟩
  | publishing plan' log' message =>
      cases hresponse
      obtain ⟨t', hrun, ht'⟩ := publication_simulated plan
        (log ++ [⟨.publish (errorResult message), answer _⟩]) (answer (.publish _)) hothers hget
      exact ⟨[_], t', hrun, ht'⟩

/-! ### The process -/

/-- **The process is one of those of `Health.Speed`.** Every run of it is matched by a run there,
whose requests arrive in the same order and have the same arguments, and at whose end the flag is
the same and every handler is where its request is. -/
theorem server_refines (py : Builtins) (lib : Library) (intError : Json → Text)
    {actions : List ServerAction} (hrun : run (Server.step py lib intError) .init actions = some s) :
    ∃ parts t, List.Forall₂ (Consists py) actions parts ∧
      run Health.Speed.step .init parts.flatten = some t ∧ Implements s t ∧ Health.Speed.Inv t := by
  refine run_simulated_runs (R := fun s t => Implements s t ∧ Health.Speed.Inv t) ?_
    ⟨.init, .init⟩ hrun
  intro s t action s' h hstep
  obtain ⟨h, hinv⟩ := h
  cases action with
  | arrive id args =>
      obtain ⟨events, t', hrun, h'⟩ := arrive_simulated h hstep
      exact ⟨_, t', .arrive id args events, hrun, h', hinv.run hrun⟩
  | answer id answer =>
      obtain ⟨events, t', hrun, h'⟩ := answer_simulated h hinv hstep
      exact ⟨_, t', .answer id answer events, hrun, h', hinv.run hrun⟩

theorem Implements.locked_iff (h : Implements s t) : t.Locked id ↔ s.Measuring id := by
  constructor
  · intro hlocked
    obtain ⟨handler, hget, hstage⟩ := hlocked
    obtain ⟨response, hrequest, hsame⟩ := h.request hget
    cases hsame with
    | refused status => exact hstage.elim
    | measuring plan log htest => exact ⟨plan, log, _, hrequest⟩
    | publishing plan log message => exact ⟨plan, log, _, hrequest⟩
    | ended plan log result => exact hstage.elim
  · intro hmeasuring
    obtain ⟨plan, log, rest, hrequest⟩ := hmeasuring
    obtain ⟨handler, hget, hsame⟩ := h.handler hrequest
    refine ⟨handler, hget, ?_⟩
    cases hsame <;> trivial

/-- The flag is set exactly while a request is served, and no two are served at once. -/
theorem running_iff_measuring (py : Builtins) (lib : Library) (intError : Json → Text)
    {actions : List ServerAction} (hrun : run (Server.step py lib intError) .init actions = some s) :
    (s.running = true ↔ ∃ id, s.Measuring id) ∧
      ∀ id id', s.Measuring id → s.Measuring id' → id = id' := by
  obtain ⟨parts, t, -, -, h, hinv⟩ := server_refines py lib intError hrun
  simp only [← h.running, ← h.locked_iff]
  exact ⟨hinv.running, hinv.unique⟩

end PxManager.Speed
