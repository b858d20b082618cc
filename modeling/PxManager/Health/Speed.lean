import Mathlib.Logic.Function.Basic
import PxManager.Core.Machine
import PxManager.Core.Text
import PxManager.Health.Hosts

/-!
# PxManager.Health.Speed

`HealthSpeedHandler` of `main.py`, and the flag `speed_test_running` that its requests share.

The code of `post` up to its first `await` is one action, `post`. It has no `await` between the
look at the flag and the assignment, which is what makes the flag a lock. From then on each time
that the task of a request goes on from an `await` is an action `resume`; what `run_speed_test`
and `publish` do there is open. `connectionClose` may come at any time.
-/

namespace PxManager.Health.Speed

open PxManager.Core

/-! ### The parameters of a measurement -/

/-- `SIZES_MB`. -/
def sizesMb : List ℤ := [10, 25, 50]

/-- The names of the protocols that can be measured. -/
def protocols : List Text := ["h1".toList, "h2".toList, "h3".toList]

/-- `host_data.get('proxy_kind') == kind`. -/
def isKind (hostData : HostData) (kind : String) : Bool :=
  (hostData.get? "proxy_kind").bind Json.asStr? = some kind

/-- `host_data.get('http3_enabled')`, as a condition. -/
def http3Enabled (hostData : HostData) : Bool :=
  ((hostData.get? "http3_enabled").getD .null).truthy

/-- The parameters are allowed for the host entry. -/
def validParameters (hostData : HostData) (megabytes : ℤ) (protocol : Text) : Bool :=
  if megabytes ∉ sizesMb ∨ protocol ∉ protocols then false
  else if isKind hostData "mtproxy" then false
  else if protocol = "h3".toList ∧ http3Enabled hostData = false then false
  else true

theorem nonneg_of_mem_sizesMb {megabytes : ℤ} (h : megabytes ∈ sizesMb) : 0 ≤ megabytes := by
  simp only [sizesMb, List.mem_cons, List.not_mem_nil, or_false] at h
  omega

theorem validParameters_iff {hostData : HostData} {megabytes : ℤ} {protocol : Text} :
    validParameters hostData megabytes protocol = true ↔
      (megabytes ∈ sizesMb ∧ protocol ∈ protocols) ∧ isKind hostData "mtproxy" = false ∧
        (protocol = "h3".toList → http3Enabled hostData = true) := by
  unfold validParameters
  split
  · next hparams => simp [not_and_or.mpr hparams]
  next hparams =>
  split
  · next hkind => simp [hkind]
  next hkind =>
  split
  · next h3 => simp [h3.1, h3.2]
  · next h3 =>
      have hallowed : protocol = "h3".toList → http3Enabled hostData = true := by
        intro hprotocol
        exact Bool.eq_true_of_not_eq_false fun hdisabled => h3 ⟨hprotocol, hdisabled⟩
      simp only [true_iff]
      exact ⟨by simpa only [not_or, not_not] using hparams, Bool.eq_false_of_not_eq_true hkind,
        hallowed⟩

/-! ### The handler -/

/-- The arguments in the body. -/
inductive Arguments
  /-- What `int` makes of `megabytes`, with `none` for its `ValueError`, and `protocol`. -/
  | decoded (megabytes : Option ℤ) (protocol : Text)
  /-- An argument is not UTF-8, so `get_body_argument` raises an error with status 400. -/
  | undecodable

/-- What `post` reads of a request. -/
structure SpeedRequest where
  credentials : Option (Text × Text)
  /-- The value of `health_hosts_data` when it is read. -/
  hosts : List HostData
  host : String
  arguments : Arguments

/-- The check of the arguments. -/
def validArguments (hostData : HostData) : Arguments → Bool
  | .undecodable => false
  | .decoded none _ => false
  | .decoded (some megabytes) protocol => validParameters hostData megabytes protocol

/-- What can be raised at an `await`. -/
inductive Raised
  | cancelled
  | streamClosed
  | connectionReset
  /-- Another `Exception`, with its text if it is a `ValueError`. -/
  | exception (valueError : Option Text)
  /-- A `BaseException` that is none of these. -/
  | other

/-- Where the handler of a request is. -/
inductive Stage
  /-- It has answered with the status. -/
  | rejected (status : Nat)
  /-- `await run_speed_test(…)`. -/
  | measuring
  /-- `await publish({"stage": "error", …})`. -/
  | publishing (message : Text)
  /-- `post` is over, by the exception if there is one. -/
  | finished (raised : Option Raised)

/-- A handler object. -/
structure Handler where
  stage : Stage
  /-- `_speed_task` is the task of the request, and not `None`. -/
  speedTask : Bool
  /-- The task is cancelled, and does not know it yet. -/
  cancelRequested : Bool

structure State where
  /-- `settings.get("speed_test_running")`, as a condition. -/
  speedTestRunning : Bool
  handlers : Nat → Option Handler

/-- The process before the first request. -/
def State.init : State := ⟨false, fun _ => none⟩

/-- How a task goes on from an `await`: to the next `await` in the same call, or to the end of the
call. -/
inductive Event
  | awaits
  | ended (raised : Option Raised)

inductive Action
  | post (id : Nat) (request : SpeedRequest)
  | resume (id : Nat) (event : Event)
  | connectionClose (id : Nat)

namespace State

def setHandler (s : State) (id : Nat) (handler : Handler) : State :=
  { s with handlers := Function.update s.handlers id (some handler) }

/-- The response of `post` to a request that is not accepted. -/
def reject (s : State) (id status : Nat) : State :=
  s.setHandler id ⟨.rejected status, false, false⟩

/-- `post` up to its first `await`. -/
def post (s : State) (id : Nat) (request : SpeedRequest) : State :=
  match request.credentials with
  | none => s.reject id 401
  | some _ =>
      match getAllowedHealthHostForCheck request.hosts request.host "head" with
      | .error _ => s.reject id 400
      | .ok hostData =>
          if !validArguments hostData request.arguments then s.reject id 400
          else if s.speedTestRunning then s.reject id 409
          else { s with speedTestRunning := true }.setHandler id ⟨.measuring, true, false⟩

/-- The `finally` block, and the end of `post`. -/
def leave (s : State) (id : Nat) (raised : Option Raised) : State :=
  { s with speedTestRunning := false }.setHandler id ⟨.finished raised, false, false⟩

/-- `message` of the `except` block. -/
def errorMessage : Option Text → Text
  | some text => text
  | none => "Замер не завершён: ошибка сети, TLS или таймаут".toList

/-- What comes after `await run_speed_test(…)`. -/
def measured (s : State) (id : Nat) (handler : Handler) : Option Raised → State
  | none => s.leave id none
  | some .cancelled => s.leave id none
  | some .streamClosed => s.leave id none
  | some .connectionReset => s.leave id none
  | some (.exception valueError) =>
      s.setHandler id { handler with
        stage := .publishing (errorMessage valueError)
        cancelRequested := false }
  | some .other => s.leave id (some .other)

/-- What comes after `await publish(…)` in the `except` block. -/
def published (s : State) (id : Nat) : Option Raised → State
  | none => s.leave id none
  | some .streamClosed => s.leave id none
  | some raised => s.leave id (some raised)

/-- The task of a request goes on. A cancelled task gets `CancelledError` first: in
`run_speed_test`, which may still await what it has to clean up, or in `publish`, which has no
handler for it. -/
def resume (s : State) (id : Nat) (handler : Handler) (event : Event) : Option State :=
  match handler.stage, event with
  | .measuring, .awaits => some (s.setHandler id { handler with cancelRequested := false })
  | .measuring, .ended raised => some (s.measured id handler raised)
  | .publishing _, .awaits =>
      if handler.cancelRequested then none else some (s.setHandler id handler)
  | .publishing _, .ended raised =>
      some (s.published id (if handler.cancelRequested then some .cancelled else raised))
  | _, _ => none

/-- `on_connection_close`. -/
def onConnectionClose (s : State) (id : Nat) (handler : Handler) : State :=
  if handler.speedTask then s.setHandler id { handler with cancelRequested := true } else s

end State

/-- One action, if it is possible. -/
def step (s : State) : Action → Option State
  | .post id request =>
      match s.handlers id with
      | some _ => none
      | none => some (s.post id request)
  | .resume id event =>
      match s.handlers id with
      | some handler => s.resume id handler event
      | none => none
  | .connectionClose id =>
      match s.handlers id with
      | some handler => some (s.onConnectionClose id handler)
      | none => none

/-! ### What a step can do -/

/-- The handler is between the assignment of the flag and its `finally` block. -/
def Handler.Locked (handler : Handler) : Prop :=
  match handler.stage with
  | .measuring => True
  | .publishing _ => True
  | .rejected _ => False
  | .finished _ => False

/-- The handler of a request is between the assignment of the flag and its `finally` block. -/
def State.Locked (s : State) (id : Nat) : Prop :=
  ∃ handler, s.handlers id = some handler ∧ handler.Locked

/-- `run_speed_test` is active for a request. -/
def State.Measuring (s : State) (id : Nat) : Prop :=
  ∃ handler, s.handlers id = some handler ∧ handler.stage = .measuring

/-- The ways in which an action changes the flag and the handlers. -/
inductive Move (s : State) : Action → State → Prop
  | idle (a : Action) : Move s a s
  | reject (id : Nat) (request : SpeedRequest) (status : Nat) (hnew : s.handlers id = none) :
      Move s (.post id request) (s.reject id status)
  | acquire (id : Nat) (request : SpeedRequest) (hnew : s.handlers id = none)
      (hfree : s.speedTestRunning = false) :
      Move s (.post id request)
        ({ s with speedTestRunning := true }.setHandler id ⟨.measuring, true, false⟩)
  | stay (a : Action) (id : Nat) (handler handler' : Handler)
      (hget : s.handlers id = some handler) (hlocked : handler'.Locked ↔ handler.Locked) :
      Move s a (s.setHandler id handler')
  | leave (id : Nat) (event : Event) (raised : Option Raised) (hlocked : s.Locked id) :
      Move s (.resume id event) (s.leave id raised)

theorem post_move {s : State} {id : Nat} (request : SpeedRequest) (hnew : s.handlers id = none) :
    Move s (.post id request) (s.post id request) := by
  unfold State.post
  split
  · exact .reject id request 401 hnew
  · split
    · exact .reject id request 400 hnew
    · split
      · exact .reject id request 400 hnew
      · split
        · exact .reject id request 409 hnew
        · next hfree => exact .acquire id request hnew (Bool.eq_false_of_not_eq_true hfree)

theorem measured_move {s : State} {id : Nat} {handler : Handler} (event : Event)
    (hget : s.handlers id = some handler) (hstage : handler.stage = .measuring)
    (raised : Option Raised) : Move s (.resume id event) (s.measured id handler raised) := by
  have hlocked : s.Locked id := ⟨handler, hget, by rw [Handler.Locked, hstage]; trivial⟩
  unfold State.measured
  split
  case h_5 =>
    refine .stay _ id handler _ hget ?_
    simp [Handler.Locked, hstage]
  all_goals exact .leave id event _ hlocked

theorem published_move {s : State} {id : Nat} (event : Event) (hlocked : s.Locked id)
    (raised : Option Raised) : Move s (.resume id event) (s.published id raised) := by
  unfold State.published
  split <;> exact .leave id event _ hlocked

theorem resume_move {s s' : State} {id : Nat} {handler : Handler} {event : Event}
    (hget : s.handlers id = some handler) (h : s.resume id handler event = some s') :
    Move s (.resume id event) s' := by
  unfold State.resume at h
  split at h
  · cases h
    exact .stay _ id handler _ hget Iff.rfl
  · next hstage =>
      cases h
      exact measured_move _ hget hstage _
  · split at h
    · cases h
    · cases h
      exact .stay _ id handler _ hget Iff.rfl
  · next message raised hstage =>
      cases h
      exact published_move _ ⟨handler, hget, by rw [Handler.Locked, hstage]; trivial⟩ _
  · cases h

/-- Every step is one of the moves. -/
theorem step_move {s s' : State} {a : Action} (h : step s a = some s') : Move s a s' := by
  unfold step at h
  cases a with
  | post id request =>
      dsimp only at h
      split at h
      · cases h
      · next hnew =>
          cases h
          exact post_move request hnew
  | resume id event =>
      dsimp only at h
      split at h
      · next handler hget => exact resume_move hget h
      · cases h
  | connectionClose id =>
      dsimp only at h
      split at h
      · next handler hget =>
          cases h
          unfold State.onConnectionClose
          split
          · exact .stay _ id handler _ hget Iff.rfl
          · exact .idle _
      · cases h

/-! ### The lock -/

namespace State

variable {s s' : State} {id id' : Nat} {handler : Handler}

theorem locked_setHandler_self : (s.setHandler id handler).Locked id ↔ handler.Locked := by
  simp [Locked, setHandler]

theorem locked_setHandler_of_ne (h : id' ≠ id) :
    (s.setHandler id handler).Locked id' ↔ s.Locked id' := by
  simp [Locked, setHandler, Function.update_of_ne h]

@[simp] theorem speedTestRunning_setHandler :
    (s.setHandler id handler).speedTestRunning = s.speedTestRunning := rfl

@[simp] theorem speedTestRunning_leave {raised : Option Raised} :
    (s.leave id raised).speedTestRunning = false := rfl

theorem not_locked_of_new (hnew : s.handlers id = none) : ¬ s.Locked id := by
  rintro ⟨handler, hget, -⟩
  cases hnew.symm.trans hget

/-- A handler that is locked exactly if the one before was, changes no lock. -/
theorem locked_setHandler_iff (h : handler.Locked ↔ s.Locked id) :
    (s.setHandler id handler).Locked id' ↔ s.Locked id' := by
  by_cases hid : id' = id
  · subst hid
    exact locked_setHandler_self.trans h
  · exact locked_setHandler_of_ne hid

end State

/-- The flag is set exactly while a handler is locked, and no two are at once. -/
structure Inv (s : State) : Prop where
  running : s.speedTestRunning = true ↔ ∃ id, s.Locked id
  unique : ∀ id id', s.Locked id → s.Locked id' → id = id'

theorem Inv.of_free {s : State} (hfree : s.speedTestRunning = false)
    (hnone : ∀ id, ¬ s.Locked id) : Inv s :=
  ⟨by simp [hfree, hnone], fun id _ h => absurd h (hnone id)⟩

theorem Inv.init : Inv State.init :=
  .of_free rfl fun _ => State.not_locked_of_new rfl

/-- What changes no lock and not the flag keeps the invariant. -/
theorem Inv.congr {s s' : State} (h : Inv s) (hrunning : s'.speedTestRunning = s.speedTestRunning)
    (hlocked : ∀ id, s'.Locked id ↔ s.Locked id) : Inv s' := by
  constructor
  · simp only [hrunning, hlocked, h.running]
  · intro id id' hid hid'
    exact h.unique id id' ((hlocked id).mp hid) ((hlocked id').mp hid')

theorem Inv.move {s s' : State} {a : Action} (h : Inv s) (hmove : Move s a s') : Inv s' := by
  cases hmove with
  | idle => exact h
  | reject id request status hnew =>
      refine h.congr rfl ?_
      intro id'
      refine State.locked_setHandler_iff ?_
      simp [Handler.Locked, State.not_locked_of_new hnew]
  | acquire id request hnew hfree =>
      -- no handler was locked, so this one is the only one now
      have hnone : ∀ id, ¬ s.Locked id := by
        intro id hid
        simp [h.running.mpr ⟨id, hid⟩] at hfree
      have hlocked : ∀ id', ({ s with speedTestRunning := true }.setHandler id
          ⟨.measuring, true, false⟩).Locked id' ↔ id' = id := by
        intro id'
        by_cases hid : id' = id
        · subst hid
          simp [State.locked_setHandler_self, Handler.Locked]
        · simp only [State.locked_setHandler_of_ne hid, hid, iff_false]
          exact hnone id'
      constructor
      · simp only [State.speedTestRunning_setHandler, hlocked, exists_eq]
      · intro id₁ id₂ h₁ h₂
        exact ((hlocked id₁).mp h₁).trans ((hlocked id₂).mp h₂).symm
  | stay _ id handler handler' hget hlocked =>
      refine h.congr rfl ?_
      intro id'
      refine State.locked_setHandler_iff ?_
      rw [hlocked]
      simp [State.Locked, hget]
  | leave id event raised hid =>
      refine .of_free rfl ?_
      intro id' hid'
      by_cases heq : id' = id
      · subst heq
        exact State.locked_setHandler_self.mp hid'
      · exact heq (h.unique id' id ((State.locked_setHandler_of_ne heq).mp hid') hid)

theorem Inv.run {s s' : State} {actions : List Action} (h : Inv s)
    (hrun : run step s actions = some s') : Inv s' := by
  refine run_induction ?_ h hrun
  intro s a s' _ h hstep
  exact h.move (step_move hstep)

/-! ### How the lock is given back -/

theorem published_released (s : State) (id : Nat) (raised : Option Raised) :
    (s.published id raised).speedTestRunning = false := by
  unfold State.published
  split <;> rfl

/-- After its measurement a handler has left, or publishes its error line. -/
theorem measured_released (s : State) (id : Nat) (handler : Handler) (raised : Option Raised) :
    (s.measured id handler raised).speedTestRunning = false ∨
      ∃ handler' message, (s.measured id handler raised).handlers id = some handler' ∧
        handler'.stage = .publishing message := by
  unfold State.measured
  split
  case h_5 valueError =>
    exact .inr ⟨_, State.errorMessage valueError, Function.update_self .., rfl⟩
  all_goals exact .inl rfl

/-- The end of a publication is the end of the handler. -/
theorem resume_publishing_released {s s' : State} {id : Nat} {handler : Handler} {message : Text}
    {raised : Option Raised} (hstage : handler.stage = .publishing message)
    (h : s.resume id handler (.ended raised) = some s') : s'.speedTestRunning = false := by
  simp only [State.resume, hstage, Option.some.injEq] at h
  rw [← h]
  exact published_released ..

/-- The response of a request that was not accepted. -/
def State.Rejected (s : State) (id status : Nat) : Prop :=
  ∃ handler, s.handlers id = some handler ∧ handler.stage = .rejected status

theorem State.Measuring.locked {s : State} {id : Nat} (h : s.Measuring id) : s.Locked id := by
  obtain ⟨handler, hget, hstage⟩ := h
  refine ⟨handler, hget, ?_⟩
  rw [Handler.Locked, hstage]
  trivial

theorem Inv.running_iff_unique {s : State} (h : Inv s) :
    s.speedTestRunning = true ↔ ∃! id, s.Locked id := by
  rw [h.running]
  constructor
  · rintro ⟨id, hid⟩
    exact ⟨id, hid, fun id' hid' => h.unique id' id hid' hid⟩
  · rintro ⟨id, hid, -⟩
    exact ⟨id, hid⟩

theorem speedTestRunning_of_rejected {s s' : State} {id status : Nat} {request : SpeedRequest}
    (hstep : step s (.post id request) = some s') (hrejected : s'.Rejected id status) :
    s'.speedTestRunning = s.speedTestRunning := by
  obtain ⟨handler, hget, hstage⟩ := hrejected
  generalize ha : Action.post id request = a at hstep
  cases step_move hstep with
  | acquire id' request' hnew hfree =>
      cases ha
      simp [State.setHandler] at hget
      subst hget
      cases hstage
  | leave id' event raised hlocked => cases ha
  | _ => rfl

theorem locked_of_released {s s' : State} {a : Action} (hstep : step s a = some s')
    (hrunning : s.speedTestRunning = true) (hfree : s'.speedTestRunning = false) :
    ∃ id event, a = .resume id event ∧ s.Locked id := by
  cases step_move hstep with
  | leave id event raised hlocked => exact ⟨id, event, rfl, hlocked⟩
  | acquire id request hnew hfree' => cases hfree
  | _ => simp_all [State.reject]

/-- A handler that holds the lock gives it back when its measurement ends, or after its error
line. -/
theorem released_of_ended {s s' : State} {id : Nat} {raised : Option Raised} (hid : s.Locked id)
    (hstep : step s (.resume id (.ended raised)) = some s') :
    s'.speedTestRunning = false ∨
      s.Measuring id ∧ ∀ raised' s'', step s' (.resume id (.ended raised')) = some s'' →
        s''.speedTestRunning = false := by
  obtain ⟨handler, hget, hlocked⟩ := hid
  simp only [step, hget] at hstep
  cases hstage : handler.stage with
  | rejected status => rw [Handler.Locked, hstage] at hlocked; exact hlocked.elim
  | finished raised => rw [Handler.Locked, hstage] at hlocked; exact hlocked.elim
  | publishing message => exact .inl (resume_publishing_released hstage hstep)
  | measuring =>
      simp only [State.resume, hstage, Option.some.injEq] at hstep
      subst hstep
      rcases measured_released s id handler raised with hfree | ⟨handler', message, hget', hpub⟩
      · exact .inl hfree
      · refine .inr ⟨⟨handler, hget, hstage⟩, ?_⟩
        intro raised' s'' hstep'
        simp only [step, hget'] at hstep'
        exact resume_publishing_released hpub hstep'

/-- In every run of requests, one measurement is active at most, and `speed_test_running` is true
exactly while a handler is between setting it and its `finally` block. A request that is rejected
does not change the flag. Only the handler that holds the lock gives it back; it does so however
its measurement ends, at once or after its error line. -/
theorem speedTestRunning_is_lock (actions : List Action) (s : State)
    (hrun : run step State.init actions = some s) :
    (∀ id id', s.Measuring id → s.Measuring id' → id = id') ∧
    (s.speedTestRunning = true ↔ ∃! id, s.Locked id) ∧
    ((∀ id, ¬ s.Locked id) → s.speedTestRunning = false) ∧
    (∀ id request s' status, step s (.post id request) = some s' → s'.Rejected id status →
      s'.speedTestRunning = s.speedTestRunning) ∧
    (∀ a s', step s a = some s' → s.speedTestRunning = true → s'.speedTestRunning = false →
      ∃ id event, a = .resume id event ∧ s.Locked id) ∧
    ∀ id raised s', s.Locked id → step s (.resume id (.ended raised)) = some s' →
      s'.speedTestRunning = false ∨
        s.Measuring id ∧ ∀ raised' s'', step s' (.resume id (.ended raised')) = some s'' →
          s''.speedTestRunning = false := by
  have hinv : Inv s := Inv.init.run hrun
  refine ⟨?_, hinv.running_iff_unique, ?_, ?_, ?_, ?_⟩
  · intro id id' hid hid'
    exact hinv.unique id id' hid.locked hid'.locked
  · intro hnone
    refine Bool.eq_false_of_not_eq_true ?_
    intro hrunning
    obtain ⟨id, hid⟩ := hinv.running.mp hrunning
    exact hnone id hid
  · intro id request s' status hstep hrejected
    exact speedTestRunning_of_rejected hstep hrejected
  · intro a s' hstep hrunning hfree
    exact locked_of_released hstep hrunning hfree
  · intro id raised s' hid hstep
    exact released_of_ended hid hstep

/-- A measurement is under way, a second request is rejected, the client of the first goes away
while the error line is published. -/
theorem speedTestRunning_is_lock_cancelled :
    let request : SpeedRequest :=
      ⟨some (['u'], ['p']), [Dict.set ∅ "host" (.str "h")], "h",
        .decoded (some 10) "h2".toList⟩
    let actions : List Action := [.post 0 request, .post 1 request,
      .resume 0 (.ended (some (.exception none))), .connectionClose 0, .resume 0 (.ended none)]
    ∃ s, run step State.init actions = some s ∧
      ∀ id id', s.Measuring id → s.Measuring id' → id = id' := by
  intro request actions
  have hfree : (run step State.init actions).map (·.speedTestRunning) = some false := by
    decide +kernel
  obtain ⟨s, hrun, -⟩ := Option.map_eq_some_iff.mp hfree
  exact ⟨s, hrun, (speedTestRunning_is_lock actions s hrun).1⟩

end PxManager.Health.Speed
