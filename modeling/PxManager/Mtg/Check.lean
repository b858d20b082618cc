import PxManager.Core.Coroutine
import PxManager.Health.ProxyCheck
import PxManager.Mtg.Handshake
import PxManager.Mtg.Secret

/-!
# PxManager.Mtg.Check

`run_mtg_request_check` of `main.py`, with `connect` and `disconnect` of `MTGConnection`: whether a
Fake-TLS proxy answers for Telegram.

The data centres are tried in their order. A connection is closed in every case. The next data
centre is tried only after the proxy has accepted the secret: before that, what fails is the proxy,
and it would fail again (`mtg_check`).

Telethon and the sockets are operations, and so is the handshake, for which `handshake` is the code.
-/

namespace PxManager.Mtg

open PxManager.Core
open PxManager.Core.Coroutine
open PxManager.Health

/-! ### Operations -/

/-- What a check raises. -/
inductive CheckError
  | timeout
  | cancelled
  /-- Any other exception, with its text and the name of its class. -/
  | error (text className : String)
  deriving DecidableEq, Repr

/-- `format_health_error`. -/
def formatHealthError : CheckError → String
  | .timeout => "timeout"
  | .cancelled => "CancelledError"
  | .error text className => if text = "" then className else text

/-- What a check waits for. -/
inductive CheckOp
  /-- `time.monotonic()`. -/
  | clock
  /-- `asyncio.open_connection`. -/
  | openConnection (host : String) (port : ℤ)
  | handshake (secret : Bytes)
  /-- `init_header`, and the record with the header. -/
  | writeHeader (key : Bytes) (dc : Nat)
  /-- `secrets.randbits(127)`. -/
  | randbits
  /-- `sender.send(ReqPqMultiRequest(nonce))`: the nonce of the response, if it has one. -/
  | reqPq (nonce : Nat)
  /-- `writer.close()` and `wait_closed`, with the exceptions that `disconnect` lets pass. -/
  | close
  deriving DecidableEq

/-- The types of the results. -/
@[reducible]
def CheckOp.Ans : CheckOp → Type
  | .clock => ℚ
  | .randbits => Nat
  | .reqPq _ => Option Nat
  | _ => Unit

/-- An operation of a check with what it returned or raised. -/
abbrev CheckEvent := Event CheckOp CheckOp.Ans CheckError

/-- A coroutine of a check. -/
abbrev Checking (α : Type) := Coroutine CheckOp CheckOp.Ans CheckError α

/-! ### A connection -/

/-- `stage` of `MTGConnection`. There is a writer from `fakeTls` on. -/
inductive Stage
  | tcp
  | fakeTls
  | telegram
  deriving DecidableEq, Repr

/-- The texts of the stages. -/
def Stage.text : Stage → String
  | .tcp => "TCP"
  | .fakeTls => "Fake TLS"
  | .telegram => "Telegram"

/-- The arguments of `MTGConnection`, apart from the data centre. -/
structure Target where
  host : String
  port : ℤ
  secret : Bytes

/-- `connect`: the stage that it comes to, and how it ends there. -/
def connect (target : Target) (dc : Nat) : Checking (Stage × Except CheckError Unit) :=
  (call (CheckOp.openConnection target.host target.port)).andThen fun
    | .error e => done (.ok (.tcp, .error e))
    | .ok _ => (call (CheckOp.handshake target.secret)).andThen fun
        | .error e => done (.ok (.fakeTls, .error e))
        | .ok _ => (call (CheckOp.writeHeader ((target.secret.drop 1).take 16) dc)).andThen fun
            | .error e => done (.ok (.fakeTls, .error e))
            | .ok _ => done (.ok (.telegram, .ok ()))

/-- `disconnect`. -/
def disconnect : Stage → Checking Unit
  | .tcp => done (.ok ())
  | _ => call CheckOp.close

/-- The text for a response to another request. -/
def wrongNonce : CheckError := .error "Ответ Telegram содержит неверный nonce" "ValueError"

/-- The request to Telegram. -/
def askTelegram : Checking Unit := do
  let nonce ← call CheckOp.randbits
  let response ← call (CheckOp.reqPq nonce)
  if response ≠ some nonce then throw wrongNonce
  else pure ()

/-- The body of the `try` statement: the stage that the connection comes to, and how it ends. -/
def attempt (target : Target) (dc : Nat) : Checking (Stage × Except CheckError ℚ) := do
  match ← connect target dc with
  | (stage, .error e) => return (stage, .error e)
  | (stage, .ok ()) =>
      (askTelegram >>= fun () => call CheckOp.clock).andThen fun outcome =>
        done (.ok (stage, outcome))

/-! ### The check -/

/-- The numbers of `TELEGRAM_TEST_DCS`. -/
def testDcs : List Nat := [1, 2, 3, 4, 5]

/-- `round(seconds * 1000)`. -/
def milliseconds (round : ℚ → ℤ) (started now : ℚ) : ℤ := round ((now - started) * 1000)

/-- The result for a data centre that has answered. -/
def respondedResult (dc : Nat) (elapsedMs : ℤ) : HealthResult := .ofList
  [("ok", .bool true), ("status", .str "responded"), ("status_code", .null),
    ("status_line", .str s!"OK dc{dc}/Fake TLS · {elapsedMs} ms"), ("duration_ms", .int elapsedMs),
    ("error", .null)]

/-- The result when none has. -/
def failedResult (errors : List String) : HealthResult := .ofList
  [("ok", .bool false), ("status", .str "error"), ("status_code", .null), ("status_line", .null),
    ("error", .str (joinErrors errors))]

/-- What is said of a data centre that has not answered. -/
def dcError (dc : Nat) (stage : Stage) (e : CheckError) : String :=
  s!"DC{dc}, {stage.text}: {formatHealthError e}"

/-- One turn of the loop, with the errors so far. -/
def checkDc (round : ℚ → ℤ) (target : Target) (started : ℚ) (errors : List String) (dc : Nat) :
    Checking (List String ⊕ HealthResult) := do
  let (stage, outcome) ← attempt target dc
  disconnect stage
  match outcome with
  | .ok now => return .inr (respondedResult dc (milliseconds round started now))
  | .error .cancelled => throw .cancelled
  | .error e =>
      let errors := errors ++ [dcError dc stage e]
      return if stage = .telegram then .inl errors else .inr (failedResult errors)

/-- `run_mtg_request_check`, of a host entry with a host, a port and a secret. -/
def runMtgRequestCheck (round : ℚ → ℤ) (target : Target) : Checking HealthResult := do
  let started ← call CheckOp.clock
  match ← forEach (checkDc round target started) [] testDcs with
  | .inl errors => return failedResult errors
  | .inr result => return result

/-! ### Transcripts -/

/-- What is done after the header was sent, and how it ends. -/
inductive Asked : Except CheckError ℚ → List CheckEvent → Prop
  | noBits (e : CheckError) : Asked (.error e) [⟨.randbits, .error e⟩]
  | noResponse (nonce : Nat) (e : CheckError) :
      Asked (.error e) [⟨.randbits, .ok nonce⟩, ⟨.reqPq nonce, .error e⟩]
  | wrong {nonce : Nat} {response : Option Nat} (hresponse : response ≠ some nonce) :
      Asked (.error wrongNonce) [⟨.randbits, .ok nonce⟩, ⟨.reqPq nonce, .ok response⟩]
  | noTime (nonce : Nat) (e : CheckError) : Asked (.error e)
      [⟨.randbits, .ok nonce⟩, ⟨.reqPq nonce, .ok (some nonce)⟩, ⟨.clock, .error e⟩]
  | answered (nonce : Nat) (now : ℚ) : Asked (.ok now)
      [⟨.randbits, .ok nonce⟩, ⟨.reqPq nonce, .ok (some nonce)⟩, ⟨.clock, .ok now⟩]

section Attempted

variable (target : Target)

/-- The connection to the proxy was opened. -/
def opened : CheckEvent := ⟨.openConnection target.host target.port, .ok ()⟩

/-- The handshake succeeded. -/
def accepted : CheckEvent := ⟨.handshake target.secret, .ok ()⟩

/-- The header was sent. -/
def headerSent (dc : Nat) : CheckEvent := ⟨.writeHeader ((target.secret.drop 1).take 16) dc, .ok ()⟩

/-- What an attempt for a data centre has done, with the stage that it has come to and how it ends
there. -/
inductive Attempted (dc : Nat) : Stage → Except CheckError ℚ → List CheckEvent → Prop
  | refused (e : CheckError) :
      Attempted dc .tcp (.error e) [⟨.openConnection target.host target.port, .error e⟩]
  | rejected (e : CheckError) :
      Attempted dc .fakeTls (.error e) [opened target, ⟨.handshake target.secret, .error e⟩]
  | noHeader (e : CheckError) : Attempted dc .fakeTls (.error e) [opened target, accepted target,
      ⟨.writeHeader ((target.secret.drop 1).take 16) dc, .error e⟩]
  | asked {outcome : Except CheckError ℚ} {own : List CheckEvent} (hasked : Asked outcome own) :
      Attempted dc .telegram outcome ([opened target, accepted target, headerSent target dc] ++ own)

/-- What `disconnect` does after a stage. -/
def closing : Stage → List CheckEvent
  | .tcp => []
  | _ => [⟨.close, .ok ()⟩]

/-- A data centre that has not answered. -/
structure Failure where
  dc : Nat
  stage : Stage
  error : CheckError

/-- What was done for data centres that have not answered. -/
inductive Failed : List Failure → List CheckEvent → Prop
  | nil : Failed [] []
  | snoc {failures : List Failure} {log own : List CheckEvent} {failure : Failure}
      (h : Failed failures log)
      (hown : Attempted target failure.dc failure.stage (.error failure.error) own) :
      Failed (failures ++ [failure]) (log ++ own ++ closing failure.stage)

end Attempted

/-- The text of a failure. -/
def Failure.text (failure : Failure) : String := dcError failure.dc failure.stage failure.error

/-- What an attempt has done that makes the check raise: it was cancelled, or the connection could
not be closed. -/
inductive Aborted (target : Target) (dc : Nat) : CheckError → List CheckEvent → Prop
  | cancelled {stage : Stage} {own : List CheckEvent}
      (hown : Attempted target dc stage (.error .cancelled) own) :
      Aborted target dc .cancelled (own ++ closing stage)
  | notClosed {stage : Stage} {outcome : Except CheckError ℚ} {own : List CheckEvent}
      (hown : Attempted target dc stage outcome own) (hstage : stage ≠ .tcp) (e : CheckError) :
      Aborted target dc e (own ++ [⟨.close, .error e⟩])

/-- What the check has done when it returns: some data centres have failed, and then one has
answered or no other was tried. -/
inductive Returned (round : ℚ → ℤ) (target : Target) : HealthResult → List CheckEvent → Prop
  | responded {started now : ℚ} {failures : List Failure} {log own : List CheckEvent} {dc : Nat}
      (hfailed : Failed target failures log) (haccepted : ∀ failure ∈ failures, failure.stage = .telegram)
      (hdcs : failures.map Failure.dc ++ [dc] <+: testDcs)
      (hown : Attempted target dc .telegram (.ok now) own) :
      Returned round target (respondedResult dc (milliseconds round started now))
        (⟨.clock, .ok started⟩ :: log ++ own ++ closing .telegram)
  | failed {started : ℚ} {failures : List Failure} {log : List CheckEvent}
      (hfailed : Failed target failures log)
      (haccepted : ∀ failure ∈ failures.dropLast, failure.stage = .telegram)
      (hdcs : failures.map Failure.dc <+: testDcs)
      (hlast : failures.map Failure.dc = testDcs ∨
        ∃ failure, failures.getLast? = some failure ∧ failure.stage ≠ .telegram) :
      Returned round target (failedResult (failures.map Failure.text)) (⟨.clock, .ok started⟩ :: log)

/-! ### The run of a check -/

section Run

variable {round : ℚ → ℤ} {target : Target} {dc : Nat} {log : List CheckEvent}

/-- What holds when an operation is asked for: nothing is said of it. -/
def anyOp (_ : List CheckEvent) (_ : CheckOp) : Prop := True

/-- `askTelegram` and the clock. -/
theorem wp_asked {Q : Except CheckError ℚ → List CheckEvent → Prop}
    (hQ : ∀ outcome own, Asked outcome own → Q outcome (log ++ own)) :
    (askTelegram >>= fun () => call CheckOp.clock : Checking ℚ).wp recordingAll anyOp Q log := by
  refine wp_bind.mpr (wp_bind.mpr (wp_call_recordingAll.mpr ⟨trivial, fun nonce => ?_⟩))
  cases nonce with
  | error e => exact hQ _ _ (.noBits e)
  | ok nonce =>
      refine wp_bind.mpr (wp_call_recordingAll.mpr ⟨trivial, fun response => ?_⟩)
      rw [List.append_assoc]
      cases response with
      | error e => exact hQ _ _ (.noResponse nonce e)
      | ok response =>
          by_cases hresponse : response = some nonce
          · subst hresponse
            dsimp only
            rw [if_neg (not_not.mpr rfl)]
            refine wp_call_recordingAll.mpr ⟨trivial, fun now => ?_⟩
            rw [List.append_assoc]
            cases now with
            | error e => exact hQ _ _ (.noTime nonce e)
            | ok now => exact hQ _ _ (.answered nonce now)
          · dsimp only
            rw [if_pos hresponse]
            exact hQ _ _ (.wrong hresponse)

/-- One attempt. -/
theorem wp_attempt {Q : Except CheckError (Stage × Except CheckError ℚ) → List CheckEvent → Prop}
    (hQ : ∀ stage outcome own, Attempted target dc stage outcome own →
      Q (.ok (stage, outcome)) (log ++ own)) :
    (attempt target dc).wp recordingAll anyOp Q log := by
  refine wp_bind.mpr (wp_andThen.mpr (wp_call_recordingAll.mpr ⟨trivial, fun answer => ?_⟩))
  cases answer with
  | error e => exact hQ _ _ _ (.refused e)
  | ok _ =>
      refine wp_andThen.mpr (wp_call_recordingAll.mpr ⟨trivial, fun answer => ?_⟩)
      rw [List.append_assoc]
      cases answer with
      | error e => exact hQ _ _ _ (.rejected e)
      | ok _ =>
          refine wp_andThen.mpr (wp_call_recordingAll.mpr ⟨trivial, fun answer => ?_⟩)
          rw [List.append_assoc]
          cases answer with
          | error e => exact hQ _ _ _ (.noHeader e)
          | ok _ =>
              refine wp_andThen.mpr (wp_asked fun outcome own hasked => ?_)
              have hown := hQ _ _ _ (.asked hasked)
              rw [← List.append_assoc] at hown
              exact hown

theorem wp_disconnect {stage : Stage} {Q : Except CheckError Unit → List CheckEvent → Prop}
    (hok : Q (.ok ()) (log ++ closing stage))
    (herror : stage ≠ .tcp → ∀ e, Q (.error e) (log ++ [⟨.close, .error e⟩])) :
    (disconnect stage).wp recordingAll anyOp Q log := by
  cases stage with
  | tcp =>
      rw [closing, List.append_nil] at hok
      exact hok
  | _ =>
      refine wp_call_recordingAll.mpr ⟨trivial, fun answer => ?_⟩
      cases answer with
      | error e => exact herror (by simp) e
      | ok _ => exact hok

/-- One turn of the loop. -/
theorem wp_checkDc {started : ℚ} {errors : List String}
    {Q : Except CheckError (List String ⊕ HealthResult) → List CheckEvent → Prop}
    (hresponded : ∀ now own, Attempted target dc .telegram (.ok now) own →
      Q (.ok (.inr (respondedResult dc (milliseconds round started now))))
        (log ++ own ++ closing .telegram))
    (hfailed : ∀ (failure : Failure) own, failure.dc = dc →
      Attempted target failure.dc failure.stage (.error failure.error) own →
      Q (.ok (if failure.stage = .telegram then .inl (errors ++ [failure.text])
        else .inr (failedResult (errors ++ [failure.text])))) (log ++ own ++ closing failure.stage))
    (haborted : ∀ e own, Aborted target dc e own → Q (.error e) (log ++ own)) :
    (checkDc round target started errors dc).wp recordingAll anyOp Q log := by
  refine wp_bind.mpr (wp_attempt fun stage outcome own hown => wp_bind.mpr (wp_disconnect ?_ ?_))
  · cases outcome with
    | ok now =>
        cases hown with
        | asked hasked => exact hresponded now _ (.asked hasked)
    | error e =>
        by_cases hcancelled : e = .cancelled
        · subst hcancelled
          have h := haborted _ _ (.cancelled hown)
          rw [← List.append_assoc] at h
          exact h
        · have h := hfailed ⟨dc, stage, e⟩ own rfl hown
          cases e with
          | cancelled => exact absurd rfl hcancelled
          | timeout => exact h
          | error text className => exact h
  · intro hstage e
    have h := haborted e _ (.notClosed hown hstage e)
    rw [← List.append_assoc] at h
    exact h

/-- The last failure was in the stage `telegram` if the loop goes on after it. -/
theorem forall_snoc {failures : List Failure} {failure : Failure}
    (h : ∀ failure ∈ failures, failure.stage = .telegram) (hlast : failure.stage = .telegram) :
    ∀ other ∈ failures ++ [failure], other.stage = .telegram := by
  intro other hother
  rcases List.mem_append.mp hother with hother | hother
  · exact h other hother
  · rw [List.mem_singleton.mp hother]
    exact hlast

/-- What the check has done when it ends: it returns, or some data centres have failed and then it
was aborted. -/
inductive Ended (round : ℚ → ℤ) (target : Target) :
    Except CheckError HealthResult → List CheckEvent → Prop
  | returned {result : HealthResult} {log : List CheckEvent} (h : Returned round target result log) :
      Ended round target (.ok result) log
  | noTime (e : CheckError) : Ended round target (.error e) [⟨.clock, .error e⟩]
  | aborted {started : ℚ} {failures : List Failure} {log own : List CheckEvent} {dc : Nat}
      {e : CheckError} (hfailed : Failed target failures log)
      (haborted : Aborted target dc e own) :
      Ended round target (.error e) (⟨.clock, .ok started⟩ :: log ++ own)

/-- `run_mtg_request_check`. -/
theorem wp_runMtgRequestCheck :
    (runMtgRequestCheck round target).wp recordingAll anyOp (Ended round target) [] := by
  refine wp_bind.mpr (wp_call_recordingAll.mpr ⟨trivial, fun answer => ?_⟩)
  cases answer with
  | error e => exact .noTime e
  | ok started =>
      refine wp_bind.mpr (wp_forEach (fun made errors log => ∃ failures log',
        log = ⟨.clock, .ok started⟩ :: log' ∧ Failed target failures log' ∧
          (∀ failure ∈ failures, failure.stage = .telegram) ∧ failures.map Failure.dc = made ∧
          errors = failures.map Failure.text) ?_ ?_ ⟨[], [], rfl, .nil, by simp, rfl, rfl⟩)
      · intro made dc later errors log hdcs h
        obtain ⟨failures, log', rfl, hfailed, haccepted, rfl, rfl⟩ := h
        have hmade : failures.map Failure.dc ++ [dc] <+: testDcs := ⟨later, by simp [hdcs]⟩
        refine wp_checkDc ?_ ?_ ?_
        · intro now own hown
          exact .returned (.responded hfailed haccepted hmade hown)
        · intro failure own hdc hown
          subst hdc
          have hnext := hfailed.snoc hown
          by_cases hstage : failure.stage = .telegram
          · rw [if_pos hstage]
            exact ⟨_, _, by simp, hnext, forall_snoc haccepted hstage, by simp, by simp⟩
          · rw [if_neg hstage]
            have hend : Returned round target _ (⟨.clock, .ok started⟩ :: _) := .failed hnext
              (by simpa using haccepted) (by simpa using hmade) (.inr ⟨failure, by simp, hstage⟩)
            simpa using Ended.returned hend
        · intro e own haborted
          exact .aborted hfailed haborted
      · intro errors log h
        obtain ⟨failures, log', rfl, hfailed, haccepted, hmade, rfl⟩ := h
        refine .returned (.failed hfailed ?_ (hmade ▸ List.prefix_rfl) (.inl hmade))
        exact fun failure hfailure => haccepted failure (List.dropLast_subset _ hfailure)

end Run

/-! ### Connections -/

/-- Whether a connection is open after an event, and `none` if the event is out of place: a
connection is opened while one is open, or used or closed while none is. -/
def bracket : Option Bool → CheckEvent → Option Bool
  | some held, ⟨.openConnection _ _, answer⟩ => if held then none else some answer.isOk
  | some held, ⟨.close, _⟩ => if held then some false else none
  | some held, ⟨.handshake _, _⟩ | some held, ⟨.writeHeader _ _, _⟩ | some held, ⟨.reqPq _, _⟩ =>
      if held then some true else none
  | some held, _ => some held
  | none, _ => none

/-- Connections are opened one after the other, used while they are open, and closed. -/
def Bracketed (log : List CheckEvent) : Prop := log.foldl bracket (some false) = some false

section Bracketed

variable {target : Target} {dc : Nat} {log own : List CheckEvent}

/-- A connection is open after an attempt if it has come past the first stage. -/
theorem bracket_of_attempted {stage : Stage} {outcome : Except CheckError ℚ}
    (h : Attempted target dc stage outcome own) :
    own.foldl bracket (some false) = some (decide (stage ≠ .tcp)) := by
  cases h with
  | refused e => rfl
  | rejected e => rfl
  | noHeader e => rfl
  | asked hasked => cases hasked <;> rfl

theorem Bracketed.append (h : Bracketed log) (hown : Bracketed own) : Bracketed (log ++ own) := by
  rw [Bracketed, List.foldl_append, h]
  exact hown

theorem bracketed_closing {stage : Stage} {outcome : Except CheckError ℚ}
    (h : Attempted target dc stage outcome own) : Bracketed (own ++ closing stage) := by
  rw [Bracketed, List.foldl_append, bracket_of_attempted h]
  cases stage <;> rfl

theorem bracketed_of_failed {failures : List Failure} (h : Failed target failures log) :
    Bracketed log := by
  induction h with
  | nil => rfl
  | snoc _ hown ih =>
      rw [List.append_assoc]
      exact ih.append (bracketed_closing hown)

theorem bracketed_of_aborted {e : CheckError} (h : Aborted target dc e own) : Bracketed own := by
  cases h with
  | cancelled hown => exact bracketed_closing hown
  | @notClosed stage outcome own hown hstage e =>
      rw [Bracketed, List.foldl_append, bracket_of_attempted hown, decide_eq_true hstage]
      rfl

theorem bracketed_of_ended {round : ℚ → ℤ} {result : Except CheckError HealthResult}
    (h : Ended round target result log) : Bracketed log := by
  have hclock : ∀ {answer : Except CheckError ℚ} {log : List CheckEvent}, Bracketed log →
      Bracketed (⟨.clock, answer⟩ :: log) := fun h => h
  cases h with
  | returned h =>
      cases h with
      | responded hfailed _ _ hown =>
          rw [List.append_assoc]
          exact hclock ((bracketed_of_failed hfailed).append (bracketed_closing hown))
      | failed hfailed _ _ _ => exact hclock (bracketed_of_failed hfailed)
  | noTime e => rfl
  | aborted hfailed haborted =>
      exact hclock ((bracketed_of_failed hfailed).append (bracketed_of_aborted haborted))

end Bracketed

/-! ### What a result says of the proxy -/

/-- How many connections have been opened, or could not be. -/
def opens (log : List CheckEvent) : Nat :=
  log.countP fun event => match event.1 with
    | .openConnection _ _ => true
    | _ => false

section Keys

variable (target : Target) (envs : Nat → Env) (conns : Nat → Connection)

/-- The network: the handshake of the `i`th connection succeeds if `handshake` does so with what the
proxy sends there. -/
def network (log : List CheckEvent) (op : CheckOp) (answer : Except CheckError op.Ans) : Prop :=
  match op, answer with
  | .handshake secret, .ok _ =>
      ∃ self, handshake (envs (opens log - 1)) secret (conns (opens log - 1)) = .ok self
  | _, _ => True

/-- On the `i`th connection the proxy has answered as one that knows the key of the secret. -/
def KnowsKey (i : Nat) : Prop :=
  ∃ hello random flight rest, makeClientHello (envs i) target.secret = .ok (hello, random) ∧
    ServerFlight (envs i).hmac ((target.secret.drop 1).take 16) random flight ∧
      (conns i).reader.stream = flight ++ rest

variable {target envs conns}

theorem opens_append (log log' : List CheckEvent) : opens (log ++ log') = opens log + opens log' :=
  List.countP_append

theorem opens_attempted {dc : Nat} {stage : Stage} {outcome : Except CheckError ℚ}
    {own : List CheckEvent} (h : Attempted target dc stage outcome own) : opens own = 1 := by
  cases h with
  | refused e => rfl
  | rejected e => rfl
  | noHeader e => rfl
  | asked hasked => cases hasked <;> rfl

theorem opens_failed {failures : List Failure} {log : List CheckEvent}
    (h : Failed target failures log) : opens log = failures.length := by
  induction h with
  | nil => rfl
  | @snoc failures log own failure _ hown ih =>
      have hclosing : opens (closing failure.stage) = 0 := by
        cases failure.stage <;> rfl
      rw [opens_append, opens_append, ih, opens_attempted hown, hclosing, List.length_append]
      rfl

/-- An attempt that has come to Telegram has made its handshake. -/
theorem accepted_of_attempted {dc : Nat} {outcome : Except CheckError ℚ} {own : List CheckEvent}
    (h : Attempted target dc .telegram outcome own) :
    ∃ later, own = [opened target] ++ accepted target :: later := by
  cases h with
  | asked hasked => exact ⟨_, rfl⟩

/-- So has each failure in that stage. -/
theorem accepted_of_failed {failures : List Failure} {log : List CheckEvent}
    (h : Failed target failures log) {i : Nat} {failure : Failure}
    (hi : failures[i]? = some failure) (hstage : failure.stage = .telegram) :
    ∃ before later, log = before ++ accepted target :: later ∧ opens before = i + 1 := by
  induction h with
  | nil => cases hi
  | @snoc failures log own last hfailed hown ih =>
      by_cases hlt : i < failures.length
      · rw [List.getElem?_append_left hlt] at hi
        obtain ⟨before, later, rfl, hopens⟩ := ih hi
        exact ⟨before, later ++ (own ++ closing last.stage), by simp, hopens⟩
      · have hlength := (List.getElem?_eq_some_iff.mp hi).1
        rw [List.length_append, List.length_singleton] at hlength
        obtain rfl : i = failures.length := by omega
        rw [List.getElem?_concat_length] at hi
        obtain rfl := Option.some.inj hi
        rw [hstage] at hown
        obtain ⟨later, rfl⟩ := accepted_of_attempted hown
        refine ⟨log ++ [opened target], later ++ closing last.stage, by simp, ?_⟩
        rw [opens_append, opens_failed hfailed]
        rfl

/-- A handshake that has succeeded shows that the proxy knows the key. -/
theorem knowsKey_of_network {before : List CheckEvent} {i : Nat} (hopens : opens before = i + 1)
    (h : network envs conns before (accepted target).1 (accepted target).2) :
    KnowsKey target envs conns i := by
  obtain ⟨self, hself⟩ := h
  rw [hopens, Nat.add_sub_cancel] at hself
  obtain ⟨hello, random, flight, hclient, hflight, hstream, -⟩ := serverFlight_of_handshake hself
  exact ⟨hello, random, flight, _, hclient, hflight, hstream⟩

/-- What is done for a data centre that answers. -/
def answering (target : Target) (dc nonce : Nat) (now : ℚ) : List CheckEvent :=
  [opened target, accepted target, headerSent target dc, ⟨.randbits, .ok nonce⟩,
    ⟨.reqPq nonce, .ok (some nonce)⟩, ⟨.clock, .ok now⟩, ⟨.close, .ok ()⟩]

/-- An attempt that was answered has sent the header of its data centre and got its nonce back. -/
theorem answering_of_attempted {dc : Nat} {now : ℚ} {own : List CheckEvent}
    (h : Attempted target dc .telegram (.ok now) own) :
    ∃ nonce, own ++ closing .telegram = answering target dc nonce now := by
  cases h with
  | asked hasked =>
      cases hasked with
      | answered nonce now => exact ⟨nonce, rfl⟩

end Keys

theorem isTrue_respondedResult (dc : Nat) (elapsedMs : ℤ) :
    isTrue (respondedResult dc elapsedMs) "ok" = true := rfl

theorem isTrue_failedResult (errors : List String) : isTrue (failedResult errors) "ok" = false := rfl

/-- **The Fake-TLS check.** Connections are opened one at a time and closed in every case, and a
result tells what was done for each data centre. One that says `ok` means that the last connection
was made for the data centre it names, through a proxy that knows the key of the secret, that the
header of this data centre was sent there and that the nonce came back; and that the proxy has shown
that it knows the key for every data centre before. One that does not, names the data centres that
were tried, in their order; all were, or the last was not for want of the key: only there the proxy
may have failed to show that it knows it. -/
theorem mtg_check (round : ℚ → ℤ) (target : Target) (envs : Nat → Env) (conns : Nat → Connection)
    (result : Except CheckError HealthResult) (log : List CheckEvent)
    (hreaches : Reaches (recording (network envs conns)) (runMtgRequestCheck round target) []
      (.done result) log) :
    Bracketed log ∧ ∀ r, result = .ok r → ∃ started failures before,
      Failed target failures before ∧
      (∀ failure ∈ failures.dropLast, failure.stage = .telegram) ∧
      (isTrue r "ok" = true → ∃ dc nonce now,
        log = ⟨.clock, .ok started⟩ :: before ++ answering target dc nonce now ∧
        failures.map Failure.dc ++ [dc] <+: testDcs ∧
        r = respondedResult dc (milliseconds round started now) ∧
        ∀ i ≤ failures.length, KnowsKey target envs conns i) ∧
      (isTrue r "ok" = false →
        log = ⟨.clock, .ok started⟩ :: before ∧
        r = failedResult (failures.map Failure.text) ∧
        failures.map Failure.dc <+: testDcs ∧
        (failures.map Failure.dc = testDcs ∨
          ∃ failure, failures.getLast? = some failure ∧ failure.stage ≠ .telegram) ∧
        ∀ i, i + 1 < failures.length → KnowsKey target envs conns i) := by
  have hended : Ended round target result log :=
    reaches_of_wp wp_runMtgRequestCheck (hreaches.mono fun _ _ _ _ h => ⟨trivial, h.2⟩)
  have hknows {i : Nat} (before later : List CheckEvent)
      (hlog : log = before ++ accepted target :: later) (hopens : opens before = i + 1) :
      KnowsKey target envs conns i :=
    knowsKey_of_network hopens (allowed_of_reaches hreaches hlog)
  refine ⟨bracketed_of_ended hended, ?_⟩
  rintro r rfl
  cases hended with
  | returned h =>
      cases h with
      | @responded started now failures before own dc hfailed haccepted hdcs hown =>
          refine ⟨started, failures, before, hfailed,
            fun failure hfailure => haccepted failure (List.dropLast_subset _ hfailure), fun _ => ?_,
            fun hnot => absurd hnot (by simp [isTrue_respondedResult])⟩
          obtain ⟨nonce, hanswering⟩ := answering_of_attempted hown
          have hlog : (⟨.clock, .ok started⟩ :: before ++ own ++ closing .telegram : List CheckEvent) =
              ⟨.clock, .ok started⟩ :: before ++ answering target dc nonce now := by
            rw [← hanswering, List.append_assoc]
          refine ⟨dc, nonce, now, hlog, hdcs, rfl, ?_⟩
          intro i hi
          rcases Nat.lt_or_eq_of_le hi with hlt | rfl
          · -- a data centre before, which the proxy has connected to
            have hget := List.getElem?_eq_getElem hlt
            obtain ⟨front, later, rfl, hopens⟩ :=
              accepted_of_failed hfailed hget (haccepted _ (List.getElem_mem hlt))
            exact hknows (⟨.clock, .ok started⟩ :: front)
              (later ++ (own ++ closing .telegram)) (by simp) hopens
          · obtain ⟨later, rfl⟩ := accepted_of_attempted hown
            refine hknows (⟨.clock, .ok started⟩ :: before ++ [opened target])
              (later ++ closing .telegram) (by simp) ?_
            have h : opens (before ++ [opened target]) = failures.length + 1 := by
              rw [opens_append, opens_failed hfailed]
              rfl
            exact h
      | @failed started failures before hfailed haccepted hdcs hlast =>
          refine ⟨started, failures, before, hfailed, haccepted,
            fun hok => absurd hok (by simp [isTrue_failedResult]), fun _ => ⟨rfl, rfl, hdcs, hlast, ?_⟩⟩
          intro i hi
          have hlt : i < failures.length := Nat.lt_of_succ_lt hi
          have hmem : failures[i] ∈ failures.dropLast := by
            rw [List.mem_iff_getElem]
            exact ⟨i, by rw [List.length_dropLast]; omega, by simp⟩
          obtain ⟨front, later, rfl, hopens⟩ :=
            accepted_of_failed hfailed (List.getElem?_eq_getElem hlt) (haccepted _ hmem)
          exact hknows (⟨.clock, .ok started⟩ :: front) later rfl hopens

/-- A connection on which the flight of `sampleSecret`'s proxy comes in one segment. -/
def sampleConnection : Connection :=
  ⟨⟨[], [[22, 3, 3, 0, 39, 2, 0, 0, 35, 3, 3] ++ sampleDigest ++ [0] ++ changeCipherSpec ++
    [23, 3, 3, 0, 1, 7]]⟩, []⟩

/-- The proxy of `sampleSecret`. -/
def sampleTarget : Target := ⟨"192.0.2.1", 443, sampleSecret⟩

/-- The first data centre does not answer in time, and the second one does. -/
def sampleAnswer (log : List CheckEvent) : (op : CheckOp) → Except CheckError op.Ans
  | .clock => .ok (if log = [] then 0 else 7)
  | .randbits => .ok 5
  | .reqPq nonce => if opens log = 1 then .error .timeout else .ok (some nonce)
  | .handshake secret => if secret = sampleSecret then .ok () else .error .timeout
  | .openConnection _ _ | .writeHeader _ _ | .close => .ok ()

/-- What is done with these answers. -/
def sampleCheck : Option (Except CheckError HealthResult) × List CheckEvent :=
  (runMtgRequestCheck (fun _ => 7000) sampleTarget).follow
    (fun log op => (sampleAnswer log op, log ++ [⟨op, sampleAnswer log op⟩])) []

/-- The proxy has shown on both connections that it knows the key. -/
theorem mtg_check_second :
    ∃ started before nonce now,
      sampleCheck.2 = ⟨.clock, .ok started⟩ :: before ++ answering sampleTarget 2 nonce now ∧
      KnowsKey sampleTarget (fun _ => sampleEnv) (fun _ => sampleConnection) 0 ∧
      KnowsKey sampleTarget (fun _ => sampleEnv) (fun _ => sampleConnection) 1 := by
  have hhandshake : ∃ self, handshake sampleEnv sampleSecret sampleConnection = .ok self := by
    have hsome : (handshake sampleEnv sampleSecret sampleConnection).toBool = true := by
      decide +kernel
    cases h : handshake sampleEnv sampleSecret sampleConnection with
    | ok self => exact ⟨self, rfl⟩
    | error e => cases h ▸ hsome
  have hreaches : Reaches (recording (network (fun _ => sampleEnv) fun _ => sampleConnection))
      (runMtgRequestCheck (fun _ => 7000) sampleTarget) []
      (.done (.ok (respondedResult 2 7000))) sampleCheck.2 := by
    refine reaches_follow (fun log op => ⟨?_, rfl⟩) rfl
    cases op with
    | handshake secret =>
        by_cases hsecret : secret = sampleSecret
        · subst hsecret
          simp only [sampleAnswer, if_true]
          exact hhandshake
        · simp only [sampleAnswer, if_neg hsecret]
          trivial
    | _ => trivial
  obtain ⟨-, hresult⟩ := mtg_check _ _ _ _ _ _ hreaches
  obtain ⟨started, failures, before, hfailed, -, hok, -⟩ := hresult _ rfl
  obtain ⟨dc, nonce, now, hlog, hdcs, -, hknows⟩ := hok rfl
  have hlength : failures.length = 1 := by
    have hopens : opens sampleCheck.2 = 2 := by decide +kernel
    rw [hlog, opens_append] at hopens
    have hbefore := opens_failed hfailed
    have hanswering : opens (answering sampleTarget dc nonce now) = 1 := rfl
    change opens before + opens (answering sampleTarget dc nonce now) = 2 at hopens
    omega
  have hdc : failures.map Failure.dc ++ [dc] = [1] ++ [2] := by
    rw [List.prefix_iff_eq_take.mp hdcs]
    simp [hlength, testDcs]
  obtain rfl : dc = 2 := List.cons.inj (List.append_inj' hdc rfl).2 |>.1
  exact ⟨started, before, nonce, now, hlog, hknows 0 (Nat.zero_le _), hknows 1 (by omega)⟩

end PxManager.Mtg
