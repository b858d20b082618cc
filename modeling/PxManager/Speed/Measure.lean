import PxManager.Core.Coroutine
import PxManager.Core.IpAddress
import PxManager.Core.Lines
import PxManager.Speed.Http3Client

/-!
# PxManager.Speed.Measure

`measure` of `proxy_speed.py`: five documents on the progress of a measurement, and six requests
between them.

Requests and documents are the operations of a coroutine, so each of them may raise whatever it
likes, a cancellation included. `script` lists the operations of a whole measurement. Every
measurement follows it as far as it gets (`measure_wp`), and one that returns has made all of them,
with the results that it has published.
-/

namespace PxManager.Speed

open PxManager.Core
open PxManager.Core.Coroutine

/-! ### Operations -/

/-- What a measurement raises. -/
inductive SpeedError
  /-- With its text. -/
  | valueError (text : Text)
  | cancelled
  | streamClosed
  | connectionReset
  | other
  deriving DecidableEq

/-- What the page is told of an exception. It is told nothing after a cancellation and when the
connection to it is broken. -/
def SpeedError.message? : SpeedError → Option Text
  | .valueError text => some text
  | .other => some "Замер не завершён: ошибка сети, TLS или таймаут".toList
  | _ => none

/-- The client that a measurement uses. -/
inductive ClientConfig
  /-- `http3_client`. -/
  | http3 (host : String) (port : ℤ) (username password : Text)
  /-- `httpx.AsyncClient` with a proxy. -/
  | httpx (scheme : String) (host : String) (port : ℤ) (auth : Option (Json × Json))
      (http2 http1 : Bool)

/-- What a measurement waits for. -/
inductive SpeedOp
  /-- The client is opened. -/
  | enter (client : ClientConfig)
  | request (path : Text) (upload limit : Nat) (capture : Bool)
  | publish (result : List (String × Json))
  /-- The client is closed. -/
  | exit

/-- The types of the results. -/
@[reducible]
def SpeedOp.Ans : SpeedOp → Type
  | .request _ _ _ _ => Result
  | _ => Unit

/-- A coroutine of a measurement. -/
abbrev Measurement (α : Type) := Coroutine SpeedOp SpeedOp.Ans SpeedError α

/-- An operation of a measurement with what it returned or raised. -/
abbrev SpeedEvent := Event SpeedOp SpeedOp.Ans SpeedError

/-- `await request(path, upload, limit, capture)`. -/
def request (path : Text) (upload limit : Nat) (capture : Bool) : Measurement Result :=
  call (SpeedOp.request path upload limit capture)

/-- `await publish(result)`. -/
def publishResult (result : List (String × Json)) : Measurement Unit :=
  call (SpeedOp.publish result)

/-! ### The measurement -/

/-- Arithmetic of floats, and the texts of exceptions. -/
structure Library where
  /-- `round(x, 2)`. -/
  round2 : ℚ → PyFloat
  /-- `round(size * 8 / seconds / MEGABYTE, 2)`, for a time that is not zero. -/
  mbps : (size : Nat) → (seconds : ℚ) → PyFloat
  addressError : Text → Text
  decodeError : Bytes → Text

/-- `MEGABYTE`. -/
def megabyte : Nat := 1000000

/-- The fields of the answer of `/cdn-cgi/trace`: `line.split('=', 1)` of every line with an equals
sign. -/
def traceFields (text : Text) : List (Text × Text) :=
  ((splitlines text).filter fun line => '=' ∈ line).map fun line =>
    (line.takeWhile (· ≠ '='), (line.dropWhile (· ≠ '=')).drop 1)

/-- `fields.get(key)`: the last field of a name is kept. -/
def traceField (fields : List (Text × Text)) (key : String) : Option Text :=
  (fields.reverse.find? fun field => field.1 = key.toList).map Prod.snd

variable (lib : Library)

/-- The exit address and the country of an answer of `/cdn-cgi/trace`. -/
def exitOf (trace : Result) : Except SpeedError (Text × Option Text) :=
  match decodeUtf8 trace.body with
  | none => .error (.valueError (lib.decodeError trace.body))
  | some text =>
      let fields := traceFields text
      let ip := (traceField fields "ip").getD []
      match IpAddress.ipAddress ip with
      | none => .error (.valueError (lib.addressError ip))
      | some address => .ok (address.str, traceField fields "loc")

/-- `statistics.median` of three samples, rounded. A missing sample is not comparable. -/
def latencyOf (samples : List Result) : Except SpeedError PyFloat :=
  match samples.mapM (·.ttfbMs) with
  | none => .error .other
  | some times =>
      match (times.mergeSort (· ≤ ·))[times.length / 2]? with
      | some median => .ok (lib.round2 median)
      | none => .error .other

/-- The rate of a transfer. A division by zero raises. -/
def mbpsOf (size : Nat) (transfer : Result) : Except SpeedError PyFloat :=
  if transfer.seconds = 0 then .error .other else .ok (lib.mbps size transfer.seconds)

/-- `str(text)` as a member. -/
def textJson (text : Text) : Json := .str (String.ofList text)

/-- `{'protocol': protocol, 'megabytes': megabytes}`. -/
def startMembers (megabytes : Nat) (protocol : Text) : List (String × Json) :=
  [("protocol", textJson protocol), ("megabytes", .int megabytes)]

/-- The members that the exit address adds. -/
def exitMembers (exit : Text × Option Text) : List (String × Json) :=
  [("exit_ip", textJson exit.1), ("country_code", (exit.2.map textJson).getD .null)]

/-- `{'stage': stage, **result}`. -/
def staged (stage : String) (result : List (String × Json)) : List (String × Json) :=
  ("stage", .str stage) :: result

/-- The path of a download. -/
def downloadPath (size : Nat) : Text := "/__down?bytes=".toList ++ decimal size

/-- `limit` where a caller gives none. -/
def defaultLimit : Nat := 65536

/-- `measure`. -/
def measure (megabytes : Nat) (protocol : Text) : Measurement Unit := do
  let result := startMembers megabytes protocol
  publishResult (staged "metadata" result)
  let trace ← request "/cdn-cgi/trace".toList 0 defaultLimit true
  let exit ← done (exitOf lib trace)
  let result := result ++ exitMembers exit
  publishResult (staged "latency" result)
  let first ← request (downloadPath 0) 0 defaultLimit false
  let second ← request (downloadPath 0) 0 defaultLimit false
  let third ← request (downloadPath 0) 0 defaultLimit false
  let latency ← done (latencyOf lib [first, second, third])
  let result := result ++ [("latency_ms", .float latency)]
  publishResult (staged "download" result)
  let size := megabytes * megabyte
  let download ← request (downloadPath size) 0 size false
  if download.bytes ≠ size then
    throw (.valueError "Cloudflare вернул неполную загрузку".toList)
  let rate ← done (mbpsOf lib size download)
  let result := result ++ [("download_mbps", .float rate)]
  publishResult (staged "upload" result)
  let upload ← request "/__up".toList size defaultLimit false
  let rate ← done (mbpsOf lib size upload)
  let result := result ++ [("upload_mbps", .float rate)]
  publishResult (staged "complete" result)

/-! ### The transcript of a measurement -/

/-- What a whole measurement finds. -/
structure Measured where
  exit : Text × Option Text
  latency : PyFloat
  download : PyFloat
  upload : PyFloat

section Script

variable (megabytes : Nat) (protocol : Text) (m : Measured)

/-- The members of the last document. Those before it have the first of them. -/
def Measured.members : List (String × Json) :=
  startMembers megabytes protocol ++ exitMembers m.exit ++
    [("latency_ms", .float m.latency), ("download_mbps", .float m.download),
      ("upload_mbps", .float m.upload)]

/-- The operations of a whole measurement. -/
def script : List SpeedOp :=
  [.publish (staged "metadata" ((m.members megabytes protocol).take 2)),
    .request "/cdn-cgi/trace".toList 0 defaultLimit true,
    .publish (staged "latency" ((m.members megabytes protocol).take 4)),
    .request (downloadPath 0) 0 defaultLimit false,
    .request (downloadPath 0) 0 defaultLimit false,
    .request (downloadPath 0) 0 defaultLimit false,
    .publish (staged "download" ((m.members megabytes protocol).take 5)),
    .request (downloadPath (megabytes * megabyte : Nat)) 0 (megabytes * megabyte) false,
    .publish (staged "upload" ((m.members megabytes protocol).take 6)),
    .request "/__up".toList (megabytes * megabyte) defaultLimit false,
    .publish (staged "complete" ((m.members megabytes protocol).take 7))]

end Script

/-- What the requests of a transcript have returned. -/
def results (log : List SpeedEvent) : List Result :=
  log.filterMap fun
    | ⟨.request _ _ _ _, .ok result⟩ => some result
    | _ => none

/-- The requests of a whole measurement have found `m`. -/
def Finds (megabytes : Nat) (log : List SpeedEvent) (m : Measured) : Prop :=
  ∃ trace first second third download upload,
    results log = [trace, first, second, third, download, upload] ∧
      exitOf lib trace = .ok m.exit ∧ latencyOf lib [first, second, third] = .ok m.latency ∧
      download.bytes = megabytes * megabyte ∧
      mbpsOf lib (megabytes * megabyte) download = .ok m.download ∧
      mbpsOf lib (megabytes * megabyte) upload = .ok m.upload

section Transcript

variable (megabytes : Nat) (protocol : Text)

/-- The operation is the next one of a script. -/
def IsNext (log : List SpeedEvent) (op : SpeedOp) : Prop :=
  ∃ m : Measured, asked log ++ [op] <+: script megabytes protocol m

/-- No operation of a transcript has raised. -/
def AllOk (log : List SpeedEvent) : Prop :=
  ∀ event ∈ log, event.2.isOk = true

/-- A transcript that follows a script, and how the measurement ends with it. -/
inductive MeasureTranscript (m : Measured) : Except SpeedError Unit → List SpeedEvent → Prop
  | returned {log : List SpeedEvent} (hasked : asked log = script megabytes protocol m)
      (hok : AllOk log) (hfinds : Finds lib megabytes log m) : MeasureTranscript m (.ok ()) log
  /-- An operation has raised. -/
  | raised {log : List SpeedEvent} {op : SpeedOp} {e : SpeedError}
      (hasked : asked log ++ [op] <+: script megabytes protocol m) (hok : AllOk log) :
      MeasureTranscript m (.error e) (log ++ [⟨op, .error e⟩])
  /-- What an operation has returned cannot be used. -/
  | failed {log : List SpeedEvent} {e : SpeedError}
      (hasked : asked log <+: script megabytes protocol m)
      (hlength : log.length < (script megabytes protocol m).length) (hok : AllOk log)
      (hmessage : e.message? ≠ none) : MeasureTranscript m (.error e) log

variable {megabytes protocol} {lib}
variable {allowed : List SpeedEvent → (op : SpeedOp) → Except SpeedError op.Ans → Prop}
  {log : List SpeedEvent}

theorem AllOk.snoc (h : AllOk log) {op : SpeedOp} (a : op.Ans) : AllOk (log ++ [⟨op, .ok a⟩]) := by
  intro event hevent
  rcases List.mem_append.mp hevent with hevent | hevent
  · exact h event hevent
  · rw [List.mem_singleton.mp hevent]
    rfl

/-- One operation of a script. -/
theorem wp_next {op : SpeedOp} {k : op.Ans → Measurement Unit}
    (hok : AllOk log) (hnext : IsNext megabytes protocol log op)
    (hk : ∀ a, AllOk (log ++ [⟨op, .ok a⟩]) →
      (k a).wp (recording allowed) (IsNext megabytes protocol)
        (fun result log => ∃ m, MeasureTranscript lib megabytes protocol m result log)
        (log ++ [⟨op, .ok a⟩])) :
    ((call op : Measurement op.Ans) >>= k).wp (recording allowed) (IsNext megabytes protocol)
      (fun result log => ∃ m, MeasureTranscript lib megabytes protocol m result log) log := by
  rw [wp_bind, wp_call]
  refine ⟨hnext, ?_, ?_⟩
  · intro a log' henv
    obtain ⟨-, rfl⟩ := henv
    exact hk a (hok.snoc a)
  · intro e log' henv
    obtain ⟨-, rfl⟩ := henv
    obtain ⟨m, hm⟩ := hnext
    exact ⟨m, .raised hm hok⟩

/-- A computation between two operations. -/
theorem wp_computed {α : Type} {x : Except SpeedError α} {k : α → Measurement Unit} (m : Measured)
    (hlog : asked log <+: script megabytes protocol m)
    (hlength : log.length < (script megabytes protocol m).length) (hok : AllOk log)
    (hx : ∀ e, x = .error e → e.message? ≠ none)
    (hk : ∀ a, x = .ok a → (k a).wp (recording allowed) (IsNext megabytes protocol)
      (fun result log => ∃ m, MeasureTranscript lib megabytes protocol m result log) log) :
    ((done x : Measurement α) >>= k).wp (recording allowed) (IsNext megabytes protocol)
      (fun result log => ∃ m, MeasureTranscript lib megabytes protocol m result log) log := by
  cases x with
  | ok a => exact hk a rfl
  | error e => exact ⟨m, .failed hlog hlength hok (hx e rfl)⟩

theorem message_of_exitOf {trace : Result} {e : SpeedError} (h : exitOf lib trace = .error e) :
    e.message? ≠ none := by
  simp only [exitOf] at h
  split at h
  · cases h
    simp [SpeedError.message?]
  · split at h
    · cases h
      simp [SpeedError.message?]
    · cases h

theorem message_of_latencyOf {samples : List Result} {e : SpeedError}
    (h : latencyOf lib samples = .error e) : e.message? ≠ none := by
  simp only [latencyOf] at h
  split at h
  · cases h
    simp [SpeedError.message?]
  · split at h
    · cases h
    · cases h
      simp [SpeedError.message?]

theorem message_of_mbpsOf {size : Nat} {transfer : Result} {e : SpeedError}
    (h : mbpsOf lib size transfer = .error e) : e.message? ≠ none := by
  unfold mbpsOf at h
  split at h
  · cases h
    simp [SpeedError.message?]
  · cases h

end Transcript

/-- Every measurement follows a script, and one that returns has found what its script says. -/
theorem measure_wp (megabytes : Nat) (protocol : Text)
    (allowed : List SpeedEvent → (op : SpeedOp) → Except SpeedError op.Ans → Prop) :
    (measure lib megabytes protocol).wp (recording allowed) (IsNext megabytes protocol)
      (fun result log => ∃ m, MeasureTranscript lib megabytes protocol m result log) [] := by
  -- what is not known yet may be anything
  refine wp_next (fun _ h => by cases h) ⟨⟨([], none), .nan, .nan, .nan⟩, _, rfl⟩ fun _ h1 => ?_
  refine wp_next h1 ⟨⟨([], none), .nan, .nan, .nan⟩, _, rfl⟩ fun trace h2 => ?_
  refine wp_computed ⟨([], none), .nan, .nan, .nan⟩ ⟨_, rfl⟩ (by simp [script]) h2
    (fun _ => message_of_exitOf) fun exit hexit => ?_
  refine wp_next h2 ⟨⟨exit, .nan, .nan, .nan⟩, _, rfl⟩ fun _ h3 => ?_
  refine wp_next h3 ⟨⟨exit, .nan, .nan, .nan⟩, _, rfl⟩ fun first h4 => ?_
  refine wp_next h4 ⟨⟨exit, .nan, .nan, .nan⟩, _, rfl⟩ fun second h5 => ?_
  refine wp_next h5 ⟨⟨exit, .nan, .nan, .nan⟩, _, rfl⟩ fun third h6 => ?_
  refine wp_computed ⟨exit, .nan, .nan, .nan⟩ ⟨_, rfl⟩ (by simp [script]) h6
    (fun _ => message_of_latencyOf) fun latency hlatency => ?_
  refine wp_next h6 ⟨⟨exit, latency, .nan, .nan⟩, _, rfl⟩ fun _ h7 => ?_
  refine wp_next h7 ⟨⟨exit, latency, .nan, .nan⟩, _, rfl⟩ fun download h8 => ?_
  split
  · exact ⟨⟨exit, latency, .nan, .nan⟩, .failed ⟨_, rfl⟩ (by simp [script]) h8
      (by simp [SpeedError.message?])⟩
  next hsize =>
  refine wp_computed ⟨exit, latency, .nan, .nan⟩ ⟨_, rfl⟩ (by simp [script]) h8
    (fun _ => message_of_mbpsOf) fun downloadRate hdownload => ?_
  refine wp_next h8 ⟨⟨exit, latency, downloadRate, .nan⟩, _, rfl⟩ fun _ h9 => ?_
  refine wp_next h9 ⟨⟨exit, latency, downloadRate, .nan⟩, _, rfl⟩ fun upload h10 => ?_
  refine wp_computed ⟨exit, latency, downloadRate, .nan⟩ ⟨_, rfl⟩ (by simp [script]) h10
    (fun _ => message_of_mbpsOf) fun uploadRate hupload => ?_
  refine wp_call.mpr ⟨⟨⟨exit, latency, downloadRate, uploadRate⟩, _, rfl⟩, ?_, ?_⟩
  · intro _ log' henv
    obtain ⟨-, rfl⟩ := henv
    refine ⟨⟨exit, latency, downloadRate, uploadRate⟩, .returned rfl (h10.snoc _) ?_⟩
    exact ⟨trace, first, second, third, download, upload, rfl, hexit, hlatency, not_not.mp hsize,
      hdownload, hupload⟩
  · intro e log' henv
    obtain ⟨-, rfl⟩ := henv
    exact ⟨⟨exit, latency, downloadRate, uploadRate⟩, .raised ⟨[], rfl⟩ h10⟩

end PxManager.Speed
