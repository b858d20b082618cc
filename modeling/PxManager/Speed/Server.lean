import PxManager.Speed.Lock

/-!
# PxManager.Speed.Server

What every request for a measurement does, in whatever order the requests of the process go on.

`TestTranscript` says what `run_speed_test` can have done when it ends and `PostTranscript` the same
of `post`. One measurement runs at a time (`measures_alone`).
-/

namespace PxManager.Speed

open PxManager.Core
open PxManager.Core.Coroutine
open PxManager.Health
open PxManager.Health.Speed (sizesMb protocols isKind http3Enabled validParameters_iff
  nonneg_of_mem_sizesMb)

variable (lib : Library) (client : ClientConfig) (megabytes : Nat) (protocol : Text)

/-! ### The measurement with its client -/

/-- What `run_speed_test` has done when it ends: no client was opened, or a measurement was made and
the client closed. -/
inductive TestTranscript : Except SpeedError Unit → List SpeedEvent → Prop
  | notOpened (e : SpeedError) : TestTranscript (.error e) [⟨.enter client, .error e⟩]
  | closed {own : List SpeedEvent} {m : Measured} {result : Except SpeedError Unit}
      (hown : MeasureTranscript lib megabytes protocol m result own) :
      TestTranscript result (⟨.enter client, .ok ()⟩ :: own ++ [⟨.exit, .ok ()⟩])
  | closeFailed {own : List SpeedEvent} {m : Measured} {result : Except SpeedError Unit}
      (hown : MeasureTranscript lib megabytes protocol m result own) (e : SpeedError) :
      TestTranscript (.error e) (⟨.enter client, .ok ()⟩ :: own ++ [⟨.exit, .error e⟩])

/-- The operation comes next in `run_speed_test`. -/
inductive TestNext : List SpeedEvent → SpeedOp → Prop
  | enter : TestNext [] (.enter client)
  | measure {own : List SpeedEvent} {op : SpeedOp} (hnext : IsNext megabytes protocol own op) :
      TestNext (⟨.enter client, .ok ()⟩ :: own) op
  | exit {own : List SpeedEvent} {m : Measured} {result : Except SpeedError Unit}
      (hown : MeasureTranscript lib megabytes protocol m result own) :
      TestNext (⟨.enter client, .ok ()⟩ :: own) .exit

theorem withClient_wp :
    (withClient client (measure lib megabytes protocol)).wp recordingAll
      (TestNext lib client megabytes protocol) (TestTranscript lib client megabytes protocol) [] := by
  rw [withClient, wp_bind, wp_call]
  refine ⟨.enter, ?_, ?_⟩
  · intro _ log henv
    obtain ⟨-, rfl⟩ := henv
    refine wp_ensuring.mpr ?_
    -- the transcript of the measurement comes after the event of the client
    have hmeasure : (measure lib megabytes protocol).wp recordingAll _ _
        [⟨SpeedOp.enter client, .ok ()⟩] :=
      wp_simulates (fun own log => log = ⟨SpeedOp.enter client, .ok ()⟩ :: own) (by
        intro own log op answer log' hrel henv
        obtain ⟨-, rfl⟩ := henv
        exact ⟨own ++ [⟨op, answer⟩], ⟨trivial, rfl⟩, by rw [hrel]; rfl⟩)
      (measure_wp lib megabytes protocol fun _ _ _ => True) rfl
    refine wp_mono hmeasure (fun _ _ _ _ henv => henv) ?_ ?_
    · intro log op h
      obtain ⟨own, rfl, hnext⟩ := h
      exact .measure hnext
    · intro result log h
      obtain ⟨own, rfl, m, hown⟩ := h
      refine wp_call.mpr ⟨.exit hown, ?_, ?_⟩
      · intro _ log' henv
        obtain ⟨-, rfl⟩ := henv
        exact .closed hown
      · intro e log' henv
        obtain ⟨-, rfl⟩ := henv
        exact .closeFailed hown e
  · intro e log henv
    obtain ⟨-, rfl⟩ := henv
    exact .notOpened e

/-! ### The handler -/

section Post

variable (py : Builtins) (lib : Library) (intError : Json → Text) (plan : Plan)

/-- What the `try` block of `post` has done when it ends. -/
inductive TryTranscript : Except SpeedError Unit → List SpeedEvent → Prop
  /-- The port of the entry is no number. -/
  | noPort {e : SpeedError} (hport : portOf py intError plan = .error e) :
      TryTranscript (.error e) []
  | tested {port : ℤ} {result : Except SpeedError Unit} {log : List SpeedEvent}
      (hport : portOf py intError plan = .ok port)
      (htest : TestTranscript lib (clientFor plan.hostData plan.host port plan.username plan.password
        plan.protocol) plan.megabytes plan.protocol result log) : TryTranscript result log

/-- What `post` has done when it ends, and how it ends. -/
inductive PostTranscript : Except SpeedError Unit → List SpeedEvent → Prop
  | returned {log : List SpeedEvent} (htry : TryTranscript py lib intError plan (.ok ()) log) :
      PostTranscript (.ok ()) log
  | silent {e : SpeedError} {log : List SpeedEvent}
      (htry : TryTranscript py lib intError plan (.error e) log) (hmessage : e.message? = none) :
      PostTranscript (.ok ()) log
  | reported {e : SpeedError} {message : Text} {log : List SpeedEvent}
      (htry : TryTranscript py lib intError plan (.error e) log)
      (hmessage : e.message? = some message) :
      PostTranscript (.ok ()) (log ++ [⟨.publish (errorResult message), .ok ()⟩])
  | notReported {e e' : SpeedError} {message : Text} {log : List SpeedEvent}
      {result : Except SpeedError Unit}
      (htry : TryTranscript py lib intError plan (.error e) log)
      (hmessage : e.message? = some message) :
      PostTranscript result (log ++ [⟨.publish (errorResult message), .error e'⟩])

/-- The operation comes next in `post`. -/
inductive PostNext : List SpeedEvent → SpeedOp → Prop
  | test {port : ℤ} {log : List SpeedEvent} {op : SpeedOp}
      (hport : portOf py intError plan = .ok port)
      (hnext : TestNext lib (clientFor plan.hostData plan.host port plan.username plan.password
        plan.protocol) plan.megabytes plan.protocol log op) : PostNext log op
  | report {e : SpeedError} {message : Text} {log : List SpeedEvent}
      (htry : TryTranscript py lib intError plan (.error e) log)
      (hmessage : e.message? = some message) :
      PostNext log (.publish (errorResult message))

variable {py lib intError plan}

/-- The parameters are checked twice, with the same result. -/
theorem runSpeedTest_of_plan {args : Arguments} (hplan : Speed.plan py args = .ok plan) (port : ℤ) :
    runSpeedTest lib plan.hostData plan.host port plan.username plan.password plan.megabytes
        plan.protocol =
      withClient (clientFor plan.hostData plan.host port plan.username plan.password plan.protocol)
        (measure lib plan.megabytes plan.protocol) := by
  have hparams : ((plan.megabytes : ℤ) ∈ sizesMb ∧ plan.protocol ∈ protocols) ∧
      isKind plan.hostData "mtproxy" = false ∧
      (plan.protocol = "h3".toList → http3Enabled plan.hostData = true) := by
    unfold Speed.plan at hplan
    split at hplan
    · cases hplan
    split at hplan
    · cases hplan
    dsimp only at hplan
    split at hplan
    · cases hplan
    split at hplan
    · next megabytes _ hparams =>
        cases hplan
        have hvalid := validParameters_iff.mp hparams
        have hsize : ((megabytes.toNat : ℕ) : ℤ) = megabytes :=
          Int.toNat_of_nonneg (nonneg_of_mem_sizesMb hvalid.1.1)
        rwa [← hsize] at hvalid
    · cases hplan
  obtain ⟨⟨hsize, hprotocol⟩, hkind, h3⟩ := hparams
  rw [runSpeedTest, if_neg (by simp [hsize, hprotocol]), if_neg (by simp [hkind]), if_neg]
  intro h
  rw [h3 h.1] at h
  cases h.2

/-- `post` of a request that is not refused. -/
theorem postBody_wp {args : Arguments} (hplan : Speed.plan py args = .ok plan) :
    (postBody py lib intError plan).wp recordingAll (PostNext py lib intError plan)
      (PostTranscript py lib intError plan) [] := by
  have hhandle : ∀ {e : SpeedError} {log : List SpeedEvent},
      TryTranscript py lib intError plan (.error e) log →
      (handleError e).wp recordingAll (PostNext py lib intError plan)
        (PostTranscript py lib intError plan) log := by
    intro e log htry
    unfold handleError
    split
    · next hmessage => exact .silent htry hmessage
    · next message hmessage =>
        refine wp_tryCatch.mpr (wp_call.mpr ⟨.report htry hmessage, ?_, ?_⟩)
        · intro _ log' henv
          obtain ⟨-, rfl⟩ := henv
          exact .reported htry hmessage
        · intro e' log' henv
          obtain ⟨-, rfl⟩ := henv
          cases e' <;> exact .notReported htry hmessage
  refine wp_tryCatch.mpr (wp_bind.mpr ?_)
  cases hport : portOf py intError plan with
  | error e => exact hhandle (.noPort hport)
  | ok port =>
      refine wp_done.mpr ?_
      dsimp only
      rw [runSpeedTest_of_plan hplan]
      refine wp_mono (withClient_wp ..) (fun _ _ _ _ henv => henv) (fun _ _ h => .test hport h) ?_
      intro result log htest
      cases result with
      | ok _ => exact .returned (.tested hport htest)
      | error e => exact hhandle (.tested hport htest)

end Post

/-! ### Clients -/

/-- Whether a client is open after an event. -/
def holdsAfter (held : Bool) : SpeedEvent → Bool
  | ⟨.enter _, .ok _⟩ => true
  | ⟨.exit, _⟩ => false
  | _ => held

/-- Whether a request has a client open. -/
def holdsClient (log : List SpeedEvent) : Bool := log.foldl holdsAfter false

/-- The operations that use a client. -/
def SpeedOp.usesClient : SpeedOp → Bool
  | .request _ _ _ _ => true
  | _ => false

/-- The operations of `measure`. -/
def SpeedOp.isMeasure : SpeedOp → Bool
  | .request _ _ _ _ | .publish _ => true
  | _ => false

section Clients

variable {lib : Library} {client : ClientConfig} {megabytes : Nat} {protocol : Text}
  {result : Except SpeedError Unit} {log own : List SpeedEvent} {op : SpeedOp}

theorem isMeasure_of_mem_script {m : Measured} (h : op ∈ script megabytes protocol m) :
    op.isMeasure = true := by
  simp only [script, List.mem_cons, List.not_mem_nil, or_false] at h
  rcases h with rfl | rfl | rfl | rfl | rfl | rfl | rfl | rfl | rfl | rfl | rfl <;> rfl

theorem foldl_holdsAfter (h : ∀ op ∈ asked own, op.isMeasure = true) (held : Bool) :
    own.foldl holdsAfter held = held := by
  induction own with
  | nil => rfl
  | cons event own ih =>
      rw [asked_cons, List.forall_mem_cons] at h
      have hevent : holdsAfter held event = held := by
        obtain ⟨op, answer⟩ := event
        cases op with
        | enter client => cases h.1
        | exit => cases h.1
        | request path upload limit capture => rfl
        | publish result => rfl
      rw [List.foldl_cons, hevent]
      exact ih h.2

/-- Every client that was opened is closed at the end. -/
theorem holdsClient_of_testTranscript
    (h : TestTranscript lib client megabytes protocol result log) : holdsClient log = false := by
  cases h with
  | notOpened e => rfl
  | closed hown => simp [holdsClient, holdsAfter]
  | closeFailed hown e => simp [holdsClient, holdsAfter]

theorem holdsClient_of_postTranscript {py : Builtins} {intError : Json → Text} {plan : Plan}
    (h : PostTranscript py lib intError plan result log) : holdsClient log = false := by
  have htry : ∀ {result log}, TryTranscript py lib intError plan result log →
      holdsClient log = false := by
    intro result log h
    cases h with
    | noPort _ => rfl
    | tested _ htest => exact holdsClient_of_testTranscript htest
  cases h with
  | returned h => exact htry h
  | silent h _ => exact htry h
  | reported h _ => simpa [holdsClient, holdsAfter] using htry h
  | notReported h _ => simpa [holdsClient, holdsAfter] using htry h

/-- A request is made with an open client. -/
theorem holdsClient_of_postNext {py : Builtins} {intError : Json → Text} {plan : Plan}
    (h : PostNext py lib intError plan log op) (huses : op.usesClient = true) :
    holdsClient log = true := by
  cases h with
  | report _ _ => cases huses
  | test _ hnext =>
      cases hnext with
      | enter => cases huses
      | exit _ => cases huses
      | @measure own _ hnext =>
          obtain ⟨m, hm⟩ := hnext
          have hown : ∀ op ∈ asked own, op.isMeasure = true := fun op hop =>
            isMeasure_of_mem_script (hm.subset (List.mem_append_left _ hop))
          exact foldl_holdsAfter hown true

end Clients

/-! ### The process -/

section Server

variable (py : Builtins) (lib : Library) (intError : Json → Text)

/-- A request of the process has come to where it is by running `post`. -/
def Response.Ok : Response → Prop
  | .refused _ => True
  | .measuring plan log rest =>
      (∃ args, Speed.plan py args = .ok plan) ∧
        Reaches recordingAll (postBody py lib intError plan) [] rest log
  | .ended plan log result =>
      (∃ args, Speed.plan py args = .ok plan) ∧
        Reaches recordingAll (postBody py lib intError plan) [] (.done result) log

/-- What a request has done. -/
def Response.log : Response → List SpeedEvent
  | .refused _ => []
  | .measuring _ log _ => log
  | .ended _ log _ => log

/-- Every request of the process has come to where it is by running `post`. -/
def Server.Ok (s : Server) : Prop :=
  ∀ id response, s.requests id = some response → response.Ok py lib intError

variable {py lib intError} {s s' : Server}

theorem Server.Ok.init : Server.init.Ok py lib intError := by
  intro id response hrequest
  cases hrequest

/-- A request gets to `rest`. -/
theorem Server.Ok.set (h : s.Ok py lib intError) {id : Nat} {plan : Plan} {log : List SpeedEvent}
    {rest : Measurement Unit} (hplan : ∃ args, Speed.plan py args = .ok plan)
    (hreaches : Reaches recordingAll (postBody py lib intError plan) [] rest log) :
    (s.set id plan log rest).Ok py lib intError := by
  intro id' response hrequest
  unfold Server.set at hrequest
  split at hrequest
  · dsimp only at hrequest
    split at hrequest
    · cases hrequest
      exact ⟨hplan, hreaches⟩
    · exact h id' response hrequest
  · dsimp only at hrequest
    split at hrequest
    · cases hrequest
      exact ⟨hplan, hreaches⟩
    · exact h id' response hrequest

theorem Server.Ok.refuse (h : s.Ok py lib intError) {id status : Nat} :
    (s.refuse id status).Ok py lib intError := by
  intro id' response hrequest
  unfold Server.refuse at hrequest
  dsimp only at hrequest
  split at hrequest
  · cases hrequest
    trivial
  · exact h id' response hrequest

theorem Server.Ok.step (h : s.Ok py lib intError) {action : ServerAction}
    (hstep : s.step py lib intError action = some s') : s'.Ok py lib intError := by
  cases action with
  | arrive id args =>
      simp only [Server.step] at hstep
      split at hstep
      · cases hstep
      split at hstep
      · cases hstep
        exact h.refuse
      next plan hplan =>
      split at hstep
      · cases hstep
        exact h.refuse
      · cases hstep
        exact h.set ⟨args, hplan⟩ .refl
  | answer id answer =>
      simp only [Server.step] at hstep
      split at hstep
      · next plan log op resume hrequest =>
          cases hstep
          obtain ⟨hplan, hreaches⟩ := h id _ hrequest
          exact h.set hplan (hreaches.snoc ⟨trivial, rfl⟩)
      · cases hstep

/-- A request that is served waits for the next operation of `post`, and one that has ended has done
what `post` does. -/
theorem Server.Ok.served (h : s.Ok py lib intError) {id : Nat} {plan : Plan}
    {log : List SpeedEvent} :
    (∀ op resume, s.requests id = some (.measuring plan log (.await op resume)) →
      PostNext py lib intError plan log op) ∧
    ∀ result, s.requests id = some (.ended plan log result) →
      PostTranscript py lib intError plan result log := by
  constructor
  · intro op resume hrequest
    obtain ⟨⟨args, hplan⟩, hreaches⟩ := h id _ hrequest
    exact reaches_of_wp (postBody_wp hplan) hreaches
  · intro result hrequest
    obtain ⟨⟨args, hplan⟩, hreaches⟩ := h id _ hrequest
    exact reaches_of_wp (postBody_wp hplan) hreaches

end Server

/-- **One measurement runs at a time**, in every order of arrivals and answers.

* The flag is set and another request is refused exactly while one runs.
* What the request waits for is the next operation of `post`, and one that has ended has done what
  `post` does.
* A client is open only for the request that is being measured, which makes its requests through
  it. -/
theorem measures_alone (py : Builtins) (lib : Library) (intError : Json → Text)
    (actions : List ServerAction) (s : Server)
    (hrun : run (Server.step py lib intError) .init actions = some s) :
    (s.running = true ↔ ∃ id, s.Measuring id) ∧
      (∀ id id', s.Measuring id → s.Measuring id' → id = id') ∧
      (∀ id args plan, s.requests id = none → Speed.plan py args = .ok plan →
        (s.step py lib intError (.arrive id args) = some (s.refuse id 409) ↔
          ∃ id, s.Measuring id)) ∧
      (∀ id plan log op resume, s.requests id = some (.measuring plan log (.await op resume)) →
        PostNext py lib intError plan log op ∧ (op.usesClient = true → holdsClient log = true)) ∧
      (∀ id plan log result, s.requests id = some (.ended plan log result) →
        PostTranscript py lib intError plan result log) ∧
      ∀ id response, s.requests id = some response → holdsClient response.log = true →
        s.Measuring id := by
  obtain ⟨hflag, halone⟩ := running_iff_measuring py lib intError hrun
  have hok : s.Ok py lib intError :=
    run_induction (fun _ _ _ _ hok hstep => hok.step hstep) .init hrun
  refine ⟨hflag, halone, ?_, ?_, ?_, ?_⟩
  · intro id args plan hnew hplan
    rw [← hflag]
    simp only [Server.step, hnew, hplan]
    constructor
    · intro hstep
      by_contra hflag
      rw [if_neg hflag] at hstep
      have hrequest := congrFun (congrArg Server.requests (Option.some.inj hstep)) id
      unfold Server.set at hrequest
      split at hrequest <;> simp [Server.refuse] at hrequest
    · intro hflag
      rw [if_pos hflag]
  · intro id plan log op resume hrequest
    have hnext := hok.served.1 op resume hrequest
    exact ⟨hnext, fun huses => holdsClient_of_postNext hnext huses⟩
  · intro id plan log result hrequest
    exact hok.served.2 result hrequest
  · intro id response hrequest hholds
    cases response with
    | refused status => cases hholds
    | measuring plan log rest => exact ⟨plan, log, rest, hrequest⟩
    | ended plan log result =>
        have hclosed := holdsClient_of_postTranscript (hok.served.2 result hrequest)
        cases hholds.symm.trans hclosed

/-- A host entry that may be measured. -/
def sampleHost : HostData := Dict.ofList [("host", .str "proxy.example")]

/-- A request for it. -/
def sampleArguments : Arguments :=
  ⟨some ("user".toList, "secret".toList), [sampleHost], "proxy.example", some "25".toList, none⟩

/-- Library functions that this request does not come to. -/
def sampleLibrary : Library := ⟨fun _ => .nan, fun _ _ => .nan, id, fun _ => []⟩

/-- Everything succeeds but the requests through the client. -/
def sampleAnswer : (op : SpeedOp) → Except SpeedError op.Ans
  | .request _ _ _ _ => .error .other
  | .enter _ | .publish _ | .exit => .ok ()

/-- Two requests, of which the second comes while the first has its client open. -/
theorem measures_alone_busy :
    ∃ s, run (Server.step asciiBuiltins sampleLibrary fun _ => []) .init
        [.arrive 0 sampleArguments, .answer 0 sampleAnswer, .answer 0 sampleAnswer,
          .arrive 1 sampleArguments] = some s ∧
      s.running = true ∧ (∀ id, s.Measuring id → id = 0) ∧
      ∃ plan log resume, s.requests 0 =
          some (.measuring plan log (.await (.request "/cdn-cgi/trace".toList 0 65536 true) resume)) ∧
        holdsClient log = true := by
  have hbusy : ∃ s plan log resume, run (Server.step asciiBuiltins sampleLibrary fun _ => []) .init
      [.arrive 0 sampleArguments, .answer 0 sampleAnswer, .answer 0 sampleAnswer,
        .arrive 1 sampleArguments] = some s ∧ s.running = true ∧ s.requests 0 =
          some (.measuring plan log (.await (.request "/cdn-cgi/trace".toList 0 65536 true) resume)) :=
    ⟨_, _, _, _, rfl, rfl, rfl⟩
  obtain ⟨s, plan, log, resume, hrun, hrunning, hfirst⟩ := hbusy
  obtain ⟨-, halone, -, hnext, -⟩ := measures_alone _ _ _ _ s hrun
  refine ⟨s, hrun, hrunning, ?_, plan, log, resume, hfirst, ?_⟩
  · exact fun id hmeasuring => halone id 0 hmeasuring ⟨plan, log, _, hfirst⟩
  · exact (hnext 0 plan log _ resume hfirst).2 rfl

end PxManager.Speed
