import PxManager.Speed.Progress
import PxManager.Speed.Server

/-!
# PxManager.Speed.Outcome

The page learns how its measurement has ended: the documents that `post` publishes end with the one
of the stage `complete` or with an error record, and the dialog shows it. A measurement that is
cancelled or whose connection is reset publishes no record, and the dialog says that it broke off.

This is about runs in which the page stays connected: what `post` writes gets to it (`Delivered`).
-/

namespace PxManager.Speed

open PxManager.Core
open PxManager.Core.Coroutine
open PxManager.Health

/-! ### What is published -/

/-- The documents that have been published. -/
def published (log : List SpeedEvent) : List (List (String × Json)) :=
  log.filterMap fun
    | ⟨.publish result, .ok ()⟩ => some result
    | _ => none

/-- The documents among the operations. -/
def publishedOps (ops : List SpeedOp) : List (List (String × Json)) :=
  ops.filterMap fun
    | .publish result => some result
    | _ => none

/-- The documents of a whole measurement. -/
def documents (megabytes : Nat) (protocol : Text) (m : Measured) : List (List (String × Json)) :=
  publishedOps (script megabytes protocol m)

/-- The page stays connected: every document gets through. -/
def Delivered (log : List SpeedEvent) : Prop :=
  ∀ result e, ⟨.publish result, .error e⟩ ∉ log

section Published

variable {lib : Library} {client : ClientConfig} {megabytes : Nat} {protocol : Text}
  {result : Except SpeedError Unit} {log own : List SpeedEvent}

theorem published_append (log log' : List SpeedEvent) :
    published (log ++ log') = published log ++ published log' := List.filterMap_append

/-- What has not raised is published if it is a document. -/
theorem published_of_allOk (h : AllOk log) : published log = publishedOps (asked log) := by
  induction log with
  | nil => rfl
  | cons event log ih =>
      obtain ⟨hevent, hlog⟩ := List.forall_mem_cons.mp h
      obtain ⟨op, answer⟩ := event
      cases answer with
      | error e => cases hevent
      | ok a =>
          have htail := ih hlog
          cases op with
          | publish doc =>
              simp only [published, publishedOps, asked_cons, List.filterMap_cons] at htail ⊢
              rw [htail]
          | _ => simpa [published, publishedOps] using htail

/-- The last operation of a script publishes the last document. -/
theorem length_publishedOps_lt {m : Measured} {ops : List SpeedOp}
    (hasked : ops <+: script megabytes protocol m)
    (hlength : ops.length < (script megabytes protocol m).length) :
    (publishedOps ops).length < (documents megabytes protocol m).length := by
  have hscript : script megabytes protocol m = (script megabytes protocol m).take 10 ++
      [.publish (staged "complete" ((m.members megabytes protocol).take 7))] := rfl
  rw [hscript] at hasked hlength
  rcases List.prefix_concat_iff.mp hasked with heq | hfront
  · rw [heq] at hlength
    exact absurd hlength (lt_irrefl _)
  · have hle : (publishedOps ops).length ≤ 4 :=
      (hfront.filterMap _).length_le.trans_eq (by rfl)
    exact Nat.lt_of_le_of_lt hle (by decide : 4 < 5)

/-- A measurement has published the first of its documents. It has published all of them if it
returns, and only then. -/
theorem published_of_transcript {m : Measured}
    (h : MeasureTranscript lib megabytes protocol m result own) :
    published own <+: documents megabytes protocol m ∧
      (result = .ok () → published own = documents megabytes protocol m) ∧
      (published own = documents megabytes protocol m → Finds lib megabytes own m) := by
  have hpartly {own : List SpeedEvent} {ops : List SpeedOp} (hops : published own = publishedOps ops)
      (hasked : ops <+: script megabytes protocol m)
      (hlength : ops.length < (script megabytes protocol m).length) :
      published own = documents megabytes protocol m → Finds lib megabytes own m := by
    intro hall
    have hlt := length_publishedOps_lt hasked hlength
    rw [← hops, hall] at hlt
    exact absurd hlt (lt_irrefl _)
  cases h with
  | returned hasked hok hfinds =>
      rw [published_of_allOk hok, hasked]
      exact ⟨List.prefix_rfl, fun _ => rfl, fun _ => hfinds⟩
  | @raised log op e hasked hok =>
      have hops : published (log ++ [⟨op, .error e⟩]) = publishedOps (asked log) := by
        have hlast : published [⟨op, .error e⟩] = [] := by cases op <;> rfl
        rw [published_append, hlast, List.append_nil, published_of_allOk hok]
      have hfront : asked log <+: script megabytes protocol m := (List.prefix_append _ _).trans hasked
      have hlength : (asked log).length < (script megabytes protocol m).length := by
        have hle := hasked.length_le
        rw [List.length_append] at hle
        exact hle
      refine ⟨hops ▸ hfront.filterMap _, ?_, hpartly hops hfront hlength⟩
      intro h
      cases h
  | failed hasked hlength hok _ =>
      have hops := published_of_allOk hok
      refine ⟨hops ▸ hasked.filterMap _, ?_, hpartly hops hasked (by simpa [asked] using hlength)⟩
      intro h
      cases h

/-- What a measurement with its client has published. -/
theorem published_of_test (h : TestTranscript lib client megabytes protocol result log) :
    ∃ m, published log <+: documents megabytes protocol m ∧
      (result = .ok () → published log = documents megabytes protocol m) ∧
      (published log = documents megabytes protocol m → Finds lib megabytes log m) := by
  have hevents (own : List SpeedEvent) (answer : Except SpeedError Unit) :
      published (⟨.enter client, .ok ()⟩ :: own ++ [⟨.exit, answer⟩]) = published own := by
    simp [published]
  have hresults (own : List SpeedEvent) (answer : Except SpeedError Unit) :
      results (⟨.enter client, .ok ()⟩ :: own ++ [⟨.exit, answer⟩]) = results own := by
    simp [results]
  cases h with
  | notOpened e =>
      refine ⟨⟨([], none), .nan, .nan, .nan⟩, List.nil_prefix, ?_, ?_⟩
      · intro h
        cases h
      · intro h
        cases h
  | @closed own m _ hown =>
      obtain ⟨hfront, hall, hfinds⟩ := published_of_transcript hown
      rw [hevents]
      exact ⟨m, hfront, hall, fun heq => by simpa only [Finds, hresults] using hfinds heq⟩
  | @closeFailed own m _ hown e =>
      obtain ⟨hfront, -, hfinds⟩ := published_of_transcript hown
      rw [hevents]
      refine ⟨m, hfront, ?_, fun heq => by simpa only [Finds, hresults] using hfinds heq⟩
      intro h
      cases h

/-- An exception without a message comes from an operation. -/
theorem exists_raised_of_test {e : SpeedError}
    (h : TestTranscript lib client megabytes protocol (.error e) log) (hmessage : e.message? = none) :
    ∃ op, ⟨op, .error e⟩ ∈ log := by
  cases h with
  | notOpened _ => exact ⟨.enter client, by simp⟩
  | closed hown =>
      cases hown with
      | @raised own op _ _ _ => exact ⟨op, by simp⟩
      | failed _ _ _ hsome => exact absurd hmessage hsome
  | closeFailed hown _ => exact ⟨.exit, by simp⟩

section Post

variable {py : Builtins} {intError : Json → Text} {plan : Plan}

/-- What the `try` block has published. -/
theorem published_of_try (h : TryTranscript py lib intError plan result log) :
    ∃ m, published log <+: documents plan.megabytes plan.protocol m ∧
      (result = .ok () → published log = documents plan.megabytes plan.protocol m) ∧
      (published log = documents plan.megabytes plan.protocol m → Finds lib plan.megabytes log m) := by
  cases h with
  | noPort _ =>
      refine ⟨⟨([], none), .nan, .nan, .nan⟩, List.nil_prefix, ?_, ?_⟩
      · intro h
        cases h
      · intro h
        cases h
  | tested _ htest => exact published_of_test htest

theorem exists_raised_of_try {e : SpeedError} (h : TryTranscript py lib intError plan (.error e) log)
    (hmessage : e.message? = none) : ∃ op, ⟨op, .error e⟩ ∈ log := by
  cases h with
  | noPort hport =>
      unfold portOf at hport
      cases hget : getHostPort py plan.hostData with
      | ok port => rw [hget] at hport; cases hport
      | error error =>
          rw [hget] at hport
          cases hport
          cases error <;> simp [portError, SpeedError.message?] at hmessage
  | tested _ htest => exact exists_raised_of_test htest hmessage

/-- If the page stays connected, the documents end with that of the last stage or with an error
record, or an operation has raised what `post` is silent about. -/
theorem published_of_post (h : PostTranscript py lib intError plan result log)
    (hdelivered : Delivered log) :
    ∃ m front, front <+: documents plan.megabytes plan.protocol m ∧
      ((front = documents plan.megabytes plan.protocol m ∧ published log = front ∧
        Finds lib plan.megabytes log m) ∨
      (∃ message, published log = front ++ [errorResult message]) ∨
      (front ≠ documents plan.megabytes plan.protocol m ∧ published log = front ∧
        ∃ op e, ⟨op, .error e⟩ ∈ log ∧ e.message? = none)) := by
  cases h with
  | returned htry =>
      obtain ⟨m, hfront, hall, hfinds⟩ := published_of_try htry
      exact ⟨m, _, hfront, .inl ⟨hall rfl, rfl, hfinds (hall rfl)⟩⟩
  | @silent e log htry hmessage =>
      obtain ⟨m, hfront, -, hfinds⟩ := published_of_try htry
      obtain ⟨op, hraised⟩ := exists_raised_of_try htry hmessage
      -- the client may not have been closed after the last document
      by_cases heq : published log = documents plan.megabytes plan.protocol m
      · exact ⟨m, _, hfront, .inl ⟨heq, rfl, hfinds heq⟩⟩
      · exact ⟨m, _, hfront, .inr (.inr ⟨heq, rfl, op, e, hraised, hmessage⟩)⟩
  | @reported e message log htry _ =>
      obtain ⟨m, hfront, -⟩ := published_of_try htry
      exact ⟨m, published log, hfront, .inr (.inl ⟨message, published_append log _⟩)⟩
  | @notReported e e' message log _ htry _ =>
      exact absurd (List.mem_append_right _ (List.mem_singleton_self _))
        (hdelivered (errorResult message) e')

end Post

end Published

/-! ### The dialog -/

section Dialog

variable {browser : Browser} {py : Builtins}

variable (browser) in
/-- The dialog reads the documents line by line, and then asks whether it has seen the last
stage. -/
theorem readAll_published (hpy : ∀ q, '\n' ∉ py.repr (.float (.finite q)))
    {results : List (List (String × Json))} {chunks : List (List UInt8)}
    (hchunks : chunks.flatten = results.flatMap (publish py)) (dialog : Dialog) :
    readAll browser dialog (chunks.map .value) =
      (results.map fun result => py.dumps (.obj result)).foldlM (update browser) dialog >>=
        fun last => if last.complete then .ok last
          else .error (.error "Замер прерван до завершения".toList, last) := by
  obtain ⟨bomSeen, hdecode⟩ := decode_published py results
  have hloop := readLoop_eq browser chunks [] ⟨none, false⟩ (by simp : '\n' ∉ []) dialog
  rw [hchunks, hdecode] at hloop
  simp only [splitPop_published hpy, List.append_nil] at hloop
  rw [readAll, hloop]
  cases (results.map fun result => py.dumps (.obj result)).foldlM (update browser) dialog with
  | error thrown => rfl
  | ok last =>
      have hend : update browser last ([] ++ flush none) = .ok last := by simp [update, flush]
      simp only [readLoop, bind, Except.bind, hend]
      rfl

/-- Documents that are no error records are shown one after the other. -/
theorem foldlM_update_ok {results : List (List (String × Json))}
    (hparse : ∀ result ∈ results, browser.parse (py.dumps (.obj result)) = .ok (.obj result))
    (hstage : ∀ result ∈ results, hasStage (.obj result) "error" = false) {dialog : Dialog}
    (hactive : dialog.active = true) :
    (results.map fun result => py.dumps (.obj result)).foldlM (update browser) dialog =
      .ok (dialog.processAll browser (results.map .obj)) := by
  induction results generalizing dialog with
  | nil => rfl
  | cons result results ih =>
      obtain ⟨hresult, hrest⟩ := List.forall_mem_cons.mp hparse
      obtain ⟨hno, hstage⟩ := List.forall_mem_cons.mp hstage
      simp only [List.map_cons, List.foldlM_cons, update_dumps hresult hactive, Dialog.process,
        Dialog.processAll, hno]
      exact ih hrest hstage hactive

/-- What the elements show after a document. -/
def shown (browser : Browser) (data : Json) (values : List (String × Text)) :
    List (String × Text) :=
  values.map fun item =>
    match field data item.1 with
    | none => item
    | some value => (item.1, valueText browser item.1 value)

/-- What an earlier document has shown is not seen any more if a later one has its fields. -/
theorem shown_shown {data data' : Json} (values : List (String × Text))
    (h : ∀ key, field data' key = none → field data key = none) :
    shown browser data' (shown browser data values) = shown browser data' values := by
  unfold shown
  rw [List.map_map]
  refine List.map_congr_left fun item _ => ?_
  rw [Function.comp_apply]
  cases hdata : field data item.1 with
  | none => rfl
  | some value =>
      cases hdata' : field data' item.1 with
      | none => cases (h item.1 hdata').symm.trans hdata
      | some value' => rfl

theorem get?_eq_none {members : List (String × Json)} {key : String} :
    Json.get? members key = none ↔ ∀ m ∈ members, m.1 ≠ key := by
  simp [Json.get?]

/-- A document of a later stage has the fields of an earlier one. -/
theorem field_staged_eq_none {stage stage' : String} {members : List (String × Json)} {n n' : Nat}
    (hn : n ≤ n') {key : String} (h : field (.obj (staged stage' (members.take n'))) key = none) :
    field (.obj (staged stage (members.take n))) key = none := by
  simp only [field, staged, get?_eq_none, List.forall_mem_cons] at h ⊢
  refine ⟨h.1, fun m hm => h.2 m ?_⟩
  exact (List.take_prefix_take_left hn).subset hm

/-- The document of the last stage. -/
def completeDocument (megabytes : Nat) (protocol : Text) (m : Measured) : Json :=
  .obj (staged "complete" (m.members megabytes protocol))

theorem documents_eq (megabytes : Nat) (protocol : Text) (m : Measured) :
    documents megabytes protocol m =
      [("metadata", 2), ("latency", 4), ("download", 5), ("upload", 6), ("complete", 7)].map
        fun stage => staged stage.1 ((m.members megabytes protocol).take stage.2) := rfl

/-- No document of a measurement is an error record. -/
theorem hasStage_of_mem_documents {megabytes : Nat} {protocol : Text} {m : Measured}
    {result : List (String × Json)} (h : result ∈ documents megabytes protocol m) :
    hasStage (.obj result) "error" = false := by
  simp only [documents_eq, List.map_cons, List.map_nil, List.mem_cons, List.not_mem_nil,
    or_false] at h
  rcases h with rfl | rfl | rfl | rfl | rfl <;>
    simp [hasStage, field, Json.get?, staged, Measured.members, startMembers, exitMembers,
      Json.asStr?]

/-- Documents without an error record are applied one after the other. -/
theorem processAll_cons {data : Json} {rest : List Json} (h : hasStage data "error" = false)
    (dialog : Dialog) :
    dialog.processAll browser (data :: rest) =
      (({ dialog with parsed := dialog.parsed ++ [data] } : Dialog).apply browser data).processAll
        browser rest := by
  rw [Dialog.processAll, if_neg (by simp [h])]

variable (browser) in
theorem active_processAll (dialog : Dialog) (documents : List Json) :
    (dialog.processAll browser documents).active = dialog.active := by
  induction documents generalizing dialog with
  | nil => rfl
  | cons data rest ih =>
      rw [Dialog.processAll]
      split
      · rfl
      · exact ih _

/-- Only the last document of a measurement says that it is complete. -/
theorem hasStage_complete_of_part {megabytes : Nat} {protocol : Text} {m : Measured}
    {front : List (List (String × Json))} (hfront : front <+: documents megabytes protocol m)
    (hne : front ≠ documents megabytes protocol m) :
    ∀ result ∈ front, hasStage (.obj result) "complete" = false := by
  have hdocuments : documents megabytes protocol m = (documents megabytes protocol m).take 4 ++
      [staged "complete" ((m.members megabytes protocol).take 7)] := rfl
  rw [hdocuments] at hfront hne
  have hbefore := (List.prefix_concat_iff.mp hfront).resolve_left hne
  intro result hresult
  have hmem := hbefore.subset hresult
  simp only [documents_eq, List.map_cons, List.map_nil, List.take_succ_cons, List.take_zero,
    List.mem_cons, List.not_mem_nil, or_false] at hmem
  rcases hmem with rfl | rfl | rfl | rfl <;>
    simp [hasStage, field, Json.get?, staged, Measured.members, startMembers, exitMembers,
      Json.asStr?]

/-- Documents that are not that of the last stage do not complete the dialog. -/
theorem complete_processAll {documents : List Json}
    (herror : ∀ data ∈ documents, hasStage data "error" = false)
    (hcomplete : ∀ data ∈ documents, hasStage data "complete" = false) (dialog : Dialog) :
    (dialog.processAll browser documents).complete = dialog.complete := by
  induction documents generalizing dialog with
  | nil => rfl
  | cons data rest ih =>
      obtain ⟨hdata, hrest⟩ := List.forall_mem_cons.mp herror
      obtain ⟨hdata', hrest'⟩ := List.forall_mem_cons.mp hcomplete
      rw [processAll_cons hdata, ih hrest hrest']
      simp [Dialog.apply, hdata']

/-- What the dialog shows of a whole measurement is what its last document says. -/
theorem processAll_documents (htext : ∀ s, browser.text (.str s) = s.toList) (megabytes : Nat)
    (protocol : Text) (m : Measured) (dialog : Dialog) :
    let last := dialog.processAll browser ((documents megabytes protocol m).map .obj)
    last.status = "Замер завершён".toList ∧ last.complete = true ∧
      last.values = shown browser (completeDocument megabytes protocol m) dialog.values := by
  have hstage : ∀ result ∈ documents megabytes protocol m, hasStage (.obj result) "error" = false :=
    fun _ => hasStage_of_mem_documents
  simp only [documents_eq, List.map_cons, List.map_nil, List.forall_mem_cons] at hstage ⊢
  obtain ⟨hmetadata, hlatency, hdownload, hupload, hcomplete, -⟩ := hstage
  rw [processAll_cons hmetadata, processAll_cons hlatency, processAll_cons hdownload,
    processAll_cons hupload, processAll_cons hcomplete, Dialog.processAll]
  refine ⟨?_, ?_, ?_⟩
  · simp [Dialog.apply, field, Json.get?, staged, stages, htext, Measured.members, startMembers,
      exitMembers]
  · simp [Dialog.apply, hasStage, field, Json.get?, staged, Measured.members, startMembers,
      exitMembers, Json.asStr?]
  · change shown browser (.obj (staged "complete" ((m.members megabytes protocol).take 7)))
      (shown browser _ (shown browser _ (shown browser _ (shown browser _ dialog.values)))) = _
    rw [shown_shown _ fun key => field_staged_eq_none (by decide),
      shown_shown _ fun key => field_staged_eq_none (by decide),
      shown_shown _ fun key => field_staged_eq_none (by decide),
      shown_shown _ fun key => field_staged_eq_none (by decide)]
    rfl

/-- The status after an error in the loop. -/
theorem status_of_error {reads : List Read} {dialog last : Dialog} {message : Text}
    (hread : readAll browser dialog reads = .error (.error message, last))
    (hactive : last.active = true) : (submit browser dialog reads).status = message := by
  rw [submit, hread]
  exact if_pos hactive

/-- An error record stops the loop with its message. -/
theorem process_errorResult (htext : ∀ s, browser.text (.str s) = s.toList) (message : Text)
    (dialog : Dialog) :
    dialog.process browser (.obj (errorResult message)) =
      .error (.error message,
        { dialog with parsed := dialog.parsed ++ [.obj (errorResult message)] }) := by
  have hstage : hasStage (.obj (errorResult message)) "error" = true := by
    simp [hasStage, field, Json.get?, errorResult, Json.asStr?]
  have hmessage : field (.obj (errorResult message)) "error" = some (textJson message) := by
    simp [field, Json.get?, errorResult]
  rw [Dialog.process, if_pos hstage, hmessage]
  · simp [textJson, htext]
  · intro h
    cases h

end Dialog

/-- **The page learns how its measurement has ended**, if what `post` writes gets to it and however
the response is cut into chunks. The dialog says that the measurement is complete and shows what the
requests have found, or it shows the error record that was published last, or it says that the
measurement has broken off, and then an operation was cancelled, or the stream was closed or the
connection reset. -/
theorem submit_learns_outcome (py : Builtins) (lib : Library) (intError : Json → Text)
    (browser : Browser) (hpy : ∀ q, '\n' ∉ py.repr (.float (.finite q)))
    (htext : ∀ s, browser.text (.str s) = s.toList) (args : Arguments) (plan : Plan)
    (hplan : Speed.plan py args = .ok plan) (log : List SpeedEvent)
    (result : Except SpeedError Unit)
    (hreaches : Reaches recordingAll (postBody py lib intError plan) [] (.done result) log)
    (hdelivered : Delivered log)
    (hparse : ∀ result ∈ published log,
      browser.parse (py.dumps (.obj result)) = .ok (.obj result))
    (chunks : List (List UInt8)) (hchunks : chunks.flatten = (published log).flatMap (publish py))
    (dialog : Dialog) (hactive : dialog.active = true) (hfresh : dialog.complete = false) :
    let last := submit browser dialog (chunks.map .value)
    (∃ m, Finds lib plan.megabytes log m ∧ last.complete = true ∧
      last.status = "Замер завершён".toList ∧
      last.values = shown browser (completeDocument plan.megabytes plan.protocol m) dialog.values) ∨
    (∃ message, (published log).getLast? = some (errorResult message) ∧ last.status = message) ∨
    last.complete = false ∧ last.status = "Замер прерван до завершения".toList ∧
      ∃ op e, ⟨op, .error e⟩ ∈ log ∧ e.message? = none := by
  have hpost : PostTranscript py lib intError plan result log :=
    reaches_of_wp (postBody_wp hplan) hreaches
  have hread := readAll_published browser hpy hchunks dialog
  obtain ⟨m, front, hfront, ⟨rfl, hpublished, hfinds⟩ | ⟨message, hpublished⟩ |
    ⟨hne, hpublished, hraised⟩⟩ := published_of_post hpost hdelivered
  · obtain ⟨hstatus, hcomplete, hvalues⟩ :=
      processAll_documents htext plan.megabytes plan.protocol m dialog
    rw [foldlM_update_ok hparse (by
      rw [hpublished]
      exact fun _ => hasStage_of_mem_documents) hactive, hpublished] at hread
    refine .inl ⟨m, hfinds, ?_⟩
    rw [submit, hread]
    simp only [bind, Except.bind, hcomplete, if_true]
    exact ⟨trivial, hstatus, hvalues⟩
  · refine .inr (.inl ⟨message, by simp [hpublished], ?_⟩)
    have hstages : ∀ result ∈ front, hasStage (.obj result) "error" = false :=
      fun result hresult => hasStage_of_mem_documents (hfront.subset hresult)
    rw [hpublished] at hparse hread
    rw [List.map_append, List.foldlM_append, foldlM_update_ok
      (fun result hresult => hparse result (List.mem_append_left _ hresult)) hstages hactive] at hread
    have hlast := hparse (errorResult message) (by simp)
    have hlastActive := (active_processAll browser dialog (front.map .obj)).trans hactive
    simp only [bind, Except.bind, List.map_cons, List.map_nil, List.foldlM_cons,
      update_dumps hlast hlastActive, process_errorResult htext] at hread
    exact status_of_error hread hlastActive
  · have hstages : ∀ result ∈ front, hasStage (.obj result) "error" = false :=
      fun result hresult => hasStage_of_mem_documents (hfront.subset hresult)
    have hcomplete : (dialog.processAll browser (front.map .obj)).complete = false := by
      refine (complete_processAll ?_ ?_ dialog).trans hfresh
      · exact List.forall_mem_map.mpr hstages
      · exact List.forall_mem_map.mpr (hasStage_complete_of_part hfront hne)
    have hlastActive := (active_processAll browser dialog (front.map .obj)).trans hactive
    rw [hpublished] at hparse hread
    rw [foldlM_update_ok hparse hstages hactive] at hread
    simp only [bind, Except.bind, hcomplete, Bool.false_eq_true, if_false] at hread
    refine .inr (.inr ⟨?_, status_of_error hread hlastActive, hraised⟩)
    rw [submit, hread]
    exact hcomplete

/-- A browser that reads one document. -/
def recordBrowser (result : List (String × Json)) : Browser where
  parse line := if line = asciiBuiltins.dumps (.obj result) then .ok (.obj result) else .error []
  text
    | .str s => s.toList
    | _ => []

/-- The plan of `sampleArguments`. -/
def samplePlan : Plan :=
  ⟨sampleHost, "proxy.example", "user".toList, "secret".toList, 25, "h2".toList⟩

/-- The client that it opens. -/
def sampleClient : ClientConfig :=
  clientFor sampleHost "proxy.example" 443 "user".toList "secret".toList "h2".toList

/-- The text of an exception that is not a `ValueError`. -/
def networkMessage : Text := "Замер не завершён: ошибка сети, TLS или таймаут".toList

/-- The proxy cannot be reached. -/
theorem submit_learns_outcome_unreachable :
    let last := submit (recordBrowser (errorResult networkMessage)) sampleDialog
      ([publish asciiBuiltins (errorResult networkMessage)].map .value)
    last.status = networkMessage := by
  let enter : SpeedEvent := ⟨.enter sampleClient, .error .other⟩
  let report : SpeedEvent := ⟨.publish (errorResult networkMessage), .ok ()⟩
  have henter : recordingAll [] enter.1 enter.2 [enter] := ⟨trivial, rfl⟩
  have hreport : recordingAll [enter] report.1 report.2 [enter, report] := ⟨trivial, rfl⟩
  have hreaches : Reaches recordingAll (postBody asciiBuiltins sampleLibrary (fun _ => []) samplePlan)
      [] (.done (.ok ())) [enter, report] := .step henter (.step hreport .refl)
  have h := submit_learns_outcome asciiBuiltins sampleLibrary (fun _ => [])
    (recordBrowser (errorResult networkMessage)) (by simp [asciiBuiltins]) (fun _ => rfl)
    sampleArguments samplePlan rfl _ _ hreaches (by simp [Delivered, enter, report])
    (by simp [published, enter, report, recordBrowser])
    [publish asciiBuiltins (errorResult networkMessage)] (by simp [published, enter, report]) sampleDialog rfl rfl
  rcases h with ⟨m, hfinds, -⟩ | ⟨message, hlast, hstatus⟩ | ⟨-, -, op, e, hraised, hmessage⟩
  · -- no request has returned anything
    obtain ⟨_, _, _, _, _, _, hresults, -⟩ := hfinds
    cases hresults
  · have hmessage : String.ofList message = String.ofList networkMessage := by
      simpa [published, enter, report, errorResult, textJson, eq_comm] using hlast
    exact hstatus.trans (String.ofList_injective hmessage)
  · simp only [List.mem_cons, List.not_mem_nil, or_false, enter, report] at hraised
    rcases hraised with heq | heq
    · cases heq
      cases hmessage
    · cases heq

end PxManager.Speed
