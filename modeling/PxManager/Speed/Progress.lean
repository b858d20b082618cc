import PxManager.Core.Dumps
import PxManager.Core.Utf8

/-!
# PxManager.Speed.Progress

The progress of a speed test on its way from the server to the page. `publish` writes one JSON
document a line; the submit handler of the speed form reads the response in chunks, decodes them as
they come and hands every line that is complete to `update`.

How the network cuts the response makes no difference: the decoder keeps an unfinished character and
`pending` an unfinished line, so the lines are those of the whole response (`readLoop_eq`).
-/

namespace PxManager.Speed

open PxManager.Core

/-! ### The server -/

/-- The bytes that `publish` writes. -/
def publish (py : Builtins) (result : List (String × Json)) : List UInt8 :=
  encodeUtf8 (py.dumps (.obj result) ++ ['\n'])

/-! ### The browser -/

/-- What a browser does with JSON values. -/
structure Browser where
  /-- `JSON.parse`, with the message of its error. -/
  parse : Text → Except Text Json
  /-- `String(value)`. -/
  text : Json → Text

/-- A `TextDecoder` between two chunks. -/
structure TextDecoder where
  unfinished : Option Unfinished
  /-- whether the first character has been seen -/
  bomSeen : Bool

/-- `decoder.decode(chunk, {stream: true})`. A byte order mark at the start is dropped. -/
def TextDecoder.decode (decoder : TextDecoder) (chunk : List UInt8) : TextDecoder × Text :=
  let (unfinished, text) := decodeChunk decoder.unfinished chunk
  match decoder.bomSeen, text with
  | false, c :: text => (⟨unfinished, true⟩, if c = Char.ofNat 0xfeff then text else c :: text)
  | bomSeen, text => (⟨unfinished, bomSeen⟩, text)

/-- Whitespace, as `trim` removes it. -/
def isTrimmed (c : Char) : Bool :=
  let n := c.toNat
  (0x09 ≤ n ∧ n ≤ 0x0d) || n = 0x20 || n = 0xa0 || n = 0x1680 || (0x2000 ≤ n ∧ n ≤ 0x200a) ||
    n = 0x2028 || n = 0x2029 || n = 0x202f || n = 0x205f || n = 0x3000 || n = 0xfeff

/-- The lines that a newline ends and what comes after the last one: `split("\n")` and `pop`. `line`
is the part of the first line that has been read. -/
def splitPop (line : Text) : Text → List Text × Text
  | [] => ([], line)
  | c :: text =>
      if c = '\n' then (line :: (splitPop [] text).1, (splitPop [] text).2)
      else splitPop (line ++ [c]) text

/-- `data[key]`. `none` is `undefined`. -/
def field (data : Json) (key : String) : Option Json :=
  match data with
  | .obj members => Json.get? members key
  | _ => none

/-- `data.stage === stage`. -/
def hasStage (data : Json) (stage : String) : Bool :=
  (field data "stage").bind Json.asStr? = some stage

/-- Whether a condition takes the value for true. -/
def isTruthy : Option Json → Bool
  | none | some .null => false
  | some (.bool b) => b
  | some (.int n) => n ≠ 0
  | some (.float x) => x ≠ .finite 0 ∧ x ≠ .nan
  | some (.str s) => s ≠ ""
  | some (.arr _) | some (.obj _) => true

/-- What an element shows after `element.textContent = value`. -/
def textContent (browser : Browser) : Option Json → Text
  | none | some .null => []
  | some value => browser.text value

/-- What stops the loop. -/
inductive Thrown
  | syntaxError (message : Text)
  /-- a property of `null` -/
  | typeError
  | error (message : Text)
  /-- the request was aborted -/
  | abortError
  deriving DecidableEq

/-- The speed dialog. -/
structure Dialog where
  /-- `active === controller` -/
  active : Bool
  status : Text
  /-- the elements with `data-speed-value`, and what they show -/
  values : List (String × Text)
  /-- the country that `updateCountry` was last called with -/
  country : Option Json
  complete : Bool
  /-- history: what `JSON.parse` returned, and what of it was shown -/
  parsed : List Json
  applied : List Json

/-- The texts of the stages. -/
def stages : List (Text × String) :=
  [("metadata".toList, "Получение выходного IP…"), ("latency".toList, "Замер задержки…"),
    ("download".toList, "Замер загрузки…"), ("upload".toList, "Замер отправки…"),
    ("complete".toList, "Замер завершён")]

/-- The names of the protocols. -/
def protocolNames : List (Text × String) :=
  [("h1".toList, "HTTP/1.1"), ("h2".toList, "HTTP/2"), ("h3".toList, "HTTP/3")]

/-- What an element shows for a value. -/
def valueText (browser : Browser) (key : String) (value : Json) : Text :=
  if key = "latency_ms" then browser.text value ++ " мс".toList
  else if key.endsWith "_mbps" then browser.text value ++ " Мбит/с".toList
  else if key = "protocol" then
    match protocolNames.find? fun name => name.1 = browser.text value with
    | some name => name.2.toList
    | none => []
  else textContent browser (some value)

/-- The part of `update` that changes the dialog. -/
def Dialog.apply (browser : Browser) (dialog : Dialog) (data : Json) : Dialog :=
  let stage := field data "stage"
  { dialog with
    status :=
      match stages.find? fun s => some s.1 = stage.map browser.text with
      | some s => s.2.toList
      | none => textContent browser stage
    values := dialog.values.map fun item =>
      match field data item.1 with
      | none => item
      | some value => (item.1, valueText browser item.1 value)
    country :=
      if isTruthy (field data "country_code") then field data "country_code" else dialog.country
    complete := dialog.complete || hasStage data "complete"
    applied := dialog.applied ++ [data] }

/-- `update` on the document of a line. -/
def Dialog.process (browser : Browser) (dialog : Dialog) (data : Json) :
    Except (Thrown × Dialog) Dialog :=
  let dialog := { dialog with parsed := dialog.parsed ++ [data] }
  match data with
  | .null => .error (.typeError, dialog)
  | data =>
      if hasStage data "error" then
        .error (.error (((field data "error").map browser.text).getD []), dialog)
      else .ok (dialog.apply browser data)

/-- `update`. -/
def update (browser : Browser) (dialog : Dialog) (line : Text) :
    Except (Thrown × Dialog) Dialog :=
  if line.all isTrimmed ∨ dialog.active = false then .ok dialog
  else
    match browser.parse line with
    | .error message => .error (.syntaxError message, dialog)
    | .ok data => dialog.process browser data

/-- How a read ends. -/
inductive Read
  | value (chunk : List UInt8)
  /-- the dialog was closed, which aborts the request -/
  | closed

/-- The `while` loop, with what it keeps from one read to the next. -/
def readLoop (browser : Browser) (decoder : TextDecoder) (pending : Text) (dialog : Dialog) :
    List Read → Except (Thrown × Dialog) (TextDecoder × Text × Dialog)
  | [] => .ok (decoder, pending, dialog)
  | .closed :: _ => .error (.abortError, { dialog with active := false })
  | .value chunk :: reads => do
      let (decoder, text) := decoder.decode chunk
      let (lines, pending) := splitPop [] (pending ++ text)
      let dialog ← lines.foldlM (update browser) dialog
      readLoop browser decoder pending dialog reads

/-- The `try` block, from a response that is `ok`. -/
def readAll (browser : Browser) (dialog : Dialog) (reads : List Read) :
    Except (Thrown × Dialog) Dialog := do
  let (decoder, pending, dialog) ← readLoop browser ⟨none, false⟩ [] dialog reads
  let dialog ← update browser dialog (pending ++ flush decoder.unfinished)
  if dialog.complete then return dialog
  else throw (.error "Замер прерван до завершения".toList, dialog)

/-- What the status says after an error. -/
def Thrown.status : Thrown → Text
  | .syntaxError message => message
  | .typeError => "Cannot read properties of null (reading 'stage')".toList
  | .error message => message
  | .abortError => "Замер остановлен".toList

/-- The submit handler, from a response that is `ok`. -/
def submit (browser : Browser) (dialog : Dialog) (reads : List Read) : Dialog :=
  match readAll browser dialog reads with
  | .ok dialog => { dialog with active := false }
  | .error (thrown, dialog) =>
      { dialog with
        status := if dialog.active then thrown.status else dialog.status
        active := false }

/-! ### Chunks -/

theorem TextDecoder.decode_append (decoder : TextDecoder) (a b : List UInt8) :
    decoder.decode (a ++ b) =
      (((decoder.decode a).1.decode b).1, (decoder.decode a).2 ++ ((decoder.decode a).1.decode b).2)
    := by
  obtain ⟨unfinished, bomSeen⟩ := decoder
  simp only [TextDecoder.decode, decodeChunk_append]
  cases bomSeen with
  | true => rfl
  | false =>
      cases (decodeChunk unfinished a).2 with
      | nil => rfl
      | cons c text => by_cases hc : c = Char.ofNat 0xfeff <;> simp [hc]

/-- A text is cut in two steps as in one. -/
theorem splitPop_append (line a b : Text) :
    splitPop line (a ++ b) =
      ((splitPop line a).1 ++ (splitPop (splitPop line a).2 b).1,
        (splitPop (splitPop line a).2 b).2) := by
  induction a generalizing line with
  | nil => rfl
  | cons c a ih =>
      simp only [List.cons_append, splitPop]
      split
      · rw [ih]
        rfl
      · exact ih (line ++ [c])

theorem splitPop_of_notMem {s : Text} (h : '\n' ∉ s) (line : Text) :
    splitPop line s = ([], line ++ s) := by
  induction s generalizing line with
  | nil => simp [splitPop]
  | cons c s ih =>
      rw [List.mem_cons, not_or] at h
      rw [splitPop, if_neg (Ne.symm h.1), ih h.2, List.append_assoc, List.singleton_append]

theorem newline_notMem_splitPop {line : Text} (h : '\n' ∉ line) (s : Text) :
    '\n' ∉ (splitPop line s).2 := by
  induction s generalizing line with
  | nil => exact h
  | cons c s ih =>
      rw [splitPop]
      split
      · exact ih (by simp)
      · next hc => exact ih (by simp [h, Ne.symm hc])

section Loop

variable (browser : Browser)

/-- The loop hands `update` the lines of all the chunks together. -/
theorem readLoop_eq (chunks : List (List UInt8)) (rest : List Read) (decoder : TextDecoder)
    {pending : Text} (hpending : '\n' ∉ pending) (dialog : Dialog) :
    readLoop browser decoder pending dialog (chunks.map .value ++ rest) =
      (splitPop pending (decoder.decode chunks.flatten).2).1.foldlM (update browser) dialog >>=
        fun dialog => readLoop browser (decoder.decode chunks.flatten).1
          (splitPop pending (decoder.decode chunks.flatten).2).2 dialog rest := by
  induction chunks generalizing decoder pending dialog with
  | nil =>
      have hdecode : decoder.decode [] = (decoder, []) := by
        obtain ⟨unfinished, bomSeen⟩ := decoder
        cases bomSeen <;> rfl
      rw [List.flatten_nil, hdecode]
      rfl
  | cons chunk chunks ih =>
      have hcut : splitPop [] (pending ++ (decoder.decode chunk).2) =
          splitPop pending (decoder.decode chunk).2 := by
        rw [splitPop_append, splitPop_of_notMem hpending]
        rfl
      rw [List.flatten_cons, TextDecoder.decode_append, splitPop_append, List.foldlM_append,
        bind_assoc, List.map_cons, List.cons_append, readLoop]
      simp only [hcut]
      exact bind_congr fun dialog => ih _ (newline_notMem_splitPop hpending _) dialog

end Loop

/-! ### The lines of the server -/

section Published

variable {py : Builtins} (hpy : ∀ q, '\n' ∉ py.repr (.float (.finite q)))
include hpy

/-- The lines of the response are the documents, and nothing is left over. -/
theorem splitPop_published (published : List (List (String × Json))) :
    splitPop [] (published.flatMap fun result => py.dumps (.obj result) ++ ['\n']) =
      (published.map fun result => py.dumps (.obj result), []) := by
  induction published with
  | nil => rfl
  | cons result published ih =>
      have hline := splitPop_of_notMem (newline_notMem_dumps hpy (.obj result)) []
      rw [List.flatMap_cons, List.append_assoc, splitPop_append, hline]
      simp only [List.nil_append, List.singleton_append, splitPop, if_true, ih, List.map_cons]

end Published

/-- The response is decoded to the documents. -/
theorem decode_published (py : Builtins) (published : List (List (String × Json))) :
    ∃ bomSeen, (⟨none, false⟩ : TextDecoder).decode (published.flatMap (publish py)) =
      (⟨none, bomSeen⟩, published.flatMap fun result => py.dumps (.obj result) ++ ['\n']) := by
  have hbytes : published.flatMap (publish py) =
      encodeUtf8 (published.flatMap fun result => py.dumps (.obj result) ++ ['\n']) := by
    simp only [encodeUtf8, List.flatMap_assoc]
    rfl
  rw [hbytes, TextDecoder.decode, decodeChunk_encodeUtf8]
  cases published with
  | nil => exact ⟨false, rfl⟩
  | cons result published => exact ⟨true, rfl⟩

/-! ### What the page shows -/

/-- The dialog after a computation, whether it was stopped or not. -/
def dialogOf : Except (Thrown × Dialog) Dialog → Dialog
  | .ok dialog => dialog
  | .error (_, dialog) => dialog

/-- The documents up to the first error record, which is one of them. -/
def untilError : List Json → List Json
  | [] => []
  | data :: rest => if hasStage data "error" then [data] else data :: untilError rest

/-- The documents before the first error record. -/
def beforeError (documents : List Json) : List Json :=
  documents.takeWhile fun data => !hasStage data "error"

/-- The dialog after the documents, each shown until an error record comes. -/
def Dialog.processAll (browser : Browser) (dialog : Dialog) : List Json → Dialog
  | [] => dialog
  | data :: rest =>
      let parsed := { dialog with parsed := dialog.parsed ++ [data] }
      if hasStage data "error" then parsed
      else (parsed.apply browser data).processAll browser rest

section Processed

variable {browser : Browser}

theorem parsed_processAll (dialog : Dialog) (documents : List Json) :
    (dialog.processAll browser documents).parsed = dialog.parsed ++ untilError documents := by
  induction documents generalizing dialog with
  | nil => simp [Dialog.processAll, untilError]
  | cons data rest ih =>
      rw [Dialog.processAll, untilError]
      split
      · rfl
      · rw [ih]
        simp [Dialog.apply]

theorem applied_processAll (dialog : Dialog) (documents : List Json) :
    (dialog.processAll browser documents).applied = dialog.applied ++ beforeError documents := by
  induction documents generalizing dialog with
  | nil => simp [Dialog.processAll, beforeError]
  | cons data rest ih =>
      rw [Dialog.processAll]
      split
      · next herror => simp [beforeError, herror]
      · next herror =>
          rw [ih]
          simp [Dialog.apply, beforeError, herror]

/-- The line of a document is processed. -/
theorem update_dumps {py : Builtins} {result : List (String × Json)} {dialog : Dialog}
    (hparse : browser.parse (py.dumps (.obj result)) = .ok (.obj result))
    (hactive : dialog.active = true) :
    update browser dialog (py.dumps (.obj result)) = dialog.process browser (.obj result) := by
  have hblank : ((py.dumps (.obj result)).all isTrimmed) = false := by
    simp only [Builtins.dumps, List.cons_append, List.all_cons]
    rfl
  rw [update, if_neg (by simp [hblank, hactive]), hparse]

/-- The lines of the documents are processed one after the other, up to the first error record. -/
theorem foldlM_update {py : Builtins} {published : List (List (String × Json))}
    (hparse : ∀ result ∈ published, browser.parse (py.dumps (.obj result)) = .ok (.obj result))
    {dialog : Dialog} (hactive : dialog.active = true) :
    dialogOf ((published.map fun result => py.dumps (.obj result)).foldlM (update browser) dialog) =
      dialog.processAll browser (published.map .obj) := by
  induction published generalizing dialog with
  | nil => rfl
  | cons result published ih =>
      obtain ⟨hresult, hrest⟩ := List.forall_mem_cons.mp hparse
      simp only [List.map_cons, List.foldlM_cons, Dialog.processAll, update_dumps hresult hactive,
        Dialog.process]
      split
      · rfl
      · exact ih hrest hactive

/-- The dialog after the whole response. -/
theorem submit_published {py : Builtins} (hpy : ∀ q, '\n' ∉ py.repr (.float (.finite q)))
    {published : List (List (String × Json))}
    (hparse : ∀ result ∈ published, browser.parse (py.dumps (.obj result)) = .ok (.obj result))
    {chunks : List (List UInt8)} (hchunks : chunks.flatten = published.flatMap (publish py))
    {dialog : Dialog} (hactive : dialog.active = true) :
    ∃ status, submit browser dialog (chunks.map .value) =
      { dialog.processAll browser (published.map .obj) with status := status, active := false } := by
  obtain ⟨bomSeen, hdecode⟩ := decode_published py published
  have hloop := readLoop_eq browser chunks [] ⟨none, false⟩ (by simp : '\n' ∉ []) dialog
  rw [hchunks, hdecode] at hloop
  simp only [splitPop_published hpy, List.append_nil] at hloop
  have hprocessed := foldlM_update hparse hactive
  cases hlines : (published.map fun result => py.dumps (.obj result)).foldlM (update browser) dialog
    with
  | error thrown =>
      rw [hlines] at hloop hprocessed
      rw [submit, readAll, hloop, ← hprocessed]
      exact ⟨_, rfl⟩
  | ok last =>
      rw [hlines] at hloop hprocessed
      have hend : update browser last ([] ++ flush none) = .ok last := by simp [update, flush]
      rw [submit, readAll, hloop, ← hprocessed]
      simp only [readLoop, bind, Except.bind, hend]
      cases last.complete with
      | true => exact ⟨_, rfl⟩
      | false => exact ⟨_, rfl⟩

/-- However the response is cut into chunks, the page parses exactly the published results, in
order, up to the first error record, and shows those before it. -/
theorem submit_eq_processAll {py : Builtins} (hpy : ∀ q, '\n' ∉ py.repr (.float (.finite q)))
    (published : List (List (String × Json)))
    (hparse : ∀ result ∈ published, browser.parse (py.dumps (.obj result)) = .ok (.obj result))
    (chunks : List (List UInt8)) (hchunks : chunks.flatten = published.flatMap (publish py))
    (dialog : Dialog) (hactive : dialog.active = true) :
    let last := submit browser dialog (chunks.map .value)
    last.parsed = dialog.parsed ++ untilError (published.map .obj) ∧
      last.applied = dialog.applied ++ beforeError (published.map .obj) ∧
      ∃ status, last =
        { dialog.processAll browser (published.map .obj) with status := status, active := false } := by
  obtain ⟨status, hsubmit⟩ := submit_published hpy hparse hchunks hactive
  rw [hsubmit]
  exact ⟨parsed_processAll dialog _, applied_processAll dialog _, status, rfl⟩

/-- A dialog that is closed has shown the results that had come by then. -/
theorem submit_closed {py : Builtins} (hpy : ∀ q, '\n' ∉ py.repr (.float (.finite q)))
    {published : List (List (String × Json))}
    (hparse : ∀ result ∈ published, browser.parse (py.dumps (.obj result)) = .ok (.obj result))
    {chunks : List (List UInt8)} (hchunks : chunks.flatten <+: published.flatMap (publish py))
    {dialog : Dialog} (hactive : dialog.active = true) :
    ∃ shown, shown <+: published ∧
      let last := submit browser dialog (chunks.map .value ++ [.closed])
      last.parsed = dialog.parsed ++ untilError (shown.map .obj) ∧
        last.applied = dialog.applied ++ beforeError (shown.map .obj) := by
  obtain ⟨bytes, hbytes⟩ := hchunks
  obtain ⟨bomSeen, hdecode⟩ := decode_published py published
  rw [← hbytes, TextDecoder.decode_append, Prod.mk.injEq] at hdecode
  -- the lines that are complete are the first of all
  have hlines := congrArg Prod.fst (splitPop_published hpy published)
  rw [← hdecode.2, splitPop_append] at hlines
  obtain ⟨shown, later, rfl, hshown, -⟩ := List.map_eq_append_iff.mp hlines.symm
  refine ⟨shown, List.prefix_append shown later, ?_⟩
  have hloop := readLoop_eq browser chunks [.closed] ⟨none, false⟩ (by simp : '\n' ∉ []) dialog
  rw [← hshown] at hloop
  have hprocessed := foldlM_update
    (fun result hresult => hparse result (List.mem_append_left later hresult)) hactive
  have hlast : ∃ status, submit browser dialog (chunks.map .value ++ [.closed]) =
      { dialog.processAll browser (shown.map .obj) with status := status, active := false } := by
    rw [submit, readAll, hloop, ← hprocessed]
    cases (shown.map fun result => py.dumps (.obj result)).foldlM (update browser) dialog with
    | error thrown => exact ⟨_, rfl⟩
    | ok last => exact ⟨_, rfl⟩
  obtain ⟨status, hlast⟩ := hlast
  rw [hlast]
  exact ⟨parsed_processAll dialog _, applied_processAll dialog _⟩

end Processed

/-- Two results, of which the second is an error record. -/
def sampleResults : List (List (String × Json)) :=
  [[("stage", .str "latency"), ("country_code", .str "ü")],
    [("stage", .str "error"), ("error", .str "€")]]

/-- A browser that reads these results. -/
def sampleBrowser : Browser where
  parse line :=
    match sampleResults.find? fun result => asciiBuiltins.dumps (.obj result) = line with
    | some result => .ok (.obj result)
    | none => .error []
  text _ := []

/-- The dialog before the first result. -/
def sampleDialog : Dialog := ⟨true, [], [], none, false, [], []⟩

/-- The bytes of the first result end in the middle of its last character. -/
theorem submit_eq_processAll_split :
    (submit sampleBrowser sampleDialog
      ([(sampleResults.flatMap (publish asciiBuiltins)).take 39,
        (sampleResults.flatMap (publish asciiBuiltins)).drop 39].map .value)).parsed =
      sampleResults.map .obj := by
  have hparse : ∀ result ∈ sampleResults,
      sampleBrowser.parse (asciiBuiltins.dumps (.obj result)) = .ok (.obj result) := by
    have hlines : (sampleResults.map fun result => asciiBuiltins.dumps (.obj result)).Nodup := by
      decide +kernel
    have hfind : ∀ result ∈ sampleResults, (sampleResults.find? fun result' =>
        asciiBuiltins.dumps (.obj result') = asciiBuiltins.dumps (.obj result)) = some result := by
      simp only [sampleResults, List.map_cons, List.map_nil, List.nodup_cons, List.mem_singleton]
        at hlines
      simp [sampleResults, hlines.1]
    intro result hresult
    simp only [sampleBrowser, hfind result hresult]
  exact (submit_eq_processAll (by simp [asciiBuiltins]) sampleResults hparse _ (by simp)
    sampleDialog rfl).1

end PxManager.Speed
