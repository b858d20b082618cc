import PxManager.Telegram.TrimmedLines

/-!
# PxManager.Admin.Save

`AdminHandler`: the message and the Telegram proxies of the admin page, and the files they are
saved to.

Texts are trimmed when they are written, and read in text mode and trimmed again. So a message
comes back trimmed and with `\n` at all line ends, and the page then shows what it will show from
then on. The bans on the page are left out.
-/

namespace PxManager.Admin

open PxManager.Core PxManager.Login PxManager.Health PxManager.Telegram

/-! ### Files -/

/-- The two files of `data_dir`. -/
structure DataDir where
  /-- `message.md`. -/
  message : Option (List UInt8)
  /-- `tg-proxies.txt`. -/
  tgProxies : Option (List UInt8)

/-- `path.write_text(text)`. -/
def writeText (text : Text) : Option (List UInt8) := some (encodeUtf8 text)

/-- `path.read_text()`. `UnicodeDecodeError` is a `ValueError`. -/
def readText (file : List UInt8) : Except PyError Text :=
  match decodeUtf8 file with
  | some text => .ok (translateNewlines text)
  | none => .error (.valueError none)

/-- `read_optional_text`. -/
def readOptionalText (file : Option (List UInt8)) : Except PyError Text :=
  match file with
  | none => .ok []
  | some file => do
      let text ← readText file
      return strip text

/-- `read_message`. -/
def readMessage (dataDir : DataDir) : Except PyError Text := readOptionalText dataDir.message

/-- `read_tg_proxies_text`. -/
def readTgProxiesText (dataDir : DataDir) : Except PyError Text :=
  readOptionalText dataDir.tgProxies

/-- `read_tg_proxies`. -/
def readTgProxies (dataDir : DataDir) : Except PyError (List Text) := do
  let text ← readTgProxiesText dataDir
  return ((splitlines text).map strip).filter fun line => "tg://".toList.isPrefixOf line

/-- `write_message`. -/
def writeMessage (dataDir : DataDir) (message : Text) : DataDir :=
  { dataDir with message := writeText (strip message) }

/-- `write_tg_proxies`. -/
def writeTgProxies (dataDir : DataDir) (tgProxies : Text) : DataDir :=
  { dataDir with tgProxies := writeText (strip tgProxies) }

/-! ### `AdminHandler` -/

/-- `admin.html`. -/
structure AdminPage where
  status : Nat
  message : Text
  tgProxies : Text
  saved : Bool
  /-- The text of an error, if it is one of the program's own. -/
  error : Option (Option String)
  deriving DecidableEq

/-- The body arguments of a request: all values of each name, decoded. Where one of them is not
UTF-8, `post` answers with status 400 before it does anything. -/
structure AdminRequest where
  message : List Text
  tgProxies : List Text

section Handler

variable (py : Builtins) (checkNetloc : Text → Bool) (isIpAddress : Text → Bool)

/-- `validate_tg_proxies`. -/
def validateTgProxies (tgProxies : Text) : Except PyError (Option (Option String)) :=
  match parseTgProxyHealthHosts py checkNetloc isIpAddress tgProxies with
  | .ok _ => .ok none
  | .error (.valueError text) => .ok (some text)
  | .error error => .error error

/-- `AdminHandler.get`. -/
def AdminHandler.get (dataDir : DataDir) : Except PyError AdminPage := do
  let message ← readMessage dataDir
  let tgProxies ← readTgProxiesText dataDir
  return { status := 200, message, tgProxies, saved := false, error := none }

/-- `AdminHandler.post`. -/
def AdminHandler.post (dataDir : DataDir) (request : AdminRequest) :
    Except PyError (DataDir × AdminPage) := do
  let message := getArgument request.message []
  let tgProxies := getArgument request.tgProxies []
  match ← validateTgProxies py checkNetloc isIpAddress tgProxies with
  | some error =>
      return (dataDir, { status := 400, message, tgProxies, saved := false, error := some error })
  | none =>
      let dataDir := writeTgProxies (writeMessage dataDir message) tgProxies
      let shownMessage ← readMessage dataDir
      let shownTgProxies ← readTgProxiesText dataDir
      return (dataDir,
        { status := 200, message := shownMessage, tgProxies := shownTgProxies, saved := true,
          error := none })

end Handler

/-! ### What is read back -/

/-- A text that is written trimmed is read with other newlines only. -/
theorem readOptionalText_writeText (text : Text) :
    readOptionalText (writeText (strip text)) = .ok (translateNewlines (strip text)) := by
  rw [writeText, readOptionalText, readText, decodeUtf8_encodeUtf8]
  exact congrArg Except.ok (strip_translateNewlines_iff.mpr (strip_strip text))

/-- What `get_body_argument` leaves of a character. -/
theorem mem_getArgument {values : List Text} {c : Char} (h : c ∈ getArgument values []) :
    ¬ (c.toNat ≤ 0x08 ∨ (0x0e ≤ c.toNat ∧ c.toNat ≤ 0x1f)) := by
  unfold getArgument at h
  split at h
  · cases h
  · have hmem := (List.dropWhile_sublist _).mem ((List.rdropWhile_prefix _ _).mem h)
    obtain ⟨d, -, rfl⟩ := List.mem_map.mp hmem
    split
    · decide
    · assumption

theorem strip_getArgument (values : List Text) :
    strip (getArgument values []) = getArgument values [] := by
  unfold getArgument
  split
  · rfl
  · exact strip_strip _

/-- A text of an argument is posted again, with any newlines. -/
theorem getArgument_of_translateNewlines {values values' : List Text} {value : Text}
    (hlast : values'.getLast? = some value)
    (hvalue : translateNewlines value = translateNewlines (getArgument values [])) :
    getArgument values' [] = value := by
  have hplain : ∀ c ∈ value, ¬ (c.toNat ≤ 0x08 ∨ (0x0e ≤ c.toNat ∧ c.toNat ≤ 0x1f)) := by
    intro c hc
    rcases mem_translateNewlines hc with rfl | hmem
    · decide
    · rw [hvalue] at hmem
      rcases mem_of_mem_translateNewlines hmem with rfl | hmem
      · decide
      · exact mem_getArgument hmem
  have hstrip : strip value = value := by
    rw [← strip_translateNewlines_iff, hvalue, strip_translateNewlines_iff]
    exact strip_getArgument values
  rw [getArgument, hlast]
  dsimp only
  rw [List.map_congr_left fun c hc => if_neg (hplain c hc), List.map_id', hstrip]

/-- What is written of an argument is read back with other newlines. -/
theorem readOptionalText_getArgument (values : List Text) :
    readOptionalText (writeText (getArgument values [])) =
      .ok (translateNewlines (getArgument values [])) := by
  have h := readOptionalText_writeText (getArgument values [])
  rwa [strip_getArgument] at h

section Save

variable {py : Builtins} {checkNetloc : Text → Bool} {isIpAddress : Text → Bool}

/-- What `post` does with Telegram proxies that are accepted. -/
theorem post_of_parse {dataDir : DataDir} {request : AdminRequest} {items : List TgProxyHost}
    (h : parseTgProxyHealthHosts py checkNetloc isIpAddress (getArgument request.tgProxies []) =
      .ok items) :
    AdminHandler.post py checkNetloc isIpAddress dataDir request =
      .ok (⟨writeText (getArgument request.message []),
          writeText (getArgument request.tgProxies [])⟩,
        { status := 200
          message := translateNewlines (getArgument request.message [])
          tgProxies := translateNewlines (getArgument request.tgProxies [])
          saved := true
          error := none }) := by
  simp only [AdminHandler.post, validateTgProxies, h, writeMessage, writeTgProxies, readMessage,
    readTgProxiesText, strip_getArgument, readOptionalText_getArgument]
  rfl

/-- A post is accepted, or it changes nothing. -/
theorem post_cases (dataDir : DataDir) (request : AdminRequest) :
    (∃ items, parseTgProxyHealthHosts py checkNetloc isIpAddress
        (getArgument request.tgProxies []) = .ok items) ∨
      (∃ error, parseTgProxyHealthHosts py checkNetloc isIpAddress
          (getArgument request.tgProxies []) = .error error) ∧
        ∃ text, AdminHandler.post py checkNetloc isIpAddress dataDir request =
          .ok (dataDir,
            { status := 400
              message := getArgument request.message []
              tgProxies := getArgument request.tgProxies []
              saved := false
              error := some text }) := by
  cases h : parseTgProxyHealthHosts py checkNetloc isIpAddress
      (getArgument request.tgProxies []) with
  | ok items => exact .inl ⟨items, rfl⟩
  | error error =>
      obtain ⟨text, rfl⟩ := raisesValueError_parseLines _ _ _ error h
      refine .inr ⟨⟨_, rfl⟩, text, ?_⟩
      simp only [AdminHandler.post, validateTgProxies, h]
      rfl

/-- The page is posted back as it is shown, with any newlines. -/
structure PostsBack (page : AdminPage) (request : AdminRequest) : Prop where
  message : ∃ value, request.message.getLast? = some value ∧
    translateNewlines value = page.message
  tgProxies : ∃ value, request.tgProxies.getLast? = some value ∧
    translateNewlines value = page.tgProxies

/-- What holds of the files after a message and Telegram proxies have been saved. -/
structure Saved (py : Builtins) (checkNetloc isIpAddress : Text → Bool)
    (message tgProxies : Text) (dataDir : DataDir) (page : AdminPage) : Prop where
  /-- The message is read back trimmed, and with `\n` at all line ends. -/
  message : readMessage dataDir = .ok (translateNewlines (strip message))
  /-- The proxies that are read back have the same rows, and the health pages show them. -/
  tgProxies : ∃ text items, readTgProxiesText dataDir = .ok text ∧
    parseTgProxyHealthHosts py checkNetloc isIpAddress tgProxies = .ok items ∧
    parseTgProxyHealthHosts py checkNetloc isIpAddress text = .ok items ∧
    ∀ hostsData, ∃ rows, getHealthHostsData py checkNetloc isIpAddress hostsData text = .ok rows
  /-- The page shows what is read back, now and later. -/
  shown : AdminHandler.get dataDir = .ok { page with saved := false }
  /-- Posting it back changes nothing of that. -/
  stable : ∀ request, PostsBack page request → ∃ dataDir' page',
    AdminHandler.post py checkNetloc isIpAddress dataDir request = .ok (dataDir', page') ∧
      page'.saved = true ∧ readMessage dataDir' = readMessage dataDir ∧
        readTgProxiesText dataDir' = readTgProxiesText dataDir

/-- **A message and Telegram proxies that are accepted are saved and read back.** They are accepted
exactly if the proxies can be parsed, and if they are not accepted, nothing changes. -/
theorem post_saves (dataDir : DataDir) (request : AdminRequest) :
    ∃ dataDir' page,
      AdminHandler.post py checkNetloc isIpAddress dataDir request = .ok (dataDir', page) ∧
        (page.saved = true ↔ ∃ items, parseTgProxyHealthHosts py checkNetloc isIpAddress
          (getArgument request.tgProxies []) = .ok items) ∧
        (page.saved = true → Saved py checkNetloc isIpAddress (getArgument request.message [])
          (getArgument request.tgProxies []) dataDir' page) ∧
        (page.saved = false → dataDir' = dataDir) := by
  rcases post_cases dataDir request with ⟨items, hitems⟩ | ⟨⟨error, herror⟩, text, hpost⟩
  · refine ⟨_, _, post_of_parse hitems, iff_of_true rfl ⟨items, hitems⟩, fun _ => ?_,
      fun h => Bool.noConfusion h⟩
    have htext := parseTgProxyHealthHosts_congr (trimmedLines_translateNewlines _).symm hitems
    refine
      { message := ?_
        tgProxies := ⟨_, items, readOptionalText_getArgument request.tgProxies, hitems, htext, ?_⟩
        shown := ?_
        stable := ?_ }
    · rw [strip_getArgument]
      exact readOptionalText_getArgument request.message
    · intro hostsData
      exact ⟨_, bind_eq_ok_iff.mpr ⟨items, htext, rfl⟩⟩
    · simp only [AdminHandler.get, readMessage, readTgProxiesText, readOptionalText_getArgument]
      rfl
    · intro request' hback
      obtain ⟨value, hlast, hvalue⟩ := hback.message
      obtain ⟨value', hlast', hvalue'⟩ := hback.tgProxies
      have hmessage := getArgument_of_translateNewlines hlast hvalue
      have htgProxies := getArgument_of_translateNewlines hlast' hvalue'
      have hlines : trimmedLines (getArgument request.tgProxies []) = trimmedLines value' := by
        rw [← trimmedLines_translateNewlines value', hvalue', trimmedLines_translateNewlines]
      have hitems' := parseTgProxyHealthHosts_congr hlines hitems
      rw [← htgProxies] at hitems'
      refine ⟨_, _, post_of_parse hitems', rfl, ?_, ?_⟩
      · refine (readOptionalText_getArgument request'.message).trans ?_
        rw [hmessage, hvalue]
        exact (readOptionalText_getArgument request.message).symm
      · refine (readOptionalText_getArgument request'.tgProxies).trans ?_
        rw [htgProxies, hvalue']
        exact (readOptionalText_getArgument request.tgProxies).symm
  · refine ⟨dataDir, _, hpost, iff_of_false Bool.false_ne_true ?_, fun h => Bool.noConfusion h,
      fun _ => rfl⟩
    rintro ⟨items, hitems⟩
    cases herror.symm.trans hitems

end Save

/-- A message and two links, with all kinds of line breaks. -/
def mixedLineBreaks : AdminRequest where
  message := [" first\r\nsecond\rthird\n ".toList]
  tgProxies := ["\rtg://socks?server=a&port=1\r\n\n tg://socks?server=b&port=2 \r".toList]

/-- They are saved, and read back with `\n`. -/
theorem post_saves_mixedLineBreaks : ∃ dataDir page,
    AdminHandler.post asciiBuiltins (fun _ => true) (fun _ => false) ⟨none, none⟩ mixedLineBreaks =
        .ok (dataDir, page) ∧
      Saved asciiBuiltins (fun _ => true) (fun _ => false)
        (getArgument mixedLineBreaks.message []) (getArgument mixedLineBreaks.tgProxies []) dataDir
        page ∧
      readMessage dataDir = .ok "first\nsecond\nthird".toList := by
  obtain ⟨dataDir, page, hpost, hsaved, hread, -⟩ :=
    @post_saves asciiBuiltins (fun _ => true) (fun _ => false) ⟨none, none⟩ mixedLineBreaks
  have hread := hread (hsaved.mpr (exists_of_isOk (by decide +kernel)))
  refine ⟨dataDir, page, hpost, hread, ?_⟩
  rw [hread.message]
  exact congrArg Except.ok (by decide +kernel)

end PxManager.Admin
