import PxManager.Admin.TailLines
import PxManager.Login.Handler

/-!
# PxManager.Login.AuthLog

The record of a refused login in `auth.log`, and what `read_tail_lines` shows of it.

`os`, `browser` and `device` go through `format_log_value`, which quotes them and escapes what is
quoted. The user name is written as it was sent, without spaces at its ends but with the line breaks
inside it. Read from the right, a record still has one meaning: the quoted fields can be cut off one
after the other, and the user name is what is left. So the records of two attempts differ, except
that `-` stands for an empty user name as well. What fails is the line: a boundary inside a field
ends it, and neither the form nor `format_log_value` takes boundaries out.
-/

namespace PxManager.Login

open PxManager.Core PxManager.Bans PxManager.Admin

/-! ### Records -/

/-- The local time of a record. -/
structure LogTime where
  year : Nat
  month : Nat
  day : Nat
  hour : Nat
  minute : Nat
  second : Nat

/-- A number of `strftime`, with zeros up to `width`. -/
def zeroPadded (width n : Nat) : Text := (Nat.toDigits 10 n).leftpad width '0'

/-- `%(asctime)s`, which is `%Y-%m-%d %H:%M:%S`. -/
def LogTime.asctime (t : LogTime) : Text :=
  zeroPadded 4 t.year ++ '-' :: (zeroPadded 2 t.month ++ '-' :: (zeroPadded 2 t.day ++
    ' ' :: (zeroPadded 2 t.hour ++ ':' :: (zeroPadded 2 t.minute ++ ':' :: zeroPadded 2 t.second))))

/-- A refused login, with the user name and the password of the form. The client IP is the text of
an address, so no spaces are in it, and `get_access_log_client` gives `-` for a name that it does
not find. -/
structure LoginFailure where
  request : PostRequest
  user : Text
  password : Text
  read : request.credentials? = some (user, password)
  ip_plain : ∀ c ∈ request.clientIp.toList, isSpace c = false
  os_named : request.client.os ≠ ""
  browser_named : request.client.browser ≠ ""
  device_named : request.client.device ≠ ""

namespace LoginFailure

/-- `username or "-"`. -/
def loggedUser (a : LoginFailure) : Text := if a.user = [] then ['-'] else a.user

/-- The message of the record. -/
def message (a : LoginFailure) : Text :=
  authLogLine "login_failure" a.request.clientIp a.loggedUser a.request.client

/-- The record, as the formatter and the handler of `auth.log` write it, without the newline after
it. -/
def record (a : LoginFailure) (t : LogTime) : Text :=
  t.asctime ++ " WARNING [auth] ".toList ++ a.message

/-- Two attempts differ in a field. -/
def Differ (a b : LoginFailure) : Prop :=
  a.request.clientIp ≠ b.request.clientIp ∨ a.user ≠ b.user ∨
    a.request.client.os ≠ b.request.client.os ∨
    a.request.client.browser ≠ b.request.client.browser ∨
    a.request.client.device ≠ b.request.client.device

end LoginFailure

/-- The lines of a file, of which `read_tail_lines` returns the last ones. -/
def fileLines (file : List UInt8) : List Text := splitlines (decodeReplace file)

/-- A record is one line of every log that it is written to. -/
def OneLine (record : Text) : Prop :=
  ∃ line, ∀ log rest : List UInt8, log = [] ∨ log.getLast? = some 0x0a →
    fileLines (log ++ encodeUtf8 (record ++ ['\n']) ++ rest) =
      fileLines log ++ line :: fileLines rest

/-- The record of an attempt is one line, and no attempt that differs in a field has it. -/
structure Unambiguous (a : LoginFailure) : Prop where
  oneLine : ∀ t, OneLine (a.record t)
  injective : ∀ b, a.Differ b → ∀ t t', a.record t ≠ b.record t'

variable (checkNetloc : Text → Bool)

/-- A login that is refused for its password writes the message of its attempt. -/
theorem post_authLog (a : LoginFailure) (sessionId : String) (clock : PostClock) (app : App)
    (hgate : (BanStore.isBanned a.request.clientIp clock.gate app.banStore).1 = false)
    (hverify : app.passwordStore.verify a.user a.password = some false) :
    (post checkNetloc a.request sessionId clock app).2.authLog = app.authLog ++ [a.message] := by
  simp only [post, a.read, hgate, hverify, Bool.false_eq_true, if_false]
  rfl

/-! ### `format_log_value` -/

/-- A character between the quotes. -/
def escapeLogChar (c : Char) : Text := if c = '\\' ∨ c = '"' then ['\\', c] else [c]

/-- A value that is not `-` is escaped character by character. -/
theorem formatLogValue_eq {v : Text} (hnil : v ≠ []) (hdash : v ≠ ['-']) :
    formatLogValue v = '"' :: v.flatMap escapeLogChar ++ ['"'] := by
  have hchar : ∀ c : Char, ((if c = '\\' then ['\\', '\\'] else [c]).flatMap
      fun d => if d = '"' then ['\\', '"'] else [d]) = escapeLogChar c := by
    intro c
    by_cases hback : c = '\\'
    · subst hback
      rfl
    · by_cases hquote : c = '"'
      · subst hquote
        rfl
      · simp [escapeLogChar, hback, hquote]
  rw [formatLogValue, if_neg (by simp [hnil, hdash])]
  simp only [List.flatMap_assoc, hchar]

theorem escapeLogChar_append_inj {c d : Char} {s t : Text}
    (h : escapeLogChar c ++ s = escapeLogChar d ++ t) : c = d ∧ s = t := by
  unfold escapeLogChar at h
  split at h
  · split at h
    · simpa using h
    · next hplain => exact absurd (Or.inl (List.cons.inj h).1.symm) hplain
  · next hplain =>
      split at h
      · exact absurd (Or.inl (List.cons.inj h).1) hplain
      · simpa using h

theorem flatMap_escapeLogChar_injective {v w : Text}
    (h : v.flatMap escapeLogChar = w.flatMap escapeLogChar) : v = w := by
  induction v generalizing w with
  | nil =>
      cases w with
      | nil => rfl
      | cons d w =>
          rw [List.flatMap_cons, escapeLogChar] at h
          split at h <;> simp at h
  | cons c v ih =>
      cases w with
      | nil =>
          rw [List.flatMap_cons, escapeLogChar] at h
          split at h <;> simp at h
      | cons d w =>
          obtain ⟨rfl, htail⟩ := escapeLogChar_append_inj h
          rw [ih htail]

/-- Between the quotes, a quote comes after a backslash. -/
theorem getLast?_of_flatMap_escapeLogChar {v x y : Text}
    (h : v.flatMap escapeLogChar = x ++ '"' :: y) : x.getLast? = some '\\' := by
  induction v generalizing x with
  | nil => simp at h
  | cons c v ih =>
      rw [List.flatMap_cons, escapeLogChar] at h
      split at h
      · match x, h with
        | [], h => simp at h
        | [d], h =>
            obtain ⟨rfl, -⟩ := List.cons.inj h
            rfl
        | d :: e :: x, h =>
            have hx := ih (List.cons.inj (List.cons.inj h).2).2
            rw [List.getLast?_cons_cons, List.getLast?_cons, hx]
            rfl
      · next hplain =>
          cases x with
          | nil => exact absurd (Or.inr (List.cons.inj h).1) hplain
          | cons d x => rw [List.getLast?_cons, ih (List.cons.inj h).2]; rfl

/-- A quoted value is cut off the end of a text in one way only. -/
theorem append_quoted_inj {s s' v w : Text} (hs : s.getLast? = some '=')
    (hs' : s'.getLast? = some '=')
    (h : s ++ '"' :: v.flatMap escapeLogChar = s' ++ '"' :: w.flatMap escapeLogChar) :
    s = s' ∧ v = w := by
  -- a text that is longer than the other ends in a quoted part, so in a backslash
  have hshort : ∀ {s s' v t : Text}, s'.getLast? = some '=' →
      s ++ '"' :: v.flatMap escapeLogChar = s' ++ '"' :: t → s.length < s'.length → False := by
    intro s s' v t hs' h hlength
    obtain ⟨x, rfl, hx⟩ := (List.append_eq_append_iff.mp h).resolve_right (by
      intro hother
      obtain ⟨x, rfl, -⟩ := hother
      rw [List.length_append] at hlength
      omega)
    cases x with
    | nil => simp at hlength
    | cons c x =>
        have hlast := getLast?_of_flatMap_escapeLogChar (List.cons.inj hx).2
        rw [List.getLast?_append, List.getLast?_cons, hlast] at hs'
        simp at hs'
  have hlength : s.length = s'.length := by
    rcases Nat.lt_trichotomy s.length s'.length with hlt | heq | hgt
    · exact (hshort hs' h hlt).elim
    · exact heq
    · exact (hshort hs h.symm hgt).elim
  obtain ⟨hfront, hback⟩ := List.append_inj h hlength
  exact ⟨hfront, flatMap_escapeLogChar_injective (List.cons.inj hback).2⟩

/-- A value is cut off the end of a text in one way only. -/
theorem append_formatLogValue_inj {s s' v w : Text} (hs : s.getLast? = some '=')
    (hs' : s'.getLast? = some '=') (hv : v ≠ []) (hw : w ≠ [])
    (h : s ++ formatLogValue v = s' ++ formatLogValue w) : s = s' ∧ v = w := by
  have hdash : formatLogValue ['-'] = ['-'] := rfl
  have hquoted : ∀ {x y : Text} {t : Text}, x ++ ('"' :: t ++ ['"']) ≠ y ++ ['-'] := by
    intro x y t heq
    rw [← List.append_assoc] at heq
    exact absurd (List.append_inj' heq rfl).2 (by decide)
  by_cases hvdash : v = ['-']
  · by_cases hwdash : w = ['-']
    · rw [hvdash, hwdash] at h
      exact ⟨List.append_cancel_right h, hvdash.trans hwdash.symm⟩
    · rw [hvdash, hdash, formatLogValue_eq hw hwdash] at h
      exact absurd h.symm hquoted
  · by_cases hwdash : w = ['-']
    · rw [hwdash, hdash, formatLogValue_eq hv hvdash] at h
      exact absurd h hquoted
    · rw [formatLogValue_eq hv hvdash, formatLogValue_eq hw hwdash, ← List.append_assoc,
        ← List.append_assoc] at h
      exact append_quoted_inj hs hs' (List.append_cancel_right h)

/-- The quotes and the escapes are no line boundaries. -/
theorem forall_isLineBoundary_formatLogValue (v : Text) :
    (∀ c ∈ formatLogValue v, isLineBoundary c = false) ↔ ∀ c ∈ v, isLineBoundary c = false := by
  by_cases hnil : v = []
  · subst hnil
    decide
  · by_cases hdash : v = ['-']
    · subst hdash
      decide
    · have hchar : ∀ c, (∀ d ∈ escapeLogChar c, isLineBoundary d = false) ↔
          isLineBoundary c = false := by
        intro c
        unfold escapeLogChar
        split <;> simp [show isLineBoundary '\\' = false from rfl]
      rw [formatLogValue_eq hnil hdash]
      simp only [List.mem_append, List.mem_cons, List.mem_flatMap, List.not_mem_nil, or_false]
      constructor
      · intro h c hc
        exact (hchar c).mp fun d hd => h d (Or.inl (Or.inr ⟨c, hc, hd⟩))
      · intro h d hd
        rcases hd with (rfl | hd) | rfl
        · rfl
        · obtain ⟨c, hc, hd⟩ := hd
          exact (hchar c).mpr (h c hc) d hd
        · rfl

/-! ### Fields of a line -/

/-- A line is read from the right up to the user name, and from the left up to it. -/
theorem authLogLine_inj {event ip ip' : String} {user user' : Text}
    {client client' : AccessLogClient} (hip : ' ' ∉ ip.toList) (hip' : ' ' ∉ ip'.toList)
    (hclient : client.os ≠ "" ∧ client.browser ≠ "" ∧ client.device ≠ "")
    (hclient' : client'.os ≠ "" ∧ client'.browser ≠ "" ∧ client'.device ≠ "")
    (h : authLogLine event ip user client = authLogLine event ip' user' client') :
    ip = ip' ∧ user = user' ∧ client = client' := by
  have hne : ∀ {v : String}, v ≠ "" → v.toList ≠ [] := by
    intro v hv hnil
    exact hv (String.toList_inj.mp hnil)
  have hlabel : ∀ {s label : Text}, label.getLast? = some '=' →
      (s ++ label).getLast? = some '=' := by
    intro s label hlast
    rw [List.getLast?_append, hlast]
    rfl
  unfold authLogLine at h
  obtain ⟨h, hdevice⟩ := append_formatLogValue_inj (hlabel rfl) (hlabel rfl)
    (hne hclient.2.2) (hne hclient'.2.2) h
  obtain ⟨h, hbrowser⟩ := append_formatLogValue_inj (hlabel rfl) (hlabel rfl)
    (hne hclient.2.1) (hne hclient'.2.1) (List.append_cancel_right h)
  obtain ⟨h, hos⟩ := append_formatLogValue_inj (hlabel rfl) (hlabel rfl)
    (hne hclient.1) (hne hclient'.1) (List.append_cancel_right h)
  have hfront := List.append_cancel_right h
  simp only [List.append_assoc, List.append_cancel_left_eq] at hfront
  obtain ⟨hips, husers⟩ := append_cons_inj hip hip' hfront
  refine ⟨String.toList_inj.mp hips, List.append_cancel_left husers, ?_⟩
  cases client
  cases client'
  simp_all [String.toList_inj]

theorem mem_asctime {t : LogTime} {c : Char} (h : c ∈ t.asctime) :
    c.isDigit = true ∨ c = '-' ∨ c = ' ' ∨ c = ':' := by
  have hdigit : ∀ {width n : Nat}, c ∈ zeroPadded width n → c.isDigit = true := by
    intro width n hc
    rcases List.mem_append.mp hc with hc | hc
    · rw [List.eq_of_mem_replicate hc]
      rfl
    · exact Nat.isDigit_of_mem_toDigits (by decide) (by decide) hc
  simp only [LogTime.asctime, List.mem_append, List.mem_cons] at h
  rcases h with h | rfl | h | rfl | h | rfl | h | rfl | h | rfl | h
  all_goals first
    | exact Or.inl (hdigit h)
    | simp

/-- The message of a record begins after its first `W`. -/
theorem LoginFailure.message_eq_of_record_eq {a b : LoginFailure} {t t' : LogTime}
    (h : a.record t = b.record t') : a.message = b.message := by
  have hW : ∀ t : LogTime, 'W' ∉ t.asctime ++ [' '] := by
    intro t hmem
    rcases List.mem_append.mp hmem with hmem | hmem
    · exact absurd (mem_asctime hmem) (by decide)
    · exact absurd hmem (by decide)
  have hsplit : ∀ (a : LoginFailure) (t : LogTime), a.record t =
      (t.asctime ++ [' ']) ++ 'W' :: ("ARNING [auth] ".toList ++ a.message) := by
    intro a t
    simp [LoginFailure.record]
  rw [hsplit, hsplit] at h
  exact List.append_cancel_left (append_cons_inj (hW t) (hW t') h).2

/-! ### Lines of the file -/

/-- A record without boundaries is one line wherever it is written, and a boundary ends a line. -/
theorem oneLine_iff {record : Text} (hlast : record.getLast? ≠ some '\r') :
    OneLine record ↔ ∀ c ∈ record, isLineBoundary c = false := by
  have hnewline : encodeUtf8 ['\n'] = [0x0a] := rfl
  rw [← splitlines_eq_singleton_iff hlast]
  constructor
  · intro h
    obtain ⟨line, hline⟩ := h
    have hfile := hline [] [] (Or.inl rfl)
    rw [List.nil_append, List.append_nil, fileLines, decodeReplace_encodeUtf8] at hfile
    exact ⟨line, hfile⟩
  · intro h
    obtain ⟨line, hline⟩ := h
    refine ⟨line, ?_⟩
    have hrecord : ∀ rest, fileLines (encodeUtf8 record ++ 0x0a :: rest) =
        line :: fileLines rest := by
      intro rest
      rw [fileLines, decodeReplace_append_newline, splitlines_append_newline,
        decodeReplace_encodeUtf8, hline]
      rfl
    intro log rest hlog
    rw [encodeUtf8_append, hnewline]
    rcases hlog with rfl | hlog
    · have hempty : fileLines [] = [] := rfl
      simpa [hempty] using hrecord rest
    · obtain ⟨log, rfl⟩ := List.getLast?_eq_some_iff.mp hlog
      have happend : log ++ [0x0a] ++ (encodeUtf8 record ++ [0x0a]) ++ rest =
          log ++ 0x0a :: (encodeUtf8 record ++ 0x0a :: rest) := by
        simp
      have hfirst := decodeReplace_append_newline log []
      rw [happend, fileLines, decodeReplace_append_newline, splitlines_append_newline, fileLines,
        hfirst]
      exact congrArg _ (hrecord rest)

section Failures

variable {a : LoginFailure}

theorem LoginFailure.space_notMem_clientIp (a : LoginFailure) : ' ' ∉ a.request.clientIp.toList :=
  fun hmem => absurd (a.ip_plain ' ' hmem) (by decide)

/-- The boundaries of a record are those of its fields. -/
theorem LoginFailure.forall_isLineBoundary_record (t : LogTime) :
    (∀ c ∈ a.record t, isLineBoundary c = false) ↔
      (∀ c ∈ a.user, isLineBoundary c = false) ∧
        (∀ c ∈ a.request.client.os.toList, isLineBoundary c = false) ∧
        (∀ c ∈ a.request.client.browser.toList, isLineBoundary c = false) ∧
        (∀ c ∈ a.request.client.device.toList, isLineBoundary c = false) := by
  have htime : ∀ c ∈ t.asctime, isLineBoundary c = false := by
    intro c hc
    rcases mem_asctime hc with hdigit | rfl | rfl | rfl
    · have hrange : 0x30 ≤ c.toNat ∧ c.toNat ≤ 0x39 := Char.isDigit_iff_toNat.mp hdigit
      simp only [isLineBoundary, Bool.or_eq_false_iff, decide_eq_false_iff_not]
      omega
    · rfl
    · rfl
    · rfl
  have hip : ∀ c ∈ a.request.clientIp.toList, isLineBoundary c = false := by
    intro c hc
    by_contra hboundary
    have hspace := isSpace_of_isLineBoundary (eq_true_of_ne_false hboundary)
    rw [a.ip_plain c hc] at hspace
    cases hspace
  have huser : (∀ c ∈ a.loggedUser, isLineBoundary c = false) ↔
      ∀ c ∈ a.user, isLineBoundary c = false := by
    rw [LoginFailure.loggedUser]
    split
    · next hnil => simp [hnil, show isLineBoundary '-' = false from rfl]
    · rfl
  have hliteral : (∀ c ∈ " WARNING [auth] ".toList, isLineBoundary c = false) ∧
      (∀ c ∈ "login_failure".toList, isLineBoundary c = false) ∧
      (∀ c ∈ " ip=".toList, isLineBoundary c = false) ∧
      (∀ c ∈ " user=".toList, isLineBoundary c = false) ∧
      (∀ c ∈ " os=".toList, isLineBoundary c = false) ∧
      (∀ c ∈ " browser=".toList, isLineBoundary c = false) ∧
      ∀ c ∈ " device=".toList, isLineBoundary c = false := by
    decide
  obtain ⟨hlevel, hevent, hipName, huserName, hos, hbrowser, hdevice⟩ := hliteral
  simp only [LoginFailure.record, LoginFailure.message, authLogLine, List.forall_mem_append,
    forall_isLineBoundary_formatLogValue, huser]
  simp only [eq_true htime, eq_true hlevel, eq_true hip, eq_true hevent, eq_true hipName,
    eq_true huserName, eq_true hos, eq_true hbrowser, eq_true hdevice, true_and, and_true,
    and_assoc]

/-- The records of two attempts that differ in a field differ, if the user name of the first is
written as it is. -/
theorem LoginFailure.record_ne {b : LoginFailure} (hnil : a.user ≠ []) (hdash : a.user ≠ ['-'])
    (hdiffer : a.Differ b) (t t' : LogTime) : a.record t ≠ b.record t' := by
  intro h
  obtain ⟨hip, huser, hclient⟩ := authLogLine_inj a.space_notMem_clientIp b.space_notMem_clientIp
    ⟨a.os_named, a.browser_named, a.device_named⟩ ⟨b.os_named, b.browser_named, b.device_named⟩
    (LoginFailure.message_eq_of_record_eq h)
  have hlogged : a.user = b.user := by
    rw [LoginFailure.loggedUser, if_neg hnil, LoginFailure.loggedUser] at huser
    split at huser
    · exact absurd huser hdash
    · exact huser
  rcases hdiffer with hne | hne | hne | hne | hne
  · exact hne hip
  · exact hne hlogged
  · exact hne (congrArg AccessLogClient.os hclient)
  · exact hne (congrArg AccessLogClient.browser hclient)
  · exact hne (congrArg AccessLogClient.device hclient)

/-- The credentials of a form with this user name. -/
theorem credentials?_withUsername {request : PostRequest} {user password : Text}
    (h : request.credentials? = some (user, password)) (username : Text) :
    { request with username := [encodeUtf8 username] }.credentials? =
      some (getArgument [username] [], password) := by
  have hdecode : decodeArguments [encodeUtf8 username] = some [username] := by
    simp [decodeArguments, decodeUtf8_encodeUtf8]
  obtain ⟨_, -, h⟩ := Option.bind_eq_some_iff.mp h
  obtain ⟨values, hvalues, h⟩ := Option.bind_eq_some_iff.mp h
  obtain ⟨-, rfl⟩ := Prod.mk.inj (Option.some.inj h)
  simp only [PostRequest.credentials?, hdecode, hvalues]
  rfl

/-- The attempt with another user name. -/
def LoginFailure.withUsername (a : LoginFailure) (username : Text) : LoginFailure :=
  { a with
    request := { a.request with username := [encodeUtf8 username] }
    user := getArgument [username] []
    read := credentials?_withUsername a.read username }

theorem LoginFailure.loggedUser_eq_dash (h : a.user = [] ∨ a.user = ['-']) :
    a.loggedUser = ['-'] := by
  rw [LoginFailure.loggedUser]
  split
  · rfl
  · next hnil => exact h.resolve_left hnil

/-- An attempt without a user name and one with the user name `-` have one record. -/
theorem LoginFailure.exists_record_eq (h : a.user = [] ∨ a.user = ['-']) :
    ∃ b, a.Differ b ∧ ∀ t, a.record t = b.record t := by
  have hrecord : ∀ username, getArgument [username] [] = [] ∨ getArgument [username] [] = ['-'] →
      ∀ t, a.record t = (a.withUsername username).record t := by
    intro username huser t
    have hother : (a.withUsername username).loggedUser = ['-'] :=
      LoginFailure.loggedUser_eq_dash huser
    simp only [LoginFailure.record, LoginFailure.message, LoginFailure.loggedUser_eq_dash h, hother]
    rfl
  rcases h with hnil | hdash
  · refine ⟨a.withUsername ['-'], Or.inr (Or.inl ?_), hrecord _ (Or.inr rfl)⟩
    rw [hnil, show (a.withUsername ['-']).user = ['-'] from rfl]
    exact (List.cons_ne_nil _ _).symm
  · refine ⟨a.withUsername [], Or.inr (Or.inl ?_), hrecord _ (Or.inl rfl)⟩
    rw [hdash, show (a.withUsername []).user = [] from rfl]
    exact List.cons_ne_nil _ _

/-- A record ends in `-` or in a quote. -/
theorem LoginFailure.getLast?_record (t : LogTime) : (a.record t).getLast? ≠ some '\r' := by
  have hvalue : ∀ v, ∃ c, (formatLogValue v).getLast? = some c ∧ c ≠ '\r' := by
    intro v
    unfold formatLogValue
    split
    · exact ⟨'-', rfl, by decide⟩
    · exact ⟨'"', List.getLast?_concat, by decide⟩
  obtain ⟨c, hlast, hc⟩ := hvalue a.request.client.device.toList
  rw [LoginFailure.record, LoginFailure.message, authLogLine, List.getLast?_append,
    List.getLast?_append, hlast]
  intro heq
  exact hc (Option.some.inj heq)

/-- A refused login has a record of its own on a line of its own exactly if no field has a line
boundary and the user name is neither empty nor `-`. -/
theorem unambiguous_iff (a : LoginFailure) :
    Unambiguous a ↔
      (∀ c ∈ a.user ++ a.request.client.os.toList ++ a.request.client.browser.toList ++
        a.request.client.device.toList, isLineBoundary c = false) ∧
      a.user ≠ [] ∧ a.user ≠ ['-'] := by
  have hlines : (∀ t, OneLine (a.record t)) ↔
      ∀ c ∈ a.user ++ a.request.client.os.toList ++ a.request.client.browser.toList ++
        a.request.client.device.toList, isLineBoundary c = false := by
    simp only [oneLine_iff (a.getLast?_record _), LoginFailure.forall_isLineBoundary_record,
      List.forall_mem_append, and_assoc]
    exact ⟨fun h => h ⟨0, 0, 0, 0, 0, 0⟩, fun h _ => h⟩
  constructor
  · intro h
    have hdistinct : ¬ (a.user = [] ∨ a.user = ['-']) := by
      intro huser
      obtain ⟨b, hdiffer, hrecord⟩ := LoginFailure.exists_record_eq huser
      exact h.injective b hdiffer ⟨0, 0, 0, 0, 0, 0⟩ _ (hrecord _)
    exact ⟨hlines.mp h.oneLine, not_or.mp hdistinct⟩
  · intro h
    obtain ⟨hplain, hnil, hdash⟩ := h
    exact ⟨hlines.mpr hplain, fun b hdiffer t t' => LoginFailure.record_ne hnil hdash hdiffer t t'⟩

end Failures

/-- A user name that ends its line and goes on with the record of a login. -/
def forgedUsername : Text :=
  "x\n2026-01-01 00:00:00 INFO [auth] login_success ip=192.0.2.7 user=admin".toList

/-- An attempt with that user name. -/
def forgedFailure : LoginFailure where
  request :=
    { realIp := none
      remoteIp := "192.0.2.1"
      username := [encodeUtf8 forgedUsername]
      password := []
      retpath := []
      bodyRetpath := []
      client := { os := "-", browser := "-", device := "-" } }
  user := forgedUsername
  password := []
  read := by decide +kernel
  ip_plain := by decide
  os_named := by decide
  browser_named := by decide
  device_named := by decide

/-- The forged record is a line of the log. -/
theorem not_unambiguous_forged : ¬ ∀ a, Unambiguous a := by
  intro hall
  have hline := (oneLine_iff (LoginFailure.getLast?_record ⟨2026, 1, 1, 0, 0, 0⟩)).mp
    ((hall forgedFailure).oneLine _)
  have huser := (LoginFailure.forall_isLineBoundary_record _).mp hline
  exact absurd (huser.1 '\n' (by decide +kernel)) (by decide)

end PxManager.Login
