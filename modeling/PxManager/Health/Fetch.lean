import PxManager.Core.JsonText
import PxManager.Health.IpEcho
import PxManager.Transport.OneTunnel

/-!
# PxManager.Health.Fetch

`run_https_proxy_request_check_endpoint` of `main.py`, with `fetch_https_proxy_check_endpoint` and
`parse_country_response`: one request through the proxy, and what its response says.

A response is asked for an address, for a country, or for what Yandex says about the exit in a
header. Whatever happens on the way, there is a result. It has a value, or an answer of Yandex, only
if the response was read to its end with a status of success and says so; the value is an address in
its one spelling, or a country code of two capital letters (`fetch_endpoint_sound`).
-/

namespace PxManager.Health

open PxManager.Core
open PxManager.Core.Coroutine
open PxManager.Transport

/-! ### Countries -/

/-- What is not said here of `json.loads`: `float`, and the text of an exception for a text. -/
structure JsonReader where
  float : Text → PyFloat
  errorText : Text → String

/-- The text that `parse_country_response` looks at: after `loc=` in a body with an equals sign. -/
def countryLine (body : Text) : Text :=
  let value := strip body
  if '=' ∈ value then
    match (splitlines value).find? ("loc=".toList.isPrefixOf ·) with
    | some line => strip (line.drop 4)
    | none => []
  else value

/-- The value in that text: a member of an object, or the text itself. -/
def countryValue (json : JsonReader) (body : Text) : Except RequestError Json :=
  let value := countryLine body
  if value.head? = some '{' then
    match loads json.float value with
    | .ok (.obj members) => .ok ((Json.get? members "country").getD .null)
    -- never, for a text that begins with a brace
    | .ok _ => .error (.error (json.errorText value) "AttributeError")
    | .error .decode => .error (.error (json.errorText value) "JSONDecodeError")
    | .error .tooLong => .error (.error (json.errorText value) "ValueError")
  else .ok (.str (String.ofList value))

/-- `parse_country_response`. Only letters of ASCII pass, so `upper` is that of ASCII. -/
def parseCountryResponse (json : JsonReader) (body : Text) : Except RequestError Text := do
  let invalid := valueError "Некорректный код страны"
  match ← countryValue json body with
  | .str s =>
      match strip s.toList with
      | [a, b] => if a.isAlpha ∧ b.isAlpha then .ok [a.toUpper, b.toUpper] else .error invalid
      | _ => .error invalid
  | _ => .error invalid

/-! ### Requests -/

/-- `format_health_error`. -/
def formatRequestError : RequestError → String
  | .timeout => "timeout"
  | .cancelled _ => "CancelledError"
  | .endOfStream => "EndOfStream"
  | .error text className => if text = "" then className else text

/-- A coroutine that has a result, or raises. -/
def lift {α : Type} (result : Except RequestError α) : Requesting α := done result

/-- `response_kind`. -/
inductive RequestKind
  | value (kind : ResponseKind)
  | yandex

/-- `method`. -/
def RequestKind.method : RequestKind → String
  | .value _ => "GET"
  | .yandex => "POST"

/-- Whether `response_kind` is `"country"`: `"yandex"` is in the other branch, with `"ip"`. -/
def RequestKind.responseKind : RequestKind → ResponseKind
  | .value kind => kind
  | .yandex => .ip

/-- What comes of a request. -/
inductive Found
  | answer (answer : Answer)
  /-- Does Yandex take the exit for a VPN? `none` is a header that says neither. -/
  | classified (detected : Option Bool)

/-- The result for what has come of a request. -/
def foundResult (kind : RequestKind) (targetHost : String) : Found → HealthResult
  | .answer answer => endpointResult kind.responseKind targetHost answer
  | .classified none => .ofList
      [("status", .str "unknown"), ("error", .str "Неизвестный формат ответа Яндекса")]
  | .classified (some detected) => .ofList
      [("status", .str "ok"), ("fields", .obj [("VPN обнаружен", .bool detected)])]

/-- What the header `x-yandex-eu-request` says. -/
def detectedIn (headers : Dict String String) : Option Bool :=
  match headers.get? "x-yandex-eu-request" with
  | some "0" => some false
  | some "1" => some true
  | _ => none

section Endpoint

variable (json : JsonReader) (turns : Nat) (host : ProxyHost) (username password : Text)

/-- The value that was asked for. -/
def valueIn (kind : ResponseKind) (body : Text) : Except RequestError Text :=
  match kind with
  | .country => parseCountryResponse json body
  | .ip => .ok (extractIpEcho body)

/-- The body of the `try` statement in `fetch_https_proxy_check_endpoint`. -/
def fetchFound (kind : RequestKind) (endpoint : Endpoint) : Requesting Found := do
  let response ← proxyRequest turns host username password endpoint.host endpoint.port endpoint.path
    kind.method .auto
  match response.status with
  | none => throw (.error "'<' not supported between instances of 'NoneType' and 'int'" "TypeError")
  | some statusCode =>
      if statusCode < 200 ∨ 300 ≤ statusCode then
        throw (valueError s!"{endpoint.host} HTTP {statusCode}")
      else
        match kind with
        | .yandex => return .classified (detectedIn response.headers)
        | .value kind =>
            let value ← lift (valueIn json kind response.body)
            if value = [] then throw (valueError s!"Некорректный ответ {endpoint.host}")
            else return .answer (.value (String.ofList value) statusCode response.metadata)

/-- `fetch_https_proxy_check_endpoint`. A cancellation is no `Exception`. -/
def fetchHttpsProxyCheckEndpoint (kind : RequestKind) (endpoint : Endpoint) : Requesting Found :=
  (fetchFound json turns host username password kind endpoint).andThen fun
    | .ok found => done (.ok found)
    | .error (.cancelled deadline) => done (.error (.cancelled deadline))
    | .error e => done (.ok (.answer (.failed (formatRequestError e))))

/-- The block under `asyncio.timeout(10)`, and `except TimeoutError`. -/
def endpointFound (kind : RequestKind) (endpoint : Endpoint) : Requesting Found :=
  (fetchHttpsProxyCheckEndpoint json turns host username password kind endpoint).andThen fun outcome =>
    match expire .request outcome with
    | .error .timeout => done (.ok (.answer .timedOut))
    | outcome => done outcome

/-- `run_https_proxy_request_check_endpoint`. -/
def runHttpsProxyRequestCheckEndpoint (kind : RequestKind) (endpoint : Endpoint) :
    Requesting HealthResult := do
  let found ← endpointFound json turns host username password kind endpoint
  return foundResult kind endpoint.host found

end Endpoint

/-! ### Values -/

/-- The form of a value: the one spelling of an address, or a country code. -/
def IsValue : ResponseKind → Text → Prop
  | .ip, value => ∃ text address, IpAddress.ipAddress text = some address ∧ value = address.str
  | .country, value => ∃ a b : Char, value = [a, b] ∧ a.isUpper = true ∧ b.isUpper = true

theorem isUpper_toUpper {c : Char} (h : c.isAlpha = true) : c.toUpper.isUpper = true := by
  have hall : ∀ n < 128, (Char.ofNat n).isAlpha = true → (Char.ofNat n).toUpper.isUpper = true := by
    decide
  have hlow : c.toNat < 128 := by
    rcases (Bool.or_eq_true c.isUpper c.isLower).mp h with h | h
    · exact Nat.lt_of_le_of_lt (UInt32.le_iff_toNat_le.mp (of_decide_eq_true h).2) (by decide)
    · exact Nat.lt_of_le_of_lt (UInt32.le_iff_toNat_le.mp
        (of_decide_eq_true ((Bool.and_eq_true _ _).mp h).2)) (by decide)
  have hc := hall c.toNat hlow
  rw [Char.ofNat_toNat] at hc
  exact hc h

theorem isValue_of_parseCountryResponse {json : JsonReader} {body value : Text}
    (h : parseCountryResponse json body = .ok value) : IsValue .country value := by
  unfold parseCountryResponse at h
  cases hread : countryValue json body with
  | error e =>
      rw [hread] at h
      cases h
  | ok read =>
      rw [hread] at h
      simp only [bind, Except.bind] at h
      split at h
      · split at h
        · next a b _ =>
            split at h
            · next hletters =>
                cases h
                exact ⟨a.toUpper, b.toUpper, rfl, isUpper_toUpper hletters.1,
                  isUpper_toUpper hletters.2⟩
            · cases h
        · cases h
      · cases h

theorem isValue_of_valueIn {json : JsonReader} {kind : ResponseKind} {body value : Text}
    (h : valueIn json kind body = .ok value) (hne : value ≠ []) : IsValue kind value := by
  cases kind with
  | country => exact isValue_of_parseCountryResponse h
  | ip =>
      cases h
      unfold extractIpEcho at hne ⊢
      split at hne
      · next address haddress =>
          exact ⟨_, address, haddress, rfl⟩
      · exact absurd rfl hne

/-! ### What a request comes to -/

section Run

variable {json : JsonReader} {turns : Nat} {host : ProxyHost} {username password : Text}
  {kind : RequestKind} {endpoint : Endpoint}

/-- A response with a status of success was read to its end. -/
structure Succeeds (events : List H11Event) (response : Response) (statusCode : ℤ) : Prop where
  completes : Completes events response
  status : response.status = some statusCode
  success : 200 ≤ statusCode ∧ statusCode < 300

/-- What comes of a request is what the response says that h11 has read, if it says anything. -/
inductive Tells (json : JsonReader) (events : List H11Event) : RequestKind → Found → Prop
  | value {kind : ResponseKind} {response : Response} {value : Text} {statusCode : ℤ}
      (hresponse : Succeeds events response statusCode)
      (hvalue : valueIn json kind response.body = .ok value) (hne : value ≠ []) :
      Tells json events (.value kind)
        (.answer (.value (String.ofList value) statusCode response.metadata))
  | classified {response : Response} {statusCode : ℤ} (hresponse : Succeeds events response statusCode) :
      Tells json events .yandex (.classified (detectedIn response.headers))
  | failed (kind : RequestKind) (error : String) : Tells json events kind (.answer (.failed error))
  | timedOut (kind : RequestKind) : Tells json events kind (.answer .timedOut)

theorem wp_fetchFound :
    (fetchFound json turns host username password kind endpoint).wp (watching World.after)
      (Permitted .auto) (fun outcome w => w.channel = .closed ∧
        ∀ found, outcome = .ok found → Tells json w.events kind found) .new := by
  refine wp_bind.mpr (wp_imp wp_proxyTunnel fun outcome w hclosed => ?_)
  obtain ⟨hchannel, hresponse⟩ := hclosed
  have hfailed : ∀ e : RequestError, w.channel = .closed ∧ ∀ found : Found,
      (.error e : Except RequestError Found) = .ok found → Tells json w.events kind found := by
    intro e
    refine ⟨hchannel, fun found hfound => ?_⟩
    cases hfound
  cases outcome with
  | error e => exact hfailed e
  | ok response =>
      obtain ⟨hcomplete, -⟩ := hresponse response rfl
      cases hstatus : response.status with
      | none =>
          dsimp only
          rw [hstatus]
          exact hfailed _
      | some statusCode =>
          dsimp only
          rw [hstatus]
          dsimp only
          split
          · exact hfailed _
          · next hsuccess =>
              have hsucceeds : Succeeds w.events response statusCode :=
                ⟨hcomplete, hstatus, by omega⟩
              cases kind with
              | yandex =>
                  refine ⟨hchannel, fun found hfound => ?_⟩
                  cases hfound
                  exact .classified hsucceeds
              | value kind =>
                  refine wp_bind.mpr ?_
                  cases hvalue : valueIn json kind response.body with
                  | error e => exact hfailed e
                  | ok value =>
                      show (if value = [] then _ else _ : Requesting Found).wp _ _ _ _
                      split
                      · exact hfailed _
                      · next hne =>
                          refine ⟨hchannel, fun found hfound => ?_⟩
                          cases hfound
                          exact .value hsucceeds hvalue hne

/-- How the wait for an answer ends. -/
structure Answered (json : JsonReader) (kind : RequestKind) (w : World)
    (outcome : Except RequestError Found) : Prop where
  closed : w.channel = .closed
  tells : ∀ found, outcome = .ok found → Tells json w.events kind found
  raises : ∀ e, outcome = .error e → ∃ deadline, e = .cancelled deadline ∧ deadline ≠ some .request

theorem wp_endpointFound :
    (endpointFound json turns host username password kind endpoint).wp (watching World.after)
      (Permitted .auto) (fun outcome w => Answered json kind w outcome) .new := by
  refine wp_andThen.mpr (wp_andThen.mpr (wp_imp wp_fetchFound fun outcome w h => ?_))
  obtain ⟨hchannel, htells⟩ := h
  have hanswered : ∀ found, Tells json w.events kind found → Answered json kind w (.ok found) := by
    intro found h
    refine ⟨hchannel, ?_, ?_⟩
    · intro found' hfound
      cases hfound
      exact h
    · intro e he
      cases he
  have hcancelled : ∀ deadline, deadline ≠ some .request →
      Answered json kind w (.error (.cancelled deadline)) := by
    intro deadline hdeadline
    refine ⟨hchannel, ?_, ?_⟩
    · intro result hresult
      cases hresult
    · intro e he
      cases he
      exact ⟨deadline, rfl, hdeadline⟩
  cases outcome with
  | ok found => exact hanswered found (htells found rfl)
  | error e =>
      cases e with
      | cancelled deadline =>
          cases deadline with
          | none => exact hcancelled none (by simp)
          | some deadline =>
              cases deadline with
              | quic => exact hcancelled (some .quic) (by simp)
              | request => exact hanswered _ (.timedOut kind)
      | timeout => exact hanswered _ (.failed kind _)
      | endOfStream => exact hanswered _ (.failed kind _)
      | error text className => exact hanswered _ (.failed kind _)

theorem isValue_of_tells {events : List H11Event} {value : String} {statusCode : ℤ}
    {metadata : Metadata} (h : Tells json events kind (.answer (.value value statusCode metadata))) :
    ∃ valueKind, kind = .value valueKind ∧ IsValue valueKind value.toList := by
  cases h with
  | value _ hvalue hne =>
      rw [String.toList_ofList]
      exact ⟨_, rfl, isValue_of_valueIn hvalue hne⟩

end Run

/-- **A result says what the response does.** The function ends with no tunnel open, and it raises
only what cancels it from outside. Its result is the one for what has come of the request, and it
has a value, or says what Yandex does, only if a response with a status of success was read to its
end that says so; the value is well formed. -/
theorem fetch_endpoint_sound (json : JsonReader) (turns : Nat) (host : ProxyHost)
    (username password : Text) (kind : RequestKind) (endpoint : Endpoint)
    (outcome : Except RequestError HealthResult) (w : World)
    (hreaches : Reaches (watching World.after)
      (runHttpsProxyRequestCheckEndpoint json turns host username password kind endpoint) .new
        (.done outcome) w) :
    w.channel = .closed ∧
      (∀ e, outcome = .error e → ∃ deadline, e = .cancelled deadline ∧ deadline ≠ some .request) ∧
      ∀ result, outcome = .ok result → ∃ found, result = foundResult kind endpoint.host found ∧
        Tells json w.events kind found ∧
        ∀ value statusCode metadata, found = .answer (.value value statusCode metadata) →
          ∃ valueKind, kind = .value valueKind ∧ IsValue valueKind value.toList := by
  refine reaches_of_wp (I := Permitted .auto) (Q := fun outcome w => w.channel = .closed ∧
    (∀ e, outcome = .error e → ∃ deadline, e = .cancelled deadline ∧ deadline ≠ some .request) ∧
    ∀ result, outcome = .ok result → ∃ found, result = foundResult kind endpoint.host found ∧
      Tells json w.events kind found ∧
      ∀ value statusCode metadata, found = .answer (.value value statusCode metadata) →
        ∃ valueKind, kind = .value valueKind ∧ IsValue valueKind value.toList)
    (wp_bind.mpr (wp_imp wp_endpointFound ?_)) hreaches
  intro outcome w h
  cases outcome with
  | error e =>
      refine ⟨h.closed, ?_, ?_⟩
      · intro e' he
        cases he
        exact h.raises e rfl
      · intro result hresult
        cases hresult
  | ok found =>
      refine ⟨h.closed, ?_, ?_⟩
      · intro e he
        cases he
      · intro result hresult
        cases hresult
        have htells := h.tells found rfl
        refine ⟨found, rfl, htells, ?_⟩
        rintro value statusCode metadata rfl
        exact isValue_of_tells htells

/-- Nothing of `json.loads` is needed for a plain body. -/
def sampleReader : JsonReader := ⟨fun _ => .nan, fun _ => ""⟩

theorem fetch_endpoint_sound_country :
    let request := runHttpsProxyRequestCheckEndpoint sampleReader 3 ⟨"proxy.example", 443, true⟩ [] []
      (.value .country) ⟨"api.example", 443, "/"⟩
    ∃ result, (request.follow sampleNetwork .new).1 = some (.ok result) ∧
      (request.follow sampleNetwork .new).2.channel = .closed ∧
      textOf result "country_code" = some "NL" := by
  intro request
  obtain ⟨result, hresult, hcode⟩ : ∃ result, (request.follow sampleNetwork .new).1 = some (.ok result) ∧
      textOf result "country_code" = some "NL" := ⟨_, rfl, rfl⟩
  have hanswer : ∀ w op, watching World.after w op (sampleNetwork w op).1 (sampleNetwork w op).2 :=
    fun _ _ => rfl
  have hreaches := reaches_follow hanswer hresult
  exact ⟨result, hresult, (fetch_endpoint_sound _ _ _ _ _ _ _ _ _ hreaches).1, hcode⟩

end PxManager.Health
