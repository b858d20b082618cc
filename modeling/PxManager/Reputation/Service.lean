import PxManager.Core.Dumps
import PxManager.Reputation.Cache

/-!
# PxManager.Reputation.Service

`check_service` and `parse_result` of `reputation.py`: the request to a provider, and what is made
of its answer.

Every exception in `check_service` after the request has been made up ends in a result with a fixed
text, and so do all answers that `parse_result` rejects. An exception before that leaves
`check_service`.

A response is modelled by what `json.loads` makes of its body. The addresses and networks of
`ipaddress` are those of a parameter.
-/

namespace PxManager.Reputation

open PxManager.Core

/-! ### Requests -/

/-- What `check_service` puts into an `HTTPRequest` besides its fixed options. -/
structure HttpRequest where
  url : Text
  method : String
  body : Option Text
  headers : List (String × List CodePoint)
  deriving DecidableEq

/-- `urllib.parse.quote_plus(text)`. -/
def quotePlus (text : Text) : Text := text.flatMap fun c => if c = ' ' then ['+'] else quote [c]

/-- `urlencode`, with the values that are no strings given by their texts. -/
def urlencode (params : List (String × Text)) : Text :=
  ['&'].intercalate (params.map fun p => quotePlus p.1.toList ++ '=' :: quotePlus p.2)

/-- The code points of a text. -/
def codePoints (text : Text) : List CodePoint := text.map fun c => Fin.ofNat _ c.toNat

/-- `json.dumps` of a `str`, with a lone surrogate as the escape of its code unit. -/
def dumpsCodePoints (s : List CodePoint) : Text :=
  '"' :: s.flatMap (fun c =>
    if 0xd800 ≤ c.val ∧ c.val ≤ 0xdfff then escapeUnit c.val
    else escapeChar (Char.ofNat c.val)) ++ ['"']

/-- `json.dumps({name: ip, 'key': key})`. -/
def keyBody (name ip : String) (key : List CodePoint) : Text :=
  '{' :: dumpsString name.toList ++ ": ".toList ++ dumpsString ip.toList ++ ", ".toList ++
    dumpsString "key".toList ++ ": ".toList ++ dumpsCodePoints key ++ ['}']

/-- The first half of `check_service`, which makes the request up. `none` is an exception: the key
goes into an URL, and cannot be encoded, or the provider is unknown. -/
def serviceRequest (provider ip : String) (key : List CodePoint) : Option HttpRequest :=
  let accept := ("Accept", codePoints "application/json".toList)
  let get (url : Text) (headers : List (String × List CodePoint)) : HttpRequest :=
    { url, method := "GET", body := none, headers := accept :: headers }
  let post (url : String) (body : Text) : HttpRequest :=
    { url := url.toList, method := "POST", body := some body,
      headers := [accept, ("Content-Type", codePoints "application/json".toList)] }
  if provider = "rkn" then
    some (get ("https://cheburcheck.ru/api/v1/check?".toList ++
      urlencode [("target", ip.toList)]) [])
  else if provider = "cloudflare" then
    some (get ("https://api.cloudflare.com/client/v4/radar/entities/ip?".toList ++
      urlencode [("ip", ip.toList)])
      [("Authorization", codePoints "Bearer ".toList ++ key)])
  else if provider = "proxycheck" then
    (scalars? key).map fun key =>
      get ("https://proxycheck.io/v2/".toList ++ quote ip.toList ++ '?' ::
        urlencode [("key", key), ("vpn", ['1']), ("risk", ['1'])]) []
  else if provider = "ipqs" then
    some (post "https://www.ipqualityscore.com/api/json/ip/" (keyBody "ip" ip key))
  else if provider = "ipapi" then
    some (post "https://api.ipapi.is/" (keyBody "q" ip key))
  else none

/-! ### Answers -/

/-- What `parse_result` uses of the module `ipaddress`. `none` is an exception. -/
structure Ipaddress where
  Address : Type
  Network : Type
  decEq : DecidableEq Address
  /-- `ip_address(value)`. -/
  address : Json → Option Address
  /-- `ip_network(value)`. -/
  network : Json → Option Network
  /-- `address in network`. -/
  contains : Network → Address → Bool

instance (ipaddress : Ipaddress) : DecidableEq ipaddress.Address := ipaddress.decEq

/-- The members of a value that is a dictionary. -/
def members? : Json → Option (List (String × Json))
  | .obj members => some members
  | _ => none

/-- The items of a value that is a list. -/
def items? : Json → Option (List Json)
  | .arr items => some items
  | _ => none

/-- `data.get(key)`. -/
def field (data : List (String × Json)) (key : String) : Json := (Json.get? data key).getD .null

/-- `value is None`. -/
def isNone : Json → Bool
  | .null => true
  | _ => false

/-- `value is True`. -/
def isTrue : Json → Bool
  | .bool b => b
  | _ => false

/-- `text or 'Нет'`. -/
def orNo (text : String) : Json := .str (if text = "" then "Нет" else text)

section Parse

variable (ipaddress : Ipaddress)

/-- The fields that a provider knows of an address. -/
abbrev Fields := List (String × Json)

/-- The branch `rkn` of `parse_result`. -/
def rknFields (ip : String) (data : List (String × Json)) : Option Fields := do
  let address ← ipaddress.address (.str ip)
  let target ← ipaddress.address ((Json.get? data "target").getD (.str ""))
  guard (target = address)
  let networks ← (Json.get? data "blocked_subnets").bind items?
  let cdns ← (Json.get? data "cdn_providers").bind members?
  guard (networks.all fun network => (ipaddress.network network).any fun network =>
    ipaddress.contains network address)
  let joined ← networks.mapM Json.asStr?
  let sorted := (Dict.ofList cdns).keys.mergeSort fun a b => decide (a ≤ b)
  return [("Найден в агрегированном списке IP", .bool !networks.isEmpty),
    ("Совпавшие диапазоны", orNo (", ".intercalate joined)),
    ("CDN в списках ограничений", orNo (", ".intercalate sorted)),
    ("Источник", .str "Cheburcheck / Antifilter"),
    ("Точность", .str ("Совпадение с диапазоном или CDN не подтверждает отдельное решение РКН по IP."
      ++ " Доступность у провайдера не проверялась."))]

/-- The branch `cloudflare`. -/
def cloudflareFields (ip : String) (data : List (String × Json)) : Option Fields := do
  guard (isTrue (field data "success"))
  let result ← (Json.get? data "result").bind members?
  let item ← (Json.get? result "ip").bind members?
  let found ← (Json.get? item "ip").bind ipaddress.address
  let address ← ipaddress.address (.str ip)
  guard (found = address)
  return [("Провайдер", (field item "asnOrgName").or (field item "asnName")),
    ("ASN", field item "asn")]

/-- The branch `proxycheck`. -/
def proxycheckFields (ip : String) (data : List (String × Json)) : Option Fields := do
  guard ((field data "status").asStr? ∈ [some "ok", some "warning"])
  let item ← (Json.get? data ip).bind members?
  return [("Прокси/VPN", field item "proxy"), ("Тип", field item "type"),
    ("Риск (0–100)", field item "risk")]

/-- The branch `ipqs`. -/
def ipqsFields (data : List (String × Json)) : Option Fields := do
  guard (isTrue (field data "success"))
  return [("VPN", field data "vpn"), ("Прокси", field data "proxy"), ("Tor", field data "tor"),
    ("Fraud score (0–100)", field data "fraud_score"),
    ("Недавние злоупотребления", field data "recent_abuse")]

/-- The branch `ipapi`. -/
def ipapiFields (ip : String) (data : List (String × Json)) : Option Fields := do
  guard (!(field data "error").truthy)
  let found ← ipaddress.address ((Json.get? data "ip").getD (.str ""))
  let address ← ipaddress.address (.str ip)
  guard (found = address)
  return [("VPN", field data "is_vpn"), ("Прокси", field data "is_proxy"),
    ("Tor", field data "is_tor"), ("Дата-центр", field data "is_datacenter"),
    ("Злоупотребления", field data "is_abuser")]

/-- `parse_result`. `none` is an exception, whose text nothing uses. -/
def parseResult (provider ip : String) (data : Json) : Option Result := do
  let data ← members? data
  let fields ←
    if provider = "rkn" then rknFields ipaddress ip data
    else if provider = "cloudflare" then cloudflareFields ipaddress ip data
    else if provider = "proxycheck" then proxycheckFields ip data
    else if provider = "ipqs" then ipqsFields data
    else if provider = "ipapi" then ipapiFields ipaddress ip data
    else none
  guard (fields.any fun f => !isNone f.2)
  return .ofList [("status", .str "ok"), ("fields", .obj fields)]

/-! ### `check_service` -/

/-- How `fetch` ends. -/
inductive Fetch
  /-- With a response, by what `json.loads` makes of its body. -/
  | response (data : Option Json)
  /-- With an `HTTPClientError`. -/
  | httpError (code : ℤ) (text : String)
  /-- With another `Exception`. -/
  | raised (text : String)
  /-- With a cancellation. -/
  | cancelled

/-- What there is of it without the texts of exceptions. -/
def Fetch.behaviour : Fetch → Fetch
  | .httpError code _ => .httpError code ""
  | .raised _ => .raised ""
  | fetch => fetch

/-- A result with this error. -/
def errorResult (error : String) : Result :=
  .ofList [("status", .str "error"), ("error", .str error)]

/-- The result for an `HTTPClientError`. -/
def httpErrorResult (provider : String) (code : ℤ) : Result :=
  let text := String.ofList (decimal code)
  if provider = "rkn" then
    errorResult (if code = 429 then "Лимит запросов Cheburcheck исчерпан"
      else "Cheburcheck недоступен (HTTP " ++ text ++ ")")
  else errorResult ("Ошибка HTTP " ++ text ++ ": проверьте доступность, ключ и квоту")

/-- The second half of `check_service`, from the end of `fetch`. -/
def fetchOutcome (provider ip : String) : Fetch → CheckOutcome
  | .response data =>
      .returned ((data.bind (parseResult ipaddress provider ip)).getD
        (errorResult "Некорректный ответ сервиса"))
  | .httpError code _ => .returned (httpErrorResult provider code)
  | .raised _ => .returned (errorResult "Некорректный ответ сервиса")
  | .cancelled => .escaped

/-- `check_service`, with a client that ends each request in some way. -/
def checkService (provider ip : String) (key : List CodePoint) (client : HttpRequest → Fetch) :
    CheckOutcome :=
  match serviceRequest provider ip key with
  | none => .raised
  | some request => fetchOutcome ipaddress provider ip (client request)

/-- The texts of exceptions are dropped. -/
theorem fetchOutcome_behaviour (provider ip : String) (fetch : Fetch) :
    fetchOutcome ipaddress provider ip fetch.behaviour =
      fetchOutcome ipaddress provider ip fetch := by
  cases fetch <;> rfl

end Parse

end PxManager.Reputation
