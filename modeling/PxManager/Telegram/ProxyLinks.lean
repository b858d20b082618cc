import PxManager.Core.Except
import PxManager.Core.Lines
import PxManager.Core.UrlQuery
import PxManager.Core.Utf8
import PxManager.Health.Hosts
import PxManager.Login.Retpath
import PxManager.Mtg.Secret

/-!
# PxManager.Telegram.ProxyLinks

The Telegram proxies of `tg-proxies.txt`: one `tg://` link a line, of which the parser makes a
health row.

Python's `int` reads the port and `get_mtproxy_secret_bytes` the secret. Both take more than a link
may hold: `int` a sign, underscores and digits outside ASCII, and the secret any number of bytes.
-/

namespace PxManager.Telegram

open PxManager.Core PxManager.Login PxManager.Health PxManager.Mtg

/-! ### Links -/

/-- The `query` of `urlparse(url)`. -/
def urlQuery (url : Text) : Text :=
  let url := url.dropWhile fun c => c.toNat ≤ 0x20
  let url := url.filter fun c => c ∉ ['\t', '\r', '\n']
  let (_, url) := splitScheme url
  let url := if ['/', '/'] <+: url then (url.drop 2).dropWhile (· ∉ ['/', '?', '#']) else url
  let url := url.takeWhile (· ≠ '#')
  (url.dropWhile (· ≠ '?')).drop 1

/-- `get_single_query_value`. -/
def getSingleQueryValue (query : List (Text × Text)) (name : String) : Text :=
  match queryValues query name.toList with
  | value :: _ => strip value
  | [] => []

/-- `is_valid_tg_proxy_host`. -/
def isValidTgProxyHost (host : Text) : Bool :=
  if host.any isSpace then false
  else if '/' ∈ host ∨ ':' ∈ host then false
  else !host.isEmpty && host.all fun c => c.isAlphanum || c ∈ ['.', '-']

/-- The two kinds of links. -/
inductive ProxyKind
  | mtproxy
  | socks5
  deriving DecidableEq, Repr

/-- A health row that a link makes. -/
structure TgProxyHost where
  host : Text
  port : ℤ
  title : Text
  proxyKind : ProxyKind
  username : Text
  password : Text
  secret : Text
  secretMode : Option SecretMode
  healthChecks : List String
  deriving DecidableEq

/-- `TG_HEALTH_CHECKS`. -/
def tgHealthChecks : List String := ["dns", "ping", "connect"]

/-- `TG_HEALTH_REQUEST_CHECKS`. -/
def tgHealthRequestChecks : List String := ["dns", "ping", "connect", "head"]

/-- `get_health_checks_for_host`. -/
def getHealthChecksForHost (isIpAddress : Text → Bool) (host : Text) (checks : List String) :
    List String :=
  if isIpAddress host then checks.filter (· ≠ "dns") else checks

/-- The error of a line. -/
def lineError (lineNumber : Nat) (text : String) : PyError :=
  .valueError (some ("Строка " ++ String.ofList (decimal lineNumber) ++ ": " ++ text))

/-- `mtproxy_secret_mode`, of a link of either kind. -/
def mtproxySecretMode (lineNumber : Nat) (proxyKind : ProxyKind) (secret : Text) :
    Except PyError (Option SecretMode) :=
  match proxyKind with
  | .mtproxy =>
      match getMtproxySecretMode secret with
      | some mode => .ok (some mode)
      | none => .error (lineError lineNumber "некорректный secret.")
  | .socks5 => .ok none

section Parse

variable (py : Builtins) (checkNetloc : Text → Bool) (isIpAddress : Text → Bool)

/-- The row of a link whose parameters are in order. -/
def tgProxyHost (query : List (Text × Text)) (proxyKind : ProxyKind) (port : ℤ)
    (secretMode : Option SecretMode) : TgProxyHost :=
  let host := getSingleQueryValue query "server"
  let healthChecks :=
    if proxyKind = .mtproxy ∧ isIpAddress host = true ∧ secretMode ≠ some .tlsDomain then
      tgHealthChecks
    else tgHealthRequestChecks
  { host := host
    port := port
    title := "Telegram ".toList ++ host
    proxyKind := proxyKind
    username := if proxyKind = .socks5 then getSingleQueryValue query "user" else []
    password := if proxyKind = .socks5 then getSingleQueryValue query "pass" else []
    secret := getSingleQueryValue query "secret"
    secretMode := secretMode
    healthChecks := getHealthChecksForHost isIpAddress host healthChecks }

/-- `parse_tg_proxy_health_host`, from the parameters on. -/
def parseParameters (lineNumber : Nat) (proxyKind : ProxyKind) (query : List (Text × Text)) :
    Except PyError TgProxyHost := do
  let host := getSingleQueryValue query "server"
  if host = [] then
    throw (lineError lineNumber "не указан параметр server.")
  if isValidTgProxyHost host = false then
    throw (lineError lineNumber "некорректный server.")
  let portValue := getSingleQueryValue query "port"
  if portValue = [] then
    throw (lineError lineNumber "не указан параметр port.")
  let some port := py.parseInt portValue
    | throw (lineError lineNumber "port должен быть числом.")
  if port < 1 ∨ 65535 < port then
    throw (lineError lineNumber "port должен быть от 1 до 65535.")
  let secret := getSingleQueryValue query "secret"
  if proxyKind = .mtproxy ∧ secret = [] then
    throw (lineError lineNumber "не указан параметр secret.")
  let secretMode ← mtproxySecretMode lineNumber proxyKind secret
  return tgProxyHost isIpAddress query proxyKind port secretMode

/-- `parse_tg_proxy_health_host`. -/
def parseTgProxyHealthHost (line : Text) (lineNumber : Nat) : Except PyError TgProxyHost :=
  match urlsplit checkNetloc line with
  | none => .error (.valueError none)
  | some (scheme, netloc) =>
      if scheme ≠ "tg".toList then .error (lineError lineNumber "ожидается tg:// URL.")
      else if netloc = "proxy".toList then
        parseParameters py isIpAddress lineNumber .mtproxy (parseQsl (urlQuery line))
      else if netloc = "socks".toList then
        parseParameters py isIpAddress lineNumber .socks5 (parseQsl (urlQuery line))
      else .error (lineError lineNumber "поддерживаются tg://proxy и tg://socks.")

variable {py checkNetloc isIpAddress}

/-- A `tg://` link to a network location. -/
def IsTgLink (checkNetloc : Text → Bool) (location : String) (line : Text) : Prop :=
  urlsplit checkNetloc line = some ("tg".toList, location.toList)

/-- What the parser has checked of a row. -/
structure Checked (py : Builtins) (proxyKind : ProxyKind) (query : List (Text × Text))
    (hostData : TgProxyHost) : Prop where
  kind : hostData.proxyKind = proxyKind
  host : hostData.host = getSingleQueryValue query "server"
  valid : isValidTgProxyHost hostData.host = true
  parsed : py.parseInt (getSingleQueryValue query "port") = some hostData.port
  range : 1 ≤ hostData.port ∧ hostData.port ≤ 65535
  secret : hostData.secret = getSingleQueryValue query "secret"
  decoded : proxyKind = .mtproxy →
    ∃ secretBytes, getMtproxySecretBytes hostData.secret = some secretBytes

theorem checked_of_parseParameters {lineNumber : Nat} {proxyKind : ProxyKind}
    {query : List (Text × Text)} {hostData : TgProxyHost}
    (h : parseParameters py isIpAddress lineNumber proxyKind query = .ok hostData) :
    Checked py proxyKind query hostData := by
  unfold parseParameters at h
  obtain ⟨-, h⟩ := of_guard_eq_ok h
  obtain ⟨hhost, h⟩ := of_guard_eq_ok h
  obtain ⟨-, h⟩ := of_guard_eq_ok h
  dsimp only at h
  split at h
  · next port hport =>
      obtain ⟨hrange, h⟩ := of_guard_eq_ok h
      obtain ⟨-, h⟩ := of_guard_eq_ok h
      obtain ⟨mode, hmode, h⟩ := bind_eq_ok h
      cases h
      refine
        { kind := rfl
          host := rfl
          valid := eq_true_of_ne_false hhost
          parsed := hport
          range := ⟨Int.not_lt.mp (not_or.mp hrange).1, Int.not_lt.mp (not_or.mp hrange).2⟩
          secret := rfl
          decoded := ?_ }
      intro hkind
      rw [hkind, mtproxySecretMode] at hmode
      split at hmode
      · next mode' hmode' =>
          obtain ⟨secretBytes, hbytes, -⟩ := Option.map_eq_some_iff.mp hmode'
          exact ⟨secretBytes, hbytes⟩
      · cases hmode
  · cases h

theorem checked_of_parse {line : Text} {lineNumber : Nat} {hostData : TgProxyHost}
    (h : parseTgProxyHealthHost py checkNetloc isIpAddress line lineNumber = .ok hostData) :
    (IsTgLink checkNetloc "proxy" line ∧
        Checked py .mtproxy (parseQsl (urlQuery line)) hostData) ∨
      (IsTgLink checkNetloc "socks" line ∧
        Checked py .socks5 (parseQsl (urlQuery line)) hostData) := by
  unfold parseTgProxyHealthHost at h
  unfold IsTgLink
  split at h
  · cases h
  · next scheme netloc hsplit =>
      split at h
      · cases h
      · next hscheme =>
          rw [hsplit, not_not.mp hscheme]
          split at h
          · next hnetloc => exact .inl ⟨by rw [hnetloc], checked_of_parseParameters h⟩
          · split at h
            · next hnetloc => exact .inr ⟨by rw [hnetloc], checked_of_parseParameters h⟩
            · cases h

end Parse

end PxManager.Telegram
