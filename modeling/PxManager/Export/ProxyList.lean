import PxManager.Core.Lines
import PxManager.Core.UrlEncode
import PxManager.Export.Configs
import PxManager.Login.Retpath

/-!
# PxManager.Export.ProxyList

The proxy list of `main.py`, and the downloads that depend on query parameters.

`lower` is `str.lower`. The `port` parameter is the port of all entries that have none; it may have
line breaks in it.
-/

namespace PxManager.Export

open PxManager.Core PxManager.Health PxManager.Login

variable (py : Builtins)

/-- `params` of `build_proxy_list_line`. -/
def proxyListParams (hostData : HostData) (host : Json) : List (Text × Text) :=
  let title := titleOf hostData host
  let code := field hostData "code"
  let params := [("title".toList, py.str title), ("patternIncludesAll".toList, "false".toList),
    ("patternExcludesIntranet".toList, "false".toList)]
  if code.truthy then params ++ [("cc".toList, py.str code)] else params

/-- `build_proxy_list_line`. -/
def buildProxyListLine (hostData : HostData) (username password proxyType defaultPort : String) :
    Except PyError Text := do
  let host ← hostOf hostData
  let port := py.str (portOf hostData defaultPort)
  return proxyType.toList ++ "://".toList ++ quote username.toList ++ ":".toList ++
    quote password.toList ++ "@".toList ++ py.str host ++ ":".toList ++ port ++ "?".toList ++
    urlencode (proxyListParams py hostData host)

theorem buildProxyListLine_of_host {hostData : HostData} {host : Json}
    (hhost : hostOf hostData = .ok host) (username password proxyType defaultPort : String) :
    buildProxyListLine py hostData username password proxyType defaultPort =
      .ok (proxyType.toList ++ "://".toList ++ quote username.toList ++ ":".toList ++
        quote password.toList ++ "@".toList ++ py.str host ++ ":".toList ++
        py.str (portOf hostData defaultPort) ++ "?".toList ++
        urlencode (proxyListParams py hostData host)) := by
  rw [buildProxyListLine, hhost]
  rfl

/-! ### Downloads -/

/-- A file that is sent. -/
structure Download where
  filename : Text
  body : Text

/-- The file names begin with the user's name. -/
def buildFilename (suffix : String) (username : String) : Text :=
  let safeUsername := stripPunctuation (replaceUnsafe false username.toList)
  (if safeUsername = [] then "user".toList else safeUsername) ++ suffix.toList

/-- `build_proxy_list_filename`. -/
def buildProxyListFilename (username : String) : Text := buildFilename "-proxy-list.txt" username

/-- `build_shadowrocket_filename`. -/
def buildShadowrocketFilename (username : String) : Text :=
  buildFilename "-shadowrocket.conf" username

/-- The query arguments of a request: all values of each name, decoded. Where one of them is not
UTF-8, no file is sent but an error page with status 400. -/
structure GenerateRequest where
  type : List Text
  port : List Text

/-- The type that is asked for. -/
def GenerateRequest.proxyType (request : GenerateRequest) (lower : Text → Text) : Text :=
  lower (getArgument request.type "https".toList)

/-- The port of the entries that have none. -/
def GenerateRequest.defaultPort (request : GenerateRequest) : Text :=
  getArgument request.port "443".toList

/-- The types of `ProxyListGenerateHandler`. -/
def proxyListTypes : List Text :=
  ["http", "https", "ssl", "socks", "socks4", "socks5"].map String.toList

/-- The types of `ShadowrocketGenerateHandler`. -/
def shadowrocketTypes : List Text := ["http", "https", "socks5"].map String.toList

variable (lower : Text → Text) (hostsData : List HostObject) (username password : String)

/-- `ProxyListGenerateHandler.get`. `none` is status 400, `unsupported proxy type`. -/
def ProxyListGenerateHandler.get (request : GenerateRequest) :
    Except PyError (Option Download) := do
  let proxyType := request.proxyType lower
  let defaultPort := request.defaultPort
  if proxyType ∉ proxyListTypes then return none
  else do
    let lines ← hostsData.mapM fun item =>
      buildProxyListLine py item.data username password (String.ofList proxyType)
        (String.ofList defaultPort)
    return some ⟨buildProxyListFilename username, join "\n" lines ++ ['\n']⟩

theorem ProxyListGenerateHandler.get_of_lines {request : GenerateRequest} {lines : List Text}
    (htype : request.proxyType lower ∈ proxyListTypes)
    (hlines : hostsData.mapM (fun item =>
      buildProxyListLine py item.data username password (String.ofList (request.proxyType lower))
        (String.ofList request.defaultPort)) = .ok lines) :
    ProxyListGenerateHandler.get py lower hostsData username password request =
      .ok (some ⟨buildProxyListFilename username, join "\n" lines ++ ['\n']⟩) := by
  unfold ProxyListGenerateHandler.get
  dsimp only
  rw [if_neg (not_not.mpr htype)]
  exact bind_eq_ok_iff.mpr ⟨lines, hlines, rfl⟩

/-- `ShadowrocketGenerateHandler.get`. `none` is status 400, `unsupported proxy type`. -/
def ShadowrocketGenerateHandler.get (request : GenerateRequest) :
    Except PyError (Option Download) := do
  let proxyType := request.proxyType lower
  let defaultPort := request.defaultPort
  if proxyType ∉ shadowrocketTypes then return none
  else do
    let config ← buildShadowrocketConfig py hostsData username password (String.ofList proxyType)
      (String.ofList defaultPort)
    return some ⟨buildShadowrocketFilename username, config⟩

end PxManager.Export
