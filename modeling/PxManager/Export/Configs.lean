import PxManager.Core.Except
import PxManager.Export.Hosts

/-!
# PxManager.Export.Configs

The exports of `main.py` for Super Proxy, FoxyProxy and Shadowrocket.

`fingerprint` is `get_tls_fingerprint`, which asks the proxy for its certificate.
-/

namespace PxManager.Export

open PxManager.Core PxManager.Health

variable (py : Builtins)

/-- `'\n'.join(lines)`, and `', '.join(values)`. -/
def join (separator : String) (values : List Text) : Text :=
  List.intercalate separator.toList values

/-! ### Super Proxy -/

/-- `escape_super_proxy_title`. -/
def escapeSuperProxyTitle (title : Text) : Text :=
  let title := title.flatMap fun c => if c = '\\' then ['\\', '\\'] else [c]
  title.flatMap fun c => if c = '"' then ['\\', '"'] else [c]

/-- `default_marker`. -/
def defaultMarker (isDefault : Bool) : Text := if isDefault then [' ', '*'] else []

/-- `build_super_proxy_line`. -/
def buildSuperProxyLine (fingerprint : Json → ℤ → Except PyError Text) (hostData : HostData)
    (username password defaultPort : String) (isDefault : Bool) : Except PyError Text := do
  let host ← hostOf hostData
  let port := py.str (portOf hostData defaultPort)
  let title := py.str (titleOf hostData host)
  let portNumber ← py.int (.str (String.ofList port))
  let fingerprint ← fingerprint host portNumber
  let fingerprintQuery := "?fingerprint=".toList ++ quote fingerprint
  return "https://".toList ++ quote username.toList ++ ":".toList ++ quote password.toList ++
    "@".toList ++ py.str host ++ ":".toList ++ port ++ fingerprintQuery ++ " \"".toList ++
    escapeSuperProxyTitle title ++ "\"".toList ++ defaultMarker isDefault

/-- `build_super_proxy_config`. -/
def buildSuperProxyConfig (fingerprint : Json → ℤ → Except PyError Text)
    (hostsData : List HostObject) (username password defaultPort : String) :
    Except PyError Text := do
  let selectedHost := getSelectedHostData hostsData
  let lines ← hostsData.mapM fun item =>
    buildSuperProxyLine py fingerprint item.data username password defaultPort
      (selectedHost.any item.is)
  return join "\n" ("# superproxy:proxylist:v1".toList :: lines) ++ ['\n']

/-! ### FoxyProxy -/

/-- `pick_proxy_color`. -/
def pickProxyColor (index : Nat) : String :=
  let colors := ["#5f3efb", "#b9c6f6", "#eef209", "#3100f1", "#8b0000", "#198754", "#fd7e14",
    "#0dcaf0"]
  colors.getD (index % colors.length) ""

/-- A JSON string of a text. -/
def jsonText (text : Text) : Json := .str (String.ofList text)

theorem str_jsonText {py : Builtins} (text : Text) : py.str (jsonText text) = text :=
  String.toList_ofList

/-- `build_foxy_proxy_entry`. -/
def buildFoxyProxyEntry (hostData : HostData) (username password proxyType defaultPort : String)
    (color : String) : Except PyError (List (String × Json)) := do
  let host ← hostOf hostData
  let port := py.str (portOf hostData defaultPort)
  let title := titleOf hostData host
  let code := codeOf py hostData
  return [("active", .bool true), ("title", title), ("type", .str proxyType), ("hostname", host),
    ("port", jsonText port), ("username", .str username), ("password", .str password),
    ("cc", jsonText code), ("city", .str ""), ("color", .str color), ("pac", .str ""),
    ("pacString", .str ""), ("proxyDNS", .bool true), ("include", .arr []), ("exclude", .arr []),
    ("tabProxy", .arr [])]

/-- `f"{proxy['hostname']}:{proxy['port']}"`. -/
def hostPort (proxy : List (String × Json)) : Text :=
  py.str ((Json.get? proxy "hostname").getD .null) ++ ":".toList ++
    py.str ((Json.get? proxy "port").getD .null)

/-- `build_foxy_proxy_mode`. -/
def buildFoxyProxyMode (proxies : List (List (String × Json))) (hostsData : List HostObject)
    (selectedHost : Option HostObject) : Text :=
  match proxies with
  | [] => []
  | first :: _ =>
      let selectedProxy := (selectedHost.bind (indexIn hostsData)).bind fun index => proxies[index]?
      hostPort py (selectedProxy.getD first)

/-- `build_foxy_proxy_config`. -/
def buildFoxyProxyConfig (hostsData : List HostObject)
    (username password proxyType defaultPort : String) :
    Except PyError (List (String × Json)) := do
  let selectedHost := getSelectedHostData hostsData
  let proxies ← hostsData.zipIdx.mapM fun (item, index) =>
    buildFoxyProxyEntry py item.data username password proxyType defaultPort
      (pickProxyColor index)
  return [("mode", jsonText (buildFoxyProxyMode py proxies hostsData selectedHost)),
    ("sync", .bool false), ("autoBackup", .bool false), ("passthrough", .str ""),
    ("theme", .str ""), ("container", .obj []),
    ("commands", .obj [("setProxy", .str ""), ("setTabProxy", .str ""), ("includeHost", .str ""),
      ("excludeHost", .str "")]),
    ("data", .arr (proxies.map .obj))]

/-! ### Shadowrocket -/

/-- `[A-Za-z0-9_.-]`. -/
def isSafe (c : Char) : Bool := c.isAlphanum || c ∈ ['_', '.', '-']

/-- `re.sub(r"[^A-Za-z0-9_.-]+", "_", text)`, where the character before `text` was or was not
part of a match. -/
def replaceUnsafe : (inMatch : Bool) → Text → Text
  | _, [] => []
  | inMatch, c :: text =>
      if isSafe c then c :: replaceUnsafe false text
      else if inMatch then replaceUnsafe true text
      else '_' :: replaceUnsafe true text

/-- `text.strip("._-")`. -/
def stripPunctuation (text : Text) : Text :=
  let isPunctuation (c : Char) : Bool := c ∈ ['.', '_', '-']
  (text.dropWhile isPunctuation).rdropWhile isPunctuation

/-- `host_data.get("title") or host_data.get("code") or host_data["host"]`, where the host is
looked up only if there is neither a title nor a code. -/
def shadowrocketTitle (hostData : HostData) : Except PyError Json :=
  if (field hostData "title").truthy then .ok (field hostData "title")
  else if (field hostData "code").truthy then .ok (field hostData "code")
  else hostOf hostData

/-- `build_shadowrocket_proxy_name`. -/
def buildShadowrocketProxyName (hostData : HostData) (index : Nat) : Except PyError Text := do
  let title ← shadowrocketTitle hostData
  let safeTitle := stripPunctuation (replaceUnsafe false (py.str title))
  let safeTitle := if safeTitle = [] then "Proxy ".toList ++ decimal index else safeTitle
  return safeTitle ++ "_".toList ++ decimal index

/-- `escape_shadowrocket_value`. -/
def escapeShadowrocketValue (value : Text) : Text :=
  let value := value.flatMap fun c => if c = '\\' then ['\\', '\\'] else [c]
  value.flatMap fun c => if c = ',' then ['\\', ','] else [c]

/-- `build_shadowrocket_proxy_line`. -/
def buildShadowrocketProxyLine (hostData : HostData) (name : Text)
    (username password proxyType defaultPort : String) : Except PyError Text := do
  let host ← hostOf hostData
  let port := py.str (portOf hostData defaultPort)
  return name ++ " = ".toList ++ proxyType.toList ++ ", ".toList ++ py.str host ++ ", ".toList ++
    port ++ ", username=".toList ++ escapeShadowrocketValue username.toList ++
    ", password=".toList ++ escapeShadowrocketValue password.toList

/-- The lines before the proxies. -/
def shadowrocketHeader : List Text :=
  ["[General]".toList, "bypass-system = true".toList,
    "skip-proxy = 192.168.0.0/16, 10.0.0.0/8, 172.16.0.0/12, localhost, *.local".toList,
    [], "[Proxy]".toList]

/-- The line of the proxy group. -/
def shadowrocketGroup (names : List Text) : Text :=
  "PROXY = select, ".toList ++ join ", " names ++ ", DIRECT".toList

/-- `build_shadowrocket_config`. -/
def buildShadowrocketConfig (hostsData : List HostObject)
    (username password proxyType defaultPort : String) : Except PyError Text := do
  let selectedHost := getSelectedHostData hostsData
  let proxyNames ← (hostsData.zipIdx 1).mapM fun (item, index) =>
    buildShadowrocketProxyName py item.data index
  let orderedProxyNames := orderSelectedFirst hostsData proxyNames selectedHost
  let lines ← (hostsData.zip proxyNames).mapM fun (item, name) =>
    buildShadowrocketProxyLine py item.data name username password proxyType defaultPort
  return join "\n" (shadowrocketHeader ++ lines ++
    [[], "[Proxy Group]".toList, shadowrocketGroup orderedProxyNames, [], "[Rule]".toList,
      "FINAL,PROXY".toList, []])

end PxManager.Export
