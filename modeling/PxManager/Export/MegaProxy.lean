import PxManager.Core.Bytes
import PxManager.Core.Hex
import PxManager.Export.Configs

/-!
# PxManager.Export.MegaProxy

`build_mega_proxy_config` of `main.py`, which writes a version 8 document of MegaProxy.

SHA-256 is a parameter. Of it only the length of its digests is used, and where a result needs
more it says on which keys the digests are distinct.
-/

namespace PxManager.Export

open PxManager.Core PxManager.Health

/-- `hashlib.sha256(data).digest()`. -/
structure Sha256 where
  digest : Bytes → Bytes
  length_digest : ∀ data, (digest data).length = 32

variable (py : Builtins) (sha256 : Sha256)

/-- `re.fullmatch(r"[A-Z]{2}", code)`. -/
def isCountryCode : Text → Bool
  | [a, b] => a.isUpper && b.isUpper
  | _ => false

/-- `stable_key`, given the title. -/
def stableKey (hostData : HostData) (title : Text) : Text :=
  py.str ((field hostData "profile_id").or (jsonText title))

/-- `profile_key`, given the stable key. -/
def profileKey (key : Text) : Bytes := encodeUtf8 ("https\x00".toList ++ key)

/-- `profile_id`, given the stable key. -/
def profileId (key : Text) : Text :=
  "px-manager-".toList ++ hexLower (sha256.digest (profileKey key))

/-- `build_mega_proxy_profile`. -/
def buildMegaProxyProfile (hostData : HostData) (username password defaultPort : String)
    (color : Nat) : Except PyError (List (String × Json)) := do
  let host ← hostOf hostData
  let port ← py.int (portOf hostData defaultPort)
  let title := py.str (titleOf hostData host)
  let code := codeOf py hostData
  let key := stableKey py hostData title
  return [("id", jsonText (profileId sha256 key)), ("name", jsonText title), ("color", .int color),
    ("countryCode", jsonText (if isCountryCode code then code else [])),
    ("proxy", .obj [("type", .str "HTTPS"), ("host", jsonText (py.str host)), ("port", .int port),
      ("username", .str username), ("password", .str password),
      ("allowInvalidProxyCertificate", .bool false)]),
    ("browser", .obj [("knockHost", .str
      (if (field hostData "probe_resistance_enabled").truthy then "px-knock.jethelix.ru"
        else ""))])]

/-- `profile["id"]`. -/
def idOf (profile : List (String × Json)) : Option String :=
  (Json.get? profile "id").bind Json.asStr?

/-- The dictionary of the members of a JSON object. -/
def dictOf (members : List (String × Json)) : Dict String Json :=
  members.foldl (fun d m => d.set m.1 m.2) ∅

/-- The member `subscription` of the document: `{**subscription, "username": …, "password": …}`,
or none. -/
def subscriptionMember (subscription : Json) (username password : String) :
    Except PyError (List (String × Json)) :=
  if subscription.truthy then
    match subscription with
    | .obj members =>
        let merged := ((dictOf members).set "username" (.str username)).set "password"
          (.str password)
        .ok [("subscription", .obj merged.entries)]
    | _ => .error .typeError
  else .ok []

/-- `build_mega_proxy_config`. -/
def buildMegaProxyConfig (hostsData : List HostObject) (username password defaultPort : String)
    (subscription : Json) : Except PyError (List (String × Json)) := do
  let profiles ← hostsData.zipIdx.mapM fun (item, index) =>
    buildMegaProxyProfile py sha256 item.data username password defaultPort index
  let profileIds := profiles.map idOf
  if ¬ profileIds.Nodup then
    throw (.valueError (some
      "MegaProxy profile IDs must be unique; set unique profile_id values in hosts.json"))
  let selectedIndex := ((getSelectedHostData hostsData).bind (indexIn hostsData)).getD 0
  let activeProfileId := (profiles[selectedIndex]?.bind fun profile => Json.get? profile "id")
  let subscription ← subscriptionMember subscription username password
  return [("schema", .str "net.megaproxy487.config"), ("version", .int 8),
    ("passwordsIncluded", .bool true), ("privateKeysIncluded", .bool false),
    ("activeProfileId", activeProfileId.getD .null), ("alwaysOnProfileId", .null),
    ("diagnosticLogLimitMb", .int 3),
    ("tls", .obj [("fingerprint", .str "DEFAULT"), ("customJa3", .str "")]),
    ("ssh", .obj [("fingerprint", .str "DEFAULT"), ("authMode", .str "AUTO"),
      ("keepaliveSeconds", .int 30), ("maxChannels", .int 32), ("rotationMinutes", .int 0),
      ("rotationMb", .int 0)]),
    ("failover", .obj [("mode", .str "DISABLED"), ("profileIds", .arr [])]),
    ("routing", .obj [("routeAllApps", .bool true), ("selectedPackages", .arr []),
      ("bypassLocalNetworks", .bool true)]),
    ("profiles", .arr (profiles.map .obj))] ++ subscription

/-! ### Samples -/

/-- SHA-256 of the keys `https\0old.example` and `https\0new.example`. -/
def sampleSha256 : Sha256 where
  digest data :=
    if data = profileKey "old.example".toList then
      [252, 12, 3, 191, 101, 47, 118, 237, 44, 225, 255, 186, 38, 85, 22, 227, 69, 46, 216, 85,
       23, 17, 45, 232, 177, 105, 103, 21, 196, 133, 169, 87]
    else
      [228, 131, 5, 172, 38, 175, 32, 180, 65, 76, 188, 95, 33, 32, 96, 20, 32, 156, 198, 224,
       142, 175, 182, 20, 126, 128, 9, 57, 153, 50, 250, 45]
  length_digest data := by split <;> rfl

/-! ### What the builders return -/

variable {py sha256}

/-- A profile, written out. -/
theorem buildMegaProxyProfile_eq_ok {hostData : HostData} {username password defaultPort : String}
    {color : Nat} {profile : List (String × Json)}
    (h : buildMegaProxyProfile py sha256 hostData username password defaultPort color =
      .ok profile) :
    ∃ host port, hostOf hostData = .ok host ∧ py.int (portOf hostData defaultPort) = .ok port ∧
      Json.get? profile "id" = some (jsonText (profileId sha256
        (stableKey py hostData (py.str (titleOf hostData host))))) := by
  obtain ⟨host, hhost, h⟩ := bind_eq_ok h
  obtain ⟨port, hport, h⟩ := bind_eq_ok h
  cases h
  exact ⟨host, port, hhost, hport, rfl⟩

/-- A document, as far as it depends on the profiles. -/
theorem buildMegaProxyConfig_eq_ok {hostsData : List HostObject}
    {username password defaultPort : String} {subscription : Json}
    {document : List (String × Json)}
    (h : buildMegaProxyConfig py sha256 hostsData username password defaultPort subscription =
      .ok document) :
    ∃ profiles : List (List (String × Json)),
      (hostsData.zipIdx.mapM fun (item, index) =>
        buildMegaProxyProfile py sha256 item.data username password defaultPort index) =
          .ok profiles ∧
      (profiles.map idOf).Nodup ∧
      Json.get? document "profiles" = some (.arr (profiles.map .obj)) ∧
      Json.get? document "activeProfileId" = some
        ((profiles[((getSelectedHostData hostsData).bind (indexIn hostsData)).getD 0]?.bind
          fun profile => Json.get? profile "id").getD .null) := by
  obtain ⟨profiles, hprofiles, h⟩ := bind_eq_ok h
  obtain ⟨hnodup, h⟩ := of_guard_eq_ok h
  obtain ⟨member, hmember, h⟩ := bind_eq_ok h
  cases h
  have hnone : ∀ key, key ≠ "subscription" → Json.get? member key = none := by
    intro key hkey
    unfold subscriptionMember at hmember
    split at hmember
    · split at hmember
      · cases hmember
        simp [Json.get?, hkey.symm]
      · cases hmember
    · cases hmember
      rfl
  refine ⟨profiles, hprofiles, not_not.mp hnodup, ?_, ?_⟩
  · rw [Json.get?_append, hnone _ (by decide)]
    rfl
  · rw [Json.get?_append, hnone _ (by decide)]
    rfl

end PxManager.Export
