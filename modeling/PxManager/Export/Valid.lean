import PxManager.Export.ProfileIds
import PxManager.Export.Schema

/-!
# PxManager.Export.Valid

Every document of `build_mega_proxy_config` is valid.

Most of a document is fixed or copied from entries that keep the limits of the schema. What the
code makes itself are the ids, the country codes and the member `subscription`. As everywhere, the
texts are of Unicode scalar values: `encode` in `profile_key` would reject a lone surrogate.
-/

namespace PxManager.Export

open PxManager.Core PxManager.Health

/-! ### What an entry must keep -/

/-- The text of an integer, or the integer itself, within the limits of a port. -/
def IsPort (port : Json) : Prop :=
  Schema.port.valid port = true ∨
    ∃ n : ℤ, port = jsonText (decimal n) ∧ Schema.port.valid (.int n) = true

/-- The fields of an entry keep the limits of the schema. -/
structure KeepsLimits (py : Builtins) (hostData : HostData) : Prop where
  host : ∃ host, hostData.get? "host" = some host ∧
    Schema.host.valid (jsonText (py.str host)) = true
  port : ∀ port, hostData.get? "port" = some port → IsPort port
  title : Schema.name.valid
    (jsonText (py.str (titleOf hostData (field hostData "host")))) = true

/-- The arguments of an export, next to the entries, keep the limits of the schema. -/
structure ArgumentsKeepLimits (username password defaultPort : String) (subscription : Json) :
    Prop where
  user : Schema.username.valid (.str username) = true
  secret : Schema.password.valid (.str password) = true
  fallback : ∃ n : ℤ, defaultPort = String.ofList (decimal n) ∧
    Schema.port.valid (.int n) = true
  source : Schema.subscription.valid subscription = true
  /-- The subscription repeats the user name, with a limit of its own. -/
  sourceUser : subscription ≠ .null → Schema.subscriptionLogin.valid (.str username) = true
  sourceSecret : subscription ≠ .null → Schema.subscriptionLogin.valid (.str password) = true

variable {py : Builtins} {sha256 : Sha256}

/-! ### Profiles -/

theorem valid_integerIn_iff {low high : ℤ} {n : ℤ} :
    (Schema.integerIn low high).valid (.int n) = true ↔ low ≤ n ∧ n ≤ high := by
  simp [Schema.integerIn, Schema.valid, Schema.validAll, JsonType.holds, Json.schemaNumber?,
    Json.number?]

/-- `int` of a port returns a port. -/
theorem int_of_isPort {port : Json} (h : IsPort port) :
    ∃ n, py.int port = .ok n ∧ Schema.port.valid (.int n) = true := by
  rcases h with hvalid | ⟨n, rfl, hvalid⟩
  · cases port with
    | int n => exact ⟨n, rfl, hvalid⟩
    | float x =>
        cases x with
        | finite q =>
            -- a float that is an integer
            simp only [Schema.port, Schema.integerIn, Schema.valid, Schema.validAll,
              JsonType.holds, Json.schemaNumber?, Json.number?, Bool.and_eq_true,
              decide_eq_true_eq, and_true] at hvalid
            obtain ⟨hden, hlow, hhigh⟩ := hvalid
            obtain ⟨n, rfl⟩ : ∃ n : ℤ, q = n := ⟨q.num, (Rat.den_eq_one_iff q).mp hden |>.symm⟩
            refine ⟨n, ?_, valid_integerIn_iff.mpr ⟨by exact_mod_cast hlow, by exact_mod_cast hhigh⟩⟩
            have hpos : (0 : ℚ) ≤ n := le_trans (by norm_num) hlow
            simp [Builtins.int, hpos]
        | _ => cases hvalid
    | _ => cases hvalid
  · refine ⟨n, ?_, hvalid⟩
    obtain ⟨hlow, hhigh⟩ := valid_integerIn_iff.mp hvalid
    have hshort : n.natAbs < 10 ^ maxStrDigits := by
      have hsmall : n.natAbs < 10 ^ 5 := by omega
      exact hsmall.trans_le (Nat.pow_le_pow_right (by decide) (by decide))
    simp [jsonText, Builtins.int, parseInt_decimal py hshort]

theorem valid_jsonText_iff {n : Nat} {more : List Schema} {text : Text} :
    (Schema.textUpTo n more).valid (jsonText text) = true ↔
      text.length ≤ n ∧ Schema.validAll more (jsonText text) = true := by
  simp [Schema.textUpTo, Schema.valid, Schema.validAll, JsonType.holds, jsonText]

theorem length_profileId (key : Text) : (profileId sha256 key).length = 75 := by
  have htag : "px-manager-".toList.length = 11 := rfl
  have hhex : (hexLower (sha256.digest (profileKey key))).length = 64 := by
    rw [hexLower, length_hexText, sha256.length_digest]
  unfold profileId
  rw [List.length_append, htag, hhex]

/-- Every id is valid. -/
theorem valid_profileId (key : Text) :
    Schema.profileId.valid (jsonText (profileId sha256 key)) = true := by
  rw [Schema.profileId, valid_jsonText_iff, length_profileId]
  simp only [Schema.validAll, Schema.valid, jsonText, String.toList_ofList, length_profileId]
  decide

/-- `countryCode` of an entry. -/
theorem valid_countryCode (code : Text) :
    (Schema.textUpTo 2 [.pattern (anchored isOptionalCountryCode)]).valid
      (jsonText (if isCountryCode code then code else [])) = true := by
  rw [valid_jsonText_iff]
  split
  · next hcode =>
      unfold isCountryCode at hcode
      split at hcode
      · next a b =>
          simp [Schema.validAll, Schema.valid, jsonText, anchored, isOptionalCountryCode] at hcode ⊢
          simp [hcode]
      · cases hcode
  · simp [Schema.validAll, Schema.valid, jsonText, anchored, isOptionalCountryCode]

/-- `proxy` of a profile. -/
theorem valid_proxy {host : Text} {port : ℤ} {username password : String}
    (hhost : Schema.host.valid (jsonText host) = true)
    (hport : Schema.port.valid (.int port) = true)
    (husername : Schema.username.valid (.str username) = true)
    (hpassword : Schema.password.valid (.str password) = true) :
    Schema.proxy.valid (.obj [("type", .str "HTTPS"), ("host", jsonText host),
      ("port", .int port), ("username", .str username), ("password", .str password),
      ("allowInvalidProxyCertificate", .bool false)]) = true := by
  rw [Schema.proxy, Schema.valid, Schema.validAll, Schema.validAll, Schema.validAll,
    Bool.and_eq_true, Bool.and_true, Schema.valid_object_iff]
  refine ⟨⟨?_, by simp [Json.get?]⟩, rfl⟩
  simp only [Schema.validProperties, Json.get?]
  simp [hhost, hport, husername, hpassword]
  decide

/-- `browser` of a profile. -/
theorem valid_browser (masked : Bool) :
    Schema.browserProfile.valid (.obj [("knockHost", .str
      (if masked then "px-knock.jethelix.ru" else ""))]) = true := by
  cases masked <;> decide +kernel

/-- A profile of a valid document. -/
structure ValidProfile (py : Builtins) (sha256 : Sha256) (hostData : HostData) (color : Nat)
    (profile : List (String × Json)) : Prop where
  valid : Schema.profile.valid (.obj profile) = true
  id : Json.get? profile "id" = some (jsonText (profileId sha256 (entryKey py hostData)))
  position : Json.get? profile "color" = some (.int color)
  country : ∃ code, Json.get? profile "countryCode" = some (jsonText code) ∧
    (code = [] ∨ isCountryCode code = true)

theorem ValidProfile.idOf_eq {hostData : HostData} {color : Nat} {profile : List (String × Json)}
    (h : ValidProfile py sha256 hostData color profile) :
    idOf profile = some (String.ofList (profileId sha256 (entryKey py hostData))) := by
  rw [idOf, h.id]
  rfl

/-- The profile of an entry that keeps the limits. -/
theorem buildMegaProxyProfile_of_keepsLimits {hostData : HostData}
    {username password defaultPort : String} {subscription : Json}
    (hentry : KeepsLimits py hostData)
    (hargs : ArgumentsKeepLimits username password defaultPort subscription) {color : Nat}
    (hcolor : color < 1000) :
    ∃ profile, buildMegaProxyProfile py sha256 hostData username password defaultPort color =
        .ok profile ∧
      ValidProfile py sha256 hostData color profile := by
  obtain ⟨host, hhost, hhostValid⟩ := hentry.host
  have hfield : field hostData "host" = host := by
    rw [field, hhost]
    rfl
  obtain ⟨n, hn, hnValid⟩ : ∃ n, py.int (portOf hostData defaultPort) = .ok n ∧
      Schema.port.valid (.int n) = true := by
    refine int_of_isPort ?_
    unfold portOf
    cases hport : hostData.get? "port" with
    | none =>
        obtain ⟨n, rfl, hvalid⟩ := hargs.fallback
        exact .inr ⟨n, rfl, hvalid⟩
    | some port => exact hentry.port port hport
  have hhostOf : hostOf hostData = .ok host := by
    rw [hostOf, hhost]
  rw [buildMegaProxyProfile, hhostOf, hn]
  refine ⟨_, rfl, ⟨?_, ?_, rfl, ?_⟩⟩
  · have hproxy := valid_proxy hhostValid hnValid hargs.user hargs.secret
    have hbrowser := valid_browser (field hostData "probe_resistance_enabled").truthy
    have hcolorValid : (Schema.integerIn 0 2147483647).valid (.int color) = true :=
      valid_integerIn_iff.mpr ⟨by omega, by omega⟩
    have htitle := hentry.title
    rw [hfield] at htitle
    rw [Schema.profile, Schema.valid_object_iff]
    refine ⟨?_, by simp [Json.get?]⟩
    simp only [Schema.validProperties, Json.get?]
    simp [valid_profileId, htitle, hcolorValid, valid_countryCode, hproxy, hbrowser]
  · rw [entryKey, hfield]
    rfl
  · refine ⟨_, rfl, ?_⟩
    split
    · next hcode => exact .inr hcode
    · exact .inl rfl

/-! ### The subscription -/

theorem get?_dictOf (members : List (String × Json)) (key : String) :
    (dictOf members).get? key = Json.get? members key := by
  unfold dictOf Json.get?
  induction members using List.reverseRecOn with
  | nil => rfl
  | append_singleton members m ih =>
      rw [List.foldl_append, List.foldl_cons, List.foldl_nil, Dict.get?_set, ih,
        List.reverse_append, List.reverse_singleton, List.singleton_append, List.find?_cons]
      by_cases h : m.1 = key
      · simp [h]
      · simp [h, Ne.symm h]

/-- The members of a dictionary, as an object. -/
theorem get?_entries (d : Dict String Json) (key : String) :
    Json.get? d.entries key = d.get? key := by
  have hnodup : (d.entries.reverse.map Prod.fst).Nodup := by
    rw [List.map_reverse, List.nodup_reverse]
    exact d.nodup
  -- an object looks for the last member of a key, and here there is only one
  refine Option.ext ?_
  intro value
  rw [show Json.get? d.entries key = Dict.get? ⟨d.entries.reverse, hnodup⟩ key from rfl,
    ← Dict.mem_entries_iff, ← Dict.mem_entries_iff, List.mem_reverse]

/-- A valid subscription stays valid with another login. -/
theorem valid_mergedSubscription {members : List (String × Json)} {username password : String}
    (hvalid : Schema.configSubscription.valid (.obj members) = true)
    (husername : Schema.subscriptionLogin.valid (.str username) = true)
    (hpassword : Schema.subscriptionLogin.valid (.str password) = true) :
    Schema.configSubscription.valid (.obj (((dictOf members).set "username"
      (.str username)).set "password" (.str password)).entries) = true := by
  rw [Schema.configSubscription, Schema.valid_object_iff] at hvalid ⊢
  obtain ⟨hproperties, hrequired⟩ := hvalid
  simp only [Schema.validProperties, Bool.and_eq_true] at hproperties
  obtain ⟨hurl, -, -, hrest⟩ := hproperties
  constructor
  · simp [Schema.validProperties, get?_entries, Dict.get?_set, get?_dictOf, husername, hpassword]
    exact ⟨hurl, by simpa using hrest⟩
  · simpa [get?_entries, Dict.get?_set, get?_dictOf] using hrequired

/-- `subscription` of a document. -/
theorem subscriptionMember_of_valid {username password defaultPort : String} {subscription : Json}
    (hargs : ArgumentsKeepLimits username password defaultPort subscription) :
    ∃ member, subscriptionMember subscription username password = .ok member ∧
      (member = [] ∨ ∃ merged, member = [("subscription", merged)] ∧
        Schema.subscription.valid merged = true) := by
  have hvalid := hargs.source
  rw [Schema.subscription, Schema.valid, Schema.validAny_iff] at hvalid
  obtain ⟨schema, hmem, hvalid⟩ := hvalid
  cases subscription with
  | null => exact ⟨[], rfl, .inl rfl⟩
  | obj members =>
      have hconfig : Schema.configSubscription.valid (.obj members) = true := by
        rcases List.mem_cons.mp hmem with rfl | hmem
        · cases hvalid
        · rwa [List.mem_singleton.mp hmem] at hvalid
      have hmerged := valid_mergedSubscription hconfig (hargs.sourceUser (by simp))
        (hargs.sourceSecret (by simp))
      unfold subscriptionMember
      split
      · refine ⟨_, rfl, .inr ⟨_, rfl, ?_⟩⟩
        rw [Schema.subscription, Schema.valid, Schema.validAny_iff]
        exact ⟨_, by simp, hmerged⟩
      · exact ⟨[], rfl, .inl rfl⟩
  | _ =>
      rcases List.mem_cons.mp hmem with rfl | hmem
      · cases hvalid
      · rw [List.mem_singleton.mp hmem] at hvalid
        cases hvalid

/-! ### Documents -/

/-- The ids of entries are distinct exactly if their keys are. -/
theorem nodup_ids_iff {hostsData : List HostObject}
    (hsha : ∀ a ∈ hostsData, ∀ b ∈ hostsData,
      NoCollision sha256 (entryKey py a.data) (entryKey py b.data)) :
    (hostsData.map fun item =>
      some (String.ofList (profileId sha256 (entryKey py item.data)))).Nodup ↔
        (hostsData.map fun item => entryKey py item.data).Nodup := by
  have hids : (hostsData.map fun item =>
      some (String.ofList (profileId sha256 (entryKey py item.data)))) =
        (hostsData.map fun item => entryKey py item.data).map fun key =>
          some (String.ofList (profileId sha256 key)) := by
    rw [List.map_map]
    rfl
  rw [hids]
  constructor
  · exact List.Nodup.of_map _
  · refine List.Nodup.map_on ?_
    intro key hkey key' hkey' heq
    obtain ⟨a, ha, rfl⟩ := List.mem_map.mp hkey
    obtain ⟨b, hb, rfl⟩ := List.mem_map.mp hkey'
    exact (profileId_inj (hsha a ha b hb)).mp (String.ofList_inj.mp (Option.some.inj heq))

/-- The profiles of entries that keep the limits. -/
theorem mapM_buildMegaProxyProfile (sha256 : Sha256) {hostsData : List HostObject}
    {username password defaultPort : String} {subscription : Json}
    (hhigh : hostsData.length ≤ 1000) (hentries : ∀ item ∈ hostsData, KeepsLimits py item.data)
    (hargs : ArgumentsKeepLimits username password defaultPort subscription) :
    ∃ profiles, (hostsData.zipIdx.mapM fun (item, index) =>
        buildMegaProxyProfile py sha256 item.data username password defaultPort index) =
          .ok profiles ∧
      profiles.length = hostsData.length ∧
      ∀ i item profile, hostsData[i]? = some item → profiles[i]? = some profile →
        buildMegaProxyProfile py sha256 item.data username password defaultPort i =
            .ok profile ∧
          ValidProfile py sha256 item.data i profile := by
  have hbuild : ∀ entry ∈ hostsData.zipIdx, ∃ profile, buildMegaProxyProfile py sha256
      entry.1.data username password defaultPort entry.2 = .ok profile ∧
        ValidProfile py sha256 entry.1.data entry.2 profile := by
    rintro ⟨item, index⟩ hmem
    obtain ⟨-, hindex, hitem⟩ := List.mem_zipIdx hmem
    have hmem' : item ∈ hostsData := by
      rw [hitem]
      exact List.getElem_mem _
    exact buildMegaProxyProfile_of_keepsLimits (hentries item hmem') hargs (by omega)
  obtain ⟨profiles, hprofiles, hvalid⟩ := exists_mapM_eq_ok hbuild
  refine ⟨profiles, hprofiles, ?_, ?_⟩
  · rw [length_of_mapM hprofiles, List.length_zipIdx]
  · intro i item profile hitem hprofile
    obtain ⟨hi, rfl⟩ := List.getElem?_eq_some_iff.mp hitem
    obtain ⟨hi', rfl⟩ := List.getElem?_eq_some_iff.mp hprofile
    have hbuild := (mapM_eq_ok_iff.mp hprofiles).get (by simpa using hi) hi'
    have hvalid := hvalid.get (by simpa using hi) hi'
    simp only [List.get_eq_getElem, List.getElem_zipIdx, Nat.zero_add] at hbuild hvalid
    exact ⟨hbuild, hvalid⟩

/-- A document around valid profiles. -/
theorem buildMegaProxyConfig_of_profiles {hostsData : List HostObject}
    {username password defaultPort : String} {subscription : Json}
    {profiles : List (List (String × Json))}
    (hargs : ArgumentsKeepLimits username password defaultPort subscription)
    (hprofiles : (hostsData.zipIdx.mapM fun (item, index) =>
      buildMegaProxyProfile py sha256 item.data username password defaultPort index) =
        .ok profiles)
    (hlow : 1 ≤ profiles.length) (hhigh : profiles.length ≤ 1000)
    (hvalid : ∀ profile ∈ profiles, ∃ hostData color,
      ValidProfile py sha256 hostData color profile)
    (hnodup : (profiles.map idOf).Nodup) :
    ∃ document, buildMegaProxyConfig py sha256 hostsData username password defaultPort
        subscription = .ok document ∧
      Schema.megaProxy.valid (.obj document) = true := by
  obtain ⟨member, hmember, hmemberValid⟩ := subscriptionMember_of_valid hargs
  -- the active profile is one of them
  have hactive : ∀ i : Nat, Schema.profileIdOrNull.valid
      ((profiles[i]?.bind fun profile => Json.get? profile "id").getD .null) = true := by
    intro i
    cases hi : profiles[i]? with
    | none => rfl
    | some profile =>
        obtain ⟨hostData, color, hprofile⟩ := hvalid profile (List.mem_of_getElem? hi)
        rw [Option.bind_some, hprofile.id, Schema.profileIdOrNull, Schema.valid,
          Schema.validAny_iff]
        exact ⟨_, List.mem_cons_self, valid_profileId _⟩
  have hlist : (Schema.arrayUpTo 1000 Schema.profile [.minItems 1]).valid
      (.arr (profiles.map .obj)) = true := by
    simp [Schema.arrayUpTo, Schema.valid, Schema.validAll, JsonType.holds]
    refine ⟨?_, hhigh, hlow⟩
    intro profile hmem
    obtain ⟨hostData, color, hprofile⟩ := hvalid profile hmem
    exact hprofile.valid
  rw [buildMegaProxyConfig, hprofiles]
  simp only [bind, Except.bind, hnodup, not_true_eq_false, if_false, hmember]
  refine ⟨_, rfl, ?_⟩
  rw [Schema.megaProxy, Schema.valid_object_iff]
  have hactive := hactive (((getSelectedHostData hostsData).bind (indexIn hostsData)).getD 0)
  generalize ((profiles[((getSelectedHostData hostsData).bind (indexIn hostsData)).getD 0]?.bind
    fun profile => Json.get? profile "id").getD .null) = active at hactive ⊢
  rcases hmemberValid with rfl | ⟨merged, rfl, hmerged⟩
  · refine ⟨?_, by simp [Json.get?]⟩
    simp only [Schema.validProperties, Json.get?]
    simp [hactive, hlist]
    -- what is left is fixed
    decide
  · refine ⟨?_, by simp [Json.get?]⟩
    simp only [Schema.validProperties, Json.get?]
    simp [hactive, hlist, hmerged]
    decide

/-- The active profile is one of the profiles. -/
theorem active_mem {hostsData : List HostObject} {profiles : List (List (String × Json))}
    (hne : hostsData ≠ []) (hlength : profiles.length = hostsData.length)
    (hvalid : ∀ profile ∈ profiles, ∃ hostData color,
      ValidProfile py sha256 hostData color profile) :
    ∃ id, (profiles[((getSelectedHostData hostsData).bind (indexIn hostsData)).getD 0]?.bind
        fun profile => Json.get? profile "id") = some (.str id) ∧
      some id ∈ profiles.map idOf := by
  have hlt : ((getSelectedHostData hostsData).bind (indexIn hostsData)).getD 0 <
      profiles.length := by
    obtain ⟨selected, hselected, -, -⟩ := getSelectedHostData_spec hne
    rw [hselected, Option.bind_some, hlength]
    cases hindex : indexIn hostsData selected with
    | none => exact List.length_pos_iff.mpr hne
    | some i => exact (List.findIdx?_eq_some_iff_getElem.mp hindex).1
  have hmem := List.getElem_mem hlt
  obtain ⟨hostData, color, hprofile⟩ := hvalid _ hmem
  rw [List.getElem?_eq_getElem hlt, Option.bind_some, hprofile.id]
  exact ⟨_, rfl, List.mem_map.mpr ⟨_, hmem, hprofile.idOf_eq⟩⟩

/-- **A MegaProxy export is valid or rejected.** Take between 1 and 1000 entries whose fields keep
the limits of the schema, as do the other arguments, and let SHA-256 not collide on the keys of the
entries. The export raises `ValueError` exactly if two entries have the same key. Otherwise it
returns a valid document, with a profile for every entry in order. The ids are distinct, colors
are positions, a country code is empty or two capitals, and the active profile is one of them.

A text of the model has no lone surrogates, which a string of Python may have. -/
theorem buildMegaProxyConfig_valid_or_rejected (py : Builtins) (sha256 : Sha256)
    {hostsData : List HostObject} {username password defaultPort : String} {subscription : Json}
    (hlow : 1 ≤ hostsData.length) (hhigh : hostsData.length ≤ 1000)
    (hentries : ∀ item ∈ hostsData, KeepsLimits py item.data)
    (hargs : ArgumentsKeepLimits username password defaultPort subscription)
    (hsha : ∀ a ∈ hostsData, ∀ b ∈ hostsData,
      NoCollision sha256 (entryKey py a.data) (entryKey py b.data)) :
    let built := buildMegaProxyConfig py sha256 hostsData username password defaultPort
      subscription
    ((∃ text, built = .error (.valueError text)) ↔
      ¬ (hostsData.map fun item => entryKey py item.data).Nodup) ∧
    ((hostsData.map fun item => entryKey py item.data).Nodup →
      ∃ (document : List (String × Json)) (profiles : List (List (String × Json))),
      built = .ok document ∧ Schema.megaProxy.valid (.obj document) = true ∧
      Json.get? document "profiles" = some (.arr (profiles.map .obj)) ∧
      profiles.length = hostsData.length ∧
      (∀ i item profile, hostsData[i]? = some item → profiles[i]? = some profile →
        buildMegaProxyProfile py sha256 item.data username password defaultPort i =
          .ok profile ∧
        Json.get? profile "color" = some (.int i) ∧
        ∃ code, Json.get? profile "countryCode" = some (jsonText code) ∧
          (code = [] ∨ isCountryCode code = true)) ∧
      (profiles.map idOf).Nodup ∧
      ∃ id, Json.get? document "activeProfileId" = some (.str id) ∧
        some id ∈ profiles.map idOf) := by
  intro built
  obtain ⟨profiles, hprofiles, hlength, hprofile⟩ :=
    mapM_buildMegaProxyProfile sha256 hhigh hentries hargs
  have hids : profiles.map idOf = hostsData.map fun item =>
      some (String.ofList (profileId sha256 (entryKey py item.data))) := by
    refine List.ext_getElem (by simp [hlength]) ?_
    intro i hi hi'
    rw [List.length_map] at hi hi'
    rw [List.getElem_map, List.getElem_map]
    exact (hprofile i _ _ (List.getElem?_eq_getElem hi') (List.getElem?_eq_getElem hi)).2.idOf_eq
  have hnodup := nodup_ids_iff hsha
  rw [← hids] at hnodup
  by_cases hkeys : (hostsData.map fun item => entryKey py item.data).Nodup
  · have hvalid : ∀ profile ∈ profiles, ∃ hostData color,
        ValidProfile py sha256 hostData color profile := by
      intro profile hmem
      obtain ⟨i, hi, rfl⟩ := List.mem_iff_getElem.mp hmem
      exact ⟨_, i, (hprofile i _ _ (List.getElem?_eq_getElem (hlength ▸ hi))
        (List.getElem?_eq_getElem hi)).2⟩
    obtain ⟨document, hbuilt, hdocument⟩ := buildMegaProxyConfig_of_profiles hargs hprofiles
      (hlength ▸ hlow) (hlength ▸ hhigh) hvalid (hnodup.mpr hkeys)
    obtain ⟨profiles', hprofiles', -, hlist, hactive⟩ := buildMegaProxyConfig_eq_ok hbuilt
    cases hprofiles.symm.trans hprofiles'
    obtain ⟨id, hid, hmem⟩ := active_mem (List.length_pos_iff.mp hlow) hlength hvalid
    rw [hid] at hactive
    refine ⟨⟨?_, fun h => absurd hkeys h⟩, fun _ => ⟨document, profiles, hbuilt, hdocument, hlist,
      hlength, ?_, hnodup.mpr hkeys, id, hactive, hmem⟩⟩
    · rintro ⟨text, herror⟩
      cases hbuilt.symm.trans herror
    · intro i item profile hitem hget
      obtain ⟨hbuild, hvalid⟩ := hprofile i item profile hitem hget
      exact ⟨hbuild, hvalid.position, hvalid.country⟩
  · have hduplicate : ¬ (profiles.map idOf).Nodup := fun h => hkeys (hnodup.mp h)
    refine ⟨⟨fun _ => hkeys, fun _ => ?_⟩, fun h => absurd h hkeys⟩
    simp only [built]
    rw [buildMegaProxyConfig, hprofiles]
    simp only [bind, Except.bind, hduplicate, not_false_eq_true, if_true]
    exact ⟨_, rfl⟩

/-- An entry with a port and a country, and one that has nothing but a host. -/
def twoProxies : List HostObject :=
  [⟨0, ((Dict.set ∅ "host" (.str "old.example")).set "port" (.str "8443")).set "code" (.str "nl")
    |>.set "title" (.str "old.example")⟩, ⟨1, Dict.set ∅ "host" (.str "new.example")⟩]

/-- A subscription with an interval. -/
def hourlySubscription : Json :=
  .obj [("url", .str "https://configs.example/api/config"), ("intervalMinutes", .int 60)]

theorem buildMegaProxyConfig_valid_or_rejected_two :
    ∃ document, buildMegaProxyConfig asciiBuiltins sampleSha256 twoProxies "alice" "secret" "443"
      hourlySubscription = .ok document ∧ Schema.megaProxy.valid (.obj document) = true := by
  have hentries : ∀ item ∈ twoProxies, KeepsLimits asciiBuiltins item.data := by
    intro item hitem
    rcases List.mem_pair.mp hitem with rfl | rfl
    · refine ⟨⟨.str "old.example", rfl, by decide +kernel⟩, ?_, by decide +kernel⟩
      intro port hport
      cases hport
      exact .inr ⟨8443, congrArg Json.str (by decide +kernel), by decide +kernel⟩
    · exact ⟨⟨.str "new.example", rfl, by decide +kernel⟩, fun _ hport => (nomatch hport),
        by decide +kernel⟩
  have hargs : ArgumentsKeepLimits "alice" "secret" "443" hourlySubscription :=
    ⟨by decide +kernel, by decide +kernel, ⟨443, by decide +kernel, by decide +kernel⟩,
      by decide +kernel, fun _ => by decide +kernel, fun _ => by decide +kernel⟩
  have hsha : ∀ a ∈ twoProxies, ∀ b ∈ twoProxies, NoCollision sampleSha256
      (entryKey asciiBuiltins a.data) (entryKey asciiBuiltins b.data) := by
    unfold NoCollision
    decide +kernel
  obtain ⟨document, -, h, hvalid, -⟩ := (buildMegaProxyConfig_valid_or_rejected asciiBuiltins
    sampleSha256 (by decide) (by decide) hentries hargs hsha).2 (by decide +kernel)
  exact ⟨document, h, hvalid⟩

end PxManager.Export
