import PxManager.Export.MegaProxy

/-!
# PxManager.Export.ProfileIds

What the ids of MegaProxy profiles depend on.

An id is made from the stable key of its entry, and as long as SHA-256 does not collide nothing is
lost on the way. The stable key is the `profile_id` of the entry, or its title, or its code; the
title falls back on the host where there is none of these, and then so does the key.
-/

namespace PxManager.Export

open PxManager.Core PxManager.Health

variable (py : Builtins) (sha256 : Sha256)

/-! ### From the key to the id -/

theorem encodeUtf8_injective {s t : Text} (h : encodeUtf8 s = encodeUtf8 t) : s = t := by
  have hdecode := decodeUtf8_encodeUtf8 s
  rw [h, decodeUtf8_encodeUtf8] at hdecode
  exact (Option.some.inj hdecode).symm

theorem profileKey_injective {s t : Text} (h : profileKey s = profileKey t) : s = t :=
  List.append_cancel_left (encodeUtf8_injective h)

/-- SHA-256 gives the keys of two entries the same digest only if they are the same. -/
def NoCollision (key key' : Text) : Prop :=
  sha256.digest (profileKey key) = sha256.digest (profileKey key') →
    profileKey key = profileKey key'

variable {sha256}

theorem profileId_inj {key key' : Text} (hsha : NoCollision sha256 key key') :
    profileId sha256 key = profileId sha256 key' ↔ key = key' := by
  constructor
  · intro h
    exact profileKey_injective (hsha (hexLower_injective (List.append_cancel_left h)))
  · rintro rfl
    rfl

/-! ### The key of an entry -/

/-- `stable_key` of an entry. -/
def entryKey (hostData : HostData) : Text :=
  stableKey py hostData (py.str (titleOf hostData (field hostData "host")))

/-- An entry says by which key its profile is known. -/
def HasKey (hostData : HostData) : Prop :=
  (field hostData "profile_id").truthy = true ∨ (field hostData "title").truthy = true ∨
    (field hostData "code").truthy = true

/-- Two versions of an entry, of which only the host and the port may differ. -/
def SameButEndpoint (a b : HostData) : Prop :=
  ∀ key, key ≠ "host" → key ≠ "port" → a.get? key = b.get? key

variable {py}

theorem entryKey_eq (hostData : HostData) :
    entryKey py hostData =
      if (field hostData "profile_id").truthy then py.str (field hostData "profile_id")
      else if (field hostData "title").truthy then py.str (field hostData "title")
      else if (field hostData "code").truthy then py.str (field hostData "code")
      else py.str (field hostData "host") := by
  unfold entryKey stableKey titleOf Json.or
  by_cases hid : (field hostData "profile_id").truthy = true
  · rw [if_pos hid, if_pos hid]
  · rw [if_neg hid, if_neg hid, str_jsonText]
    by_cases htitle : (field hostData "title").truthy = true
    · simp only [htitle, if_true]
    · simp only [htitle, Bool.false_eq_true, if_false]
      split <;> rfl

/-- The key of an entry depends on its host exactly where the entry has no other key. -/
theorem entryKey_eq_iff {a b : HostData} (h : SameButEndpoint a b) :
    entryKey py a = entryKey py b ↔
      HasKey a ∨ py.str (field a "host") = py.str (field b "host") := by
  have hid : field b "profile_id" = field a "profile_id" := by
    rw [field, field, h "profile_id" (by decide) (by decide)]
  have htitle : field b "title" = field a "title" := by
    rw [field, field, h "title" (by decide) (by decide)]
  have hcode : field b "code" = field a "code" := by
    rw [field, field, h "code" (by decide) (by decide)]
  rw [entryKey_eq, entryKey_eq, HasKey, hid, htitle, hcode]
  by_cases h₁ : (field a "profile_id").truthy = true
  · simp [h₁]
  · by_cases h₂ : (field a "title").truthy = true
    · simp [h₁, h₂]
    · by_cases h₃ : (field a "code").truthy = true <;> simp [h₁, h₂, h₃]

/-! ### Two generations of the export -/

/-- `document["profiles"][i]["id"]`. -/
def profileIdAt (document : List (String × Json)) (i : Nat) : Option String :=
  match Json.get? document "profiles" with
  | some (.arr profiles) =>
      match profiles[i]? with
      | some (.obj profile) => idOf profile
      | _ => none
  | _ => none

theorem profileIdAt_of_build {hostsData : List HostObject} {username password defaultPort : String}
    {subscription : Json} {document : List (String × Json)}
    (h : buildMegaProxyConfig py sha256 hostsData username password defaultPort subscription =
      .ok document) {i : Nat} {item : HostObject} (hitem : hostsData[i]? = some item) :
    profileIdAt document i = some (String.ofList (profileId sha256 (entryKey py item.data))) := by
  obtain ⟨profiles, hprofiles, -, hget, -⟩ := buildMegaProxyConfig_eq_ok h
  obtain ⟨hi, rfl⟩ := List.getElem?_eq_some_iff.mp hitem
  have hlength : profiles.length = hostsData.length := by
    rw [length_of_mapM hprofiles, List.length_zipIdx]
  have hprofile : profiles[i]? = some profiles[i] := List.getElem?_eq_getElem (hlength ▸ hi)
  obtain ⟨⟨item, index⟩, hitem', hbuild⟩ := getElem?_of_mapM hprofiles hprofile
  rw [List.getElem?_zipIdx, hitem] at hitem'
  cases hitem'
  obtain ⟨host, port, hhost, -, hid⟩ := buildMegaProxyProfile_eq_ok hbuild
  have hfield : field hostsData[i].data "host" = host := by
    unfold hostOf at hhost
    unfold field
    split at hhost
    · next hget =>
        cases hhost
        rw [hget]
        rfl
    · cases hhost
  simp only [profileIdAt, hget, List.getElem?_map, hprofile, Option.map_some, idOf, hid,
    Option.bind_some]
  rw [entryKey, hfield]
  rfl

/-- **When an entry keeps its profile id.** Take an entry in two generations of the export, for
any lists and users, of which only the host and the port may have changed. Its ids are the same if
and only if it has a `profile_id`, a title or a code, or the host is the same after all. -/
theorem profileIdAt_eq_iff (py : Builtins) (sha256 : Sha256)
    {hostsData hostsData' : List HostObject}
    {username password defaultPort username' password' defaultPort' : String}
    {subscription subscription' : Json} {document document' : List (String × Json)}
    (h : buildMegaProxyConfig py sha256 hostsData username password defaultPort subscription =
      .ok document)
    (h' : buildMegaProxyConfig py sha256 hostsData' username' password' defaultPort'
      subscription' = .ok document')
    {i j : Nat} {item item' : HostObject} (hitem : hostsData[i]? = some item)
    (hitem' : hostsData'[j]? = some item') (hsame : SameButEndpoint item.data item'.data)
    (hsha : NoCollision sha256 (entryKey py item.data) (entryKey py item'.data)) :
    (profileIdAt document i).isSome = true ∧
      (profileIdAt document i = profileIdAt document' j ↔
        HasKey item.data ∨
          py.str (field item.data "host") = py.str (field item'.data "host")) := by
  rw [profileIdAt_of_build h hitem, profileIdAt_of_build h' hitem']
  refine ⟨rfl, ?_⟩
  rw [Option.some.injEq, String.ofList_inj, profileId_inj hsha, entryKey_eq_iff hsame]

/-- A proxy with a `profile_id` moves to another host. -/
def movedProxy (host : String) : List HostObject :=
  [⟨0, (Dict.set ∅ "host" (.str host)).set "profile_id" (.str "old.example")⟩]

theorem profileIdAt_eq_iff_moved :
    ∃ document document',
      buildMegaProxyConfig asciiBuiltins sampleSha256 (movedProxy "a") "u" "p" "443" .null =
        .ok document ∧
      buildMegaProxyConfig asciiBuiltins sampleSha256 (movedProxy "b") "v" "q" "8443" .null =
        .ok document' ∧
      profileIdAt document 0 = profileIdAt document' 0 := by
  obtain ⟨document, h⟩ := exists_of_isOk (show (buildMegaProxyConfig asciiBuiltins sampleSha256
    (movedProxy "a") "u" "p" "443" .null).isOk = true by decide +kernel)
  obtain ⟨document', h'⟩ := exists_of_isOk (show (buildMegaProxyConfig asciiBuiltins sampleSha256
    (movedProxy "b") "v" "q" "8443" .null).isOk = true by decide +kernel)
  refine ⟨document, document', h, h', ?_⟩
  refine (profileIdAt_eq_iff asciiBuiltins sampleSha256 h h' rfl rfl ?_ ?_).2.mpr ?_
  · intro key hhost _
    simp [Dict.get?_set, hhost]
  · intro _
    rfl
  · exact .inl (.inl (by decide +kernel))

/-- A proxy with nothing but a host. -/
def bareProxy (host : String) : List HostObject := [⟨0, Dict.set ∅ "host" (.str host)⟩]

/-- A proxy with nothing but a host gets a new id when the host changes. -/
theorem profileIdAt_changes_with_host :
    ¬ ∀ (py : Builtins) (sha256 : Sha256) (hostsData hostsData' : List HostObject)
      (username password defaultPort username' password' defaultPort' : String)
      (subscription subscription' : Json) (document document' : List (String × Json)) (i j : Nat)
      (item item' : HostObject),
      buildMegaProxyConfig py sha256 hostsData username password defaultPort subscription =
        .ok document →
      buildMegaProxyConfig py sha256 hostsData' username' password' defaultPort' subscription' =
        .ok document' →
      hostsData[i]? = some item → hostsData'[j]? = some item' →
      SameButEndpoint item.data item'.data → profileIdAt document i = profileIdAt document' j := by
  intro h
  obtain ⟨document, hold⟩ := exists_of_isOk (show (buildMegaProxyConfig asciiBuiltins
    sampleSha256 (bareProxy "old.example") "u" "p" "443" .null).isOk = true by decide +kernel)
  obtain ⟨document', hnew⟩ := exists_of_isOk (show (buildMegaProxyConfig asciiBuiltins
    sampleSha256 (bareProxy "new.example") "u" "p" "443" .null).isOk = true by decide +kernel)
  have hsame := h _ _ _ _ _ _ _ _ _ _ _ _ _ _ 0 0 _ _ hold hnew rfl rfl (by
    intro key hhost _
    simp [Dict.get?_set, hhost])
  rw [profileIdAt_of_build hold (i := 0) rfl, profileIdAt_of_build hnew (i := 0) rfl] at hsame
  revert hsame
  decide +kernel

end PxManager.Export
