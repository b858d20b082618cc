import PxManager.Export.MegaProxy

/-!
# PxManager.Export.Selected

All exporters mark the same entry as selected.

They look for it in three ways: Super Proxy by identity, the others by the place at which a list
finds it. `indexIn_getSelectedHostData` brings the second down to `selectedIndex`, and `is_iff`
the first.
-/

namespace PxManager.Export

open PxManager.Core PxManager.Health

variable {py : Builtins} {hostsData : List HostObject}

/-- Of distinct objects only the one at `selectedIndex` is the selected one. -/
theorem is_iff (hne : hostsData ≠ [])
    (hdistinct : (hostsData.map HostObject.identity).Nodup) {j : Nat} {item : HostObject}
    (hitem : hostsData[j]? = some item) :
    (getSelectedHostData hostsData).any item.is = true ↔ j = selectedIndex hostsData := by
  obtain ⟨selected, hget, hselected, -⟩ := getSelectedHostData_spec hne
  rw [hget]
  obtain ⟨hj, rfl⟩ := List.getElem?_eq_some_iff.mp hitem
  obtain ⟨hi, rfl⟩ := List.getElem?_eq_some_iff.mp hselected
  constructor
  · intro his
    have hidentity : hostsData[j].identity = hostsData[selectedIndex hostsData].identity :=
      of_decide_eq_true his
    by_contra hne
    have hpair := List.pairwise_iff_getElem.mp hdistinct
    rcases Nat.lt_or_gt_of_ne hne with hlt | hlt
    · exact hpair j _ (by simpa using hj) (by simpa using hi) hlt (by simpa using hidentity)
    · exact hpair _ j (by simpa using hi) (by simpa using hj) hlt (by simpa using hidentity.symm)
  · rintro rfl
    simp [HostObject.is]

/-! ### Super Proxy -/

/-- A line ends with the marker if it is that of the default proxy. -/
theorem marker_buildSuperProxyLine {fingerprint : Json → ℤ → Except PyError Text}
    {hostData : HostData} {username password defaultPort : String} {isDefault : Bool}
    {line : Text}
    (h : buildSuperProxyLine py fingerprint hostData username password defaultPort isDefault =
      .ok line) : [' ', '*'] <:+ line ↔ isDefault = true := by
  obtain ⟨host, -, h⟩ := bind_eq_ok h
  obtain ⟨port, -, h⟩ := bind_eq_ok h
  obtain ⟨digest, -, h⟩ := bind_eq_ok h
  cases h
  cases isDefault with
  | true => exact ⟨fun _ => rfl, fun _ => ⟨_, rfl⟩⟩
  | false =>
      simp only [defaultMarker, Bool.false_eq_true, if_false, List.append_nil, iff_false]
      -- the line ends with the quotation mark of its title
      intro hsuffix
      have hlast := hsuffix.getLast (by simp)
      simp at hlast

theorem buildSuperProxyConfig_selected (hne : hostsData ≠ [])
    (hdistinct : (hostsData.map HostObject.identity).Nodup)
    {fingerprint : Json → ℤ → Except PyError Text} {username password defaultPort : String}
    {text : Text}
    (h : buildSuperProxyConfig py fingerprint hostsData username password defaultPort =
      .ok text) :
    ∃ lines, text = join "\n" ("# superproxy:proxylist:v1".toList :: lines) ++ ['\n'] ∧
      lines.length = hostsData.length ∧
      ∀ j line, lines[j]? = some line →
        (∃ item, hostsData[j]? = some item ∧ buildSuperProxyLine py fingerprint item.data username
          password defaultPort (decide (j = selectedIndex hostsData)) = .ok line) ∧
        ([' ', '*'] <:+ line ↔ j = selectedIndex hostsData) := by
  obtain ⟨lines, hlines, h⟩ := bind_eq_ok h
  cases h
  refine ⟨lines, rfl, length_of_mapM hlines, ?_⟩
  intro j line hline
  obtain ⟨item, hitem, hbuild⟩ := getElem?_of_mapM hlines hline
  have hdefault : (getSelectedHostData hostsData).any item.is =
      decide (j = selectedIndex hostsData) := by
    rw [Bool.eq_iff_iff, is_iff hne hdistinct hitem, decide_eq_true_iff]
  rw [hdefault] at hbuild
  exact ⟨⟨item, hitem, hbuild⟩, (marker_buildSuperProxyLine hbuild).trans decide_eq_true_iff⟩

/-! ### FoxyProxy -/

/-- The mode is the endpoint of the selected entry. -/
theorem buildFoxyProxyMode_selected (hne : hostsData ≠ [])
    (hdistinct : (hostsData.map HostObject.identity).Nodup)
    {proxies : List (List (String × Json))} (hlength : proxies.length = hostsData.length) :
    ∃ proxy, proxies[selectedIndex hostsData]? = some proxy ∧
      buildFoxyProxyMode py proxies hostsData (getSelectedHostData hostsData) =
        hostPort py proxy := by
  obtain ⟨selected, -, hselected, -⟩ := getSelectedHostData_spec hne
  obtain ⟨hi, -⟩ := List.getElem?_eq_some_iff.mp hselected
  have hproxy : proxies[selectedIndex hostsData]? = some proxies[selectedIndex hostsData] :=
    List.getElem?_eq_getElem (hlength ▸ hi)
  refine ⟨proxies[selectedIndex hostsData], hproxy, ?_⟩
  unfold buildFoxyProxyMode
  rw [indexIn_getSelectedHostData hne hdistinct]
  cases proxies with
  | nil => simp at hproxy
  | cons first rest => simp [hproxy]

theorem buildFoxyProxyConfig_selected (hne : hostsData ≠ [])
    (hdistinct : (hostsData.map HostObject.identity).Nodup)
    {username password proxyType defaultPort : String} {config : List (String × Json)}
    (h : buildFoxyProxyConfig py hostsData username password proxyType defaultPort =
      .ok config) :
    ∃ (proxies : List (List (String × Json))) (proxy : List (String × Json)),
      Json.get? config "data" = some (.arr (proxies.map .obj)) ∧
      proxies.length = hostsData.length ∧
      (∀ j proxy, proxies[j]? = some proxy → ∃ item, hostsData[j]? = some item ∧
        buildFoxyProxyEntry py item.data username password proxyType defaultPort
          (pickProxyColor j) = .ok proxy) ∧
      proxies[selectedIndex hostsData]? = some proxy ∧
      Json.get? config "mode" = some (jsonText (hostPort py proxy)) := by
  obtain ⟨proxies, hproxies, h⟩ := bind_eq_ok h
  cases h
  have hlength : proxies.length = hostsData.length := by
    rw [length_of_mapM hproxies, List.length_zipIdx]
  obtain ⟨proxy, hproxy, hmode⟩ := buildFoxyProxyMode_selected hne hdistinct hlength
  refine ⟨proxies, proxy, rfl, hlength, ?_, hproxy, ?_⟩
  · intro j proxy hproxy
    obtain ⟨item, hitem, hbuild⟩ := getElem?_of_mapM_zipIdx hproxies hproxy
    exact ⟨item, hitem, Nat.zero_add j ▸ hbuild⟩
  · rw [← hmode]
    rfl

/-! ### Shadowrocket -/

theorem comma_not_mem_replaceUnsafe (inMatch : Bool) (text : Text) :
    ',' ∉ replaceUnsafe inMatch text := by
  induction text generalizing inMatch with
  | nil => cases inMatch <;> exact List.not_mem_nil
  | cons c text ih =>
      rw [replaceUnsafe]
      split
      · next hsafe =>
          rw [List.mem_cons, not_or]
          refine ⟨?_, ih false⟩
          rintro rfl
          exact absurd hsafe (by decide)
      · split
        · exact ih true
        · rw [List.mem_cons, not_or]
          exact ⟨by decide, ih true⟩

theorem not_mem_decimal {c : Char} (hdigit : c.isDigit = false) (hminus : c ≠ '-') (n : ℤ) :
    c ∉ decimal n := by
  intro hc
  rcases isDigit_of_mem_decimal hc with h | h
  · rw [hdigit] at h
    cases h
  · exact hminus h

/-- A name ends with its index, and has no comma in it. -/
theorem buildShadowrocketProxyName_spec {hostData : HostData} {index : Nat} {name : Text}
    (h : buildShadowrocketProxyName py hostData index = .ok name) :
    (∃ front, name = front ++ '_' :: decimal index) ∧ ',' ∉ name := by
  obtain ⟨title, -, h⟩ := bind_eq_ok h
  cases h
  have hindex : ',' ∉ decimal index := not_mem_decimal (by decide) (by decide) _
  have hsafe : ',' ∉ stripPunctuation (replaceUnsafe false (py.str title)) := by
    intro hmem
    have hdrop := (List.rdropWhile_prefix _ _).subset hmem
    exact comma_not_mem_replaceUnsafe false _ ((List.dropWhile_sublist _).subset hdrop)
  constructor
  · split <;> exact ⟨_, List.append_assoc ..⟩
  · split
    · simp [hindex]
    · simp [hindex, hsafe]

theorem names_nodup {names : List Text}
    (h : ((hostsData.zipIdx 1).mapM fun (item, index) =>
      buildShadowrocketProxyName py item.data index) = .ok names) : names.Nodup := by
  have hname : ∀ i (hi : i < names.length),
      ∃ front, names[i] = front ++ '_' :: decimal (1 + i : Nat) := by
    intro i hi
    obtain ⟨item, -, hbuild⟩ := getElem?_of_mapM_zipIdx h (List.getElem?_eq_getElem hi)
    exact (buildShadowrocketProxyName_spec hbuild).1
  rw [List.nodup_iff_pairwise_ne, List.pairwise_iff_getElem]
  intro i j hi hj hij heq
  obtain ⟨front, hfront⟩ := hname i hi
  obtain ⟨front', hfront'⟩ := hname j hj
  rw [hfront, hfront'] at heq
  have hlast := append_cons_inj_last (not_mem_decimal (by decide) (by decide) _)
    (not_mem_decimal (by decide) (by decide) _) heq
  have := decimal_injective hlast.2
  omega

theorem buildShadowrocketConfig_selected (hne : hostsData ≠ [])
    (hdistinct : (hostsData.map HostObject.identity).Nodup)
    {username password proxyType defaultPort : String} {text : Text}
    (h : buildShadowrocketConfig py hostsData username password proxyType defaultPort =
      .ok text) :
    ∃ (names lines : List Text) (name : Text),
      names.length = hostsData.length ∧ names.Nodup ∧ (∀ n ∈ names, ',' ∉ n) ∧
      (∀ j n, names[j]? = some n → ∃ item, hostsData[j]? = some item ∧
        buildShadowrocketProxyName py item.data (j + 1) = .ok n) ∧
      names[selectedIndex hostsData]? = some name ∧
      text = join "\n" (shadowrocketHeader ++ lines ++ [[], "[Proxy Group]".toList,
        shadowrocketGroup (name :: names.eraseIdx (selectedIndex hostsData)), [],
        "[Rule]".toList, "FINAL,PROXY".toList, []]) := by
  obtain ⟨names, hnames, h⟩ := bind_eq_ok h
  obtain ⟨lines, -, h⟩ := bind_eq_ok h
  cases h
  have hbuilt : ∀ j n, names[j]? = some n → ∃ item, hostsData[j]? = some item ∧
      buildShadowrocketProxyName py item.data (j + 1) = .ok n := by
    intro j n hn
    obtain ⟨item, hitem, hbuild⟩ := getElem?_of_mapM_zipIdx hnames hn
    exact ⟨item, hitem, Nat.add_comm 1 j ▸ hbuild⟩
  have hlength : names.length = hostsData.length := by
    rw [length_of_mapM hnames, List.length_zipIdx]
  obtain ⟨selected, -, hselected, -⟩ := getSelectedHostData_spec hne
  obtain ⟨hi, -⟩ := List.getElem?_eq_some_iff.mp hselected
  have hname : names[selectedIndex hostsData]? = some names[selectedIndex hostsData] :=
    List.getElem?_eq_getElem (hlength ▸ hi)
  refine ⟨names, lines, names[selectedIndex hostsData], hlength, names_nodup hnames, ?_, hbuilt,
    hname, ?_⟩
  · intro n hn
    obtain ⟨j, hj⟩ := List.mem_iff_getElem?.mp hn
    obtain ⟨item, -, hbuild⟩ := hbuilt j n hj
    exact (buildShadowrocketProxyName_spec hbuild).2
  · rw [orderSelectedFirst, indexIn_getSelectedHostData hne hdistinct]
    simp only [hname]

/-! ### MegaProxy -/

theorem buildMegaProxyConfig_selected (hne : hostsData ≠ [])
    (hdistinct : (hostsData.map HostObject.identity).Nodup) {sha256 : Sha256}
    {username password defaultPort : String} {subscription : Json}
    {document : List (String × Json)}
    (h : buildMegaProxyConfig py sha256 hostsData username password defaultPort subscription =
      .ok document) :
    ∃ (profiles : List (List (String × Json))) (profile : List (String × Json)) (id : Json),
      Json.get? document "profiles" = some (.arr (profiles.map .obj)) ∧
      profiles.length = hostsData.length ∧
      (∀ j profile, profiles[j]? = some profile → ∃ item, hostsData[j]? = some item ∧
        buildMegaProxyProfile py sha256 item.data username password defaultPort j =
          .ok profile) ∧
      profiles[selectedIndex hostsData]? = some profile ∧
      Json.get? profile "id" = some id ∧ Json.get? document "activeProfileId" = some id := by
  obtain ⟨profiles, hprofiles, -, hget, hactive⟩ := buildMegaProxyConfig_eq_ok h
  have hlength : profiles.length = hostsData.length := by
    rw [length_of_mapM hprofiles, List.length_zipIdx]
  obtain ⟨selected, -, hselected, -⟩ := getSelectedHostData_spec hne
  obtain ⟨hi, -⟩ := List.getElem?_eq_some_iff.mp hselected
  have hprofile : profiles[selectedIndex hostsData]? = some profiles[selectedIndex hostsData] :=
    List.getElem?_eq_getElem (hlength ▸ hi)
  obtain ⟨item, -, hbuild⟩ := getElem?_of_mapM_zipIdx hprofiles hprofile
  obtain ⟨host, port, -, -, hid⟩ := buildMegaProxyProfile_eq_ok hbuild
  refine ⟨profiles, _, _, hget, hlength, ?_, hprofile, hid, ?_⟩
  · intro j profile hprofile
    obtain ⟨item, hitem, hbuild⟩ := getElem?_of_mapM_zipIdx hprofiles hprofile
    exact ⟨item, hitem, Nat.zero_add j ▸ hbuild⟩
  rw [hactive, indexIn_getSelectedHostData hne hdistinct, Option.getD_some, hprofile,
    Option.bind_some, hid, Option.getD_some]

/-! ### All of them -/

/-- **All exporters mark the same proxy as selected.** In a list of distinct entries it is the first
one that is flagged, or the first one of all: the only line of Super Proxy with the marker, the
proxy of FoxyProxy's mode, the first name in the group of Shadowrocket, after which come all others,
and the active profile of MegaProxy. What each of them has at a place is made of the entry at this
place. -/
theorem exporters_agree_on_selected (py : Builtins) (sha256 : Sha256)
    (fingerprint : Json → ℤ → Except PyError Text) (hostsData : List HostObject)
    (hne : hostsData ≠ []) (hdistinct : (hostsData.map HostObject.identity).Nodup)
    (username password proxyType defaultPort : String) (subscription : Json) :
    (∀ text, buildSuperProxyConfig py fingerprint hostsData username password defaultPort =
        .ok text →
      ∃ lines, text = join "\n" ("# superproxy:proxylist:v1".toList :: lines) ++ ['\n'] ∧
        lines.length = hostsData.length ∧
        ∀ j line, lines[j]? = some line →
          (∃ item, hostsData[j]? = some item ∧ buildSuperProxyLine py fingerprint item.data username
            password defaultPort (decide (j = selectedIndex hostsData)) = .ok line) ∧
          ([' ', '*'] <:+ line ↔ j = selectedIndex hostsData)) ∧
    (∀ config, buildFoxyProxyConfig py hostsData username password proxyType defaultPort =
        .ok config →
      ∃ (proxies : List (List (String × Json))) (proxy : List (String × Json)),
        Json.get? config "data" = some (.arr (proxies.map .obj)) ∧
        proxies.length = hostsData.length ∧
        (∀ j proxy, proxies[j]? = some proxy → ∃ item, hostsData[j]? = some item ∧
          buildFoxyProxyEntry py item.data username password proxyType defaultPort
            (pickProxyColor j) = .ok proxy) ∧
        proxies[selectedIndex hostsData]? = some proxy ∧
        Json.get? config "mode" = some (jsonText (hostPort py proxy))) ∧
    (∀ text, buildShadowrocketConfig py hostsData username password proxyType defaultPort =
        .ok text →
      ∃ (names lines : List Text) (name : Text),
        names.length = hostsData.length ∧ names.Nodup ∧ (∀ n ∈ names, ',' ∉ n) ∧
        (∀ j n, names[j]? = some n → ∃ item, hostsData[j]? = some item ∧
          buildShadowrocketProxyName py item.data (j + 1) = .ok n) ∧
        names[selectedIndex hostsData]? = some name ∧
        text = join "\n" (shadowrocketHeader ++ lines ++ [[], "[Proxy Group]".toList,
          shadowrocketGroup (name :: names.eraseIdx (selectedIndex hostsData)), [],
          "[Rule]".toList, "FINAL,PROXY".toList, []])) ∧
    ∀ document, buildMegaProxyConfig py sha256 hostsData username password defaultPort
        subscription = .ok document →
      ∃ (profiles : List (List (String × Json))) (profile : List (String × Json)) (id : Json),
        Json.get? document "profiles" = some (.arr (profiles.map .obj)) ∧
        profiles.length = hostsData.length ∧
        (∀ j profile, profiles[j]? = some profile → ∃ item, hostsData[j]? = some item ∧
          buildMegaProxyProfile py sha256 item.data username password defaultPort j =
            .ok profile) ∧
        profiles[selectedIndex hostsData]? = some profile ∧
        Json.get? profile "id" = some id ∧ Json.get? document "activeProfileId" = some id :=
  ⟨fun _ => buildSuperProxyConfig_selected hne hdistinct,
    fun _ => buildFoxyProxyConfig_selected hne hdistinct,
    fun _ => buildShadowrocketConfig_selected hne hdistinct,
    fun _ => buildMegaProxyConfig_selected hne hdistinct⟩

/-- The second and the third entry are equal and flagged. -/
def twins : List HostObject :=
  [⟨0, Dict.set ∅ "host" (.str "old.example")⟩,
    ⟨1, (Dict.set ∅ "host" (.str "new.example")).set "selected" (.bool true)⟩,
    ⟨2, (Dict.set ∅ "host" (.str "new.example")).set "selected" (.bool true)⟩]

theorem exporters_agree_on_selected_twins :
    selectedIndex twins = 1 ∧
      ∃ text, buildSuperProxyConfig asciiBuiltins (fun _ _ => .ok "ab".toList) twins "u" "p" "443" =
          .ok text ∧
        ∃ lines, text = join "\n" ("# superproxy:proxylist:v1".toList :: lines) ++ ['\n'] ∧
          lines.length = twins.length ∧
          ∀ j line, lines[j]? = some line →
            (∃ item, twins[j]? = some item ∧ buildSuperProxyLine asciiBuiltins
              (fun _ _ => .ok "ab".toList) item.data "u" "p" "443" (decide (j = selectedIndex twins)) =
                .ok line) ∧
            ([' ', '*'] <:+ line ↔ j = selectedIndex twins) := by
  refine ⟨by decide +kernel, ?_⟩
  obtain ⟨text, htext⟩ := exists_of_isOk (show (buildSuperProxyConfig asciiBuiltins
    (fun _ _ => .ok "ab".toList) twins "u" "p" "443").isOk = true by decide +kernel)
  exact ⟨text, htext, (exporters_agree_on_selected asciiBuiltins sampleSha256 _ twins (by decide)
    (by decide) "u" "p" "https" "443" .null).1 text htext⟩

end PxManager.Export
