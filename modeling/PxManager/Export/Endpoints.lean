import PxManager.Export.ListFields
import PxManager.Export.Selected

/-!
# PxManager.Export.Endpoints

The `host:port` parts of the proxy list, of the Super Proxy file and of the FoxyProxy mode.

The three builders write a host with colons without brackets, where the transports write them
(`joinHostPort`). A reader takes the first colon for the one before the port, so such a part is read
as another endpoint.
-/

namespace PxManager.Export

open PxManager.Core PxManager.Health

/-- The part says which endpoint is meant, and says it as the transports do. -/
def IsEndpoint (host : Text) (port : ℤ) (part : Text) : Prop :=
  hostinfo part = (host, some (decimal port)) ∧ part = joinHostPort host port

/-- The text between the credentials and the query of a line. -/
def endpointOf (line : Text) : Text := (partition '@' (partition '?' line).1).2

/-- A host of the transports: a domain name, or an IPv4 or IPv6 address. -/
def IsHost (host : Text) : Prop :=
  ∀ c ∈ host, isSpace c = false ∧ c ∉ ['/', '?', '#', '@', '[', ']']

instance (host : Text) : Decidable (IsHost host) :=
  inferInstanceAs
    (Decidable (∀ c ∈ host, isSpace c = false ∧ c ∉ ['/', '?', '#', '@', '[', ']']))

section Endpoint

variable {host : Text} {port : ℤ}

theorem IsHost.not_mem (h : IsHost host) {c : Char} (hc : c ∈ ['/', '?', '#', '@', '[', ']']) :
    c ∉ host :=
  fun hmem => (h c hmem).2 hc

theorem decimal_ne_nil (n : ℤ) : decimal n ≠ [] := by
  cases n with
  | ofNat n => exact Nat.toDigits_ne_nil
  | negSucc n => exact List.cons_ne_nil _ _

/-- A reader finds the host exactly if the first colon is the one before the port. -/
theorem hostinfo_eq_iff (h : IsHost host) :
    hostinfo (host ++ ':' :: decimal port) = (host, some (decimal port)) ↔ ':' ∉ host := by
  have hplain : ∀ c ∈ ['@', '['], c ∉ host ++ ':' :: decimal port := by
    have hall : ∀ c ∈ ['@', '['], c ∈ ['/', '?', '#', '@', '[', ']'] ∧ c ≠ ':' ∧
        isSafe c = false := by decide
    intro c hc hmem
    obtain ⟨hdelimiter, hcolon, hsafe⟩ := hall c hc
    rcases List.mem_append.mp hmem with hmem | hmem
    · exact h.not_mem hdelimiter hmem
    · rcases List.mem_cons.mp hmem with rfl | hmem
      · exact hcolon rfl
      · rw [isSafe_of_mem_decimal hmem] at hsafe
        cases hsafe
  constructor
  · intro heq
    have hfirst := colon_not_mem_hostinfo (hplain '[' (by decide))
    rwa [heq] at hfirst
  · intro hcolon
    exact hostinfo_plain hcolon hplain (decimal_ne_nil port)

theorem isEndpoint_iff (h : IsHost host) :
    IsEndpoint host port (host ++ ':' :: decimal port) ↔ ':' ∉ host := by
  rw [IsEndpoint, hostinfo_eq_iff h, and_iff_left_iff_imp]
  intro hcolon
  rw [joinHostPort, if_neg hcolon]

/-- What the transports write is always read as what it means. -/
theorem hostinfo_joinHostPort (h : IsHost host) :
    hostinfo (joinHostPort host port) = (host, some (decimal port)) := by
  unfold joinHostPort
  split
  · refine hostinfo_bracketed ?_ (h.not_mem (by decide)) (decimal_ne_nil port)
    rw [List.mem_append, not_or]
    refine ⟨h.not_mem (by decide), ?_⟩
    intro hmem
    exact absurd (isSafe_of_mem_decimal hmem) (by decide)
  · next hcolon => exact (hostinfo_eq_iff h).mpr hcolon

theorem endpointOf_urlText {scheme port : Text} (hscheme : isScheme scheme = true)
    (h : IsHost host) (hport : '?' ∉ port) (username password query rest : Text) :
    endpointOf (urlText scheme (netlocText username password host port) query ++ rest) =
      host ++ ':' :: port := by
  have hfront : ∀ c ∈ ['?', '@'],
      c ∉ scheme ++ ':' :: '/' :: '/' :: (quote username ++ ':' :: quote password) := by
    have hall : ∀ c ∈ ['?', '@'], c ≠ '%' ∧ c ≠ ':' ∧ c ≠ '/' ∧ isUnreserved c = false ∧
        (isAscii c && (c.isAlphanum || c ∈ ['+', '-', '.'])) = false := by decide
    intro c hc
    obtain ⟨hpercent, hcolon, hslash, hunreserved, hnot⟩ := hall c hc
    simp only [List.mem_append, List.mem_cons, not_or]
    exact ⟨not_mem_scheme hscheme hnot, hcolon, hslash, hslash,
      not_mem_quote hpercent hunreserved username, hcolon,
      not_mem_quote hpercent hunreserved password⟩
  have hquery : '?' ∉ scheme ++ ':' :: '/' :: '/' :: (quote username ++ ':' :: quote password) ++
      '@' :: (host ++ ':' :: port) := by
    rw [List.mem_append, not_or]
    refine ⟨hfront '?' (by decide), ?_⟩
    simp only [List.mem_append, List.mem_cons, not_or]
    exact ⟨by decide, h.not_mem (by decide), by decide, hport⟩
  have htext : urlText scheme (netlocText username password host port) query ++ rest =
      scheme ++ ':' :: '/' :: '/' :: (quote username ++ ':' :: quote password) ++
        '@' :: (host ++ ':' :: port) ++ '?' :: (query ++ rest) := by
    simp [urlText, netlocText, List.append_assoc]
  rw [endpointOf, htext, partition_append hquery, partition_append (hfront '@' (by decide))]

end Endpoint

/-! ### The three builders -/

section Builders

variable {py : Builtins} {hostsData : List HostObject} {item : HostObject} {value : Json}
  {port : ℤ} {username password proxyType defaultPort : String}

theorem question_not_mem_decimal (n : ℤ) : '?' ∉ decimal n :=
  fun hmem => absurd (isSafe_of_mem_decimal hmem) (by decide)

theorem isEndpoint_buildProxyListLine_iff (hproxyType : isScheme proxyType.toList = true)
    (hvalue : hostOf item.data = .ok value) (hhost : IsHost (py.str value))
    (hport : py.str (portOf item.data defaultPort) = decimal port) :
    (∃ line, buildProxyListLine py item.data username password proxyType defaultPort = .ok line ∧
      IsEndpoint (py.str value) port (endpointOf line)) ↔ ':' ∉ py.str value := by
  have hendpoint := endpointOf_urlText hproxyType hhost (question_not_mem_decimal port)
    username.toList password.toList (urlencode (proxyListParams py item.data value)) []
  rw [List.append_nil] at hendpoint
  rw [buildProxyListLine_eq_urlText hvalue, hport]
  simp only [Except.ok.injEq, exists_eq_left', hendpoint, isEndpoint_iff hhost]

theorem isEndpoint_buildSuperProxyLine_iff {fingerprint : Json → ℤ → Except PyError Text}
    {print : Text} (hvalue : hostOf item.data = .ok value) (hhost : IsHost (py.str value))
    (hport : py.str (portOf item.data defaultPort) = decimal port)
    (hprint : HasFingerprint py fingerprint item.data defaultPort print) (isDefault : Bool) :
    (∃ line, buildSuperProxyLine py fingerprint item.data username password defaultPort isDefault =
        .ok line ∧
      IsEndpoint (py.str value) port (endpointOf line)) ↔ ':' ∉ py.str value := by
  have hscheme : isScheme "https".toList = true := by decide
  rw [buildSuperProxyLine_eq_urlText hvalue hprint, hport]
  simp only [Except.ok.injEq, exists_eq_left', isEndpoint_iff hhost,
    endpointOf_urlText hscheme hhost (question_not_mem_decimal port)]

/-- The endpoint of an entry of the FoxyProxy file. -/
theorem hostPort_of_buildFoxyProxyEntry {color : String} {proxy : List (String × Json)}
    (hvalue : hostOf item.data = .ok value)
    (h : buildFoxyProxyEntry py item.data username password proxyType defaultPort color =
      .ok proxy) :
    hostPort py proxy = py.str value ++ ':' :: py.str (portOf item.data defaultPort) := by
  rw [buildFoxyProxyEntry, hvalue] at h
  cases h
  show py.str value ++ ":".toList ++ py.str (jsonText (py.str (portOf item.data defaultPort))) = _
  rw [str_jsonText, List.append_assoc]
  rfl

theorem isEndpoint_buildFoxyProxyConfig_iff
    (hdistinct : (hostsData.map HostObject.identity).Nodup)
    (hhosts : ∀ item ∈ hostsData, ∃ host, hostOf item.data = .ok host)
    (hselected : hostsData[selectedIndex hostsData]? = some item)
    (hvalue : hostOf item.data = .ok value) (hhost : IsHost (py.str value))
    (hport : py.str (portOf item.data defaultPort) = decimal port) :
    (∃ config mode,
      buildFoxyProxyConfig py hostsData username password proxyType defaultPort = .ok config ∧
        Json.get? config "mode" = some (jsonText mode) ∧ IsEndpoint (py.str value) port mode) ↔
      ':' ∉ py.str value := by
  have hne : hostsData ≠ [] := by
    rintro rfl
    cases hselected
  have hentries : ∀ entry ∈ hostsData.zipIdx, ∃ proxy,
      buildFoxyProxyEntry py entry.1.data username password proxyType defaultPort
        (pickProxyColor entry.2) = .ok proxy ∧ True := by
    intro entry hentry
    obtain ⟨host, hhost⟩ := hhosts entry.1 (List.fst_mem_of_mem_zipIdx hentry)
    exact ⟨_, bind_eq_ok_iff.mpr ⟨host, hhost, rfl⟩, trivial⟩
  obtain ⟨proxies, hproxies, -⟩ := exists_mapM_eq_ok hentries
  have hlength : proxies.length = hostsData.length := by
    rw [length_of_mapM hproxies, List.length_zipIdx]
  obtain ⟨proxy, hproxy, hmode⟩ := buildFoxyProxyMode_selected hne hdistinct hlength
  have hpart : hostPort py proxy = py.str value ++ ':' :: decimal port := by
    obtain ⟨entry, hentry, hbuild⟩ := getElem?_of_mapM hproxies hproxy
    rw [List.getElem?_zipIdx, hselected] at hentry
    cases hentry
    rw [hostPort_of_buildFoxyProxyEntry hvalue hbuild, hport]
  have hiff : IsEndpoint (py.str value) port (hostPort py proxy) ↔ ':' ∉ py.str value := by
    rw [hpart, isEndpoint_iff hhost]
  rw [← hiff, ← hmode]
  constructor
  · rintro ⟨config, mode, hconfig, hget, hendpoint⟩
    cases hconfig.symm.trans (bind_eq_ok_iff.mpr ⟨proxies, hproxies, rfl⟩)
    have htext := Json.str.inj (Option.some.inj hget)
    rwa [String.ofList_injective htext]
  · intro hendpoint
    exact ⟨_, _, bind_eq_ok_iff.mpr ⟨proxies, hproxies, rfl⟩, rfl, hendpoint⟩

/-- **The three builders write an endpoint exactly if its host has no colons.** -/
theorem endpoints_unambiguous_iff (py : Builtins) (fingerprint : Json → ℤ → Except PyError Text)
    (hostsData : List HostObject) (port : ℤ) (username password proxyType defaultPort : String)
    (isDefault : Bool) {print : Text} (hdistinct : (hostsData.map HostObject.identity).Nodup)
    (hhosts : ∀ item ∈ hostsData, ∃ host, hostOf item.data = .ok host)
    (hselected : hostsData[selectedIndex hostsData]? = some item)
    (hvalue : hostOf item.data = .ok value) (hhost : IsHost (py.str value))
    (hport : py.str (portOf item.data defaultPort) = decimal port)
    (hproxyType : isScheme proxyType.toList = true)
    (hprint : HasFingerprint py fingerprint item.data defaultPort print) :
    ((∃ line, buildProxyListLine py item.data username password proxyType defaultPort = .ok line ∧
        IsEndpoint (py.str value) port (endpointOf line)) ↔ ':' ∉ py.str value) ∧
    ((∃ line, buildSuperProxyLine py fingerprint item.data username password defaultPort isDefault =
          .ok line ∧
        IsEndpoint (py.str value) port (endpointOf line)) ↔ ':' ∉ py.str value) ∧
    ((∃ config mode,
        buildFoxyProxyConfig py hostsData username password proxyType defaultPort = .ok config ∧
          Json.get? config "mode" = some (jsonText mode) ∧ IsEndpoint (py.str value) port mode) ↔
      ':' ∉ py.str value) :=
  ⟨isEndpoint_buildProxyListLine_iff hproxyType hvalue hhost hport,
    isEndpoint_buildSuperProxyLine_iff hvalue hhost hport hprint isDefault,
    isEndpoint_buildFoxyProxyConfig_iff hdistinct hhosts hselected hvalue hhost hport⟩

end Builders

/-- An entry of a proxy with a port of its own. -/
def endpointEntry (host : String) (port : ℤ) : HostObject :=
  ⟨0, (Dict.set ∅ "host" (.str host)).set "port" (.int port)⟩

/-- A domain name is written as it should be, and an IPv6 address is not. -/
theorem endpoints_unambiguous_domain_and_literal :
    (∃ line, buildProxyListLine asciiBuiltins (endpointEntry "a.example" 443).data "u" "p" "https"
        "443" = .ok line ∧ IsEndpoint "a.example".toList 443 (endpointOf line)) ∧
    ¬ ∃ line, buildProxyListLine asciiBuiltins (endpointEntry "2001:db8::1" 443).data "u" "p"
        "https" "443" = .ok line ∧ IsEndpoint "2001:db8::1".toList 443 (endpointOf line) := by
  have hint : asciiBuiltins.int (.str (String.ofList (asciiBuiltins.str (.int 443)))) =
      .ok 443 := by decide
  have hprint : ∀ host, HasFingerprint asciiBuiltins (fun _ _ => .ok "ab".toList)
      (endpointEntry host 443).data "443" "ab".toList :=
    fun host => ⟨.str host, 443, rfl, hint, rfl⟩
  have hdomain := endpoints_unambiguous_iff asciiBuiltins (fun _ _ => .ok "ab".toList)
    [endpointEntry "a.example" 443] 443 "u" "p" "https" "443" true (by decide)
    (by
      intro item hitem
      rw [List.mem_singleton.mp hitem]
      exact ⟨.str "a.example", rfl⟩) rfl rfl (by decide) (by decide) (by decide)
    (hprint "a.example")
  have hliteral := endpoints_unambiguous_iff asciiBuiltins (fun _ _ => .ok "ab".toList)
    [endpointEntry "2001:db8::1" 443] 443 "u" "p" "https" "443" true (by decide)
    (by
      intro item hitem
      rw [List.mem_singleton.mp hitem]
      exact ⟨.str "2001:db8::1", rfl⟩) rfl rfl (by decide) (by decide) (by decide)
    (hprint "2001:db8::1")
  exact ⟨hdomain.1.mpr (by decide), fun h => hliteral.1.mp h (by decide)⟩

/-- The mode of an IPv6 address is read as another endpoint, and so are both lines. -/
theorem not_endpoints_unambiguous : ¬ ∀ (item : HostObject) (value : Json) (port : ℤ),
    hostOf item.data = .ok value → IsHost (asciiBuiltins.str value) →
      asciiBuiltins.str (portOf item.data "443") = decimal port → 1 ≤ port → port ≤ 65535 →
        (∃ line, buildProxyListLine asciiBuiltins item.data "u" "p" "https" "443" = .ok line ∧
          IsEndpoint (asciiBuiltins.str value) port (endpointOf line)) ∧
        (∃ line, buildSuperProxyLine asciiBuiltins (fun _ _ => .ok "ab".toList) item.data "u" "p"
            "443" true = .ok line ∧
          IsEndpoint (asciiBuiltins.str value) port (endpointOf line)) ∧
        ∃ config mode, buildFoxyProxyConfig asciiBuiltins [item] "u" "p" "https" "443" =
            .ok config ∧ Json.get? config "mode" = some (jsonText mode) ∧
          IsEndpoint (asciiBuiltins.str value) port mode := by
  intro h
  obtain ⟨⟨line, hline, hhost, -⟩, -⟩ := h (endpointEntry "2001:db8::1" 443) (.str "2001:db8::1")
    443 rfl (by decide) rfl (by decide) (by decide)
  have hread : (buildProxyListLine asciiBuiltins (endpointEntry "2001:db8::1" 443).data "u" "p"
      "https" "443").map (fun line => (hostinfo (endpointOf line)).1) = .ok "2001".toList := by
    decide +kernel
  rw [hline, Except.map, hhost] at hread
  exact absurd (Except.ok.inj hread) (by decide)

end PxManager.Export
