import PxManager.Telegram.ProxyLinks

/-!
# PxManager.Telegram.Rows

The rows of the health page: the entries of `hosts.json`, and the Telegram proxies whose host is not
among them. The page sends back the host of a row, and `find_host_data` takes the first row with it.

Telegram proxies are kept once for each host, and only where no entry has the host. Entries are all
kept, so two of them with one host are both checked as the first.
-/

namespace PxManager.Telegram

open PxManager.Core PxManager.Health PxManager.Mtg

/-! ### Telegram proxies -/

/-- The names of the modes. -/
def secretModeName : SecretMode → String
  | .tlsDomain => "tls_domain"
  | .randomizedIntermediate => "randomized_intermediate"
  | .tls => "tls"
  | .standard => "standard"

/-- The names of the kinds. -/
def proxyKindName : ProxyKind → String
  | .mtproxy => "mtproxy"
  | .socks5 => "socks5"

/-- The dictionary that `parse_tg_proxy_health_host` returns. -/
def TgProxyHost.toHostData (hostData : TgProxyHost) : HostData :=
  Dict.ofList [
    ("host", .str (String.ofList hostData.host)),
    ("port", .int hostData.port),
    ("title", .str (String.ofList hostData.title)),
    ("source", .str "tg-proxies"),
    ("proxy_kind", .str (proxyKindName hostData.proxyKind)),
    ("username", .str (String.ofList hostData.username)),
    ("password", .str (String.ofList hostData.password)),
    ("secret", .str (String.ofList hostData.secret)),
    ("mtproxy_secret_mode", (hostData.secretMode.map fun mode =>
      Json.str (secretModeName mode)).getD .null),
    ("health_checks", .arr (hostData.healthChecks.map .str))]

section Rows

variable (py : Builtins) (checkNetloc : Text → Bool) (isIpAddress : Text → Bool)

/-- The loop of `parse_tg_proxy_health_hosts`, from a line on. -/
def parseLines (seenHosts : List Text) (lineNumber : Nat) :
    List Text → Except PyError (List TgProxyHost)
  | [] => .ok []
  | rawLine :: lines =>
      let line := strip rawLine
      if line = [] then parseLines seenHosts (lineNumber + 1) lines
      else do
        let hostData ← parseTgProxyHealthHost py checkNetloc isIpAddress line lineNumber
        if hostData.host ∈ seenHosts then parseLines seenHosts (lineNumber + 1) lines
        else do
          let hosts ← parseLines (hostData.host :: seenHosts) (lineNumber + 1) lines
          return hostData :: hosts

/-- `parse_tg_proxy_health_hosts`. -/
def parseTgProxyHealthHosts (tgProxies : Text) : Except PyError (List TgProxyHost) :=
  parseLines py checkNetloc isIpAddress [] 1 (splitlines tgProxies)

/-! ### Rows -/

/-- The host of an entry that makes a row. -/
def usableHost? (item : HostData) : Option String :=
  match item.get? "host" with
  | some (.str host) => if host = "" then none else some host
  | _ => none

/-- The row of an entry. -/
def healthItem (item : HostData) (host : String) : HostData :=
  item.set "health_checks"
    (.arr ((getHealthChecksForHost isIpAddress host.toList allHealthChecks).map .str))

/-- The first loop of `get_health_hosts_data`. -/
def configuredRows (hostsData : List HostData) : List HostData :=
  hostsData.filterMap fun item => (usableHost? item).map (healthItem isIpAddress item)

/-- The second loop of `get_health_hosts_data`. -/
def tgRows (seenHosts : List String) : List TgProxyHost → List HostData
  | [] => []
  | item :: items =>
      let host := String.ofList item.host
      if host ∈ seenHosts then tgRows seenHosts items
      else item.toHostData :: tgRows (host :: seenHosts) items

/-- `get_health_hosts_data`. -/
def getHealthHostsData (hostsData : List HostData) (tgProxies : Text) :
    Except PyError (List HostData) := do
  let items ← parseTgProxyHealthHosts py checkNetloc isIpAddress tgProxies
  return configuredRows isIpAddress hostsData ++ tgRows (hostsData.filterMap usableHost?) items

/-! ### Which row is checked -/

/-- What is found by the host of a row is equal to it. -/
def CheckedAsItself (rows : List HostData) : Prop :=
  ∀ row ∈ rows, ∃ host found, row.get? "host" = some (.str host) ∧
    findHostData rows host = some found ∧ sameData found row = true

/-- Entries with one host say the same, up to the checks, which rows set anew. -/
def AgreeOnHosts (hostsData : List HostData) : Prop :=
  ∀ item ∈ hostsData, ∀ item' ∈ hostsData, ∀ host, usableHost? item = some host →
    usableHost? item' = some host →
    ∀ key, key ≠ "health_checks" → Json.SameMember (item.get? key) (item'.get? key)

/-! ### Hosts of rows -/

/-- The host by which `find_host_data` knows a row. -/
def hostOf (row : HostData) : Option String := (row.get? "host").bind Json.asStr?

variable {py checkNetloc isIpAddress}

theorem usableHost?_eq_some_iff {item : HostData} {host : String} :
    usableHost? item = some host ↔ item.get? "host" = some (.str host) ∧ host ≠ "" := by
  unfold usableHost?
  split
  · next host' hhost =>
      rw [hhost]
      split
      · next hempty => simp [hempty, eq_comm]
      · next hne =>
          simp only [Option.some.injEq, Json.str.injEq]
          constructor
          · intro heq
            exact ⟨heq, heq ▸ hne⟩
          · exact fun h => h.1
  · next hother =>
      constructor
      · intro h
        cases h
      · intro h
        exact absurd h.1 (hother host)

theorem get?_healthItem {item : HostData} {host key : String} (h : key ≠ "health_checks") :
    (healthItem isIpAddress item host).get? key = item.get? key := by
  rw [healthItem, Dict.get?_set, if_neg h]

theorem hostOf_eq_some {row : HostData} {host : String}
    (h : row.get? "host" = some (.str host)) : hostOf row = some host := by
  rw [hostOf, h]
  rfl

theorem findHostData_eq {rows : List HostData} {host : String} (h : host ≠ "") :
    findHostData rows host = rows.find? fun row => hostOf row = some host :=
  if_neg h

theorem get?_toHostData (item : TgProxyHost) :
    item.toHostData.get? "host" = some (.str (String.ofList item.host)) := by
  simp [TgProxyHost.toHostData, Dict.ofList, Dict.get?_set]

/-! ### Entries -/

section Entries

variable (isIpAddress)

theorem mem_configuredRows {hostsData : List HostData} {row : HostData} :
    row ∈ configuredRows isIpAddress hostsData ↔
      ∃ item ∈ hostsData, ∃ host, usableHost? item = some host ∧
        healthItem isIpAddress item host = row := by
  simp only [configuredRows, List.mem_filterMap, Option.map_eq_some_iff]

theorem get?_host_healthItem {item : HostData} {host : String} (h : usableHost? item = some host) :
    (healthItem isIpAddress item host).get? "host" = some (.str host) := by
  rw [get?_healthItem (by decide)]
  exact (usableHost?_eq_some_iff.mp h).1

end Entries

/-- The rows of entries that agree are equal. -/
theorem sameData_healthItem {item item' : HostData} {host : String}
    (h : ∀ key, key ≠ "health_checks" → Json.SameMember (item.get? key) (item'.get? key)) :
    sameData (healthItem isIpAddress item host) (healthItem isIpAddress item' host) = true := by
  refine sameData_iff.mpr fun key => ?_
  by_cases hkey : key = "health_checks"
  · rw [hkey, healthItem, healthItem, Dict.get?_set_self, Dict.get?_set_self]
    exact .refl _
  · rw [get?_healthItem hkey, get?_healthItem hkey]
    exact h key hkey

/-! ### Telegram rows -/

/-- Every Telegram row is found by its host, which is new. -/
theorem find?_tgRows {seenHosts : List String} {items : List TgProxyHost} {row : HostData}
    (h : row ∈ tgRows seenHosts items) :
    ∃ item ∈ items, row = item.toHostData ∧ String.ofList item.host ∉ seenHosts ∧
      (tgRows seenHosts items).find? (fun row => hostOf row = some (String.ofList item.host)) =
        some row := by
  induction items generalizing seenHosts with
  | nil => cases h
  | cons item items ih =>
      simp only [tgRows] at h ⊢
      split at h
      · next hseen =>
          obtain ⟨item', hitem', hrow, hnew, hfind⟩ := ih h
          rw [if_pos hseen]
          exact ⟨item', List.mem_cons_of_mem item hitem', hrow, hnew, hfind⟩
      · next hseen =>
          rw [if_neg hseen]
          have hhost := hostOf_eq_some (get?_toHostData item)
          rcases List.mem_cons.mp h with rfl | h
          · refine ⟨item, List.mem_cons_self, rfl, hseen, ?_⟩
            exact List.find?_cons_of_pos (by simp [hhost])
          · obtain ⟨item', hitem', hrow, hnew, hfind⟩ := ih h
            rw [List.mem_cons, not_or] at hnew
            refine ⟨item', List.mem_cons_of_mem item hitem', hrow, hnew.2, ?_⟩
            rw [List.find?_cons_of_neg (by simpa [hhost] using Ne.symm hnew.1), hfind]

theorem host_ne_nil_of_parseLines {seenHosts : List Text} {lineNumber : Nat} {lines : List Text}
    {items : List TgProxyHost}
    (h : parseLines py checkNetloc isIpAddress seenHosts lineNumber lines = .ok items) :
    ∀ item ∈ items, item.host ≠ [] := by
  have hvalid : ∀ {line lineNumber item},
      parseTgProxyHealthHost py checkNetloc isIpAddress line lineNumber = .ok item →
        item.host ≠ [] := by
    intro line lineNumber item hparse hnil
    have hhost : isValidTgProxyHost item.host = true := by
      rcases checked_of_parse hparse with ⟨-, hchecked⟩ | ⟨-, hchecked⟩
      · exact hchecked.valid
      · exact hchecked.valid
    rw [hnil] at hhost
    exact absurd hhost (by decide)
  induction lines generalizing seenHosts lineNumber items with
  | nil =>
      cases h
      simp
  | cons rawLine lines ih =>
      simp only [parseLines] at h
      split at h
      · exact ih h
      · obtain ⟨item, hitem, h⟩ := bind_eq_ok h
        split at h
        · exact ih h
        · obtain ⟨rest, hrest, h⟩ := bind_eq_ok h
          cases h
          exact List.forall_mem_cons.mpr ⟨hvalid hitem, ih hrest⟩

end Rows

/-! ### The rows of the page -/

section Page

variable {py : Builtins} {checkNetloc isIpAddress : Text → Bool}

variable {hostsData rows : List HostData} {tgProxies : Text}

/-- Rows that are checked as themselves come from entries that agree. -/
theorem agreeOnHosts_of_checkedAsItself
    (h : getHealthHostsData py checkNetloc isIpAddress hostsData tgProxies = .ok rows)
    (hchecked : CheckedAsItself rows) : AgreeOnHosts hostsData := by
  obtain ⟨items, hitems, h⟩ := bind_eq_ok h
  cases h
  intro item hitem item' hitem' host hhost hhost' key hkey
  -- both rows are the one that is found
  have hfound : ∀ item ∈ hostsData, usableHost? item = some host →
      ∃ found, findHostData (configuredRows isIpAddress hostsData ++
        tgRows (hostsData.filterMap usableHost?) items) host = some found ∧
          sameData found (healthItem isIpAddress item host) = true := by
    intro item hitem hhost
    have hrow := (mem_configuredRows isIpAddress).mpr ⟨item, hitem, host, hhost, rfl⟩
    obtain ⟨host', found, hget, hfind, hsame⟩ := hchecked _ (List.mem_append_left _ hrow)
    rw [get?_host_healthItem isIpAddress hhost, Option.some.injEq, Json.str.injEq] at hget
    subst hget
    exact ⟨found, hfind, hsame⟩
  obtain ⟨found, hfind, hsame⟩ := hfound item hitem hhost
  obtain ⟨found', hfind', hsame'⟩ := hfound item' hitem' hhost'
  rw [hfind, Option.some.injEq] at hfind'
  subst hfind'
  have hkey' := (sameData_iff.mp hsame key).symm.trans (sameData_iff.mp hsame' key)
  rwa [get?_healthItem hkey, get?_healthItem hkey] at hkey'

/-- Rows of entries that agree are checked as themselves. -/
theorem checkedAsItself_of_agreeOnHosts
    (h : getHealthHostsData py checkNetloc isIpAddress hostsData tgProxies = .ok rows)
    (hagree : AgreeOnHosts hostsData) : CheckedAsItself rows := by
  obtain ⟨items, hitems, h⟩ := bind_eq_ok h
  cases h
  intro row hrow
  rcases List.mem_append.mp hrow with hrow | hrow
  · obtain ⟨item, hitem, host, hhost, rfl⟩ := (mem_configuredRows isIpAddress).mp hrow
    have hget := get?_host_healthItem isIpAddress hhost
    cases hfind : (configuredRows isIpAddress hostsData).find? fun row =>
        hostOf row = some host with
    | none =>
        have hother := List.find?_eq_none.mp hfind _ hrow
        exact absurd (decide_eq_true (hostOf_eq_some hget)) hother
    | some found =>
        obtain ⟨item', hitem', host', hhost', rfl⟩ :=
          (mem_configuredRows isIpAddress).mp (List.mem_of_find?_eq_some hfind)
        have hsome := List.find?_some hfind
        rw [decide_eq_true_eq, hostOf_eq_some (get?_host_healthItem isIpAddress hhost'),
          Option.some.injEq] at hsome
        subst hsome
        refine ⟨host', healthItem isIpAddress item' host', hget, ?_,
          sameData_healthItem (hagree item' hitem' item hitem host' hhost' hhost)⟩
        rw [findHostData_eq (usableHost?_eq_some_iff.mp hhost).2, List.find?_append, hfind,
          Option.some_or]
  · obtain ⟨item, hitem, rfl, hnew, hfind⟩ := find?_tgRows hrow
    have hne : String.ofList item.host ≠ "" := by
      simpa using host_ne_nil_of_parseLines hitems item hitem
    refine ⟨_, _, get?_toHostData item, ?_, sameData_iff.mpr fun _ => .refl _⟩
    -- no entry has the host
    have hnone : (configuredRows isIpAddress hostsData).find? (fun row =>
        hostOf row = some (String.ofList item.host)) = none := by
      rw [List.find?_eq_none]
      intro row hrow' hsome
      obtain ⟨item', hitem', host', hhost', rfl⟩ := (mem_configuredRows isIpAddress).mp hrow'
      rw [decide_eq_true_eq, hostOf_eq_some (get?_host_healthItem isIpAddress hhost'),
        Option.some.injEq] at hsome
      exact hnew (List.mem_filterMap.mpr ⟨item', hitem', by rw [hhost', hsome]⟩)
    rw [findHostData_eq hne, List.find?_append, hnone, Option.none_or, hfind]

/-- Every row is checked as itself exactly if the entries of each host agree. -/
theorem checkedAsItself_iff
    (h : getHealthHostsData py checkNetloc isIpAddress hostsData tgProxies = .ok rows) :
    CheckedAsItself rows ↔ AgreeOnHosts hostsData :=
  ⟨agreeOnHosts_of_checkedAsItself h, checkedAsItself_of_agreeOnHosts h⟩

end Page

/-- Two entries of one host that say the same. -/
def twinEntries : List HostData :=
  [Dict.ofList [("host", .str "a.example"), ("port", .int 443)],
    Dict.ofList [("port", .float (.finite 443)), ("host", .str "a.example")]]

/-- They are checked as themselves, and so is the one of two Telegram proxies that is on another
host. -/
theorem checkedAsItself_twinEntries :
    ∃ rows, getHealthHostsData asciiBuiltins (fun _ => true) (fun _ => false) twinEntries
        "tg://socks?server=a.example&port=1\ntg://socks?server=b.example&port=2".toList = .ok rows ∧
      rows.length = 3 ∧ CheckedAsItself rows := by
  have hparsed : ∃ rows, getHealthHostsData asciiBuiltins (fun _ => true) (fun _ => false) twinEntries
      "tg://socks?server=a.example&port=1\ntg://socks?server=b.example&port=2".toList = .ok rows ∧
    rows.length = 3 := ⟨_, rfl, rfl⟩
  obtain ⟨rows, hrows, hlength⟩ := hparsed
  refine ⟨rows, hrows, hlength, (checkedAsItself_iff hrows).mpr ?_⟩
  have hsame : ∀ item ∈ twinEntries, ∀ item' ∈ twinEntries, sameData item item' = true := by
    decide +kernel
  intro item hitem item' hitem' host hhost hhost' key hkey
  exact sameData_iff.mp (hsame item hitem item' hitem') key

/-- One host on two ports. -/
def twoPorts : List HostData :=
  [Dict.ofList [("host", .str "a.example"), ("port", .int 443)],
    Dict.ofList [("host", .str "a.example"), ("port", .int 8443)]]

/-- The second of them is checked as the first. -/
theorem not_checkedAsItself_twoPorts :
    ¬ ∀ hostsData tgProxies rows, getHealthHostsData asciiBuiltins (fun _ => true) (fun _ => false)
      hostsData tgProxies = .ok rows → CheckedAsItself rows := by
  intro hall
  have h : getHealthHostsData asciiBuiltins (fun _ => true) (fun _ => false) twoPorts [] =
      .ok (configuredRows (fun _ => false) twoPorts) := rfl
  have hagree := agreeOnHosts_of_checkedAsItself h (hall twoPorts [] _ h)
  have hport := hagree _ (.head _) _ (.tail _ (.head _)) "a.example"
    (usableHost?_eq_some_iff.mpr ⟨rfl, by decide⟩) (usableHost?_eq_some_iff.mpr ⟨rfl, by decide⟩)
    "port" (by decide)
  have hports : Json.SameMember (some (Json.int 443)) (some (Json.int 8443)) := hport
  cases hports with
  | some heq => exact absurd heq (by decide +kernel)

end PxManager.Telegram
