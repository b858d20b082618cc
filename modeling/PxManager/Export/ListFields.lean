import PxManager.Export.ProxyUrls
import PxManager.Export.ShadowrocketFields

/-!
# PxManager.Export.ListFields

What a reader takes from a line of the proxy list and from a line of the Super Proxy file.

Each begins with a URL. The title of a Super Proxy line is not quoted but stands in quotation marks,
with backslash escapes.
-/

namespace PxManager.Export

open PxManager.Core PxManager.Health PxManager.Login

/-! ### Reading -/

/-- The proxy of a line of the proxy list. -/
structure ListedProxy where
  type : Text
  username : Text
  password : Text
  host : Text
  port : Text
  title : Text
  deriving DecidableEq

/-- The line is a URL, and the title is one of its parameters. -/
def readProxyListLine (checkNetloc : Text → Bool) (line : Text) : Option ListedProxy := do
  let url ← readProxyUrl checkNetloc line
  let title ← (queryValues (parseQsl url.query) "title".toList).head?
  return { url with type := url.scheme, title }

/-- The proxy of a line of the Super Proxy file. -/
structure SuperProxy where
  username : Text
  password : Text
  host : Text
  port : Text
  fingerprint : Text
  title : Text
  isDefault : Bool
  deriving DecidableEq

/-- What is after the title. -/
def readMarker (marker : Text) : Option Bool :=
  if marker = [] then some false else if marker = [' ', '*'] then some true else none

/-- The line is a URL up to the first space, and the title in quotation marks is after it. -/
def readSuperProxyLine (checkNetloc : Text → Bool) (line : Text) : Option SuperProxy := do
  let (url, rest) := partition ' ' line
  let url ← readProxyUrl checkNetloc url
  let fingerprint ← afterPrefix "fingerprint=".toList url.query
  let fingerprint ← unquote fingerprint
  let rest ← afterPrefix ['"'] rest
  match splitUnescaped '"' [] false rest with
  | [title, marker] =>
      let isDefault ← readMarker marker
      return { url with fingerprint, title, isDefault }
  | _ => none

/-! ### Lines -/

section Lines

variable {py : Builtins} {checkNetloc : Text → Bool} {hostData : HostData} {host : Json}
  {username password proxyType defaultPort : String}

/-- A line of the proxy list is a URL. -/
theorem buildProxyListLine_eq_urlText (hhost : hostOf hostData = .ok host) :
    buildProxyListLine py hostData username password proxyType defaultPort =
      .ok (urlText proxyType.toList (netlocText username.toList password.toList (py.str host)
        (py.str (portOf hostData defaultPort)))
        (urlencode (proxyListParams py hostData host))) := by
  have hslashes : "://".toList = [':', '/', '/'] := rfl
  rw [buildProxyListLine_of_host py hhost]
  simp [urlText, netlocText, hslashes, List.append_assoc]

/-- The title is the first parameter. -/
theorem title_proxyListParams (hostData : HostData) (host : Json) :
    (queryValues (parseQsl (urlencode (proxyListParams py hostData host))) "title".toList).head? =
      some (py.str (titleOf hostData host)) := by
  rw [parseQsl_urlencode, queryValues, proxyListParams]
  split
  · rw [List.cons_append, List.filter_cons_of_pos (by simp)]
    rfl
  · rw [List.filter_cons_of_pos (by simp)]
    rfl

/-- A line of the proxy list is read back. -/
theorem readProxyListLine_buildProxyListLine (username password : String)
    (hhost : hostOf hostData = .ok host)
    (hplain : NetlocHost checkNetloc (py.str host))
    (hport : IsNumeric (py.str (portOf hostData defaultPort)))
    (hproxyType : isScheme proxyType.toList = true) :
    ∃ line, buildProxyListLine py hostData username password proxyType defaultPort = .ok line ∧
      SingleLine line ∧ readProxyListLine checkNetloc line = some
        { type := proxyType.toList
          username := username.toList
          password := password.toList
          host := py.str host
          port := py.str (portOf hostData defaultPort)
          title := py.str (titleOf hostData host) } := by
  refine ⟨_, buildProxyListLine_eq_urlText hhost, ?_, ?_⟩
  · exact singleLine_of_isSpace (isSpace_urlText hproxyType hplain hport fun c hc =>
      (isQuoted_of_mem_urlencode hc).isSpace_eq_false (by decide))
  · have hquery : ∀ c ∈ urlencode (proxyListParams py hostData host),
        c ∉ ['#', '\t', '\r', '\n'] := by
      intro c hc hmem
      have hall : ∀ c ∈ ['#', '\t', '\r', '\n'],
          c ≠ '%' ∧ isUnreserved c = false ∧ c ∉ ['+', '=', '&'] := by decide
      rcases isQuoted_of_mem_urlencode hc with h | h | h
      · exact (hall c hmem).1 h
      · rw [(hall c hmem).2.1] at h
        cases h
      · exact (hall c hmem).2.2 h
    rw [readProxyListLine, readProxyUrl_urlText hproxyType hplain hport hquery,
      Option.bind_eq_bind, Option.bind_some, title_proxyListParams]
    rfl

/-- The certificate of a proxy, as the line of its entry has it. -/
def HasFingerprint (py : Builtins) (fingerprint : Json → ℤ → Except PyError Text)
    (hostData : HostData) (defaultPort : String) (print : Text) : Prop :=
  ∃ host port, hostOf hostData = .ok host ∧
    py.int (.str (String.ofList (py.str (portOf hostData defaultPort)))) = .ok port ∧
      fingerprint host port = .ok print

section SuperProxy

variable {fingerprint : Json → ℤ → Except PyError Text} {print : Text}

/-- A line of the Super Proxy file is a URL and the title. -/
theorem buildSuperProxyLine_eq_urlText (hhost : hostOf hostData = .ok host)
    (hprint : HasFingerprint py fingerprint hostData defaultPort print) (isDefault : Bool) :
    buildSuperProxyLine py fingerprint hostData username password defaultPort isDefault =
      .ok (urlText "https".toList (netlocText username.toList password.toList (py.str host)
          (py.str (portOf hostData defaultPort))) ("fingerprint=".toList ++ quote print) ++
        ' ' :: (['"'] ++ (escapeSuperProxyTitle (py.str (titleOf hostData host)) ++
          '"' :: defaultMarker isDefault))) := by
  obtain ⟨host', port, hhost', hint, hprint⟩ := hprint
  cases hhost.symm.trans hhost'
  have hbuild : buildSuperProxyLine py fingerprint hostData username password defaultPort
      isDefault = .ok ("https://".toList ++ quote username.toList ++ ":".toList ++
        quote password.toList ++ "@".toList ++ py.str host ++ ":".toList ++
        py.str (portOf hostData defaultPort) ++ ("?fingerprint=".toList ++ quote print) ++
        " \"".toList ++ escapeSuperProxyTitle (py.str (titleOf hostData host)) ++ "\"".toList ++
        defaultMarker isDefault) := by
    rw [buildSuperProxyLine, hhost]
    show (py.int (.str (String.ofList (py.str (portOf hostData defaultPort)))) >>= _) = _
    rw [hint]
    show (fingerprint host port >>= _) = _
    rw [hprint]
    rfl
  have hscheme : "https://".toList = "https".toList ++ [':', '/', '/'] := rfl
  have hname : "?fingerprint=".toList = '?' :: "fingerprint=".toList := rfl
  rw [hbuild]
  simp [urlText, netlocText, hscheme, hname, List.append_assoc]

theorem escapeSuperProxyTitle_eq (title : Text) :
    escapeSuperProxyTitle title = escapeChars ['\\', '"'] title :=
  flatMap_flatMap_escape (by decide) title

theorem singleLine_escapeSuperProxyTitle {title : Text} (h : SingleLine title) :
    SingleLine (escapeSuperProxyTitle title) := by
  rw [escapeSuperProxyTitle_eq]
  intro c hc
  obtain ⟨d, hd, hc⟩ := List.mem_flatMap.mp hc
  split at hc
  · simp only [List.mem_cons, List.not_mem_nil, or_false] at hc
    rcases hc with rfl | rfl
    · rfl
    · exact h c hd
  · exact List.mem_singleton.mp hc ▸ h d hd

/-- The title ends at the quotation mark that was written after it. -/
theorem splitUnescaped_title (title : Text) {marker : Text} (hquote : '"' ∉ marker)
    (hbackslash : '\\' ∉ marker) :
    splitUnescaped '"' [] false (escapeSuperProxyTitle title ++ '"' :: marker) =
      [title, marker] := by
  have hmarker := splitUnescaped_append_plain hquote hbackslash [] []
  rw [List.append_nil] at hmarker
  rw [escapeSuperProxyTitle_eq, splitUnescaped_append_escape, splitUnescaped_separator (by decide),
    hmarker]
  rfl

theorem isSpace_of_mem_fingerprint (print : Text) :
    ∀ c ∈ "fingerprint=".toList ++ quote print, isSpace c = false := by
  have hname : ∀ c ∈ "fingerprint=".toList, isSpace c = false := by decide
  exact List.forall_mem_append.mpr ⟨hname, fun c hc =>
    (isQuoted_of_mem_quote hc).isSpace_eq_false fun _ h => (List.not_mem_nil h).elim⟩

theorem not_mem_of_mem_fingerprint (print : Text) :
    ∀ c ∈ "fingerprint=".toList ++ quote print, c ∉ ['#', '\t', '\r', '\n'] := by
  intro c hc hmem
  have hall : ∀ c ∈ ['#', '\t', '\r', '\n'],
      c ≠ '%' ∧ isUnreserved c = false ∧ c ∉ "fingerprint=".toList := by decide
  rcases List.mem_append.mp hc with hc | hc
  · exact (hall c hmem).2.2 hc
  · exact not_mem_quote (hall c hmem).1 (hall c hmem).2.1 print hc

theorem readMarker_defaultMarker (isDefault : Bool) :
    readMarker (defaultMarker isDefault) = some isDefault := by
  cases isDefault <;> rfl

/-- A line of the Super Proxy file is read back. -/
theorem readSuperProxyLine_buildSuperProxyLine (username password : String)
    (hhost : hostOf hostData = .ok host)
    (hplain : NetlocHost checkNetloc (py.str host))
    (hport : IsNumeric (py.str (portOf hostData defaultPort)))
    (htitle : SingleLine (py.str (titleOf hostData host)))
    (hprint : HasFingerprint py fingerprint hostData defaultPort print) (isDefault : Bool) :
    ∃ line, buildSuperProxyLine py fingerprint hostData username password defaultPort isDefault =
        .ok line ∧
      SingleLine line ∧ readSuperProxyLine checkNetloc line = some
        { username := username.toList
          password := password.toList
          host := py.str host
          port := py.str (portOf hostData defaultPort)
          fingerprint := print
          title := py.str (titleOf hostData host)
          isDefault } := by
  have hspace : ∀ c ∈ urlText "https".toList (netlocText username.toList password.toList
      (py.str host) (py.str (portOf hostData defaultPort)))
        ("fingerprint=".toList ++ quote print), isSpace c = false :=
    isSpace_urlText (by decide) hplain hport (isSpace_of_mem_fingerprint print)
  refine ⟨_, buildSuperProxyLine_eq_urlText hhost hprint isDefault, ?_, ?_⟩
  · have hmarker : SingleLine ('"' :: defaultMarker isDefault) := by
      cases isDefault <;> decide
    have hquotes : SingleLine [' ', '"'] := by decide
    exact singleLine_append.mpr ⟨singleLine_of_isSpace hspace, singleLine_append.mpr ⟨hquotes,
      singleLine_append.mpr ⟨singleLine_escapeSuperProxyTitle htitle, hmarker⟩⟩⟩
  · have hurl : ' ' ∉ urlText "https".toList (netlocText username.toList password.toList
        (py.str host) (py.str (portOf hostData defaultPort)))
          ("fingerprint=".toList ++ quote print) := by
      intro hmem
      have := hspace ' ' hmem
      cases this
    have hmarker : '"' ∉ defaultMarker isDefault ∧ '\\' ∉ defaultMarker isDefault := by
      cases isDefault <;> decide
    rw [readSuperProxyLine, partition_append hurl]
    dsimp only
    rw [readProxyUrl_urlText (by decide) hplain hport (not_mem_of_mem_fingerprint print)]
    simp only [Option.bind_eq_bind, Option.bind_some, afterPrefix_append, unquote_quote,
      splitUnescaped_title _ hmarker.1 hmarker.2, readMarker_defaultMarker]
    rfl

end SuperProxy

end Lines

/-! ### Files -/

section Files

variable {py : Builtins} {checkNetloc : Text → Bool} {lower : Text → Text}
  {fingerprint : Json → ℤ → Except PyError Text} {hostsData : List HostObject}
  {username password : String} {request : GenerateRequest}

/-- A line of the proxy list says what the entry is. -/
def ListsProxy (py : Builtins) (checkNetloc : Text → Bool)
    (username password proxyType defaultPort : String) (item : HostObject) (line : Text) : Prop :=
  ∃ host, hostOf item.data = .ok host ∧ readProxyListLine checkNetloc line = some
    { type := proxyType.toList
      username := username.toList
      password := password.toList
      host := py.str host
      port := py.str (portOf item.data defaultPort)
      title := py.str (titleOf item.data host) }

/-- A line of the Super Proxy file says what the entry is, and if it is the default. -/
def ListsSuperProxy (py : Builtins) (checkNetloc : Text → Bool)
    (fingerprint : Json → ℤ → Except PyError Text) (username password defaultPort : String)
    (selectedHost : Option HostObject) (item : HostObject) (line : Text) : Prop :=
  ∃ host print, hostOf item.data = .ok host ∧
    HasFingerprint py fingerprint item.data defaultPort print ∧
      readSuperProxyLine checkNetloc line = some
        { username := username.toList
          password := password.toList
          host := py.str host
          port := py.str (portOf item.data defaultPort)
          fingerprint := print
          title := py.str (titleOf item.data host)
          isDefault := selectedHost.any item.is }

theorem isScheme_of_mem_proxyListTypes : ∀ type ∈ proxyListTypes, isScheme type = true := by
  decide

theorem get_listsProxy (hne : hostsData ≠ [])
    (hhosts : ∀ item ∈ hostsData, ∃ host, hostOf item.data = .ok host ∧
      NetlocHost checkNetloc (py.str host))
    (hports : ∀ item ∈ hostsData,
      IsNumeric (py.str (portOf item.data (String.ofList request.defaultPort))))
    (htype : request.proxyType lower ∈ proxyListTypes) :
    ∃ file, ProxyListGenerateHandler.get py lower hostsData username password request =
        .ok (some file) ∧
      List.Forall₂ (ListsProxy py checkNetloc username password
        (String.ofList (request.proxyType lower)) (String.ofList request.defaultPort)) hostsData
        (splitlines file.body) := by
  have hscheme : isScheme (String.ofList (request.proxyType lower)).toList = true := by
    rw [String.toList_ofList]
    exact isScheme_of_mem_proxyListTypes _ htype
  have hlines : ∀ item ∈ hostsData, ∃ line, buildProxyListLine py item.data username password
        (String.ofList (request.proxyType lower)) (String.ofList request.defaultPort) = .ok line ∧
      SingleLine line ∧ ListsProxy py checkNetloc username password
        (String.ofList (request.proxyType lower)) (String.ofList request.defaultPort) item
        line := by
    intro item hitem
    obtain ⟨host, hhost, hplain⟩ := hhosts item hitem
    obtain ⟨line, hline, hsingle, hread⟩ := readProxyListLine_buildProxyListLine
      username password hhost hplain (hports item hitem) hscheme
    exact ⟨line, hline, hsingle, host, hhost, hread⟩
  obtain ⟨lines, hbuilt, hall⟩ := exists_mapM_eq_ok hlines
  have hcons : lines ≠ [] := by
    rintro rfl
    exact hne (List.length_eq_zero_iff.mp hall.length_eq)
  refine ⟨_, ProxyListGenerateHandler.get_of_lines py lower hostsData username password htype
    hbuilt, ?_⟩
  rw [join_append_newline hcons, splitlines_unlines (forall_mem_of_forall₂ (hall.imp
    fun _ _ h => h.1))]
  exact hall.imp fun _ _ h => h.2

theorem buildSuperProxyConfig_listsSuperProxy {defaultPort : String}
    (hhosts : ∀ item ∈ hostsData, ∃ host, hostOf item.data = .ok host ∧
      NetlocHost checkNetloc (py.str host))
    (hports : ∀ item ∈ hostsData, IsNumeric (py.str (portOf item.data defaultPort)))
    (htitles : ∀ item ∈ hostsData, ∀ host, hostOf item.data = .ok host →
      SingleLine (py.str (titleOf item.data host)))
    (hprints : ∀ item ∈ hostsData, ∃ print,
      HasFingerprint py fingerprint item.data defaultPort print) :
    ∃ text lines, buildSuperProxyConfig py fingerprint hostsData username password defaultPort =
        .ok text ∧
      splitlines text = "# superproxy:proxylist:v1".toList :: lines ∧
      List.Forall₂ (ListsSuperProxy py checkNetloc fingerprint username password defaultPort
        (getSelectedHostData hostsData)) hostsData lines := by
  have hlines : ∀ item ∈ hostsData, ∃ line, buildSuperProxyLine py fingerprint item.data username
        password defaultPort ((getSelectedHostData hostsData).any item.is) = .ok line ∧
      SingleLine line ∧ ListsSuperProxy py checkNetloc fingerprint username password defaultPort
        (getSelectedHostData hostsData) item line := by
    intro item hitem
    obtain ⟨host, hhost, hplain⟩ := hhosts item hitem
    obtain ⟨print, hprint⟩ := hprints item hitem
    obtain ⟨line, hline, hsingle, hread⟩ := readSuperProxyLine_buildSuperProxyLine
      username password hhost hplain (hports item hitem)
      (htitles item hitem host hhost) hprint ((getSelectedHostData hostsData).any item.is)
    exact ⟨line, hline, hsingle, host, print, hhost, hprint, hread⟩
  obtain ⟨lines, hbuilt, hall⟩ := exists_mapM_eq_ok hlines
  refine ⟨_, lines, bind_eq_ok_iff.mpr ⟨lines, hbuilt, rfl⟩, ?_, hall.imp fun _ _ h => h.2⟩
  have hheader : SingleLine "# superproxy:proxylist:v1".toList := by decide
  rw [join_append_newline (List.cons_ne_nil _ _), splitlines_unlines]
  exact List.forall_mem_cons.mpr ⟨hheader, forall_mem_of_forall₂ (hall.imp fun _ _ h => h.1)⟩

variable (py checkNetloc lower fingerprint hostsData username password request)

/-- **The lines of both files say what was written into them.** -/
theorem proxyList_superProxy_readBack
    (hhosts : ∀ item ∈ hostsData, ∃ host, hostOf item.data = .ok host ∧
      NetlocHost checkNetloc (py.str host))
    (hports : ∀ item ∈ hostsData,
      IsNumeric (py.str (portOf item.data (String.ofList request.defaultPort))))
    (htitles : ∀ item ∈ hostsData, ∀ host, hostOf item.data = .ok host →
      SingleLine (py.str (titleOf item.data host)))
    (htype : request.proxyType lower ∈ proxyListTypes) :
    (hostsData ≠ [] → ∃ file,
      ProxyListGenerateHandler.get py lower hostsData username password request =
          .ok (some file) ∧
        List.Forall₂ (ListsProxy py checkNetloc username password
          (String.ofList (request.proxyType lower)) (String.ofList request.defaultPort)) hostsData
          (splitlines file.body)) ∧
    ((∀ item ∈ hostsData, ∃ print,
        HasFingerprint py fingerprint item.data (String.ofList request.defaultPort) print) →
      ∃ text lines, buildSuperProxyConfig py fingerprint hostsData username password
          (String.ofList request.defaultPort) = .ok text ∧
        splitlines text = "# superproxy:proxylist:v1".toList :: lines ∧
        List.Forall₂ (ListsSuperProxy py checkNetloc fingerprint username password
          (String.ofList request.defaultPort) (getSelectedHostData hostsData)) hostsData lines) :=
  ⟨fun hne => get_listsProxy hne hhosts hports htype,
    fun hprints => buildSuperProxyConfig_listsSuperProxy hhosts hports htitles hprints⟩

end Files

/-- Both files of one entry, whose title ends in a backslash. -/
theorem proxyList_superProxy_readBack_backslash :
    ∃ file text lines,
      ProxyListGenerateHandler.get asciiBuiltins (fun text => text)
          [⟨0, (Dict.set ∅ "host" (.str "a.example")).set "title" (.str "a \\")⟩] "u:@" "p?#%\""
          ⟨[], []⟩ = .ok (some file) ∧
        (splitlines file.body).length = 1 ∧
      buildSuperProxyConfig asciiBuiltins (fun _ _ => .ok "ab".toList)
          [⟨0, (Dict.set ∅ "host" (.str "a.example")).set "title" (.str "a \\")⟩] "u:@" "p?#%\""
          "443" = .ok text ∧
        splitlines text = "# superproxy:proxylist:v1".toList :: lines ∧ lines.length = 1 := by
  have hcheck : ChecksNoAscii fun netloc => netloc.all isAscii :=
    fun netloc h => List.all_eq_true.mpr fun c hc => (h c hc).1
  obtain ⟨hlist, hsuper⟩ := proxyList_superProxy_readBack asciiBuiltins
    (fun netloc => netloc.all isAscii) (fun text => text) (fun _ _ => .ok "ab".toList)
    [⟨0, (Dict.set ∅ "host" (.str "a.example")).set "title" (.str "a \\")⟩] "u:@" "p?#%\""
    ⟨[], []⟩
    (by
      intro item hitem
      rw [List.mem_singleton.mp hitem]
      exact ⟨.str "a.example", rfl, NetlocHost.of_isUnreserved hcheck (by decide)⟩)
    (by
      intro item hitem
      rw [List.mem_singleton.mp hitem]
      decide)
    (by
      intro item hitem host hhost
      rw [List.mem_singleton.mp hitem] at hhost ⊢
      cases hhost
      decide)
    (by decide)
  obtain ⟨file, hfile, hlines⟩ := hlist (by decide)
  obtain ⟨text, lines, htext, hsplit, hlines'⟩ := hsuper (by
    intro item hitem
    rw [List.mem_singleton.mp hitem]
    exact ⟨_, .str "a.example", 443, rfl, by decide, rfl⟩)
  exact ⟨file, text, lines, hfile, hlines.length_eq.symm, htext, hsplit, hlines'.length_eq.symm⟩

/-- The proxy list of no entries has an empty line. -/
theorem not_listsProxy_nil : ¬ ∀ (hostsData : List HostObject) (username password : String)
    (request : GenerateRequest),
      (∀ item ∈ hostsData, ∃ host, hostOf item.data = .ok host ∧
        NetlocHost (fun netloc => netloc.all isAscii) (asciiBuiltins.str host)) →
      (∀ item ∈ hostsData,
        IsNumeric (asciiBuiltins.str (portOf item.data (String.ofList request.defaultPort)))) →
      (∀ item ∈ hostsData, ∀ host, hostOf item.data = .ok host →
        SingleLine (asciiBuiltins.str (titleOf item.data host))) →
      request.proxyType (fun text => text) ∈ proxyListTypes →
      ∃ file, ProxyListGenerateHandler.get asciiBuiltins (fun text => text) hostsData username
          password request = .ok (some file) ∧
        List.Forall₂ (ListsProxy asciiBuiltins (fun netloc => netloc.all isAscii) username password
          (String.ofList (request.proxyType fun text => text))
          (String.ofList request.defaultPort)) hostsData (splitlines file.body) := by
  intro h
  obtain ⟨file, hfile, hlines⟩ := h [] "u" "p" ⟨[], []⟩ (by simp) (by simp) (by simp) (by decide)
  have htype : GenerateRequest.proxyType ⟨[], []⟩ (fun text => text) ∈ proxyListTypes := by decide
  rw [ProxyListGenerateHandler.get_of_lines asciiBuiltins _ [] "u" "p" htype List.mapM_nil] at hfile
  cases hfile
  have hlength : (splitlines (join "\n" [] ++ ['\n'])).length = 1 := by decide
  rw [← hlines.length_eq] at hlength
  cases hlength

end PxManager.Export
