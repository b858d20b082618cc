import PxManager.Export.ProxyList
import PxManager.Export.Selected

/-!
# PxManager.Export.FileLines

The lines of the proxy list, and the sections of the Shadowrocket file.

The port of an entry is written into its line as it is. All else that could break a line is quoted,
or single lines by assumption, so a file has the lines it should have exactly if the ports are
single lines.
-/

namespace PxManager.Export

open PxManager.Core PxManager.Health

/-! ### Sections -/

/-- The name in a section head, such as `[Proxy]`. -/
def sectionName? : Text → Option Text
  | '[' :: text => if text.getLast? = some ']' then some text.dropLast else none
  | _ => none

/-- The lines before the first section head, and the sections with their lines. -/
def sections : List Text → List Text × List (Text × List Text)
  | [] => ([], [])
  | line :: lines =>
      let (body, rest) := sections lines
      match sectionName? line with
      | some name => ([], (name, body) :: rest)
      | none => (line :: body, rest)

/-- Every line is a section head, or stands in a section or before the first. -/
theorem length_sections (lines : List Text) :
    (sections lines).1.length + ((sections lines).2.map fun s => 1 + s.2.length).sum =
      lines.length := by
  induction lines with
  | nil => rfl
  | cons line lines ih =>
      rw [sections]
      cases sectionName? line with
      | some name =>
          simp only [List.length_nil, List.map_cons, List.sum_cons, List.length_cons]
          omega
      | none =>
          simp only [List.length_cons]
          omega

/-- Lines that are no section heads go to the section before them. -/
theorem sections_append {lines : List Text} (h : ∀ line ∈ lines, sectionName? line = none)
    (rest : List Text) :
    sections (lines ++ rest) = (lines ++ (sections rest).1, (sections rest).2) := by
  induction lines with
  | nil => rfl
  | cons line lines ih =>
      obtain ⟨hline, hlines⟩ := List.forall_mem_cons.mp h
      rw [List.cons_append, sections, ih hlines, hline]
      rfl

/-! ### Lines with a port -/

theorem singleLine_of_isSpace {s : Text} (h : ∀ c ∈ s, isSpace c = false) : SingleLine s := by
  intro c hc
  by_contra hboundary
  have hspace := isSpace_of_isLineBoundary (eq_true_of_ne_false hboundary)
  rw [h c hc] at hspace
  cases hspace

theorem singleLine_quote (text : Text) : SingleLine (quote text) :=
  singleLine_of_isSpace fun _ hc =>
    (isQuoted_of_mem_quote hc).isSpace_eq_false fun _ h => (List.not_mem_nil h).elim

theorem singleLine_urlencode (params : List (Text × Text)) : SingleLine (urlencode params) :=
  singleLine_of_isSpace fun _ hc => (isQuoted_of_mem_urlencode hc).isSpace_eq_false (by decide)

/-- A line in which all but the port is known to be a single line. -/
def HasPort (port line : Text) : Prop :=
  ∃ front back, line = front ++ port ++ back ∧ SingleLine front ∧ SingleLine back ∧ back ≠ []

theorem HasPort.singleLine_iff {port line : Text} (h : HasPort port line) :
    SingleLine line ↔ SingleLine port := by
  obtain ⟨front, back, rfl, hfront, hback, -⟩ := h
  rw [singleLine_append, singleLine_append]
  exact ⟨fun h => h.1.2, fun h => ⟨⟨hfront, h⟩, hback⟩⟩

/-- A newline after the line is a line end of its own. -/
theorem HasPort.getLast?_ne {port line : Text} (h : HasPort port line) :
    line.getLast? ≠ some '\r' := by
  obtain ⟨front, back, rfl, -, hback, hne⟩ := h
  rw [List.getLast?_append_of_ne_nil _ hne]
  intro hlast
  exact absurd (hback '\r' (List.mem_of_getLast? hlast)) (by decide)

theorem forall_mem_iff_of_forall₂ {α β : Type} {xs : List α} {ys : List β} {p : α → Prop}
    {q : β → Prop} (h : List.Forall₂ (fun x y => q y ↔ p x) xs ys) :
    (∀ y ∈ ys, q y) ↔ ∀ x ∈ xs, p x := by
  induction h with
  | nil => simp
  | cons hxy _ ih => rw [List.forall_mem_cons, List.forall_mem_cons, hxy, ih]

theorem forall_mem_of_forall₂ {α β : Type} {xs : List α} {ys : List β} {q : β → Prop}
    (h : List.Forall₂ (fun _ y => q y) xs ys) : ∀ y ∈ ys, q y := by
  induction h with
  | nil => simp
  | cons hy _ ih => exact List.forall_mem_cons.mpr ⟨hy, ih⟩

/-! ### The proxy list -/

section ProxyList

variable {py : Builtins} {hostsData : List HostObject}
  {username password proxyType defaultPort : String}

/-- The line of an entry names its host. -/
def NamesHost (py : Builtins) (item : HostObject) (line : Text) : Prop :=
  ∃ host front back, hostOf item.data = .ok host ∧
    line = front ++ "@".toList ++ py.str host ++ ":".toList ++ back

theorem buildProxyListLine_spec (hproxyType : SingleLine proxyType.toList) {item : HostObject}
    (hitem : ∃ host, hostOf item.data = .ok host ∧ SingleLine (py.str host)) :
    ∃ line, buildProxyListLine py item.data username password proxyType defaultPort = .ok line ∧
      NamesHost py item line ∧ HasPort (py.str (portOf item.data defaultPort)) line := by
  obtain ⟨host, hhost, hsingle⟩ := hitem
  refine ⟨_, buildProxyListLine_of_host py hhost username password proxyType defaultPort, ?_, ?_⟩
  · refine ⟨host, proxyType.toList ++ "://".toList ++ quote username.toList ++ ":".toList ++
      quote password.toList, py.str (portOf item.data defaultPort) ++ "?".toList ++
        urlencode (proxyListParams py item.data host), hhost, ?_⟩
    simp only [List.append_assoc]
  · refine ⟨proxyType.toList ++ "://".toList ++ quote username.toList ++ ":".toList ++
      quote password.toList ++ "@".toList ++ py.str host ++ ":".toList,
      "?".toList ++ urlencode (proxyListParams py item.data host), ?_, ?_, ?_, by simp⟩
    · simp only [List.append_assoc]
    · simp only [singleLine_append, hproxyType, singleLine_quote, hsingle, true_and, and_true]
      decide
    · simp only [singleLine_append, singleLine_urlencode, and_true]
      decide

/-- The proxy list has a line for each entry, in order, and each names its host. -/
def ListsHosts (py : Builtins) (hostsData : List HostObject) (body : Text) : Prop :=
  List.Forall₂ (NamesHost py) hostsData (splitlines body)

theorem join_append_newline {lines : List Text} (h : lines ≠ []) :
    join "\n" lines ++ ['\n'] = unlines lines := by
  obtain ⟨line, lines, rfl⟩ := List.exists_cons_of_ne_nil h
  clear h
  induction lines generalizing line with
  | nil => simp [join, unlines]
  | cons line' lines ih =>
      rw [unlines_cons, ← ih line', join, List.intercalate_cons_cons, join]
      simp [List.append_assoc]

/-- The proxy list is as it should be exactly if there are entries, and their ports are single
lines. -/
theorem listsHosts_iff {lines : List Text} (h : List.Forall₂ (fun item line =>
      NamesHost py item line ∧ HasPort (py.str (portOf item.data defaultPort)) line)
      hostsData lines) :
    ListsHosts py hostsData (join "\n" lines ++ ['\n']) ↔
      hostsData ≠ [] ∧ ∀ item ∈ hostsData, SingleLine (py.str (portOf item.data defaultPort)) := by
  have hlength := h.length_eq
  cases hnil : hostsData with
  | nil =>
      obtain rfl : lines = [] := by
        rw [hnil] at hlength
        exact List.length_eq_zero_iff.mp hlength.symm
      refine ⟨fun hlists => ?_, fun hne => absurd rfl hne.1⟩
      have := List.Forall₂.length_eq hlists
      cases this
  | cons item items =>
      have hlines : lines ≠ [] := by
        rintro rfl
        rw [hnil] at hlength
        cases hlength
      rw [← hnil, join_append_newline hlines, ListsHosts]
      have hsingle : (∀ line ∈ lines, SingleLine line) ↔
          ∀ item ∈ hostsData, SingleLine (py.str (portOf item.data defaultPort)) :=
        forall_mem_iff_of_forall₂ (h.imp fun _ _ hline => hline.2.singleLine_iff)
      rw [← hsingle]
      constructor
      · intro hlists
        refine ⟨by simp [hnil], ?_⟩
        have hreturn := forall_mem_of_forall₂ (h.imp fun _ _ hline => hline.2.getLast?_ne)
        rw [← length_splitlines_unlines_iff hreturn, ← hlists.length_eq, hlength]
      · rintro ⟨-, hall⟩
        rw [splitlines_unlines hall]
        exact h.imp fun _ _ hline => hline.1

end ProxyList

/-! ### The Shadowrocket file -/

section Shadowrocket

variable {py : Builtins} {hostsData : List HostObject}
  {username password proxyType defaultPort : String}

/-- The line of an entry begins with its name, the type and its host. -/
def NamesProxy (py : Builtins) (proxyType : String) (entry : HostObject × Nat) (line : Text) :
    Prop :=
  ∃ name host back, buildShadowrocketProxyName py entry.1.data entry.2 = .ok name ∧
    hostOf entry.1.data = .ok host ∧
      line = name ++ " = ".toList ++ proxyType.toList ++ ", ".toList ++ py.str host ++
        ", ".toList ++ back

/-- The file has four sections: one line for each entry, one group, and one rule. -/
def HasSections (py : Builtins) (hostsData : List HostObject) (proxyType : String) (text : Text) :
    Prop :=
  ∃ proxies group,
    sections (splitlines text) = ([], [("General".toList, ["bypass-system = true".toList,
      "skip-proxy = 192.168.0.0/16, 10.0.0.0/8, 172.16.0.0/12, localhost, *.local".toList, []]),
      ("Proxy".toList, proxies ++ [[]]), ("Proxy Group".toList, [group, []]),
      ("Rule".toList, ["FINAL,PROXY".toList])]) ∧
    List.Forall₂ (NamesProxy py proxyType) (hostsData.zipIdx 1) proxies ∧
    "PROXY = select, ".toList <+: group ∧ ", DIRECT".toList <:+ group

theorem isSafe_of_mem_replaceUnsafe {inMatch : Bool} {text : Text} {c : Char}
    (h : c ∈ replaceUnsafe inMatch text) : isSafe c = true := by
  induction text generalizing inMatch with
  | nil => cases h
  | cons d text ih =>
      rw [replaceUnsafe] at h
      split at h
      · next hsafe =>
          rcases List.mem_cons.mp h with rfl | h
          · exact hsafe
          · exact ih h
      · split at h
        · exact ih h
        · rcases List.mem_cons.mp h with rfl | h
          · rfl
          · exact ih h

theorem isSafe_of_mem_stripPunctuation {text : Text} {c : Char}
    (h : c ∈ stripPunctuation (replaceUnsafe false text)) : isSafe c = true := by
  have hdrop := (List.rdropWhile_prefix _ _).subset h
  exact isSafe_of_mem_replaceUnsafe ((List.dropWhile_sublist _).subset hdrop)

theorem isSafe_of_mem_decimal {n : ℤ} {c : Char} (h : c ∈ decimal n) : isSafe c = true := by
  rcases isDigit_of_mem_decimal h with hdigit | rfl
  · simp [isSafe, Char.isAlphanum, hdigit]
  · rfl

/-- A name has safe characters only, but for the space in `Proxy 1`. -/
theorem isSafe_of_mem_name {hostData : HostData} {index : Nat} {name : Text}
    (h : buildShadowrocketProxyName py hostData index = .ok name) {c : Char} (hc : c ∈ name) :
    isSafe c = true ∨ c = ' ' := by
  obtain ⟨title, -, h⟩ := bind_eq_ok h
  cases h
  have hproxy : ∀ c ∈ "Proxy ".toList, isSafe c = true ∨ c = ' ' := by decide
  rcases List.mem_append.mp hc with hc | hc
  · rcases List.mem_append.mp hc with hc | hc
    · split at hc
      · rcases List.mem_append.mp hc with hc | hc
        · exact hproxy c hc
        · exact .inl (isSafe_of_mem_decimal hc)
      · exact .inl (isSafe_of_mem_stripPunctuation hc)
    · rw [List.mem_singleton.mp hc]
      exact .inl rfl
  · exact .inl (isSafe_of_mem_decimal hc)

theorem isLineBoundary_of_isSafe {c : Char} (h : isSafe c = true ∨ c = ' ') :
    isLineBoundary c = false := by
  rcases h with h | rfl
  · by_contra hboundary
    have hspace := isSpace_of_isLineBoundary (eq_true_of_ne_false hboundary)
    rw [isSpace_of_isUnreserved] at hspace
    · cases hspace
    · rw [isSafe, Bool.or_eq_true, decide_eq_true_eq] at h
      rw [isUnreserved, Bool.or_eq_true, decide_eq_true_eq]
      refine h.imp_right ?_
      intro hmem
      simp only [List.mem_cons] at hmem ⊢
      tauto
  · rfl

/-- An entry with a host has a name. -/
theorem exists_buildShadowrocketProxyName {hostData : HostData} {host : Json}
    (hhost : hostOf hostData = .ok host) (index : Nat) :
    ∃ name, buildShadowrocketProxyName py hostData index = .ok name := by
  have htitle : ∃ title, shadowrocketTitle hostData = .ok title := by
    unfold shadowrocketTitle
    split
    · exact ⟨_, rfl⟩
    · split
      · exact ⟨_, rfl⟩
      · exact ⟨host, hhost⟩
  obtain ⟨title, htitle⟩ := htitle
  exact ⟨_, bind_eq_ok_iff.mpr ⟨title, htitle, rfl⟩⟩

theorem mem_escapeShadowrocketValue {value : Text} {c : Char}
    (h : c ∈ escapeShadowrocketValue value) : c = '\\' ∨ c ∈ value := by
  unfold escapeShadowrocketValue at h
  obtain ⟨d, hd, hc⟩ := List.mem_flatMap.mp h
  obtain ⟨e, he, hd⟩ := List.mem_flatMap.mp hd
  have hd' : d = '\\' ∨ d ∈ value := by
    split at hd
    · simp only [List.mem_cons, List.not_mem_nil, or_false, or_self] at hd
      exact .inl hd
    · exact .inr (List.mem_singleton.mp hd ▸ he)
  split at hc
  · next hcomma =>
      rcases List.mem_cons.mp hc with rfl | hc
      · exact .inl rfl
      · rw [List.mem_singleton.mp hc, ← hcomma]
        exact hd'
  · rw [List.mem_singleton.mp hc]
    exact hd'

theorem singleLine_escapeShadowrocketValue {value : Text} (h : SingleLine value) :
    SingleLine (escapeShadowrocketValue value) := by
  intro c hc
  rcases mem_escapeShadowrocketValue hc with rfl | hc
  · rfl
  · exact h c hc

/-- The line of a proxy, by what is written into it. -/
def proxyLineText (proxyType username password : String) (name host port : Text) : Text :=
  name ++ " = ".toList ++ proxyType.toList ++ ", ".toList ++ host ++ ", ".toList ++ port ++
    ", username=".toList ++ escapeShadowrocketValue username.toList ++ ", password=".toList ++
    escapeShadowrocketValue password.toList

/-- The line of an entry. -/
def IsProxyLine (py : Builtins) (username password proxyType defaultPort : String)
    (entry : HostObject × Nat) (line : Text) : Prop :=
  ∃ name host, buildShadowrocketProxyName py entry.1.data entry.2 = .ok name ∧
    hostOf entry.1.data = .ok host ∧
      line = proxyLineText proxyType username password name (py.str host)
        (py.str (portOf entry.1.data defaultPort))

theorem IsProxyLine.namesProxy {entry : HostObject × Nat} {line : Text}
    (h : IsProxyLine py username password proxyType defaultPort entry line) :
    NamesProxy py proxyType entry line := by
  obtain ⟨name, host, hname, hhost, rfl⟩ := h
  refine ⟨name, host, py.str (portOf entry.1.data defaultPort) ++ ", username=".toList ++
    escapeShadowrocketValue username.toList ++ ", password=".toList ++
      escapeShadowrocketValue password.toList, hname, hhost, ?_⟩
  simp only [proxyLineText, List.append_assoc]

theorem IsProxyLine.hasPort {entry : HostObject × Nat} {line : Text}
    (h : IsProxyLine py username password proxyType defaultPort entry line)
    (hhost : ∃ host, hostOf entry.1.data = .ok host ∧ SingleLine (py.str host))
    (hproxyType : SingleLine proxyType.toList) (husername : SingleLine username.toList)
    (hpassword : SingleLine password.toList) :
    HasPort (py.str (portOf entry.1.data defaultPort)) line := by
  obtain ⟨name, host, hname, hhost', rfl⟩ := h
  obtain ⟨host', hhost'', hsingle⟩ := hhost
  cases hhost'.symm.trans hhost''
  have hsafe : SingleLine name := fun c hc => isLineBoundary_of_isSafe (isSafe_of_mem_name hname hc)
  refine ⟨name ++ " = ".toList ++ proxyType.toList ++ ", ".toList ++ py.str host ++ ", ".toList,
    ", username=".toList ++ escapeShadowrocketValue username.toList ++ ", password=".toList ++
      escapeShadowrocketValue password.toList, ?_, ?_, ?_, by simp⟩
  · simp only [proxyLineText, List.append_assoc]
  · simp only [singleLine_append, hsafe, hproxyType, hsingle, true_and, and_true]
    decide
  · simp only [singleLine_append, singleLine_escapeShadowrocketValue husername,
      singleLine_escapeShadowrocketValue hpassword, and_true]
    decide

theorem join_append_nil (lines : List Text) : join "\n" (lines ++ [[]]) = unlines lines := by
  induction lines with
  | nil => rfl
  | cons line lines ih =>
      rw [unlines_cons, ← ih, join, join, List.cons_append,
        List.intercalate_cons_of_ne_nil (by simp)]
      simp [List.append_assoc]

/-- Two lists that go along one list go along each other. -/
theorem forall₂_zipIdx_of_zip {α β γ : Type} {r : α × Nat → β → Prop} {s : α × β → γ → Prop}
    {xs : List α} {ys : List β} {zs : List γ} {k : Nat} (hr : List.Forall₂ r (xs.zipIdx k) ys)
    (hs : List.Forall₂ s (xs.zip ys) zs) :
    List.Forall₂ (fun x z => ∃ y, r x y ∧ s (x.1, y) z) (xs.zipIdx k) zs := by
  induction xs generalizing ys zs k with
  | nil =>
      cases hs
      exact .nil
  | cons x xs ih =>
      rw [List.zipIdx_cons] at hr ⊢
      cases hr with
      | cons hxy hr =>
          cases hs with
          | cons hxyz hs => exact .cons ⟨_, hxy, hxyz⟩ (ih hr hs)

/-- The selected name is first, and no name is lost. -/
theorem orderSelectedFirst_perm (hostsData : List HostObject) (names : List Text)
    (selectedHost : Option HostObject) :
    (orderSelectedFirst hostsData names selectedHost).Perm names := by
  unfold orderSelectedFirst
  split
  · exact .refl _
  · next index _ =>
      split
      · exact .refl _
      · next value hvalue =>
          obtain ⟨hlt, rfl⟩ := List.getElem?_eq_some_iff.mp hvalue
          exact List.getElem_cons_eraseIdx_perm hlt

/-- The lines after the proxies. -/
def shadowrocketFooter (group : Text) : List Text :=
  [[], "[Proxy Group]".toList, group, [], "[Rule]".toList, "FINAL,PROXY".toList]

/-- What the builder makes of entries with hosts. -/
theorem buildShadowrocketConfig_spec (py : Builtins)
    (hhosts : ∀ item ∈ hostsData, ∃ host, hostOf item.data = .ok host)
    (username password proxyType defaultPort : String) :
    ∃ names lines,
      buildShadowrocketConfig py hostsData username password proxyType defaultPort =
        .ok (unlines (shadowrocketHeader ++ lines ++ shadowrocketFooter
          (shadowrocketGroup (orderSelectedFirst hostsData names
            (getSelectedHostData hostsData))))) ∧
      List.Forall₂ (fun entry name =>
        buildShadowrocketProxyName py entry.1.data entry.2 = .ok name) (hostsData.zipIdx 1) names ∧
      List.Forall₂ (IsProxyLine py username password proxyType defaultPort)
        (hostsData.zipIdx 1) lines := by
  have hnames : ∀ entry ∈ hostsData.zipIdx 1, ∃ name,
      buildShadowrocketProxyName py entry.1.data entry.2 = .ok name ∧
        buildShadowrocketProxyName py entry.1.data entry.2 = .ok name := by
    intro entry hentry
    obtain ⟨host, hhost⟩ := hhosts entry.1 (List.fst_mem_of_mem_zipIdx hentry)
    obtain ⟨name, hname⟩ := exists_buildShadowrocketProxyName hhost entry.2
    exact ⟨name, hname, hname⟩
  obtain ⟨names, hbuilt, hnames⟩ := exists_mapM_eq_ok hnames
  have hlines : ∀ entry ∈ hostsData.zip names, ∃ line,
      buildShadowrocketProxyLine py entry.1.data entry.2 username password proxyType defaultPort =
        .ok line ∧ ∃ host, hostOf entry.1.data = .ok host ∧
          line = proxyLineText proxyType username password entry.2 (py.str host)
            (py.str (portOf entry.1.data defaultPort)) := by
    intro entry hentry
    obtain ⟨host, hhost⟩ := hhosts entry.1 (List.of_mem_zip hentry).1
    refine ⟨_, ?_, host, hhost, rfl⟩
    rw [buildShadowrocketProxyLine, hhost]
    rfl
  obtain ⟨lines, hbuiltLines, hlines⟩ := exists_mapM_eq_ok hlines
  refine ⟨names, lines, ?_, hnames, ?_⟩
  · have hjoin : join "\n" (shadowrocketHeader ++ lines ++ [[], "[Proxy Group]".toList,
        shadowrocketGroup (orderSelectedFirst hostsData names (getSelectedHostData hostsData)), [],
        "[Rule]".toList, "FINAL,PROXY".toList, []]) = unlines (shadowrocketHeader ++ lines ++
          shadowrocketFooter (shadowrocketGroup (orderSelectedFirst hostsData names
            (getSelectedHostData hostsData)))) := by
      rw [← join_append_nil, List.append_assoc _ _ [[]]]
      rfl
    rw [← hjoin]
    exact bind_eq_ok_iff.mpr ⟨names, hbuilt, bind_eq_ok_iff.mpr ⟨lines, hbuiltLines, rfl⟩⟩
  · refine (forall₂_zipIdx_of_zip hnames hlines).imp ?_
    rintro entry line ⟨name, hname, host, hhost, heq⟩
    exact ⟨name, host, hname, hhost, heq⟩

theorem getLast?_ne_of_singleLine {line : Text} (h : SingleLine line) :
    line.getLast? ≠ some '\r' := by
  intro hlast
  exact absurd (h '\r' (List.mem_of_getLast? hlast)) (by decide)

/-- A proxy is no section head: its name does not begin with a bracket. -/
theorem NamesProxy.sectionName?_eq_none {entry : HostObject × Nat} {line : Text}
    (h : NamesProxy py proxyType entry line) : sectionName? line = none := by
  obtain ⟨name, host, back, hname, -, rfl⟩ := h
  cases name with
  | nil => rfl
  | cons c name =>
      have hc : c ≠ '[' := by
        rintro rfl
        have hsafe := isSafe_of_mem_name hname (List.mem_cons_self (a := '['))
        exact absurd hsafe (by decide)
      unfold sectionName?
      split
      · next heq => exact absurd (List.cons.inj heq).1 hc
      · rfl

/-- The sections of the file, if its lines are read as they were written. -/
theorem sections_file {lines : List Text} {group : Text}
    (hlines : ∀ line ∈ lines, sectionName? line = none)
    (hgroup : "PROXY = select, ".toList <+: group) :
    sections (shadowrocketHeader ++ lines ++ shadowrocketFooter group) =
      ([], [("General".toList, ["bypass-system = true".toList,
        "skip-proxy = 192.168.0.0/16, 10.0.0.0/8, 172.16.0.0/12, localhost, *.local".toList, []]),
        ("Proxy".toList, lines ++ [[]]), ("Proxy Group".toList, [group, []]),
        ("Rule".toList, ["FINAL,PROXY".toList])]) := by
  have hname : sectionName? group = none := by
    obtain ⟨back, rfl⟩ := hgroup
    rfl
  have hfooter : sections (shadowrocketFooter group) =
      ([[]], [("Proxy Group".toList, [group, []]), ("Rule".toList, ["FINAL,PROXY".toList])]) := by
    have hrest : sections [group, [], "[Rule]".toList, "FINAL,PROXY".toList] =
        ([group, []], [("Rule".toList, ["FINAL,PROXY".toList])]) := by
      rw [sections, hname]
      rfl
    have hhead : sections ("[Proxy Group]".toList :: [group, [], "[Rule]".toList,
        "FINAL,PROXY".toList]) = ([], [("Proxy Group".toList, [group, []]),
          ("Rule".toList, ["FINAL,PROXY".toList])]) := by
      rw [sections, hrest]
      rfl
    rw [shadowrocketFooter, sections, hhead]
    rfl
  have hproxies : sections ("[Proxy]".toList :: (lines ++ shadowrocketFooter group)) =
      ([], [("Proxy".toList, lines ++ [[]]), ("Proxy Group".toList, [group, []]),
        ("Rule".toList, ["FINAL,PROXY".toList])]) := by
    rw [sections, sections_append hlines, hfooter]
    rfl
  have hfile : shadowrocketHeader ++ lines ++ shadowrocketFooter group =
      "[General]".toList :: (["bypass-system = true".toList,
        "skip-proxy = 192.168.0.0/16, 10.0.0.0/8, 172.16.0.0/12, localhost, *.local".toList, []] ++
        "[Proxy]".toList :: (lines ++ shadowrocketFooter group)) := by
    rw [List.append_assoc]
    rfl
  rw [hfile, sections, sections_append (by decide), hproxies]
  rfl

theorem singleLine_shadowrocketHeader : ∀ line ∈ shadowrocketHeader, SingleLine line := by decide

theorem singleLine_shadowrocketFooter {group : Text} (h : SingleLine group) :
    ∀ line ∈ shadowrocketFooter group, SingleLine line := by
  simp only [shadowrocketFooter, List.forall_mem_cons]
  exact ⟨by decide, by decide, h, by decide, by decide, by decide, by simp⟩

theorem sections_splitlines {lines : List Text} {group : Text}
    (hsingle : ∀ line ∈ lines, SingleLine line)
    (hlines : ∀ line ∈ lines, sectionName? line = none) (hgroup : SingleLine group)
    (hfront : "PROXY = select, ".toList <+: group) :
    sections (splitlines (unlines (shadowrocketHeader ++ lines ++ shadowrocketFooter group))) =
      ([], [("General".toList, ["bypass-system = true".toList,
        "skip-proxy = 192.168.0.0/16, 10.0.0.0/8, 172.16.0.0/12, localhost, *.local".toList, []]),
        ("Proxy".toList, lines ++ [[]]), ("Proxy Group".toList, [group, []]),
        ("Rule".toList, ["FINAL,PROXY".toList])]) := by
  rw [splitlines_unlines, sections_file hlines hfront]
  simp only [List.forall_mem_append]
  exact ⟨⟨singleLine_shadowrocketHeader, hsingle⟩, singleLine_shadowrocketFooter hgroup⟩

/-- The file is as it should be exactly if the ports are single lines. -/
theorem hasSections_iff {lines : List Text} {group : Text}
    (hlines : List.Forall₂ (fun entry line => NamesProxy py proxyType entry line ∧
      HasPort (py.str (portOf entry.1.data defaultPort)) line) (hostsData.zipIdx 1) lines)
    (hgroup : SingleLine group) (hfront : "PROXY = select, ".toList <+: group)
    (hback : ", DIRECT".toList <:+ group) :
    HasSections py hostsData proxyType
        (unlines (shadowrocketHeader ++ lines ++ shadowrocketFooter group)) ↔
      ∀ item ∈ hostsData, SingleLine (py.str (portOf item.data defaultPort)) := by
  have hsingle : (∀ line ∈ lines, SingleLine line) ↔
      ∀ item ∈ hostsData, SingleLine (py.str (portOf item.data defaultPort)) := by
    rw [forall_mem_iff_of_forall₂ (hlines.imp fun _ _ hline => hline.2.singleLine_iff)]
    have hfst := List.zipIdx_map_fst 1 hostsData
    constructor
    · intro hall item hitem
      rw [← hfst] at hitem
      obtain ⟨entry, hentry, rfl⟩ := List.mem_map.mp hitem
      exact hall entry hentry
    · intro hall entry hentry
      exact hall entry.1 (List.fst_mem_of_mem_zipIdx hentry)
  rw [← hsingle]
  constructor
  · rintro ⟨proxies, group', hsections, hproxies, -, -⟩
    have hcount := length_sections (splitlines
      (unlines (shadowrocketHeader ++ lines ++ shadowrocketFooter group)))
    rw [hsections] at hcount
    have hlength : proxies.length = lines.length := by
      rw [← hproxies.length_eq, ← hlines.length_eq]
    have hreturn : ∀ line ∈ shadowrocketHeader ++ lines ++ shadowrocketFooter group,
        line.getLast? ≠ some '\r' := by
      simp only [List.forall_mem_append]
      refine ⟨⟨?_, forall_mem_of_forall₂ (hlines.imp fun _ _ hline => hline.2.getLast?_ne)⟩, ?_⟩
      · intro line hline
        exact getLast?_ne_of_singleLine (singleLine_shadowrocketHeader line hline)
      · intro line hline
        exact getLast?_ne_of_singleLine (singleLine_shadowrocketFooter hgroup line hline)
    have hall := (length_splitlines_unlines_iff hreturn).mp (by
      rw [← hcount]
      simp only [List.map_cons, List.map_nil, List.sum_cons, List.sum_nil, List.length_append,
        List.length_cons, List.length_nil, hlength, shadowrocketHeader, shadowrocketFooter]
      omega)
    exact fun line hline => hall line (by simp [hline])
  · intro hall
    refine ⟨lines, group, ?_, hlines.imp fun _ _ hline => hline.1, hfront, hback⟩
    exact sections_splitlines hall
      (forall_mem_of_forall₂ (hlines.imp fun _ _ hline => hline.1.sectionName?_eq_none)) hgroup
        hfront

theorem singleLine_shadowrocketGroup {names : List Text} (h : ∀ name ∈ names, SingleLine name) :
    SingleLine (shadowrocketGroup names) := by
  show SingleLine ("PROXY = select, ".toList ++ join ", " names ++ ", DIRECT".toList)
  rw [singleLine_append, singleLine_append]
  refine ⟨⟨by decide, ?_⟩, by decide⟩
  intro c hc
  have hcomma : SingleLine ", ".toList := by decide
  rcases mem_intercalate hc with hc | ⟨name, hname, hc⟩
  · exact hcomma c hc
  · exact h name hname c hc

theorem prefix_shadowrocketGroup (names : List Text) :
    "PROXY = select, ".toList <+: shadowrocketGroup names := by
  show _ <+: "PROXY = select, ".toList ++ join ", " names ++ ", DIRECT".toList
  rw [List.append_assoc]
  exact List.prefix_append ..

theorem suffix_shadowrocketGroup (names : List Text) :
    ", DIRECT".toList <:+ shadowrocketGroup names := by
  show _ <:+ "PROXY = select, ".toList ++ join ", " names ++ ", DIRECT".toList
  exact List.suffix_append ..

end Shadowrocket

/-! ### Downloads -/

section Downloads

variable {py : Builtins} {lower : Text → Text} {hostsData : List HostObject}
  {username password : String} {types ports : List Text}

/-- The port that is written for an entry. -/
def writtenPort (py : Builtins) (ports : List Text) (item : HostObject) : Text :=
  py.str (portOf item.data (String.ofList (GenerateRequest.defaultPort ⟨[], ports⟩)))

theorem get_proxyList (username password : String)
    (hhosts : ∀ item ∈ hostsData, ∃ host, hostOf item.data = .ok host ∧ SingleLine (py.str host))
    (htype : GenerateRequest.proxyType ⟨types, ports⟩ lower ∈ proxyListTypes) :
    ∃ list, ProxyListGenerateHandler.get py lower hostsData username password ⟨types, ports⟩ =
        .ok (some list) ∧
      (ListsHosts py hostsData list.body ↔
        hostsData ≠ [] ∧ ∀ item ∈ hostsData, SingleLine (writtenPort py ports item)) := by
  have hsingle : ∀ text ∈ proxyListTypes, SingleLine text := by decide
  have hlines : ∀ item ∈ hostsData, ∃ line,
      buildProxyListLine py item.data username password
        (String.ofList (GenerateRequest.proxyType ⟨types, ports⟩ lower))
        (String.ofList (GenerateRequest.defaultPort ⟨types, ports⟩)) = .ok line ∧
      NamesHost py item line ∧ HasPort (writtenPort py ports item) line := by
    intro item hitem
    refine buildProxyListLine_spec ?_ (hhosts item hitem)
    rw [String.toList_ofList]
    exact hsingle _ htype
  obtain ⟨lines, hbuilt, hlines⟩ := exists_mapM_eq_ok hlines
  exact ⟨_, ProxyListGenerateHandler.get_of_lines py lower hostsData username password htype hbuilt,
    listsHosts_iff hlines⟩

theorem get_shadowrocket
    (hhosts : ∀ item ∈ hostsData, ∃ host, hostOf item.data = .ok host ∧ SingleLine (py.str host))
    (husername : SingleLine username.toList) (hpassword : SingleLine password.toList)
    (htype : GenerateRequest.proxyType ⟨types, ports⟩ lower ∈ shadowrocketTypes) :
    ∃ rocket, ShadowrocketGenerateHandler.get py lower hostsData username password
        ⟨types, ports⟩ = .ok (some rocket) ∧
      (HasSections py hostsData (String.ofList (GenerateRequest.proxyType ⟨types, ports⟩ lower))
        rocket.body ↔ ∀ item ∈ hostsData, SingleLine (writtenPort py ports item)) := by
  have hsingle : ∀ text ∈ shadowrocketTypes, SingleLine text := by decide
  have hproxyType : SingleLine
      (String.ofList (GenerateRequest.proxyType ⟨types, ports⟩ lower)).toList := by
    rw [String.toList_ofList]
    exact hsingle _ htype
  obtain ⟨names, lines, hbuilt, hnames, hlines⟩ := buildShadowrocketConfig_spec py
    (fun item hitem => (hhosts item hitem).imp fun _ h => h.1) username password
      (String.ofList (GenerateRequest.proxyType ⟨types, ports⟩ lower))
      (String.ofList (GenerateRequest.defaultPort ⟨types, ports⟩))
  have hsafe : ∀ name ∈ names, SingleLine name := forall_mem_of_forall₂ (hnames.imp
    fun _ _ hname c hc => isLineBoundary_of_isSafe (isSafe_of_mem_name hname hc))
  have hgroup := singleLine_shadowrocketGroup
    fun name hname => hsafe name ((orderSelectedFirst_perm hostsData names
      (getSelectedHostData hostsData)).subset hname)
  have hports : List.Forall₂ (fun entry line => NamesProxy py
      (String.ofList (GenerateRequest.proxyType ⟨types, ports⟩ lower)) entry line ∧
        HasPort (writtenPort py ports entry.1) line) (hostsData.zipIdx 1) lines := by
    have hentries := (List.forall₂_and_left _ _).mpr
      ⟨fun entry hentry => hhosts entry.1 (List.fst_mem_of_mem_zipIdx hentry), hlines⟩
    exact hentries.imp fun _ _ h =>
      ⟨h.2.namesProxy, h.2.hasPort h.1 hproxyType husername hpassword⟩
  have hsections := hasSections_iff hports hgroup (prefix_shadowrocketGroup _)
    (suffix_shadowrocketGroup _)
  generalize unlines _ = body at hbuilt hsections
  refine ⟨⟨buildShadowrocketFilename username, body⟩, ?_, hsections⟩
  unfold ShadowrocketGenerateHandler.get
  dsimp only
  rw [if_neg (not_not.mpr htype)]
  exact bind_eq_ok_iff.mpr ⟨_, hbuilt, rfl⟩

/-- **No line of a file comes from the parameters.** The proxy list has one line for each host, and
the Shadowrocket file its four sections, exactly if there are hosts and the ports are single
lines. -/
theorem downloads_intact_iff {types' : List Text}
    (hhosts : ∀ item ∈ hostsData, ∃ host, hostOf item.data = .ok host ∧ SingleLine (py.str host))
    (husername : SingleLine username.toList) (hpassword : SingleLine password.toList)
    (htype : GenerateRequest.proxyType ⟨types, ports⟩ lower ∈ proxyListTypes)
    (htype' : GenerateRequest.proxyType ⟨types', ports⟩ lower ∈ shadowrocketTypes) :
    ∃ list rocket,
      ProxyListGenerateHandler.get py lower hostsData username password ⟨types, ports⟩ =
        .ok (some list) ∧
      ShadowrocketGenerateHandler.get py lower hostsData username password ⟨types', ports⟩ =
        .ok (some rocket) ∧
      (ListsHosts py hostsData list.body ∧
          HasSections py hostsData
            (String.ofList (GenerateRequest.proxyType ⟨types', ports⟩ lower)) rocket.body ↔
        hostsData ≠ [] ∧ ∀ item ∈ hostsData, SingleLine (writtenPort py ports item)) := by
  obtain ⟨list, hlist, hlists⟩ := get_proxyList username password hhosts htype
  obtain ⟨rocket, hrocket, hsections⟩ := get_shadowrocket hhosts husername hpassword htype'
  refine ⟨list, rocket, hlist, hrocket, ?_⟩
  rw [hlists, hsections]
  exact ⟨fun h => h.1, fun h => ⟨h, h.2⟩⟩

end Downloads

/-- An entry without a port. -/
def portless : List HostObject := [⟨0, Dict.set ∅ "host" (.str "a.example")⟩]

theorem hostOf_portless : ∀ item ∈ portless, ∃ host, hostOf item.data = .ok host ∧
    SingleLine (asciiBuiltins.str host) := by
  intro item hitem
  rw [List.mem_singleton.mp hitem]
  exact ⟨.str "a.example", rfl, by decide⟩

/-- With a port of one line both files are as they should be. -/
theorem downloads_intact_portless :
    ∃ list rocket,
      ProxyListGenerateHandler.get asciiBuiltins (fun text => text) portless "u" "p"
        ⟨[], ["8443".toList]⟩ = .ok (some list) ∧
      ShadowrocketGenerateHandler.get asciiBuiltins (fun text => text) portless "u" "p"
        ⟨[], ["8443".toList]⟩ = .ok (some rocket) ∧
      (ListsHosts asciiBuiltins portless list.body ∧
          HasSections asciiBuiltins portless "https" rocket.body ↔
        portless ≠ [] ∧ ∀ item ∈ portless,
          SingleLine (writtenPort asciiBuiltins ["8443".toList] item)) :=
  downloads_intact_iff hostOf_portless (by decide) (by decide) (by decide) (by decide)

/-- A port with a line break adds a line to the proxy list. -/
theorem not_downloads_intact :
    ¬ ∀ (hostsData : List HostObject) (username password : String) (types types' ports : List Text),
      (∀ item ∈ hostsData, ∃ host, hostOf item.data = .ok host ∧
        SingleLine (asciiBuiltins.str host)) →
      SingleLine username.toList → SingleLine password.toList →
      GenerateRequest.proxyType ⟨types, ports⟩ (fun text => text) ∈ proxyListTypes →
      GenerateRequest.proxyType ⟨types', ports⟩ (fun text => text) ∈ shadowrocketTypes →
      ∃ list rocket,
        ProxyListGenerateHandler.get asciiBuiltins (fun text => text) hostsData username password
          ⟨types, ports⟩ = .ok (some list) ∧
        ShadowrocketGenerateHandler.get asciiBuiltins (fun text => text) hostsData username password
          ⟨types', ports⟩ = .ok (some rocket) ∧
        ListsHosts asciiBuiltins hostsData list.body ∧
          HasSections asciiBuiltins hostsData
            (String.ofList (GenerateRequest.proxyType ⟨types', ports⟩ fun text => text))
            rocket.body := by
  intro h
  have htype : GenerateRequest.proxyType ⟨[], ["443\nFINAL,DIRECT".toList]⟩ (fun text => text) ∈
      proxyListTypes := by decide
  obtain ⟨list, -, hlist, -, hlists, -⟩ := h portless "u" "p" [] []
    ["443\nFINAL,DIRECT".toList] hostOf_portless (by decide) (by decide) htype (by decide)
  obtain ⟨list', hlist', hiff⟩ := get_proxyList "u" "p" hostOf_portless htype
  cases hlist.symm.trans hlist'
  have hport := (hiff.mp hlists).2 _ (List.mem_singleton_self _)
  revert hport
  decide

end PxManager.Export
