import PxManager.Core.Escape
import PxManager.Export.FileLines

/-!
# PxManager.Export.ShadowrocketFields

What a reader of the Shadowrocket file takes from it: the fields of each proxy, and the members of
the group.

Fields end at commas, and a backslash takes the next character as it is. Credentials are escaped
for that; hosts and ports are not, so they have to be free of both.
-/

namespace PxManager.Export

open PxManager.Core PxManager.Health

/-! ### Reading -/

/-- The text after a prefix. -/
def afterPrefix (front text : Text) : Option Text :=
  if front <+: text then some (text.drop front.length) else none

/-- The fields of a proxy. -/
structure ProxyFields where
  name : Text
  type : Text
  host : Text
  port : Text
  username : Text
  password : Text
  deriving DecidableEq

/-- The proxy of a line. -/
def readProxyLine (line : Text) : Option ProxyFields :=
  match splitUnescaped ',' [] false line with
  | [head, host, port, username, password] => do
      let host ← afterPrefix [' '] host
      let port ← afterPrefix [' '] port
      let username ← afterPrefix " username=".toList username
      let password ← afterPrefix " password=".toList password
      let type ← afterPrefix "= ".toList (head.dropWhile (· ≠ '='))
      return { name := (head.takeWhile (· ≠ '=')).dropLast, type, host, port, username, password }
  | _ => none

/-- The members of the group line. -/
def groupMembers (group : Text) : List Text :=
  ((group.splitOn ',').drop 1).map fun member => member.dropWhile (· = ' ')

/-- The lines of a section that are not blank. -/
def sectionLines (name : String) (text : Text) : List Text :=
  (((sections (splitlines text)).2.find? (·.1 = name.toList)).elim [] Prod.snd).filter (· ≠ [])

/-- A name that neither is that of another policy nor ends a field or a line. -/
structure IsProxyName (name : Text) : Prop where
  ne_proxy : name ≠ "PROXY".toList
  ne_direct : name ≠ "DIRECT".toList
  comma : ',' ∉ name
  equals : '=' ∉ name
  singleLine : SingleLine name

/-- What a reader takes from the file is what was written into it. -/
structure ReadsBack (py : Builtins) (hostsData : List HostObject)
    (username password proxyType defaultPort : String) (names : List Text) (text : Text) :
    Prop where
  built : List.Forall₂ (fun entry name =>
    buildShadowrocketProxyName py entry.1.data entry.2 = .ok name) (hostsData.zipIdx 1) names
  nodup : names.Nodup
  wellFormed : ∀ name ∈ names, IsProxyName name
  group : ∃ group members, sectionLines "Proxy Group" text = [group] ∧
    groupMembers group = members ++ ["DIRECT".toList] ∧ members.Perm names
  proxies : List.Forall₂ (fun entry line => ∃ name host,
    buildShadowrocketProxyName py entry.1.data entry.2 = .ok name ∧
      hostOf entry.1.data = .ok host ∧
        readProxyLine line = some
          { name := name
            type := proxyType.toList
            host := py.str host
            port := py.str (portOf entry.1.data defaultPort)
            username := username.toList
            password := password.toList }) (hostsData.zipIdx 1) (sectionLines "Proxy" text)

/-! ### Fields -/

/-- A text that is written into a field as it is. -/
def PlainField (s : Text) : Prop := SingleLine s ∧ ',' ∉ s ∧ '\\' ∉ s

instance (s : Text) : Decidable (PlainField s) :=
  inferInstanceAs (Decidable (SingleLine s ∧ ',' ∉ s ∧ '\\' ∉ s))

theorem escapeShadowrocketValue_eq (value : Text) :
    escapeShadowrocketValue value = escapeChars ['\\', ','] value :=
  flatMap_flatMap_escape (by decide) value

theorem afterPrefix_append (front text : Text) : afterPrefix front (front ++ text) = some text := by
  rw [afterPrefix, if_pos (List.prefix_append front text), List.drop_left]

section Fields

variable {proxyType username password : String} {name host port : Text}
  (hname : ',' ∉ name ∧ '\\' ∉ name ∧ '=' ∉ name)
  (hproxyType : ',' ∉ proxyType.toList ∧ '\\' ∉ proxyType.toList)
  (hhost : ',' ∉ host ∧ '\\' ∉ host) (hport : ',' ∉ port ∧ '\\' ∉ port)

include hname hproxyType hhost hport

/-- The fields of a proxy, without the escapes. -/
theorem splitUnescaped_proxyLineText :
    splitUnescaped ',' [] false (proxyLineText proxyType username password name host port) =
      [name ++ " = ".toList ++ proxyType.toList, ' ' :: host, ' ' :: port,
        " username=".toList ++ username.toList, " password=".toList ++ password.toList] := by
  have hline : proxyLineText proxyType username password name host port =
      (name ++ " = ".toList ++ proxyType.toList) ++ ',' :: ((' ' :: host) ++ ',' ::
        ((' ' :: port) ++ ',' :: (" username=".toList ++
          (escapeShadowrocketValue username.toList ++ ',' :: (" password=".toList ++
            (escapeShadowrocketValue password.toList ++ [])))))) := by
    have hcomma : ", ".toList = [',', ' '] := rfl
    have huser : ", username=".toList = ',' :: " username=".toList := rfl
    have hpass : ", password=".toList = ',' :: " password=".toList := rfl
    simp only [proxyLineText, hcomma, huser, hpass, List.append_assoc, List.cons_append,
      List.nil_append, List.append_nil]
  rw [hline, escapeShadowrocketValue_eq, escapeShadowrocketValue_eq,
    splitUnescaped_append_plain (by simp [hname, hproxyType]) (by simp [hname, hproxyType]),
    splitUnescaped_separator (by decide),
    splitUnescaped_append_plain (by simp [hhost]) (by simp [hhost]),
    splitUnescaped_separator (by decide),
    splitUnescaped_append_plain (by simp [hport]) (by simp [hport]),
    splitUnescaped_separator (by decide),
    splitUnescaped_append_plain (by decide) (by decide), splitUnescaped_append_escape,
    splitUnescaped_separator (by decide), splitUnescaped_append_plain (by decide) (by decide),
    splitUnescaped_append_escape]
  rfl

/-- The fields of a proxy are read back. -/
theorem readProxyLine_proxyLineText :
    readProxyLine (proxyLineText proxyType username password name host port) = some
      { name := name
        type := proxyType.toList
        host := host
        port := port
        username := username.toList
        password := password.toList } := by
  have hplain : ∀ c ∈ name ++ [' '], decide (c ≠ '=') = true := by
    intro c hc
    refine decide_eq_true ?_
    rintro rfl
    rcases List.mem_append.mp hc with hc | hc
    · exact hname.2.2 hc
    · exact absurd hc (by decide)
  have hhead : name ++ " = ".toList ++ proxyType.toList =
      (name ++ [' ']) ++ '=' :: ' ' :: proxyType.toList := by
    have hequals : " = ".toList = [' ', '=', ' '] := rfl
    simp [hequals]
  have hhost' : afterPrefix [' '] (' ' :: host) = some host := afterPrefix_append [' '] host
  have hport' : afterPrefix [' '] (' ' :: port) = some port := afterPrefix_append [' '] port
  have htype : afterPrefix "= ".toList ('=' :: ' ' :: proxyType.toList) = some proxyType.toList :=
    afterPrefix_append "= ".toList proxyType.toList
  rw [readProxyLine, splitUnescaped_proxyLineText hname hproxyType hhost hport]
  dsimp only
  rw [hhead, List.takeWhile_append_of_pos hplain, List.dropWhile_append_of_pos hplain,
    List.takeWhile_cons_of_neg (by decide), List.dropWhile_cons_of_neg (by decide),
    List.append_nil, List.dropLast_concat, afterPrefix_append, afterPrefix_append, hhost', hport',
    htype]
  rfl

end Fields

/-! ### The group -/

theorem intercalate_cons_map {names : List Text} (head : Text) :
    [','].intercalate (head :: names.map (' ' :: ·)) =
      head ++ names.flatMap (", ".toList ++ ·) := by
  induction names generalizing head with
  | nil => simp
  | cons name names ih =>
      rw [List.map_cons, List.intercalate_cons_cons, ih, List.flatMap_cons]
      simp [List.append_assoc]

theorem append_join {names : List Text} (h : names ≠ []) :
    ", ".toList ++ join ", " names = names.flatMap (", ".toList ++ ·) := by
  obtain ⟨name, names, rfl⟩ := List.exists_cons_of_ne_nil h
  clear h
  induction names generalizing name with
  | nil => simp [join]
  | cons name' names ih =>
      rw [join, List.intercalate_cons_cons, List.flatMap_cons, ← ih name', join]
      simp only [List.append_assoc]

/-- The members of the group are the names, in the order in which they were written. -/
theorem groupMembers_shadowrocketGroup {names : List Text} (hne : names ≠ [])
    (hcomma : ∀ name ∈ names, ',' ∉ name) (hspace : ∀ name ∈ names, name.head? ≠ some ' ') :
    groupMembers (shadowrocketGroup names) = names ++ ["DIRECT".toList] := by
  have hgroup : shadowrocketGroup names =
      [','].intercalate
        ("PROXY = select".toList :: (names ++ ["DIRECT".toList]).map (' ' :: ·)) := by
    rw [intercalate_cons_map, List.flatMap_append, ← append_join hne]
    show "PROXY = select, ".toList ++ join ", " names ++ ", DIRECT".toList = _
    have hselect : "PROXY = select, ".toList = "PROXY = select".toList ++ ", ".toList := rfl
    have hdirect : ", DIRECT".toList = ", ".toList ++ "DIRECT".toList := rfl
    rw [hselect, hdirect, List.flatMap_singleton]
    simp only [List.append_assoc]
  have hplain : ∀ member ∈ "PROXY = select".toList ::
      (names ++ ["DIRECT".toList]).map (' ' :: ·), ',' ∉ member := by
    simp only [List.forall_mem_cons, List.forall_mem_map, List.forall_mem_append]
    refine ⟨by decide, ?_, by decide, by simp⟩
    intro name hname
    rw [List.mem_cons, not_or]
    exact ⟨by decide, hcomma name hname⟩
  rw [groupMembers, hgroup, List.splitOn_intercalate ',' hplain (by simp), List.drop_succ_cons,
    List.drop_zero, List.map_map]
  refine (List.map_congr_left ?_).trans (List.map_id _)
  intro member hmember
  have hfirst : member.head? ≠ some ' ' := by
    rcases List.mem_append.mp hmember with h | h
    · exact hspace member h
    · rw [List.mem_singleton.mp h]
      decide
  rw [Function.comp_apply, List.dropWhile_cons_of_pos (by decide)]
  cases member with
  | nil => rfl
  | cons c member =>
      refine List.dropWhile_cons_of_neg ?_
      simpa using hfirst

/-! ### Names -/

variable {py : Builtins} {hostData : HostData} {index : Nat} {name : Text}

/-- A name begins with a safe character. -/
theorem head?_name (h : buildShadowrocketProxyName py hostData index = .ok name) :
    name.head? ≠ some ' ' := by
  obtain ⟨title, -, h⟩ := bind_eq_ok h
  cases h
  intro hhead
  split at hhead
  · exact absurd (Option.some.inj hhead) (by decide)
  · next hne =>
      obtain ⟨c, rest, hcons⟩ := List.exists_cons_of_ne_nil hne
      have hmem : c ∈ stripPunctuation (replaceUnsafe false (py.str title)) := by
        rw [hcons]
        exact List.mem_cons_self
      rw [hcons] at hhead
      have hsafe := isSafe_of_mem_stripPunctuation hmem
      rw [Option.some.inj hhead] at hsafe
      exact absurd hsafe (by decide)

theorem not_mem_name (h : buildShadowrocketProxyName py hostData index = .ok name) {c : Char}
    (hsafe : isSafe c = false) (hspace : c ≠ ' ') : c ∉ name := by
  intro hmem
  rcases isSafe_of_mem_name h hmem with hc | hc
  · rw [hsafe] at hc
    cases hc
  · exact hspace hc

theorem isProxyName (h : buildShadowrocketProxyName py hostData index = .ok name) :
    IsProxyName name := by
  obtain ⟨⟨front, hfront⟩, -⟩ := buildShadowrocketProxyName_spec h
  have hunderscore : '_' ∈ name := by simp [hfront]
  refine ⟨?_, ?_, not_mem_name h rfl (by decide), not_mem_name h rfl (by decide),
    fun c hc => isLineBoundary_of_isSafe (isSafe_of_mem_name h hc)⟩
  · rintro rfl
    exact absurd hunderscore (by decide)
  · rintro rfl
    exact absurd hunderscore (by decide)

/-! ### The file -/

section File

variable {hostsData : List HostObject} {username password proxyType defaultPort : String}

/-- The sections of a file of such lines. -/
theorem sectionLines_file {lines : List Text} {group : Text}
    (hsingle : ∀ line ∈ lines, SingleLine line)
    (hlines : ∀ line ∈ lines, line ≠ [] ∧ sectionName? line = none) (hgroup : SingleLine group)
    (hfront : "PROXY = select, ".toList <+: group) :
    sectionLines "Proxy"
        (unlines (shadowrocketHeader ++ lines ++ shadowrocketFooter group)) = lines ∧
      sectionLines "Proxy Group"
        (unlines (shadowrocketHeader ++ lines ++ shadowrocketFooter group)) = [group] := by
  have hsections := sections_splitlines hsingle (fun line hline => (hlines line hline).2) hgroup
    hfront
  have hblank : [([] : Text)].filter (· ≠ []) = [] := rfl
  refine ⟨?_, ?_⟩
  · rw [sectionLines, hsections]
    show (lines ++ [[]]).filter (· ≠ []) = lines
    rw [List.filter_append, hblank, List.append_nil, List.filter_eq_self]
    exact fun line hline => decide_eq_true (hlines line hline).1
  · have hne : group ≠ [] := by
      rintro rfl
      exact absurd hfront (by decide)
    rw [sectionLines, hsections]
    show ([group] ++ [[]]).filter (· ≠ []) = [group]
    rw [List.filter_append, hblank, List.append_nil, List.filter_eq_self]
    exact List.forall_mem_singleton.mpr (decide_eq_true hne)

/-- **A reader of the file takes from it what was written into it.** -/
theorem buildShadowrocketConfig_readsBack (hne : hostsData ≠ [])
    (hhosts : ∀ item ∈ hostsData, ∃ host, hostOf item.data = .ok host ∧ PlainField (py.str host))
    (hports : ∀ item ∈ hostsData, PlainField (py.str (portOf item.data defaultPort)))
    (husername : SingleLine username.toList) (hpassword : SingleLine password.toList)
    (hproxyType : proxyType.toList ∈ shadowrocketTypes) :
    ∃ names text,
      buildShadowrocketConfig py hostsData username password proxyType defaultPort = .ok text ∧
        ReadsBack py hostsData username password proxyType defaultPort names text := by
  have hplainType : ∀ text ∈ shadowrocketTypes, PlainField text := by decide
  obtain ⟨htypeLine, htypeComma, htypeBackslash⟩ := hplainType _ hproxyType
  obtain ⟨names, lines, hbuilt, hnames, hlines⟩ := buildShadowrocketConfig_spec py
    (fun item hitem => (hhosts item hitem).imp fun _ h => h.1) username password proxyType
      defaultPort
  have hwellFormed : ∀ name ∈ names, IsProxyName name :=
    forall_mem_of_forall₂ (hnames.imp fun _ _ h => isProxyName h)
  have hperm := orderSelectedFirst_perm hostsData names
    (getSelectedHostData hostsData)
  have hlinesSingle : ∀ line ∈ lines, SingleLine line := by
    refine forall_mem_of_forall₂ (((List.forall₂_and_left _ _).mpr
      ⟨fun entry hentry => List.fst_mem_of_mem_zipIdx hentry, hlines⟩).imp ?_)
    rintro entry line ⟨hitem, hline⟩
    obtain ⟨host, hhost, hplain⟩ := hhosts entry.1 hitem
    exact (hline.hasPort ⟨host, hhost, hplain.1⟩ htypeLine husername hpassword).singleLine_iff.mpr
      (hports entry.1 hitem).1
  have hlinesNe : ∀ line ∈ lines, line ≠ [] ∧ sectionName? line = none := by
    refine forall_mem_of_forall₂ (hlines.imp ?_)
    intro entry line hline
    refine ⟨?_, hline.namesProxy.sectionName?_eq_none⟩
    obtain ⟨name, host, -, -, rfl⟩ := hline
    simp [proxyLineText]
  have hgroupSingle := singleLine_shadowrocketGroup fun name hname =>
    (hwellFormed name (hperm.subset hname)).singleLine
  obtain ⟨hproxies, hgroup⟩ := sectionLines_file hlinesSingle hlinesNe hgroupSingle
    (prefix_shadowrocketGroup _)
  have hnil : names ≠ [] := by
    rintro rfl
    have hlength := hnames.length_eq
    rw [List.length_zipIdx] at hlength
    exact hne (List.length_eq_zero_iff.mp hlength)
  refine ⟨names, _, hbuilt, hnames, ?_, hwellFormed, ?_, ?_⟩
  · exact names_nodup (mapM_eq_ok_iff.mpr hnames)
  · refine ⟨_, orderSelectedFirst hostsData names (getSelectedHostData hostsData), hgroup,
      groupMembers_shadowrocketGroup ?_ ?_ ?_, hperm⟩
    · rintro heq
      rw [heq] at hperm
      exact hnil hperm.symm.eq_nil
    · exact fun name hname => (hwellFormed name (hperm.subset hname)).comma
    · intro name hname
      have hall := forall_mem_of_forall₂ (hnames.imp fun _ _ h => head?_name h)
      exact hall name (hperm.subset hname)
  · rw [hproxies]
    refine ((List.forall₂_and_left _ _).mpr
      ⟨fun entry hentry => List.fst_mem_of_mem_zipIdx hentry, hlines⟩).imp ?_
    rintro entry line ⟨hitem, name, host, hname, hhost, rfl⟩
    obtain ⟨host', hhost', -, hcomma, hbackslash⟩ := hhosts entry.1 hitem
    cases hhost.symm.trans hhost'
    exact ⟨name, host, hname, hhost, readProxyLine_proxyLineText
      ⟨not_mem_name hname rfl (by decide), not_mem_name hname rfl (by decide),
        not_mem_name hname rfl (by decide)⟩ ⟨htypeComma, htypeBackslash⟩ ⟨hcomma, hbackslash⟩
      (hports entry.1 hitem).2⟩

end File

theorem plainField_of_isDigit {s : Text} (h : ∀ c ∈ s, c.isDigit = true) : PlainField s := by
  refine ⟨singleLine_of_isSpace fun c hc => isSpace_of_isDigit (h c hc), ?_, ?_⟩
  · intro hmem
    exact absurd (h _ hmem) (by decide)
  · intro hmem
    exact absurd (h _ hmem) (by decide)

/-- An entry with a title. -/
def titledHost (identity : Nat) (host title : String) : HostObject :=
  ⟨identity, ((Dict.set ∅ "host" (.str host)).set "port" (.int 443)).set "title" (.str title)⟩

/-- A title that looks like the name of another entry, one without a letter, and one that is
repeated. -/
def clashingTitles : List HostObject :=
  [titledHost 0 "a.example" "x_2", titledHost 1 "b.example" "x", titledHost 2 "c.example" "!,=",
    titledHost 3 "d.example" "x"]

theorem buildShadowrocketConfig_readsBack_clashingTitles :
    ∃ names text,
      buildShadowrocketConfig asciiBuiltins clashingTitles "u,\\" "p" "https" "443" = .ok text ∧
      ReadsBack asciiBuiltins clashingTitles "u,\\" "p" "https" "443" names text := by
  refine buildShadowrocketConfig_readsBack (by decide) ?_ ?_ (by decide) (by decide) (by decide)
  · intro item hitem
    simp only [clashingTitles, List.mem_cons, List.not_mem_nil, or_false] at hitem
    rcases hitem with rfl | rfl | rfl | rfl
    · exact ⟨.str "a.example", rfl, by decide⟩
    · exact ⟨.str "b.example", rfl, by decide⟩
    · exact ⟨.str "c.example", rfl, by decide⟩
    · exact ⟨.str "d.example", rfl, by decide⟩
  · have hports : ∀ item ∈ clashingTitles, ∀ c ∈ asciiBuiltins.str (portOf item.data "443"),
        c.isDigit = true := by decide
    exact fun item hitem => plainField_of_isDigit (hports item hitem)

/-- A host that ends in a backslash. -/
def backslashHost : List HostObject := [⟨0, Dict.set ∅ "host" (.str "a\\")⟩]

/-- The backslash takes the comma after the host. -/
theorem not_readsBack_backslashHost : ¬ ∀ (hostsData : List HostObject)
    (username password proxyType defaultPort : String), hostsData ≠ [] →
      (∀ item ∈ hostsData, ∃ host, hostOf item.data = .ok host ∧
        SingleLine (asciiBuiltins.str host) ∧ ',' ∉ asciiBuiltins.str host) →
      (∀ item ∈ hostsData, ∀ c ∈ asciiBuiltins.str (portOf item.data defaultPort),
        c.isDigit = true) →
      SingleLine username.toList → SingleLine password.toList →
      proxyType.toList ∈ shadowrocketTypes →
      ∃ names text,
        buildShadowrocketConfig asciiBuiltins hostsData username password proxyType defaultPort =
          .ok text ∧
        ReadsBack asciiBuiltins hostsData username password proxyType defaultPort names text := by
  intro h
  obtain ⟨names, text, hbuild, hread⟩ := h backslashHost "u" "p" "https" "443" (by decide)
    (by
      intro item hitem
      rw [List.mem_singleton.mp hitem]
      exact ⟨.str "a\\", rfl, by decide⟩)
    (by
      intro item hitem
      rw [List.mem_singleton.mp hitem]
      decide)
    (by decide) (by decide) (by decide)
  have hvalue : (buildShadowrocketConfig asciiBuiltins backslashHost "u" "p" "https" "443").map
      (fun text => (sectionLines "Proxy" text).map readProxyLine) = .ok [none] := by
    decide +kernel
  rw [hbuild] at hvalue
  have hlines : (sectionLines "Proxy" text).map readProxyLine = [none] := Except.ok.inj hvalue
  have hproxies := hread.proxies
  generalize sectionLines "Proxy" text = lines at hlines hproxies
  cases hproxies with
  | cons hline hrest =>
      obtain ⟨name, host, -, -, hline⟩ := hline
      rw [List.map_cons, hline] at hlines
      cases hlines

end PxManager.Export
