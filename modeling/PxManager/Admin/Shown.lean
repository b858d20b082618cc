import PxManager.Admin.Save

/-!
# PxManager.Admin.Shown

The Telegram links of the index page, beside those that the admin page has accepted.

The parser takes a link in any spelling that `urlparse` takes: with capitals in its scheme, or with
tabs and control characters. The index page shows the lines that begin with `tg://` as it stands.
-/

namespace PxManager.Admin

open PxManager.Core PxManager.Login PxManager.Telegram

variable {py : Builtins} {checkNetloc isIpAddress : Text → Bool}

/-- The links that are shown are the lines that were accepted. -/
structure ShowsAccepted (py : Builtins) (checkNetloc isIpAddress : Text → Bool)
    (tgProxies : Text) (shown : List Text) : Prop where
  /-- No line is hidden, and none is added. -/
  lines : shown = trimmedLines tgProxies
  /-- A health entry was taken from each, or it repeats the host of one. -/
  accepted : ∃ items, parseTgProxyHealthHosts py checkNetloc isIpAddress tgProxies = .ok items ∧
    ∀ line ∈ shown, ∃ item,
      (∀ lineNumber, parseTgProxyHealthHost py checkNetloc isIpAddress line lineNumber = .ok item) ∧
        ∃ item' ∈ items, item' = item ∨ item'.host = item.host

/-- What the index page shows of an accepted text. -/
theorem readTgProxies_of_post {dataDir dataDir' : DataDir} {request : AdminRequest}
    {page : AdminPage}
    (hpost : AdminHandler.post py checkNetloc isIpAddress dataDir request = .ok (dataDir', page))
    (hsaved : page.saved = true) :
    (∃ items, parseTgProxyHealthHosts py checkNetloc isIpAddress
        (getArgument request.tgProxies []) = .ok items) ∧
      readTgProxies dataDir' = .ok ((trimmedLines (getArgument request.tgProxies [])).filter
        fun line => "tg://".toList.isPrefixOf line) := by
  rcases post_cases dataDir request with ⟨items, hitems⟩ | ⟨-, text, hrejected⟩
  · refine ⟨⟨items, hitems⟩, ?_⟩
    rw [post_of_parse hitems] at hpost
    cases hpost
    rw [readTgProxies, readTgProxiesText, readOptionalText_getArgument,
      ← trimmedLines_translateNewlines]
    -- a blank line does not begin with `tg://`
    refine congrArg Except.ok ?_
    rw [trimmedLines, trimmed, List.filter_filter]
    refine List.filter_congr ?_
    intro line _
    cases line with
    | nil => rfl
    | cons c line => simp
  · rw [hrejected] at hpost
    cases hpost
    cases hsaved

/-- **The links of an accepted post are shown exactly if they all begin with `tg://`.** -/
theorem showsAccepted_iff {dataDir dataDir' : DataDir} {request : AdminRequest} {page : AdminPage}
    (hpost : AdminHandler.post py checkNetloc isIpAddress dataDir request = .ok (dataDir', page))
    (hsaved : page.saved = true) :
    (∃ shown, readTgProxies dataDir' = .ok shown ∧
        ShowsAccepted py checkNetloc isIpAddress (getArgument request.tgProxies []) shown) ↔
      ∀ line ∈ trimmedLines (getArgument request.tgProxies []), "tg://".toList <+: line := by
  obtain ⟨⟨items, hitems⟩, hread⟩ := readTgProxies_of_post hpost hsaved
  have hall : (trimmedLines (getArgument request.tgProxies [])).filter
      (fun line => "tg://".toList.isPrefixOf line) = trimmedLines (getArgument request.tgProxies [])
        ↔ ∀ line ∈ trimmedLines (getArgument request.tgProxies []), "tg://".toList <+: line := by
    simp only [List.filter_eq_self, List.isPrefixOf_iff_prefix]
  rw [hread, ← hall]
  constructor
  · rintro ⟨shown, hshown, hlines, -⟩
    rw [← Except.ok.inj hshown] at hlines
    exact hlines
  · intro hlines
    refine ⟨_, rfl, hlines, items, hitems, ?_⟩
    intro line hline
    rw [hlines] at hline
    obtain ⟨item, hparse, hmem⟩ := parse_of_mem_trimmed hitems line hline
    refine ⟨item, hparse, ?_⟩
    rcases hmem with hmem | hmem | ⟨item', hitem', heq⟩
    · exact ⟨item, hmem, .inl rfl⟩
    · cases hmem
    · exact ⟨item', hitem', .inr heq⟩

/-- A link in capitals. -/
def capitals : AdminRequest :=
  ⟨[], ["TG://socks?server=a&port=1".toList]⟩

theorem post_capitals :
    ∃ dataDir page, AdminHandler.post asciiBuiltins (fun _ => true) (fun _ => false) ⟨none, none⟩
      capitals = .ok (dataDir, page) ∧ page.saved = true := by
  have hitems : ∃ items, parseTgProxyHealthHosts asciiBuiltins (fun _ => true) (fun _ => false)
      (getArgument capitals.tgProxies []) = .ok items := exists_of_isOk (by decide +kernel)
  obtain ⟨items, hitems⟩ := hitems
  exact ⟨_, _, post_of_parse hitems, rfl⟩

/-- It is accepted, and not shown. -/
theorem not_showsAccepted_capitals : ¬ ∀ dataDir request dataDir' page,
    AdminHandler.post asciiBuiltins (fun _ => true) (fun _ => false) dataDir request =
        .ok (dataDir', page) →
      page.saved = true → ∃ shown, readTgProxies dataDir' = .ok shown ∧
        ShowsAccepted asciiBuiltins (fun _ => true) (fun _ => false)
          (getArgument request.tgProxies []) shown := by
  intro h
  obtain ⟨dataDir, page, hpost, hsaved⟩ := post_capitals
  obtain ⟨shown, hshown, hlines, -⟩ := h _ _ dataDir page hpost hsaved
  rw [(readTgProxies_of_post hpost hsaved).2] at hshown
  rw [← Except.ok.inj hshown] at hlines
  revert hlines
  decide +kernel

/-- In small letters it is shown. -/
theorem showsAccepted_small : ∃ dataDir shown, readTgProxies dataDir = .ok shown ∧
    ShowsAccepted asciiBuiltins (fun _ => true) (fun _ => false)
      (getArgument ["tg://socks?server=a&port=1".toList] []) shown := by
  have hitems : ∃ items, parseTgProxyHealthHosts asciiBuiltins (fun _ => true) (fun _ => false)
      (getArgument ["tg://socks?server=a&port=1".toList] []) = .ok items :=
    exists_of_isOk (by decide +kernel)
  obtain ⟨items, hitems⟩ := hitems
  have hpost : AdminHandler.post asciiBuiltins (fun _ => true) (fun _ => false) ⟨none, none⟩
      ⟨[], ["tg://socks?server=a&port=1".toList]⟩ = _ := post_of_parse hitems
  exact ⟨_, (showsAccepted_iff hpost rfl).mpr (by decide +kernel)⟩

end PxManager.Admin
