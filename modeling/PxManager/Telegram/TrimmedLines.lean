import PxManager.Core.Newlines
import PxManager.Telegram.Rows

/-!
# PxManager.Telegram.TrimmedLines

The Telegram proxies of a text depend on its trimmed lines only. Line numbers are in errors alone,
so lines that are accepted at one place are accepted at any other, with the same rows.

All errors are `ValueError`s, which is the one error that `validate_tg_proxies` handles.
-/

namespace PxManager.Telegram

open PxManager.Core PxManager.Mtg

variable {py : Builtins} {checkNetloc isIpAddress : Text → Bool}

theorem mtproxySecretMode_number {proxyKind : ProxyKind} {secret : Text} {n : Nat}
    {mode : Option SecretMode} (h : mtproxySecretMode n proxyKind secret = .ok mode) (m : Nat) :
    mtproxySecretMode m proxyKind secret = .ok mode := by
  cases proxyKind with
  | mtproxy =>
      rw [mtproxySecretMode] at h ⊢
      split at h
      · exact h
      · cases h
  | socks5 => exact h

theorem parseParameters_number {proxyKind : ProxyKind} {query : List (Text × Text)} {n : Nat}
    {item : TgProxyHost} (h : parseParameters py isIpAddress n proxyKind query = .ok item)
    (m : Nat) : parseParameters py isIpAddress m proxyKind query = .ok item := by
  unfold parseParameters at h ⊢
  obtain ⟨hserver, h⟩ := of_guard_eq_ok h
  obtain ⟨hvalid, h⟩ := of_guard_eq_ok h
  obtain ⟨hport, h⟩ := of_guard_eq_ok h
  rw [if_neg hserver, if_neg hvalid, if_neg hport]
  dsimp only at h ⊢
  split at h
  · obtain ⟨hrange, h⟩ := of_guard_eq_ok h
    obtain ⟨hsecret, h⟩ := of_guard_eq_ok h
    obtain ⟨mode, hmode, h⟩ := bind_eq_ok h
    rw [if_neg hrange, if_neg hsecret, mtproxySecretMode_number hmode m]
    exact h
  · cases h

/-- A link that is accepted on one line is accepted on any other. -/
theorem parseTgProxyHealthHost_number {line : Text} {n : Nat} {item : TgProxyHost}
    (h : parseTgProxyHealthHost py checkNetloc isIpAddress line n = .ok item) (m : Nat) :
    parseTgProxyHealthHost py checkNetloc isIpAddress line m = .ok item := by
  unfold parseTgProxyHealthHost at h ⊢
  split at h
  · cases h
  · split at h
    · cases h
    · next hscheme =>
        rw [if_neg hscheme]
        split at h
        · next hproxy =>
            rw [if_pos hproxy]
            exact parseParameters_number h m
        · next hproxy =>
            rw [if_neg hproxy]
            split at h
            · next hsocks =>
                rw [if_pos hsocks]
                exact parseParameters_number h m
            · cases h

/-- The rows of lines are those of the trimmed lines, from any number on. -/
theorem parseLines_trimmed (seenHosts : List Text) (n m : Nat) (lines : List Text)
    (items : List TgProxyHost) :
    parseLines py checkNetloc isIpAddress seenHosts n lines = .ok items ↔
      parseLines py checkNetloc isIpAddress seenHosts m (trimmed lines) = .ok items := by
  induction lines generalizing seenHosts n m items with
  | nil => exact Iff.rfl
  | cons line lines ih =>
      rw [trimmed_cons_of_strip, parseLines]
      split
      · exact ih seenHosts (n + 1) m items
      · next hblank =>
          rw [parseLines, strip_strip, if_neg hblank, bind_eq_ok_iff, bind_eq_ok_iff]
          refine exists_congr ?_
          intro item
          refine and_congr ⟨fun h => parseTgProxyHealthHost_number h m,
            fun h => parseTgProxyHealthHost_number h n⟩ ?_
          split
          · exact ih seenHosts (n + 1) (m + 1) items
          · rw [bind_eq_ok_iff, bind_eq_ok_iff]
            exact exists_congr fun hosts => and_congr_left' (ih _ (n + 1) (m + 1) hosts)

/-- Texts with the same trimmed lines have the same rows. -/
theorem parseTgProxyHealthHosts_congr {s t : Text} (h : trimmedLines s = trimmedLines t)
    {items : List TgProxyHost}
    (hs : parseTgProxyHealthHosts py checkNetloc isIpAddress s = .ok items) :
    parseTgProxyHealthHosts py checkNetloc isIpAddress t = .ok items := by
  have hlines := (parseLines_trimmed [] 1 1 (splitlines s) items).mp hs
  rw [← trimmedLines, h] at hlines
  exact (parseLines_trimmed [] 1 1 (splitlines t) items).mpr hlines

/-- Of every trimmed line a row was made, or its host was there before. -/
theorem parse_of_mem_trimmed {seenHosts : List Text} {n : Nat} {lines : List Text}
    {items : List TgProxyHost}
    (h : parseLines py checkNetloc isIpAddress seenHosts n lines = .ok items) :
    ∀ line ∈ trimmed lines, ∃ item,
      (∀ m, parseTgProxyHealthHost py checkNetloc isIpAddress line m = .ok item) ∧
        (item ∈ items ∨ item.host ∈ seenHosts ∨ ∃ item' ∈ items, item'.host = item.host) := by
  induction lines generalizing seenHosts n items with
  | nil =>
      intro line hline
      cases hline
  | cons rawLine lines ih =>
      rw [trimmed_cons_of_strip]
      simp only [parseLines] at h
      split at h
      · next hblank =>
          rw [if_pos hblank]
          exact ih h
      · next hblank =>
          rw [if_neg hblank]
          obtain ⟨item, hitem, h⟩ := bind_eq_ok h
          intro line hline
          split at h
          · next hseen =>
              rcases List.mem_cons.mp hline with rfl | hline
              · exact ⟨item, parseTgProxyHealthHost_number hitem, .inr (.inl hseen)⟩
              · exact ih h line hline
          · obtain ⟨rest, hrest, h⟩ := bind_eq_ok h
            cases h
            rcases List.mem_cons.mp hline with rfl | hline
            · exact ⟨item, parseTgProxyHealthHost_number hitem, .inl List.mem_cons_self⟩
            · obtain ⟨item', hitem', hmem⟩ := ih hrest line hline
              refine ⟨item', hitem', ?_⟩
              rcases hmem with hmem | hmem | ⟨other, hother, heq⟩
              · exact .inl (List.mem_cons_of_mem item hmem)
              · rcases List.mem_cons.mp hmem with heq | hmem
                · exact .inr (.inr ⟨item, List.mem_cons_self, heq.symm⟩)
                · exact .inr (.inl hmem)
              · exact .inr (.inr ⟨other, List.mem_cons_of_mem item hother, heq⟩)

/-! ### Errors -/

/-- The one error of a computation is `ValueError`. -/
def RaisesValueError {α : Type} (x : Except PyError α) : Prop :=
  ∀ error, x = .error error → ∃ text, error = .valueError text

theorem RaisesValueError.ok {α : Type} (a : α) : RaisesValueError (.ok a) := by
  intro error h
  cases h

theorem RaisesValueError.lineError {α : Type} (lineNumber : Nat) (text : String) :
    RaisesValueError (.error (lineError lineNumber text) : Except PyError α) := by
  intro error h
  cases h
  exact ⟨_, rfl⟩

theorem RaisesValueError.bind {α β : Type} {x : Except PyError α} {f : α → Except PyError β}
    (hx : RaisesValueError x) (hf : ∀ a, RaisesValueError (f a)) : RaisesValueError (x >>= f) := by
  intro error h
  cases x with
  | error error' =>
      cases h
      exact hx error rfl
  | ok a => exact hf a error h

theorem RaisesValueError.guard {α : Type} {p : Prop} [Decidable p] (lineNumber : Nat)
    (text : String) {f : PUnit → Except PyError α} (hf : RaisesValueError (f ⟨⟩)) :
    RaisesValueError (if p then throw (Telegram.lineError lineNumber text) >>= f else f ⟨⟩) := by
  split
  · exact RaisesValueError.lineError lineNumber text
  · exact hf

theorem raisesValueError_parseParameters (n : Nat) (proxyKind : ProxyKind)
    (query : List (Text × Text)) :
    RaisesValueError (parseParameters py isIpAddress n proxyKind query) := by
  unfold parseParameters
  refine .guard n _ (.guard n _ (.guard n _ ?_))
  dsimp only
  split
  · refine .guard n _ (.guard n _ (.bind ?_ fun mode => .ok _))
    cases proxyKind with
    | mtproxy =>
        rw [mtproxySecretMode]
        split
        · exact .ok _
        · exact .lineError n _
    | socks5 => exact .ok _
  · exact .lineError n _

theorem raisesValueError_parse (line : Text) (n : Nat) :
    RaisesValueError (parseTgProxyHealthHost py checkNetloc isIpAddress line n) := by
  unfold parseTgProxyHealthHost
  split
  · intro error h
    cases h
    exact ⟨none, rfl⟩
  · split
    · exact .lineError n _
    · split
      · exact raisesValueError_parseParameters n .mtproxy _
      · split
        · exact raisesValueError_parseParameters n .socks5 _
        · exact .lineError n _

theorem raisesValueError_parseLines (seenHosts : List Text) (n : Nat) (lines : List Text) :
    RaisesValueError (parseLines py checkNetloc isIpAddress seenHosts n lines) := by
  induction lines generalizing seenHosts n with
  | nil => exact .ok []
  | cons line lines ih =>
      rw [parseLines]
      split
      · exact ih seenHosts (n + 1)
      · refine (raisesValueError_parse _ n).bind ?_
        intro item
        split
        · exact ih seenHosts (n + 1)
        · exact (ih _ (n + 1)).bind fun hosts => .ok _

end PxManager.Telegram
