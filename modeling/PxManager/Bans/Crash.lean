import Mathlib.Data.List.Induction
import PxManager.Bans.Calls
import PxManager.Bans.Persistent

/-!
# PxManager.Bans.Crash

A crash loses no ban, prolongs none and invents none.

Memory and disk agree *up to expired bans* (`SameBans`), and so does any store that is built
from the disk (`Recovers`). A method starts with deletions of expired bans, which save after each
one but change nothing that matters (`Quiet`), then changes the bans at most once, and saves when
it has. The disks on the way are therefore as good as the bans before that change, or as the bans
after it.

`_record_failure` compares the banned IPs before and after. Dropping the expired ban of the IP and
banning it again in the same call would leave the set as it was, and the new ban unsaved. It
cannot happen: with the ban go all counters, and every limit is at least 2.
-/

namespace PxManager.Bans

open PxManager.Core

variable {cfg : BanConfig}

/-! ### Bans up to expired ones -/

/-- Two ban dictionaries have the same bans in force at `t` and later. -/
def SameBans (t : ℚ) (bans bans' : Dict String Ban) : Prop :=
  ∀ ip ban, ↑t < ban.expiresAt → (bans.get? ip = some ban ↔ bans'.get? ip = some ban)

namespace SameBans

variable {t t' : ℚ} {a b c : Dict String Ban}

theorem refl (t : ℚ) (a : Dict String Ban) : SameBans t a a := fun _ _ _ => Iff.rfl

theorem symm (h : SameBans t a b) : SameBans t b a := fun ip ban hlt => (h ip ban hlt).symm

theorem trans (h : SameBans t a b) (h' : SameBans t b c) : SameBans t a c :=
  fun ip ban hlt => (h ip ban hlt).trans (h' ip ban hlt)

theorem advance (h : SameBans t a b) (ht : t ≤ t') : SameBans t' a b :=
  fun ip ban hlt => h ip ban ((WithTop.coe_le_coe.mpr ht).trans_lt hlt)

/-- Dropping the entry of an IP that is not banned. -/
theorem erase {s : BanStore} {ip : String} (h : ¬ s.Banned ip t) :
    SameBans t (s.bans.erase ip) s.bans := by
  intro ip' ban hlt
  rw [Dict.get?_erase]
  split
  · next heq =>
      subst heq
      exact ⟨fun h' => (by cases h'), fun h' => absurd ⟨ban, h', hlt⟩ h⟩
  · exact Iff.rfl

/-- Dropping expired entries. -/
theorem of_entries_filter {d : Dict String Ban}
    (h : d.entries = a.entries.filter fun e => ↑t < e.2.expiresAt) : SameBans t d a := by
  intro ip ban hlt
  rw [← Dict.mem_entries_iff, h, List.mem_filter, Dict.mem_entries_iff]
  simp [hlt]

theorem banned_iff {s s' : BanStore} (h : SameBans t s.bans s'.bans) (ip : String) :
    s.Banned ip t ↔ s'.Banned ip t := by
  constructor
  · rintro ⟨ban, hget, hlt⟩
    exact ⟨ban, (h ip ban hlt).mp hget, hlt⟩
  · rintro ⟨ban, hget, hlt⟩
    exact ⟨ban, (h ip ban hlt).mpr hget, hlt⟩

end SameBans

/-! ### Queries -/

/-- The answers to a list of `is_banned` calls, made one after another. -/
def queryAnswers {σ : Type} [BanSelf σ] (self : σ) : List (String × ℚ) → List Bool
  | [] => []
  | (ip, t) :: queries =>
      let (banned, self) := BanStore.isBanned ip t self
      banned :: queryAnswers self queries

/-- The queries are made at non-decreasing times, none before `t`. -/
def QueriesFrom (t : ℚ) (queries : List (String × ℚ)) : Prop :=
  queries.Pairwise (fun q q' => q.2 ≤ q'.2) ∧ ∀ q ∈ queries, t ≤ q.2

/-- `is_banned` answers alike on stores with the same bans, and leaves the bans the same. -/
theorem isBanned_sameBans {σ : Type} [BanSelf σ] (ip : String) (t : ℚ) (self : σ) :
    ((BanStore.isBanned ip t self).1 = true ↔ (BanSelf.attrs self).Banned ip t) ∧
      SameBans t (BanSelf.attrs (BanStore.isBanned ip t self).2).bans (BanSelf.attrs self).bans := by
  unfold BanStore.isBanned
  cases hget : (BanSelf.attrs self).bans.get? ip with
  | none =>
      refine ⟨⟨fun h => (by cases h), ?_⟩, SameBans.refl _ _⟩
      rintro ⟨ban, h, -⟩
      rw [hget] at h; cases h
  | some ban =>
      dsimp only
      by_cases hexp : ban.expiresAt ≤ t
      · have hnot : ¬ (BanSelf.attrs self).Banned ip t := by
          rintro ⟨ban', h, hlt⟩
          rw [hget, Option.some.injEq] at h
          exact absurd hexp (not_le.mpr (h ▸ hlt))
        rw [if_pos hexp]
        refine ⟨⟨fun h => (by cases h), fun h => absurd h hnot⟩, ?_⟩
        rw [BanSelf.attrs_delete]
        exact SameBans.erase hnot
      · rw [if_neg hexp]
        exact ⟨⟨fun _ => ⟨ban, hget, not_le.mp hexp⟩, fun _ => rfl⟩, SameBans.refl _ _⟩

/-- Two stores with the same bans in force answer every later sequence of queries alike. -/
theorem queryAnswers_congr {σ τ : Type} [BanSelf σ] [BanSelf τ] {t : ℚ}
    {queries : List (String × ℚ)} (hq : QueriesFrom t queries) {self : σ} {other : τ}
    (h : SameBans t (BanSelf.attrs self).bans (BanSelf.attrs other).bans) :
    queryAnswers self queries = queryAnswers other queries := by
  induction queries generalizing t self other with
  | nil => rfl
  | cons q queries ih =>
      obtain ⟨ip, t'⟩ := q
      obtain ⟨hpair, hfrom⟩ := hq
      obtain ⟨hhead, hpair⟩ := List.pairwise_cons.mp hpair
      have hnow := h.advance (hfrom (ip, t') List.mem_cons_self)
      obtain ⟨hself, hsame⟩ := isBanned_sameBans ip t' self
      obtain ⟨hother, hsame'⟩ := isBanned_sameBans ip t' other
      have hhd : (BanStore.isBanned ip t' self).1 = (BanStore.isBanned ip t' other).1 := by
        rw [Bool.eq_iff_iff, hself, hother, hnow.banned_iff]
      simp only [queryAnswers, hhd]
      congr 1
      exact ih ⟨hpair, hhead⟩ (hsame.trans (hnow.trans hsame'.symm))

/-! ### Loading what was saved -/

theorem loadExpiry?_expiryToJson (now : ℚ) (x : WithTop ℚ) :
    loadExpiry? now (expiryToJson x) = if ↑now < x then some (.ok x) else none := by
  cases x with
  | top => simp [expiryToJson, loadExpiry?]
  | coe q => simp [expiryToJson, loadExpiry?]

/-- A ban that `_save` wrote is read back unchanged, unless it has expired. -/
theorem loadItem_banToJson (now : ℚ) (bans : Dict String Ban) (ban : Ban) :
    loadItem now bans (banToJson ban) =
      .ok (if ↑now < ban.expiresAt then bans.set ban.ip ban else bans) := by
  obtain ⟨ip, expiresAt, os, browser, device⟩ := ban
  by_cases h : (now : WithTop ℚ) < expiresAt
  · simp [loadItem, banToJson, Json.get?, Json.asStr?, loadExpiry?_expiryToJson, h]
  · simp [loadItem, banToJson, Json.get?, loadExpiry?_expiryToJson, h]
    rfl

/-- What the loop of `_load` builds from a list of saved bans. -/
def loadBans (now : ℚ) (bans : List Ban) (d : Dict String Ban) : Dict String Ban :=
  bans.foldl (fun d ban => if ↑now < ban.expiresAt then d.set ban.ip ban else d) d

theorem foldlM_loadItem (now : ℚ) (bans : List Ban) (d : Dict String Ban) :
    (bans.map banToJson).foldlM (loadItem now) d = .ok (loadBans now bans d) := by
  induction bans generalizing d with
  | nil => rfl
  | cons ban bans ih =>
      rw [List.map_cons, List.foldlM_cons, loadItem_banToJson]
      exact ih _

theorem get?_loadBans {now : ℚ} {bans : List Ban} (hnodup : (bans.map Ban.ip).Nodup)
    {d : Dict String Ban} (hd : ∀ ban ∈ bans, d.get? ban.ip = none) {ip : String} {ban : Ban} :
    (loadBans now bans d).get? ip = some ban ↔
      (ban ∈ bans ∧ ban.ip = ip ∧ ↑now < ban.expiresAt) ∨ d.get? ip = some ban := by
  induction bans generalizing d with
  | nil => simp [loadBans]
  | cons b bans ih =>
      simp only [List.map_cons, List.nodup_cons] at hnodup
      obtain ⟨hb, hbans⟩ := List.forall_mem_cons.mp hd
      have hne : ∀ b' ∈ bans, b'.ip ≠ b.ip := fun b' hb' heq =>
        hnodup.1 (heq ▸ List.mem_map.mpr ⟨b', hb', rfl⟩)
      -- an item for another IP, or an expired one, may be left out
      have hskip : ¬ (b.ip = ip ∧ (now : WithTop ℚ) < b.expiresAt) →
          (ban ∈ bans ∧ ban.ip = ip ∧ (now : WithTop ℚ) < ban.expiresAt ↔
            ban ∈ b :: bans ∧ ban.ip = ip ∧ (now : WithTop ℚ) < ban.expiresAt) := by
        intro hother
        rw [List.mem_cons]
        refine and_congr_left ?_
        intro hban
        constructor
        · exact Or.inr
        · rintro (rfl | hmem)
          · exact absurd hban hother
          · exact hmem
      rw [loadBans, List.foldl_cons, ← loadBans]
      by_cases hlive : (now : WithTop ℚ) < b.expiresAt
      · -- `b` is taken in, and no later item is about its IP
        rw [if_pos hlive, ih hnodup.2 fun b' hb' => by
          rw [Dict.get?_set, if_neg (hne b' hb'), hbans b' hb']]
        rw [Dict.get?_set]
        by_cases hip : ip = b.ip
        · subst hip
          have : ¬ (ban ∈ bans ∧ ban.ip = b.ip ∧ (now : WithTop ℚ) < ban.expiresAt) :=
            fun h => hne ban h.1 h.2.1
          rw [if_pos rfl, hb]
          simp only [this, false_or, Option.some.injEq, List.mem_cons, reduceCtorEq, or_false]
          constructor
          · rintro rfl
            exact ⟨Or.inl rfl, rfl, hlive⟩
          · rintro ⟨rfl | hmem, hip, -⟩
            · rfl
            · exact absurd hip (hne ban hmem)
        · rw [if_neg hip, hskip fun h => hip h.1.symm]
      · -- `b` has expired
        rw [if_neg hlive, ih hnodup.2 hbans, hskip fun h => hlive h.2]

/-- The disk brings the bans back: whatever is built from it at `t` or later has the given bans in
force, once its constructor is done. -/
def Recovers (cfg : BanConfig) (t : ℚ) (disk : Disk) (bans : Dict String Ban) : Prop :=
  ∀ now₁ now₂, t ≤ now₁ → now₁ ≤ now₂ →
    ∃ self, PersistentBanStore.load cfg now₁ now₂ disk = .ok self ∧
    SameBans now₂ self.attrs.bans bans

theorem Recovers.advance {t t' : ℚ} {disk : Disk} {bans : Dict String Ban}
    (h : Recovers cfg t disk bans) (ht : t ≤ t') : Recovers cfg t' disk bans :=
  fun now₁ now₂ h₁ h₂ => h now₁ now₂ (ht.trans h₁) h₂

theorem Recovers.congr {t : ℚ} {disk : Disk} {bans bans' : Dict String Ban}
    (h : Recovers cfg t disk bans) (hs : SameBans t bans bans') : Recovers cfg t disk bans' :=
  fun now₁ now₂ h₁ h₂ =>
    let ⟨self, hload, hsame⟩ := h now₁ now₂ h₁ h₂
    ⟨self, hload, hsame.trans (hs.advance (h₁.trans h₂))⟩

namespace PersistentBanStore

/-- `cleanup_expired` of the base class leaves the bans in force as they are. -/
theorem cleanupExpired_sameBans {s : BanStore} (hs : s.WF) (cfg : BanConfig) (t : ℚ) :
    SameBans t (BanStore.cleanupExpired cfg t s).bans s.bans :=
  SameBans.of_entries_filter (BanStore.cleanupExpired_spec hs cfg t).1

variable (cfg) in
/-- What the constructor builds from a document that `_save` wrote. -/
theorem load_bansToJson {bans : Dict String Ban}
    (hbans : ∀ ip ban, bans.get? ip = some ban → ban.ip = ip) (now₁ now₂ : ℚ) {disk : Disk}
    (hdisk : disk.state = some (.document (bansToJson bans))) :
    ∃ loaded : BanStore, loaded.WF ∧ SameBans now₁ loaded.bans bans ∧
      load cfg now₁ now₂ disk =
        .ok (({ attrs := loaded, disk, trail := [] } :
          PersistentBanStore).cleanupExpired cfg now₂) := by
  set saved := bans.values.mergeSort fun ban ban' => ban.ip ≤ ban'.ip with hsaved
  have hperm : saved.Perm bans.values := List.mergeSort_perm ..
  have hnodup : (saved.map Ban.ip).Nodup := by
    rw [(hperm.map Ban.ip).nodup_iff, Dict.values, List.map_map,
      List.map_congr_left fun e he => hbans e.1 e.2 (Dict.mem_entries_iff.mp he)]
    exact bans.nodup
  have hget : ∀ ip ban, (loadBans now₁ saved ∅).get? ip = some ban ↔
      bans.get? ip = some ban ∧ ↑now₁ < ban.expiresAt := by
    intro ip ban
    rw [get?_loadBans hnodup fun _ _ => Dict.get?_empty _, hperm.mem_iff, Dict.mem_values_iff]
    constructor
    · rintro (⟨⟨ip', hget⟩, rfl, hlt⟩ | h)
      · exact ⟨(hbans ip' ban hget).symm ▸ hget, hlt⟩
      · simp at h
    · rintro ⟨hget, hlt⟩
      exact Or.inl ⟨⟨ip, hget⟩, hbans ip ban hget, hlt⟩
  have hwf : BanStore.WF { BanStore.init with bans := loadBans now₁ saved ∅ } :=
    wf_of_bans fun ip ban h => hbans ip ban ((hget ip ban).mp h).1
  refine ⟨_, hwf, ?_, ?_⟩
  · intro ip ban hlt
    rw [hget]
    exact and_iff_left hlt
  · rw [load_document hdisk, tooLong_bansToJson, bansToJson, ← hsaved, if_neg Bool.false_ne_true,
      loadDocument, foldlM_loadItem]
    rfl

/-- A saved document brings its bans back. -/
theorem recovers_bansToJson {bans : Dict String Ban}
    (hbans : ∀ ip ban, bans.get? ip = some ban → ban.ip = ip) (t : ℚ) {disk : Disk}
    (hdisk : disk.state = some (.document (bansToJson bans))) : Recovers cfg t disk bans := by
  intro now₁ now₂ _ h₂
  obtain ⟨loaded, hwf, hsame, hload⟩ := load_bansToJson cfg hbans now₁ now₂ hdisk
  refine ⟨_, hload, ?_⟩
  rw [cleanupExpired_attrs]
  exact (cleanupExpired_sameBans hwf cfg now₂).trans (hsame.advance h₂)

variable (cfg) in
/-- Building a store looks only at the state file. -/
theorem load_attrs_congr {disk disk' : Disk} (hstate : disk'.state = disk.state) (now₁ now₂ : ℚ) :
    (load cfg now₁ now₂ disk').map attrs = (load cfg now₁ now₂ disk).map attrs := by
  simp only [load, hstate]
  split
  · split
    · rfl
    · unfold loadDocument
      split
      · next items _ _ =>
          cases items.foldlM (loadItem now₁) ∅ with
          | error e => rfl
          | ok bans => exact congrArg Except.ok (by rw [cleanupExpired_attrs, cleanupExpired_attrs])
      · rfl
  · rfl

theorem recovers_of_state_eq {t : ℚ} {disk disk' : Disk} {bans : Dict String Ban}
    (hstate : disk'.state = disk.state) (h : Recovers cfg t disk bans) :
    Recovers cfg t disk' bans := by
  intro now₁ now₂ h₁ h₂
  obtain ⟨self, hload, hsame⟩ := h now₁ now₂ h₁ h₂
  have hcongr := load_attrs_congr cfg hstate now₁ now₂
  rw [hload] at hcongr
  cases hload' : load cfg now₁ now₂ disk' with
  | error e => rw [hload'] at hcongr; cases hcongr
  | ok self' =>
      rw [hload'] at hcongr
      have hattrs : self'.attrs = self.attrs := Except.ok.inj hcongr
      exact ⟨self', rfl, hattrs ▸ hsame⟩

/-! ### Methods and the disks on their way -/

/-- Everything that matters between two methods: the attributes keep their invariant, and the
disk brings the bans in memory back. -/
structure Synced (cfg : BanConfig) (t : ℚ) (p : PersistentBanStore) : Prop where
  wf : p.attrs.WF
  recovers : Recovers cfg t p.disk p.attrs.bans

theorem Synced.advance {t t' : ℚ} {self : PersistentBanStore} (h : Synced cfg t self)
    (ht : t ≤ t') : Synced cfg t' self := ⟨h.wf, h.recovers.advance ht⟩

/-- Steps that change nothing that matters at `t`: they keep the bans in force, and every disk on
the way brings them back. -/
structure Quiet (cfg : BanConfig) (t : ℚ) (p p' : PersistentBanStore) : Prop where
  wf : p'.attrs.WF
  bans : SameBans t p'.attrs.bans p.attrs.bans
  disk : Recovers cfg t p'.disk p.attrs.bans
  trail : ∀ disk ∈ p'.trail, disk ∈ p.trail ∨ Recovers cfg t disk p.attrs.bans

theorem Quiet.refl {t : ℚ} {self : PersistentBanStore} (h : Synced cfg t self) :
    Quiet cfg t self self :=
  ⟨h.wf, SameBans.refl _ _, h.recovers, fun _ hd => Or.inl hd⟩

theorem Quiet.synced {t : ℚ} {self self' : PersistentBanStore} (h : Quiet cfg t self self') :
    Synced cfg t self' := ⟨h.wf, h.disk.congr h.bans.symm⟩

theorem Quiet.trans {t : ℚ} {a b c : PersistentBanStore} (h : Quiet cfg t a b)
    (h' : Quiet cfg t b c) : Quiet cfg t a c where
  wf := h'.wf
  bans := h'.bans.trans h.bans
  disk := h'.disk.congr h.bans
  trail disk hd := (h'.trail disk hd).elim (h.trail disk) fun hr => Or.inr (hr.congr h.bans)

/-- The disks of one `_save`: the old state file until the last step, the new one after it. -/
theorem mem_save_trail {self : PersistentBanStore} {disk : Disk} (h : disk ∈ self.save.trail) :
    disk ∈ self.trail ∨ disk.state = self.disk.state ∨
      disk.state = some (.document (bansToJson self.attrs.bans)) := by
  simp only [save, List.mem_append, List.mem_cons, List.not_mem_nil, or_false] at h
  rcases h with h | rfl | rfl | rfl
  · exact Or.inl h
  · exact Or.inr (Or.inl rfl)
  · exact Or.inr (Or.inl rfl)
  · exact Or.inr (Or.inr rfl)

theorem recovers_save {self : PersistentBanStore} (h : self.attrs.WF) (t : ℚ) :
    Recovers cfg t self.save.disk self.attrs.bans :=
  recovers_bansToJson h.ip_eq t rfl

/-- Saving the bans that the disk has already. -/
theorem Quiet.save {t : ℚ} {self : PersistentBanStore} (h : Synced cfg t self) :
    Quiet cfg t self self.save where
  wf := h.wf
  bans := SameBans.refl _ _
  disk := recovers_save h.wf t
  trail disk hd := by
    rcases mem_save_trail hd with hd | hd | hd
    · exact Or.inl hd
    · exact Or.inr (recovers_of_state_eq hd h.recovers)
    · exact Or.inr (recovers_bansToJson h.wf.ip_eq t hd)

theorem Quiet.saveIfChanged {t : ℚ} {self : PersistentBanStore} (h : Synced cfg t self)
    (before : List String) : Quiet cfg t self (self.saveIfChanged before) := by
  unfold PersistentBanStore.saveIfChanged
  split
  · exact Quiet.refl h
  · exact Quiet.save h

/-- Changing only counters. -/
theorem Quiet.of_attrs {t : ℚ} {self : PersistentBanStore} (h : Synced cfg t self)
    {attrs : BanStore} (hwf : attrs.WF) (hbans : SameBans t attrs.bans self.attrs.bans) :
    Quiet cfg t self { self with attrs } :=
  ⟨hwf, hbans, h.recovers, fun _ hd => Or.inl hd⟩

/-- Deleting the ban of an IP that is not banned any more. -/
theorem Quiet.delete {t : ℚ} {self : PersistentBanStore} (h : Synced cfg t self) {ip : String}
    (hban : ¬ self.attrs.Banned ip t) : Quiet cfg t self (self.delete ip) := by
  have hstep := Quiet.of_attrs h (h.wf.delete ip) (SameBans.erase hban)
  unfold PersistentBanStore.delete
  dsimp only
  split
  · exact hstep.trans (Quiet.save hstep.synced)
  · exact hstep

theorem Quiet.isBanned {t : ℚ} {self : PersistentBanStore} (h : Synced cfg t self) (ip : String) :
    Quiet cfg t self (BanStore.isBanned ip t self).2 := by
  obtain ⟨hban, -⟩ := isBanned_sameBans ip t self
  unfold BanStore.isBanned at hban ⊢
  cases hget : (BanSelf.attrs self).bans.get? ip with
  | none => exact Quiet.refl h
  | some ban =>
      rw [hget] at hban
      dsimp only at hban ⊢
      split
      · next hexp =>
          rw [if_pos hexp] at hban
          exact Quiet.delete h fun h' => by simpa using hban.mpr h'
      · exact Quiet.refl h

theorem Quiet.foldl_delete {t : ℚ} {ips : List String} {self : PersistentBanStore}
    (h : Synced cfg t self) (hips : ∀ ip ∈ ips, ¬ self.attrs.Banned ip t) :
    Quiet cfg t self (ips.foldl (fun self ip => BanSelf.delete ip self) self) := by
  induction ips generalizing self with
  | nil => exact Quiet.refl h
  | cons ip ips ih =>
      obtain ⟨hip, hips⟩ := List.forall_mem_cons.mp hips
      have hstep := Quiet.delete h hip
      exact hstep.trans (ih hstep.synced fun ip' hip' h' =>
        hips ip' hip' ((hstep.bans.banned_iff ip').mp h'))

theorem Quiet.cleanupExpired {t : ℚ} {self : PersistentBanStore} (h : Synced cfg t self) :
    Quiet cfg t self (self.cleanupExpired cfg t) := by
  have hexpired : ∀ ip ∈ ((BanSelf.attrs self).bans.entries.filter
      fun e => e.2.expiresAt ≤ (t : WithTop ℚ)).map Prod.fst, ¬ self.attrs.Banned ip t := by
    rintro ip hip ⟨ban, hget, hlt⟩
    obtain ⟨⟨ip', ban'⟩, hmem, rfl⟩ := List.mem_map.mp hip
    obtain ⟨hentry, hexp⟩ := List.mem_filter.mp hmem
    have hget' : self.attrs.bans.get? ip' = some ban' := Dict.mem_entries_iff.mp hentry
    rw [hget, Option.some.injEq] at hget'
    exact not_le.mpr hlt (hget' ▸ of_decide_eq_true hexp)
  have hdelete := Quiet.foldl_delete h hexpired
  have heq : (BanStore.cleanupExpired cfg t self).attrs = BanStore.cleanupExpired cfg t self.attrs :=
    BanStore.cleanupExpired_attrs cfg t self
  have hwf : (BanStore.cleanupExpired cfg t self).attrs.WF := by
    rw [heq]
    exact h.wf.cleanupExpired cfg t
  have hbase := hdelete.trans (Quiet.of_attrs hdelete.synced hwf (SameBans.refl _ _))
  exact hbase.trans (Quiet.saveIfChanged hbase.synced _)

/-- What a whole method guarantees: the store is synced again, and every disk on the way brings
back the bans before the method, or those after it. -/
structure CrashSafe (cfg : BanConfig) (t : ℚ) (p p' : PersistentBanStore) : Prop where
  synced : Synced cfg t p'
  trail : ∀ disk ∈ p'.trail,
    disk ∈ p.trail ∨ Recovers cfg t disk p.attrs.bans ∨ Recovers cfg t disk p'.attrs.bans

theorem Quiet.crashSafe {t : ℚ} {self self' : PersistentBanStore} (h : Quiet cfg t self self') :
    CrashSafe cfg t self self' :=
  ⟨h.synced, fun disk hd => (h.trail disk hd).imp_right Or.inl⟩

/-- A change of the bans followed by a `_save`. -/
theorem CrashSafe.save {t : ℚ} {self : PersistentBanStore} {disk : Disk}
    (hwf : self.attrs.WF) {bans : Dict String Ban} (hdisk : Recovers cfg t self.disk bans)
    (hd : disk ∈ self.save.trail) :
    disk ∈ self.trail ∨ Recovers cfg t disk bans ∨ Recovers cfg t disk self.attrs.bans := by
  rcases mem_save_trail hd with hd | hd | hd
  · exact Or.inl hd
  · exact Or.inr (Or.inl (recovers_of_state_eq hd hdisk))
  · exact Or.inr (Or.inr (recovers_bansToJson hwf.ip_eq t hd))

theorem CrashSafe.delete {t : ℚ} {self : PersistentBanStore} (h : Synced cfg t self)
    (ip : String) : CrashSafe cfg t self (self.delete ip) := by
  have hwf := h.wf.delete ip
  unfold PersistentBanStore.delete
  dsimp only
  split
  · refine ⟨⟨hwf, ?_⟩, ?_⟩
    · exact @recovers_save cfg { self with attrs := self.attrs.delete ip } hwf t
    · intro disk hd
      exact @CrashSafe.save cfg t { self with attrs := self.attrs.delete ip } disk hwf _
        h.recovers hd
  · next hnone =>
      refine (Quiet.of_attrs h hwf (SameBans.erase ?_)).crashSafe
      rintro ⟨ban, hget, -⟩
      simp [Dict.contains, hget] at hnone

/-- `_record_failure` of the base class makes its file steps in `is_banned`. -/
theorem recordFailure_disk (cfg : BanConfig) (type : FailureType) (ip : String)
    (failureLimit : Nat) (client : Option AccessLogClient) (t now : ℚ)
    (self : PersistentBanStore) :
    let self' := BanStore.recordFailure cfg type ip failureLimit client t now self
    self'.disk = (BanStore.isBanned ip t self).2.disk ∧
      self'.trail = (BanStore.isBanned ip t self).2.trail := by
  dsimp only [BanStore.recordFailure]
  split
  · exact ⟨rfl, rfl⟩
  · split <;> exact ⟨rfl, rfl⟩

theorem CrashSafe.recordFailure {t : ℚ} {self : PersistentBanStore} (h : Synced cfg t self)
    (type : FailureType) (ip : String) {failureLimit : Nat} (hlimit : 2 ≤ failureLimit)
    (client : Option AccessLogClient) (now : ℚ) :
    CrashSafe cfg t self (self.recordFailure cfg type ip failureLimit client t now) := by
  have hquiet := Quiet.isBanned h ip
  obtain ⟨hdisk, htrail⟩ := recordFailure_disk cfg type ip failureLimit client t now self
  have hattrs := BanStore.recordFailure_attrs cfg type ip failureLimit client t now self
  have hwf := h.wf.recordFailure cfg type ip failureLimit client t now
  unfold PersistentBanStore.recordFailure
  generalize BanStore.recordFailure cfg type ip failureLimit client t now self = self₂ at *
  change self₂.attrs = BanStore.recordFailure cfg type ip failureLimit client t now self.attrs
    at hattrs
  rw [← hattrs] at hwf
  have hrecovers : Recovers cfg t self₂.disk self.attrs.bans := hdisk ▸ hquiet.disk
  have htrail' : ∀ disk ∈ self₂.trail, disk ∈ self.trail ∨ Recovers cfg t disk self.attrs.bans :=
    fun disk hd => hquiet.trail disk (htrail ▸ hd)
  -- Unless a ban starts, the bans in force stay the same.
  have hsame : SameBans t self₂.attrs.bans self.attrs.bans →
      CrashSafe cfg t self (self₂.saveIfChanged self.attrs.bans.keys) := by
    intro hbans
    have hstep : Quiet cfg t self self₂ := ⟨hwf, hbans, hrecovers, htrail'⟩
    exact (hstep.trans (Quiet.saveIfChanged hstep.synced _)).crashSafe
  rcases BanStore.recordFailure_cases h.wf cfg type ip failureLimit client t now with
    ⟨-, heq⟩ | ⟨hban, hlim, hbans, -⟩ | ⟨hban, -, hbans, -⟩
  · exact hsame (by rw [hattrs, heq]; exact SameBans.refl _ _)
  · -- A ban starts. Its IP had none, not even an expired one, so the set of IPs has changed.
    rw [← hattrs] at hbans
    have hnew : self.attrs.bans.get? ip = none := by
      cases hget : self.attrs.bans.get? ip with
      | none => rfl
      | some ban =>
          rw [h.wf.no_failures ip ban hget] at hlim
          simp [recentFailures] at hlim
          omega
    have hchanged : sameKeys self₂.attrs.bans.keys self.attrs.bans.keys = false := by
      have hmem : ip ∈ self₂.attrs.bans.keys := by simp [Dict.keys, hbans]
      rw [Dict.get?_eq_none_iff] at hnew
      rw [← Bool.not_eq_true, sameKeys, Bool.and_eq_true, List.all_eq_true]
      exact fun hall => hnew (by simpa using hall.1 ip hmem)
    have hsave : self₂.saveIfChanged self.attrs.bans.keys = self₂.save := by
      rw [saveIfChanged, hchanged]; rfl
    rw [hsave]
    refine ⟨⟨hwf, recovers_save hwf t⟩, ?_⟩
    intro disk hd
    rcases CrashSafe.save hwf hrecovers hd with hd | hd
    · exact (htrail' disk hd).imp_right Or.inl
    · exact Or.inr hd
  · refine hsame ?_
    rw [← hattrs] at hbans
    rw [Dict.ext hbans]
    exact SameBans.erase hban

end PersistentBanStore

/-! ### Runs and crashes -/

/-- A call of a method of the store. -/
inductive StoreOp
  | call (op : Op)
  | delete (ip : String)

/-- A call and the two clock readings it may make: `_record_failure` reads the clock in
`is_banned` and again for the failure, the other methods only at `t`. -/
structure StoreCall where
  op : StoreOp
  t : ℚ
  now : ℚ
  le : t ≤ now

namespace PersistentBanStore

/-- Perform a call on the store. -/
def perform (cfg : BanConfig) (self : PersistentBanStore) (c : StoreCall) : PersistentBanStore :=
  match c.op with
  | .call (.recordFailure type ip client) =>
      self.recordFailure cfg type ip type.limit client c.t c.now
  | .call (.recordSuccess ip) => self.recordSuccess ip
  | .call (.isBanned ip) => (BanStore.isBanned ip c.t self).2
  | .call .activeBans => (self.activeBans cfg c.t).2
  | .call .cleanupExpired => self.cleanupExpired cfg c.t
  | .delete ip => self.delete ip

/-- The store after a run of calls. -/
def run (cfg : BanConfig) (self : PersistentBanStore) (calls : List StoreCall) :
    PersistentBanStore :=
  calls.foldl (perform cfg) self

/-- One call is crash safe, and leaves the store synced. -/
theorem CrashSafe.perform {self : PersistentBanStore} {c : StoreCall} (h : Synced cfg c.t self) :
    CrashSafe cfg c.t self (self.perform cfg c) := by
  obtain ⟨op, t, now, le⟩ := c
  cases op with
  | call op =>
      cases op with
      | recordFailure type ip client =>
          exact CrashSafe.recordFailure h type ip (by cases type <;> decide) client now
      | recordSuccess ip =>
          exact (Quiet.of_attrs h (h.wf.recordSuccess ip) (SameBans.refl _ _)).crashSafe
      | isBanned ip => exact (Quiet.isBanned h ip).crashSafe
      | activeBans => exact (Quiet.cleanupExpired h).crashSafe
      | cleanupExpired => exact (Quiet.cleanupExpired h).crashSafe
  | delete ip => exact CrashSafe.delete h ip

/-- A run leaves the store synced. -/
theorem Synced.run {t₀ t : ℚ} {self : PersistentBanStore} {calls : List StoreCall}
    (h : Synced cfg t₀ self) (hcalls : calls.Pairwise fun c c' => c.now ≤ c'.t)
    (hstart : ∀ c ∈ calls, t₀ ≤ c.t) (ht₀ : t₀ ≤ t) (ht : ∀ c ∈ calls, c.now ≤ t) :
    Synced cfg t (self.run cfg calls) := by
  induction calls generalizing t₀ self with
  | nil => exact h.advance ht₀
  | cons c calls ih =>
      obtain ⟨hc, hcalls⟩ := List.pairwise_cons.mp hcalls
      have hstep := (CrashSafe.perform (h.advance (hstart c List.mem_cons_self))).synced
      exact ih hstep hcalls (fun c' hc' => c.le.trans (hc c' hc'))
        (c.le.trans (ht c List.mem_cons_self)) fun c' hc' => ht c' (List.mem_cons_of_mem _ hc')

end PersistentBanStore

open PersistentBanStore

/-- The state file is absent, or one that the store wrote. -/
def StoreWritten (disk : Disk) : Prop :=
  disk.state = none ∨ ∃ bans : Dict String Ban,
    (∀ ip ban, bans.get? ip = some ban → ban.ip = ip) ∧
      disk.state = some (.document (bansToJson bans))

/-- A store built from the disk at `t` or later has the bans in force that `p` has, and answers
every sequence of `is_banned` calls as `p` would. -/
def RestoresAs (cfg : BanConfig) (t : ℚ) (disk : Disk) (p : PersistentBanStore) : Prop :=
  ∀ now₁ now₂ queries, t ≤ now₁ → now₁ ≤ now₂ → QueriesFrom now₂ queries →
    ∃ restored, load cfg now₁ now₂ disk = .ok restored ∧
      SameBans now₂ restored.attrs.bans p.attrs.bans ∧
      queryAnswers restored queries = queryAnswers p queries

theorem Recovers.restoresAs {t : ℚ} {disk : Disk} {p : PersistentBanStore}
    (h : Recovers cfg t disk p.attrs.bans) : RestoresAs cfg t disk p := by
  intro now₁ now₂ queries h₁ h₂ hq
  obtain ⟨restored, hload, hsame⟩ := h now₁ now₂ h₁ h₂
  exact ⟨restored, hload, hsame, queryAnswers_congr hq hsame⟩

variable (cfg) in
/-- Building the store is crash safe as well. -/
theorem load_crashSafe {disk : Disk} (hdisk : StoreWritten disk) {now₁ now₂ : ℚ}
    (h : now₁ ≤ now₂) : ∃ start, load cfg now₁ now₂ disk = .ok start ∧ Synced cfg now₂ start ∧
      ∀ disk' ∈ disk :: start.trail, Recovers cfg now₂ disk' start.attrs.bans := by
  rcases hdisk with hnone | ⟨bans, hbans, hsome⟩
  · have hload : ∀ now₁ now₂, load cfg now₁ now₂ disk = .ok ⟨BanStore.init, disk, []⟩ :=
      fun now₁ now₂ => by simp only [load, hnone]; rfl
    have hrec : Recovers cfg now₂ disk BanStore.init.bans := fun now₁ now₂ _ _ =>
      ⟨_, hload now₁ now₂, SameBans.refl _ _⟩
    exact ⟨_, hload now₁ now₂, ⟨BanStore.WF.init, hrec⟩, by simpa using hrec⟩
  · obtain ⟨loaded, hwf, hsame, hload⟩ := load_bansToJson cfg hbans now₁ now₂ hsome
    have hsynced : Synced cfg now₂ ⟨loaded, disk, []⟩ :=
      ⟨hwf, (recovers_bansToJson hbans now₂ hsome).congr (hsame.symm.advance h)⟩
    have hclean := Quiet.cleanupExpired hsynced
    refine ⟨_, hload, hclean.synced, List.forall_mem_cons.mpr ⟨?_, ?_⟩⟩
    · exact hsynced.recovers.congr hclean.bans.symm
    · intro disk' hd
      rcases hclean.trail disk' hd with hd | hd
      · simp at hd
      · exact hd.congr hclean.bans.symm

/-- **Crashes are transparent.** A store is built from a state file that is absent or that a
store wrote, and makes any calls. Whenever the process dies, a store that is built from the disk
afterwards has the bans of the interrupted one: those before or after the call that was
interrupted, and those after it when it had completed. -/
theorem persistentBanStore_crash_transparent (cfg : BanConfig) (disk : Disk)
    (hdisk : StoreWritten disk) (now₁ now₂ : ℚ) (hnow : now₁ ≤ now₂) (calls : List StoreCall)
    (hcalls : calls.Pairwise fun c c' => c.now ≤ c'.t) (hstart : ∀ c ∈ calls, now₂ ≤ c.t) :
    ∃ start, load cfg now₁ now₂ disk = .ok start ∧
      -- A crash while the store is being built.
      (∀ disk' ∈ disk :: start.trail, RestoresAs cfg now₂ disk' start) ∧
      -- A crash between two calls.
      (∀ t, now₂ ≤ t → (∀ c ∈ calls, c.now ≤ t) →
        RestoresAs cfg t (start.run cfg calls).disk (start.run cfg calls)) ∧
      -- A crash during a call.
      ∀ c, now₂ ≤ c.t → (∀ c' ∈ calls, c'.now ≤ c.t) →
        let before := { start.run cfg calls with trail := [] }
        let after := before.perform cfg c
        ∀ disk' ∈ before.disk :: after.trail,
          RestoresAs cfg c.t disk' before ∨ RestoresAs cfg c.t disk' after := by
  obtain ⟨start, hload, hsynced, htrail⟩ := load_crashSafe cfg hdisk hnow
  refine ⟨start, hload, fun disk' hd => (htrail disk' hd).restoresAs, fun t ht hcs => ?_,
    fun c hc hcs => ?_⟩
  · exact (hsynced.run hcalls hstart ht hcs).recovers.restoresAs
  · have hbefore : Synced cfg c.t { start.run cfg calls with trail := [] } :=
      let h := hsynced.run hcalls hstart hc hcs
      ⟨h.wf, h.recovers⟩
    refine List.forall_mem_cons.mpr ⟨Or.inl hbefore.recovers.restoresAs, ?_⟩
    intro disk' hd
    rcases (CrashSafe.perform hbefore).trail disk' hd with hd | hd | hd
    · simp at hd
    · exact Or.inl hd.restoresAs
    · exact Or.inr hd.restoresAs

/-- The ban that five failures start survives a crash. -/
theorem persistentBanStore_crash_transparent_five_failures :
    ∃ start, load appConfig 0 0 ⟨none, none⟩ = .ok start ∧
      let failed := start.run appConfig
        (List.replicate 5 ⟨.call (.recordFailure .login "192.0.2.1" none), 1, 1, le_rfl⟩)
      queryAnswers failed [("192.0.2.1", 3)] = [true] ∧ RestoresAs appConfig 1 failed.disk failed := by
  obtain ⟨start, hload, -, hbetween, -⟩ := persistentBanStore_crash_transparent appConfig
    ⟨none, none⟩ (Or.inl rfl) 0 0 le_rfl
    (List.replicate 5 ⟨.call (.recordFailure .login "192.0.2.1" none), 1, 1, le_rfl⟩)
    (by simp) (by simp)
  refine ⟨start, hload, ?_, hbetween 1 (by simp) (by simp)⟩
  cases hload
  decide +kernel

end PxManager.Bans
