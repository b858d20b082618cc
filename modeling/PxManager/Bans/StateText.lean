import PxManager.Bans.Crash
import PxManager.Core.JsonRoundTrip

/-!
# PxManager.Bans.StateText

`PersistentBanStore` over files with texts. Its methods are those of `Persistent`, except that
`_save` writes the text of `json.dumps`, character by character, and `_load` reads a text.

`Shown` relates a store over texts to one over documents. It holds after every method if it holds
before, because what is written is read as the same document; so what is known of crashes at the
level of documents is known of texts.
-/

namespace PxManager.Bans

open PxManager.Core

/-- The files in the state directory, with the texts in them. -/
structure TextDisk where
  state : Option Text
  tmp : Option Text

/-- `PersistentBanStore`, where Python writes numbers as `py` says. -/
structure TextBanStore (py : Builtins) where
  attrs : BanStore
  disk : TextDisk
  /-- The disk after each file step so far, oldest first. -/
  trail : List TextDisk

/-- The text that `_save` writes: `json.dumps(data, indent=2, sort_keys=True) + "\n"`. -/
def stateText (py : Builtins) (bans : Dict String Ban) : Text :=
  dumpsValue py (asciiStyle (some 2)) 0 (bansToJson bans) ++ ['\n']

namespace TextBanStore

variable {py : Builtins}

/-- `PersistentBanStore._save`. The temporary file is empty when it has been opened, and has one
character more with each step. -/
def save (self : TextBanStore py) : TextBanStore py :=
  let text := stateText py self.attrs.bans
  let written := text.inits.map fun front => { self.disk with tmp := some front }
  let replaced : TextDisk := { state := some text, tmp := none }
  { self with disk := replaced, trail := self.trail ++ written ++ [replaced] }

/-- `PersistentBanStore.delete`. -/
def delete (ip : String) (self : TextBanStore py) : TextBanStore py :=
  let hadBan := self.attrs.bans.contains ip
  let self := { self with attrs := self.attrs.delete ip }
  if hadBan then self.save else self

@[simp] theorem delete_attrs (ip : String) (self : TextBanStore py) :
    (self.delete ip).attrs = self.attrs.delete ip := by
  unfold delete
  dsimp only
  split <;> rfl

instance : BanSelf (TextBanStore py) where
  attrs := attrs
  modify f self := { self with attrs := f self.attrs }
  delete := delete
  attrs_modify _ _ := rfl
  attrs_delete := delete_attrs

/-- Save when a method has changed the set of banned IPs. -/
def saveIfChanged (before : List String) (self : TextBanStore py) : TextBanStore py :=
  if PersistentBanStore.sameKeys self.attrs.bans.keys before then self else self.save

/-- `PersistentBanStore._record_failure`. -/
def recordFailure (cfg : BanConfig) (type : FailureType) (ip : String) (failureLimit : Nat)
    (client : Option AccessLogClient) (t now : ℚ) (self : TextBanStore py) : TextBanStore py :=
  let before := self.attrs.bans.keys
  let self := BanStore.recordFailure cfg type ip failureLimit client t now self
  self.saveIfChanged before

/-- `PersistentBanStore.cleanup_expired`. -/
def cleanupExpired (cfg : BanConfig) (now : ℚ) (self : TextBanStore py) : TextBanStore py :=
  let before := self.attrs.bans.keys
  let self := BanStore.cleanupExpired cfg now self
  self.saveIfChanged before

/-- `record_success`, which `PersistentBanStore` inherits. -/
def recordSuccess (ip : String) (self : TextBanStore py) : TextBanStore py :=
  BanSelf.modify (BanStore.recordSuccess ip) self

/-- `active_bans`, which calls the overriding `cleanup_expired`. -/
def activeBans (cfg : BanConfig) (now : ℚ) (self : TextBanStore py) :
    List Ban × TextBanStore py :=
  let self := self.cleanupExpired cfg now
  (self.attrs.sortedBans, self)

/-- `PersistentBanStore.__init__` over a disk: `_load` reads the clock at `now`, and its call of
`cleanup_expired` at `t`. -/
def load (float : Text → PyFloat) (cfg : BanConfig) (now t : ℚ) (disk : TextDisk) :
    Except LoadError (TextBanStore py) :=
  let fresh : TextBanStore py := { attrs := BanStore.init, disk, trail := [] }
  match disk.state with
  | none => return fresh
  | some text =>
      match loads float text with
      | .error .decode => return fresh
      | .error .tooLong => throw .tooLong
      | .ok (.arr items) => do
          let bans ← items.foldlM (loadItem now) ∅
          return { fresh with attrs := { BanStore.init with bans } }.cleanupExpired cfg t
      -- `error=invalid_format`
      | .ok _ => return fresh

@[simp] theorem saveIfChanged_attrs (before : List String) (self : TextBanStore py) :
    (self.saveIfChanged before).attrs = self.attrs := by
  unfold saveIfChanged
  split <;> rfl

theorem cleanupExpired_attrs (cfg : BanConfig) (now : ℚ) (self : TextBanStore py) :
    (self.cleanupExpired cfg now).attrs = BanStore.cleanupExpired cfg now self.attrs := by
  rw [cleanupExpired, saveIfChanged_attrs]
  exact BanStore.cleanupExpired_attrs cfg now self

theorem recordFailure_attrs (cfg : BanConfig) (type : FailureType) (ip : String)
    (failureLimit : Nat) (client : Option AccessLogClient) (t now : ℚ) (self : TextBanStore py) :
    (self.recordFailure cfg type ip failureLimit client t now).attrs =
      BanStore.recordFailure cfg type ip failureLimit client t now self.attrs := by
  rw [recordFailure, saveIfChanged_attrs]
  exact BanStore.recordFailure_attrs cfg type ip failureLimit client t now self

/-- Perform a call on the store. -/
def perform (cfg : BanConfig) (self : TextBanStore py) (c : StoreCall) : Answer × TextBanStore py :=
  match c.op with
  | .call (.recordFailure type ip client) =>
      (.none, self.recordFailure cfg type ip type.limit client c.t c.now)
  | .call (.recordSuccess ip) => (.none, self.recordSuccess ip)
  | .call (.isBanned ip) =>
      let (banned, self) := BanStore.isBanned ip c.t self
      (.banned banned, self)
  | .call .activeBans =>
      let (bans, self) := self.activeBans cfg c.t
      (.bans bans, self)
  | .call .cleanupExpired => (.none, self.cleanupExpired cfg c.t)
  | .delete ip => (.none, self.delete ip)

end TextBanStore

/-! ### Methods of two subclasses -/

section Related

variable {σ τ : Type} [BanSelf σ] [BanSelf τ] {R : σ → τ → Prop} {P : Dict String Ban → Prop}

/-- `R` relates stores with the same attributes, and what a method may do to them keeps it: an
overridden `delete`, and changes of the attributes after which the bans are as `P` says. -/
structure BanSelf.Related (R : σ → τ → Prop) (P : Dict String Ban → Prop) : Prop where
  attrs : ∀ {s t}, R s t → BanSelf.attrs s = BanSelf.attrs t
  keeps : ∀ {s t}, R s t → P (BanSelf.attrs t).bans
  modify : ∀ f {s t}, R s t → P (f (BanSelf.attrs t)).bans →
    R (BanSelf.modify f s) (BanSelf.modify f t)
  delete : ∀ ip {s t}, R s t → R (BanSelf.delete ip s) (BanSelf.delete ip t)

namespace BanSelf.Related

theorem isBanned (hR : BanSelf.Related R P) (ip : String) (now : ℚ) {s : σ} {t : τ} (h : R s t) :
    (BanStore.isBanned ip now s).1 = (BanStore.isBanned ip now t).1 ∧
      R (BanStore.isBanned ip now s).2 (BanStore.isBanned ip now t).2 := by
  unfold BanStore.isBanned
  rw [hR.attrs h]
  cases (BanSelf.attrs t).bans.get? ip with
  | none => exact ⟨rfl, h⟩
  | some ban =>
      dsimp only
      split
      · exact ⟨rfl, hR.delete ip h⟩
      · exact ⟨rfl, h⟩

theorem foldl_delete (hR : BanSelf.Related R P) (ips : List String) {s : σ} {t : τ} (h : R s t) :
    R (ips.foldl (fun self ip => BanSelf.delete ip self) s)
      (ips.foldl (fun self ip => BanSelf.delete ip self) t) := by
  induction ips generalizing s t with
  | nil => exact h
  | cons ip ips ih => exact ih (hR.delete ip h)

theorem cleanupExpired (hR : BanSelf.Related R P) (cfg : BanConfig) (now : ℚ) {s : σ} {t : τ}
    (h : R s t) : R (BanStore.cleanupExpired cfg now s) (BanStore.cleanupExpired cfg now t) := by
  unfold BanStore.cleanupExpired
  rw [hR.attrs h]
  have hdelete := hR.foldl_delete
    (((BanSelf.attrs t).bans.entries.filter fun e =>
      e.2.expiresAt ≤ (now : WithTop ℚ)).map Prod.fst) h
  exact hR.modify _ hdelete (hR.keeps hdelete)

theorem recordFailure (hR : BanSelf.Related R P) {cfg : BanConfig} {ip : String}
    {client : Option AccessLogClient} {now : ℚ}
    (hP : ∀ bans, P bans → P (bans.set ip (BanStore.newBan cfg ip client now)))
    (type : FailureType) (failureLimit : Nat) (clock : ℚ) {s : σ} {t : τ} (h : R s t) :
    R (BanStore.recordFailure cfg type ip failureLimit client clock now s)
      (BanStore.recordFailure cfg type ip failureLimit client clock now t) := by
  obtain ⟨hbanned, hafter⟩ := hR.isBanned ip clock h
  unfold BanStore.recordFailure
  dsimp only
  rw [hbanned, hR.attrs hafter]
  split
  · exact hafter
  · split
    · exact hR.modify _ hafter (hP _ (hR.keeps hafter))
    · refine hR.modify _ hafter ?_
      rw [BanStore.bans_setFailuresByIp]
      exact hR.keeps hafter

end BanSelf.Related

end Related

/-! ### Texts and documents -/

variable {py : Builtins} {float : Text → PyFloat} {cfg : BanConfig}

/-- Bans that can be written and read back: each is filed under its own IP, and the times in them
are written by `repr` in a way that `float` reads. -/
structure Writable (py : Builtins) (float : Text → PyFloat) (bans : Dict String Ban) : Prop where
  ip_eq : ∀ ip ban, bans.get? ip = some ban → ban.ip = ip
  readsFloat : ∀ ip ban (q : ℚ), bans.get? ip = some ban → ban.expiresAt = ↑q →
    py.ReadsFloat float q

theorem Writable.empty : Writable py float ∅ where
  ip_eq ip ban h := by simp at h
  readsFloat ip ban q h := by simp at h

theorem Writable.sub {bans bans' : Dict String Ban} (h : Writable py float bans)
    (hsub : ∀ ip ban, bans'.get? ip = some ban → bans.get? ip = some ban) :
    Writable py float bans' where
  ip_eq ip ban hget := h.ip_eq ip ban (hsub ip ban hget)
  readsFloat ip ban q hget := h.readsFloat ip ban q (hsub ip ban hget)

theorem Writable.erase {bans : Dict String Ban} (h : Writable py float bans) (ip : String) :
    Writable py float (bans.erase ip) := by
  refine h.sub ?_
  intro ip' ban hget
  rw [Dict.get?_erase] at hget
  split at hget
  · cases hget
  · exact hget

theorem Writable.set {bans : Dict String Ban} (h : Writable py float bans) (ban : Ban)
    (hban : ∀ q : ℚ, ban.expiresAt = ↑q → py.ReadsFloat float q) :
    Writable py float (bans.set ban.ip ban) := by
  have hcases : ∀ ip' ban', (bans.set ban.ip ban).get? ip' = some ban' →
      ban' = ban ∧ ip' = ban.ip ∨ bans.get? ip' = some ban' := by
    intro ip' ban' hget
    rw [Dict.get?_set] at hget
    split at hget
    · next heq => exact .inl ⟨(Option.some.inj hget).symm, heq⟩
    · exact .inr hget
  constructor
  · intro ip' ban' hget
    rcases hcases ip' ban' hget with ⟨rfl, rfl⟩ | hget
    · rfl
    · exact h.ip_eq ip' ban' hget
  · intro ip' ban' q hget hq
    rcases hcases ip' ban' hget with ⟨rfl, rfl⟩ | hget
    · exact hban q hq
    · exact h.readsFloat ip' ban' q hget hq

/-- What `_save` writes is read as the document that it stands for. -/
theorem loads_stateText {bans : Dict String Ban} (h : Writable py float bans) :
    loads float (stateText py bans) = .ok (bansToJson bans) := by
  refine loads_dumps _ ?_ ?_
  · intro x hx
    obtain ⟨ip, ban, hget, rfl⟩ := exists_of_mem_numbers hx
    cases hexpiry : ban.expiresAt with
    | top => trivial
    | coe q => exact h.readsFloat ip ban q hget hexpiry
  · intro c hc
    rw [List.mem_singleton.mp hc]
    rfl

/-- A disk with texts, and the same disk with their documents: the state file is absent, or a store
has written it. -/
inductive Shows (py : Builtins) (float : Text → PyFloat) (disk : TextDisk) (disk' : Disk) : Prop
  | absent (h : disk.state = none) (h' : disk'.state = none)
  | saved (bans : Dict String Ban) (hbans : Writable py float bans)
      (h : disk.state = some (stateText py bans))
      (h' : disk'.state = some (.document (bansToJson bans)))

theorem Shows.storeWritten {disk : TextDisk} {disk' : Disk} (h : Shows py float disk disk') :
    StoreWritten disk' := by
  cases h with
  | absent _ h' => exact .inl h'
  | saved bans hbans _ h' => exact .inr ⟨bans, hbans.ip_eq, h'⟩

theorem Shows.congr {disk disk₁ : TextDisk} {disk' disk₁' : Disk} (h : Shows py float disk disk')
    (hstate : disk₁.state = disk.state) (hstate' : disk₁'.state = disk'.state) :
    Shows py float disk₁ disk₁' := by
  cases h with
  | absent h h' => exact .absent (hstate.trans h) (hstate'.trans h')
  | saved bans hbans h h' => exact .saved bans hbans (hstate.trans h) (hstate'.trans h')

/-- A failure may start a ban, and the time in it is one that is read back. -/
def StoreCall.ReadsExpiry (py : Builtins) (float : Text → PyFloat) (cfg : BanConfig)
    (c : StoreCall) : Prop :=
  ∀ type ip client, c.op = .call (.recordFailure type ip client) →
    py.ReadsFloat float (c.now + cfg.banTtlSeconds)

/-- A store over texts, and the same store over documents. -/
structure Shown (float : Text → PyFloat) (s : TextBanStore py) (p : PersistentBanStore) : Prop where
  attrs : s.attrs = p.attrs
  writable : Writable py float p.attrs.bans
  disk : Shows py float s.disk p.disk
  trail : ∀ disk ∈ s.trail, ∃ disk' ∈ p.trail, Shows py float disk disk'

namespace Shown

variable {s : TextBanStore py} {p : PersistentBanStore}

/-- The texts that a `_save` leaves are those of the document it saves, or of the one before. -/
theorem save (h : Shown float s p) : Shown float s.save p.save := by
  have hreplaced : Shows py float ⟨some (stateText py s.attrs.bans), none⟩
      ⟨some (.document (bansToJson p.attrs.bans)), none⟩ := by
    rw [h.attrs]
    exact .saved _ h.writable rfl rfl
  refine ⟨h.attrs, h.writable, hreplaced, ?_⟩
  intro disk hdisk
  simp only [TextBanStore.save, List.mem_append, List.mem_map, List.mem_singleton] at hdisk
  simp only [PersistentBanStore.save, List.mem_append, List.mem_cons]
  rcases hdisk with (hdisk | ⟨front, -, rfl⟩) | rfl
  · obtain ⟨disk', hmem, hshows⟩ := h.trail disk hdisk
    exact ⟨disk', .inl hmem, hshows⟩
  · -- the temporary file changes, the state file does not
    exact ⟨{ p.disk with tmp := some .unparsable }, .inr (.inl rfl), h.disk.congr rfl rfl⟩
  · exact ⟨_, .inr (.inr (.inr (.inl rfl))), hreplaced⟩

theorem with_attrs (h : Shown float s p) (attrs : BanStore)
    (hattrs : Writable py float attrs.bans) :
    Shown float ({ s with attrs } : TextBanStore py) { p with attrs } :=
  ⟨rfl, hattrs, h.disk, h.trail⟩

theorem saveIfChanged (h : Shown float s p) (before : List String) :
    Shown float (s.saveIfChanged before) (p.saveIfChanged before) := by
  unfold TextBanStore.saveIfChanged PersistentBanStore.saveIfChanged
  rw [h.attrs]
  split
  · exact h
  · exact h.save

theorem delete (h : Shown float s p) (ip : String) : Shown float (s.delete ip) (p.delete ip) := by
  unfold TextBanStore.delete PersistentBanStore.delete
  rw [h.attrs]
  have hdeleted := h.with_attrs (p.attrs.delete ip) (h.writable.erase ip)
  dsimp only
  split
  · exact hdeleted.save
  · exact hdeleted

theorem related :
    BanSelf.Related (fun s : TextBanStore py => Shown float s) (Writable py float) where
  attrs h := h.attrs
  keeps h := h.writable
  modify f _ _ h hf := ⟨congrArg f h.attrs, hf, h.disk, h.trail⟩
  delete ip _ _ h := h.delete ip

theorem cleanupExpired (h : Shown float s p) (t : ℚ) :
    Shown float (s.cleanupExpired cfg t) (p.cleanupExpired cfg t) := by
  unfold TextBanStore.cleanupExpired PersistentBanStore.cleanupExpired
  rw [h.attrs]
  exact (related.cleanupExpired cfg t h).saveIfChanged _

theorem recordFailure (h : Shown float s p) {ip : String} {client : Option AccessLogClient} {now : ℚ}
    (hfloat : py.ReadsFloat float (now + cfg.banTtlSeconds)) (type : FailureType)
    (failureLimit : Nat) (t : ℚ) :
    Shown float (s.recordFailure cfg type ip failureLimit client t now)
      (p.recordFailure cfg type ip failureLimit client t now) := by
  unfold TextBanStore.recordFailure PersistentBanStore.recordFailure
  rw [h.attrs]
  refine (related.recordFailure ?_ type failureLimit t h).saveIfChanged _
  intro bans hbans
  refine hbans.set (BanStore.newBan cfg ip client now) ?_
  intro q hq
  rwa [← WithTop.coe_inj.mp hq]

/-- A call keeps the two stores alike. -/
theorem perform (h : Shown float s p) {c : StoreCall} (hfloat : c.ReadsExpiry py float cfg) :
    Shown float (s.perform cfg c).2 (p.perform cfg c) := by
  obtain ⟨op, t, now, le⟩ := c
  cases op with
  | delete ip => exact h.delete ip
  | call op =>
      cases op with
      | recordFailure type ip client => exact h.recordFailure (hfloat type ip client rfl) type _ t
      | recordSuccess ip => exact related.modify _ h h.writable
      | isBanned ip => exact (related.isBanned ip t h).2
      | activeBans => exact h.cleanupExpired t
      | cleanupExpired => exact h.cleanupExpired t

/-- The bans that `_load` takes over are among those that were saved. -/
theorem writable_loadBans {now : ℚ} {saved : List Ban}
    (hsaved : ∀ ban ∈ saved, ∀ q : ℚ, ban.expiresAt = ↑q → py.ReadsFloat float q)
    {bans : Dict String Ban} (hbans : Writable py float bans) :
    Writable py float (loadBans now saved bans) := by
  induction saved generalizing bans with
  | nil => exact hbans
  | cons ban saved ih =>
      obtain ⟨hban, hrest⟩ := List.forall_mem_cons.mp hsaved
      rw [loadBans, List.foldl_cons]
      split
      · exact ih hrest (hbans.set ban hban)
      · exact ih hrest hbans

/-- So does the constructor, if it does not raise. There are no failures in the new store. -/
theorem load {disk : TextDisk} {disk' : Disk} (hdisk : Shows py float disk disk') (now t : ℚ)
    {p : PersistentBanStore} (hload : PersistentBanStore.load cfg now t disk' = .ok p) :
    ∃ s : TextBanStore py, TextBanStore.load float cfg now t disk = .ok s ∧ Shown float s p ∧
      ∀ type ip, p.attrs.failures type ip = [] := by
  have hnew : ∀ attrs : BanStore, Writable py float attrs.bans →
      Shown float (⟨attrs, disk, []⟩ : TextBanStore py) ⟨attrs, disk', []⟩ :=
    fun attrs hattrs => ⟨rfl, hattrs, hdisk, fun _ h => absurd h List.not_mem_nil⟩
  cases hcases : hdisk with
  | absent h h' =>
      simp only [PersistentBanStore.load, h'] at hload
      cases hload
      refine ⟨_, ?_, hnew _ .empty, fun type ip => BanStore.failures_init type ip⟩
      simp only [TextBanStore.load, h]
      rfl
  | saved bans hbans h h' =>
      set saved := bans.values.mergeSort fun ban ban' => ban.ip ≤ ban'.ip with hsaved
      have hloaded : Writable py float (loadBans now saved ∅) := by
        refine writable_loadBans ?_ .empty
        intro ban hban
        obtain ⟨ip, hget⟩ := Dict.mem_values_iff.mp ((List.mergeSort_perm _ _).mem_iff.mp hban)
        exact fun q => hbans.readsFloat ip ban q hget
      rw [PersistentBanStore.load_document h', tooLong_bansToJson, if_neg Bool.false_ne_true,
        bansToJson, ← hsaved, PersistentBanStore.loadDocument, foldlM_loadItem] at hload
      cases hload
      refine ⟨_, ?_, (hnew { BanStore.init with bans := loadBans now saved ∅ } hloaded).cleanupExpired t,
        ?_⟩
      · simp only [TextBanStore.load, h, loads_stateText hbans, bansToJson, ← hsaved,
          foldlM_loadItem]
        rfl
      · intro type ip
        have hwf := PersistentBanStore.wf_of_bans hloaded.ip_eq
        rw [PersistentBanStore.cleanupExpired_attrs, (BanStore.cleanupExpired_spec hwf cfg t).2]
        cases type <;> rfl

end Shown

end PxManager.Bans
