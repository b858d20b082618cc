import PxManager.Core.Json
import PxManager.Bans.Store

/-!
# PxManager.Bans.Persistent

`PersistentBanStore` of `main.py`: a `BanStore` that writes its bans to a state file whenever
the set of banned IPs changes, and reads them back when it is built.

The file system is modelled at the granularity of a crash. `_save` takes three steps: the
temporary file is opened and only partly written, it is complete, and it has replaced the state
file. `trail` collects the disk after each of them, so the disks that a crash during a method
can leave are the disk before the method and the trail of the method.

A file is modelled by what `json.loads` makes of its text. The temporary file is never read. The
store writes ASCII; a file that is not UTF-8 is left out, and so are writes that fail.
-/

namespace PxManager.Bans

open PxManager.Core

/-- A text file, by what `json.loads` makes of its content. -/
inductive FileText
  /-- The text of a document, which may have integers of any length. -/
  | document (doc : Json)
  /-- A text that raises `JSONDecodeError`, such as a partly written document. -/
  | unparsable

/-- The files in the state directory that the store touches. -/
structure Disk where
  state : Option FileText
  tmp : Option FileText

/-- `PersistentBanStore`. -/
structure PersistentBanStore where
  attrs : BanStore
  disk : Disk
  /-- The disk after each file step so far, oldest first. -/
  trail : List Disk

/-- What the constructor can raise on a file. -/
inductive LoadError
  /-- The `ValueError` that `json.loads` raises for an integer of too many digits. -/
  | tooLong
  /-- The `OverflowError` of `float()`. -/
  | overflow
  deriving DecidableEq, Repr

/-! ### Encoding -/

/-- A finite or infinite time as a JSON number. -/
def expiryToJson : WithTop ℚ → Json
  | ⊤ => .float .inf
  | (q : ℚ) => .float (.finite q)

/-- One element of the list that `_save` writes, with `sort_keys=True`. -/
def banToJson (ban : Ban) : Json :=
  .obj [("browser", .str ban.browser), ("device", .str ban.device),
    ("expires_at", expiryToJson ban.expiresAt), ("ip", .str ban.ip), ("os", .str ban.os)]

/-- The document that `_save` writes. -/
def bansToJson (bans : Dict String Ban) : Json :=
  .arr ((bans.values.mergeSort fun ban ban' => ban.ip ≤ ban'.ip).map banToJson)

theorem numbers_banToJson (ban : Ban) : (banToJson ban).numbers = [expiryToJson ban.expiresAt] := by
  obtain ⟨ip, expiresAt, os, browser, device⟩ := ban
  cases expiresAt <;> rfl

/-- The numbers in the document are the times in the bans. -/
theorem exists_of_mem_numbers {bans : Dict String Ban} {x : Json}
    (h : x ∈ (bansToJson bans).numbers) :
    ∃ ip ban, bans.get? ip = some ban ∧ x = expiryToJson ban.expiresAt := by
  have hitems : ∀ l : List Ban, x ∈ Json.numbersOfItems (l.map banToJson) →
      ∃ ban ∈ l, x = expiryToJson ban.expiresAt := by
    intro l
    induction l with
    | nil => exact fun hx => absurd hx List.not_mem_nil
    | cons ban l ih =>
        rw [List.map_cons, Json.numbersOfItems, numbers_banToJson, List.singleton_append,
          List.mem_cons]
        rintro (rfl | hx)
        · exact ⟨ban, List.mem_cons_self, rfl⟩
        · obtain ⟨ban', hmem, heq⟩ := ih hx
          exact ⟨ban', List.mem_cons_of_mem _ hmem, heq⟩
  rw [bansToJson, Json.numbers] at h
  obtain ⟨ban, hmem, heq⟩ := hitems _ h
  obtain ⟨ip, hget⟩ := Dict.mem_values_iff.mp ((List.mergeSort_perm _ _).mem_iff.mp hmem)
  exact ⟨ip, ban, hget, heq⟩

/-- None of them is an integer. -/
theorem tooLong_bansToJson (bans : Dict String Ban) :
    (bansToJson bans).numbers.any Json.tooLong = false := by
  rw [List.any_eq_false]
  intro x hx
  obtain ⟨-, ban, -, rfl⟩ := exists_of_mem_numbers hx
  cases ban.expiresAt <;> exact Bool.false_ne_true

/-- The expiry that `_load` takes from a value, if it is a number greater than `now`. `float()`
of it may overflow. -/
def loadExpiry? (now : ℚ) : Json → Option (Except LoadError (WithTop ℚ))
  | .bool b =>
      let q : ℚ := if b then 1 else 0
      if now < q then some (.ok q) else none
  | .int n =>
      if now < n then
        match floatOfInt n with
        | some q => some (.ok q)
        | none => some (.error .overflow)
      else none
  | .float (.finite q) => if now < q then some (.ok q) else none
  | .float .inf => some (.ok ⊤)
  | _ => none

/-- One round of the loop in `_load`. -/
def loadItem (now : ℚ) (bans : Dict String Ban) : Json → Except LoadError (Dict String Ban)
  | .obj members =>
      match Json.get? members "ip", (Json.get? members "expires_at").bind (loadExpiry? now) with
      | some (.str ip), some expiry => do
          let expiresAt ← expiry
          let text key := ((Json.get? members key).bind Json.asStr?).getD "-"
          return bans.set ip
            { ip, expiresAt, os := text "os", browser := text "browser", device := text "device" }
      | _, _ => return bans
  | _ => return bans

/-! ### Methods -/

namespace PersistentBanStore

/-- `PersistentBanStore._save`. -/
def save (self : PersistentBanStore) : PersistentBanStore :=
  let text := FileText.document (bansToJson self.attrs.bans)
  let opened : Disk := { self.disk with tmp := some .unparsable }
  let written : Disk := { self.disk with tmp := some text }
  let replaced : Disk := { state := some text, tmp := none }
  { self with disk := replaced, trail := self.trail ++ [opened, written, replaced] }

/-- `set(a) == set(b)` for two key lists. -/
def sameKeys (a b : List String) : Bool := a.all (· ∈ b) && b.all (· ∈ a)

/-- `PersistentBanStore.delete`. -/
def delete (ip : String) (self : PersistentBanStore) : PersistentBanStore :=
  let hadBan := self.attrs.bans.contains ip
  let self := { self with attrs := self.attrs.delete ip }
  if hadBan then self.save else self

@[simp] theorem delete_attrs (ip : String) (self : PersistentBanStore) :
    (self.delete ip).attrs = self.attrs.delete ip := by
  unfold delete
  dsimp only
  split <;> rfl

instance : BanSelf PersistentBanStore where
  attrs := attrs
  modify f self := { self with attrs := f self.attrs }
  delete := delete
  attrs_modify _ _ := rfl
  attrs_delete := delete_attrs

/-- Save when a method has changed the set of banned IPs. -/
def saveIfChanged (before : List String) (self : PersistentBanStore) : PersistentBanStore :=
  if sameKeys self.attrs.bans.keys before then self else self.save

/-- `PersistentBanStore._record_failure`. -/
def recordFailure (cfg : BanConfig) (type : FailureType) (ip : String) (failureLimit : Nat)
    (client : Option AccessLogClient) (t now : ℚ) (self : PersistentBanStore) :
    PersistentBanStore :=
  let before := self.attrs.bans.keys
  let self := BanStore.recordFailure cfg type ip failureLimit client t now self
  self.saveIfChanged before

/-- `PersistentBanStore.cleanup_expired`. -/
def cleanupExpired (cfg : BanConfig) (now : ℚ) (self : PersistentBanStore) : PersistentBanStore :=
  let before := self.attrs.bans.keys
  let self := BanStore.cleanupExpired cfg now self
  self.saveIfChanged before

/-- `record_success`, which `PersistentBanStore` inherits. -/
def recordSuccess (ip : String) (self : PersistentBanStore) : PersistentBanStore :=
  BanSelf.modify (BanStore.recordSuccess ip) self

/-- `active_bans`, which calls the overriding `cleanup_expired`. -/
def activeBans (cfg : BanConfig) (now : ℚ) (self : PersistentBanStore) :
    List Ban × PersistentBanStore :=
  let self := self.cleanupExpired cfg now
  (self.attrs.sortedBans, self)

/-- `_load` after `json.loads` has returned a document. -/
def loadDocument (cfg : BanConfig) (now t : ℚ) (fresh : PersistentBanStore) :
    Json → Except LoadError PersistentBanStore
  | .arr items => do
      let bans ← items.foldlM (loadItem now) ∅
      return { fresh with attrs := { BanStore.init with bans } }.cleanupExpired cfg t
  | _ => return fresh

/-- `PersistentBanStore.__init__` over a disk: `_load` reads the clock at `now`, and its call of
`cleanup_expired` at `t`. -/
def load (cfg : BanConfig) (now t : ℚ) (disk : Disk) : Except LoadError PersistentBanStore :=
  let fresh : PersistentBanStore := { attrs := BanStore.init, disk, trail := [] }
  match disk.state with
  | some (.document doc) =>
      -- this is no `JSONDecodeError`, so nothing handles it
      if doc.numbers.any Json.tooLong then throw .tooLong else loadDocument cfg now t fresh doc
  | _ => return fresh

theorem load_document {cfg : BanConfig} {now t : ℚ} {disk : Disk} {doc : Json}
    (hdisk : disk.state = some (.document doc)) :
    load cfg now t disk =
      if doc.numbers.any Json.tooLong then .error .tooLong
      else loadDocument cfg now t { attrs := BanStore.init, disk, trail := [] } doc := by
  simp only [load, hdisk]
  rfl

/-! ### On the attributes, the methods do what those of `BanStore` do -/

@[simp] theorem saveIfChanged_attrs (before : List String) (self : PersistentBanStore) :
    (self.saveIfChanged before).attrs = self.attrs := by
  unfold saveIfChanged
  split <;> rfl

theorem cleanupExpired_attrs (cfg : BanConfig) (t : ℚ) (self : PersistentBanStore) :
    (self.cleanupExpired cfg t).attrs = BanStore.cleanupExpired cfg t self.attrs := by
  rw [cleanupExpired, saveIfChanged_attrs]
  exact BanStore.cleanupExpired_attrs cfg t self

theorem recordFailure_attrs (cfg : BanConfig) (type : FailureType) (ip : String)
    (failureLimit : Nat) (client : Option AccessLogClient) (t now : ℚ)
    (self : PersistentBanStore) :
    (self.recordFailure cfg type ip failureLimit client t now).attrs =
      BanStore.recordFailure cfg type ip failureLimit client t now self.attrs := by
  rw [recordFailure, saveIfChanged_attrs]
  exact BanStore.recordFailure_attrs cfg type ip failureLimit client t now self

/-- A store that has just been built has no counters. -/
theorem wf_of_bans {bans : Dict String Ban}
    (h : ∀ ip ban, bans.get? ip = some ban → ban.ip = ip) :
    ({ BanStore.init with bans } : BanStore).WF where
  ip_eq := h
  no_failures _ _ _ type := by cases type <;> rfl

end PersistentBanStore

end PxManager.Bans
