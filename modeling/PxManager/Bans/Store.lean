import Mathlib.Algebra.Order.Field.Rat
import Mathlib.Order.WithBot
import PxManager.Core.Dict

/-!
# PxManager.Bans.Store

`BanStore` of `main.py`: failure counters per IP for the two failure types, and the bans they
lead to.

The methods are written over `self : σ` for any `σ` with a `BanSelf` instance, because Python
dispatches on `self`: `is_banned`, `_record_failure` and `cleanup_expired` of the base class call
`self.delete`, and that is the overriding method when the store is a `PersistentBanStore`
(`PxManager.Bans.Persistent`). `BanStore` itself is the instance that overrides nothing.

* Every call of `time.time()` is an argument, in the order in which the method makes them.
* Times are rationals; `expires_at` may also be `⊤`, since a state file can hold `Infinity`. This is
  an idealization: the sums and differences of the floats that `time.time()` returns are taken to be
  exact.
* The two attributes that never change after `__init__` are the parameter `cfg`.
-/

namespace PxManager.Bans

open PxManager.Core

/-- `LOGIN_FAILURE_LIMIT`. -/
def loginFailureLimit : Nat := 5
/-- `AUTH_FAILURE_LIMIT`. -/
def authFailureLimit : Nat := 20
/-- `FAILURE_WINDOW_SECONDS`. -/
def failureWindowSeconds : ℚ := 60 * 60
/-- `BAN_TTL_SECONDS`. -/
def banTtlSeconds : ℚ := 3 * 60 * 60

/-- Which of the two counters a failure goes to. -/
inductive FailureType
  | login
  | auth
  deriving DecidableEq, Repr

/-- The limit that `record_login_failure` and `record_auth_failure` pass down. -/
def FailureType.limit : FailureType → Nat
  | .login => loginFailureLimit
  | .auth => authFailureLimit

/-- `AccessLogClient`. -/
structure AccessLogClient where
  os : String
  browser : String
  device : String
  deriving DecidableEq, Repr

/-- `Ban`. -/
structure Ban where
  ip : String
  expiresAt : WithTop ℚ
  os : String := "-"
  browser : String := "-"
  device : String := "-"
  deriving DecidableEq

/-- The constructor arguments of `BanStore`, kept in its two read-only attributes. -/
structure BanConfig where
  banTtlSeconds : ℚ
  failureWindowSeconds : ℚ

/-- The configuration `make_app` uses. -/
def appConfig : BanConfig := ⟨banTtlSeconds, failureWindowSeconds⟩

/-- The mutable attributes of `BanStore`. -/
structure BanStore where
  loginFailures : Dict String (List ℚ)
  authFailures : Dict String (List ℚ)
  bans : Dict String Ban

namespace BanStore

/-- `BanStore.__init__`. -/
def init : BanStore := ⟨∅, ∅, ∅⟩

/-- The dictionary that `_record_failure` gets as `failures_by_ip`. -/
def failuresByIp (self : BanStore) : FailureType → Dict String (List ℚ)
  | .login => self.loginFailures
  | .auth => self.authFailures

/-- The store with another `failures_by_ip` dictionary. -/
def setFailuresByIp (self : BanStore) : FailureType → Dict String (List ℚ) → BanStore
  | .login, d => { self with loginFailures := d }
  | .auth, d => { self with authFailures := d }

/-- The failures recorded for an IP: `failures_by_ip.get(ip, [])`. -/
def failures (self : BanStore) (type : FailureType) (ip : String) : List ℚ :=
  ((self.failuresByIp type).get? ip).getD []

/-- `BanStore.delete`. -/
def delete (ip : String) (self : BanStore) : BanStore where
  bans := self.bans.erase ip
  loginFailures := self.loginFailures.erase ip
  authFailures := self.authFailures.erase ip

/-- `BanStore.record_success`. -/
def recordSuccess (ip : String) (self : BanStore) : BanStore :=
  { self with loginFailures := self.loginFailures.erase ip }

end BanStore

/-- The failures a check at `now` still counts. -/
def recentFailures (cfg : BanConfig) (now : ℚ) (failures : List ℚ) : List ℚ :=
  failures.filter fun failureTime => now - cfg.failureWindowSeconds < failureTime

/-- `BanStore._cleanup_failures` on one of the two dictionaries. -/
def cleanupFailures (cfg : BanConfig) (now : ℚ) (failuresByIp : Dict String (List ℚ)) :
    Dict String (List ℚ) :=
  failuresByIp.entries.foldl (fun d e =>
    let recent := recentFailures cfg now e.2
    if recent ≠ [] then d.set e.1 recent else d.erase e.1) failuresByIp

/-- What the methods of `BanStore` use of `self`: its attributes, and the `delete` that a
subclass may override. An override has to act on the attributes as `BanStore.delete` does. -/
class BanSelf (σ : Type) where
  attrs : σ → BanStore
  modify : (BanStore → BanStore) → σ → σ
  delete : String → σ → σ
  attrs_modify : ∀ f self, attrs (modify f self) = f (attrs self)
  attrs_delete : ∀ ip self, attrs (delete ip self) = (attrs self).delete ip

instance : BanSelf BanStore where
  attrs self := self
  modify f self := f self
  delete := BanStore.delete
  attrs_modify _ _ := rfl
  attrs_delete _ _ := rfl

attribute [simp] BanSelf.attrs_modify BanSelf.attrs_delete

@[simp] theorem BanSelf.attrs_self (self : BanStore) : BanSelf.attrs self = self := rfl
@[simp] theorem BanSelf.modify_self (f : BanStore → BanStore) (self : BanStore) :
    BanSelf.modify f self = f self := rfl
@[simp] theorem BanSelf.delete_self (ip : String) (self : BanStore) :
    BanSelf.delete ip self = self.delete ip := rfl

namespace BanStore

open BanSelf (attrs)

variable {σ : Type} [BanSelf σ]

/-- `BanStore.is_banned` at time `t`. -/
def isBanned (ip : String) (t : ℚ) (self : σ) : Bool × σ :=
  match (attrs self).bans.get? ip with
  | none => (false, self)
  | some ban => if ban.expiresAt ≤ t then (false, BanSelf.delete ip self) else (true, self)

/-- The `Ban` that `_record_failure` stores at time `now`. -/
def newBan (cfg : BanConfig) (ip : String) (client : Option AccessLogClient) (now : ℚ) : Ban where
  ip := ip
  expiresAt := ↑(now + cfg.banTtlSeconds)
  os := client.elim "-" (·.os)
  browser := client.elim "-" (·.browser)
  device := client.elim "-" (·.device)

/-- `BanStore._record_failure`: `t` is the clock reading of `self.is_banned`, `now` its own. -/
def recordFailure (cfg : BanConfig) (type : FailureType) (ip : String) (failureLimit : Nat)
    (client : Option AccessLogClient) (t now : ℚ) (self : σ) : σ :=
  let (banned, self) := isBanned ip t self
  if banned then self
  else
    let failures := recentFailures cfg now ((attrs self).failures type ip) ++ [now]
    if failureLimit ≤ failures.length then
      BanSelf.modify (fun s =>
        { bans := s.bans.set ip (newBan cfg ip client now)
          loginFailures := s.loginFailures.erase ip
          authFailures := s.authFailures.erase ip }) self
    else
      BanSelf.modify (fun s => s.setFailuresByIp type ((s.failuresByIp type).set ip failures)) self

/-- `BanStore.cleanup_expired` at time `now`. -/
def cleanupExpired (cfg : BanConfig) (now : ℚ) (self : σ) : σ :=
  let expiredIps :=
    ((attrs self).bans.entries.filter fun e => e.2.expiresAt ≤ (now : WithTop ℚ)).map Prod.fst
  let self := expiredIps.foldl (fun self ip => BanSelf.delete ip self) self
  BanSelf.modify (fun s =>
    { s with
      loginFailures := cleanupFailures cfg now s.loginFailures
      authFailures := cleanupFailures cfg now s.authFailures }) self

/-- What `active_bans` returns once `cleanup_expired` has run. -/
def sortedBans (self : BanStore) : List Ban :=
  self.bans.values.mergeSort fun ban ban' => ban.expiresAt ≤ ban'.expiresAt

/-- `BanStore.active_bans` at time `now`. -/
def activeBans (cfg : BanConfig) (now : ℚ) (self : BanStore) : List Ban × BanStore :=
  let self := cleanupExpired cfg now self
  (self.sortedBans, self)

/-! ### A subclass acts on the attributes as `BanStore` does -/

theorem attrs_foldl_delete (ips : List String) (self : σ) :
    attrs (ips.foldl (fun self ip => BanSelf.delete ip self) self) =
      ips.foldl (fun s ip => s.delete ip) (attrs self) := by
  induction ips generalizing self with
  | nil => rfl
  | cons ip ips ih => rw [List.foldl_cons, ih, BanSelf.attrs_delete, List.foldl_cons]

theorem isBanned_attrs (ip : String) (t : ℚ) (self : σ) :
    isBanned ip t (attrs self) = ((isBanned ip t self).1, attrs (isBanned ip t self).2) := by
  simp only [isBanned, BanSelf.attrs_self, BanSelf.delete_self]
  cases (attrs self).bans.get? ip with
  | none => rfl
  | some ban => dsimp only; split <;> simp

theorem recordFailure_attrs (cfg : BanConfig) (type : FailureType) (ip : String) (failureLimit : Nat)
    (client : Option AccessLogClient) (t now : ℚ) (self : σ) :
    attrs (recordFailure cfg type ip failureLimit client t now self) =
      recordFailure cfg type ip failureLimit client t now (attrs self) := by
  simp only [recordFailure, isBanned_attrs, BanSelf.attrs_self, BanSelf.modify_self]
  split
  · rfl
  · split <;> simp

theorem cleanupExpired_attrs (cfg : BanConfig) (now : ℚ) (self : σ) :
    attrs (cleanupExpired cfg now self) = cleanupExpired cfg now (attrs self) := by
  simp [cleanupExpired, attrs_foldl_delete]

/-! ### What each method leaves behind -/

/-- The IP has a ban that has not expired at `t`. -/
def Banned (self : BanStore) (ip : String) (t : ℚ) : Prop :=
  ∃ ban, self.bans.get? ip = some ban ∧ ↑t < ban.expiresAt

@[simp] theorem failures_init (type : FailureType) (ip : String) : init.failures type ip = [] := by
  cases type <;> rfl

theorem failures_delete (self : BanStore) (ip : String) (type : FailureType) (ip' : String) :
    (self.delete ip).failures type ip' = if ip' = ip then [] else self.failures type ip' := by
  by_cases h : ip' = ip <;> cases type <;> simp [failures, failuresByIp, delete, Dict.get?_erase, h]

theorem failures_setFailuresByIp (self : BanStore) (type type' : FailureType) (ip ip' : String)
    (l : List ℚ) :
    (self.setFailuresByIp type ((self.failuresByIp type).set ip l)).failures type' ip' =
      if type' = type ∧ ip' = ip then l else self.failures type' ip' := by
  by_cases h : ip' = ip <;> cases type <;> cases type' <;>
    simp [failures, failuresByIp, setFailuresByIp, Dict.get?_set, h]

@[simp] theorem bans_setFailuresByIp (self : BanStore) (type : FailureType)
    (d : Dict String (List ℚ)) : (self.setFailuresByIp type d).bans = self.bans := by
  cases type <;> rfl

theorem failures_recordSuccess (self : BanStore) (ip : String) (type : FailureType) (ip' : String) :
    (self.recordSuccess ip).failures type ip' =
      if type = .login ∧ ip' = ip then [] else self.failures type ip' := by
  by_cases h : ip' = ip <;> cases type <;>
    simp [failures, failuresByIp, recordSuccess, Dict.get?_erase, h]

@[simp] theorem bans_recordSuccess (self : BanStore) (ip : String) :
    (self.recordSuccess ip).bans = self.bans := rfl

/-- `_cleanup_failures` keeps the recent failures of every IP, and drops the IPs without any. -/
theorem get?_cleanupFailures (cfg : BanConfig) (now : ℚ) (d : Dict String (List ℚ)) (ip : String) :
    ((cleanupFailures cfg now d).get? ip).getD [] =
      recentFailures cfg now ((d.get? ip).getD []) := by
  let kept : String → List ℚ → Option (List ℚ) := fun _ l =>
    if recentFailures cfg now l ≠ [] then some (recentFailures cfg now l) else none
  have hvisit : cleanupFailures cfg now d =
      d.entries.foldl (fun d e => (kept e.1 e.2).elim (d.erase e.1) (d.set e.1)) d := by
    unfold cleanupFailures
    congr 1
    funext d e
    dsimp only [kept]
    split <;> rfl
  rw [hvisit, Dict.get?_foldl_visit d.nodup, Dict.get?]
  cases hfind : d.entries.find? fun e => e.1 = ip with
  | none => simp [recentFailures]
  | some e =>
      simp only [Option.elim_some, Option.map_some, Option.getD_some, kept]
      split
      · rfl
      · next hnil => rw [not_not.mp hnil]; rfl

theorem foldl_delete_bans (ips : List String) (self : BanStore) :
    (ips.foldl (fun s ip => s.delete ip) self).bans = ips.foldl Dict.erase self.bans := by
  induction ips generalizing self with
  | nil => rfl
  | cons ip ips ih => rw [List.foldl_cons, ih, List.foldl_cons]; rfl

theorem foldl_delete_failures (ips : List String) (self : BanStore) (type : FailureType)
    (ip : String) :
    (ips.foldl (fun s ip => s.delete ip) self).failures type ip =
      if ip ∈ ips then [] else self.failures type ip := by
  induction ips generalizing self with
  | nil => simp
  | cons ip' ips ih =>
      rw [List.foldl_cons, ih, failures_delete]
      by_cases h : ip = ip' <;> by_cases h' : ip ∈ ips <;> simp [h, h']

/-! ### The invariant

A ban in the dictionary, expired or not, is filed under its own IP, and its IP has no counters:
they are popped when the ban is stored, no failure is recorded while it is in force, and the
first failure after its expiry deletes it. So the `delete` that drops an expired ban never
drops a failure. -/

/-- The invariant of `BanStore` between two calls. -/
structure WF (s : BanStore) : Prop where
  /-- A ban is filed under its own IP. -/
  ip_eq : ∀ ip ban, s.bans.get? ip = some ban → ban.ip = ip
  /-- An IP with a ban, expired or not, has no counters. -/
  no_failures : ∀ ip ban, s.bans.get? ip = some ban → ∀ type, s.failures type ip = []

theorem WF.init : init.WF := ⟨by simp [BanStore.init], by simp [BanStore.init]⟩

/-- Dropping bans and changing only counters of IPs without a ban keeps the invariant. -/
theorem WF.of_sub {s s' : BanStore} (hs : s.WF)
    (hbans : ∀ ip ban, s'.bans.get? ip = some ban → s.bans.get? ip = some ban)
    (hfail : ∀ ip ban, s'.bans.get? ip = some ban → ∀ type, s.failures type ip = [] →
      s'.failures type ip = []) : s'.WF where
  ip_eq ip ban h := hs.ip_eq ip ban (hbans ip ban h)
  no_failures ip ban h type := hfail ip ban h type (hs.no_failures ip ban (hbans ip ban h) type)

theorem WF.recordSuccess {s : BanStore} (hs : s.WF) (ip : String) : (s.recordSuccess ip).WF := by
  refine hs.of_sub (fun _ _ h => h) ?_
  intro ip' ban h type hnil
  rw [failures_recordSuccess, hnil, ite_self]

theorem WF.delete {s : BanStore} (hs : s.WF) (ip : String) : (s.delete ip).WF := by
  refine hs.of_sub ?_ ?_
  · intro ip' ban h
    rw [BanStore.delete, Dict.get?_erase] at h
    split at h
    · cases h
    · exact h
  · intro ip' ban h type hnil
    rw [failures_delete, hnil, ite_self]

/-- `delete` of an IP that has a ban changes no counter. -/
theorem WF.failures_delete {s : BanStore} (hs : s.WF) {ip : String} {ban : Ban}
    (h : s.bans.get? ip = some ban) (type : FailureType) (ip' : String) :
    (s.delete ip).failures type ip' = s.failures type ip' := by
  rw [BanStore.failures_delete]
  split
  · next heq => rw [heq, hs.no_failures ip ban h]
  · rfl

/-- `is_banned` either finds a ban in force and changes nothing, or leaves the IP without a ban
and every counter as it was. -/
theorem isBanned_cases {s : BanStore} (hs : s.WF) (ip : String) (t : ℚ) :
    (s.Banned ip t ∧ isBanned ip t s = (true, s)) ∨
    (¬ s.Banned ip t ∧ ∃ s', isBanned ip t s = (false, s') ∧ s'.WF ∧
      s'.bans.entries = (s.bans.erase ip).entries ∧
      ∀ type ip', s'.failures type ip' = s.failures type ip') := by
  cases hget : s.bans.get? ip with
  | none =>
      refine Or.inr ⟨fun ⟨ban, h, _⟩ => (by simp [hget] at h), s, ?_, hs, ?_, fun _ _ => rfl⟩
      · simp [isBanned, hget]
      · rw [Dict.entries_erase, List.filter_eq_self.mpr]
        rintro ⟨ip', ban⟩ hmem
        rw [Dict.mem_entries_iff] at hmem
        have hne : ip' ≠ ip := fun h => by rw [h, hget] at hmem; cases hmem
        simpa using hne
  | some ban =>
      by_cases hexp : ban.expiresAt ≤ t
      · refine Or.inr ⟨?_, s.delete ip, by simp [isBanned, hget, hexp], hs.delete ip, rfl,
          hs.failures_delete hget⟩
        rintro ⟨ban', h, hlt⟩
        rw [hget, Option.some.injEq] at h
        exact absurd hexp (not_le.mpr (h ▸ hlt))
      · exact Or.inl ⟨⟨ban, hget, not_le.mp hexp⟩, by simp [isBanned, hget, hexp]⟩

/-- Everything `_record_failure` can do: nothing while the IP is banned; else it starts a ban
when the recent failures reach the limit with this one, and counts the failure otherwise. -/
theorem recordFailure_cases {s : BanStore} (hs : s.WF) (cfg : BanConfig) (type : FailureType)
    (ip : String) (failureLimit : Nat) (client : Option AccessLogClient) (t now : ℚ) :
    let s' := recordFailure cfg type ip failureLimit client t now s
    let recent := recentFailures cfg now (s.failures type ip) ++ [now]
    (s.Banned ip t ∧ s' = s) ∨
    (¬ s.Banned ip t ∧ failureLimit ≤ recent.length ∧
      s'.bans.entries = (s.bans.erase ip).entries ++ [(ip, newBan cfg ip client now)] ∧
      ∀ type' ip', s'.failures type' ip' = if ip' = ip then [] else s.failures type' ip') ∨
    (¬ s.Banned ip t ∧ recent.length < failureLimit ∧
      s'.bans.entries = (s.bans.erase ip).entries ∧
      ∀ type' ip', s'.failures type' ip' =
        if type' = type ∧ ip' = ip then recent else s.failures type' ip') := by
  dsimp only
  rcases isBanned_cases hs ip t with ⟨hban, heq⟩ | ⟨hban, s₁, heq, -, hbans, hfail⟩
  · exact Or.inl ⟨hban, by simp [recordFailure, heq]⟩
  · have hget : s₁.bans.get? ip = none := by
      rw [show s₁.bans = s.bans.erase ip from Dict.ext hbans, Dict.get?_erase_self]
    by_cases hlim :
        failureLimit ≤ (recentFailures cfg now (s.failures type ip) ++ [now]).length
    · refine Or.inr (Or.inl ⟨hban, hlim, ?_, ?_⟩)
      · simp only [recordFailure, heq, BanSelf.attrs_self, hfail, if_pos hlim, BanSelf.modify_self,
          Bool.false_eq_true, if_false]
        rw [Dict.entries_set_of_not_mem hget, hbans]
      · intro type' ip'
        simp only [recordFailure, heq, BanSelf.attrs_self, hfail, if_pos hlim, BanSelf.modify_self,
          Bool.false_eq_true, if_false]
        rw [← hfail]
        by_cases h : ip' = ip <;> cases type' <;>
          simp [failures, failuresByIp, Dict.get?_erase, h]
    · refine Or.inr (Or.inr ⟨hban, not_le.mp hlim, ?_, ?_⟩)
      · simp only [recordFailure, heq, BanSelf.attrs_self, hfail, if_neg hlim, BanSelf.modify_self,
          Bool.false_eq_true, if_false, bans_setFailuresByIp, hbans]
      · intro type' ip'
        simp only [recordFailure, heq, BanSelf.attrs_self, hfail, if_neg hlim, BanSelf.modify_self,
          Bool.false_eq_true, if_false, failures_setFailuresByIp]

theorem WF.recordFailure {s : BanStore} (hs : s.WF) (cfg : BanConfig) (type : FailureType)
    (ip : String) (failureLimit : Nat) (client : Option AccessLogClient) (t now : ℚ) :
    (recordFailure cfg type ip failureLimit client t now s).WF := by
  generalize hs' : BanStore.recordFailure cfg type ip failureLimit client t now s = s'
  rcases hs' ▸ recordFailure_cases hs cfg type ip failureLimit client t now with
    ⟨-, heq⟩ | ⟨-, -, hbans, hfail⟩ | ⟨-, -, hbans, hfail⟩
  · rwa [heq]
  · have hget : ∀ ip' ban, s'.bans.get? ip' = some ban →
        (ip' = ip ∧ ban = newBan cfg ip client now) ∨ (ip' ≠ ip ∧ s.bans.get? ip' = some ban) := by
      intro ip' ban h
      rw [← Dict.mem_entries_iff, hbans, List.mem_append, Dict.mem_entries_iff,
        Dict.get?_erase] at h
      by_cases hip : ip' = ip <;> simp_all
    refine ⟨?_, ?_⟩
    · intro ip' ban h
      rcases hget ip' ban h with ⟨rfl, rfl⟩ | ⟨-, h⟩
      · rfl
      · exact hs.ip_eq ip' ban h
    · intro ip' ban h type'
      rw [hfail]
      rcases hget ip' ban h with ⟨hip, -⟩ | ⟨hip, h⟩
      · rw [if_pos hip]
      · rw [if_neg hip, hs.no_failures ip' ban h]
  · have hget : ∀ ip' ban, s'.bans.get? ip' = some ban → ip' ≠ ip ∧ s.bans.get? ip' = some ban := by
      intro ip' ban h
      rw [Dict.ext hbans, Dict.get?_erase] at h
      by_cases hip : ip' = ip <;> simp_all
    refine hs.of_sub (fun ip' ban h => (hget ip' ban h).2) ?_
    intro ip' ban h type' hnil
    rw [hfail, if_neg fun h' => (hget ip' ban h).1 h'.2, hnil]

/-- `cleanup_expired` drops the expired bans and the failures outside the window. -/
theorem cleanupExpired_spec {s : BanStore} (hs : s.WF) (cfg : BanConfig) (now : ℚ) :
    (cleanupExpired cfg now s).bans.entries = s.bans.entries.filter (fun e => ↑now < e.2.expiresAt) ∧
    ∀ type ip, (cleanupExpired cfg now s).failures type ip =
      recentFailures cfg now (s.failures type ip) := by
  generalize hips : (s.bans.entries.filter fun e => e.2.expiresAt ≤ (now : WithTop ℚ)).map Prod.fst
    = ips
  have hmem : ∀ ip, ip ∈ ips ↔ ∃ ban, s.bans.get? ip = some ban ∧ ban.expiresAt ≤ ↑now := by
    intro ip
    simp [← hips, Dict.mem_entries_iff]
  refine ⟨?_, ?_⟩
  · -- the entries that are dropped are those of the expired bans
    simp only [cleanupExpired, BanSelf.attrs_self, BanSelf.delete_self, BanSelf.modify_self, hips,
      foldl_delete_bans, Dict.entries_foldl_erase]
    refine List.filter_congr ?_
    intro e he
    obtain ⟨ip, ban⟩ := e
    rw [Dict.mem_entries_iff] at he
    simp [hmem, he]
  · intro type ip
    -- `delete` takes the counters as well, but a banned IP has none
    have hfold : (ips.foldl (fun s ip => s.delete ip) s).failures type ip = s.failures type ip := by
      rw [foldl_delete_failures]
      split
      · next h =>
          obtain ⟨ban, hget, -⟩ := (hmem ip).mp h
          rw [hs.no_failures ip ban hget]
      · rfl
    rw [← hfold]
    simp only [cleanupExpired, BanSelf.attrs_self, BanSelf.delete_self, BanSelf.modify_self, hips]
    cases type <;> exact get?_cleanupFailures cfg now _ ip

theorem WF.cleanupExpired {s : BanStore} (hs : s.WF) (cfg : BanConfig) (now : ℚ) :
    (cleanupExpired cfg now s).WF := by
  obtain ⟨hbans, hfail⟩ := cleanupExpired_spec hs cfg now
  refine hs.of_sub ?_ ?_
  · intro ip ban h
    rw [← Dict.mem_entries_iff, hbans] at h
    exact Dict.mem_entries_iff.mp (List.mem_of_mem_filter h)
  · intro ip ban h type hnil
    rw [hfail, hnil]; rfl

end BanStore

end PxManager.Bans
