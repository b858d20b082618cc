import Mathlib.Data.List.Sort
import PxManager.Bans.StateText
import PxManager.Core.Machine

/-!
# PxManager.Bans.Restarts

The ban list over any number of lives of the process.

A process starts from the texts on the disk, serves calls, and dies: between two calls, in one of
them, or while it starts. `Ideal` is what all this amounts to: one `BanStore` that is only kept in
memory and never dies, except that a death makes it forget the failures that it has counted. A call
that is cut short has taken effect or has not.
-/

namespace PxManager.Bans

open PxManager.Core

/-! ### A store that is only kept in memory -/

namespace BanStore

/-- Perform a call on the store. -/
def performCall (cfg : BanConfig) (self : BanStore) (c : StoreCall) : Answer × BanStore :=
  match c.op with
  | .call (.recordFailure type ip client) =>
      (.none, recordFailure cfg type ip type.limit client c.t c.now self)
  | .call (.recordSuccess ip) => (.none, self.recordSuccess ip)
  | .call (.isBanned ip) =>
      let (banned, self) := isBanned ip c.t self
      (.banned banned, self)
  | .call .activeBans =>
      let (bans, self) := activeBans cfg c.t self
      (.bans bans, self)
  | .call .cleanupExpired => (.none, cleanupExpired cfg c.t self)
  | .delete ip => (.none, self.delete ip)

/-- The bans without the failures. -/
def forget (self : BanStore) : BanStore := { init with bans := self.bans }

@[simp] theorem forget_failures (self : BanStore) (type : FailureType) (ip : String) :
    self.forget.failures type ip = [] := by
  cases type <;> rfl

theorem WF.forget {self : BanStore} (h : self.WF) : self.forget.WF :=
  PersistentBanStore.wf_of_bans h.ip_eq

theorem WF.performCall {self : BanStore} (h : self.WF) (cfg : BanConfig) (c : StoreCall) :
    (self.performCall cfg c).2.WF := by
  obtain ⟨op, t, now, le⟩ := c
  cases op with
  | delete ip => exact h.delete ip
  | call op =>
      cases op with
      | recordFailure type ip client => exact h.recordFailure cfg type ip _ client t now
      | recordSuccess ip => exact h.recordSuccess ip
      | isBanned ip =>
          rcases isBanned_cases h ip t with ⟨-, heq⟩ | ⟨-, s', heq, hwf, -⟩
          · exact (congrArg (WF ·.2) heq).mpr h
          · exact (congrArg (WF ·.2) heq).mpr hwf
      | activeBans => exact h.cleanupExpired cfg t
      | cleanupExpired => exact h.cleanupExpired cfg t

end BanStore

/-- The bans are listed by the time at which they end. -/
theorem BanStore.sortedBans_sorted (self : BanStore) :
    (self.sortedBans.map Ban.expiresAt).SortedLE := by
  have hsorted : self.sortedBans.Pairwise fun ban ban' =>
      decide (ban.expiresAt ≤ ban'.expiresAt) = true := by
    refine List.pairwise_mergeSort ?_ ?_ _
    · intro a b c hab hbc
      exact decide_eq_true ((of_decide_eq_true hab).trans (of_decide_eq_true hbc))
    · intro a b
      simpa using le_total a.expiresAt b.expiresAt
  exact (List.pairwise_map.mpr (hsorted.imp of_decide_eq_true)).sortedLE

/-- The same answer. Only bans that end at the same time may be listed in another order. -/
inductive Answer.Same : Answer → Answer → Prop
  | none : Same .none .none
  | banned (b : Bool) : Same (.banned b) (.banned b)
  | bans {l l' : List Ban} (hperm : l.Perm l')
      (htimes : l.map Ban.expiresAt = l'.map Ban.expiresAt) : Same (.bans l) (.bans l')

/-- Two stores that cannot be told apart from `t` on. -/
structure Alike (t : ℚ) (s s' : BanStore) : Prop where
  bans : SameBans t s.bans s'.bans
  failures : ∀ type ip, s.failures type ip = s'.failures type ip

namespace Alike

variable {cfg : BanConfig} {t : ℚ} {s s' : BanStore}

theorem advance (h : Alike t s s') {t' : ℚ} (ht : t ≤ t') : Alike t' s s' :=
  ⟨h.bans.advance ht, h.failures⟩

theorem isBanned (h : Alike t s s') (hs : s.WF) (hs' : s'.WF) (ip : String) :
    (BanStore.isBanned ip t s).1 = (BanStore.isBanned ip t s').1 ∧
      Alike t (BanStore.isBanned ip t s).2 (BanStore.isBanned ip t s').2 := by
  obtain ⟨hanswer, hsame⟩ := isBanned_sameBans ip t s
  obtain ⟨hanswer', hsame'⟩ := isBanned_sameBans ip t s'
  have hfailures : ∀ {s : BanStore}, s.WF → ∀ type ip',
      (BanStore.isBanned ip t s).2.failures type ip' = s.failures type ip' := by
    intro s hs type ip'
    rcases BanStore.isBanned_cases hs ip t with ⟨-, heq⟩ | ⟨-, s₁, heq, -, -, hfail⟩
    · rw [heq]
    · rw [heq, hfail]
  refine ⟨?_, hsame.trans (h.bans.trans hsame'.symm), ?_⟩
  · rw [Bool.eq_iff_iff, hanswer, hanswer']
    exact h.bans.banned_iff ip
  · intro type ip'
    rw [hfailures hs, hfailures hs', h.failures]

theorem cleanupExpired (h : Alike t s s') (hs : s.WF) (hs' : s'.WF) :
    Alike t (BanStore.cleanupExpired cfg t s) (BanStore.cleanupExpired cfg t s') := by
  refine ⟨?_, ?_⟩
  · have hsame := PersistentBanStore.cleanupExpired_sameBans hs cfg t
    have hsame' := PersistentBanStore.cleanupExpired_sameBans hs' cfg t
    exact hsame.trans (h.bans.trans hsame'.symm)
  · intro type ip
    rw [(BanStore.cleanupExpired_spec hs cfg t).2, (BanStore.cleanupExpired_spec hs' cfg t).2,
      h.failures]

variable (cfg) in
/-- After `cleanup_expired` all bans are in force, so the two stores list the same. -/
theorem sortedBans_cleanupExpired (h : Alike t s s') (hs : s.WF) (hs' : s'.WF) :
    (BanStore.cleanupExpired cfg t s).sortedBans.Perm
      (BanStore.cleanupExpired cfg t s').sortedBans := by
  have hentries : ∀ {s : BanStore}, s.WF → ∀ ip ban,
      (ip, ban) ∈ (BanStore.cleanupExpired cfg t s).bans.entries ↔
        s.bans.get? ip = some ban ∧ ↑t < ban.expiresAt := by
    intro s hs ip ban
    rw [(BanStore.cleanupExpired_spec hs cfg t).1, List.mem_filter, Dict.mem_entries_iff,
      decide_eq_true_eq]
  have hperm : (BanStore.cleanupExpired cfg t s).bans.entries.Perm
      (BanStore.cleanupExpired cfg t s').bans.entries := by
    rw [List.perm_ext_iff_of_nodup (List.Nodup.of_map _ (Dict.keys_nodup _))
      (List.Nodup.of_map _ (Dict.keys_nodup _))]
    rintro ⟨ip, ban⟩
    rw [hentries hs, hentries hs']
    exact and_congr_left fun hlt => h.bans ip ban hlt
  unfold BanStore.sortedBans
  exact (List.mergeSort_perm _ _).trans
    ((hperm.map Prod.snd).trans (List.mergeSort_perm _ _).symm)

/-- What `_record_failure` leaves of the bans: another ban of the IP, or none. -/
theorem sameBans_of_entries {a a' b b' : Dict String Ban} (h : SameBans t a b) {ip : String}
    {started : List (String × Ban)} (ha : a'.entries = (a.erase ip).entries ++ started)
    (hb : b'.entries = (b.erase ip).entries ++ started) : SameBans t a' b' := by
  intro ip' ban hlt
  rw [← Dict.mem_entries_iff, ← Dict.mem_entries_iff, ha, hb, List.mem_append, List.mem_append,
    Dict.mem_entries_iff, Dict.mem_entries_iff, Dict.get?_erase, Dict.get?_erase]
  split
  · exact Iff.rfl
  · exact or_congr_left (h ip' ban hlt)

theorem recordFailure (h : Alike t s s') (hs : s.WF) (hs' : s'.WF) (type : FailureType)
    (ip : String) (failureLimit : Nat) (client : Option AccessLogClient) (now : ℚ) :
    Alike t (BanStore.recordFailure cfg type ip failureLimit client t now s)
      (BanStore.recordFailure cfg type ip failureLimit client t now s') := by
  have hbanned := h.bans.banned_iff ip
  have hcases := BanStore.recordFailure_cases hs cfg type ip failureLimit client t now
  have hcases' := BanStore.recordFailure_cases hs' cfg type ip failureLimit client t now
  dsimp only at hcases hcases'
  rw [← hbanned, ← h.failures] at hcases'
  rcases hcases with ⟨hban, heq⟩ | ⟨hban, hlimit, hbans, hfail⟩ | ⟨hban, hlimit, hbans, hfail⟩
  · rcases hcases' with ⟨-, heq'⟩ | ⟨hban', -⟩ | ⟨hban', -⟩
    · rw [heq, heq']
      exact h
    · exact absurd hban hban'
    · exact absurd hban hban'
  · rcases hcases' with ⟨hban', -⟩ | ⟨-, -, hbans', hfail'⟩ | ⟨-, hlimit', -⟩
    · exact absurd hban' hban
    · refine ⟨sameBans_of_entries h.bans hbans hbans', ?_⟩
      intro type' ip'
      rw [hfail, hfail', h.failures]
    · exact absurd hlimit (not_le.mpr hlimit')
  · rcases hcases' with ⟨hban', -⟩ | ⟨-, hlimit', -⟩ | ⟨-, -, hbans', hfail'⟩
    · exact absurd hban' hban
    · exact absurd hlimit' (not_le.mpr hlimit)
    · rw [← List.append_nil (s.bans.erase ip).entries] at hbans
      rw [← List.append_nil (s'.bans.erase ip).entries] at hbans'
      refine ⟨sameBans_of_entries h.bans hbans hbans', ?_⟩
      intro type' ip'
      rw [hfail, hfail', h.failures type ip, h.failures type' ip']

theorem delete (h : Alike t s s') (ip : String) : Alike t (s.delete ip) (s'.delete ip) := by
  refine ⟨?_, ?_⟩
  · intro ip' ban hlt
    rw [BanStore.delete, BanStore.delete, Dict.get?_erase, Dict.get?_erase]
    split
    · exact Iff.rfl
    · exact h.bans ip' ban hlt
  · intro type ip'
    rw [BanStore.failures_delete, BanStore.failures_delete, h.failures]

variable (cfg) in
/-- Two stores that are alike answer a call alike, and stay alike. -/
theorem performCall {c : StoreCall} (h : Alike c.t s s') (hs : s.WF) (hs' : s'.WF) :
    Answer.Same (s.performCall cfg c).1 (s'.performCall cfg c).1 ∧
      Alike c.t (s.performCall cfg c).2 (s'.performCall cfg c).2 := by
  obtain ⟨op, t, now, le⟩ := c
  cases op with
  | delete ip => exact ⟨.none, h.delete ip⟩
  | call op =>
      cases op with
      | recordFailure type ip client => exact ⟨.none, h.recordFailure hs hs' type ip _ client now⟩
      | recordSuccess ip =>
          refine ⟨.none, h.bans, ?_⟩
          intro type ip'
          simp only [BanStore.performCall, BanStore.failures_recordSuccess, h.failures]
      | isBanned ip =>
          obtain ⟨hanswer, hafter⟩ := h.isBanned hs hs' ip
          refine ⟨?_, hafter⟩
          simp only [BanStore.performCall, hanswer]
          exact .banned _
      | activeBans =>
          have hperm := h.sortedBans_cleanupExpired cfg hs hs'
          have htimes := (hperm.map Ban.expiresAt).eq_of_sortedLE (BanStore.sortedBans_sorted _)
            (BanStore.sortedBans_sorted _)
          exact ⟨.bans hperm htimes, h.cleanupExpired hs hs'⟩
      | cleanupExpired => exact ⟨.none, h.cleanupExpired hs hs'⟩

end Alike

/-! ### Lives of the process -/

/-- What happens to the process. The clock readings of the constructor and of a call are given, and
where the process dies on the way, how many file steps it has taken. -/
inductive Happening
  | start (now₁ now₂ : ℚ)
  | dieStarting (now₁ now₂ : ℚ) (steps : Nat)
  | call (c : StoreCall)
  | dieCalling (c : StoreCall) (steps : Nat)
  | die

/-- The process and its files. `memory` is `none` while it does not run. -/
structure Process where
  disk : TextDisk
  memory : Option BanStore
  clock : ℚ
  answers : List Answer
  /-- Has the constructor raised? -/
  raised : Bool

namespace Process

/-- A machine on which the process has never run. -/
def init (clock : ℚ) : Process := ⟨⟨none, none⟩, none, clock, [], false⟩

variable (py : Builtins) (float : Text → PyFloat) (cfg : BanConfig)

/-- The constructor over the files of the process. -/
def construct (s : Process) (now₁ now₂ : ℚ) : Except LoadError (TextBanStore py) :=
  TextBanStore.load float cfg now₁ now₂ s.disk

/-- A call on the store in memory. -/
def serve (s : Process) (attrs : BanStore) (c : StoreCall) : Answer × TextBanStore py :=
  TextBanStore.perform cfg ⟨attrs, s.disk, []⟩ c

/-- What happens next, where it can happen. -/
def step (s : Process) : Happening → Option Process
  | .start now₁ now₂ =>
      if s.memory.isNone ∧ s.clock ≤ now₁ ∧ now₁ ≤ now₂ then
        match s.construct py float cfg now₁ now₂ with
        | .ok self => some { s with disk := self.disk, memory := some self.attrs, clock := now₂ }
        | .error _ => some { s with clock := now₂, raised := true }
      else none
  | .dieStarting now₁ now₂ steps =>
      if s.memory.isNone ∧ s.clock ≤ now₁ ∧ now₁ ≤ now₂ then
        match s.construct py float cfg now₁ now₂ with
        | .ok self =>
            ((s.disk :: self.trail)[steps]?).map fun disk => { s with disk, clock := now₂ }
        | .error _ => some { s with clock := now₂, raised := true }
      else none
  | .call c =>
      match s.memory with
      | some attrs =>
          if s.clock ≤ c.t then
            let (answer, self) := s.serve py cfg attrs c
            some { s with disk := self.disk, memory := some self.attrs, clock := c.now,
                          answers := s.answers ++ [answer] }
          else none
      | none => none
  | .dieCalling c steps =>
      match s.memory with
      | some attrs =>
          if s.clock ≤ c.t then
            ((s.disk :: (s.serve py cfg attrs c).2.trail)[steps]?).map fun disk =>
              { s with disk, memory := none, clock := c.now }
          else none
      | none => none
  | .die => if s.memory.isSome then some { s with memory := none } else none

end Process

/-! ### What they amount to -/

/-- One store for all lives. -/
structure Ideal where
  store : BanStore
  running : Bool
  clock : ℚ
  answers : List Answer

/-- The store before the first life. -/
def Ideal.init (clock : ℚ) : Ideal := ⟨BanStore.init, false, clock, []⟩

/-- What happens to the one store. A death takes the failures away, and no ban. -/
inductive Ideal.Step (cfg : BanConfig) : Ideal → Happening → Ideal → Prop
  | start {i : Ideal} {now₁ now₂ : ℚ} :
      Ideal.Step cfg i (.start now₁ now₂) { i with running := true, clock := now₂ }
  | dieStarting {i : Ideal} {now₁ now₂ : ℚ} {steps : Nat} :
      Ideal.Step cfg i (.dieStarting now₁ now₂ steps) { i with clock := now₂ }
  | call {i : Ideal} {c : StoreCall} :
      Ideal.Step cfg i (.call c)
        { i with store := (i.store.performCall cfg c).2, clock := c.now,
                 answers := i.answers ++ [(i.store.performCall cfg c).1] }
  /-- The call has had no effect. -/
  | dieBefore {i : Ideal} {c : StoreCall} {steps : Nat} :
      Ideal.Step cfg i (.dieCalling c steps)
        { i with store := i.store.forget, running := false, clock := c.now }
  /-- The call has had its effect. -/
  | dieAfter {i : Ideal} {c : StoreCall} {steps : Nat} :
      Ideal.Step cfg i (.dieCalling c steps)
        { i with store := (i.store.performCall cfg c).2.forget, running := false, clock := c.now }
  | die {i : Ideal} : Ideal.Step cfg i .die { i with store := i.store.forget, running := false }

/-! ### One step -/

section Simulation

variable {py : Builtins} {float : Text → PyFloat} {cfg : BanConfig}

/-- What is in memory when the one store is `store`. -/
inductive Remembers (py : Builtins) (float : Text → PyFloat) (clock : ℚ) (i : Ideal) :
    Option BanStore → Prop
  | running {attrs : BanStore} (hrunning : i.running = true) (hwf : attrs.WF)
      (hwritable : Writable py float attrs.bans) (halike : Alike clock attrs i.store) :
      Remembers py float clock i (some attrs)
  | dead (hrunning : i.running = false) (hforgotten : ∀ type ip, i.store.failures type ip = []) :
      Remembers py float clock i none

/-- The process implements the one store: its answers are the same, and its disk brings the bans of
the one store back. -/
structure Implements (py : Builtins) (float : Text → PyFloat) (cfg : BanConfig) (s : Process)
    (i : Ideal) : Prop where
  clock : i.clock = s.clock
  answers : List.Forall₂ Answer.Same s.answers i.answers
  raised : s.raised = false
  wf : i.store.WF
  disk : ∃ disk', Shows py float s.disk disk' ∧ Recovers cfg s.clock disk' i.store.bans
  memory : Remembers py float s.clock i s.memory

theorem Implements.init (clock : ℚ) :
    Implements py float cfg (Process.init clock) (Ideal.init clock) where
  clock := rfl
  answers := .nil
  raised := rfl
  wf := BanStore.WF.init
  disk := by
    refine ⟨⟨none, none⟩, .absent rfl rfl, ?_⟩
    intro now₁ now₂ _ _
    exact ⟨⟨BanStore.init, ⟨none, none⟩, []⟩, rfl, SameBans.refl _ _⟩
  memory := .dead rfl fun type ip => BanStore.failures_init type ip

/-- What the constructor does. -/
theorem Implements.construct {s : Process} {i : Ideal} (h : Implements py float cfg s i)
    {now₁ now₂ : ℚ} (h₁ : s.clock ≤ now₁) (h₂ : now₁ ≤ now₂) :
    ∃ self, s.construct py float cfg now₁ now₂ = .ok self ∧ self.attrs.WF ∧
      Writable py float self.attrs.bans ∧ SameBans now₂ self.attrs.bans i.store.bans ∧
      (∀ type ip, self.attrs.failures type ip = []) ∧
      ∀ disk ∈ s.disk :: self.disk :: self.trail,
        ∃ disk', Shows py float disk disk' ∧ Recovers cfg now₂ disk' i.store.bans := by
  obtain ⟨disk', hshows, hrecovers⟩ := h.disk
  obtain ⟨p, hload, hsynced, htrail⟩ := load_crashSafe cfg hshows.storeWritten h₂
  obtain ⟨p', hload', hsame⟩ := hrecovers now₁ now₂ h₁ h₂
  cases hload.symm.trans hload'
  obtain ⟨self, hself, hshown, hfailures⟩ := Shown.load hshows now₁ now₂ hload
  refine ⟨self, hself, ?_, ?_, ?_, ?_, ?_⟩
  · exact hshown.attrs ▸ hsynced.wf
  · exact hshown.attrs ▸ hshown.writable
  · exact hshown.attrs ▸ hsame
  · exact hshown.attrs ▸ hfailures
  · intro disk hdisk
    rcases List.mem_cons.mp hdisk with rfl | hdisk
    · exact ⟨disk', hshows, (htrail disk' List.mem_cons_self).congr hsame⟩
    · rcases List.mem_cons.mp hdisk with rfl | hdisk
      · exact ⟨p.disk, hshown.disk, hsynced.recovers.congr hsame⟩
      · obtain ⟨disk'', hmem, hshows'⟩ := hshown.trail disk hdisk
        exact ⟨disk'', hshows', (htrail disk'' (List.mem_cons_of_mem _ hmem)).congr hsame⟩

variable (cfg) in
/-- On the attributes, a call does what it does to a store in memory. -/
theorem TextBanStore.perform_eq (self : TextBanStore py) (c : StoreCall) :
    (self.perform cfg c).1 = (self.attrs.performCall cfg c).1 ∧
      (self.perform cfg c).2.attrs = (self.attrs.performCall cfg c).2 := by
  obtain ⟨op, t, now, le⟩ := c
  cases op with
  | delete ip => exact ⟨rfl, self.delete_attrs ip⟩
  | call op =>
      cases op with
      | recordFailure type ip client => exact ⟨rfl, recordFailure_attrs cfg type ip _ client t now self⟩
      | recordSuccess ip => exact ⟨rfl, rfl⟩
      | isBanned ip =>
          have heq := BanStore.isBanned_attrs ip t self
          exact ⟨congrArg Answer.banned (congrArg Prod.fst heq.symm), congrArg Prod.snd heq.symm⟩
      | activeBans =>
          have heq := self.cleanupExpired_attrs cfg t
          exact ⟨congrArg Answer.bans (congrArg BanStore.sortedBans heq), heq⟩
      | cleanupExpired => exact ⟨rfl, self.cleanupExpired_attrs cfg t⟩

/-- What a call does. -/
theorem Implements.serve {s : Process} {i : Ideal} (h : Implements py float cfg s i)
    {attrs : BanStore} (hwf : attrs.WF) (hwritable : Writable py float attrs.bans)
    (halike : Alike s.clock attrs i.store) {c : StoreCall} (hc : s.clock ≤ c.t)
    (hfloat : c.ReadsExpiry py float cfg) :
    let served := s.serve py cfg attrs c
    let after := (i.store.performCall cfg c).2
    Answer.Same served.1 (i.store.performCall cfg c).1 ∧ served.2.attrs.WF ∧
      Writable py float served.2.attrs.bans ∧ Alike c.t served.2.attrs after ∧
      (∃ disk', Shows py float served.2.disk disk' ∧ Recovers cfg c.t disk' after.bans) ∧
      ∀ disk ∈ s.disk :: served.2.trail, ∃ disk', Shows py float disk disk' ∧
        (Recovers cfg c.t disk' i.store.bans ∨ Recovers cfg c.t disk' after.bans) := by
  obtain ⟨disk', hshows, hrecovers⟩ := h.disk
  have halike := halike.advance hc
  obtain ⟨hanswer, hafter⟩ := halike.performCall cfg hwf h.wf
  have hbefore : Recovers cfg c.t disk' attrs.bans :=
    (hrecovers.advance hc).congr halike.bans.symm
  have hshown : Shown float (⟨attrs, s.disk, []⟩ : TextBanStore py) ⟨attrs, disk', []⟩ :=
    ⟨rfl, hwritable, hshows, fun _ hdisk => absurd hdisk List.not_mem_nil⟩
  have hserved := hshown.perform hfloat
  have hsynced : PersistentBanStore.Synced cfg c.t ⟨attrs, disk', []⟩ := ⟨hwf, hbefore⟩
  obtain ⟨⟨hwf', hrecovers'⟩, htrail⟩ := PersistentBanStore.CrashSafe.perform hsynced
  obtain ⟨hfirst, hsecond⟩ :=
    TextBanStore.perform_eq cfg (⟨attrs, s.disk, []⟩ : TextBanStore py) c
  have hattrs := hserved.attrs.symm.trans hsecond
  have hsame : SameBans c.t (PersistentBanStore.perform cfg ⟨attrs, disk', []⟩ c).attrs.bans
      (i.store.performCall cfg c).2.bans := by
    rw [hattrs]
    exact hafter.bans
  refine ⟨hfirst ▸ hanswer, hserved.attrs ▸ hwf', hserved.attrs ▸ hserved.writable,
    hsecond ▸ hafter, ⟨_, hserved.disk, hrecovers'.congr hsame⟩, ?_⟩
  intro disk hdisk
  rcases List.mem_cons.mp hdisk with rfl | hdisk
  · exact ⟨disk', hshows, .inl (hrecovers.advance hc)⟩
  · obtain ⟨disk'', hmem, hshows'⟩ := hserved.trail disk hdisk
    rcases htrail disk'' hmem with hmem | hrec | hrec
    · exact absurd hmem List.not_mem_nil
    · exact ⟨disk'', hshows', .inl (hrec.congr halike.bans)⟩
    · exact ⟨disk'', hshows', .inr (hrec.congr hsame)⟩

/-- Every step of the process is one of the one store. -/
theorem Implements.step {s s' : Process} {i : Ideal} {happening : Happening}
    (h : Implements py float cfg s i)
    (hfloat : ∀ c, happening = .call c ∨ (∃ steps, happening = .dieCalling c steps) →
      c.ReadsExpiry py float cfg)
    (hstep : s.step py float cfg happening = some s') :
    ∃ i', Ideal.Step cfg i happening i' ∧ Implements py float cfg s' i' := by
  cases happening with
  | start now₁ now₂ =>
      simp only [Process.step] at hstep
      split at hstep
      · next hcan =>
          obtain ⟨hdead, h₁, h₂⟩ := hcan
          obtain ⟨self, hself, hwf, hwritable, hsame, hforgotten, hdisks⟩ := h.construct h₁ h₂
          rw [hself] at hstep
          cases hstep
          have hmemory := h.memory
          rw [Option.isNone_iff_eq_none.mp hdead] at hmemory
          cases hmemory with
          | dead hrunning hnone =>
              refine ⟨_, .start, rfl, h.answers, h.raised, h.wf,
                hdisks self.disk (List.mem_cons_of_mem _ List.mem_cons_self),
                .running rfl hwf hwritable ⟨hsame, ?_⟩⟩
              intro type ip
              rw [hforgotten, hnone]
      · cases hstep
  | dieStarting now₁ now₂ steps =>
      simp only [Process.step] at hstep
      split at hstep
      · next hcan =>
          obtain ⟨hdead, h₁, h₂⟩ := hcan
          obtain ⟨self, hself, -, -, -, -, hdisks⟩ := h.construct h₁ h₂
          rw [hself] at hstep
          obtain ⟨disk, hdisk, rfl⟩ := Option.map_eq_some_iff.mp hstep
          have hmem : disk ∈ s.disk :: self.disk :: self.trail := by
            rcases List.mem_cons.mp (List.mem_of_getElem? hdisk) with rfl | hmem
            · exact List.mem_cons_self
            · exact List.mem_cons_of_mem _ (List.mem_cons_of_mem _ hmem)
          have hmemory := h.memory
          rw [Option.isNone_iff_eq_none.mp hdead] at hmemory
          cases hmemory with
          | dead hrunning hnone =>
              refine ⟨_, .dieStarting, rfl, h.answers, h.raised, h.wf, hdisks disk hmem, ?_⟩
              rw [Option.isNone_iff_eq_none.mp hdead]
              exact .dead hrunning hnone
      · cases hstep
  | call c =>
      simp only [Process.step] at hstep
      split at hstep
      · next attrs hattrs =>
          split at hstep
          · next hc =>
              cases hstep
              have hmemory := h.memory
              rw [hattrs] at hmemory
              cases hmemory with
              | running hrunning hwf hwritable halike =>
                  obtain ⟨hanswer, hwf', hwritable', hafter, ⟨disk', hshows, hrec⟩, -⟩ :=
                    h.serve hwf hwritable halike hc (hfloat c (.inl rfl))
                  exact ⟨_, .call, rfl, List.rel_append h.answers (.cons hanswer .nil), h.raised,
                    h.wf.performCall cfg c, ⟨disk', hshows, hrec.advance c.le⟩,
                    .running hrunning hwf' hwritable' (hafter.advance c.le)⟩
          · cases hstep
      · cases hstep
  | dieCalling c steps =>
      simp only [Process.step] at hstep
      split at hstep
      · next attrs hattrs =>
          split at hstep
          · next hc =>
              obtain ⟨disk, hdisk, rfl⟩ := Option.map_eq_some_iff.mp hstep
              have hmemory := h.memory
              rw [hattrs] at hmemory
              cases hmemory with
              | running hrunning hwf hwritable halike =>
                  obtain ⟨-, -, -, -, -, hdisks⟩ :=
                    h.serve hwf hwritable halike hc (hfloat c (.inr ⟨steps, rfl⟩))
                  obtain ⟨disk', hshows, hrec⟩ := hdisks disk (List.mem_of_getElem? hdisk)
                  -- the disk decides whether the call has had its effect
                  rcases hrec with hrec | hrec
                  · exact ⟨_, .dieBefore, rfl, h.answers, h.raised, h.wf.forget,
                      ⟨disk', hshows, hrec.advance c.le⟩,
                      .dead rfl (BanStore.forget_failures _)⟩
                  · exact ⟨_, .dieAfter, rfl, h.answers, h.raised, (h.wf.performCall cfg c).forget,
                      ⟨disk', hshows, hrec.advance c.le⟩,
                      .dead rfl (BanStore.forget_failures _)⟩
          · cases hstep
      · cases hstep
  | die =>
      simp only [Process.step] at hstep
      split at hstep
      · cases hstep
        exact ⟨_, .die, h.clock, h.answers, h.raised, h.wf.forget, h.disk,
          .dead rfl (BanStore.forget_failures _)⟩
      · cases hstep

end Simulation

/-- **The ban list over any number of lives.** Whatever happens to the process, each answer that it
has given is the one that a single store gives which is only kept in memory and never dies: a death
takes away the failures counted so far and nothing else, and a call that the process has died in has
taken effect or has not. The constructor never raises. -/
theorem restarts_refine_ideal (py : Builtins) (float : Text → PyFloat) (cfg : BanConfig)
    (clock : ℚ) (happenings : List Happening)
    (hfloat : ∀ c, (.call c ∈ happenings ∨ ∃ steps, .dieCalling c steps ∈ happenings) →
      c.ReadsExpiry py float cfg)
    {s : Process} (hrun : run (Process.step py float cfg) (Process.init clock) happenings = some s) :
    s.raised = false ∧ ∃ i, RunsTo (Ideal.Step cfg) (Ideal.init clock) happenings i ∧
      List.Forall₂ Answer.Same s.answers i.answers ∧
      ∀ attrs, s.memory = some attrs → Alike s.clock attrs i.store := by
  have hsteps : ∀ s i happening s', happening ∈ happenings → Implements py float cfg s i →
      s.step py float cfg happening = some s' →
      ∃ i', Ideal.Step cfg i happening i' ∧ Implements py float cfg s' i' := by
    intro s i happening s' hmem h hstep
    refine h.step ?_ hstep
    rintro c (rfl | ⟨steps, rfl⟩)
    · exact hfloat c (.inl hmem)
    · exact hfloat c (.inr ⟨steps, hmem⟩)
  obtain ⟨i, hruns, h⟩ := run_simulated hsteps (Implements.init clock) hrun
  refine ⟨h.raised, i, hruns, h.answers, ?_⟩
  intro attrs hattrs
  have hmemory := h.memory
  rw [hattrs] at hmemory
  cases hmemory with
  | running _ _ _ halike => exact halike

/-- Python on floats that are whole numbers. -/
def wholeBuiltins : Builtins :=
  { asciiBuiltins with
    repr := fun
      | .float (.finite q) => decimal q.num ++ ".0".toList
      | _ => [] }

/-- `float` of such a number. -/
def wholeFloat (text : Text) : PyFloat :=
  .finite (signedInt [] (text.takeWhile Char.isDigit))

theorem readsFloat_end : wholeBuiltins.ReadsFloat wholeFloat 10801 := by
  refine ⟨⟨[], "10801".toList, ".0".toList, [], .inl rfl, by decide, by decide, by decide,
    .inr ⟨['0'], by decide, by decide, rfl⟩, .inl rfl⟩, by decide, ?_, ?_⟩
  · decide +kernel
  · decide +kernel

/-- The call that reports a failure of a login. -/
def sampleFailure : StoreCall := ⟨.call (.recordFailure .login "192.0.2.1" none), 1, 1, le_rfl⟩

/-- Five failures, then the process dies while it clears the list up and is started again. -/
def sampleLives : List Happening :=
  [.start 0 0] ++ List.replicate 5 (.call sampleFailure) ++ [.die, .dieStarting 2 2 0, .start 2 2,
    .call ⟨.call (.isBanned "192.0.2.1"), 3, 3, le_rfl⟩]

theorem readsExpiry_of_mem_sampleLives (c : StoreCall)
    (h : .call c ∈ sampleLives ∨ ∃ steps, .dieCalling c steps ∈ sampleLives) :
    c.ReadsExpiry wholeBuiltins wholeFloat appConfig := by
  intro type ip client hop
  have hnow : c.now = 1 ∨ ∃ ip, c.op = .call (.isBanned ip) := by
    rcases h with h | ⟨steps, h⟩
    · simp only [sampleLives, List.mem_append, List.mem_cons, List.mem_replicate] at h
      rcases h with (h | ⟨-, h⟩) | h | h | h | h | h
      · rcases h with h | h <;> cases h
      · cases h
        exact .inl rfl
      · cases h
      · cases h
      · cases h
      · cases h
        exact .inr ⟨_, rfl⟩
      · cases h
    · simp [sampleLives] at h
  rcases hnow with hnow | ⟨ip', hop'⟩
  · have hsum : (1 : ℚ) + appConfig.banTtlSeconds = 10801 := by decide +kernel
    rw [hnow, hsum]
    exact readsFloat_end
  · rw [hop'] at hop
    cases hop

/-- The ban that five failures start is there in the next life. -/
theorem restarts_refine_ideal_five_failures :
    ∃ s i, run (Process.step wholeBuiltins wholeFloat appConfig) (Process.init 0) sampleLives =
        some s ∧
      RunsTo (Ideal.Step appConfig) (Ideal.init 0) sampleLives i ∧
      s.answers = List.replicate 5 .none ++ [.banned true] ∧
      List.Forall₂ Answer.Same s.answers i.answers := by
  have hanswers : (run (Process.step wholeBuiltins wholeFloat appConfig) (Process.init 0)
      sampleLives).map (·.answers) = some (List.replicate 5 .none ++ [.banned true]) := by
    decide +kernel
  obtain ⟨s, hrun, hs⟩ := Option.map_eq_some_iff.mp hanswers
  obtain ⟨-, i, hruns, hsame, -⟩ := restarts_refine_ideal wholeBuiltins wholeFloat appConfig 0
    sampleLives readsExpiry_of_mem_sampleLives hrun
  exact ⟨s, i, hrun, hruns, hs, hsame⟩

end PxManager.Bans
