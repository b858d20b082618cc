import Mathlib.Data.List.Induction
import PxManager.Bans.Calls

/-!
# PxManager.Bans.Refinement

`BanStore` implements the lockout policy.

The coupling invariant `Coupled` relates the store after a run to the policy's view of the run,
at any clock reading `clock` not before the run's last call. It speaks only of what is still
alive at `clock`, which is why it survives the lazy pruning:

* the unexpired bans are the unexpired bans of the policy, in the order in which they started;
* for every start of a window that can still be asked about, the stored counters of an IP have
  as many failures after it as the policy remembers.

Each method has one preservation lemma; `coupled_run` puts them together, and the answers are
read off the invariant.
-/

namespace PxManager.Bans

open PxManager.Core BanStore

variable {cfg : BanConfig} {countsLocked : Bool}

/-- The calls are made at non-decreasing clock readings. -/
def ClockOrdered (calls : List Call) : Prop := calls.Pairwise fun c c' => c.time ≤ c'.time

instance (calls : List Call) : Decidable (ClockOrdered calls) :=
  inferInstanceAs (Decidable (calls.Pairwise _))

/-- The bans of a list that are in force at `t`. -/
def liveBans (t : ℚ) (bans : List Ban) : List Ban := bans.filter fun ban => ↑t < ban.expiresAt

theorem mem_liveBans {t : ℚ} {bans : List Ban} {ban : Ban} :
    ban ∈ liveBans t bans ↔ ban ∈ bans ∧ ↑t < ban.expiresAt := by
  simp [liveBans]

theorem liveBans_append (t : ℚ) (bans bans' : List Ban) :
    liveBans t (bans ++ bans') = liveBans t bans ++ liveBans t bans' := List.filter_append ..

/-- What is in force later is in force now. -/
theorem liveBans_liveBans {t t' : ℚ} (h : t ≤ t') (bans : List Ban) :
    liveBans t' (liveBans t bans) = liveBans t' bans := by
  rw [liveBans, liveBans, List.filter_filter]
  refine List.filter_congr ?_
  intro ban _
  have hlt : (t' : WithTop ℚ) < ban.expiresAt → (t : WithTop ℚ) < ban.expiresAt :=
    lt_of_le_of_lt (WithTop.coe_le_coe.mpr h)
  by_cases h' : (t' : WithTop ℚ) < ban.expiresAt <;> simp [h', hlt]

/-! ### The policy's view of a run -/

theorem exists_call_of_mem_history {ip : String} {past : List Call}
    {e : Lockout.Entry ℚ FailureType} (h : e ∈ history ip past) : ∃ c ∈ past, c.time = e.time := by
  obtain ⟨c, hc, he⟩ := List.mem_filterMap.mp h
  refine ⟨c, hc, ?_⟩
  unfold Call.entry? at he
  split at he <;> first | cases he | (split at he <;> cases he; rfl)

/-- The entry that a call adds to a history has the call's time. -/
theorem entry?_time {ip : String} {c : Call} {e : Lockout.Entry ℚ FailureType}
    (h : c.entry? ip = some e) : e.time = c.time := by
  have hmem : e ∈ history ip [c] := by simp [history, h]
  obtain ⟨c', hc', heq⟩ := exists_call_of_mem_history hmem
  rw [← heq, List.mem_singleton.mp hc']

/-- Every verdict is about a call of the run. -/
theorem exists_call_of_mem_verdicts {ip : String} {past : List Call}
    {j : Lockout.Judged ℚ FailureType} (h : j ∈ verdicts cfg countsLocked ip past) :
    ∃ c ∈ past, c.time = j.time :=
  exists_call_of_mem_history (Lockout.Policy.exists_entry_of_mem_judged h)

theorem verdicts_cons_of_none {ip : String} {c : Call} {past : List Call}
    (h : c.entry? ip = none) :
    verdicts cfg countsLocked ip (c :: past) = verdicts cfg countsLocked ip past := by
  simp [verdicts, history, h]

theorem verdicts_cons_of_some {ip : String} {c : Call} {past : List Call}
    {e : Lockout.Entry ℚ FailureType} (h : c.entry? ip = some e) :
    verdicts cfg countsLocked ip (c :: past) =
      (banPolicy cfg countsLocked).judge (verdicts cfg countsLocked ip past) e ::
        verdicts cfg countsLocked ip past := by
  simp [verdicts, history, h]

/-- The ban that a call starts expires `banTtlSeconds` after the call. -/
theorem expiresAt_of_ban? {c : Call} {past : List Call} {ban : Ban}
    (h : c.ban? cfg past = some ban) : ban.expiresAt = ↑(c.time + cfg.banTtlSeconds) := by
  unfold Call.ban? at h
  split at h
  · split at h <;> cases h
    rfl
  · cases h

/-- The verdict on a call starts a ban exactly when the call starts one for that IP. -/
theorem judge_starts_iff {ip : String} {c : Call} {past : List Call}
    {e : Lockout.Entry ℚ FailureType} (h : c.entry? ip = some e) :
    ((banPolicy cfg false).judge (verdicts cfg false ip past) e).starts = true ↔
      ∃ ban, c.ban? cfg past = some ban ∧ ban.ip = ip := by
  obtain ⟨time, op⟩ := c
  cases op with
  | recordFailure type ip' client =>
      simp only [Call.entry?] at h
      split at h
      · next heq =>
          cases h
          subst heq
          simp [Call.ban?, newBan]
      · cases h
  | recordSuccess ip' =>
      simp only [Call.entry?] at h
      split at h <;> cases h
      simp [Lockout.Policy.judge, Call.ban?]
  | _ => simp [Call.entry?] at h

/-- A call that starts a ban for an IP is an entry of that IP's history. -/
theorem entry?_ne_none_of_ban? {c : Call} {past : List Call} {ban : Ban}
    (h : c.ban? cfg past = some ban) : c.entry? ban.ip ≠ none := by
  obtain ⟨time, op⟩ := c
  cases op with
  | recordFailure type ip client =>
      simp only [Call.ban?] at h
      split at h <;> cases h
      simp [Call.entry?, newBan]
  | _ => simp [Call.ban?] at h

/-- The bans of a run expire `banTtlSeconds` after one of its calls. -/
theorem exists_call_of_mem_bansStarted {past : List Call} {ban : Ban}
    (h : ban ∈ bansStarted cfg past) :
    ∃ c ∈ past, ban.expiresAt = ↑(c.time + cfg.banTtlSeconds) := by
  induction past with
  | nil => simp [bansStarted] at h
  | cons c past ih =>
      rcases List.mem_append.mp h with h | h
      · obtain ⟨c', hc', heq⟩ := ih h
        exact ⟨c', List.mem_cons_of_mem _ hc', heq⟩
      · exact ⟨c, List.mem_cons_self, expiresAt_of_ban? (Option.mem_toList.mp h)⟩

variable (cfg) in
/-- The policy's bans start, and so expire, in the order of the clock. -/
theorem bansStarted_pairwise {past : List Call}
    (h : past.Pairwise fun c c' => c'.time ≤ c.time) :
    (bansStarted cfg past).Pairwise fun ban ban' => ban.expiresAt ≤ ban'.expiresAt := by
  induction past with
  | nil => simp [bansStarted]
  | cons c past ih =>
      obtain ⟨hc, hpast⟩ := List.pairwise_cons.mp h
      refine List.pairwise_append.mpr ⟨ih hpast, ?_, ?_⟩
      · cases c.ban? cfg past <;> simp
      · intro ban hban ban' hban'
        obtain ⟨c', hc', heq⟩ := exists_call_of_mem_bansStarted hban
        rw [heq, expiresAt_of_ban? (Option.mem_toList.mp hban')]
        exact WithTop.coe_le_coe.mpr (add_le_add_left (hc c' hc') _)

/-- The policy bans an IP exactly when one of the bans it started for the IP is in force. -/
theorem policyBanned_iff {past : List Call} {ip : String} {t : ℚ} (h : ∀ c ∈ past, c.time ≤ t) :
    policyBanned cfg false past ip t = true ↔
      ∃ ban ∈ liveBans t (bansStarted cfg past), ban.ip = ip := by
  induction past with
  | nil => simp [policyBanned, verdicts, history, bansStarted, liveBans, Lockout.Policy.lockedAt]
  | cons c past ih =>
      replace ih := ih fun c' hc' => h c' (List.mem_cons_of_mem _ hc')
      have hlive : (∃ ban ∈ liveBans t (bansStarted cfg (c :: past)), ban.ip = ip) ↔
          ((∃ ban, c.ban? cfg past = some ban ∧ ban.ip = ip) ∧ t < c.time + cfg.banTtlSeconds) ∨
            ∃ ban ∈ liveBans t (bansStarted cfg past), ban.ip = ip := by
        rw [bansStarted, liveBans_append]
        cases hban : c.ban? cfg past with
        | none => simp [liveBans]
        | some ban =>
            have hexp : (↑t < ban.expiresAt) ↔ t < c.time + cfg.banTtlSeconds := by
              rw [expiresAt_of_ban? hban, WithTop.coe_lt_coe]
            simp only [List.mem_append, Option.toList_some, @mem_liveBans _ [ban],
              List.mem_singleton, or_and_right, exists_or, and_assoc, exists_eq_left,
              Option.some.injEq, exists_eq_left', hexp]
            rw [or_comm, and_comm]
      rw [hlive, ← ih]
      cases he : c.entry? ip with
      | none =>
          -- no entry of the IP's history, so no ban of the IP either
          have hnone : ¬ ∃ ban, c.ban? cfg past = some ban ∧ ban.ip = ip := by
            rintro ⟨ban, hban, rfl⟩
            exact entry?_ne_none_of_ban? hban he
          simp only [policyBanned, verdicts_cons_of_none he, hnone, false_and, false_or]
      | some e =>
          have htime := entry?_time he
          rw [policyBanned, verdicts_cons_of_some he, Lockout.Policy.lockedAt_cons,
            judge_starts_iff he, Lockout.Policy.judge_time, htime]
          have hle : c.time ≤ t := h c List.mem_cons_self
          simp only [hle, true_and]
          rfl

/-! ### The coupling invariant -/

/-- The failures of a type that the policy remembers for an IP after a run. -/
def rememberedFailures (cfg : BanConfig) (past : List Call) (type : FailureType) (ip : String) :
    List ℚ :=
  (banPolicy cfg false).remembered type (verdicts cfg false ip past)

/-- The store agrees with the policy on everything that matters from `clock` on. -/
structure Coupled (cfg : BanConfig) (past : List Call) (clock : ℚ) (s : BanStore) : Prop where
  wf : s.WF
  /-- The clock has reached every call of the run. -/
  past_le : ∀ c ∈ past, c.time ≤ clock
  /-- The run is in the order of the clock, newest call first. -/
  ordered : past.Pairwise fun c c' => c'.time ≤ c.time
  /-- The unexpired bans are the policy's, in the order of their start. -/
  bans : liveBans clock s.bans.values = liveBans clock (bansStarted cfg past)
  /-- The counters agree on every window that has not started before `clock`'s. -/
  failures : ∀ type ip x, clock - cfg.failureWindowSeconds ≤ x →
    (s.failures type ip).countP (x < ·) = (rememberedFailures cfg past type ip).countP (x < ·)

theorem Coupled.init (clock : ℚ) : Coupled cfg [] clock init where
  wf := WF.init
  past_le := by simp
  ordered := List.Pairwise.nil
  bans := rfl
  failures type ip x _ := by simp [rememberedFailures, verdicts, history]

/-- The invariant survives the passing of time. -/
theorem Coupled.advance {past : List Call} {clock t : ℚ} {s : BanStore}
    (h : Coupled cfg past clock s) (ht : clock ≤ t) : Coupled cfg past t s where
  wf := h.wf
  past_le c hc := (h.past_le c hc).trans ht
  ordered := h.ordered
  bans := by rw [← liveBans_liveBans ht, h.bans, liveBans_liveBans ht]
  failures type ip x hx := h.failures type ip x ((sub_le_sub_right ht _).trans hx)

/-- The store bans an IP exactly when the policy does. -/
theorem Coupled.banned_iff {past : List Call} {t : ℚ} {s : BanStore} (h : Coupled cfg past t s)
    (ip : String) : s.Banned ip t ↔ policyBanned cfg false past ip t = true := by
  rw [policyBanned_iff h.past_le, ← h.bans]
  constructor
  · rintro ⟨ban, hget, hlt⟩
    exact ⟨ban, mem_liveBans.mpr ⟨Dict.mem_values_iff.mpr ⟨ip, hget⟩, hlt⟩, h.wf.ip_eq ip ban hget⟩
  · rintro ⟨ban, hmem, rfl⟩
    obtain ⟨hval, hlt⟩ := mem_liveBans.mp hmem
    obtain ⟨ip, hget⟩ := Dict.mem_values_iff.mp hval
    exact ⟨ban, (h.wf.ip_eq ip ban hget).symm ▸ hget, hlt⟩

/-- Dropping the entry of an IP that is not banned leaves the unexpired bans as they are. -/
theorem liveBans_values_erase {s : BanStore} {ip : String} {t : ℚ} (h : ¬ s.Banned ip t) :
    liveBans t ((s.bans.erase ip).entries.map Prod.snd) = liveBans t s.bans.values := by
  rw [Dict.values, liveBans, liveBans, Dict.entries_erase, List.filter_map, List.filter_map,
    List.filter_filter]
  congr 1
  refine List.filter_congr ?_
  intro e he
  by_cases hip : e.1 = ip
  · subst hip
    have hexp : ¬ (t : WithTop ℚ) < e.2.expiresAt := fun hlt =>
      h ⟨e.2, Dict.mem_entries_iff.mp he, hlt⟩
    simp [hexp]
  · simp [hip]

/-- A call that is no entry of any history, and starts no ban, changes nothing for the policy. -/
theorem Coupled.cons_silent {past : List Call} {c : Call} {s : BanStore}
    (h : Coupled cfg past c.time s) (hentry : ∀ ip, c.entry? ip = none) :
    Coupled cfg (c :: past) c.time s where
  wf := h.wf
  past_le := List.forall_mem_cons.mpr ⟨le_rfl, h.past_le⟩
  ordered := List.pairwise_cons.mpr ⟨h.past_le, h.ordered⟩
  bans := by
    have hnone : c.ban? cfg past = none := by
      cases hban : c.ban? cfg past with
      | none => rfl
      | some ban => exact absurd (hentry ban.ip) (entry?_ne_none_of_ban? hban)
    simpa [bansStarted, hnone] using h.bans
  failures type ip x hx := by
    rw [h.failures type ip x hx, rememberedFailures, rememberedFailures,
      verdicts_cons_of_none (hentry ip)]

/-- The failures that a check at `now` drops count for no window that starts later. -/
theorem countP_recentFailures {now x : ℚ} {failures : List ℚ}
    (hx : now - cfg.failureWindowSeconds ≤ x) :
    (recentFailures cfg now failures).countP (x < ·) = failures.countP (x < ·) := by
  rw [recentFailures, List.countP_filter]
  refine List.countP_congr ?_
  intro f _
  have : x < f → now - cfg.failureWindowSeconds < f := hx.trans_lt
  by_cases hf : x < f <;> simp [hf, this]

/-! ### One preservation lemma for each method -/

theorem Coupled.isBanned {past : List Call} {t : ℚ} {s : BanStore} (h : Coupled cfg past t s)
    (ip : String) :
    (BanStore.isBanned ip t s).1 = policyBanned cfg false past ip t ∧
      Coupled cfg past t (BanStore.isBanned ip t s).2 := by
  rcases isBanned_cases h.wf ip t with ⟨hban, heq⟩ | ⟨hban, s', heq, hwf, hbans, hfail⟩
  · rw [heq]
    exact ⟨((h.banned_iff ip).mp hban).symm, h⟩
  · rw [heq]
    refine ⟨?_, hwf, h.past_le, h.ordered, ?_, ?_⟩
    · have hfalse := mt (h.banned_iff ip).mpr hban
      exact (Bool.not_eq_true _ ▸ hfalse).symm
    · rw [Dict.values, hbans, liveBans_values_erase hban, h.bans]
    · intro type ip' x hx
      rw [hfail, h.failures type ip' x hx]

theorem Coupled.cleanupExpired {past : List Call} {t : ℚ} {s : BanStore}
    (h : Coupled cfg past t s) :
    Coupled cfg past t (BanStore.cleanupExpired cfg t s) ∧
      (BanStore.cleanupExpired cfg t s).bans.values = liveBans t (bansStarted cfg past) := by
  obtain ⟨hbans, hfail⟩ := cleanupExpired_spec h.wf cfg t
  have hvalues : (BanStore.cleanupExpired cfg t s).bans.values =
      liveBans t (bansStarted cfg past) := by
    rw [← h.bans, Dict.values, hbans, Dict.values, liveBans, List.filter_map]
    rfl
  refine ⟨⟨h.wf.cleanupExpired cfg t, h.past_le, h.ordered, ?_, ?_⟩, hvalues⟩
  · rw [hvalues, liveBans_liveBans le_rfl]
  · intro type ip x hx
    rw [hfail, countP_recentFailures hx, h.failures type ip x hx]

theorem Coupled.recordSuccess {past : List Call} {t : ℚ} {s : BanStore}
    (h : Coupled cfg past t s) (ip : String) :
    Coupled cfg (⟨t, .recordSuccess ip⟩ :: past) t (s.recordSuccess ip) where
  wf := h.wf.recordSuccess ip
  past_le := List.forall_mem_cons.mpr ⟨le_rfl, h.past_le⟩
  ordered := List.pairwise_cons.mpr ⟨h.past_le, h.ordered⟩
  bans := by simpa [bansStarted, Call.ban?] using h.bans
  failures type ip' x hx := by
    rw [failures_recordSuccess]
    by_cases hip : ip = ip'
    · have hentry : Call.entry? ip' ⟨t, .recordSuccess ip⟩ = some ⟨t, .success⟩ := by
        simp [Call.entry?, hip]
      rw [rememberedFailures, verdicts_cons_of_some hentry,
        Lockout.Policy.remembered_judge_success]
      have := h.failures type ip' x hx
      cases type <;> simp_all [banPolicy, rememberedFailures]
    · have hentry : Call.entry? ip' ⟨t, .recordSuccess ip⟩ = none := by simp [Call.entry?, hip]
      rw [rememberedFailures, verdicts_cons_of_none hentry, if_neg fun h' => hip h'.2.symm]
      exact h.failures type ip' x hx

/-- How many failures `_record_failure` counts, the new one included. -/
theorem length_recent (now : ℚ) (failures : List ℚ) :
    (recentFailures cfg now failures ++ [now]).length =
      failures.countP (now - cfg.failureWindowSeconds < ·) + 1 := by
  rw [List.length_append, List.length_singleton, recentFailures, ← List.countP_eq_length_filter]

variable {type : FailureType} {ip : String} {client : Option AccessLogClient} {t : ℚ}
  {past : List Call} {s : BanStore}

/-- A failure of one IP leaves what is remembered of the others. -/
theorem rememberedFailures_other (type' : FailureType) {ip' : String} (hip : ip' ≠ ip) :
    rememberedFailures cfg (⟨t, .recordFailure type ip client⟩ :: past) type' ip' =
      rememberedFailures cfg past type' ip' := by
  rw [rememberedFailures, verdicts_cons_of_none (by simp [Call.entry?, Ne.symm hip])]
  rfl

theorem rememberedFailures_self (type' : FailureType) :
    rememberedFailures cfg (⟨t, .recordFailure type ip client⟩ :: past) type' ip =
      (banPolicy cfg false).remembered type' ((banPolicy cfg false).judge
        (verdicts cfg false ip past) ⟨t, .failure type⟩ :: verdicts cfg false ip past) := by
  rw [rememberedFailures, verdicts_cons_of_some (by simp [Call.entry?]; rfl)]

/-- The policy and the store reach the limit together. -/
theorem Coupled.reachesLimit_iff (h : Coupled cfg past t s) (type : FailureType) (ip : String) :
    (banPolicy cfg false).reachesLimit type (verdicts cfg false ip past) t = true ↔
      type.limit ≤ (recentFailures cfg t (s.failures type ip) ++ [t]).length := by
  rw [Lockout.Policy.reachesLimit_iff, length_recent, h.failures type ip _ le_rfl]
  · rfl
  · intro j hj
    obtain ⟨c, hc, heq⟩ := exists_call_of_mem_verdicts hj
    exact heq ▸ h.past_le c hc

/-- The policy starts a ban when the store does. -/
theorem Coupled.starts_iff (h : Coupled cfg past t s) (type : FailureType) (ip : String) :
    ((banPolicy cfg false).judge (verdicts cfg false ip past) ⟨t, .failure type⟩).starts = true ↔
      ¬ s.Banned ip t ∧ type.limit ≤ (recentFailures cfg t (s.failures type ip) ++ [t]).length := by
  rw [h.banned_iff, ← h.reachesLimit_iff type ip]
  simp [Lockout.Policy.judge, policyBanned]

theorem Coupled.recordFailure (h : Coupled cfg past t s) (type : FailureType) (ip : String)
    (client : Option AccessLogClient) :
    Coupled cfg (⟨t, .recordFailure type ip client⟩ :: past) t
      (BanStore.recordFailure cfg type ip type.limit client t t s) := by
  have hpast : ∀ c ∈ (⟨t, .recordFailure type ip client⟩ :: past : List Call), c.time ≤ t :=
    List.forall_mem_cons.mpr ⟨le_rfl, h.past_le⟩
  have hordered : (⟨t, .recordFailure type ip client⟩ :: past : List Call).Pairwise
      fun c c' => c'.time ≤ c.time := List.pairwise_cons.mpr ⟨h.past_le, h.ordered⟩
  have hwf := h.wf.recordFailure cfg type ip type.limit client t t
  have hstarts := h.starts_iff type ip
  rcases recordFailure_cases h.wf cfg type ip type.limit client t t with
    ⟨hban, heq⟩ | ⟨hban, hlim, hbans, hfail⟩ | ⟨hban, hlim, hbans, hfail⟩
  · -- A failure inside a ban is dropped on both sides.
    have hnot := mt hstarts.mp fun h' => h'.1 hban
    rw [heq]
    refine ⟨h.wf, hpast, hordered, ?_, ?_⟩
    · simpa [bansStarted, Call.ban?, hnot] using h.bans
    · intro type' ip' x hx
      rw [h.failures type' ip' x hx]
      by_cases hip : ip' = ip
      · rw [hip, rememberedFailures_self,
          Lockout.Policy.remembered_judge_locked rfl ((h.banned_iff ip).mp hban)]
        rfl
      · rw [rememberedFailures_other type' hip]
  · -- The failure starts a ban, and all counters of the IP start over.
    have hst := hstarts.mpr ⟨hban, hlim⟩
    refine ⟨hwf, hpast, hordered, ?_, ?_⟩
    · rw [Dict.values, hbans, List.map_append, liveBans_append, liveBans_values_erase hban, h.bans]
      simp [bansStarted, Call.ban?, hst, liveBans_append]
    · intro type' ip' x hx
      rw [hfail]
      by_cases hip : ip' = ip
      · rw [hip, rememberedFailures_self, Lockout.Policy.remembered_judge_starts hst]
        simp
      · rw [if_neg hip, rememberedFailures_other type' hip, h.failures type' ip' x hx]
  · -- The failure is counted.
    have hnot := mt hstarts.mp fun h' => not_le.mpr hlim h'.2
    refine ⟨hwf, hpast, hordered, ?_, ?_⟩
    · rw [Dict.values, hbans, liveBans_values_erase hban, h.bans]
      simp [bansStarted, Call.ban?, hnot]
    · intro type' ip' x hx
      rw [hfail]
      by_cases hip : ip' = ip
      · rw [hip, rememberedFailures_self, Lockout.Policy.remembered_judge_failure (by simpa using hnot)
          (by simpa [policyBanned] using mt (h.banned_iff ip).mpr hban)]
        have hold := h.failures type' ip x hx
        by_cases htype : type' = type
        · subst htype
          rw [if_pos ⟨rfl, rfl⟩, if_pos rfl, List.countP_append, countP_recentFailures hx, hold,
            List.countP_cons, List.countP_nil, Nat.zero_add, List.countP_cons]
          rfl
        · rw [if_neg fun h' => htype h'.1, if_neg htype, hold]
          rfl
      · rw [if_neg fun h' => hip h'.2, rememberedFailures_other type' hip, h.failures type' ip' x hx]

/-! ### Runs -/

/-- What the policy answers to a call after a run. -/
def policyAnswer (cfg : BanConfig) (past : List Call) (c : Call) : Answer :=
  match c.op with
  | .isBanned ip => .banned (policyBanned cfg false past ip c.time)
  | .activeBans => .bans (liveBans c.time (bansStarted cfg past))
  | _ => .none

/-- One call keeps the invariant and is answered as the policy answers it. -/
theorem Coupled.perform {past : List Call} {clock : ℚ} {s : BanStore} {c : Call}
    (h : Coupled cfg past clock s) (hc : clock ≤ c.time) :
    (s.perform cfg c).1 = policyAnswer cfg past c ∧
      Coupled cfg (c :: past) c.time (s.perform cfg c).2 := by
  have hnow := h.advance hc
  obtain ⟨t, op⟩ := c
  cases op with
  | recordFailure type ip client => exact ⟨rfl, hnow.recordFailure type ip client⟩
  | recordSuccess ip => exact ⟨rfl, hnow.recordSuccess ip⟩
  | isBanned ip =>
      obtain ⟨hans, hs⟩ := hnow.isBanned ip
      exact ⟨congrArg Answer.banned hans, hs.cons_silent fun _ => rfl⟩
  | activeBans =>
      obtain ⟨hs, hvalues⟩ := hnow.cleanupExpired
      refine ⟨congrArg Answer.bans ?_, hs.cons_silent fun _ => rfl⟩
      -- The policy's bans are in the order of their expiry already, so sorting keeps them.
      have hsorted := (bansStarted_pairwise cfg h.ordered).sublist
        (List.filter_sublist (p := fun ban => decide ((t : WithTop ℚ) < ban.expiresAt)))
      change (BanStore.cleanupExpired cfg t s).sortedBans = _
      rw [sortedBans, hvalues]
      exact List.mergeSort_of_pairwise (hsorted.imp fun hle => decide_eq_true hle)
  | cleanupExpired => exact ⟨rfl, hnow.cleanupExpired.1.cons_silent fun _ => rfl⟩

variable (cfg) in
/-- The store after a run is coupled to the run, at any later clock reading. -/
theorem coupled_run {calls : List Call} {t : ℚ} (h : ClockOrdered calls)
    (ht : ∀ c ∈ calls, c.time ≤ t) : Coupled cfg calls.reverse t (run cfg calls) := by
  induction calls using List.reverseRecOn generalizing t with
  | nil => exact Coupled.init t
  | append_singleton calls c ih =>
      obtain ⟨hcalls, -, hc⟩ := List.pairwise_append.mp h
      have hlast := ih (t := c.time) hcalls fun c' hc' => hc c' hc' c List.mem_cons_self
      have hstep := (hlast.perform le_rfl).2
      rw [List.reverse_append, List.reverse_singleton, run, List.foldl_append]
      exact hstep.advance (ht c (by simp))

/-- After every run, every call is answered as the policy answers it. -/
theorem answer_eq_policyAnswer {calls : List Call} {c : Call} (h : ClockOrdered (calls ++ [c])) :
    answer cfg calls c = policyAnswer cfg calls.reverse c := by
  obtain ⟨hcalls, -, hc⟩ := List.pairwise_append.mp h
  exact ((coupled_run cfg hcalls fun c' hc' => hc c' hc' c List.mem_cons_self).perform le_rfl).1

/-! ### Independence

What the policy says about an IP depends only on the entries of that IP's history. -/

/-- Is the call an entry of the IP's history? -/
def Call.about (ip : String) (c : Call) : Bool := (c.entry? ip).isSome

theorem verdicts_filter {p : Call → Bool} {ip : String}
    (hp : ∀ c, p c = false → c.entry? ip = none) (past : List Call) :
    verdicts cfg countsLocked ip (past.filter p) = verdicts cfg countsLocked ip past := by
  have hfilter : history ip (past.filter p) = history ip past := by
    rw [history, history, List.filterMap_filter]
    refine List.filterMap_congr ?_
    intro c _
    cases hc : p c <;> simp [hp c, hc]
  rw [verdicts, hfilter, verdicts]

/-- A call is an entry of at most one history. -/
theorem entry?_unique {ip ip' : String} {c : Call} (h : c.entry? ip ≠ none)
    (h' : c.entry? ip' ≠ none) : ip = ip' := by
  obtain ⟨time, op⟩ := c
  cases op <;> simp_all [Call.entry?]

theorem ban?_congr {past past' : List Call} {c : Call}
    (h : ∀ ip, c.entry? ip ≠ none → verdicts cfg false ip past = verdicts cfg false ip past') :
    c.ban? cfg past = c.ban? cfg past' := by
  obtain ⟨time, op⟩ := c
  cases op with
  | recordFailure type ip client =>
      simp only [Call.ban?, h ip (by simp [Call.entry?])]
  | _ => rfl

/-- Dropping calls that are no entry of any history drops no ban. -/
theorem bansStarted_filter {p : Call → Bool} (hp : ∀ c, p c = false → ∀ ip, c.entry? ip = none)
    (past : List Call) : bansStarted cfg (past.filter p) = bansStarted cfg past := by
  induction past with
  | nil => rfl
  | cons c past ih =>
      cases hc : p c with
      | true =>
          rw [List.filter_cons_of_pos hc, bansStarted, bansStarted, ih,
            ban?_congr fun ip _ => verdicts_filter (fun c hc => hp c hc ip) past]
      | false =>
          have hnone : c.ban? cfg past = none := by
            cases hban : c.ban? cfg past with
            | none => rfl
            | some ban => exact absurd (hp c hc ban.ip) (entry?_ne_none_of_ban? hban)
          rw [List.filter_cons_of_neg (by simp [hc]), ih, bansStarted, hnone]
          simp

/-- The bans of an IP are those of the run that is left when the calls about other IPs are
dropped. -/
theorem bansStarted_filter_about (ip : String) (past : List Call) :
    bansStarted cfg (past.filter (Call.about ip)) =
      (bansStarted cfg past).filter fun ban => ban.ip = ip := by
  have hnone : ∀ c : Call, c.about ip = false → c.entry? ip = none := by
    intro c h
    simpa [Call.about] using h
  induction past with
  | nil => rfl
  | cons c past ih =>
      cases hc : c.about ip with
      | true =>
          have hsome : c.entry? ip ≠ none := by
            simpa [Call.about, Option.isSome_iff_ne_none] using hc
          rw [List.filter_cons_of_pos hc, bansStarted, bansStarted, ih, List.filter_append]
          -- whether it starts a ban depends on the history of its own IP only
          have hcongr : c.ban? cfg (past.filter (Call.about ip)) = c.ban? cfg past :=
            ban?_congr fun ip' h => by
              rw [← entry?_unique hsome h, verdicts_filter hnone]
          rw [hcongr]
          cases hban : c.ban? cfg past with
          | none => rfl
          | some ban => simp [entry?_unique hsome (entry?_ne_none_of_ban? hban)]
      | false =>
          rw [List.filter_cons_of_neg (by simp [hc]), ih, bansStarted, List.filter_append]
          cases hban : c.ban? cfg past with
          | none => simp
          | some ban =>
              have hip : ban.ip ≠ ip := by
                rintro rfl
                exact entry?_ne_none_of_ban? hban (hnone c hc)
              simp [hip]

/-! ### The main results -/

/-- Every ban of the policy comes from a verdict that starts it. -/
theorem exists_verdict_of_mem_bansStarted {past : List Call} {ban : Ban}
    (h : ban ∈ bansStarted cfg past) : ∃ j ∈ verdicts cfg false ban.ip past,
      j.starts = true ∧ ban.expiresAt = ↑(j.time + cfg.banTtlSeconds) := by
  induction past with
  | nil => simp [bansStarted] at h
  | cons c past ih =>
      rcases List.mem_append.mp h with h | h
      · obtain ⟨j, hj, hstarts, hexp⟩ := ih h
        refine ⟨j, ?_, hstarts, hexp⟩
        cases he : c.entry? ban.ip with
        | none => rwa [verdicts_cons_of_none he]
        | some e => rw [verdicts_cons_of_some he]; exact List.mem_cons_of_mem _ hj
      · have hban := Option.mem_toList.mp h
        obtain ⟨e, he⟩ := Option.ne_none_iff_exists'.mp (entry?_ne_none_of_ban? hban)
        rw [verdicts_cons_of_some he]
        refine ⟨_, List.mem_cons_self, (judge_starts_iff he).mpr ⟨ban, hban, rfl⟩, ?_⟩
        rw [expiresAt_of_ban? hban, Lockout.Policy.judge_time, entry?_time he]

/-- The bans of a store are those of its keys. -/
theorem values_map_ip {s : BanStore} (h : s.WF) : s.bans.values.map Ban.ip = s.bans.keys := by
  rw [Dict.values, Dict.keys, List.map_map]
  exact List.map_congr_left fun e he => h.ip_eq e.1 e.2 (Dict.mem_entries_iff.mp he)

/-- What the policy lists as active: the banned IPs, each once, by expiry. -/
theorem liveBans_bansStarted {past : List Call} {t : ℚ} {s : BanStore}
    (h : Coupled cfg past t s) :
    (liveBans t (bansStarted cfg past)).Pairwise (fun ban ban' => ban.expiresAt ≤ ban'.expiresAt) ∧
    ((liveBans t (bansStarted cfg past)).map Ban.ip).Nodup ∧
    ∀ ip, ip ∈ (liveBans t (bansStarted cfg past)).map Ban.ip ↔
      policyBanned cfg false past ip t = true := by
  obtain ⟨hs, hvalues⟩ := h.cleanupExpired
  refine ⟨(bansStarted_pairwise cfg h.ordered).sublist List.filter_sublist, ?_, ?_⟩
  · rw [← hvalues, values_map_ip hs.wf]
    exact Dict.keys_nodup _
  · intro ip
    rw [policyBanned_iff h.past_le, List.mem_map]

variable (cfg) in
/-- What the policy answers about an IP depends only on the calls about that IP. -/
theorem policyAnswer_congr_about {ip : String} {past past' : List Call} {c : Call}
    (h : past'.filter (Call.about ip) = past.filter (Call.about ip)) :
    policyBanned cfg false past' ip c.time = policyBanned cfg false past ip c.time ∧
    (liveBans c.time (bansStarted cfg past')).filter (fun ban => ban.ip = ip) =
      (liveBans c.time (bansStarted cfg past)).filter fun ban => ban.ip = ip := by
  have hverdicts : ∀ past : List Call, verdicts cfg false ip past =
      verdicts cfg false ip (past.filter (Call.about ip)) := fun past =>
    (verdicts_filter (fun c hc => by simpa [Call.about] using hc) past).symm
  have hcomm : ∀ bans : List Ban, (liveBans c.time bans).filter (fun ban => ban.ip = ip) =
      liveBans c.time (bans.filter fun ban => ban.ip = ip) := by
    intro bans
    rw [liveBans, liveBans, List.filter_filter, List.filter_filter]
    exact List.filter_congr fun ban _ => Bool.and_comm ..
  refine ⟨?_, ?_⟩
  · rw [policyBanned, policyBanned, hverdicts past', h, ← hverdicts past]
  · rw [hcomm, hcomm, ← bansStarted_filter_about, ← bansStarted_filter_about, h]

/-- What the policy answers does not depend on the `cleanup_expired` calls. -/
theorem policyAnswer_congr_cleanup {past past' : List Call} {c : Call}
    (h : (past'.filter fun c => c.op ≠ .cleanupExpired) =
      past.filter fun c => c.op ≠ .cleanupExpired) :
    policyAnswer cfg past' c = policyAnswer cfg past c := by
  have hp : ∀ c : Call, decide (c.op ≠ .cleanupExpired) = false → ∀ ip, c.entry? ip = none :=
    fun c hc ip => by
      have hop : c.op = .cleanupExpired := by simpa using hc
      simp [Call.entry?, hop]
  have hverdicts : ∀ ip, verdicts cfg false ip past' = verdicts cfg false ip past := by
    intro ip
    rw [← verdicts_filter (fun c hc => hp c hc ip) past', h, verdicts_filter fun c hc => hp c hc ip]
  have hbans : bansStarted cfg past' = bansStarted cfg past := by
    rw [← bansStarted_filter hp past', h, bansStarted_filter hp]
  unfold policyAnswer
  cases c.op <;> simp [policyBanned, hverdicts, hbans]

/-- **`BanStore` refines the ban policy.** After every run, `is_banned` is true exactly when the
policy bans the IP, and `active_bans` returns exactly the banned IPs, ordered by expiry. Calls
about other IPs and extra `cleanup_expired` calls change no answer. -/
theorem banStore_refines_policy (cfg : BanConfig) (calls : List Call) (c : Call)
    (h : ClockOrdered (calls ++ [c])) :
    (∀ ip, c.op = .isBanned ip →
      answer cfg calls c = .banned (policyBanned cfg false calls.reverse ip c.time)) ∧
    (c.op = .activeBans → ∃ bans, answer cfg calls c = .bans bans ∧
      bans.Pairwise (fun ban ban' => ban.expiresAt ≤ ban'.expiresAt) ∧
      (bans.map Ban.ip).Nodup ∧
      (∀ ip, ip ∈ bans.map Ban.ip ↔ policyBanned cfg false calls.reverse ip c.time = true) ∧
      ∀ ban ∈ bans, ∃ j ∈ verdicts cfg false ban.ip calls.reverse, j.starts = true ∧
        ban.expiresAt = ↑(j.time + cfg.banTtlSeconds)) ∧
    (∀ ip calls', ClockOrdered (calls' ++ [c]) →
      calls'.filter (Call.about ip) = calls.filter (Call.about ip) →
      (c.op = .isBanned ip → answer cfg calls' c = answer cfg calls c) ∧
      (c.op = .activeBans → ∃ bans bans', answer cfg calls c = .bans bans ∧
        answer cfg calls' c = .bans bans' ∧
        bans'.filter (fun ban => ban.ip = ip) = bans.filter fun ban => ban.ip = ip)) ∧
    (∀ calls', ClockOrdered (calls' ++ [c]) →
      (calls'.filter fun c => c.op ≠ .cleanupExpired) =
        calls.filter (fun c => c.op ≠ .cleanupExpired) →
      answer cfg calls' c = answer cfg calls c) := by
  obtain ⟨hcalls, -, hc⟩ := List.pairwise_append.mp h
  have hcoupled := coupled_run cfg hcalls fun c' hc' => hc c' hc' c List.mem_cons_self
  refine ⟨?_, ?_, ?_, ?_⟩
  · intro ip hop
    rw [answer_eq_policyAnswer h, policyAnswer, hop]
  · intro hop
    obtain ⟨hsorted, hnodup, hmem⟩ := liveBans_bansStarted hcoupled
    refine ⟨_, ?_, hsorted, hnodup, hmem, ?_⟩
    · rw [answer_eq_policyAnswer h, policyAnswer, hop]
    · intro ban hban
      exact exists_verdict_of_mem_bansStarted (mem_liveBans.mp hban).1
  · intro ip calls' h' hfilter
    have hpast : calls'.reverse.filter (Call.about ip) = calls.reverse.filter (Call.about ip) := by
      rw [List.filter_reverse, hfilter, List.filter_reverse]
    obtain ⟨hbanned, hbans⟩ := policyAnswer_congr_about cfg hpast
    rw [answer_eq_policyAnswer h, answer_eq_policyAnswer h', policyAnswer, policyAnswer]
    refine ⟨?_, ?_⟩
    · intro hop
      rw [hop]
      exact congrArg Answer.banned hbanned
    · intro hop
      rw [hop]
      exact ⟨_, _, rfl, rfl, hbans⟩
  · intro calls' h' hfilter
    have hpast : (calls'.reverse.filter fun c => c.op ≠ .cleanupExpired) =
        calls.reverse.filter fun c => c.op ≠ .cleanupExpired := by
      rw [List.filter_reverse, hfilter, List.filter_reverse]
    rw [answer_eq_policyAnswer h, answer_eq_policyAnswer h', policyAnswer_congr_cleanup hpast]

/-- Five failed logins ban an IP for the application's ban time. -/
theorem banStore_refines_policy_five_failures :
    answer appConfig (List.replicate 5 ⟨0, .recordFailure .login "192.0.2.1" none⟩)
        ⟨1, .isBanned "192.0.2.1"⟩ = .banned true := by
  refine ((banStore_refines_policy appConfig _ _ ?_).1 _ rfl).trans ?_
  · decide +kernel
  · decide +kernel

/-- Failures that fall into a ban do not count after it: five failures ban the IP until 10800,
the four at 10799 are ignored, and the one at 10800 starts no ban, although it is the fifth
failure of its window that has not been forgotten. -/
theorem banStore_ignores_failures_inside_bans :
    ¬ ∀ (calls : List Call) (c : Call), ClockOrdered (calls ++ [c]) →
      ∀ ip, c.op = .isBanned ip →
        answer appConfig calls c = .banned (policyBanned appConfig true calls.reverse ip c.time) := by
  intro h
  have hrun := h
    (List.replicate 5 ⟨0, .recordFailure .login "192.0.2.1" none⟩ ++
      List.replicate 4 ⟨10799, .recordFailure .login "192.0.2.1" none⟩ ++
      [⟨10800, .recordFailure .login "192.0.2.1" none⟩])
    ⟨10800, .isBanned "192.0.2.1"⟩ (by decide +kernel) _ rfl
  revert hrun
  decide +kernel

end PxManager.Bans
