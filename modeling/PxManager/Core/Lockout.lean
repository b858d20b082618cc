import Mathlib.Order.Lattice
import Mathlib.Data.List.Basic

/-!
# PxManager.Core.Lockout

**Sliding-window lockout**, as a policy over the history of one subject.

A subject produces failures of several kinds, and successes. A failure that is the `limit`-th
one of its kind within the window locks the subject for `ttl`. The policy has no state to prune
and nothing to expire: every verdict is a function of the whole past, so it says what a store
with counters, expiry dates and lazy clean-up is for.

Histories are lists with the **newest entry first**, so that the verdict on an entry is a
function of the tail behind it.
-/

namespace PxManager.Core.Lockout

/-- What a subject did. -/
inductive Event (κ : Type)
  | failure (kind : κ)
  | success
  deriving DecidableEq

/-- An event and when it happened. -/
structure Entry (T κ : Type) where
  time : T
  event : Event κ
  deriving DecidableEq

/-- An entry with the verdict on it: whether it fell into a lock, and whether it starts one. -/
structure Judged (T κ : Type) extends Entry T κ where
  locked : Bool
  starts : Bool

/-- The parameters of a lockout policy. `countsLocked` says whether a failure that falls into a
lock is counted again once the lock is over. -/
structure Policy (T κ : Type) where
  ttl : T
  window : T
  limit : κ → Nat
  clearedBySuccess : κ → Bool
  countsLocked : Bool

namespace Policy

variable {T κ : Type} [LinearOrder T] [Add T] [Sub T] [DecidableEq κ]
variable (p : Policy T κ)

/-- Is the subject locked at `t`: did it start a lock at some `f` with `f ≤ t < f + ttl`? -/
def lockedAt (past : List (Judged T κ)) (t : T) : Bool :=
  past.any fun j => j.starts && decide (j.time ≤ t) && decide (t < j.time + p.ttl)

/-- Does the entry make the failures of a kind before it forgotten? -/
def forgets (kind : κ) (j : Judged T κ) : Bool :=
  j.starts || (p.clearedBySuccess kind && decide (j.event = .success))

/-- Is the entry a failure of a kind that counts? -/
def counts (kind : κ) (j : Judged T κ) : Bool :=
  decide (j.event = .failure kind) && (p.countsLocked || !j.locked)

/-- The times of the failures of a kind that have not been forgotten. -/
def remembered (kind : κ) (past : List (Judged T κ)) : List T :=
  ((past.takeWhile fun j => !p.forgets kind j).filter (p.counts kind)).map (·.time)

/-- Is a failure at `t` at least the `limit`-th remembered one with time in `(t - window, t]`? -/
def reachesLimit (kind : κ) (past : List (Judged T κ)) (t : T) : Bool :=
  decide (p.limit kind ≤
    ((p.remembered kind past).filter fun f => t - p.window < f ∧ f ≤ t).length + 1)

/-- The verdict on an entry, given the judged past. -/
def judge (past : List (Judged T κ)) (e : Entry T κ) : Judged T κ where
  toEntry := e
  locked := p.lockedAt past e.time
  starts := match e.event with
    | .failure kind => !p.lockedAt past e.time && p.reachesLimit kind past e.time
    | .success => false

/-- The history with the verdicts on all its entries. -/
def judged : List (Entry T κ) → List (Judged T κ)
  | [] => []
  | e :: past => p.judge (judged past) e :: judged past

variable {p}

@[simp] theorem judged_nil : p.judged [] = [] := rfl
@[simp] theorem judged_cons (e : Entry T κ) (past : List (Entry T κ)) :
    p.judged (e :: past) = p.judge (p.judged past) e :: p.judged past := rfl
@[simp] theorem judge_time (past : List (Judged T κ)) (e : Entry T κ) :
    (p.judge past e).time = e.time := rfl
@[simp] theorem judge_event (past : List (Judged T κ)) (e : Entry T κ) :
    (p.judge past e).event = e.event := rfl

omit [LinearOrder T] [Add T] [Sub T] in
@[simp] theorem remembered_nil (kind : κ) : p.remembered kind [] = [] := rfl

omit [Sub T] [DecidableEq κ] in
theorem lockedAt_cons {j : Judged T κ} {past : List (Judged T κ)} {t : T} :
    p.lockedAt (j :: past) t = true ↔
      (j.starts = true ∧ j.time ≤ t ∧ t < j.time + p.ttl) ∨ p.lockedAt past t = true := by
  simp [lockedAt, and_assoc]

theorem exists_entry_of_mem_judged {j : Judged T κ} {past : List (Entry T κ)}
    (h : j ∈ p.judged past) : j.toEntry ∈ past := by
  induction past with
  | nil => simp at h
  | cons e past ih =>
      rcases List.mem_cons.mp h with rfl | h
      · exact List.mem_cons_self
      · exact List.mem_cons_of_mem _ (ih h)

omit [LinearOrder T] [Add T] [Sub T] in
/-- A remembered failure is an entry of the past. -/
theorem exists_of_mem_remembered {kind : κ} {f : T} {past : List (Judged T κ)}
    (h : f ∈ p.remembered kind past) : ∃ j ∈ past, j.time = f := by
  obtain ⟨j, hj, rfl⟩ := List.mem_map.mp h
  exact ⟨j, (List.takeWhile_prefix _).subset (List.mem_of_mem_filter hj), rfl⟩

omit [Add T] in
/-- When the whole past lies before `t`, the limit counts every remembered failure after the
start of the window. -/
theorem reachesLimit_iff {kind : κ} {past : List (Judged T κ)} {t : T}
    (hpast : ∀ j ∈ past, j.time ≤ t) :
    p.reachesLimit kind past t = true ↔
      p.limit kind ≤ (p.remembered kind past).countP (fun f => t - p.window < f) + 1 := by
  rw [reachesLimit, decide_eq_true_iff, List.countP_eq_length_filter]
  rw [List.filter_congr fun f hf => ?_]
  obtain ⟨j, hj, rfl⟩ := exists_of_mem_remembered hf
  simp [hpast j hj]

/-! ### What one more entry does to the remembered failures -/

omit [LinearOrder T] [Add T] [Sub T] in
theorem remembered_cons_forgets {kind : κ} {j : Judged T κ} {past : List (Judged T κ)}
    (h : p.forgets kind j = true) : p.remembered kind (j :: past) = [] := by
  simp [remembered, h]

omit [LinearOrder T] [Add T] [Sub T] in
theorem remembered_cons_of_not_forgets {kind : κ} {j : Judged T κ} {past : List (Judged T κ)}
    (h : p.forgets kind j = false) :
    p.remembered kind (j :: past) =
      if p.counts kind j then j.time :: p.remembered kind past else p.remembered kind past := by
  simp only [remembered, h, Bool.not_false, List.takeWhile_cons_of_pos, List.filter_cons]
  split <;> simp

/-- A failure that starts a lock makes every failure before it, and itself, forgotten. -/
theorem remembered_judge_starts {kind : κ} {e : Entry T κ} {past : List (Judged T κ)}
    (h : (p.judge past e).starts = true) :
    p.remembered kind (p.judge past e :: past) = [] :=
  remembered_cons_forgets (by simp [forgets, h])

/-- A failure outside any lock that starts none is remembered from now on. -/
theorem remembered_judge_failure {kind kind' : κ} {t : T} {past : List (Judged T κ)}
    (hstarts : (p.judge past ⟨t, .failure kind⟩).starts = false)
    (hlocked : p.lockedAt past t = false) :
    p.remembered kind' (p.judge past ⟨t, .failure kind⟩ :: past) =
      if kind' = kind then t :: p.remembered kind' past else p.remembered kind' past := by
  rw [remembered_cons_of_not_forgets (by simp [forgets, hstarts])]
  simp only [counts, judge, hlocked, eq_comm, Event.failure.injEq]
  simp

/-- A failure inside a lock is not remembered, unless the policy counts such failures. -/
theorem remembered_judge_locked {kind kind' : κ} {t : T} {past : List (Judged T κ)}
    (hcounts : p.countsLocked = false) (hlocked : p.lockedAt past t = true) :
    p.remembered kind' (p.judge past ⟨t, .failure kind⟩ :: past) =
      p.remembered kind' past := by
  rw [remembered_cons_of_not_forgets (by simp [forgets, judge, hlocked])]
  simp [counts, judge, hlocked, hcounts]

theorem remembered_judge_success {kind : κ} {t : T} {past : List (Judged T κ)} :
    p.remembered kind (p.judge past ⟨t, .success⟩ :: past) =
      if p.clearedBySuccess kind then [] else p.remembered kind past := by
  cases h : p.clearedBySuccess kind with
  | true => exact remembered_cons_forgets (by simp [forgets, h])
  | false =>
      rw [remembered_cons_of_not_forgets (by simp [forgets, judge, h])]
      simp [counts]

end Policy

end PxManager.Core.Lockout
