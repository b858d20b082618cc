import Mathlib.Data.List.Forall2
import Mathlib.Data.Option.Basic

/-!
# PxManager.Core.Machine

**Machines that take one action at a time.** `step s a` is the state after the action, or `none`
where the action is not possible. A run is a list of actions, each of which is possible when its
turn comes; so a statement about all runs is one about all interleavings.

`run_induction` lifts what a step preserves to runs, and `run_related` lifts what a step
preserves between two states to two runs with the same actions, or with related ones. `reports` is
what a statement about the end of a run may need to know of its past. `Along` says of a run what
each of its steps does, and `along_iff` compares two such statements step by step.

`run_simulated` is a forward simulation: a machine that is described by a relation, and may have a
choice, takes the same actions. In `run_simulated_runs` each action is matched by any number of
actions of the other machine.
-/

namespace PxManager.Core

variable {σ α : Type}

/-- The state after a list of actions. -/
def run (step : σ → α → Option σ) : σ → List α → Option σ
  | s, [] => some s
  | s, a :: actions => (step s a).bind fun s' => run step s' actions

variable {step : σ → α → Option σ} {s s' : σ} {actions : List α}

theorem run_cons_eq_some {a : α} :
    run step s (a :: actions) = some s' ↔
      ∃ s₁, step s a = some s₁ ∧ run step s₁ actions = some s' :=
  Option.bind_eq_some_iff

theorem run_append_eq_some {actions' : List α} :
    run step s (actions ++ actions') = some s' ↔
      ∃ s₁, run step s actions = some s₁ ∧ run step s₁ actions' = some s' := by
  induction actions generalizing s with
  | nil => simp [run]
  | cons a actions ih =>
      rw [List.cons_append, run_cons_eq_some]
      simp only [ih, run_cons_eq_some]
      constructor
      · rintro ⟨s₁, hs, s₂, hrun, hrun'⟩
        exact ⟨s₂, ⟨s₁, hs, hrun⟩, hrun'⟩
      · rintro ⟨s₂, ⟨s₁, hs, hrun⟩, hrun'⟩
        exact ⟨s₁, hs, s₂, hrun, hrun'⟩

/-- What every possible step preserves holds after every run. -/
theorem run_induction {Inv : σ → Prop}
    (hstep : ∀ s a s', a ∈ actions → Inv s → step s a = some s' → Inv s') (h : Inv s)
    (hrun : run step s actions = some s') : Inv s' := by
  induction actions generalizing s with
  | nil => exact Option.some.inj hrun ▸ h
  | cons a actions ih =>
      obtain ⟨s₁, hs, hrun⟩ := run_cons_eq_some.mp hrun
      exact ih (fun s b s' hb => hstep s b s' (List.mem_cons_of_mem _ hb))
        (hstep s a s₁ List.mem_cons_self h hs) hrun

/-- If related states take the same steps to related states, they have the same runs. -/
theorem run_related {R : σ → σ → Prop}
    (hstep : ∀ s t a, a ∈ actions → R s t → Option.Rel R (step s a) (step t a)) {t : σ}
    (h : R s t) : Option.Rel R (run step s actions) (run step t actions) := by
  induction actions generalizing s t with
  | nil => exact .some h
  | cons a actions ih =>
      have hfirst := hstep s t a List.mem_cons_self h
      rw [run, run]
      revert hfirst
      generalize step s a = x
      generalize step t a = y
      intro hfirst
      cases hfirst with
      | none => exact .none
      | some hrel => exact ih (fun s t b hb => hstep s t b (List.mem_cons_of_mem _ hb)) hrel

/-- The same for two machines whose actions are related one by one. -/
theorem run_related_actions {τ β : Type} {step' : τ → β → Option τ} {R : σ → τ → Prop}
    {A : α → β → Prop} (hstep : ∀ s t a b, R s t → A a b → Option.Rel R (step s a) (step' t b))
    {actions' : List β} (hactions : List.Forall₂ A actions actions') {t : τ} (h : R s t) :
    Option.Rel R (run step s actions) (run step' t actions') := by
  induction hactions generalizing s t with
  | nil => exact .some h
  | @cons a b actions actions' hab _ ih =>
      have hfirst := hstep s t a b h hab
      rw [run, run]
      revert hfirst
      generalize step s a = x
      generalize step' t b = y
      intro hfirst
      cases hfirst with
      | none => exact .none
      | some hrel => exact ih hrel

/-- What no step can undo does not hold before a run after which it does not hold. -/
theorem run_not_of_not {Bad : σ → Prop} (hstep : ∀ s a s', Bad s → step s a = some s' → Bad s')
    (hrun : run step s actions = some s') (h : ¬ Bad s') : ¬ Bad s :=
  fun hbad => h (run_induction (fun s a s' _ => hstep s a s') hbad hrun)

/-- `run_induction` where a step preserves `Inv` only as long as `Bad` does not hold. -/
theorem run_induction_unless {Inv Bad : σ → Prop}
    (hbad : ∀ s a s', Bad s → step s a = some s' → Bad s')
    (hstep : ∀ s a s', a ∈ actions → Inv s → step s a = some s' → ¬ Bad s' → Inv s') (h : Inv s)
    (hrun : run step s actions = some s') (hgood : ¬ Bad s') : Inv s' := by
  induction actions generalizing s with
  | nil => exact Option.some.inj hrun ▸ h
  | cons a actions ih =>
      obtain ⟨s₁, hs, hrun⟩ := run_cons_eq_some.mp hrun
      have hgood₁ := run_not_of_not hbad hrun hgood
      exact ih (fun s b s' hb => hstep s b s' (List.mem_cons_of_mem _ hb))
        (hstep s a s₁ List.mem_cons_self h hs hgood₁) hrun

/-! ### Simulation -/

/-- A run of a machine whose steps are a relation. -/
inductive RunsTo {τ : Type} (next : τ → α → τ → Prop) : τ → List α → τ → Prop
  | nil (t : τ) : RunsTo next t [] t
  | cons {t t₁ t' : τ} {a : α} {actions : List α} (hfirst : next t a t₁)
      (hrest : RunsTo next t₁ actions t') : RunsTo next t (a :: actions) t'

/-- If every step is matched by one of the other machine, every run is. -/
theorem run_simulated {τ : Type} {next : τ → α → τ → Prop} {R : σ → τ → Prop}
    (hstep : ∀ s t a s', a ∈ actions → R s t → step s a = some s' → ∃ t', next t a t' ∧ R s' t')
    {t : τ} (h : R s t) (hrun : run step s actions = some s') :
    ∃ t', RunsTo next t actions t' ∧ R s' t' := by
  induction actions generalizing s t with
  | nil => exact ⟨t, .nil t, Option.some.inj hrun ▸ h⟩
  | cons a actions ih =>
      obtain ⟨s₁, hs, hrun⟩ := run_cons_eq_some.mp hrun
      obtain ⟨t₁, hfirst, h₁⟩ := hstep s t a s₁ List.mem_cons_self h hs
      obtain ⟨t', hrest, h'⟩ :=
        ih (fun s t b s' hb => hstep s t b s' (List.mem_cons_of_mem _ hb)) h₁ hrun
      exact ⟨t', .cons hfirst hrest, h'⟩

/-- If every step is matched by a run of the other machine, every run is matched by those runs one
after the other. -/
theorem run_simulated_runs {τ β : Type} {step' : τ → β → Option τ} {R : σ → τ → Prop}
    {A : α → List β → Prop}
    (hstep : ∀ s t a s', R s t → step s a = some s' →
      ∃ part t', A a part ∧ run step' t part = some t' ∧ R s' t')
    {t : τ} (h : R s t) (hrun : run step s actions = some s') :
    ∃ parts t', List.Forall₂ A actions parts ∧ run step' t parts.flatten = some t' ∧ R s' t' := by
  induction actions generalizing s t with
  | nil => exact ⟨[], t, .nil, rfl, Option.some.inj hrun ▸ h⟩
  | cons a actions ih =>
      obtain ⟨s₁, hs, hrun⟩ := run_cons_eq_some.mp hrun
      obtain ⟨part, t₁, hpart, hfirst, h₁⟩ := hstep s t a s₁ h hs
      obtain ⟨parts, t', hparts, hrest, h'⟩ := ih h₁ hrun
      refine ⟨part :: parts, t', .cons hpart hparts, ?_, h'⟩
      rw [List.flatten_cons, run_append_eq_some]
      exact ⟨t₁, hfirst, hrest⟩

/-! ### What the steps of a run report -/

/-- What the steps of a run report, in their order. -/
def reports {β : Type} (step : σ → α → Option σ) (report : σ → α → σ → List β) :
    σ → List α → List β
  | _, [] => []
  | s, a :: actions =>
      match step s a with
      | some s' => report s a s' ++ reports step report s' actions
      | none => []

/-- `run_induction` for what a step preserves together with what has been reported so far. -/
theorem run_induction_reports {β : Type} {report : σ → α → σ → List β} {Inv : σ → List β → Prop}
    (hstep : ∀ s log a s', Inv s log → step s a = some s' → Inv s' (log ++ report s a s'))
    {log : List β} (h : Inv s log) (hrun : run step s actions = some s') :
    Inv s' (log ++ reports step report s actions) := by
  induction actions generalizing s log with
  | nil =>
      rw [reports, List.append_nil]
      exact Option.some.inj hrun ▸ h
  | cons a actions ih =>
      obtain ⟨s₁, hs, hrun⟩ := run_cons_eq_some.mp hrun
      have h' := ih (hstep s log a s₁ h hs) hrun
      rw [reports, hs]
      rwa [List.append_assoc] at h'

section Reports

variable {β : Type} {report : σ → α → σ → List β}

theorem reports_cons {a : α} (hs : step s a = some s') :
    reports step report s (a :: actions) = report s a s' ++ reports step report s' actions := by
  rw [reports, hs]

theorem reports_append {actions' : List α} (hrun : run step s actions = some s') :
    reports step report s (actions ++ actions') =
      reports step report s actions ++ reports step report s' actions' := by
  induction actions generalizing s with
  | nil =>
      rw [← Option.some.inj hrun]
      rfl
  | cons a actions ih =>
      obtain ⟨s₁, hs, hrun⟩ := run_cons_eq_some.mp hrun
      rw [List.cons_append, reports_cons hs, reports_cons hs, ih hrun, List.append_assoc]

/-- What is reported is reported by one of the steps. -/
theorem exists_step_of_reports {x : β} {before after : List β}
    (hrun : run step s actions = some s')
    (h : reports step report s actions = before ++ x :: after) :
    ∃ front a rest s₁ s₂ left right, actions = front ++ a :: rest ∧
      run step s front = some s₁ ∧ step s₁ a = some s₂ ∧ run step s₂ rest = some s' ∧
      report s₁ a s₂ = left ++ x :: right ∧ after = right ++ reports step report s₂ rest := by
  induction actions generalizing s before with
  | nil => cases before <;> cases h
  | cons a actions ih =>
      obtain ⟨s₁, hs, hrest⟩ := run_cons_eq_some.mp hrun
      rw [reports_cons hs] at h
      rcases List.append_eq_append_iff.mp h with ⟨between, hbefore, h⟩ | ⟨between, hreport, h⟩
      · obtain ⟨front, b, rest, s₂, s₃, left, right, rfl, hfront, hb⟩ := ih hrest h
        exact ⟨a :: front, b, rest, s₂, s₃, left, right, rfl, run_cons_eq_some.mpr ⟨s₁, hs, hfront⟩,
          hb⟩
      · cases between with
        | nil =>
            have hnext : reports step report s₁ actions = [] ++ x :: after := h.symm
            obtain ⟨front, b, rest, s₂, s₃, left, right, rfl, hfront, hb⟩ := ih hrest hnext
            exact ⟨a :: front, b, rest, s₂, s₃, left, right, rfl,
              run_cons_eq_some.mpr ⟨s₁, hs, hfront⟩, hb⟩
        | cons y between =>
            obtain ⟨rfl, rfl⟩ := List.cons.inj h
            exact ⟨[], a, actions, s, s₁, before, between, rfl, rfl, hs, hrest, hreport, rfl⟩

/-- Each step reports a run of another machine, so the reports of a run are one. -/
theorem run_reports {τ : Type} {step' : τ → β → Option τ} {f : σ → τ}
    (hstep : ∀ s a s', step s a = some s' → run step' (f s) (report s a s') = some (f s'))
    (hrun : run step s actions = some s') :
    run step' (f s) (reports step report s actions) = some (f s') := by
  induction actions generalizing s with
  | nil => exact congrArg (some ∘ f) (Option.some.inj hrun)
  | cons a actions ih =>
      obtain ⟨s₁, hs, hrun⟩ := run_cons_eq_some.mp hrun
      rw [reports_cons hs, run_append_eq_some]
      exact ⟨f s₁, hstep s a s₁ hs, ih hrun⟩

end Reports

/-! ### Every step of a run -/

/-- `P` holds of every step of a run: of the state before it, the action and the state after. -/
def Along (step : σ → α → Option σ) (P : σ → α → σ → Prop) : σ → List α → Prop
  | _, [] => True
  | s, a :: actions => ∀ s', step s a = some s' → P s a s' ∧ Along step P s' actions

theorem along_cons {P : σ → α → σ → Prop} {a : α} (hs : step s a = some s') :
    Along step P s (a :: actions) ↔ P s a s' ∧ Along step P s' actions := by
  constructor
  · intro h
    exact h s' hs
  · intro h s₁ hs₁
    exact Option.some.inj (hs.symm.trans hs₁) ▸ h

/-- Whether `P` holds along a run is found out by making the run. -/
instance decidableAlong {P : σ → α → σ → Prop} [∀ s a s', Decidable (P s a s')] (s : σ) :
    (actions : List α) → Decidable (Along step P s actions)
  | [] => isTrue trivial
  | a :: actions =>
      match hs : step s a with
      | none => isTrue fun s' hs' => by cases hs.symm.trans hs'
      | some s₁ =>
          haveI : Decidable (Along step P s₁ actions) := decidableAlong s₁ actions
          decidable_of_iff (P s a s₁ ∧ Along step P s₁ actions) (along_cons hs).symm

/-- `run_induction` for what a step preserves if it is one of those that `P` allows. -/
theorem run_induction_along {P : σ → α → σ → Prop} {Inv : σ → Prop}
    (hstep : ∀ s a s', Inv s → P s a s' → step s a = some s' → Inv s') (h : Inv s)
    (halong : Along step P s actions) (hrun : run step s actions = some s') : Inv s' := by
  induction actions generalizing s with
  | nil => exact Option.some.inj hrun ▸ h
  | cons a actions ih =>
      obtain ⟨s₁, hs, hrun⟩ := run_cons_eq_some.mp hrun
      obtain ⟨hfirst, hrest⟩ := (along_cons hs).mp halong
      exact ih (hstep s a s₁ h hfirst hs) hrest hrun

/-- What every step of a run does, told from what it does otherwise and from an invariant. -/
theorem Along.imp {P Q : σ → α → σ → Prop} (Inv : σ → Prop)
    (hstep : ∀ s a s', Inv s → P s a s' → step s a = some s' → Q s a s' ∧ Inv s') (h : Inv s)
    (halong : Along step P s actions) : Along step Q s actions := by
  induction actions generalizing s with
  | nil => trivial
  | cons a actions ih =>
      intro s₁ hs
      obtain ⟨hfirst, hrest⟩ := halong s₁ hs
      obtain ⟨hq, h₁⟩ := hstep s a s₁ h hfirst hs
      exact ⟨hq, ih h₁ hrest⟩

/-- What every step of a run does that does not end badly. -/
theorem along_of_not {P : σ → α → σ → Prop} {Inv Bad : σ → Prop}
    (hbad : ∀ s a s', Bad s → step s a = some s' → Bad s')
    (hstep : ∀ s a s', Inv s → step s a = some s' → ¬ Bad s' → P s a s' ∧ Inv s') (h : Inv s)
    (hrun : run step s actions = some s') (hgood : ¬ Bad s') : Along step P s actions := by
  induction actions generalizing s with
  | nil => trivial
  | cons a actions ih =>
      obtain ⟨s₁, hs, hrun⟩ := run_cons_eq_some.mp hrun
      obtain ⟨hp, h₁⟩ := hstep s a s₁ h hs (run_not_of_not hbad hrun hgood)
      exact (along_cons hs).mpr ⟨hp, ih h₁ hrun⟩

/-- Two statements about steps that are equivalent under an invariant, equivalent along a run. The
invariant needs to hold only where `Bad` does not, and after the run it does not. -/
theorem along_iff {P Q : σ → α → σ → Prop} {Inv Bad : σ → Prop}
    (hbad : ∀ s a s', Bad s → step s a = some s' → Bad s')
    (hinv : ∀ s a s', a ∈ actions → Inv s → step s a = some s' → ¬ Bad s' → Inv s')
    (hiff : ∀ s a s', a ∈ actions → Inv s → step s a = some s' → ¬ Bad s' → (P s a s' ↔ Q s a s'))
    (h : Inv s) (hrun : run step s actions = some s') (hgood : ¬ Bad s') :
    Along step P s actions ↔ Along step Q s actions := by
  induction actions generalizing s with
  | nil => exact Iff.rfl
  | cons a actions ih =>
      obtain ⟨s₁, hs, hrun⟩ := run_cons_eq_some.mp hrun
      have hgood₁ := run_not_of_not hbad hrun hgood
      have hfirst := hiff s a s₁ List.mem_cons_self h hs hgood₁
      have hrest := ih (fun s b s' hb => hinv s b s' (List.mem_cons_of_mem _ hb))
        (fun s b s' hb => hiff s b s' (List.mem_cons_of_mem _ hb))
        (hinv s a s₁ List.mem_cons_self h hs hgood₁) hrun
      rw [along_cons hs, along_cons hs, hfirst, hrest]

end PxManager.Core
