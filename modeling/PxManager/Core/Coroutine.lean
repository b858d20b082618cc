import Mathlib.Logic.Basic

/-!
# PxManager.Core.Coroutine

**Coroutines**, for `async` functions. A coroutine either has ended, with a result or with an
exception, or waits for an operation. What the operation returns or raises is up to an environment,
which also says what becomes of the world meanwhile; so a cancellation is one more exception that an
operation may raise, and a statement about every environment is one about every order of events.

A coroutine is a finite tree. A loop without a bound is followed for a number of turns, and
`running` stands where that number is used up; a statement about all numbers of turns is one about
the loop.

`wp` tells what holds when the coroutine asks for an operation and when it ends, and
`reaches_of_wp` and `wp_of_reaches` say that it does so for every way the coroutine can go. The
rules `wp_andThen` and `wp_loop` take a coroutine apart, and `wp_simulates` moves a statement to a
world that stands for another.
-/

namespace PxManager.Core

/-- A coroutine over the operations `Op`, whose answers have the types `Ans`. -/
inductive Coroutine (Op : Type) (Ans : Op → Type) (ε α : Type)
  | done (result : Except ε α)
  | await (op : Op) (resume : Except ε (Ans op) → Coroutine Op Ans ε α)
  /-- Inside a loop, after the turns it is followed for. -/
  | running

namespace Coroutine

variable {Op Op' : Type} {Ans : Op → Type} {Ans' : Op' → Type} {ε α β σ : Type}

/-! ### Composition -/

/-- `k` takes over when `p` has ended, in whatever way. -/
def andThen (p : Coroutine Op Ans ε α) (k : Except ε α → Coroutine Op Ans ε β) :
    Coroutine Op Ans ε β :=
  match p with
  | .done result => k result
  | .await op resume => .await op fun answer => (resume answer).andThen k
  | .running => .running

instance : Monad (Coroutine Op Ans ε) where
  pure a := .done (.ok a)
  bind p f := p.andThen fun
    | .ok a => f a
    | .error e => .done (.error e)

instance : MonadExcept ε (Coroutine Op Ans ε) where
  throw e := .done (.error e)
  tryCatch p handler := p.andThen fun
    | .ok a => .done (.ok a)
    | .error e => handler e

/-- `await` of an operation. -/
def call (op : Op) : Coroutine Op Ans ε (Ans op) := .await op .done

/-- `try: p finally: final`. An exception of `final` replaces what `p` ended with. -/
def ensuring (p : Coroutine Op Ans ε α) (final : Coroutine Op Ans ε Unit) :
    Coroutine Op Ans ε α :=
  p.andThen fun result => final.andThen fun
    | .ok () => .done result
    | .error e => .done (.error e)

/-- A loop, followed for a number of turns. A turn ends with the state for the next one or leaves
the loop with a result. -/
def loop (body : σ → Coroutine Op Ans ε (σ ⊕ β)) : (turns : Nat) → σ → Coroutine Op Ans ε β
  | 0, _ => .running
  | turns + 1, s => (body s).andThen fun
      | .ok (.inl s') => loop body turns s'
      | .ok (.inr b) => .done (.ok b)
      | .error e => .done (.error e)

/-- A loop over a list. A turn ends with the state for the next one or leaves the loop with a
result. -/
def forEach (body : σ → α → Coroutine Op Ans ε (σ ⊕ β)) : σ → List α → Coroutine Op Ans ε (σ ⊕ β)
  | s, [] => .done (.ok (.inl s))
  | s, a :: items => (body s a).andThen fun
      | .ok (.inl s') => forEach body s' items
      | .ok (.inr b) => .done (.ok (.inr b))
      | .error e => .done (.error e)

/-- The way a coroutine goes when a function answers its operations, and the world at its end.
`none` is a loop that has not ended. -/
def follow {W : Type} (answer : W → (op : Op) → Except ε (Ans op) × W) :
    Coroutine Op Ans ε α → W → Option (Except ε α) × W
  | .done result, w => (some result, w)
  | .await op resume, w => (resume (answer w op).1).follow answer (answer w op).2
  | .running, w => (none, w)

end Coroutine

/-- What an environment may answer to an operation, and what the world may be afterwards. -/
abbrev Environment (Op : Type) (Ans : Op → Type) (ε W : Type) :=
  W → (op : Op) → Except ε (Ans op) → W → Prop

namespace Coroutine

variable {Op Op' : Type} {Ans : Op → Type} {Ans' : Op' → Type} {ε α β σ W : Type}

/-! ### Runs -/

/-- The coroutine and the world after some of its operations. -/
inductive Reaches (env : Environment Op Ans ε W) :
    Coroutine Op Ans ε α → W → Coroutine Op Ans ε α → W → Prop
  | refl {p : Coroutine Op Ans ε α} {w : W} : Reaches env p w p w
  | step {op : Op} {resume : Except ε (Ans op) → Coroutine Op Ans ε α}
      {answer : Except ε (Ans op)} {w w₁ w' : W} {p' : Coroutine Op Ans ε α} :
      env w op answer w₁ → Reaches env (resume answer) w₁ p' w' →
        Reaches env (.await op resume) w p' w'

/-- Whenever the coroutine asks for an operation, `I` holds of the world and the operation, and if
it ends, `Q` holds of its result and the world. -/
def wp (env : Environment Op Ans ε W) (I : W → Op → Prop) :
    Coroutine Op Ans ε α → (Except ε α → W → Prop) → W → Prop
  | .done result, Q, w => Q result w
  | .await op resume, Q, w =>
      I w op ∧ ∀ answer w', env w op answer w' → (resume answer).wp env I Q w'
  | .running, _, _ => True

/-- What `wp` says of a coroutine at the point it has come to. -/
def Meets (I : W → Op → Prop) (Q : Except ε α → W → Prop) : Coroutine Op Ans ε α → W → Prop
  | .done result, w => Q result w
  | .await op _, w => I w op
  | .running, _ => True

variable {env : Environment Op Ans ε W} {I : W → Op → Prop} {Q : Except ε α → W → Prop}
  {p p' : Coroutine Op Ans ε α} {w w' : W}

/-- `wp` holds wherever the coroutine comes to. -/
theorem wp_of_reaches_of_wp (h : p.wp env I Q w) (hreaches : Reaches env p w p' w') :
    p'.wp env I Q w' := by
  induction hreaches with
  | refl => exact h
  | step henv _ ih => exact ih (h.2 _ _ henv)

theorem reaches_of_wp (h : p.wp env I Q w) (hreaches : Reaches env p w p' w') :
    p'.Meets I Q w' := by
  have h' := wp_of_reaches_of_wp h hreaches
  cases p' with
  | done result => exact h'
  | await op resume => exact h'.1
  | running => trivial

theorem wp_of_reaches (h : ∀ p' w', Reaches env p w p' w' → p'.Meets I Q w') :
    p.wp env I Q w := by
  induction p generalizing w with
  | done result => exact h _ _ .refl
  | await op resume ih =>
      refine ⟨h _ _ .refl, ?_⟩
      intro answer w₁ henv
      exact ih answer fun p' w' hreaches => h p' w' (.step henv hreaches)
  | running => trivial

/-- One more operation. -/
theorem Reaches.snoc {op : Op} {resume : Except ε (Ans op) → Coroutine Op Ans ε α}
    (hreaches : Reaches env p w (.await op resume) w') {answer : Except ε (Ans op)} {w₁ : W}
    (henv : env w' op answer w₁) : Reaches env p w (resume answer) w₁ := by
  generalize hp' : Coroutine.await op resume = p' at hreaches
  induction hreaches with
  | refl =>
      subst hp'
      exact .step henv .refl
  | step hfirst _ ih => exact .step hfirst (ih henv hp')

/-- The way a function answers is one that the environment allows. -/
theorem reaches_follow {answer : W → (op : Op) → Except ε (Ans op) × W}
    (hanswer : ∀ w op, env w op (answer w op).1 (answer w op).2) {result : Except ε α}
    (h : (p.follow answer w).1 = some result) :
    Reaches env p w (.done result) (p.follow answer w).2 := by
  induction p generalizing w with
  | done other =>
      cases Option.some.inj h
      exact .refl
  | await op resume ih => exact .step (hanswer w op) (ih _ h)
  | running => cases h

section Follow

variable {answer : W → (op : Op) → Except ε (Ans op) × W}

end Follow

/-! ### Rules -/

/-- `wp` in a smaller environment, of weaker statements. -/
theorem wp_mono {env' : Environment Op Ans ε W} {I' : W → Op → Prop}
    {Q' : Except ε α → W → Prop} (h : p.wp env I Q w)
    (henv : ∀ w op answer w', env' w op answer w' → env w op answer w')
    (hI : ∀ w op, I w op → I' w op) (hQ : ∀ result w, Q result w → Q' result w) :
    p.wp env' I' Q' w := by
  induction p generalizing w with
  | done result => exact hQ _ _ h
  | await op resume ih =>
      refine ⟨hI _ _ h.1, ?_⟩
      intro answer w' hstep
      exact ih answer (h.2 answer w' (henv _ _ _ _ hstep))
  | running => trivial

/-- Another statement about the end. -/
theorem wp_imp {Q' : Except ε α → W → Prop} (h : p.wp env I Q w)
    (hQ : ∀ result w, Q result w → Q' result w) : p.wp env I Q' w :=
  wp_mono h (fun _ _ _ _ hstep => hstep) (fun _ _ hI => hI) hQ

/-- The same for equivalent statements. -/
theorem wp_congr {Q' : Except ε α → W → Prop} (hQ : ∀ result w, Q result w ↔ Q' result w) :
    p.wp env I Q w ↔ p.wp env I Q' w :=
  ⟨fun h => wp_imp h fun result w => (hQ result w).mp,
    fun h => wp_imp h fun result w => (hQ result w).mpr⟩

@[simp]
theorem wp_andThen {k : Except ε α → Coroutine Op Ans ε β} {Q : Except ε β → W → Prop} :
    (p.andThen k).wp env I Q w ↔ p.wp env I (fun result => (k result).wp env I Q) w := by
  induction p generalizing w with
  | done result => exact Iff.rfl
  | await op resume ih => exact and_congr_right fun _ => by simp only [ih]
  | running => exact Iff.rfl

@[simp]
theorem wp_done {result : Except ε α} :
    (.done result : Coroutine Op Ans ε α).wp env I Q w ↔ Q result w := Iff.rfl

@[simp]
theorem wp_pure {a : α} : (pure a : Coroutine Op Ans ε α).wp env I Q w ↔ Q (.ok a) w := Iff.rfl

@[simp]
theorem wp_bind {f : α → Coroutine Op Ans ε β} {Q : Except ε β → W → Prop} :
    (p >>= f).wp env I Q w ↔
      p.wp env I (fun
        | .ok a => (f a).wp env I Q
        | .error e => Q (.error e)) w := by
  refine wp_andThen.trans (wp_congr fun result w => ?_)
  cases result <;> exact Iff.rfl

@[simp]
theorem wp_tryCatch {handler : ε → Coroutine Op Ans ε α} :
    (tryCatch p handler).wp env I Q w ↔
      p.wp env I (fun
        | .ok a => Q (.ok a)
        | .error e => (handler e).wp env I Q) w := by
  refine wp_andThen.trans (wp_congr fun result w => ?_)
  cases result <;> exact Iff.rfl

@[simp]
theorem wp_ensuring {final : Coroutine Op Ans ε Unit} :
    (p.ensuring final).wp env I Q w ↔
      p.wp env I (fun result => final.wp env I (fun
        | .ok () => Q result
        | .error e => Q (.error e))) w := by
  refine wp_andThen.trans (wp_congr fun result w => ?_)
  refine wp_andThen.trans (wp_congr fun ended w => ?_)
  cases ended <;> exact Iff.rfl

@[simp]
theorem wp_call {op : Op} {Q : Except ε (Ans op) → W → Prop} :
    (call op : Coroutine Op Ans ε (Ans op)).wp env I Q w ↔
      I w op ∧ (∀ a w', env w op (.ok a) w' → Q (.ok a) w') ∧
        ∀ e w', env w op (.error e) w' → Q (.error e) w' := by
  refine and_congr_right fun _ => ⟨fun h => ⟨fun a => h (.ok a), fun e => h (.error e)⟩, ?_⟩
  intro h answer
  cases answer with
  | ok a => exact h.1 a
  | error e => exact h.2 e

/-- A loop whose turns keep an invariant. -/
theorem wp_loop {body : σ → Coroutine Op Ans ε (σ ⊕ β)} {Q : Except ε β → W → Prop}
    (Inv : σ → W → Prop)
    (hbody : ∀ s w, Inv s w → (body s).wp env I (fun
      | .ok (.inl s') => Inv s'
      | .ok (.inr b) => Q (.ok b)
      | .error e => Q (.error e)) w) (turns : Nat) {s : σ} (h : Inv s w) :
    (loop body turns s).wp env I Q w := by
  induction turns generalizing s w with
  | zero => trivial
  | succ turns ih =>
      refine wp_andThen.mpr (wp_imp (hbody s w h) fun result w h => ?_)
      cases result with
      | error e => exact h
      | ok next =>
          cases next with
          | inl s' => exact ih h
          | inr b => exact h

/-- A loop over a list whose turns keep an invariant of the items that they have been made for. -/
theorem wp_forEach {body : σ → α → Coroutine Op Ans ε (σ ⊕ β)} {items : List α}
    {Q : Except ε (σ ⊕ β) → W → Prop} (Inv : List α → σ → W → Prop)
    (hbody : ∀ made a later s w, items = made ++ a :: later → Inv made s w →
      (body s a).wp env I (fun
        | .ok (.inl s') => Inv (made ++ [a]) s'
        | .ok (.inr b) => Q (.ok (.inr b))
        | .error e => Q (.error e)) w)
    (hend : ∀ s w, Inv items s w → Q (.ok (.inl s)) w) {s : σ} (h : Inv [] s w) :
    (forEach body s items).wp env I Q w := by
  have hrest : ∀ (later made : List α) (s : σ) (w : W), items = made ++ later → Inv made s w →
      (forEach body s later).wp env I Q w := by
    intro later
    induction later with
    | nil =>
        intro made s w hitems h
        rw [List.append_nil] at hitems
        exact hend s w (hitems ▸ h)
    | cons a later ih =>
        intro made s w hitems h
        refine wp_andThen.mpr (wp_imp (hbody made a later s w hitems h) fun result w h => ?_)
        cases result with
        | error e => exact h
        | ok next =>
            cases next with
            | inl s' => exact ih (made ++ [a]) s' w (by simp [hitems]) h
            | inr b => exact h
  exact hrest items [] s w rfl h

/-- `wp` in an environment that another one simulates: what it does to a world `v`, the other one
does to a world that `v` stands for. -/
theorem wp_simulates {V : Type} {env' : Environment Op Ans ε V} (R : W → V → Prop)
    (henv : ∀ w v op answer v', R w v → env' v op answer v' → ∃ w', env w op answer w' ∧ R w' v')
    (h : p.wp env I Q w) {v : V} (hrel : R w v) :
    p.wp env' (fun v op => ∃ w, R w v ∧ I w op) (fun result v => ∃ w, R w v ∧ Q result w) v := by
  induction p generalizing w v with
  | done result => exact ⟨w, hrel, h⟩
  | await op resume ih =>
      refine ⟨⟨w, hrel, h.1⟩, ?_⟩
      intro answer v' hstep
      obtain ⟨w', hstep', hrel'⟩ := henv w v op answer v' hrel hstep
      exact ih answer (h.2 answer w' hstep') hrel'
  | running => trivial

/-! ### Transcripts -/

/-- An operation and what it returned or raised. -/
abbrev Event (Op : Type) (Ans : Op → Type) (ε : Type) := (op : Op) × Except ε (Ans op)

/-- The environment that answers whatever `allowed` lets it, in a world that is the list of what has
happened. -/
def recording (allowed : List (Event Op Ans ε) → (op : Op) → Except ε (Ans op) → Prop) :
    Environment Op Ans ε (List (Event Op Ans ε)) :=
  fun log op answer log' => allowed log op answer ∧ log' = log ++ [⟨op, answer⟩]

/-- `recording` with no restriction. -/
def recordingAll : Environment Op Ans ε (List (Event Op Ans ε)) := recording fun _ _ _ => True

@[simp]
theorem wp_call_recording {allowed : List (Event Op Ans ε) → (op : Op) → Except ε (Ans op) → Prop}
    {I : List (Event Op Ans ε) → Op → Prop} {op : Op}
    {Q : Except ε (Ans op) → List (Event Op Ans ε) → Prop} {log : List (Event Op Ans ε)} :
    (call op : Coroutine Op Ans ε (Ans op)).wp (recording allowed) I Q log ↔
      I log op ∧ ∀ answer, allowed log op answer → Q answer (log ++ [⟨op, answer⟩]) := by
  refine and_congr_right fun _ => ⟨fun h answer hallowed => h answer _ ⟨hallowed, rfl⟩, ?_⟩
  intro h answer log' henv
  obtain ⟨hallowed, rfl⟩ := henv
  exact h answer hallowed

theorem wp_call_recordingAll {I : List (Event Op Ans ε) → Op → Prop} {op : Op}
    {Q : Except ε (Ans op) → List (Event Op Ans ε) → Prop} {log : List (Event Op Ans ε)} :
    (call op : Coroutine Op Ans ε (Ans op)).wp recordingAll I Q log ↔
      I log op ∧ ∀ answer, Q answer (log ++ [⟨op, answer⟩]) :=
  wp_call_recording.trans (and_congr_right fun _ => forall_congr' fun _ => forall_prop_of_true trivial)

/-- The environment that answers anything, in a world that an answer changes in a certain way. -/
def watching (after : W → (op : Op) → Except ε (Ans op) → W) : Environment Op Ans ε W :=
  fun w op answer w' => w' = after w op answer

@[simp]
theorem wp_call_watching {after : W → (op : Op) → Except ε (Ans op) → W} {I : W → Op → Prop}
    {op : Op} {Q : Except ε (Ans op) → W → Prop} {w : W} :
    (call op : Coroutine Op Ans ε (Ans op)).wp (watching after) I Q w ↔
      I w op ∧ ∀ answer, Q answer (after w op answer) := by
  refine and_congr_right fun _ => ⟨fun h answer => h answer _ rfl, ?_⟩
  intro h answer w' henv
  cases henv
  exact h answer

/-- The operations of a transcript. -/
def asked (log : List (Event Op Ans ε)) : List Op := log.map Sigma.fst

/-- A run in an environment is one in every larger environment. -/
theorem Reaches.mono {env' : Environment Op Ans ε W} (h : Reaches env p w p' w')
    (henv : ∀ w op answer w', env w op answer w' → env' w op answer w') :
    Reaches env' p w p' w' := by
  induction h with
  | refl => exact .refl
  | step hstep _ ih => exact .step (henv _ _ _ _ hstep) ih

/-- Whatever a run has recorded, was allowed when it happened. -/
theorem allowed_of_reaches {p p' : Coroutine Op Ans ε α}
    {allowed : List (Event Op Ans ε) → (op : Op) → Except ε (Ans op) → Prop}
    {log : List (Event Op Ans ε)} (h : Reaches (recording allowed) p [] p' log)
    {before after : List (Event Op Ans ε)} {event : Event Op Ans ε}
    (hlog : log = before ++ event :: after) : allowed before event.1 event.2 := by
  have hall : ∀ {p p' : Coroutine Op Ans ε α} {log log' : List (Event Op Ans ε)},
      Reaches (recording allowed) p log p' log' →
      (∀ before event after, log = before ++ event :: after → allowed before event.1 event.2) →
      ∀ before event after, log' = before ++ event :: after →
        allowed before event.1 event.2 := by
    intro p p' log log' h
    induction h with
    | refl => exact fun hlog => hlog
    | @step op resume answer log log₁ log' p' hstep _ ih =>
        intro hlog
        obtain ⟨hallowed, rfl⟩ := hstep
        refine ih ?_
        intro before event after hsplit
        rcases List.eq_nil_or_concat after with rfl | ⟨after, last, rfl⟩
        · obtain ⟨rfl, hevent⟩ := List.append_inj' hsplit rfl
          cases hevent
          exact hallowed
        · rw [List.concat_eq_append, ← List.cons_append, ← List.append_assoc] at hsplit
          exact hlog before event after (List.append_inj' hsplit rfl).1
  exact hall h (fun before event after hnil => by simp at hnil) before event after hlog

@[simp]
theorem asked_cons (event : Event Op Ans ε) (log : List (Event Op Ans ε)) :
    asked (event :: log) = event.1 :: asked log := rfl

end Coroutine

end PxManager.Core
