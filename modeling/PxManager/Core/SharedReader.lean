import Mathlib.Data.List.Basic

/-!
# PxManager.Core.SharedReader

`asyncio.StreamReader` as the calls of `read` of several tasks see it. What the bytes are is left
to those who use it; here is who waits for them, and who finds some.

A call that finds nothing waits for a future, and the reader keeps the future of one call only.
`feed_data` and `feed_eof` resolve it; the call goes on some time after that and takes what there is
by then. A call that reads in between finds the bytes first, and the woken one is left with none.
-/

namespace PxManager.Core

/-- `asyncio.StreamReader` for calls of `read` that are told apart by a `γ`. -/
structure SharedReader (γ : Type) where
  /-- There are bytes in the buffer. -/
  unread : Bool
  eof : Bool
  /-- The call whose future the reader keeps. -/
  waiter : Option γ
  /-- The calls whose future is resolved and which have not gone on. -/
  woken : List γ
  deriving DecidableEq, Repr

/-- What a call of `read` finds. -/
inductive Found
  | bytes
  /-- It returns `b''`. -/
  | nothing
  | waits
  /-- It raises, because another call waits. -/
  | runtimeError
  deriving DecidableEq, Repr

namespace SharedReader

variable {γ : Type}

/-- A new reader. -/
def new : SharedReader γ where
  unread := false
  eof := false
  waiter := none
  woken := []

/-- Resolve the future that the reader keeps. -/
def wake (self : SharedReader γ) : SharedReader γ :=
  { self with waiter := none, woken := self.woken ++ self.waiter.toList }

/-- `feed_data` with some bytes. `none` is its assertion that `feed_eof` was not called. -/
def feedData (self : SharedReader γ) : Option (SharedReader γ) :=
  if self.eof then none else some { self with unread := true }.wake

/-- `feed_eof`. -/
def feedEof (self : SharedReader γ) : SharedReader γ :=
  { self with eof := true }.wake

/-- `read`, up to where it waits. -/
def read (self : SharedReader γ) (call : γ) : Found × SharedReader γ :=
  if self.unread then (.bytes, self)
  else if self.eof then (.nothing, self)
  else
    match self.waiter with
    | some _ => (.runtimeError, self)
    | none => (.waits, { self with waiter := some call })

/-- A woken call goes on. It does not look whether it has to wait again, and the reader forgets the
future that it keeps by then, whose call is not woken any more. -/
def goOn [DecidableEq γ] (self : SharedReader γ) (call : γ) : Found × SharedReader γ :=
  (if self.unread then .bytes else .nothing,
    { self with waiter := none, woken := self.woken.erase call })

/-- A call that has found bytes takes them, and may leave some. -/
def take (self : SharedReader γ) (unread : Bool) : SharedReader γ :=
  { self with unread }

/-! ### The calls that are to go on -/

/-- Every call that waits or was woken meets `P`, and while one waits there is nothing to read. -/
structure Keeps (P : γ → Prop) (reader : SharedReader γ) : Prop where
  waiter : ∀ call, reader.waiter = some call → P call
  woken : ∀ call ∈ reader.woken, P call
  unread : ∀ call, reader.waiter = some call → reader.unread = false

variable {P : γ → Prop} {self reader : SharedReader γ} {call : γ}

/-- While nobody waits, it is the woken calls that matter. -/
theorem keeps_of_not_waiting (hwaiter : self.waiter = none) (hwoken : ∀ call ∈ self.woken, P call) :
    self.Keeps P := by
  refine ⟨?_, hwoken, ?_⟩
  · intro call h
    rw [hwaiter] at h
    cases h
  · intro call h
    rw [hwaiter] at h
    cases h

theorem keeps_new : (new : SharedReader γ).Keeps P :=
  keeps_of_not_waiting rfl fun _ h => (List.not_mem_nil h).elim

theorem Keeps.imp {Q : γ → Prop} (h : self.Keeps P) (himp : ∀ call, P call → Q call) :
    self.Keeps Q :=
  ⟨fun call hcall => himp call (h.waiter call hcall),
    fun call hcall => himp call (h.woken call hcall), h.unread⟩

theorem Keeps.wake_woken (h : self.Keeps P) : ∀ call ∈ self.wake.woken, P call := by
  intro call hcall
  rcases List.mem_append.mp hcall with hcall | hcall
  · exact h.woken call hcall
  · exact h.waiter call (Option.mem_toList.mp hcall)

theorem Keeps.feedData (h : self.Keeps P) (hfeed : self.feedData = some reader) :
    reader.Keeps P := by
  obtain ⟨-, hfeed⟩ := Option.ite_none_left_eq_some.mp hfeed
  rw [← Option.some.inj hfeed]
  exact keeps_of_not_waiting rfl h.wake_woken

theorem Keeps.feedEof (h : self.Keeps P) : self.feedEof.Keeps P :=
  keeps_of_not_waiting rfl h.wake_woken

theorem Keeps.goOn [DecidableEq γ] (h : self.Keeps P) (call : γ) : (self.goOn call).2.Keeps P :=
  keeps_of_not_waiting rfl fun other hother => h.woken other (List.mem_of_mem_erase hother)

/-- What a call of `read` finds, by what there is. -/
theorem read_cases (self : SharedReader γ) (call : γ) :
    (self.unread = true ∧ self.read call = (.bytes, self)) ∨
    (self.unread = false ∧ self.eof = true ∧ self.read call = (.nothing, self)) ∨
    (self.unread = false ∧ self.read call = (.runtimeError, self)) ∨
    (self.unread = false ∧ self.read call = (.waits, { self with waiter := some call })) := by
  unfold read
  cases self.unread with
  | true => exact .inl ⟨rfl, rfl⟩
  | false =>
      right
      cases self.eof with
      | true => exact .inl ⟨rfl, rfl, rfl⟩
      | false =>
          right
          cases self.waiter with
          | some other => exact .inl ⟨rfl, rfl⟩
          | none => exact .inr ⟨rfl, rfl⟩

/-- A call that finds nothing may wait. -/
theorem Keeps.waits (h : self.Keeps P) (hunread : self.unread = false) (hcall : P call) :
    ({ self with waiter := some call } : SharedReader γ).Keeps P := by
  refine ⟨?_, h.woken, ?_⟩
  · intro other hother
    exact Option.some.inj hother ▸ hcall
  · intro other _
    exact hunread

/-- The calls that wait or were woken. -/
def calls (self : SharedReader γ) : List γ := self.waiter.toList ++ self.woken

theorem length_calls_wake (self : SharedReader γ) : self.wake.calls.length = self.calls.length := by
  simp only [calls, wake, Option.toList_none, List.nil_append, List.length_append]
  omega

theorem length_calls_feedData (hfeed : self.feedData = some reader) :
    reader.calls.length = self.calls.length := by
  obtain ⟨-, hfeed⟩ := Option.ite_none_left_eq_some.mp hfeed
  rw [← Option.some.inj hfeed]
  exact length_calls_wake _

theorem length_calls_feedEof (self : SharedReader γ) :
    self.feedEof.calls.length = self.calls.length :=
  length_calls_wake _

/-- The call that goes on is not one of them any more. -/
theorem length_calls_goOn [DecidableEq γ] (hcall : call ∈ self.woken) :
    (self.goOn call).2.calls.length + 1 ≤ self.calls.length := by
  have hpos := List.length_pos_of_mem hcall
  simp only [calls, goOn, Option.toList_none, List.nil_append, List.length_append,
    List.length_erase_of_mem hcall]
  omega

theorem length_calls_waits (self : SharedReader γ) (call : γ) :
    ({ self with waiter := some call } : SharedReader γ).calls.length ≤ self.calls.length + 1 := by
  simp only [calls, List.length_append, Option.toList_some, List.length_singleton]
  omega

end SharedReader

end PxManager.Core
