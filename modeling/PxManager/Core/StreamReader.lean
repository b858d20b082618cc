import PxManager.Core.Bytes

/-!
# PxManager.Core.StreamReader

`asyncio.StreamReader` for one consumer. A call of `read` that finds nothing waits for a future,
which `feed_data` and `feed_eof` resolve and into which `set_exception` puts its exception; the
call goes on some time after that. `read` raises the exception of the reader before it looks at
the buffer.
-/

namespace PxManager.Core

/-- The future of a call that waits. -/
inductive Wake (ε : Type)
  | waiting
  | woken
  | failed (error : ε)
  deriving DecidableEq, Repr

/-- `asyncio.StreamReader`. -/
structure StreamReader (ε : Type) where
  buffer : Bytes
  eof : Bool
  exception : Option ε
  /-- The call of `read` that waits: how much it may return, and its future. -/
  reading : Option (Nat × Wake ε)
  deriving DecidableEq, Repr

/-- What a call of `read` comes to. -/
inductive ReadResult (ε : Type)
  | data (data : Bytes)
  | raises (error : ε)
  | waits
  deriving DecidableEq, Repr

namespace StreamReader

variable {ε : Type} {self : StreamReader ε}

/-- A new reader. -/
def new : StreamReader ε where
  buffer := []
  eof := false
  exception := none
  reading := none

/-- Resolve the future of the call that waits. -/
def wake (self : StreamReader ε) (wake : Wake ε) : StreamReader ε :=
  match self.reading with
  | some (n, .waiting) => { self with reading := some (n, wake) }
  | _ => self

/-- `feed_data`. `none` is its assertion that `feed_eof` was not called. -/
def feedData (self : StreamReader ε) (data : Bytes) : Option (StreamReader ε) :=
  if self.eof then none
  else if data = [] then some self
  else some ({ self with buffer := self.buffer ++ data }.wake .woken)

/-- `feed_eof`. -/
def feedEof (self : StreamReader ε) : StreamReader ε :=
  { self with eof := true }.wake .woken

/-- `set_exception`. -/
def setException (self : StreamReader ε) (error : ε) : StreamReader ε :=
  { self with exception := some error }.wake (.failed error)

/-- The end of `read`: what there is, up to `n` bytes. -/
def take (self : StreamReader ε) (n : Nat) : ReadResult ε × StreamReader ε :=
  (.data (self.buffer.take n), { self with buffer := self.buffer.drop n })

/-- `read`, up to where it waits. -/
def read (self : StreamReader ε) (n : Nat) : ReadResult ε × StreamReader ε :=
  match self.exception with
  | some error => (.raises error, self)
  | none =>
      if n = 0 then (.data [], self)
      else if self.buffer = [] ∧ self.eof = false then
        (.waits, { self with reading := some (n, .waiting) })
      else self.take n

/-- The call that waits goes on. It is not looked at the exception again. -/
def resume (self : StreamReader ε) : Option (ReadResult ε × StreamReader ε) :=
  match self.reading with
  | some (n, .woken) => some ({ self with reading := none }.take n)
  | some (_, .failed error) => some (.raises error, { self with reading := none })
  | _ => none

/-! ### What a waiting call may find -/

/-- A call waits for at least one byte while there is none, and is woken by bytes or by the end. -/
structure WaitsRight (reader : StreamReader ε) : Prop where
  pos : ∀ n w, reader.reading = some (n, w) → 1 ≤ n
  waiting : ∀ n, reader.reading = some (n, .waiting) → reader.buffer = [] ∧ reader.eof = false
  woken : ∀ n, reader.reading = some (n, .woken) → reader.buffer ≠ [] ∨ reader.eof = true

@[simp] theorem wake_buffer (wake : Wake ε) : (self.wake wake).buffer = self.buffer := by
  unfold StreamReader.wake
  split <;> rfl

@[simp] theorem wake_eof (wake : Wake ε) : (self.wake wake).eof = self.eof := by
  unfold StreamReader.wake
  split <;> rfl

@[simp] theorem wake_exception (wake : Wake ε) :
    (self.wake wake).exception = self.exception := by
  unfold StreamReader.wake
  split <;> rfl

/-- A call that was not waiting keeps its future. -/
theorem wake_reading {wake : Wake ε} {n : Nat} {w : Wake ε}
    (h : (self.wake wake).reading = some (n, w)) :
    self.reading = some (n, .waiting) ∧ w = wake ∨ self.reading = some (n, w) ∧ w ≠ .waiting := by
  unfold StreamReader.wake at h
  split at h
  · next m heq =>
      cases h
      exact .inl ⟨heq, rfl⟩
  · next hnot =>
      refine .inr ⟨h, ?_⟩
      intro hw
      subst hw
      exact hnot n h

theorem waitsRight_new : WaitsRight (new : StreamReader ε) :=
  ⟨fun _ _ h => (by cases h), fun _ h => (by cases h), fun _ h => (by cases h)⟩

/-- A reader that resolves the future keeps to `WaitsRight` if what it wakes the call with, and what
it leaves to a call that was woken before, is right. -/
theorem WaitsRight.wake {wake : Wake ε} {reader : StreamReader ε} (h : WaitsRight self)
    (hreading : reader.reading = self.reading) (hwake : wake ≠ .waiting)
    (hnew : wake = .woken → reader.buffer ≠ [] ∨ reader.eof = true)
    (hold : self.buffer ≠ [] ∨ self.eof = true → reader.buffer ≠ [] ∨ reader.eof = true) :
    WaitsRight (reader.wake wake) := by
  refine ⟨?_, ?_, ?_⟩
  · intro n w hw
    rcases wake_reading hw with ⟨hw, -⟩ | ⟨hw, -⟩
    · exact h.pos n _ (hreading ▸ hw)
    · exact h.pos n _ (hreading ▸ hw)
  · intro n hw
    rcases wake_reading hw with ⟨-, hw⟩ | ⟨-, hw⟩
    · exact absurd hw.symm hwake
    · exact absurd rfl hw
  · intro n hw
    rw [wake_buffer, wake_eof]
    rcases wake_reading hw with ⟨-, hw⟩ | ⟨hw, -⟩
    · exact hnew hw.symm
    · exact hold (h.woken n (hreading ▸ hw))

theorem WaitsRight.feedData {reader : StreamReader ε} {data : Bytes} (h : WaitsRight self)
    (hfeed : self.feedData data = some reader) : WaitsRight reader := by
  unfold StreamReader.feedData at hfeed
  split at hfeed
  · cases hfeed
  · split at hfeed
    · exact Option.some.inj hfeed ▸ h
    · next hdata =>
        cases hfeed
        have hbuffer : self.buffer ++ data ≠ [] := List.append_ne_nil_of_right_ne_nil _ hdata
        exact h.wake rfl (by simp) (fun _ => .inl hbuffer) (fun _ => .inl hbuffer)

theorem WaitsRight.feedEof (h : WaitsRight self) : WaitsRight self.feedEof :=
  h.wake rfl (by simp) (fun _ => .inr rfl) (fun _ => .inr rfl)

theorem WaitsRight.setException (h : WaitsRight self) (error : ε) :
    WaitsRight (self.setException error) :=
  h.wake rfl (by simp) (fun hw => by cases hw) id

theorem feedData_eq {reader : StreamReader ε} {data : Bytes}
    (hfeed : self.feedData data = some reader) :
    reader.buffer = self.buffer ++ data ∧ reader.eof = self.eof ∧
      reader.exception = self.exception := by
  unfold StreamReader.feedData at hfeed
  split at hfeed
  · cases hfeed
  · split at hfeed
    · next hdata =>
        cases hfeed
        rw [hdata, List.append_nil]
        exact ⟨rfl, rfl, rfl⟩
    · cases hfeed
      rw [wake_buffer, wake_eof, wake_exception]
      exact ⟨rfl, rfl, rfl⟩

/-- What a call of `read` does, by the three ways it can go. -/
theorem read_cases (self : StreamReader ε) {n : Nat} (hn : 1 ≤ n) :
    (∃ error, self.exception = some error ∧ self.read n = (.raises error, self)) ∨
    (self.exception = none ∧ self.buffer = [] ∧ self.eof = false ∧
      self.read n = (.waits, { self with reading := some (n, .waiting) })) ∨
    (self.exception = none ∧ (self.buffer ≠ [] ∨ self.eof = true) ∧ self.read n = self.take n) := by
  unfold StreamReader.read
  cases hexception : self.exception with
  | some error => exact .inl ⟨error, rfl, rfl⟩
  | none =>
      right
      simp only [if_neg (Nat.one_le_iff_ne_zero.mp hn)]
      by_cases hempty : self.buffer = [] ∧ self.eof = false
      · rw [if_pos hempty]
        exact .inl ⟨trivial, hempty.1, hempty.2, rfl⟩
      · rw [if_neg hempty]
        refine .inr ⟨trivial, ?_, rfl⟩
        by_cases hbuffer : self.buffer = []
        · cases heof : self.eof with
          | true => exact .inr rfl
          | false => exact absurd ⟨hbuffer, heof⟩ hempty
        · exact .inl hbuffer

/-- A call goes on when its future was resolved, and returns what there is unless that was by an
exception. -/
theorem resume_cases {result : ReadResult ε × StreamReader ε} (h : self.resume = some result) :
    (∃ n, self.reading = some (n, .woken) ∧ result = { self with reading := none }.take n) ∨
    (∃ n error, self.reading = some (n, .failed error) ∧
      result = (.raises error, { self with reading := none })) := by
  unfold StreamReader.resume at h
  split at h
  · next n heq => exact .inl ⟨n, heq, (Option.some.inj h).symm⟩
  · next n error heq => exact .inr ⟨n, error, heq, (Option.some.inj h).symm⟩
  · cases h

theorem waitsRight_of_not_reading (h : self.reading = none) : WaitsRight self := by
  refine ⟨fun n w hw => ?_, fun n hw => ?_, fun n hw => ?_⟩
  all_goals rw [h] at hw
  all_goals cases hw

end StreamReader

end PxManager.Core
