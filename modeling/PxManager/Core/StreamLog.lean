import PxManager.Core.Bytes

/-!
# PxManager.Core.StreamLog

**What happens on a byte stream**, in order: bytes arrive, a reader is given some of them, or is
told that the stream is over. `Buffered log buffer` says that the reader has been given the
bytes in the order in which they arrived, never an empty piece, and that it was told of the end
only when it had been given everything; `buffer` is what it is still to get.
-/

namespace PxManager.Core

/-- An event on a byte stream. `ε` is for whatever else is to be recorded. -/
inductive StreamEntry (ε : Type)
  | fed (data : Bytes)
  | returned (data : Bytes)
  | endOfStream
  | mark (mark : ε)
  deriving DecidableEq, Repr

variable {ε : Type} {log : List (StreamEntry ε)} {buffer : Bytes}

/-- All bytes that arrived. -/
def fedBytes (log : List (StreamEntry ε)) : Bytes :=
  log.flatMap fun
    | .fed data => data
    | _ => []

/-- All bytes that the reader was given. -/
def returnedBytes (log : List (StreamEntry ε)) : Bytes :=
  log.flatMap fun
    | .returned data => data
    | _ => []

@[simp] theorem fedBytes_append (log log' : List (StreamEntry ε)) :
    fedBytes (log ++ log') = fedBytes log ++ fedBytes log' := List.flatMap_append

@[simp] theorem returnedBytes_append (log log' : List (StreamEntry ε)) :
    returnedBytes (log ++ log') = returnedBytes log ++ returnedBytes log' := List.flatMap_append

/-- A reader has kept to the order of the stream and has `buffer` left. -/
structure Buffered (log : List (StreamEntry ε)) (buffer : Bytes) : Prop where
  balance : returnedBytes log ++ buffer = fedBytes log
  nonempty : ∀ data, .returned data ∈ log → data ≠ []
  complete : ∀ before, before ++ [.endOfStream] <+: log → returnedBytes before = fedBytes before

namespace Buffered

theorem nil : Buffered ([] : List (StreamEntry ε)) [] := by
  refine ⟨rfl, ?_, ?_⟩
  · intro data h
    cases h
  · intro before h
    have hne : before ++ [.endOfStream] ≠ [] :=
      List.append_ne_nil_of_right_ne_nil _ (List.cons_ne_nil _ _)
    exact absurd (List.prefix_nil.mp h) hne

theorem returned_isPrefix (h : Buffered log buffer) : returnedBytes log <+: fedBytes log :=
  ⟨buffer, h.balance⟩

/-- What is left is what arrived after the bytes that were given. -/
theorem drop_fedBytes (h : Buffered log buffer) :
    (fedBytes log).drop (returnedBytes log).length = buffer := by
  rw [← h.balance, List.drop_left]

/-- An entry that is not the end of the stream leaves `complete` to the log before it. -/
theorem snoc {entry : StreamEntry ε} {buffer' : Bytes} (h : Buffered log buffer)
    (hend : entry ≠ .endOfStream ∨ returnedBytes log = fedBytes log)
    (hnonempty : ∀ data, entry = .returned data → data ≠ [])
    (hbalance : returnedBytes (log ++ [entry]) ++ buffer' = fedBytes (log ++ [entry])) :
    Buffered (log ++ [entry]) buffer' := by
  refine ⟨hbalance, ?_, ?_⟩
  · intro data hdata
    rcases List.mem_append.mp hdata with hdata | hdata
    · exact h.nonempty data hdata
    · exact hnonempty data (List.mem_singleton.mp hdata).symm
  · intro before hbefore
    rcases List.prefix_concat_iff.mp hbefore with heq | hbefore
    · obtain ⟨hlog, hentry⟩ := List.append_inj' heq rfl
      rw [hlog]
      rcases hend with hend | hend
      · exact absurd (List.singleton_inj.mp hentry).symm hend
      · exact hend
    · exact h.complete before hbefore

theorem fed (h : Buffered log buffer) (data : Bytes) :
    Buffered (log ++ [.fed data]) (buffer ++ data) := by
  refine h.snoc (.inl (by simp)) (by simp) ?_
  rw [fedBytes_append, ← h.balance]
  simp [returnedBytes, fedBytes]

theorem returned (h : Buffered log buffer) (hbuffer : buffer ≠ []) {n : Nat} (hn : 1 ≤ n) :
    Buffered (log ++ [.returned (buffer.take n)]) (buffer.drop n) := by
  refine h.snoc (.inl (by simp)) ?_ ?_
  · intro data hdata
    cases hdata
    cases buffer with
    | nil => exact absurd rfl hbuffer
    | cons b buffer =>
        cases n with
        | zero => exact absurd hn (Nat.not_succ_le_zero 0)
        | succ n => exact List.cons_ne_nil _ _
  · rw [fedBytes_append, ← h.balance]
    simp [returnedBytes, fedBytes]

theorem endOfStream (h : Buffered log []) : Buffered (log ++ [.endOfStream]) [] := by
  have hbalance := h.balance
  rw [List.append_nil] at hbalance
  refine h.snoc (.inr hbalance) (by simp) ?_
  rw [List.append_nil, returnedBytes_append, fedBytes_append, hbalance]
  rfl

theorem mark (h : Buffered log buffer) (mark : ε) : Buffered (log ++ [.mark mark]) buffer := by
  refine h.snoc (.inl (by simp)) (by simp) ?_
  rw [fedBytes_append, ← h.balance]
  simp [returnedBytes, fedBytes]

end Buffered

end PxManager.Core
