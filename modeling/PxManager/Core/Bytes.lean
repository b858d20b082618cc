import Mathlib.Data.List.Basic
import Mathlib.Tactic.Ring

/-!
# PxManager.Core.Bytes

**Byte strings** as the network code uses them: integers in a fixed number of bytes, slices of a
given size, exact reads from a stream, and stream ciphers.

A stream that is read is modelled by all bytes that will still arrive on it. When they come does
not matter to a reader that waits for as many as it needs.
-/

namespace PxManager.Core

/-- `bytes`. -/
abbrev Bytes := List UInt8

/-! ### Integers -/

/-- The last `size` bytes of a number, the lowest first. -/
def littleBytes : Nat → Nat → Bytes
  | 0, _ => []
  | size + 1, n => UInt8.ofNat (n % 256) :: littleBytes size (n / 256)

/-- The number that bytes denote, the lowest first. -/
def fromLittle : Bytes → Nat
  | [] => 0
  | b :: bytes => b.toNat + 256 * fromLittle bytes

inductive ByteOrder
  | big
  | little
  deriving DecidableEq, Repr

/-- `n.to_bytes(size, order)`. `none` is `OverflowError`. -/
def toBytes (n size : Nat) (order : ByteOrder) : Option Bytes :=
  if n < 256 ^ size then
    match order with
    | .little => some (littleBytes size n)
    | .big => some (littleBytes size n).reverse
  else none

/-- `int.from_bytes(bytes, order)`. -/
def fromBytes (bytes : Bytes) : ByteOrder → Nat
  | .little => fromLittle bytes
  | .big => fromLittle bytes.reverse

@[simp] theorem length_littleBytes (size n : Nat) : (littleBytes size n).length = size := by
  induction size generalizing n with
  | zero => rfl
  | succ size ih => rw [littleBytes, List.length_cons, ih]

theorem fromLittle_littleBytes {size n : Nat} (h : n < 256 ^ size) :
    fromLittle (littleBytes size n) = n := by
  induction size generalizing n with
  | zero =>
      have : n = 0 := by simpa using h
      rw [this]
      rfl
  | succ size ih =>
      have hdiv : n / 256 < 256 ^ size := by
        rw [Nat.div_lt_iff_lt_mul (by decide)]
        rwa [pow_succ] at h
      have hbyte : (UInt8.ofNat (n % 256)).toNat = n % 256 := by
        rw [UInt8.toNat_ofNat']
        omega
      rw [littleBytes, fromLittle, ih hdiv, hbyte]
      omega

/-- Bytes are those of the number that they denote. -/
theorem littleBytes_fromLittle (bytes : Bytes) :
    littleBytes bytes.length (fromLittle bytes) = bytes := by
  induction bytes with
  | nil => rfl
  | cons b bytes ih =>
      have hlt : b.toNat < 256 := b.toNat_lt
      rw [List.length_cons, fromLittle, littleBytes]
      rw [show (b.toNat + 256 * fromLittle bytes) % 256 = b.toNat by omega,
        show (b.toNat + 256 * fromLittle bytes) / 256 = fromLittle bytes by omega, ih,
        UInt8.ofNat_toNat]

/-! ### Slices -/

/-- `data[offset : offset + size]` for each `offset` in `range(0, len(data), size)`. -/
def slices (size : Nat) (data : Bytes) : List Bytes :=
  if data = [] ∨ size = 0 then [] else data.take size :: slices size (data.drop size)
termination_by data.length
decreasing_by
  next h =>
    rw [not_or] at h
    have := List.length_pos_iff.mpr h.1
    rw [List.length_drop]
    omega

theorem flatten_slices {size : Nat} (hsize : 0 < size) (data : Bytes) :
    (slices size data).flatten = data := by
  fun_induction slices size data with
  | case1 data h =>
      rcases h with rfl | h
      · rfl
      · omega
  | case2 data h ih => rw [List.flatten_cons, ih, List.take_append_drop]

theorem length_of_mem_slices {size : Nat} {data slice : Bytes} (h : slice ∈ slices size data) :
    0 < slice.length ∧ slice.length ≤ size := by
  fun_induction slices size data with
  | case1 data hdata => cases h
  | case2 data hdata ih =>
      rw [not_or] at hdata
      rcases List.mem_cons.mp h with rfl | h
      · have := List.length_pos_iff.mpr hdata.1
        rw [List.length_take]
        omega
      · exact ih h

/-- `data[start : stop]`. A negative index counts from the end. -/
def slice (data : Bytes) (start stop : Int) : Bytes :=
  let index (i : Int) : Nat := (if i < 0 then i + data.length else i).toNat
  (data.take (index stop)).drop (index start)

theorem slice_of_nonneg (data : Bytes) (start size : Nat) :
    slice data start (start + size : Int) = (data.drop start).take size := by
  unfold slice
  dsimp only
  rw [if_neg (by omega), if_neg (by omega), Int.toNat_natCast,
    show ((start : Int) + size).toNat = start + size by omega, List.drop_take,
    Nat.add_sub_cancel_left]

/-! ### Streams -/

/-- `StreamReader.readexactly(size)`: the bytes, and what is still to come. `none` is
`IncompleteReadError`. -/
def readExactly (size : Nat) (stream : Bytes) : Option (Bytes × Bytes) :=
  if size ≤ stream.length then some (stream.take size, stream.drop size) else none

theorem readExactly_append (bytes stream : Bytes) :
    readExactly bytes.length (bytes ++ stream) = some (bytes, stream) := by
  rw [readExactly, if_pos (by simp), List.take_left, List.drop_left]

theorem readExactly_eq_some_iff {size : Nat} {stream bytes rest : Bytes} :
    readExactly size stream = some (bytes, rest) ↔
      bytes.length = size ∧ stream = bytes ++ rest := by
  constructor
  · intro h
    unfold readExactly at h
    split at h
    · next hle =>
        cases h
        exact ⟨by rw [List.length_take, Nat.min_eq_left hle], (List.take_append_drop ..).symm⟩
    · cases h
  · rintro ⟨rfl, rfl⟩
    exact readExactly_append bytes rest

/-- `asyncio.StreamReader`: what it holds, and the segments that will arrive before the end of the
stream. -/
structure Reader where
  buffer : Bytes
  segments : List Bytes

/-- All bytes that a reader will give. -/
def Reader.stream (self : Reader) : Bytes := self.buffer ++ self.segments.flatten

/-- A reader that waits until it holds enough bytes. -/
def readSegments (size : Nat) (buffer : Bytes) : List Bytes → Option (Bytes × Reader)
  | [] =>
      if size ≤ buffer.length then some (buffer.take size, ⟨buffer.drop size, []⟩) else none
  | segment :: segments =>
      if size ≤ buffer.length then some (buffer.take size, ⟨buffer.drop size, segment :: segments⟩)
      else readSegments size (buffer ++ segment) segments

/-- `await reader.readexactly(size)`. `none` is `IncompleteReadError`. -/
def Reader.readexactly (self : Reader) (size : Nat) : Option (Bytes × Reader) :=
  readSegments size self.buffer self.segments

theorem readSegments_map_stream (size : Nat) (buffer : Bytes) (segments : List Bytes) :
    (readSegments size buffer segments).map (fun read => (read.1, read.2.stream)) =
      readExactly size (Reader.stream ⟨buffer, segments⟩) := by
  induction segments generalizing buffer with
  | nil =>
      rw [readSegments, readExactly]
      simp only [Reader.stream, List.flatten_nil, List.append_nil]
      split <;> simp
  | cons segment segments ih =>
      rw [readSegments]
      split
      · next hle =>
          refine (readExactly_eq_some_iff.mpr ⟨?_, ?_⟩).symm
          · rw [List.length_take, Nat.min_eq_left hle]
          · rw [Reader.stream, Reader.stream, ← List.append_assoc, List.take_append_drop]
      · rw [ih]
        simp only [Reader.stream, List.flatten_cons, List.append_assoc]

/-- It does not matter in which segments the bytes arrive. -/
theorem Reader.readexactly_map_stream (self : Reader) (size : Nat) :
    (self.readexactly size).map (fun read => (read.1, read.2.stream)) =
      readExactly size self.stream :=
  readSegments_map_stream size self.buffer self.segments

/-- A cipher that goes on where it stopped: two pieces are processed as the whole would be. -/
structure StreamCipher (κ : Type) where
  process : κ → Bytes → Bytes × κ
  process_nil : ∀ key, process key [] = ([], key)
  process_append : ∀ key data data',
    process key (data ++ data') =
      ((process key data).1 ++ (process (process key data).2 data').1,
        (process (process key data).2 data').2)

/-- The data combined with the key stream from byte `n` on. -/
def xorKeystream (keystream : Nat → UInt8) : Nat → Bytes → Bytes
  | _, [] => []
  | n, b :: data => (b ^^^ keystream n) :: xorKeystream keystream (n + 1) data

theorem xorKeystream_append (keystream : Nat → UInt8) (n : Nat) (data data' : Bytes) :
    xorKeystream keystream n (data ++ data') =
      xorKeystream keystream n data ++ xorKeystream keystream (n + data.length) data' := by
  induction data generalizing n with
  | nil => rfl
  | cons b data ih =>
      rw [List.cons_append, xorKeystream, ih, xorKeystream, List.cons_append, List.length_cons,
        Nat.add_assoc, Nat.add_comm 1]

/-- Combining twice gives the data back. -/
theorem xorKeystream_xorKeystream (keystream : Nat → UInt8) (n : Nat) (data : Bytes) :
    xorKeystream keystream n (xorKeystream keystream n data) = data := by
  induction data generalizing n with
  | nil => rfl
  | cons b data ih =>
      rw [xorKeystream, xorKeystream, ih, UInt8.xor_assoc, UInt8.xor_self, UInt8.xor_zero]

/-- The cipher of a key stream, as a block cipher in counter mode has one. Its key is the number
of bytes that have been processed. -/
def keystreamCipher (keystream : Nat → UInt8) : StreamCipher Nat where
  process n data := (xorKeystream keystream n data, n + data.length)
  process_nil _ := rfl
  process_append n data data' := by
    rw [xorKeystream_append, List.length_append, Nat.add_assoc]

end PxManager.Core
