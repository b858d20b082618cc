import PxManager.Core.Text

/-!
# PxManager.Core.Utf8

A UTF-8 decoder that never fails: `bytes.decode("utf-8", errors="replace")`, and the decoder of a
browser's `TextDecoder`, which keeps an unfinished character from one chunk to the next.

The decoder is a machine that reads one byte at a time. A byte that cannot continue the character
that has begun ends it with U+FFFD and is read again as a first byte, so a newline always decodes to
itself and leaves nothing unfinished behind it.

The decoder for ASCII comes first. It fails.
-/

namespace PxManager.Core

/-! ### ASCII -/

/-- `bytes.decode('ascii')`. -/
def decodeAscii (bytes : List UInt8) : Option Text :=
  if bytes.all (· < 0x80) then some (bytes.map fun b => Char.ofNat b.toNat) else none

theorem decodeAscii_of_ascii {text : Text} (h : ∀ c ∈ text, isAscii c = true) :
    decodeAscii (text.map fun c => UInt8.ofNat c.toNat) = some text := by
  have hbyte : ∀ c ∈ text, (UInt8.ofNat c.toNat).toNat = c.toNat := by
    intro c hc
    have hlt : c.toNat < 0x80 := of_decide_eq_true (h c hc)
    rw [UInt8.toNat_ofNat']
    omega
  have hall : (text.map fun c => UInt8.ofNat c.toNat).all (· < 0x80) = true := by
    rw [List.all_map, List.all_eq_true]
    intro c hc
    refine decide_eq_true (UInt8.lt_iff_toNat_lt.mpr ?_)
    rw [hbyte c hc]
    exact of_decide_eq_true (h c hc)
  rw [decodeAscii, if_pos hall, List.map_map]
  refine congrArg some ((List.map_congr_left fun c hc => ?_).trans (List.map_id text))
  rw [Function.comp_apply, hbyte c hc, Char.ofNat_toNat]
  rfl

/-! ### UTF-8 -/

/-- U+FFFD, which stands for what cannot be decoded. -/
def replacementChar : Char := Char.ofNat 0xfffd

/-- A character whose last bytes are still to come. -/
structure Unfinished where
  /-- how many bytes come after the next one -/
  remaining : Nat
  /-- the least and the greatest value of the next byte -/
  lower : Nat
  upper : Nat
  /-- the bits read so far -/
  bits : Nat
  deriving DecidableEq, Repr

/-- The first byte of a character. -/
def firstByte (b : UInt8) : Option Unfinished × Text :=
  let n := b.toNat
  if n < 0x80 then (none, [Char.ofNat n])
  else if 0xc2 ≤ n ∧ n < 0xe0 then (some ⟨0, 0x80, 0xbf, n % 0x20⟩, [])
  else if 0xe0 ≤ n ∧ n < 0xf0 then
    (some ⟨1, if n = 0xe0 then 0xa0 else 0x80, if n = 0xed then 0x9f else 0xbf, n % 0x10⟩, [])
  else if 0xf0 ≤ n ∧ n < 0xf5 then
    (some ⟨2, if n = 0xf0 then 0x90 else 0x80, if n = 0xf4 then 0x8f else 0xbf, n % 0x08⟩, [])
  else (none, [replacementChar])

/-- A byte of the range that the character admits. -/
def Unfinished.next (u : Unfinished) (b : UInt8) : Option Unfinished × Text :=
  let bits := u.bits * 0x40 + b.toNat % 0x40
  match u.remaining with
  | 0 => (none, [Char.ofNat bits])
  | remaining + 1 => (some ⟨remaining, 0x80, 0xbf, bits⟩, [])

/-- One byte: what is unfinished after it, and the characters it completes. -/
def decodeByte : Option Unfinished → UInt8 → Option Unfinished × Text
  | none, b => firstByte b
  | some u, b =>
      if u.lower ≤ b.toNat ∧ b.toNat ≤ u.upper then u.next b
      else ((firstByte b).1, replacementChar :: (firstByte b).2)

/-- The bytes of a chunk. -/
def decodeChunk : Option Unfinished → List UInt8 → Option Unfinished × Text
  | u, [] => (u, [])
  | u, b :: bytes =>
      ((decodeChunk (decodeByte u b).1 bytes).1,
        (decodeByte u b).2 ++ (decodeChunk (decodeByte u b).1 bytes).2)

/-- The end of the bytes. -/
def flush : Option Unfinished → Text
  | none => []
  | some _ => [replacementChar]

/-- `bytes.decode("utf-8", errors="replace")`. -/
def decodeReplace (bytes : List UInt8) : Text :=
  (decodeChunk none bytes).2 ++ flush (decodeChunk none bytes).1

/-! ### Chunks -/

/-- Two chunks are decoded as one. -/
theorem decodeChunk_append (u : Option Unfinished) (a b : List UInt8) :
    decodeChunk u (a ++ b) =
      ((decodeChunk (decodeChunk u a).1 b).1,
        (decodeChunk u a).2 ++ (decodeChunk (decodeChunk u a).1 b).2) := by
  induction a generalizing u with
  | nil => rfl
  | cons c a ih => simp only [List.cons_append, decodeChunk, ih, List.append_assoc]

/-- What is unfinished begins with a byte that is not ASCII. -/
theorem decodeByte_newline (u : Option Unfinished) (hu : ∀ v ∈ u, 0x80 ≤ v.lower) :
    decodeByte u 0x0a = (none, flush u ++ ['\n']) := by
  cases u with
  | none => rfl
  | some v =>
      have hlower := hu v rfl
      have hbyte : (0x0a : UInt8).toNat = 10 := rfl
      rw [decodeByte, if_neg (by omega)]
      rfl

theorem lower_of_decodeByte (u : Option Unfinished) (b : UInt8) :
    ∀ v ∈ (decodeByte u b).1, 0x80 ≤ v.lower := by
  have hfirst : ∀ v ∈ (firstByte b).1, 0x80 ≤ v.lower := by
    intro v hv
    simp only [firstByte] at hv
    split at hv
    · cases hv
    · split at hv
      · cases hv
        exact Nat.le_refl _
      · split at hv
        · cases hv
          dsimp only
          split <;> omega
        · split at hv
          · cases hv
            dsimp only
            split <;> omega
          · cases hv
  cases u with
  | none => exact hfirst
  | some w =>
      rw [decodeByte]
      split
      · intro v hv
        unfold Unfinished.next at hv
        cases hremaining : w.remaining with
        | zero =>
            rw [hremaining] at hv
            cases hv
        | succ n =>
            rw [hremaining] at hv
            cases hv
            exact Nat.le_refl _
      · exact hfirst

theorem lower_of_decodeChunk (u : Option Unfinished) (hu : ∀ v ∈ u, 0x80 ≤ v.lower)
    (bytes : List UInt8) : ∀ v ∈ (decodeChunk u bytes).1, 0x80 ≤ v.lower := by
  induction bytes generalizing u with
  | nil => exact hu
  | cons b bytes ih => exact ih _ (lower_of_decodeByte u b)

/-- Decoding splits at a newline. -/
theorem decodeReplace_append_newline (a b : List UInt8) :
    decodeReplace (a ++ 0x0a :: b) = decodeReplace a ++ '\n' :: decodeReplace b := by
  have hlower := lower_of_decodeChunk none (by simp) a
  simp only [decodeReplace, decodeChunk_append, decodeChunk, decodeByte_newline _ hlower,
    List.append_assoc, List.cons_append, List.nil_append]

/-- No newline is lost. -/
theorem count_newline_le_decodeChunk (u : Option Unfinished) (hu : ∀ v ∈ u, 0x80 ≤ v.lower)
    (bytes : List UInt8) : bytes.count 0x0a ≤ (decodeChunk u bytes).2.count '\n' := by
  induction bytes generalizing u with
  | nil => exact Nat.le_refl 0
  | cons b bytes ih =>
      have hrest := ih _ (lower_of_decodeByte u b)
      rw [decodeChunk, List.count_append]
      by_cases hb : b = 0x0a
      · subst hb
        rw [decodeByte_newline u hu] at hrest ⊢
        rw [List.count_cons_self, List.count_append, List.count_singleton_self]
        omega
      · rw [List.count_cons_of_ne hb]
        omega

theorem count_newline_le_decodeReplace (bytes : List UInt8) :
    bytes.count 0x0a ≤ (decodeReplace bytes).count '\n' := by
  rw [decodeReplace, List.count_append]
  have := count_newline_le_decodeChunk none (by simp) bytes
  omega

/-! ### Encoded texts -/

/-- A byte `10xxxxxx` goes on with the character. -/
theorem decodeByte_tail {u : Unfinished} (n : Nat) (hlower : u.lower ≤ n % 0x40 + 0x80)
    (hupper : n % 0x40 + 0x80 ≤ u.upper) :
    decodeByte (some u) (UInt8.ofNat (n % 0x40 + 0x80)) =
      match u.remaining with
      | 0 => (none, [Char.ofNat (u.bits * 0x40 + n % 0x40)])
      | remaining + 1 => (some ⟨remaining, 0x80, 0xbf, u.bits * 0x40 + n % 0x40⟩, []) := by
  have hbyte : (UInt8.ofNat (n % 0x40 + 0x80)).toNat = n % 0x40 + 0x80 := by
    rw [UInt8.toNat_ofNat']
    omega
  have hbits : (n % 0x40 + 0x80) % 0x40 = n % 0x40 := by omega
  rw [decodeByte, hbyte, if_pos ⟨hlower, hupper⟩, Unfinished.next, hbyte, hbits]

/-- The last byte of a character. -/
theorem decodeByte_last {bits n m : Nat} {lower upper : Nat} (hlower : lower ≤ n % 0x40 + 0x80)
    (hupper : n % 0x40 + 0x80 ≤ upper) (hm : bits * 0x40 + n % 0x40 = m) :
    decodeByte (some ⟨0, lower, upper, bits⟩) (UInt8.ofNat (n % 0x40 + 0x80)) =
      (none, [Char.ofNat m]) := by
  rw [decodeByte_tail n hlower hupper, ← hm]

/-- A byte inside a character. -/
theorem decodeByte_inner {remaining bits n m : Nat} {lower upper : Nat}
    (hlower : lower ≤ n % 0x40 + 0x80) (hupper : n % 0x40 + 0x80 ≤ upper)
    (hm : bits * 0x40 + n % 0x40 = m) :
    decodeByte (some ⟨remaining + 1, lower, upper, bits⟩) (UInt8.ofNat (n % 0x40 + 0x80)) =
      (some ⟨remaining, 0x80, 0xbf, m⟩, []) := by
  rw [decodeByte_tail n hlower hupper, ← hm]

/-- The bytes of a character are decoded to it. -/
theorem decodeChunk_utf8EncodeChar (c : Char) :
    decodeChunk none (String.utf8EncodeChar c) = (none, [c]) := by
  have hvalid : c.toNat < 0xd800 ∨ 0xdfff < c.toNat ∧ c.toNat < 0x110000 := c.valid
  have hofNat := Char.ofNat_toNat c
  have htoNat : c.val.toNat = c.toNat := rfl
  generalize c.toNat = n at *
  have hlast : decodeByte (some ⟨0, 0x80, 0xbf, n / 0x40⟩) (UInt8.ofNat (n % 0x40 + 0x80)) =
      (none, [Char.ofNat n]) := decodeByte_last (by omega) (by omega) (by omega)
  unfold String.utf8EncodeChar
  simp only [htoNat]
  split
  · next hone =>
      have hfirst : decodeByte none (UInt8.ofNat n) = (none, [Char.ofNat n]) := by
        rw [decodeByte, firstByte, UInt8.toNat_ofNat', Nat.mod_eq_of_lt (by omega),
          if_pos (by omega)]
      simp only [decodeChunk, hfirst, hofNat, List.append_nil]
  · split
    · next hone htwo =>
        have hfirst : decodeByte none (UInt8.ofNat (n / 0x40 % 0x20 + 0xc0)) =
            (some ⟨0, 0x80, 0xbf, n / 0x40⟩, []) := by
          rw [decodeByte, firstByte, UInt8.toNat_ofNat', Nat.mod_eq_of_lt (by omega),
            if_neg (by omega), if_pos (by omega)]
          congr
          omega
        simp only [decodeChunk, hfirst, hlast, hofNat, List.append_nil, List.nil_append]
    · split
      · next hone htwo hthree =>
          have hfirst : decodeByte none (UInt8.ofNat (n / 0x1000 % 0x10 + 0xe0)) =
              (some ⟨1, if n / 0x1000 = 0 then 0xa0 else 0x80,
                if n / 0x1000 = 0xd then 0x9f else 0xbf, n / 0x1000⟩, []) := by
            rw [decodeByte, firstByte, UInt8.toNat_ofNat', Nat.mod_eq_of_lt (by omega),
              if_neg (by omega), if_neg (by omega), if_pos (by omega)]
            congr 3 <;> grind
          have hinner : decodeByte (some ⟨1, if n / 0x1000 = 0 then 0xa0 else 0x80,
                if n / 0x1000 = 0xd then 0x9f else 0xbf, n / 0x1000⟩)
              (UInt8.ofNat (n / 0x40 % 0x40 + 0x80)) = (some ⟨0, 0x80, 0xbf, n / 0x40⟩, []) :=
            decodeByte_inner (by split <;> omega) (by split <;> omega) (by omega)
          simp only [decodeChunk, hfirst, hinner, hlast, hofNat, List.append_nil, List.nil_append]
      · next hone htwo hthree =>
          have hfirst : decodeByte none (UInt8.ofNat (n / 0x40000 % 0x08 + 0xf0)) =
              (some ⟨2, if n / 0x40000 = 0 then 0x90 else 0x80,
                if n / 0x40000 = 4 then 0x8f else 0xbf, n / 0x40000⟩, []) := by
            rw [decodeByte, firstByte, UInt8.toNat_ofNat', Nat.mod_eq_of_lt (by omega),
              if_neg (by omega), if_neg (by omega), if_neg (by omega), if_pos (by omega)]
            congr 3 <;> grind
          have hsecond : decodeByte (some ⟨2, if n / 0x40000 = 0 then 0x90 else 0x80,
                if n / 0x40000 = 4 then 0x8f else 0xbf, n / 0x40000⟩)
              (UInt8.ofNat (n / 0x1000 % 0x40 + 0x80)) = (some ⟨1, 0x80, 0xbf, n / 0x1000⟩, []) :=
            decodeByte_inner (by split <;> omega) (by split <;> omega) (by omega)
          have hthird : decodeByte (some ⟨1, 0x80, 0xbf, n / 0x1000⟩)
              (UInt8.ofNat (n / 0x40 % 0x40 + 0x80)) = (some ⟨0, 0x80, 0xbf, n / 0x40⟩, []) :=
            decodeByte_inner (by omega) (by omega) (by omega)
          simp only [decodeChunk, hfirst, hsecond, hthird, hlast, hofNat, List.append_nil,
            List.nil_append]

/-- The bytes of a text are decoded to it. -/
theorem decodeChunk_encodeUtf8 (s : Text) : decodeChunk none (encodeUtf8 s) = (none, s) := by
  induction s with
  | nil => rfl
  | cons c s ih =>
      have hcons : encodeUtf8 (c :: s) = String.utf8EncodeChar c ++ encodeUtf8 s := rfl
      rw [hcons, decodeChunk_append, decodeChunk_utf8EncodeChar, ih]
      rfl

theorem decodeReplace_encodeUtf8 (s : Text) : decodeReplace (encodeUtf8 s) = s := by
  rw [decodeReplace, decodeChunk_encodeUtf8]
  exact List.append_nil s

end PxManager.Core
