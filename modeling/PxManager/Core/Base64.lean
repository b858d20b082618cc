import PxManager.Core.Text

/-!
# PxManager.Core.Base64

`base64.urlsafe_b64decode`, which skips what is not in its alphabet, and the unpadded text of bytes.

Both go through sextets, the values of the characters: reading finds the sextets that come before
the padding, and packing makes bytes of them. So the number of bytes and the first of them are read
off the characters.
-/

namespace PxManager.Core

/-- The characters of the URL-safe alphabet, in the order of their values. -/
def base64Alphabet : List Char :=
  "ABCDEFGHIJKLMNOPQRSTUVWXYZabcdefghijklmnopqrstuvwxyz0123456789-_".toList

/-- The value of a byte as a character of the alphabet. The two characters that the URL-safe
alphabet replaces are read as well. -/
def base64Value? (b : UInt8) : Option Nat :=
  let n := b.toNat
  if 0x41 ≤ n ∧ n ≤ 0x5a then some (n - 0x41)
  else if 0x61 ≤ n ∧ n ≤ 0x7a then some (n - 0x61 + 26)
  else if 0x30 ≤ n ∧ n ≤ 0x39 then some (n - 0x30 + 52)
  else if n = 0x2d ∨ n = 0x2b then some 62
  else if n = 0x5f ∨ n = 0x2f then some 63
  else none

/-- The sextets before the end of the data, and whether padding has ended them. `quad` of the
current group of four have been read, and `pads` signs of padding after them. Padding ends the data
only where it completes a group, and other bytes are skipped. -/
def readSextets (quad pads : Nat) : List UInt8 → List Nat × Bool
  | [] => ([], false)
  | b :: rest =>
      if b = 0x3d then
        if 2 ≤ quad then
          if 4 ≤ quad + (pads + 1) then ([], true) else readSextets quad (pads + 1) rest
        else readSextets quad pads rest
      else
        match base64Value? b with
        | none => readSextets quad pads rest
        | some value =>
            let (values, ended) := readSextets ((quad + 1) % 4) 0 rest
            (value :: values, ended)

/-- The bytes of sextets. The bits that are left over are dropped. -/
def packSextets : List Nat → List UInt8
  | a :: b :: c :: d :: rest =>
      UInt8.ofNat (a * 4 + b / 16) :: UInt8.ofNat (b % 16 * 16 + c / 4) ::
        UInt8.ofNat (c % 4 * 64 + d) :: packSextets rest
  | [a, b, c] => [UInt8.ofNat (a * 4 + b / 16), UInt8.ofNat (b % 16 * 16 + c / 4)]
  | [a, b] => [UInt8.ofNat (a * 4 + b / 16)]
  | _ => []

/-- `base64.urlsafe_b64decode(data)`. `none` is `binascii.Error`: the last group is not complete. -/
def urlsafeB64decode (data : List UInt8) : Option (List UInt8) :=
  let (values, ended) := readSextets 0 0 data
  if values.length % 4 = 0 ∨ ended then some (packSextets values) else none

/-- The sextets of bytes, with zeros for the bits that are missing. -/
def sextets : List UInt8 → List Nat
  | a :: b :: c :: data =>
      a.toNat / 4 :: (a.toNat % 4 * 16 + b.toNat / 16) :: (b.toNat % 16 * 4 + c.toNat / 64) ::
        c.toNat % 64 :: sextets data
  | [a, b] => [a.toNat / 4, a.toNat % 4 * 16 + b.toNat / 16, b.toNat % 16 * 4]
  | [a] => [a.toNat / 4, a.toNat % 4 * 16]
  | [] => []

/-- A character of the alphabet. -/
def base64Char (n : Nat) : Char := base64Alphabet.getD n 'A'

/-- `base64.urlsafe_b64encode(data)` without the padding. -/
def urlsafeB64 (data : List UInt8) : Text := (sextets data).map base64Char

/-- The padding of a text of `n` characters: `"=" * (-n % 4)`. -/
def base64Padding (n : Nat) : Text := List.replicate (-(n : ℤ) % 4).toNat '='

/-- `base64.b64encode(data)`: the alphabet has a plus sign and a slash, and there is padding. -/
def b64encode (data : List UInt8) : Text :=
  let digits := (urlsafeB64 data).map fun c => if c = '-' then '+' else if c = '_' then '/' else c
  digits ++ base64Padding digits.length

/-! ### Sextets -/

theorem lt_of_mem_sextets {data : List UInt8} {n : Nat} (h : n ∈ sextets data) : n < 64 := by
  fun_induction sextets data with
  | case1 a b c data ih =>
      have ha := a.toNat_lt
      have hb := b.toNat_lt
      have hc := c.toNat_lt
      simp only [List.mem_cons] at h
      rcases h with rfl | rfl | rfl | rfl | h
      · omega
      · omega
      · omega
      · omega
      · exact ih h
  | case2 a b =>
      have ha := a.toNat_lt
      have hb := b.toNat_lt
      simp only [List.mem_cons, List.not_mem_nil, or_false] at h
      omega
  | case3 a =>
      have ha := a.toNat_lt
      simp only [List.mem_cons, List.not_mem_nil, or_false] at h
      omega
  | case4 => cases h

theorem ofNat_eq {n : Nat} {b : UInt8} (h : n = b.toNat) : UInt8.ofNat n = b := by
  rw [h, UInt8.ofNat_toNat]

theorem packSextets_sextets (data : List UInt8) : packSextets (sextets data) = data := by
  fun_induction sextets data with
  | case1 a b c data ih =>
      have ha := a.toNat_lt
      have hb := b.toNat_lt
      have hc := c.toNat_lt
      rw [packSextets, ih, @ofNat_eq _ a (by omega), @ofNat_eq _ b (by omega),
        @ofNat_eq _ c (by omega)]
  | case2 a b =>
      have ha := a.toNat_lt
      have hb := b.toNat_lt
      rw [packSextets, @ofNat_eq _ a (by omega), @ofNat_eq _ b (by omega)]
  | case3 a =>
      have ha := a.toNat_lt
      rw [packSextets, @ofNat_eq _ a (by omega)]
  | case4 => rfl

theorem length_packSextets (values : List Nat) :
    (packSextets values).length = 3 * values.length / 4 := by
  fun_induction packSextets values with
  | case1 a b c d rest ih =>
      simp only [List.length_cons, ih]
      omega
  | case2 a b c => simp
  | case3 a b => simp
  | case4 values h4 h3 h2 =>
      match values, h4, h3, h2 with
      | [], _, _, _ => rfl
      | [a], _, _, _ => simp
      | [a, b], _, _, h2 => exact absurd rfl (h2 a b)
      | [a, b, c], _, h3, _ => exact absurd rfl (h3 a b c)
      | a :: b :: c :: d :: rest, h4, _, _ => exact absurd rfl (h4 a b c d rest)

theorem head?_packSextets (a b : Nat) (rest : List Nat) :
    (packSextets (a :: b :: rest)).head? = some (UInt8.ofNat (a * 4 + b / 16)) := by
  match rest with
  | [] => rfl
  | [c] => rfl
  | c :: d :: rest => rfl

/-! ### Characters -/

theorem base64Char_spec {n : Nat} (h : n < 64) :
    isAscii (base64Char n) = true ∧
      base64Value? (UInt8.ofNat (base64Char n).toNat) = some n := by
  have hall : ∀ n < 64, isAscii (base64Char n) = true ∧
      base64Value? (UInt8.ofNat (base64Char n).toNat) = some n := by decide +kernel
  exact hall n h

/-- A byte of the alphabet is read. -/
theorem readSextets_cons {b : UInt8} {value : Nat} (h : base64Value? b = some value)
    (quad pads : Nat) (rest : List UInt8) :
    readSextets quad pads (b :: rest) =
      (value :: (readSextets ((quad + 1) % 4) 0 rest).1,
        (readSextets ((quad + 1) % 4) 0 rest).2) := by
  have hpad : b ≠ 0x3d := by
    intro heq
    rw [heq] at h
    cases h
  rw [readSextets, if_neg hpad, h]

/-- Bytes of the alphabet are all read. -/
theorem length_readSextets {data : List UInt8} (h : ∀ b ∈ data, (base64Value? b).isSome)
    (quad pads : Nat) : (readSextets quad pads data).1.length = data.length := by
  induction data generalizing quad pads with
  | nil => rfl
  | cons b data ih =>
      obtain ⟨hb, hdata⟩ := List.forall_mem_cons.mp h
      obtain ⟨value, hvalue⟩ := Option.isSome_iff_exists.mp hb
      rw [readSextets_cons hvalue, List.length_cons, List.length_cons, ih hdata]

theorem lt_of_base64Value? {b : UInt8} {n : Nat} (h : base64Value? b = some n) : n < 64 := by
  have hall : ∀ m < 256, ∀ n ∈ base64Value? (UInt8.ofNat m), n < 64 := by decide +kernel
  have hb := hall b.toNat b.toNat_lt n
  rw [UInt8.ofNat_toNat] at hb
  exact hb h

theorem lt_of_mem_readSextets {data : List UInt8} {quad pads n : Nat}
    (h : n ∈ (readSextets quad pads data).1) : n < 64 := by
  induction data generalizing quad pads with
  | nil => cases h
  | cons b data ih =>
      cases hvalue : base64Value? b with
      | some value =>
          rw [readSextets_cons hvalue, List.mem_cons] at h
          rcases h with rfl | h
          · exact lt_of_base64Value? hvalue
          · exact ih h
      | none =>
          rw [readSextets, hvalue] at h
          split at h
          · split at h
            · split at h
              · cases h
              · exact ih h
            · exact ih h
          · exact ih h

/-- The bytes that are decoded are those of the sextets that are read. -/
theorem eq_packSextets_of_urlsafeB64decode {data out : List UInt8}
    (h : urlsafeB64decode data = some out) : out = packSextets (readSextets 0 0 data).1 := by
  simp only [urlsafeB64decode] at h
  split at h
  · exact (Option.some.inj h).symm
  · cases h

/-- The bytes of sextets. -/
theorem readSextets_map {values : List Nat} (hvalues : ∀ n ∈ values, n < 64) {quad : Nat}
    (hquad : quad < 4) (tail : List UInt8) :
    readSextets quad 0 (values.map (fun n => UInt8.ofNat (base64Char n).toNat) ++ tail) =
      (values ++ (readSextets ((quad + values.length) % 4) 0 tail).1,
        (readSextets ((quad + values.length) % 4) 0 tail).2) := by
  induction values generalizing quad with
  | nil => simp [Nat.mod_eq_of_lt hquad]
  | cons n values ih =>
      obtain ⟨hn, hrest⟩ := List.forall_mem_cons.mp hvalues
      have hlength : ((quad + 1) % 4 + values.length) % 4 = (quad + (values.length + 1)) % 4 := by
        omega
      rw [List.map_cons, List.cons_append, readSextets_cons (base64Char_spec hn).2,
        ih hrest (Nat.mod_lt _ (by decide)), List.length_cons, hlength]
      rfl

/-- The padding of a text ends the data. -/
theorem readSextets_padding {n : Nat} (h : n % 4 ≠ 1) :
    readSextets (n % 4) 0 (encodeUtf8 (base64Padding n)) = ([], decide (n % 4 ≠ 0)) := by
  have hcases : n % 4 = 0 ∨ n % 4 = 2 ∨ n % 4 = 3 := by omega
  unfold base64Padding
  rcases hcases with hmod | hmod | hmod
  · rw [hmod, show (-(n : ℤ) % 4).toNat = 0 by omega]
    rfl
  · rw [hmod, show (-(n : ℤ) % 4).toNat = 2 by omega]
    rfl
  · rw [hmod, show (-(n : ℤ) % 4).toNat = 1 by omega]
    rfl

theorem length_sextets (data : List UInt8) : (sextets data).length % 4 ≠ 1 := by
  fun_induction sextets data with
  | case1 a b c data ih =>
      simp only [List.length_cons]
      omega
  | case2 a b => simp
  | case3 a => simp
  | case4 => simp

theorem isAscii_of_mem_urlsafeB64 {data : List UInt8} {c : Char} (h : c ∈ urlsafeB64 data) :
    isAscii c = true := by
  obtain ⟨n, hn, rfl⟩ := List.mem_map.mp h
  exact (base64Char_spec (lt_of_mem_sextets hn)).1

/-- The padded text of bytes is decoded to them. -/
theorem urlsafeB64decode_urlsafeB64 (data : List UInt8) :
    urlsafeB64decode (encodeUtf8 (urlsafeB64 data ++ base64Padding (urlsafeB64 data).length)) =
      some data := by
  have hlength : (urlsafeB64 data).length = (sextets data).length := List.length_map ..
  have hbytes : encodeUtf8 (urlsafeB64 data) =
      (sextets data).map fun n => UInt8.ofNat (base64Char n).toNat := by
    rw [encodeUtf8_of_ascii fun c => isAscii_of_mem_urlsafeB64, urlsafeB64, List.map_map]
    rfl
  have hread := readSextets_map (fun n => @lt_of_mem_sextets data n) (by decide : 0 < 4)
    (encodeUtf8 (base64Padding (sextets data).length))
  rw [Nat.zero_add, readSextets_padding (length_sextets data), List.append_nil] at hread
  rw [hlength, encodeUtf8_append, hbytes, urlsafeB64decode, hread]
  simp only [packSextets_sextets, decide_eq_true_eq]
  rw [if_pos (by omega)]

end PxManager.Core
