import PxManager.Core.Python

/-!
# PxManager.Core.Hex

`bytes.hex` and `bytes.fromhex`, which reads both cases and skips ASCII whitespace between bytes.
-/

namespace PxManager.Core

/-- `data.hex()`, with the digits of one case. -/
def hexText (digit : Nat → Char) (data : List UInt8) : Text :=
  data.flatMap fun b => [digit (b.toNat / 16), digit (b.toNat % 16)]

/-- `data.hex()`. -/
def hexLower (data : List UInt8) : Text := hexText lowerHexDigit data

/-- `data.hex().upper()`. -/
def hexUpper (data : List UInt8) : Text := hexText upperHexDigit data

/-- The value of a hexadecimal digit in either case. -/
def hexDigit? (c : Char) : Option Nat :=
  let n := c.toNat
  if 0x30 ≤ n ∧ n ≤ 0x39 then some (n - 0x30)
  else if 0x61 ≤ n ∧ n ≤ 0x66 then some (n - 0x61 + 10)
  else if 0x41 ≤ n ∧ n ≤ 0x46 then some (n - 0x41 + 10)
  else none

/-- ASCII whitespace. -/
def isAsciiSpace (c : Char) : Bool := (0x09 ≤ c.toNat ∧ c.toNat ≤ 0x0d) || c.toNat = 0x20

/-- `bytes.fromhex(text)`. `none` is `ValueError`. -/
def fromhex : Text → Option (List UInt8)
  | [] => some []
  | [c] => if isAsciiSpace c then some [] else none
  | c :: d :: text =>
      if isAsciiSpace c then fromhex (d :: text)
      else do
        let high ← hexDigit? c
        let low ← hexDigit? d
        let data ← fromhex text
        return UInt8.ofNat (16 * high + low) :: data

/-! ### Reading back -/

/-- The digits of one case. -/
def IsHexDigits (digit : Nat → Char) : Prop :=
  ∀ n < 16, hexDigit? (digit n) = some n ∧ isAsciiSpace (digit n) = false

theorem isHexDigits_lower : IsHexDigits lowerHexDigit := by
  unfold IsHexDigits
  decide

theorem isHexDigits_upper : IsHexDigits upperHexDigit := by
  unfold IsHexDigits
  decide

theorem fromhex_hexText {digit : Nat → Char} (hdigit : IsHexDigits digit) (data : List UInt8) :
    fromhex (hexText digit data) = some data := by
  induction data with
  | nil => rfl
  | cons b data ih =>
      have hlt := b.toNat_lt
      obtain ⟨hhigh, hspace⟩ := hdigit (b.toNat / 16) (by omega)
      obtain ⟨hlow, -⟩ := hdigit (b.toNat % 16) (by omega)
      have hbyte : UInt8.ofNat (16 * (b.toNat / 16) + b.toNat % 16) = b := by
        rw [Nat.div_add_mod, UInt8.ofNat_toNat]
      have hcons : hexText digit (b :: data) =
          digit (b.toNat / 16) :: digit (b.toNat % 16) :: hexText digit data := rfl
      rw [hcons, fromhex, hspace, hhigh, hlow, ih]
      exact congrArg (fun byte => some (byte :: data)) hbyte

theorem hexLower_injective {a b : List UInt8} (h : hexLower a = hexLower b) : a = b := by
  have hread := fromhex_hexText isHexDigits_lower a
  rw [show hexText lowerHexDigit a = hexText lowerHexDigit b from h,
    fromhex_hexText isHexDigits_lower] at hread
  exact (Option.some.inj hread).symm

theorem length_hexText (digit : Nat → Char) (data : List UInt8) :
    (hexText digit data).length = 2 * data.length := by
  induction data with
  | nil => rfl
  | cons b data ih =>
      simp only [hexText, List.flatMap_cons, List.length_append, List.length_cons,
        List.length_nil] at ih ⊢
      omega

/-- A text without whitespace that can be read consists of pairs of digits. -/
theorem digits_of_fromhex {text : Text} {data : List UInt8}
    (hspace : ∀ c ∈ text, isAsciiSpace c = false) (h : fromhex text = some data) :
    text.length % 2 = 0 ∧ ∀ c ∈ text, (hexDigit? c).isSome := by
  fun_induction fromhex text generalizing data with
  | case1 => simp
  | case2 c hc => exact absurd hc (by simp [hspace c])
  | case3 c hc => cases h
  | case4 c d text hc ih => exact absurd hc (by simp [hspace c])
  | case5 c d text hc ih =>
      simp only [Option.bind_eq_bind, Option.bind_eq_some_iff] at h
      obtain ⟨high, hhigh, low, hlow, rest, hrest, -⟩ := h
      obtain ⟨heven, hdigits⟩ := ih
        (fun c hc => hspace c (List.mem_cons_of_mem _ (List.mem_cons_of_mem _ hc))) hrest
      constructor
      · simp only [List.length_cons]
        omega
      · exact List.forall_mem_cons.mpr
          ⟨by simp [hhigh], List.forall_mem_cons.mpr ⟨by simp [hlow], hdigits⟩⟩

/-! ### The digits of a text -/

/-- The values of the hexadecimal digits of a text. -/
def hexDigits (text : Text) : List Nat := text.filterMap hexDigit?

theorem lt_of_hexDigit? {c : Char} {n : Nat} (h : hexDigit? c = some n) : n < 16 := by
  simp only [hexDigit?] at h
  split at h
  · cases h
    omega
  · split at h
    · cases h
      omega
    · split at h
      · cases h
        omega
      · cases h

theorem hexDigit?_of_isAsciiSpace {c : Char} (h : isAsciiSpace c = true) : hexDigit? c = none := by
  simp only [isAsciiSpace, Bool.or_eq_true, decide_eq_true_eq] at h
  simp only [hexDigit?]
  rw [if_neg (by omega), if_neg (by omega), if_neg (by omega)]

/-- The digits of a text that can be read are those of its bytes. -/
theorem hexDigits_of_fromhex {text : Text} {data : List UInt8} (h : fromhex text = some data) :
    hexDigits text = data.flatMap fun b => [b.toNat / 16, b.toNat % 16] := by
  fun_induction fromhex text generalizing data with
  | case1 =>
      cases h
      rfl
  | case2 c hc =>
      cases h
      simp [hexDigits, hexDigit?_of_isAsciiSpace hc]
  | case3 c hc => cases h
  | case4 c d text hc ih =>
      rw [hexDigits, List.filterMap_cons_none (hexDigit?_of_isAsciiSpace hc)]
      exact ih h
  | case5 c d text hc ih =>
      simp only [Option.bind_eq_bind, Option.bind_eq_some_iff] at h
      obtain ⟨high, hhigh, low, hlow, rest, hrest, heq⟩ := h
      cases heq
      have hhigh' := lt_of_hexDigit? hhigh
      have hlow' := lt_of_hexDigit? hlow
      have hbyte : (UInt8.ofNat (16 * high + low)).toNat = 16 * high + low := by
        rw [UInt8.toNat_ofNat']
        omega
      rw [hexDigits, List.filterMap_cons_some hhigh, List.filterMap_cons_some hlow,
        List.flatMap_cons, hbyte, show (16 * high + low) / 16 = high by omega,
        show (16 * high + low) % 16 = low by omega]
      exact congrArg (fun digits => high :: low :: digits) (ih hrest)

end PxManager.Core
