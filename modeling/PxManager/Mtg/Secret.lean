import PxManager.Core.Base64
import PxManager.Core.Hex

/-!
# PxManager.Mtg.Secret

The texts of MTProxy secrets. `get_mtproxy_secret_bytes` does not know which of the two spellings it
gets: a text that is long enough behind an `ee` or `dd` is tried as hexadecimal, and what is not is
base64.

The prefix is taken off a hexadecimal text whatever its length. So a plain secret that begins with
one of these bytes is too short behind it, and its 32 digits are read as base64.
-/

namespace PxManager.Mtg

open PxManager.Core

/-- `hex_secret`: the text behind a mark. -/
def hexSecret (secret : Text) : Text :=
  if secret.take 2 ∈ ["ee".toList, "dd".toList] then secret.drop 2 else secret

/-- `get_mtproxy_secret_bytes`. `none` is `ValueError`. -/
def getMtproxySecretBytes (secret : Text) : Option (List UInt8) :=
  let paddedSecret := secret ++ base64Padding secret.length
  if 32 ≤ (hexSecret secret).length then
    match fromhex secret with
    | some secretBytes => some secretBytes
    | none => urlsafeB64decode (encodeUtf8 paddedSecret)
  else urlsafeB64decode (encodeUtf8 paddedSecret)

/-- `normalize_mtproxy_secret`. -/
def normalizeMtproxySecret (secret : Text) : Option Text :=
  (getMtproxySecretBytes secret).map hexLower

/-- What a secret asks for. -/
inductive SecretMode
  | tlsDomain
  | randomizedIntermediate
  | tls
  | standard
  deriving DecidableEq, Repr

/-- The mode of the bytes of a secret. -/
def secretMode (secretBytes : List UInt8) : SecretMode :=
  if 17 < secretBytes.length ∧ secretBytes.head? = some 0xee then .tlsDomain
  else if secretBytes.head? = some 0xdd then .randomizedIntermediate
  else if secretBytes.head? = some 0xee then .tls
  else .standard

/-- `get_mtproxy_secret_mode`. -/
def getMtproxySecretMode (secret : Text) : Option SecretMode :=
  (getMtproxySecretBytes secret).map secretMode

/-! ### Secrets and their spellings -/

/-- The secrets of MTProxy: a key, alone or behind the byte that asks for random padding, or behind
the byte that asks for TLS and in front of a domain. -/
inductive IsSecret : List UInt8 → Prop
  | standard {key : List UInt8} (h : key.length = 16) : IsSecret key
  | randomized {key : List UInt8} (h : key.length = 16) : IsSecret (0xdd :: key)
  | fakeTls {key : List UInt8} (h : key.length = 16) (domain : List UInt8) :
      IsSecret (0xee :: key ++ domain)

/-- A hexadecimal text of a length that would be read as one. -/
def IsLongHex (text : Text) : Prop :=
  32 ≤ text.length ∧ text.length % 2 = 0 ∧ ∀ c ∈ text, (hexDigit? c).isSome

/-- Both spellings of a secret are read as the secret. -/
structure DecodesToItself (secret : List UInt8) : Prop where
  lower : getMtproxySecretBytes (hexLower secret) = some secret
  upper : getMtproxySecretBytes (hexUpper secret) = some secret
  base64 : ¬ IsLongHex (urlsafeB64 secret) →
    getMtproxySecretBytes (urlsafeB64 secret) = some secret
  sameCheck : ¬ IsLongHex (urlsafeB64 secret) →
    normalizeMtproxySecret (urlsafeB64 secret) = normalizeMtproxySecret (hexLower secret) ∧
      getMtproxySecretMode (urlsafeB64 secret) = getMtproxySecretMode (hexLower secret)

/-- A plain secret that begins with one of the two marks. -/
def BeginsWithMark (secret : List UInt8) : Prop :=
  secret.length = 16 ∧ (secret.head? = some 0xdd ∨ secret.head? = some 0xee)

/-! ### Hexadecimal texts -/

theorem length_hexSecret_le (secret : Text) : (hexSecret secret).length ≤ secret.length := by
  unfold hexSecret
  split
  · rw [List.length_drop]
    omega
  · exact Nat.le_refl _

theorem length_of_isSecret {secret : List UInt8} (h : IsSecret secret) : 16 ≤ secret.length := by
  cases h with
  | standard h => omega
  | randomized h =>
      rw [List.length_cons]
      omega
  | fakeTls h domain =>
      rw [List.length_append, List.length_cons]
      omega

/-- A hexadecimal text is read if what is left behind a mark is long enough. -/
theorem getMtproxySecretBytes_hexText {digit : Nat → Char} (hdigit : IsHexDigits digit)
    {secret : List UInt8} (hlength : 16 ≤ secret.length)
    (hmark : secret.length = 16 → (hexText digit secret).take 2 ∉ ["ee".toList, "dd".toList]) :
    getMtproxySecretBytes (hexText digit secret) = some secret := by
  have hlong : 32 ≤ (hexSecret (hexText digit secret)).length := by
    unfold hexSecret
    split
    · next hmem =>
        have hne : secret.length ≠ 16 := fun heq => hmark heq hmem
        rw [List.length_drop, length_hexText]
        omega
    · rw [length_hexText]
      omega
  rw [getMtproxySecretBytes, if_pos hlong, fromhex_hexText hdigit]

/-- The first two digits of a text are those of the first byte. -/
theorem take_two_hexText (digit : Nat → Char) {b : UInt8} {secret : List UInt8} :
    (hexText digit (b :: secret)).take 2 = [digit (b.toNat / 16), digit (b.toNat % 16)] := rfl

/-- The marks are in lower case. -/
theorem take_two_hexUpper (secret : List UInt8) :
    (hexUpper secret).take 2 ∉ ["ee".toList, "dd".toList] := by
  have hall : ∀ n < 256, [upperHexDigit (n / 16), upperHexDigit (n % 16)] ∉
      ["ee".toList, "dd".toList] := by decide +kernel
  cases secret with
  | nil => decide +kernel
  | cons b secret => exact hall b.toNat b.toNat_lt

theorem take_two_hexLower {b : UInt8} {secret : List UInt8} :
    (hexLower (b :: secret)).take 2 ∈ ["ee".toList, "dd".toList] ↔ b = 0xdd ∨ b = 0xee := by
  have hall : ∀ n < 256, [lowerHexDigit (n / 16), lowerHexDigit (n % 16)] ∈
      ["ee".toList, "dd".toList] ↔ n = 0xdd ∨ n = 0xee := by decide +kernel
  have hb := hall b.toNat b.toNat_lt
  rw [hexLower, take_two_hexText, hb]
  constructor
  · intro h
    rcases h with h | h
    · exact .inl (UInt8.toNat_inj.mp h)
    · exact .inr (UInt8.toNat_inj.mp h)
  · intro h
    rcases h with rfl | rfl
    · exact .inl rfl
    · exact .inr rfl

/-! ### Base64 texts -/

theorem isAsciiSpace_of_mem_urlsafeB64 {secret : List UInt8} {c : Char}
    (h : c ∈ urlsafeB64 secret) : isAsciiSpace c = false := by
  have hall : ∀ n < 64, isAsciiSpace (base64Char n) = false := by decide +kernel
  obtain ⟨n, hn, rfl⟩ := List.mem_map.mp h
  exact hall n (lt_of_mem_sextets hn)

/-- A base64 text is read if it could not be a hexadecimal one. -/
theorem getMtproxySecretBytes_urlsafeB64 {secret : List UInt8}
    (h : ¬ IsLongHex (urlsafeB64 secret)) :
    getMtproxySecretBytes (urlsafeB64 secret) = some secret := by
  simp only [getMtproxySecretBytes, urlsafeB64decode_urlsafeB64]
  split
  · next hlong =>
      cases hhex : fromhex (urlsafeB64 secret) with
      | none => rfl
      | some secretBytes =>
          have hdigits := digits_of_fromhex (fun c => isAsciiSpace_of_mem_urlsafeB64) hhex
          exact absurd ⟨hlong.trans (length_hexSecret_le _), hdigits⟩ h
  · rfl

/-! ### Plain secrets that begin with a mark -/

theorem base64Value?_lowerHexDigit {n : Nat} (h : n < 16) :
    (base64Value? (UInt8.ofNat (lowerHexDigit n).toNat)).isSome ∧
      isAscii (lowerHexDigit n) = true := by
  have hall : ∀ n < 16, (base64Value? (UInt8.ofNat (lowerHexDigit n).toNat)).isSome ∧
      isAscii (lowerHexDigit n) = true := by decide
  exact hall n h

/-- The 32 digits of such a secret are read as 24 bytes. -/
theorem getMtproxySecretBytes_hexLower_ne {secret : List UInt8} (h : BeginsWithMark secret) :
    getMtproxySecretBytes (hexLower secret) ≠ some secret := by
  obtain ⟨hlength, hmark⟩ := h
  have htake : (hexLower secret).take 2 ∈ ["ee".toList, "dd".toList] := by
    cases secret with
    | nil => cases hlength
    | cons b secret =>
        simp only [List.head?_cons, Option.some.injEq] at hmark
        exact take_two_hexLower.mpr hmark
  have hdigits : (hexLower secret).length = 32 := by
    rw [hexLower, length_hexText, hlength]
  have hshort : ¬ 32 ≤ (hexSecret (hexLower secret)).length := by
    rw [hexSecret, if_pos htake, List.length_drop, hdigits]
    decide
  have hpadding : base64Padding 32 = [] := by decide
  have hdigit : ∀ c ∈ hexLower secret,
      (base64Value? (UInt8.ofNat c.toNat)).isSome ∧ isAscii c = true := by
    intro c hc
    obtain ⟨b, -, hc⟩ := List.mem_flatMap.mp hc
    have hlt := b.toNat_lt
    rcases List.mem_pair.mp hc with rfl | rfl
    · exact base64Value?_lowerHexDigit (by omega)
    · exact base64Value?_lowerHexDigit (by omega)
  have hbytes := encodeUtf8_of_ascii fun c hc => (hdigit c hc).2
  intro hdecode
  rw [getMtproxySecretBytes, if_neg hshort, hdigits, hpadding, List.append_nil,
    hbytes] at hdecode
  have hvalues : ∀ b ∈ (hexLower secret).map (fun c => UInt8.ofNat c.toNat),
      (base64Value? b).isSome := by
    intro b hb
    obtain ⟨c, hc, rfl⟩ := List.mem_map.mp hb
    exact (hdigit c hc).1
  have hout := congrArg List.length (eq_packSextets_of_urlsafeB64decode hdecode)
  rw [length_packSextets, length_readSextets hvalues, List.length_map, hdigits, hlength] at hout
  exact absurd hout (by decide)

/-! ### Both spellings -/

/-- Both spellings of a secret are read as the secret, unless it is a plain one that begins with a
mark. -/
theorem decodesToItself_iff {secret : List UInt8} (h : IsSecret secret) :
    DecodesToItself secret ↔ ¬ BeginsWithMark secret := by
  constructor
  · intro hdecodes hmark
    exact getMtproxySecretBytes_hexLower_ne hmark hdecodes.lower
  · intro hmark
    have hlength := length_of_isSecret h
    have hlower : getMtproxySecretBytes (hexLower secret) = some secret := by
      refine getMtproxySecretBytes_hexText isHexDigits_lower hlength ?_
      intro hsixteen hmem
      cases secret with
      | nil => cases hsixteen
      | cons b secret =>
          exact hmark ⟨hsixteen, by simpa using take_two_hexLower.mp hmem⟩
    refine
      { lower := hlower
        upper := getMtproxySecretBytes_hexText isHexDigits_upper hlength
          fun _ => take_two_hexUpper secret
        base64 := getMtproxySecretBytes_urlsafeB64
        sameCheck := ?_ }
    intro hhex
    rw [normalizeMtproxySecret, normalizeMtproxySecret, getMtproxySecretMode, getMtproxySecretMode,
      hlower, getMtproxySecretBytes_urlsafeB64 hhex]
    exact ⟨rfl, rfl⟩

/-- A secret with random padding is not one of these. -/
theorem decodesToItself_randomized : DecodesToItself (0xdd :: List.replicate 16 0xdd) :=
  (decodesToItself_iff (.randomized rfl)).mpr fun hmark => absurd hmark.1 (by decide)

/-- A plain secret that begins with `0xdd`. -/
theorem not_decodesToItself_plain :
    ¬ ∀ secret, IsSecret secret → DecodesToItself secret := by
  intro hall
  have hsecret : IsSecret (0xdd :: List.replicate 15 0x00) := .standard rfl
  exact getMtproxySecretBytes_hexLower_ne ⟨rfl, .inl rfl⟩ (hall _ hsecret).lower

end PxManager.Mtg
