import PxManager.Telegram.ProxyLinks

/-!
# PxManager.Telegram.Usable

Which of the links that the parser accepts the health checks can use. A port has to be a plain
number, and a secret one of the three that MTProxy knows.
-/

namespace PxManager.Telegram

open PxManager.Core PxManager.Login PxManager.Mtg

/-! ### Usable links -/

/-- A domain that `make_client_hello` accepts. -/
def isFakeTlsDomain (tail : List UInt8) : Bool :=
  match decodeAscii tail with
  | none => false
  | some domain => domain ≠ [] && domain.length ≤ 253 && !domain.any isSpace

/-- A secret that the checks can use. -/
def UsableSecret (secret : List UInt8) : Prop :=
  secret.length = 16 ∨ (secret.length = 17 ∧ secret.head? = some 0xdd) ∨
    (17 ≤ secret.length ∧ secret.head? = some 0xee ∧
      (17 < secret.length → isFakeTlsDomain (secret.drop 17) = true))

/-- The port as the link spells it. -/
def portText (line : Text) : Text := getSingleQueryValue (parseQsl (urlQuery line)) "port"

/-- The secret as the link spells it. -/
def secretText (line : Text) : Text := getSingleQueryValue (parseQsl (urlQuery line)) "secret"

/-- What the checks rely on in a row that a line makes. -/
structure UsableLink (checkNetloc : Text → Bool) (line : Text) (hostData : TgProxyHost) : Prop where
  digits : portText line ≠ [] ∧ ∀ c ∈ portText line, c.isDigit = true
  port : hostData.port = Nat.ofDigitChars 10 (portText line) 0
  range : 1 ≤ hostData.port ∧ hostData.port ≤ 65535
  secret : IsTgLink checkNetloc "proxy" line →
    ∃ secretBytes, getMtproxySecretBytes hostData.secret = some secretBytes ∧
      UsableSecret secretBytes

/-! ### How links spell them -/

/-- A number without a sign, underscores and digits outside ASCII. -/
def PlainNumber (text : Text) : Prop := '+' ∉ text ∧ '_' ∉ text ∧ ∀ c ∈ text, isAscii c = true

/-- The values of the base64 characters before the padding. -/
def base64Digits (text : Text) : List Nat :=
  (readSextets 0 0 (encodeUtf8 (text ++ base64Padding text.length))).1

/-- A text that is read as hexadecimal. -/
def IsHexText (text : Text) : Prop :=
  32 ≤ (hexSecret text).length ∧ (fromhex text).isSome = true

/-- 32 hexadecimal digits, or 34 that begin with `dd` or `ee`, or more that begin with `ee` and go
on with a domain. -/
def SpellsInHex (text : Text) : Prop :=
  (hexDigits text).length = 32 ∨
    ((hexDigits text).length = 34 ∧ (hexDigits text).take 2 ∈ [[13, 13], [14, 14]]) ∨
    (34 < (hexDigits text).length ∧ (hexDigits text).take 2 = [14, 14] ∧
      (fromhex text).any fun secret => isFakeTlsDomain (secret.drop 17))

/-- 22 base64 characters, or 23 of which the first two begin with the byte `0xdd` or `0xee`, or more
that begin with `0xee` and go on with a domain. -/
def SpellsInBase64 (text : Text) : Prop :=
  (base64Digits text).length = 22 ∨
    ((base64Digits text).length = 23 ∧ ∃ a b, (base64Digits text).take 2 = [a, b] ∧
      (a = 55 ∧ b / 16 = 1 ∨ a = 59 ∧ b / 16 = 2)) ∨
    (23 < (base64Digits text).length ∧
      (∃ a b, (base64Digits text).take 2 = [a, b] ∧ a = 59 ∧ b / 16 = 2) ∧
      isFakeTlsDomain ((packSextets (base64Digits text)).drop 17) = true)

/-- A text of the size and with the first digits of a secret. -/
def SpellsSecret (text : Text) : Prop :=
  (IsHexText text ∧ SpellsInHex text) ∨ (¬ IsHexText text ∧ SpellsInBase64 text)

/-! ### Ports -/

section Port

variable {py : Builtins}

theorem digits_of_plain {text : Text} (hunderscore : '_' ∉ text)
    (hascii : ∀ c ∈ text, isAscii c = true) {value n : Nat} {afterDigit : Bool}
    (h : py.digits value afterDigit text = some n) :
    (∀ c ∈ text, c.isDigit = true) ∧ n = Nat.ofDigitChars 10 text value := by
  induction text generalizing value afterDigit with
  | nil =>
      cases afterDigit with
      | false => cases h
      | true =>
          cases h
          exact ⟨by simp, rfl⟩
  | cons c text ih =>
      rw [List.mem_cons, not_or] at hunderscore
      obtain ⟨hc, htext⟩ := List.forall_mem_cons.mp hascii
      rw [Builtins.digits, if_neg (Ne.symm hunderscore.1), Builtins.digitValue] at h
      cases hdigit : c.isDigit with
      | false => simp [hdigit, hc] at h
      | true =>
          rw [hdigit, if_pos rfl] at h
          obtain ⟨hdigits, hn⟩ := ih hunderscore.2 htext h
          exact ⟨List.forall_mem_cons.mpr ⟨hdigit, hdigits⟩, hn⟩

theorem isDigit_ne {c : Char} (h : c.isDigit = true) : c ≠ '+' ∧ c ≠ '_' ∧ isAscii c = true := by
  have hbounds : 48 ≤ c.toNat ∧ c.toNat ≤ 57 := by
    rw [Char.isDigit, Bool.and_eq_true, decide_eq_true_eq, decide_eq_true_eq] at h
    exact ⟨UInt32.le_iff_toNat_le.mp h.1, UInt32.le_iff_toNat_le.mp h.2⟩
  refine ⟨?_, ?_, decide_eq_true (by omega)⟩
  · intro heq
    exact absurd (heq ▸ h) (by decide)
  · intro heq
    exact absurd (heq ▸ h) (by decide)

/-- A port is spelled in ASCII digits if it has no sign, no underscores and no other digits. -/
theorem plainNumber_iff {text : Text} (htrimmed : strip text = text) {port : ℤ}
    (hparse : py.parseInt text = some port) (hport : 1 ≤ port) :
    ((text ≠ [] ∧ ∀ c ∈ text, c.isDigit = true) ∧ port = Nat.ofDigitChars 10 text 0) ↔
      PlainNumber text := by
  constructor
  · intro ⟨⟨_, hdigits⟩, _⟩
    exact ⟨fun hmem => (isDigit_ne (hdigits _ hmem)).1 rfl,
      fun hmem => (isDigit_ne (hdigits _ hmem)).2.1 rfl,
      fun c hc => (isDigit_ne (hdigits c hc)).2.2⟩
  · intro ⟨hplus, hunderscore, hascii⟩
    rw [Builtins.parseInt, htrimmed] at hparse
    split at hparse
    · next rest =>
        -- a minus sign makes a port that is not positive
        cases hn : py.natural rest with
        | none => simp [hn] at hparse
        | some n =>
            simp [hn] at hparse
            omega
    · next rest => exact absurd List.mem_cons_self hplus
    · next rest hminus hplus' =>
        cases hn : py.natural text with
        | none => simp [hn] at hparse
        | some n =>
            have hread : py.digits 0 false text = some n := by
              unfold Builtins.natural at hn
              split at hn
              · cases hn
              · exact hn
            obtain ⟨hdigits, hvalue⟩ := digits_of_plain hunderscore hascii hread
            have hport' : (n : ℤ) = port := by simpa [hn] using hparse
            refine ⟨⟨?_, hdigits⟩, by rw [← hport', hvalue]⟩
            intro hnil
            rw [hnil] at hread
            cases hread

end Port

/-! ### Secrets -/

theorem usableSecret_iff_hex {text : Text} {secret : List UInt8}
    (h : fromhex text = some secret) : UsableSecret secret ↔ SpellsInHex text := by
  have hdigits := hexDigits_of_fromhex h
  have hlength : (hexDigits text).length = 2 * secret.length := by
    rw [hdigits, List.length_flatMap]
    simp [Nat.mul_comm]
  have hfirst : ∀ n < 16, (hexDigits text).take 2 = [n, n] ↔
      secret.head? = some (UInt8.ofNat (17 * n)) := by
    intro n hn
    rw [hdigits]
    cases secret with
    | nil => simp
    | cons b secret =>
        have hb := b.toNat_lt
        have hnat : (UInt8.ofNat (17 * n)).toNat = 17 * n := by
          rw [UInt8.toNat_ofNat']
          omega
        simp only [List.flatMap_cons, List.cons_append, List.nil_append, List.take_succ_cons,
          List.take_zero, List.cons.injEq, and_true, List.head?_cons, Option.some.injEq,
          ← UInt8.toNat_inj, hnat]
        omega
  simp only [UsableSecret, SpellsInHex, h, List.mem_pair, hfirst 13 (by decide),
    hfirst 14 (by decide), hlength, Option.any_some]
  by_cases hd : secret.head? = some 0xdd <;> by_cases he : secret.head? = some 0xee <;> grind

/-- The first byte of what sextets are packed to, on the first two of them. -/
theorem take_two_iff_head?_packSextets {digits : List Nat} (hvalues : ∀ v ∈ digits, v < 64)
    {n : Nat} (hn : n < 256) :
    (∃ a b, digits.take 2 = [a, b] ∧ a = n / 4 ∧ b / 16 = n % 4) ↔
      (packSextets digits).head? = some (UInt8.ofNat n) := by
  rcases digits with _ | ⟨a, _ | ⟨b, rest⟩⟩
  · simp [packSextets]
  · simp [packSextets]
  · have ha := hvalues a (by simp)
    have hb := hvalues b (by simp)
    have hnat : (UInt8.ofNat (a * 4 + b / 16)).toNat = a * 4 + b / 16 := by
      rw [UInt8.toNat_ofNat']
      omega
    have hn' : (UInt8.ofNat n).toNat = n := by
      rw [UInt8.toNat_ofNat']
      omega
    simp only [head?_packSextets, Option.some.injEq, ← UInt8.toNat_inj, hnat, hn',
      List.take_succ_cons, List.take_zero, List.cons.injEq, and_true]
    constructor
    · rintro ⟨a', b', ⟨ha', hb'⟩, han, hbn⟩
      omega
    · intro heq
      exact ⟨a, b, ⟨rfl, rfl⟩, by omega, by omega⟩

theorem usableSecret_iff_base64 {text : Text} {secret : List UInt8}
    (h : urlsafeB64decode (encodeUtf8 (text ++ base64Padding text.length)) = some secret) :
    UsableSecret secret ↔ SpellsInBase64 text := by
  have hpack : secret = packSextets (base64Digits text) := eq_packSextets_of_urlsafeB64decode h
  have hlength := length_packSextets (base64Digits text)
  have hvalues : ∀ v ∈ base64Digits text, v < 64 := fun v => lt_of_mem_readSextets
  have hdd := take_two_iff_head?_packSextets hvalues (show 0xdd < 256 by decide)
  have hee := take_two_iff_head?_packSextets hvalues (show 0xee < 256 by decide)
  simp only [Nat.reduceDiv, Nat.reduceMod] at hdd hee
  simp only [UsableSecret, SpellsInBase64, and_or_left, exists_or, hdd, hee, hpack, hlength]
  by_cases hd : (packSextets (base64Digits text)).head? = some 0xdd <;>
    by_cases he : (packSextets (base64Digits text)).head? = some 0xee <;> grind

/-- A secret that is decoded is usable if its text has the size and the first byte of one. -/
theorem usableSecret_iff {text : Text} {secret : List UInt8}
    (h : getMtproxySecretBytes text = some secret) : UsableSecret secret ↔ SpellsSecret text := by
  unfold getMtproxySecretBytes at h
  unfold SpellsSecret
  by_cases hhex : IsHexText text
  · obtain ⟨secret', hsecret⟩ := Option.isSome_iff_exists.mp hhex.2
    rw [if_pos hhex.1, hsecret] at h
    cases h
    simp only [hhex, true_and, not_true_eq_false, false_and, or_false]
    exact usableSecret_iff_hex hsecret
  · have hdecode : urlsafeB64decode (encodeUtf8 (text ++ base64Padding text.length)) =
        some secret := by
      split at h
      · next hlong =>
          have hnone : fromhex text = none := by
            rw [← Option.not_isSome_iff_eq_none]
            exact fun hsome => hhex ⟨hlong, hsome⟩
          rwa [hnone] at h
      · exact h
    simp only [hhex, false_and, not_false_eq_true, true_and, false_or]
    exact usableSecret_iff_base64 hdecode

/-! ### Links -/

section Links

variable {py : Builtins} {checkNetloc isIpAddress : Text → Bool}

theorem strip_getSingleQueryValue (query : List (Text × Text)) (name : String) :
    strip (getSingleQueryValue query name) = getSingleQueryValue query name := by
  unfold getSingleQueryValue
  split
  · exact strip_strip _
  · rfl

theorem IsTgLink.not_proxy {line : Text} (h : IsTgLink checkNetloc "socks" line) :
    ¬ IsTgLink checkNetloc "proxy" line := by
  have hne : "proxy".toList ≠ "socks".toList := by decide
  intro hproxy
  exact hne (Prod.mk.inj (Option.some.inj (hproxy.symm.trans h))).2

/-- A link that the parser accepts is usable exactly if its port is a plain number and its secret
spells one of the three secrets. -/
theorem usableLink_iff {line : Text} {lineNumber : Nat} {hostData : TgProxyHost}
    (h : parseTgProxyHealthHost py checkNetloc isIpAddress line lineNumber = .ok hostData) :
    UsableLink checkNetloc line hostData ↔
      PlainNumber (portText line) ∧
        (IsTgLink checkNetloc "proxy" line → SpellsSecret (secretText line)) := by
  have hchecked := checked_of_parse h
  have hport : py.parseInt (portText line) = some hostData.port ∧ 1 ≤ hostData.port ∧
      hostData.port ≤ 65535 ∧ hostData.secret = secretText line := by
    rcases hchecked with ⟨-, hchecked⟩ | ⟨-, hchecked⟩
    · exact ⟨hchecked.parsed, hchecked.range.1, hchecked.range.2, hchecked.secret⟩
    · exact ⟨hchecked.parsed, hchecked.range.1, hchecked.range.2, hchecked.secret⟩
  have hdecoded : IsTgLink checkNetloc "proxy" line →
      ∃ secretBytes, getMtproxySecretBytes hostData.secret = some secretBytes := by
    intro hproxy
    rcases hchecked with ⟨-, hchecked⟩ | ⟨hsocks, -⟩
    · exact hchecked.decoded rfl
    · exact absurd hproxy hsocks.not_proxy
  obtain ⟨hparse, hpositive, hmax, hsecret⟩ := hport
  have htrimmed : strip (portText line) = portText line := strip_getSingleQueryValue _ _
  have hplain := plainNumber_iff htrimmed hparse hpositive
  constructor
  · intro husable
    refine ⟨hplain.mp ⟨husable.digits, husable.port⟩, ?_⟩
    intro hproxy
    obtain ⟨secretBytes, hbytes, hgood⟩ := husable.secret hproxy
    rw [← hsecret]
    exact (usableSecret_iff hbytes).mp hgood
  · intro ⟨hnumber, hspells⟩
    obtain ⟨hdigits, hvalue⟩ := hplain.mpr hnumber
    refine ⟨hdigits, hvalue, ⟨hpositive, hmax⟩, ?_⟩
    intro hproxy
    obtain ⟨secretBytes, hbytes⟩ := hdecoded hproxy
    refine ⟨secretBytes, hbytes, (usableSecret_iff hbytes).mpr ?_⟩
    rw [hsecret]
    exact hspells hproxy

end Links

/-- A link with a plain secret in hexadecimal. -/
def plainLink : Text :=
  "tg://proxy?server=a.example&port=443&secret=00112233445566778899aabbccddeeff".toList

theorem usableLink_plain :
    ∃ hostData, parseTgProxyHealthHost asciiBuiltins (fun _ => true) (fun _ => false) plainLink 1 =
      .ok hostData ∧ UsableLink (fun _ => true) plainLink hostData := by
  obtain ⟨hostData, h⟩ := exists_of_isOk (show (parseTgProxyHealthHost asciiBuiltins
    (fun _ => true) (fun _ => false) plainLink 1).isOk = true by decide +kernel)
  refine ⟨hostData, h, (usableLink_iff h).mpr ⟨?_, fun _ => ?_⟩⟩
  · unfold PlainNumber
    decide +kernel
  · exact .inl ⟨by unfold IsHexText; decide +kernel, .inl (by decide +kernel)⟩

/-- A link whose port is spelled with an underscore and whose secret is too short. -/
def lenientLink : Text := "tg://proxy?server=a.example&port=4_43&secret=AAAA".toList

theorem not_usableLink_lenient :
    ¬ ∀ line lineNumber hostData, parseTgProxyHealthHost asciiBuiltins (fun _ => true)
      (fun _ => false) line lineNumber = .ok hostData →
        UsableLink (fun _ => true) line hostData := by
  intro hall
  obtain ⟨hostData, h⟩ := exists_of_isOk (show (parseTgProxyHealthHost asciiBuiltins
    (fun _ => true) (fun _ => false) lenientLink 1).isOk = true by decide +kernel)
  have hdigit := (hall lenientLink 1 hostData h).digits.2 '_' (by decide +kernel)
  exact absurd hdigit (by decide)

end PxManager.Telegram
