import PxManager.Core.Python
import PxManager.Core.UrlQuery

/-!
# PxManager.Core.UrlEncode

`urllib.parse.urlencode`, and the way back from quoted texts: percent-decoding gives the text again,
and parsing the query the parameters.

Each byte is decoded on its own, so what is proved of one byte holds of all texts.
-/

namespace PxManager.Core

/-! ### Encoding -/

/-- What `quote` makes of a byte. -/
def quoteByte (safe : List Char) (b : UInt8) : Text :=
  let c := Char.ofNat b.toNat
  if isAscii c && (isUnreserved c || c ∈ safe) then [c]
  else ['%', upperHexDigit (b.toNat / 16), upperHexDigit (b.toNat % 16)]

/-- `quote(text, safe)`. -/
def quoteSafe (safe : List Char) (text : Text) : Text := (encodeUtf8 text).flatMap (quoteByte safe)

/-- `quote_plus(text)`. -/
def quotePlus (text : Text) : Text :=
  (quoteSafe [' '] text).map fun c => if c = ' ' then '+' else c

/-- `urlencode(params)`. -/
def urlencode (params : List (Text × Text)) : Text :=
  List.intercalate ['&'] (params.map fun param => quotePlus param.1 ++ '=' :: quotePlus param.2)

theorem quote_eq (text : Text) : quote text = quoteSafe [] text := by
  rw [quote, quoteSafe]
  congr 1
  funext b
  simp only [quoteByte, List.not_mem_nil, decide_false, Bool.or_false]

/-! ### Bytes -/

theorem isUnreserved_upperHexDigit {n : Nat} (h : n < 16) :
    isUnreserved (upperHexDigit n) = true := by
  have hall : ∀ n : Fin 16, isUnreserved (upperHexDigit n) = true := by decide
  exact hall ⟨n, h⟩

theorem hexToByte?_upperHexDigit (b : UInt8) :
    hexToByte? (UInt8.ofNat (upperHexDigit (b.toNat / 16)).toNat)
      (UInt8.ofNat (upperHexDigit (b.toNat % 16)).toNat) = some b := by
  have hall : ∀ n : Fin 256, hexToByte? (UInt8.ofNat (upperHexDigit (n.val / 16)).toNat)
      (UInt8.ofNat (upperHexDigit (n.val % 16)).toNat) = some (UInt8.ofNat n) := by
    decide +kernel
  have hb := hall ⟨b.toNat, b.toNat_lt⟩
  rwa [UInt8.ofNat_toNat] at hb

theorem toNat_ofNat_byte (b : UInt8) : (Char.ofNat b.toNat).toNat = b.toNat := by
  have hall : ∀ n : Fin 256, (Char.ofNat n.val).toNat = n.val := by decide +kernel
  exact hall ⟨b.toNat, b.toNat_lt⟩

/-- The characters of a quoted text. -/
def IsQuoted (safe : List Char) (c : Char) : Prop :=
  c = '%' ∨ isUnreserved c = true ∨ c ∈ safe

theorem isAscii_of_isUnreserved {c : Char} (h : isUnreserved c = true) : isAscii c = true := by
  rw [isUnreserved, Bool.or_eq_true, decide_eq_true_eq] at h
  rcases h with h | h
  · have hnat : c.val.toNat ≤ 122 := by
      have hle : ∀ {d : Char}, c.val ≤ d.val → d.val.toNat ≤ 122 → c.val.toNat ≤ 122 :=
        fun hc hd => (UInt32.le_iff_toNat_le.mp hc).trans hd
      rcases Bool.or_eq_true_iff.mp h with h | h
      · rcases Bool.or_eq_true_iff.mp h with h | h
        · have hupper : c.val ≤ 'Z'.val := (of_decide_eq_true h).2
          exact hle hupper (by decide)
        · have hlower : c.val ≤ 'z'.val := of_decide_eq_true (Bool.and_eq_true_iff.mp h).2
          exact hle hlower (by decide)
      · have hdigit : c.val ≤ '9'.val := of_decide_eq_true (Bool.and_eq_true_iff.mp h).2
        exact hle hdigit (by decide)
    exact decide_eq_true (Nat.lt_of_le_of_lt hnat (by decide))
  · simp only [List.mem_cons, List.not_mem_nil, or_false] at h
    rcases h with rfl | rfl | rfl | rfl <;> decide

/-- What holds of all ASCII characters. -/
theorem forall_of_isAscii {p : Char → Prop} (h : ∀ n : Fin 128, p (Char.ofNat n)) {c : Char}
    (hc : isAscii c = true) : p c := by
  have hn := h ⟨c.toNat, of_decide_eq_true hc⟩
  rwa [Char.ofNat_toNat] at hn

theorem isSpace_of_isUnreserved {c : Char} (h : isUnreserved c = true) : isSpace c = false := by
  have hall : ∀ c, isAscii c = true → isUnreserved c = true → isSpace c = false := by
    intro c
    apply forall_of_isAscii
    decide +kernel
  exact hall c (isAscii_of_isUnreserved h) h

theorem IsQuoted.isSpace_eq_false {safe : List Char} (hsafe : ∀ c ∈ safe, isSpace c = false)
    {c : Char} (h : IsQuoted safe c) : isSpace c = false := by
  rcases h with rfl | h | h
  · rfl
  · exact isSpace_of_isUnreserved h
  · exact hsafe c h

theorem isQuoted_of_mem_quoteByte {safe : List Char} {b : UInt8} {c : Char}
    (h : c ∈ quoteByte safe b) : IsQuoted safe c := by
  unfold quoteByte at h
  dsimp only at h
  split at h
  · next hsafe =>
      rw [List.mem_singleton] at h
      rw [Bool.and_eq_true, Bool.or_eq_true, decide_eq_true_eq, ← h] at hsafe
      exact .inr hsafe.2
  · have hlow : b.toNat % 16 < 16 := Nat.mod_lt _ (by decide)
    have hhigh : b.toNat / 16 < 16 := by
      have := b.toNat_lt
      omega
    simp only [List.mem_cons, List.not_mem_nil, or_false] at h
    rcases h with rfl | rfl | rfl
    · exact .inl rfl
    · exact .inr (.inl (isUnreserved_upperHexDigit hhigh))
    · exact .inr (.inl (isUnreserved_upperHexDigit hlow))

theorem isQuoted_of_mem_quoteSafe {safe : List Char} {text : Text} {c : Char}
    (h : c ∈ quoteSafe safe text) : IsQuoted safe c := by
  obtain ⟨b, -, hc⟩ := List.mem_flatMap.mp h
  exact isQuoted_of_mem_quoteByte hc

theorem isQuoted_of_mem_quote {text : Text} {c : Char} (h : c ∈ quote text) : IsQuoted [] c := by
  rw [quote_eq] at h
  exact isQuoted_of_mem_quoteSafe h

/-- A byte other than `%` is decoded to itself. -/
theorem unquoteImpl_cons {b : UInt8} (h : b ≠ 0x25) (rest : List UInt8) :
    unquoteImpl (b :: rest) = b :: unquoteImpl rest := by
  rcases rest with _ | ⟨a, _ | ⟨a', rest⟩⟩
  · rfl
  · rfl
  · rw [unquoteImpl, if_neg h]

theorem encodeUtf8_singleton_of_ascii {c : Char} (h : isAscii c = true) :
    encodeUtf8 [c] = [UInt8.ofNat c.toNat] :=
  encodeUtf8_of_ascii (by simpa using h)

/-- What is made of a byte is decoded to the byte. -/
theorem unquoteImpl_quoteByte {safe : List Char} (hsafe : '%' ∉ safe) (b : UInt8)
    (rest : List UInt8) :
    unquoteImpl (encodeUtf8 (quoteByte safe b) ++ rest) = b :: unquoteImpl rest := by
  unfold quoteByte
  dsimp only
  split
  · next hkept =>
      rw [Bool.and_eq_true, Bool.or_eq_true, decide_eq_true_eq] at hkept
      rw [encodeUtf8_singleton_of_ascii hkept.1, toNat_ofNat_byte, UInt8.ofNat_toNat,
        List.singleton_append]
      refine unquoteImpl_cons ?_ rest
      rintro rfl
      rcases hkept.2 with hunreserved | hmem
      · exact absurd hunreserved (by decide)
      · exact hsafe hmem
  · have hlow := isAscii_of_isUnreserved
      (isUnreserved_upperHexDigit (Nat.mod_lt b.toNat (show 0 < 16 by decide)))
    have hhigh := isAscii_of_isUnreserved (isUnreserved_upperHexDigit
      (show b.toNat / 16 < 16 from Nat.div_lt_of_lt_mul b.toNat_lt))
    have hascii : ∀ c ∈ ['%', upperHexDigit (b.toNat / 16), upperHexDigit (b.toNat % 16)],
        isAscii c = true := by
      simp only [List.forall_mem_cons]
      exact ⟨rfl, hhigh, hlow, List.forall_mem_nil _⟩
    rw [encodeUtf8_of_ascii hascii, List.map_cons, List.map_cons, List.map_singleton]
    have hpercent : UInt8.ofNat '%'.toNat = 0x25 := rfl
    rw [hpercent, List.cons_append, List.cons_append, List.singleton_append, unquoteImpl,
      if_pos rfl, hexToByte?_upperHexDigit]

theorem unquoteImpl_quoteSafe {safe : List Char} (hsafe : '%' ∉ safe) (text : Text) :
    unquoteImpl (encodeUtf8 (quoteSafe safe text)) = encodeUtf8 text := by
  unfold quoteSafe
  induction encodeUtf8 text with
  | nil => rfl
  | cons b bytes ih =>
      rw [List.flatMap_cons, encodeUtf8_append, unquoteImpl_quoteByte hsafe, ih]

/-! ### Texts -/

theorem unquoteImpl_of_not_mem {bytes : List UInt8} (h : 0x25 ∉ bytes) :
    unquoteImpl bytes = bytes := by
  induction bytes with
  | nil => rfl
  | cons b bytes ih =>
      rw [List.mem_cons, not_or] at h
      rw [unquoteImpl_cons (Ne.symm h.1), ih h.2]

theorem encodeUtf8_injective {s t : Text} (h : encodeUtf8 s = encodeUtf8 t) : s = t := by
  have hdecode := congrArg decodeUtf8 h
  rw [decodeUtf8_encodeUtf8, decodeUtf8_encodeUtf8] at hdecode
  exact Option.some.inj hdecode

/-- An ASCII text is one run. -/
theorem unquoteParts_of_ascii {s : Text} (h : ∀ c ∈ s, isAscii c = true) (run : Text) :
    unquoteParts run s = unquoteRun (run ++ s) := by
  induction s generalizing run with
  | nil => rw [unquoteParts, List.append_nil]
  | cons c s ih =>
      obtain ⟨hc, hs⟩ := List.forall_mem_cons.mp h
      rw [unquoteParts, if_pos hc, ih hs, List.append_assoc, List.singleton_append]

theorem unquotePartsReplace_of_ascii {s : Text} (h : ∀ c ∈ s, isAscii c = true) (run : Text) :
    unquotePartsReplace run s = decodeReplace (unquoteImpl (encodeUtf8 (run ++ s))) := by
  induction s generalizing run with
  | nil => rw [unquotePartsReplace, List.append_nil]
  | cons c s ih =>
      obtain ⟨hc, hs⟩ := List.forall_mem_cons.mp h
      rw [unquotePartsReplace, if_pos hc, ih hs, List.append_assoc, List.singleton_append]

theorem isAscii_of_mem_quoteSafe {safe : List Char} (hascii : ∀ c ∈ safe, isAscii c = true)
    (text : Text) : ∀ c ∈ quoteSafe safe text, isAscii c = true := by
  intro c hc
  rcases isQuoted_of_mem_quoteSafe hc with rfl | hunreserved | hmem
  · rfl
  · exact isAscii_of_isUnreserved hunreserved
  · exact hascii c hmem

/-- A quoted text without escapes is the text. -/
theorem quoteSafe_eq_self {safe : List Char} (hsafe : '%' ∉ safe)
    (hascii : ∀ c ∈ safe, isAscii c = true) {text : Text} (h : '%' ∉ quoteSafe safe text) :
    quoteSafe safe text = text := by
  refine encodeUtf8_injective ?_
  rw [← unquoteImpl_quoteSafe hsafe text, unquoteImpl_of_not_mem]
  intro hmem
  rw [encodeUtf8_of_ascii (isAscii_of_mem_quoteSafe hascii text)] at hmem
  obtain ⟨c, hc, hbyte⟩ := List.mem_map.mp hmem
  have hlt : c.toNat < 0x80 := of_decide_eq_true (isAscii_of_mem_quoteSafe hascii text c hc)
  have hnat := congrArg UInt8.toNat hbyte
  rw [UInt8.toNat_ofNat'] at hnat
  have hpercent : c = '%' := by
    refine Char.ext (UInt32.toNat_inj.mp ?_)
    have hmod : c.toNat % 2 ^ 8 = c.toNat := Nat.mod_eq_of_lt (hlt.trans (by decide))
    exact hmod.symm.trans hnat
  exact h (hpercent ▸ hc)

/-- Percent-decoding inverts `quote`. -/
theorem unquote_quote (text : Text) : unquote (quote text) = some text := by
  rw [quote_eq, unquote]
  split
  · rw [unquoteParts_of_ascii (isAscii_of_mem_quoteSafe (by simp) text), List.nil_append,
      unquoteRun, unquoteImpl_quoteSafe List.not_mem_nil, decodeUtf8_encodeUtf8]
  · next h => rw [quoteSafe_eq_self List.not_mem_nil (by simp) h]

/-- Form decoding inverts `quote_plus`. -/
theorem unquotePlus_quotePlus (text : Text) : unquotePlus (quotePlus text) = text := by
  have hback : (quotePlus text).map (fun c => if c = '+' then ' ' else c) =
      quoteSafe [' '] text := by
    rw [quotePlus, List.map_map]
    refine (List.map_congr_left ?_).trans (List.map_id _)
    intro c hc
    have hplus : c ≠ '+' := by
      rintro rfl
      rcases isQuoted_of_mem_quoteSafe hc with h | h | h
      · exact absurd h (by decide)
      · exact absurd h (by decide)
      · exact absurd h (by decide)
    by_cases hspace : c = ' '
    · rw [hspace]
      rfl
    · simp [hspace, hplus]
  have hascii : ∀ c ∈ [' '], isAscii c = true := by decide
  rw [unquotePlus, hback]
  split
  · rw [unquotePartsReplace_of_ascii (isAscii_of_mem_quoteSafe hascii text), List.nil_append,
      unquoteImpl_quoteSafe (by decide), decodeReplace_encodeUtf8]
  · next h => exact quoteSafe_eq_self (by decide) hascii h

/-! ### Queries -/

/-- The characters of a parameter. -/
theorem isQuoted_of_mem_quotePlus {text : Text} {c : Char} (h : c ∈ quotePlus text) :
    IsQuoted ['+'] c := by
  obtain ⟨d, hd, rfl⟩ := List.mem_map.mp h
  split
  · exact .inr (.inr (List.mem_singleton_self _))
  · next hspace =>
      rcases isQuoted_of_mem_quoteSafe hd with hpercent | hunreserved | hmem
      · exact .inl hpercent
      · exact .inr (.inl hunreserved)
      · exact absurd (List.mem_singleton.mp hmem) hspace

theorem mem_intercalate {α : Type} {separator : List α} {xs : List (List α)} {a : α}
    (h : a ∈ separator.intercalate xs) : a ∈ separator ∨ ∃ x ∈ xs, a ∈ x := by
  induction xs with
  | nil => cases h
  | cons x xs ih =>
      cases xs with
      | nil =>
          rw [List.intercalate_singleton] at h
          exact .inr ⟨x, List.mem_cons_self, h⟩
      | cons y ys =>
          rw [List.intercalate_cons_cons, List.mem_append, List.mem_append] at h
          rcases h with (h | h) | h
          · exact .inr ⟨x, List.mem_cons_self, h⟩
          · exact .inl h
          · rcases ih h with h | ⟨z, hz, ha⟩
            · exact .inl h
            · exact .inr ⟨z, List.mem_cons_of_mem x hz, ha⟩

/-- The characters of a query. -/
theorem isQuoted_of_mem_urlencode {params : List (Text × Text)} {c : Char}
    (h : c ∈ urlencode params) : IsQuoted ['+', '=', '&'] c := by
  have hfield : ∀ {text : Text}, c ∈ quotePlus text → IsQuoted ['+', '=', '&'] c := by
    intro text hmem
    rcases isQuoted_of_mem_quotePlus hmem with h | h | h
    · exact .inl h
    · exact .inr (.inl h)
    · rw [List.mem_singleton.mp h]
      exact .inr (.inr List.mem_cons_self)
  rcases mem_intercalate h with h | ⟨field, hmem, hc⟩
  · rw [List.mem_singleton.mp h]
    exact .inr (.inr (by decide))
  · obtain ⟨param, -, rfl⟩ := List.mem_map.mp hmem
    rcases List.mem_append.mp hc with hc | hc
    · exact hfield hc
    · rcases List.mem_cons.mp hc with rfl | hc
      · exact .inr (.inr (by decide))
      · exact hfield hc

/-- Parsing an encoded query gives the parameters. -/
theorem parseQsl_urlencode (params : List (Text × Text)) :
    parseQsl (urlencode params) = params := by
  have hfield : ∀ {text : Text} {c : Char}, c = '&' ∨ c = '=' → c ∉ quotePlus text := by
    intro text c hc hmem
    rcases isQuoted_of_mem_quotePlus hmem with h | h | h
    · rcases hc with rfl | rfl <;> exact absurd h (by decide)
    · rcases hc with rfl | rfl <;> exact absurd h (by decide)
    · rcases hc with rfl | rfl <;> exact absurd h (by decide)
  rw [parseQsl]
  have hsplit : ((urlencode params).splitOn '&').filter (· ≠ []) =
      params.map fun param => quotePlus param.1 ++ '=' :: quotePlus param.2 := by
    cases params with
    | nil => rfl
    | cons param params =>
        have hplain : ∀ field ∈ (param :: params).map fun param =>
            quotePlus param.1 ++ '=' :: quotePlus param.2, '&' ∉ field := by
          intro field hmem
          obtain ⟨param, -, rfl⟩ := List.mem_map.mp hmem
          simp [hfield]
        rw [urlencode, List.splitOn_intercalate '&' hplain (by simp), List.filter_eq_self]
        intro field hmem
        obtain ⟨param, -, rfl⟩ := List.mem_map.mp hmem
        simp
  rw [hsplit, List.map_map]
  refine (List.map_congr_left ?_).trans (List.map_id _)
  intro param _
  have hname : ∀ c ∈ quotePlus param.1, (decide (c ≠ '=')) = true := by
    intro c hc
    refine decide_eq_true ?_
    rintro rfl
    exact hfield (.inr rfl) hc
  dsimp only [Function.comp_apply]
  rw [List.takeWhile_append_of_pos hname, List.dropWhile_append_of_pos hname,
    List.takeWhile_cons_of_neg (by decide), List.dropWhile_cons_of_neg (by decide),
    List.append_nil, List.drop_succ_cons, List.drop_zero, unquotePlus_quotePlus,
    unquotePlus_quotePlus]
  rfl

end PxManager.Core
