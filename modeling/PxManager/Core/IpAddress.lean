import PxManager.Core.Except
import PxManager.Core.Hex
import PxManager.Core.Netloc
import PxManager.Core.UrlEncode

/-!
# PxManager.Core.IpAddress

`ipaddress.ip_address` and `str` of an address.

An IPv6 address is written in a shorter way than it may be read: in lower case, without leading
zeros, and with `::` for a run of zeros. Whatever was read, the text of the address is read as the
same address.
-/

namespace PxManager.Core

/-- An address: an IPv4 address by its four bytes, an IPv6 address by its eight hextets. -/
inductive IpAddress
  | ipv4 (octets : List Nat)
  | ipv6 (hextets : List Nat) (scopeId : Option Text)
  deriving DecidableEq

namespace IpAddress

/-! ### Reading -/

/-- `_parse_octet`. -/
def parseOctet (octet : Text) : Option Nat :=
  if octet = [] ∨ octet.all Char.isDigit = false ∨ 3 < octet.length ∨
      (octet ≠ ['0'] ∧ octet.head? = some '0') then none
  else
    let value := Nat.ofDigitChars 10 octet 0
    if 255 < value then none else some value

/-- `IPv4Address(text)`. `none` is `AddressValueError`. -/
def parseIpv4 (text : Text) : Option (List Nat) :=
  let octets := text.splitOn '.'
  if octets.length ≠ 4 then none else octets.mapM parseOctet

/-- `int(text, 16)` of hexadecimal digits. -/
def hexValue (text : Text) : Option Nat :=
  text.foldlM (fun value c => (hexDigit? c).map fun digit => 16 * value + digit) 0

/-- `_parse_hextet`. -/
def parseHextet (hextet : Text) : Option Nat :=
  if hextet = [] ∨ 4 < hextet.length then none else hexValue hextet

/-- `'%x' % n`. -/
def hexNumber (n : Nat) : Text := Nat.toDigits 16 n

/-- An IPv4 suffix is two hextets. -/
def suffixHextets : List Nat → List Text
  | [a, b, c, d] => [hexNumber (256 * a + b), hexNumber (256 * c + d)]
  | _ => []

/-- The parts of an address, with an IPv4 suffix converted. -/
def convertSuffix (parts : List Text) : Option (List Text) :=
  match parts.getLast? with
  | some last =>
      if '.' ∈ last then (parseIpv4 last).map fun octets => parts.dropLast ++ suffixHextets octets
      else some parts
  | none => some parts

/-- The parts before `::`. An empty one has to be the only one. -/
def partsBefore (parts : List Text) : Option (List Text) :=
  if parts.head? = some [] then if parts.length = 1 then some [] else none else some parts

/-- The parts after `::`. -/
def partsAfter (parts : List Text) : Option (List Text) :=
  if parts.getLast? = some [] then if parts.length = 1 then some [] else none else some parts

/-- The hextets of the parts of an address. -/
def parseHextets (parts : List Text) : Option (List Nat) :=
  let inner := (parts.drop 1).dropLast
  if 1 < inner.count [] then none
  else
    match inner.idxOf? [] with
    | some index => do
        let high ← partsBefore (parts.take (index + 1))
        let low ← partsAfter (parts.drop (index + 2))
        if 8 ≤ high.length + low.length then none
        else do
          let high ← high.mapM parseHextet
          let low ← low.mapM parseHextet
          return high ++ List.replicate (8 - (high.length + low.length)) 0 ++ low
    | none =>
        if parts.length ≠ 8 ∨ parts.head? = some [] ∨ parts.getLast? = some [] then none
        else parts.mapM parseHextet

/-- `_ip_int_from_string` of an IPv6 address. -/
def parseIpv6 (text : Text) : Option (List Nat) :=
  let parts := text.splitOn ':'
  if parts.length < 3 then none
  else do
    let parts ← convertSuffix parts
    if 9 < parts.length then none else parseHextets parts

/-- `_split_scope_id`. -/
def splitScopeId (text : Text) : Option (Text × Option Text) :=
  let (addr, scopeId) := partition '%' text
  if '%' ∉ text then some (addr, none)
  else if scopeId = [] ∨ '%' ∈ scopeId then none
  else some (addr, some scopeId)

/-- `IPv6Address(text)`. `none` is `AddressValueError`. -/
def parseIpv6Address (text : Text) : Option IpAddress :=
  if '/' ∈ text then none
  else do
    let (addr, scopeId) ← splitScopeId text
    let hextets ← parseIpv6 addr
    return .ipv6 hextets scopeId

/-- `ip_address(text)`. `none` is `ValueError`. -/
def ipAddress (text : Text) : Option IpAddress :=
  match parseIpv4 text with
  | some octets => some (.ipv4 octets)
  | none => parseIpv6Address text

/-! ### Writing -/

/-- The runs of zeros of `_compress_hextets`: the longest one so far, and the one that ends here. -/
structure ZeroRuns where
  bestStart : Nat
  bestLength : Nat
  start : Nat
  length : Nat

/-- One round of the loop. -/
def ZeroRuns.step (runs : ZeroRuns) (entry : Text × Nat) : ZeroRuns :=
  if entry.1 = ['0'] then
    let start := if runs.length = 0 then entry.2 else runs.start
    let length := runs.length + 1
    if runs.bestLength < length then ⟨start, length, start, length⟩
    else { runs with start, length }
  else { runs with start := 0, length := 0 }

/-- The loop. -/
def zeroRuns (hextets : List Text) : ZeroRuns := hextets.zipIdx.foldl ZeroRuns.step ⟨0, 0, 0, 0⟩

/-- `_compress_hextets`. -/
def compressHextets (hextets : List Text) : List Text :=
  let start := (zeroRuns hextets).bestStart
  let length := (zeroRuns hextets).bestLength
  if 1 < length then
    (if start = 0 then [[]] else []) ++ hextets.take start ++ [] ::
      (hextets.drop (start + length) ++ if start + length = hextets.length then [[]] else [])
  else hextets

/-- `_string_from_ip_int`. -/
def stringFromHextets (hextets : List Nat) : Text :=
  [':'].intercalate (compressHextets (hextets.map hexNumber))

/-- `str` of an IPv4 address. -/
def stringFromOctets (octets : List Nat) : Text := ['.'].intercalate (octets.map (Nat.toDigits 10))

/-- `ipv4_mapped`. -/
def ipv4Mapped (hextets : List Nat) : Option (List Nat) :=
  if hextets.take 6 = [0, 0, 0, 0, 0, 0xffff] then
    some ((hextets.drop 6).flatMap fun hextet => [hextet / 256, hextet % 256])
  else none

/-- `str` of an IPv6 address, without its scope id. A mapped IPv4 address is written with dots, as
Python 3.13 and later do. -/
def stringFromIpv6 (hextets : List Nat) : Text :=
  match ipv4Mapped hextets with
  | some octets =>
      stringFromHextets [0, 0, 0, 0, 0, 0, 0, 0xffff] ++ ':' :: stringFromOctets octets
  | none => stringFromHextets hextets

/-- `str(address)`. -/
def str : IpAddress → Text
  | .ipv4 octets => stringFromOctets octets
  | .ipv6 hextets none => stringFromIpv6 hextets
  | .ipv6 hextets (some scopeId) => stringFromIpv6 hextets ++ '%' :: scopeId

/-! ### Numbers -/

theorem hexDigit?_digitChar {n : Nat} (h : n < 16) : hexDigit? (Nat.digitChar n) = some n := by
  have hall : ∀ n : Fin 16, hexDigit? (Nat.digitChar n) = some n.val := by decide
  exact hall ⟨n, h⟩

theorem hexValue_append_singleton {text : Text} {value : Nat} (h : hexValue text = some value)
    {digit : Nat} (hdigit : digit < 16) :
    hexValue (text ++ [Nat.digitChar digit]) = some (16 * value + digit) := by
  unfold hexValue at h ⊢
  rw [List.foldlM_append, h]
  simp [hexDigit?_digitChar hdigit]

theorem hexValue_hexNumber (n : Nat) : hexValue (hexNumber n) = some n := by
  induction n using Nat.strong_induction_on with
  | _ n ih =>
      by_cases h : n < 16
      · rw [hexNumber, Nat.toDigits_of_lt_base h]
        simp [hexValue, hexDigit?_digitChar h]
      · have hdiv : n / 16 < n := Nat.div_lt_self (by omega) (by decide)
        have hmod : n % 16 < 16 := Nat.mod_lt n (by decide)
        have hdigits : hexNumber n = hexNumber (n / 16) ++ [Nat.digitChar (n % 16)] :=
          Nat.toDigits_of_base_le (by decide) (by omega)
        rw [hdigits, hexValue_append_singleton (ih (n / 16) hdiv) hmod, Nat.div_add_mod]

theorem parseHextet_hexNumber {n : Nat} (h : n < 65536) : parseHextet (hexNumber n) = some n := by
  have hlength : (hexNumber n).length ≤ 4 :=
    (Nat.length_toDigits_le_iff (by decide) (by decide)).mpr h
  rw [parseHextet, if_neg, hexValue_hexNumber]
  rw [not_or]
  exact ⟨Nat.toDigits_ne_nil, by omega⟩

/-- The digits that addresses are written with. -/
theorem exists_digitChar_of_mem_hexNumber {n : Nat} {c : Char} (h : c ∈ hexNumber n) :
    ∃ digit : Fin 16, c = Nat.digitChar digit := by
  induction n using Nat.strong_induction_on with
  | _ n ih =>
      by_cases hlt : n < 16
      · rw [hexNumber, Nat.toDigits_of_lt_base hlt, List.mem_singleton] at h
        exact ⟨⟨n, hlt⟩, h⟩
      · have hdiv : n / 16 < n := Nat.div_lt_self (by omega) (by decide)
        rw [hexNumber, Nat.toDigits_of_base_le (by decide) (by omega), List.mem_append,
          List.mem_singleton] at h
        rcases h with h | h
        · exact ih (n / 16) hdiv h
        · exact ⟨⟨n % 16, Nat.mod_lt n (by decide)⟩, h⟩

/-- The characters of a written address without a scope id. -/
def isAddressChar (c : Char) : Bool := c ∈ "0123456789abcdef:.".toList

theorem isAddressChar_of_mem_hexNumber {n : Nat} {c : Char} (h : c ∈ hexNumber n) :
    isAddressChar c = true ∧ c ≠ ':' ∧ c ≠ '.' := by
  obtain ⟨digit, rfl⟩ := exists_digitChar_of_mem_hexNumber h
  clear h
  revert digit
  decide

theorem parseOctet_toDigits {n : Nat} (h : n ≤ 255) : parseOctet (Nat.toDigits 10 n) = some n := by
  have hall : ∀ n : Fin 256, parseOctet (Nat.toDigits 10 n) = some n.val := by decide +kernel
  exact hall ⟨n, by omega⟩

theorem isAddressChar_of_isDigit {c : Char} (h : c.isDigit = true) : isAddressChar c = true := by
  have hall : ∀ c, isAscii c = true → c.isDigit = true → isAddressChar c = true := by
    intro c
    apply forall_of_isAscii
    decide +kernel
  refine hall c (isAscii_of_isUnreserved ?_) h
  simp [isUnreserved, Char.isAlphanum, h]

theorem mapM_map_eq_some {f : Text → Option Nat} {g : Nat → Text} {numbers : List Nat}
    (h : ∀ n ∈ numbers, f (g n) = some n) : (numbers.map g).mapM f = some numbers := by
  induction numbers with
  | nil => rfl
  | cons n numbers ih =>
      obtain ⟨hn, hnumbers⟩ := List.forall_mem_cons.mp h
      rw [List.map_cons, List.mapM_cons, hn, ih hnumbers]
      rfl

/-! ### Runs of zeros -/

/-- What the loop knows after some hextets: both runs are runs of zeros, and the second one ends
here. -/
structure ZeroRuns.Found (runs : ZeroRuns) (hextets : List Text) : Prop where
  best : runs.bestStart + runs.bestLength ≤ hextets.length
  best_zeros : (hextets.drop runs.bestStart).take runs.bestLength =
    List.replicate runs.bestLength ['0']
  stop : runs.length = 0 ∨ runs.start + runs.length = hextets.length
  zeros : runs.length = 0 ∨ hextets.drop runs.start = List.replicate runs.length ['0']

theorem ZeroRuns.Found.step {runs : ZeroRuns} {hextets : List Text} (h : runs.Found hextets)
    (hextet : Text) : (runs.step (hextet, hextets.length)).Found (hextets ++ [hextet]) := by
  have hbest : ((hextets ++ [hextet]).drop runs.bestStart).take runs.bestLength =
      List.replicate runs.bestLength ['0'] := by
    have hle := h.best
    rw [List.drop_append_of_le_length (by omega), List.take_append_of_le_length, h.best_zeros]
    rw [List.length_drop]
    omega
  have hlength : (hextets ++ [hextet]).length = hextets.length + 1 := by simp
  unfold ZeroRuns.step
  dsimp only
  split
  · next hzero =>
      -- the run that ends here is one longer
      have hrun : (if runs.length = 0 then hextets.length else runs.start) + (runs.length + 1) =
            (hextets ++ [hextet]).length ∧
          (hextets ++ [hextet]).drop (if runs.length = 0 then hextets.length else runs.start) =
            List.replicate (runs.length + 1) ['0'] := by
        rw [hlength, hzero]
        split
        · next hnone =>
            rw [hnone]
            exact ⟨rfl, by simp⟩
        · next hsome =>
            have hstop := h.stop.resolve_left hsome
            refine ⟨by omega, ?_⟩
            rw [List.drop_append_of_le_length (by omega), h.zeros.resolve_left hsome,
              List.replicate_succ']
      split
      · refine ⟨hrun.1.le, ?_, .inr hrun.1, .inr hrun.2⟩
        dsimp only
        rw [hrun.2, List.take_of_length_le (by simp)]
      · exact ⟨by rw [hlength]; exact h.best.trans (Nat.le_succ _), hbest, .inr hrun.1, .inr hrun.2⟩
  · exact ⟨by rw [hlength]; exact h.best.trans (Nat.le_succ _), hbest, .inl rfl, .inl rfl⟩

theorem found_zeroRuns (hextets : List Text) : (zeroRuns hextets).Found hextets := by
  induction hextets using List.reverseRecOn with
  | nil => exact ⟨Nat.le_refl _, rfl, .inl rfl, .inl rfl⟩
  | append_singleton hextets hextet ih =>
      have hlast := ih.step hextet
      rw [zeroRuns, List.zipIdx_append, List.foldl_append]
      simpa [zeroRuns] using hlast

/-! ### Reading what was written -/

/-- The parts on one side of `::`. There is an empty one if there is no other. -/
def padded (parts : List Text) : List Text := if parts = [] then [[]] else parts

section Padded

variable {parts : List Text}

theorem padded_ne_nil (parts : List Text) : padded parts ≠ [] := by
  unfold padded
  split
  · exact List.cons_ne_nil _ _
  · assumption

theorem nil_not_mem_tail_padded (h : [] ∉ parts) : [] ∉ (padded parts).tail := by
  unfold padded
  split
  · exact List.not_mem_nil
  · exact fun hmem => h (List.mem_of_mem_tail hmem)

theorem nil_not_mem_dropLast_padded (h : [] ∉ parts) : [] ∉ (padded parts).dropLast := by
  unfold padded
  split
  · exact List.not_mem_nil
  · exact fun hmem => h (List.dropLast_subset _ hmem)

theorem partsBefore_padded (h : [] ∉ parts) : partsBefore (padded parts) = some parts := by
  unfold padded
  split
  · next hnil =>
      rw [hnil]
      rfl
  · refine if_neg ?_
    intro hhead
    exact h (List.mem_of_head? hhead)

theorem partsAfter_padded (h : [] ∉ parts) : partsAfter (padded parts) = some parts := by
  unfold padded
  split
  · next hnil =>
      rw [hnil]
      rfl
  · refine if_neg ?_
    intro hlast
    exact h (List.mem_of_getLast? hlast)

end Padded

/-- An address with `::` is read with zeros in its place. -/
theorem parseHextets_padded {high low : List Text} {highs lows : List Nat} (hhigh : [] ∉ high)
    (hlow : [] ∉ low) (hhighs : high.mapM parseHextet = some highs)
    (hlows : low.mapM parseHextet = some lows) (hlength : high.length + low.length < 8) :
    parseHextets (padded high ++ [] :: padded low) =
      some (highs ++ List.replicate (8 - (highs.length + lows.length)) 0 ++ lows) := by
  obtain ⟨part, parts, hfront⟩ := List.exists_cons_of_ne_nil (padded_ne_nil high)
  have htail := nil_not_mem_tail_padded hhigh
  have hbefore := partsBefore_padded hhigh
  rw [hfront] at htail hbefore ⊢
  rw [List.tail_cons] at htail
  have hinner : ((part :: parts ++ [] :: padded low).drop 1).dropLast =
      parts ++ [] :: (padded low).dropLast := by
    rw [List.cons_append, List.drop_succ_cons, List.drop_zero,
      List.dropLast_append_of_ne_nil (List.cons_ne_nil _ _),
      List.dropLast_cons_of_ne_nil (padded_ne_nil low)]
  have hcount : (parts ++ [] :: (padded low).dropLast).count [] = 1 := by
    rw [List.count_append, List.count_eq_zero.mpr htail, List.count_cons_self,
      List.count_eq_zero.mpr (nil_not_mem_dropLast_padded hlow)]
  have hindex : (parts ++ [] :: (padded low).dropLast).idxOf? [] = some parts.length := by
    rw [List.idxOf?, List.findIdx?_append, List.findIdx?_eq_none_iff.mpr]
    · simp [List.findIdx?_cons]
    · intro part hpart
      rw [beq_eq_false_iff_ne]
      rintro rfl
      exact htail hpart
  have htake : (part :: parts ++ [] :: padded low).take (parts.length + 1) = part :: parts := by
    simp
  have hdrop : (part :: parts ++ [] :: padded low).drop (parts.length + 2) = padded low := by
    rw [List.cons_append, List.drop_succ_cons, List.drop_append]
    simp
  rw [parseHextets, hinner, hcount, if_neg (Nat.lt_irrefl 1), hindex]
  dsimp only
  rw [htake, hdrop, hbefore, partsAfter_padded hlow]
  simp only [Option.bind_eq_bind, Option.bind_some, if_neg (Nat.not_le.mpr hlength), hhighs, hlows]
  rfl

/-- An address without `::` has all of its hextets. -/
theorem parseHextets_of_not_mem {parts : List Text} {hextets : List Nat}
    (hlength : parts.length = 8)
    (hparts : [] ∉ parts) (h : parts.mapM parseHextet = some hextets) :
    parseHextets parts = some hextets := by
  have hinner : [] ∉ (parts.drop 1).dropLast :=
    fun hmem => hparts (List.mem_of_mem_drop (List.dropLast_subset _ hmem))
  have hindex : ((parts.drop 1).dropLast).idxOf? [] = none := by
    rw [List.idxOf?_eq_none_iff]
    exact hinner
  have hends : ¬ (parts.length ≠ 8 ∨ parts.head? = some [] ∨ parts.getLast? = some []) := by
    rw [not_or, not_or, not_not]
    exact ⟨hlength, fun hhead => hparts (List.mem_of_head? hhead),
      fun hlast => hparts (List.mem_of_getLast? hlast)⟩
  rw [parseHextets, List.count_eq_zero.mpr hinner, if_neg (by decide), hindex]
  exact (if_neg hends).trans h

/-- An address is compressed at a run of at least two zeros, or not at all. -/
theorem compressHextets_cases (hextets : List Text) :
    compressHextets hextets = hextets ∨ ∃ start length, 1 < length ∧
      start + length ≤ hextets.length ∧
      (hextets.drop start).take length = List.replicate length ['0'] ∧
      compressHextets hextets =
        padded (hextets.take start) ++ [] :: padded (hextets.drop (start + length)) := by
  obtain ⟨hbest, hzeros, -, -⟩ := found_zeroRuns hextets
  unfold compressHextets
  dsimp only
  generalize (zeroRuns hextets).bestStart = start at hbest hzeros ⊢
  generalize (zeroRuns hextets).bestLength = length at hbest hzeros ⊢
  by_cases hlong : 1 < length
  · right
    refine ⟨start, length, hlong, hbest, hzeros, ?_⟩
    have hfront : (if start = 0 then [[]] else []) ++ hextets.take start =
        padded (hextets.take start) := by
      unfold padded
      by_cases hstart : start = 0
      · rw [hstart]
        rfl
      · have hne : hextets.take start ≠ [] := by
          rw [← List.length_pos_iff, List.length_take]
          omega
        rw [if_neg hstart, if_neg hne, List.nil_append]
    have hback : (hextets.drop (start + length) ++
        if start + length = hextets.length then [[]] else []) =
          padded (hextets.drop (start + length)) := by
      unfold padded
      by_cases hstop : start + length = hextets.length
      · rw [hstop, List.drop_length]
        simp
      · have hne : hextets.drop (start + length) ≠ [] := by
          rw [← List.length_pos_iff, List.length_drop]
          omega
        rw [if_neg hstop, if_neg hne, List.append_nil]
    rw [if_pos hlong, hfront, hback]
  · exact .inl (if_neg hlong)

section Hextets

variable {hextets : List Nat}

theorem nil_not_mem_map_hexNumber (hextets : List Nat) : [] ∉ hextets.map hexNumber := by
  intro hmem
  obtain ⟨n, -, hn⟩ := List.mem_map.mp hmem
  exact Nat.toDigits_ne_nil hn

theorem hexNumber_injective {m n : Nat} (h : hexNumber m = hexNumber n) : m = n := by
  have hvalue := hexValue_hexNumber m
  rw [h, hexValue_hexNumber] at hvalue
  exact (Option.some.inj hvalue).symm

theorem parseHextets_compressHextets (hlength : hextets.length = 8)
    (hsmall : ∀ hextet ∈ hextets, hextet < 65536) :
    parseHextets (compressHextets (hextets.map hexNumber)) = some hextets := by
  have hparse : ∀ hextet ∈ hextets, parseHextet (hexNumber hextet) = some hextet :=
    fun hextet hmem => parseHextet_hexNumber (hsmall hextet hmem)
  rcases compressHextets_cases (hextets.map hexNumber) with
    hplain | ⟨start, length, hlong, hstop, hzeros, hcompressed⟩
  · rw [hplain]
    exact parseHextets_of_not_mem (by rw [List.length_map, hlength])
      (nil_not_mem_map_hexNumber hextets) (mapM_map_eq_some hparse)
  · rw [List.length_map, hlength] at hstop
    rw [← List.map_drop, ← List.map_take] at hzeros
    rw [hcompressed, ← List.map_take, ← List.map_drop,
      parseHextets_padded (nil_not_mem_map_hexNumber _) (nil_not_mem_map_hexNumber _)
        (mapM_map_eq_some fun hextet hmem => hparse hextet (List.mem_of_mem_take hmem))
        (mapM_map_eq_some fun hextet hmem => hparse hextet (List.mem_of_mem_drop hmem))]
    · -- the zeros that are filled in are those that were left out
      have hrun : (hextets.drop start).take length = List.replicate length 0 := by
        rw [List.eq_replicate_iff, List.length_take, List.length_drop, hlength]
        refine ⟨by omega, ?_⟩
        intro hextet hmem
        have hmem' : hexNumber hextet ∈ ((hextets.drop start).take length).map hexNumber :=
          List.mem_map_of_mem hmem
        rw [hzeros] at hmem'
        exact hexNumber_injective (List.eq_of_mem_replicate hmem')
      have hcount : 8 - ((hextets.take start).length + (hextets.drop (start + length)).length) =
          length := by
        rw [List.length_take, List.length_drop, hlength]
        omega
      rw [hcount, ← hrun, List.append_assoc, ← List.drop_drop, List.take_append_drop,
        List.take_append_drop]
    · rw [List.length_map, List.length_map, List.length_take, List.length_drop, hlength]
      omega

/-- The parts of a written address are short. -/
theorem length_compressHextets (hlength : hextets.length = 8) :
    3 ≤ (compressHextets (hextets.map hexNumber)).length ∧
      (compressHextets (hextets.map hexNumber)).length ≤ 9 := by
  have hpadded : ∀ parts : List Text, (padded parts).length = max 1 parts.length := by
    intro parts
    unfold padded
    cases parts with
    | nil => rfl
    | cons part parts => simp
  rcases compressHextets_cases (hextets.map hexNumber) with
    hplain | ⟨start, length, hlong, hstop, -, hcompressed⟩
  · rw [hplain, List.length_map, hlength]
    decide
  · rw [List.length_map, hlength] at hstop
    rw [hcompressed, List.length_append, List.length_cons, hpadded, hpadded, List.length_take,
      List.length_drop, List.length_map, hlength]
    omega

theorem mem_padded {parts : List Text} {part : Text} (h : part ∈ padded parts) :
    part = [] ∨ part ∈ parts := by
  unfold padded at h
  split at h
  · exact .inl (List.mem_singleton.mp h)
  · exact .inr h

theorem mem_compressHextets {hextets : List Text} {part : Text}
    (h : part ∈ compressHextets hextets) : part = [] ∨ part ∈ hextets := by
  rcases compressHextets_cases hextets with hplain | ⟨start, length, -, -, -, hcompressed⟩
  · exact .inr (hplain ▸ h)
  · rw [hcompressed, List.mem_append, List.mem_cons] at h
    rcases h with h | h | h
    · exact (mem_padded h).imp_right List.mem_of_mem_take
    · exact .inl h
    · exact (mem_padded h).imp_right List.mem_of_mem_drop

/-- The characters of the parts of a written address. -/
theorem isAddressChar_of_mem_part {part : Text}
    (h : part ∈ compressHextets (hextets.map hexNumber)) {c : Char} (hc : c ∈ part) :
    isAddressChar c = true ∧ c ≠ ':' ∧ c ≠ '.' := by
  rcases mem_compressHextets h with rfl | h
  · cases hc
  · obtain ⟨n, -, rfl⟩ := List.mem_map.mp h
    exact isAddressChar_of_mem_hexNumber hc

theorem convertSuffix_of_not_mem {parts : List Text} (h : ∀ part ∈ parts, '.' ∉ part) :
    convertSuffix parts = some parts := by
  unfold convertSuffix
  cases hlast : parts.getLast? with
  | none => rfl
  | some last => exact if_neg (h last (List.mem_of_getLast? hlast))

theorem convertSuffix_append_singleton {parts : List Text} {last : Text} (h : '.' ∈ last) :
    convertSuffix (parts ++ [last]) =
      (parseIpv4 last).map fun octets => parts ++ suffixHextets octets := by
  rw [convertSuffix, List.getLast?_concat]
  dsimp only
  rw [if_pos h, List.dropLast_concat]

theorem parseIpv6_stringFromHextets (hlength : hextets.length = 8)
    (hsmall : ∀ hextet ∈ hextets, hextet < 65536) :
    parseIpv6 (stringFromHextets hextets) = some hextets := by
  obtain ⟨hshort, hlong⟩ := length_compressHextets hlength
  have hsplit : (stringFromHextets hextets).splitOn ':' =
      compressHextets (hextets.map hexNumber) := by
    refine List.splitOn_intercalate ':' ?_ ?_
    · intro part hpart hcolon
      exact (isAddressChar_of_mem_part hpart hcolon).2.1 rfl
    · rw [← List.length_pos_iff]
      omega
  rw [parseIpv6, hsplit, if_neg (by omega), convertSuffix_of_not_mem
    fun part hpart hdot => (isAddressChar_of_mem_part hpart hdot).2.2 rfl, Option.bind_eq_bind,
    Option.bind_some, if_neg (by omega), parseHextets_compressHextets hlength hsmall]

end Hextets

section Octets

variable {octets : List Nat}

theorem parseIpv4_stringFromOctets (hlength : octets.length = 4)
    (hsmall : ∀ octet ∈ octets, octet ≤ 255) :
    parseIpv4 (stringFromOctets octets) = some octets := by
  have hsplit : (stringFromOctets octets).splitOn '.' = octets.map (Nat.toDigits 10) := by
    refine List.splitOn_intercalate '.' ?_ ?_
    · intro octet hoctet hdot
      obtain ⟨n, -, rfl⟩ := List.mem_map.mp hoctet
      exact absurd (isDigit_of_mem_toDigits hdot) (by decide)
    · rw [← List.length_pos_iff, List.length_map, hlength]
      decide
  rw [parseIpv4, hsplit, List.length_map, if_neg (not_not.mpr hlength)]
  exact mapM_map_eq_some fun octet hmem => parseOctet_toDigits (hsmall octet hmem)

/-- The characters of a written IPv4 address. -/
theorem isDigit_of_mem_stringFromOctets {c : Char} (h : c ∈ stringFromOctets octets) :
    c.isDigit = true ∨ c = '.' := by
  rcases mem_intercalate h with h | ⟨octet, hoctet, hc⟩
  · exact .inr (List.mem_singleton.mp h)
  · obtain ⟨n, -, rfl⟩ := List.mem_map.mp hoctet
    exact .inl (isDigit_of_mem_toDigits hc)

end Octets

theorem splitOn_mapped {text : Text} (h : ':' ∉ text) :
    (stringFromHextets [0, 0, 0, 0, 0, 0, 0, 0xffff] ++ ':' :: text).splitOn ':' =
      [[], [], "ffff".toList, text] := by
  have hfront : stringFromHextets [0, 0, 0, 0, 0, 0, 0, 0xffff] = "::ffff".toList := by decide
  have hcolons : "::ffff".toList = ':' :: ':' :: "ffff".toList := rfl
  have hjoin : "::ffff".toList ++ ':' :: text =
      [':'].intercalate [[], [], "ffff".toList, text] := by
    rw [hcolons]
    simp only [List.intercalate_cons_cons, List.intercalate_singleton, List.nil_append,
      List.cons_append, List.append_assoc]
  rw [hfront, hjoin, List.splitOn_intercalate ':' _ (by simp)]
  simp only [List.forall_mem_cons]
  exact ⟨List.not_mem_nil, List.not_mem_nil, by decide, h, List.forall_mem_nil _⟩

/-- A mapped IPv4 address is read from its two last hextets. -/
theorem parseIpv6_mapped {a b : Nat} (ha : a < 65536) (hb : b < 65536) :
    parseIpv6 (stringFromHextets [0, 0, 0, 0, 0, 0, 0, 0xffff] ++
        ':' :: stringFromOctets [a / 256, a % 256, b / 256, b % 256]) =
      some [0, 0, 0, 0, 0, 0xffff, a, b] := by
  generalize htext : stringFromOctets [a / 256, a % 256, b / 256, b % 256] = text
  have hparse : parseIpv4 text = some [a / 256, a % 256, b / 256, b % 256] := by
    rw [← htext]
    refine parseIpv4_stringFromOctets rfl ?_
    simp only [List.forall_mem_cons, List.not_mem_nil, false_imp_iff, implies_true, and_true]
    omega
  have hdot : '.' ∈ text := by
    rw [← htext]
    simp [stringFromOctets]
  have hcolon : ':' ∉ text := by
    rw [← htext]
    intro hcolon
    rcases isDigit_of_mem_stringFromOctets hcolon with h | h
    · exact absurd h (by decide)
    · exact absurd h (by decide)
  have hconvert : convertSuffix [[], [], "ffff".toList, text] =
      some ([[], [], "ffff".toList] ++ suffixHextets [a / 256, a % 256, b / 256, b % 256]) := by
    have hconcat : [[], [], "ffff".toList, text] = [[], [], "ffff".toList] ++ [text] := rfl
    rw [hconcat, convertSuffix_append_singleton hdot, hparse, Option.map_some]
  have hsuffix : suffixHextets [a / 256, a % 256, b / 256, b % 256] =
      [hexNumber a, hexNumber b] := by
    rw [suffixHextets, Nat.div_add_mod, Nat.div_add_mod]
  have hffff : "ffff".toList = hexNumber 0xffff := by decide
  have hlow : [hexNumber 0xffff, hexNumber a, hexNumber b].mapM parseHextet =
      some [0xffff, a, b] := by
    have hmap : [hexNumber 0xffff, hexNumber a, hexNumber b] = [0xffff, a, b].map hexNumber := rfl
    rw [hmap]
    refine mapM_map_eq_some ?_
    simp only [List.forall_mem_cons]
    exact ⟨parseHextet_hexNumber (by decide), parseHextet_hexNumber ha, parseHextet_hexNumber hb,
      List.forall_mem_nil _⟩
  rw [parseIpv6, splitOn_mapped hcolon, hconvert, hsuffix, hffff, if_neg (by simp),
    Option.bind_eq_bind, Option.bind_some]
  refine (if_neg (by simp)).trans ?_
  exact parseHextets_padded List.not_mem_nil (nil_not_mem_map_hexNumber [0xffff, a, b]) rfl hlow
    (by simp)

/-- An address is read from its text. -/
theorem parseIpv6_stringFromIpv6 {hextets : List Nat} (hlength : hextets.length = 8)
    (hsmall : ∀ hextet ∈ hextets, hextet < 65536) :
    parseIpv6 (stringFromIpv6 hextets) = some hextets := by
  unfold stringFromIpv6 ipv4Mapped
  by_cases hmapped : hextets.take 6 = [0, 0, 0, 0, 0, 0xffff]
  · obtain ⟨a, b, hlast⟩ : ∃ a b, hextets.drop 6 = [a, b] := by
      have hdrop : (hextets.drop 6).length = 2 := by rw [List.length_drop, hlength]
      exact List.length_eq_two.mp hdrop
    obtain rfl : hextets = [0, 0, 0, 0, 0, 0xffff] ++ [a, b] := by
      rw [← hmapped, ← hlast, List.take_append_drop]
    rw [if_pos hmapped, hlast]
    exact parseIpv6_mapped (hsmall a (by simp)) (hsmall b (by simp))
  · rw [if_neg hmapped]
    exact parseIpv6_stringFromHextets hlength hsmall

/-! ### What is read -/

/-- An address as it is made: all its numbers are in range. -/
def Valid : IpAddress → Prop
  | .ipv4 octets => octets.length = 4 ∧ ∀ octet ∈ octets, octet ≤ 255
  | .ipv6 hextets scopeId => hextets.length = 8 ∧ (∀ hextet ∈ hextets, hextet < 65536) ∧
      ∀ id, scopeId = some id → id ≠ [] ∧ '%' ∉ id ∧ '/' ∉ id

/-- The scope id of an address. -/
def scopeId : IpAddress → Option Text
  | .ipv4 _ => none
  | .ipv6 _ scopeId => scopeId

theorem hexValue_lt {text : Text} {value : Nat} (h : hexValue text = some value) :
    value < 16 ^ text.length := by
  induction text using List.reverseRecOn generalizing value with
  | nil =>
      cases h
      decide
  | append_singleton text c ih =>
      unfold hexValue at h ih
      rw [List.foldlM_append] at h
      obtain ⟨front, hfront, h⟩ := Option.bind_eq_some_iff.mp h
      rw [List.foldlM_cons] at h
      obtain ⟨value', hstep, h⟩ := Option.bind_eq_some_iff.mp h
      cases h
      obtain ⟨digit, hdigit, rfl⟩ := Option.map_eq_some_iff.mp hstep
      have hlt := ih hfront
      have hdigit : digit < 16 := by
        unfold hexDigit? at hdigit
        dsimp only at hdigit
        split at hdigit
        · cases hdigit
          omega
        · split at hdigit
          · cases hdigit
            omega
          · split at hdigit
            · cases hdigit
              omega
            · cases hdigit
      rw [List.length_append, List.length_singleton, Nat.pow_succ]
      omega

theorem parseHextet_lt {hextet : Text} {value : Nat} (h : parseHextet hextet = some value) :
    value < 65536 := by
  obtain ⟨hlength, h⟩ := Option.ite_none_left_eq_some.mp h
  have hpow : 16 ^ hextet.length ≤ 16 ^ 4 := Nat.pow_le_pow_right (by decide) (by omega)
  exact (hexValue_lt h).trans_le hpow

theorem parseHextets_valid {parts : List Text} {hextets : List Nat}
    (h : parseHextets parts = some hextets) :
    hextets.length = 8 ∧ ∀ hextet ∈ hextets, hextet < 65536 := by
  unfold parseHextets at h
  dsimp only at h
  obtain ⟨-, h⟩ := Option.ite_none_left_eq_some.mp h
  split at h
  · obtain ⟨high, -, h⟩ := Option.bind_eq_some_iff.mp h
    obtain ⟨low, -, h⟩ := Option.bind_eq_some_iff.mp h
    obtain ⟨hskipped, h⟩ := Option.ite_none_left_eq_some.mp h
    obtain ⟨highs, hhighs, h⟩ := Option.bind_eq_some_iff.mp h
    obtain ⟨lows, hlows, h⟩ := Option.bind_eq_some_iff.mp h
    cases h
    have hhigh := (forall₂_of_mapM hhighs).length_eq
    have hlow := (forall₂_of_mapM hlows).length_eq
    refine ⟨?_, ?_⟩
    · rw [List.length_append, List.length_append, List.length_replicate]
      omega
    · intro hextet hmem
      rcases List.mem_append.mp hmem with hmem | hmem
      · rcases List.mem_append.mp hmem with hmem | hmem
        · exact forall_mem_of_mapM hhighs (fun _ _ h => parseHextet_lt h) hextet hmem
        · rw [List.eq_of_mem_replicate hmem]
          decide
      · exact forall_mem_of_mapM hlows (fun _ _ h => parseHextet_lt h) hextet hmem
  · obtain ⟨hends, h⟩ := Option.ite_none_left_eq_some.mp h
    rw [not_or, not_not] at hends
    exact ⟨(forall₂_of_mapM h).length_eq.symm.trans hends.1,
      forall_mem_of_mapM h fun _ _ h => parseHextet_lt h⟩

theorem parseIpv6_valid {text : Text} {hextets : List Nat} (h : parseIpv6 text = some hextets) :
    hextets.length = 8 ∧ ∀ hextet ∈ hextets, hextet < 65536 := by
  obtain ⟨-, h⟩ := Option.ite_none_left_eq_some.mp h
  obtain ⟨parts, -, h⟩ := Option.bind_eq_some_iff.mp h
  exact parseHextets_valid (Option.ite_none_left_eq_some.mp h).2

theorem parseOctet_spec {octet : Text} {value : Nat} (h : parseOctet octet = some value) :
    octet ≠ [] ∧ (∀ c ∈ octet, c.isDigit = true) ∧ value ≤ 255 := by
  obtain ⟨hform, h⟩ := Option.ite_none_left_eq_some.mp h
  obtain ⟨hrange, h⟩ := Option.ite_none_left_eq_some.mp h
  rw [not_or, not_or, Bool.not_eq_false, List.all_eq_true] at hform
  cases h
  exact ⟨hform.1, hform.2.1, Nat.not_lt.mp hrange⟩

theorem parseIpv4_valid {text : Text} {octets : List Nat} (h : parseIpv4 text = some octets) :
    octets.length = 4 ∧ ∀ octet ∈ octets, octet ≤ 255 := by
  obtain ⟨hlength, h⟩ := Option.ite_none_left_eq_some.mp h
  exact ⟨(forall₂_of_mapM h).length_eq.symm.trans (not_not.mp hlength),
    forall_mem_of_mapM h fun _ _ h => (parseOctet_spec h).2.2⟩

/-- An IPv4 address is digits and dots. -/
theorem isDigit_of_parseIpv4 {text : Text} {octets : List Nat} (h : parseIpv4 text = some octets) :
    ∀ c ∈ text, c.isDigit = true ∨ c = '.' := by
  obtain ⟨-, h⟩ := Option.ite_none_left_eq_some.mp h
  intro c hc
  have hjoin : ['.'].intercalate (text.splitOn '.') = text := List.intercalate_splitOn '.'
  rw [← hjoin] at hc
  rcases mem_intercalate hc with hc | ⟨octet, hoctet, hc⟩
  · exact .inr (List.mem_singleton.mp hc)
  · exact .inl (forall_mem_left_of_mapM h (fun _ _ h => (parseOctet_spec h).2.1) octet hoctet c hc)

/-- An IPv6 address has colons. -/
theorem colon_mem_of_parseIpv6 {text : Text} {hextets : List Nat}
    (h : parseIpv6 text = some hextets) : ':' ∈ text := by
  obtain ⟨hlength, -⟩ := Option.ite_none_left_eq_some.mp h
  by_contra hcolon
  rw [List.splitOn_eq_singleton hcolon] at hlength
  exact hlength (by simp)

theorem parseIpv4_of_colon {text : Text} (h : ':' ∈ text) : parseIpv4 text = none := by
  cases hparse : parseIpv4 text with
  | none => rfl
  | some octets =>
      rcases isDigit_of_parseIpv4 hparse ':' h with hdigit | hdot
      · exact absurd hdigit (by decide)
      · exact absurd hdot (by decide)

theorem splitScopeId_spec {text addr : Text} {scopeId : Option Text}
    (h : splitScopeId text = some (addr, scopeId)) :
    (scopeId = none ↔ '%' ∉ text) ∧
      ∀ id, scopeId = some id → id ≠ [] ∧ '%' ∉ id ∧ ∀ c ∈ id, c ∈ text := by
  unfold splitScopeId at h
  dsimp only at h
  split at h
  · next hplain =>
      cases h
      exact ⟨⟨fun _ => hplain, fun _ => rfl⟩, nofun⟩
  · next hpercent =>
      obtain ⟨hid, h⟩ := Option.ite_none_left_eq_some.mp h
      cases h
      rw [not_or] at hid
      refine ⟨⟨nofun, fun hplain => absurd hplain hpercent⟩, ?_⟩
      intro id hsome
      cases hsome
      refine ⟨hid.1, hid.2, ?_⟩
      intro c hc
      exact (List.dropWhile_sublist _).subset (List.mem_of_mem_drop hc)

/-- What is read is an IPv4 address, or an IPv6 address with its scope id. -/
theorem ipAddress_cases {text : Text} {address : IpAddress} (h : ipAddress text = some address) :
    (∃ octets, parseIpv4 text = some octets ∧ address = .ipv4 octets) ∨
    ∃ addr hextets scopeId, '/' ∉ text ∧ splitScopeId text = some (addr, scopeId) ∧
      parseIpv6 addr = some hextets ∧ address = .ipv6 hextets scopeId := by
  unfold ipAddress at h
  split at h
  · next octets hoctets =>
      cases h
      exact .inl ⟨octets, hoctets, rfl⟩
  · obtain ⟨hslash, h⟩ := Option.ite_none_left_eq_some.mp h
    obtain ⟨⟨addr, scopeId⟩, hsplit, h⟩ := Option.bind_eq_some_iff.mp h
    obtain ⟨hextets, hparse, h⟩ := Option.bind_eq_some_iff.mp h
    cases h
    exact .inr ⟨addr, hextets, scopeId, hslash, hsplit, hparse, rfl⟩

theorem valid_of_ipAddress {text : Text} {address : IpAddress} (h : ipAddress text = some address) :
    address.Valid := by
  rcases ipAddress_cases h with ⟨octets, hoctets, rfl⟩ |
    ⟨addr, hextets, scopeId, hslash, hsplit, hparse, rfl⟩
  · exact parseIpv4_valid hoctets
  · obtain ⟨hlength, hsmall⟩ := parseIpv6_valid hparse
    refine ⟨hlength, hsmall, ?_⟩
    intro id hid
    obtain ⟨hne, hpercent, hsubset⟩ := (splitScopeId_spec hsplit).2 id hid
    exact ⟨hne, hpercent, fun hmem => hslash (hsubset _ hmem)⟩

/-- An address has a scope id exactly if its text has a percent sign. -/
theorem scopeId_eq_none_iff {text : Text} {address : IpAddress}
    (h : ipAddress text = some address) : address.scopeId = none ↔ '%' ∉ text := by
  rcases ipAddress_cases h with ⟨octets, hoctets, rfl⟩ |
    ⟨addr, hextets, scopeId, hslash, hsplit, hparse, rfl⟩
  · refine ⟨fun _ hpercent => ?_, fun _ => rfl⟩
    rcases isDigit_of_parseIpv4 hoctets '%' hpercent with hdigit | hdot
    · exact absurd hdigit (by decide)
    · exact absurd hdot (by decide)
  · exact (splitScopeId_spec hsplit).1

end IpAddress

end PxManager.Core
