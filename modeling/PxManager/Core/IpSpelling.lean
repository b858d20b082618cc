import PxManager.Core.IpAddress

/-!
# PxManager.Core.IpSpelling

The spellings of an address: what `str` writes is read as the address again, has few characters and
is short; and neither the case of letters nor what stands after a percent sign matters before it.
-/

namespace PxManager.Core

namespace IpAddress

/-! ### The text of an address -/

section Text

variable {hextets : List Nat} {address : IpAddress}

theorem isAddressChar_of_mem_stringFromHextets {c : Char} (h : c ∈ stringFromHextets hextets) :
    isAddressChar c = true := by
  rcases mem_intercalate h with h | ⟨part, hpart, hc⟩
  · rw [List.mem_singleton.mp h]
    decide
  · exact (isAddressChar_of_mem_part hpart hc).1

theorem isAddressChar_of_mem_stringFromOctets {octets : List Nat} {c : Char}
    (h : c ∈ stringFromOctets octets) : isAddressChar c = true := by
  rcases isDigit_of_mem_stringFromOctets h with hdigit | rfl
  · exact isAddressChar_of_isDigit hdigit
  · decide

theorem isAddressChar_of_mem_stringFromIpv6 {c : Char} (h : c ∈ stringFromIpv6 hextets) :
    isAddressChar c = true := by
  unfold stringFromIpv6 at h
  split at h
  · rw [List.mem_append, List.mem_cons] at h
    rcases h with h | rfl | h
    · exact isAddressChar_of_mem_stringFromHextets h
    · decide
    · exact isAddressChar_of_mem_stringFromOctets h
  · exact isAddressChar_of_mem_stringFromHextets h

/-- The characters of an address without a scope id. -/
theorem isAddressChar_of_mem_str (hscope : address.scopeId = none) {c : Char}
    (h : c ∈ address.str) : isAddressChar c = true := by
  cases address with
  | ipv4 octets => exact isAddressChar_of_mem_stringFromOctets h
  | ipv6 hextets scopeId =>
      cases hscope
      exact isAddressChar_of_mem_stringFromIpv6 h

theorem splitScopeId_of_not_mem {text : Text} (h : '%' ∉ text) :
    splitScopeId text = some (text, none) := by
  rw [splitScopeId, partition_of_not_mem h]
  exact if_pos h

theorem splitScopeId_append {text id : Text} (h : '%' ∉ text) (hne : id ≠ []) (hid : '%' ∉ id) :
    splitScopeId (text ++ '%' :: id) = some (text, some id) := by
  have hmem : ¬ '%' ∉ text ++ '%' :: id := by simp
  have hnot : ¬ (id = [] ∨ '%' ∈ id) := by
    rw [not_or]
    exact ⟨hne, hid⟩
  rw [splitScopeId, partition_append h]
  exact (if_neg hmem).trans (if_neg hnot)

/-- What follows a percent sign is a scope id. -/
theorem splitScopeId_eq_some_some {text addr id : Text}
    (h : splitScopeId text = some (addr, some id)) : text = addr ++ '%' :: id ∧ '%' ∉ addr := by
  by_cases hpercent : '%' ∈ text
  · obtain ⟨front, back, rfl, hfront⟩ := List.eq_append_cons_of_mem hpercent
    rw [splitScopeId, partition_append hfront] at h
    dsimp only at h
    rw [if_neg (not_not.mpr hpercent)] at h
    obtain ⟨-, h⟩ := Option.ite_none_left_eq_some.mp h
    cases h
    exact ⟨rfl, hfront⟩
  · rw [splitScopeId_of_not_mem hpercent] at h
    cases h

theorem not_mem_stringFromIpv6 {c : Char} (h : isAddressChar c = false) :
    c ∉ stringFromIpv6 hextets := by
  intro hmem
  rw [isAddressChar_of_mem_stringFromIpv6 hmem] at h
  cases h

section Read

variable {text : Text} (hparse : parseIpv6 text = some hextets) (hslash : '/' ∉ text)
  (hpercent : '%' ∉ text)

include hparse hslash hpercent

theorem ipAddress_of_parseIpv6 : ipAddress text = some (.ipv6 hextets none) := by
  rw [ipAddress, parseIpv4_of_colon (colon_mem_of_parseIpv6 hparse)]
  dsimp only
  rw [parseIpv6Address, if_neg hslash, splitScopeId_of_not_mem hpercent]
  simp only [Option.bind_eq_bind, Option.bind_some, hparse]
  rfl

theorem ipAddress_append_scopeId {id : Text} (hne : id ≠ []) (hid : '%' ∉ id)
    (hidSlash : '/' ∉ id) :
    ipAddress (text ++ '%' :: id) = some (.ipv6 hextets (some id)) := by
  have hslash' : '/' ∉ text ++ '%' :: id := by simp [hslash, hidSlash]
  have hcolon := colon_mem_of_parseIpv6 hparse
  rw [ipAddress, parseIpv4_of_colon (List.mem_append_left _ hcolon)]
  dsimp only
  rw [parseIpv6Address, if_neg hslash', splitScopeId_append hpercent hne hid]
  simp only [Option.bind_eq_bind, Option.bind_some, hparse]
  rfl

end Read

/-- **An address is read from its text.** -/
theorem ipAddress_str (h : address.Valid) : ipAddress address.str = some address := by
  cases address with
  | ipv4 octets =>
      rw [ipAddress, str, parseIpv4_stringFromOctets h.1 h.2]
  | ipv6 hextets scopeId =>
      obtain ⟨hlength, hsmall, hid⟩ := h
      have hparse := parseIpv6_stringFromIpv6 hlength hsmall
      have hslash : '/' ∉ stringFromIpv6 hextets := not_mem_stringFromIpv6 rfl
      have hpercent : '%' ∉ stringFromIpv6 hextets := not_mem_stringFromIpv6 rfl
      cases scopeId with
      | none => exact ipAddress_of_parseIpv6 hparse hslash hpercent
      | some id =>
          obtain ⟨hne, hidPercent, hidSlash⟩ := hid id rfl
          exact ipAddress_append_scopeId hparse hslash hpercent hne hidPercent hidSlash

theorem str_ne_nil (h : address.Valid) : address.str ≠ [] := by
  intro hnil
  have hread := ipAddress_str h
  rw [hnil] at hread
  cases hread

/-! ### Its length -/

theorem length_intercalate_le (separator : Char) {n : Nat} {parts : List Text}
    (h : ∀ part ∈ parts, part.length ≤ n) :
    ([separator].intercalate parts).length ≤ parts.length * (n + 1) := by
  induction parts with
  | nil => simp
  | cons part parts ih =>
      obtain ⟨hpart, hparts⟩ := List.forall_mem_cons.mp h
      cases parts with
      | nil =>
          rw [List.intercalate_singleton, List.length_singleton]
          omega
      | cons next rest =>
          have hrest := ih hparts
          rw [List.intercalate_cons_cons, List.length_append, List.length_append,
            List.length_singleton, List.length_cons, Nat.succ_mul]
          omega

theorem length_stringFromOctets_le {octets : List Nat} (hlength : octets.length = 4)
    (hsmall : ∀ octet ∈ octets, octet ≤ 255) : (stringFromOctets octets).length ≤ 16 := by
  have hparts : ∀ part ∈ octets.map (Nat.toDigits 10), part.length ≤ 3 := by
    intro part hpart
    obtain ⟨octet, hoctet, rfl⟩ := List.mem_map.mp hpart
    have hle := hsmall octet hoctet
    exact (Nat.length_toDigits_le_iff (by decide) (by decide)).mpr (by omega)
  have hjoin := length_intercalate_le '.' hparts
  rwa [List.length_map, hlength] at hjoin

theorem length_stringFromHextets_le (hlength : hextets.length = 8)
    (hsmall : ∀ hextet ∈ hextets, hextet < 65536) : (stringFromHextets hextets).length ≤ 45 := by
  have hparts : ∀ part ∈ compressHextets (hextets.map hexNumber), part.length ≤ 4 := by
    intro part hpart
    rcases mem_compressHextets hpart with rfl | hpart
    · decide
    · obtain ⟨hextet, hhextet, rfl⟩ := List.mem_map.mp hpart
      exact (Nat.length_toDigits_le_iff (by decide) (by decide)).mpr (hsmall hextet hhextet)
  have hjoin := length_intercalate_le ':' hparts
  have hcount := (length_compressHextets hlength).2
  have hmul : (compressHextets (hextets.map hexNumber)).length * (4 + 1) ≤ 9 * 5 :=
    Nat.mul_le_mul_right 5 hcount
  exact hjoin.trans hmul

/-- An address without a scope id is short. -/
theorem length_str_le (h : address.Valid) (hscope : address.scopeId = none) :
    address.str.length ≤ 45 := by
  cases address with
  | ipv4 octets => exact (length_stringFromOctets_le h.1 h.2).trans (by decide)
  | ipv6 hextets scopeId =>
      obtain ⟨hlength, hsmall, -⟩ := h
      cases hscope
      show (stringFromIpv6 hextets).length ≤ 45
      unfold stringFromIpv6 ipv4Mapped
      split
      · next octets hmapped =>
          obtain ⟨-, hoctets⟩ := Option.ite_none_right_eq_some.mp hmapped
          cases hoctets
          have hfront : (stringFromHextets [0, 0, 0, 0, 0, 0, 0, 0xffff]).length = 6 := by decide
          have hlast : (hextets.drop 6).length = 2 := by rw [List.length_drop, hlength]
          have hback : (stringFromOctets ((hextets.drop 6).flatMap fun hextet =>
              [hextet / 256, hextet % 256])).length ≤ 16 := by
            refine length_stringFromOctets_le ?_ ?_
            · obtain ⟨a, b, hab⟩ := List.length_eq_two.mp hlast
              rw [hab]
              rfl
            · intro octet hoctet
              obtain ⟨hextet, hhextet, hoctet⟩ := List.mem_flatMap.mp hoctet
              have hlt := hsmall hextet (List.mem_of_mem_drop hhextet)
              simp only [List.mem_cons, List.not_mem_nil, or_false] at hoctet
              omega
          rw [List.length_append, List.length_cons, hfront]
          omega
      · exact length_stringFromHextets_le hlength hsmall

end Text

/-! ### Other spellings -/

section Split

variable {separator : Char}

theorem splitOn_map {f : Char → Char} (hf : ∀ c, f c = separator ↔ c = separator) (text : Text) :
    (text.map f).splitOn separator = (text.splitOn separator).map (·.map f) := by
  induction text with
  | nil => rfl
  | cons c text ih =>
      rw [List.map_cons, List.splitOn_cons_eq_if_modifyHead, List.splitOn_cons_eq_if_modifyHead, ih]
      by_cases hc : c = separator
      · rw [if_pos (beq_iff_eq.mpr ((hf c).mpr hc)), if_pos (beq_iff_eq.mpr hc)]
        rfl
      · rw [if_neg (fun h => hc ((hf c).mp (beq_iff_eq.mp h))),
          if_neg (fun h => hc (beq_iff_eq.mp h))]
        cases text.splitOn separator <;> rfl

/-- A character that is no separator goes to the last part. -/
theorem getLast?_splitOn_append {d : Char} (hd : d ≠ separator) (text : Text) :
    ∃ last, ((text ++ [d]).splitOn separator).getLast? = some (last ++ [d]) := by
  induction text with
  | nil =>
      refine ⟨[], ?_⟩
      rw [List.nil_append, List.splitOn_eq_singleton (by simp [Ne.symm hd])]
      rfl
  | cons c text ih =>
      obtain ⟨last, hlast⟩ := ih
      rw [List.cons_append, List.splitOn_cons_eq_if_modifyHead]
      split
      · refine ⟨last, ?_⟩
        rw [List.getLast?_cons, hlast]
        rfl
      · cases hparts : (text ++ [d]).splitOn separator with
        | nil => exact absurd hparts (List.splitOn_ne_nil separator _)
        | cons part parts =>
            rw [hparts] at hlast
            cases parts with
            | nil =>
                refine ⟨c :: last, ?_⟩
                rw [List.getLast?_singleton, Option.some.injEq] at hlast
                rw [hlast]
                rfl
            | cons next rest => exact ⟨last, hlast⟩

end Split

section Spelling

/-- What holds of ASCII characters and their lower case, and of characters and themselves. -/
theorem forall_toLower {p : Char → Char → Prop}
    (hascii : ∀ n : Fin 128, p (Char.ofNat n) (Char.ofNat n).toLower) (hself : ∀ c, p c c)
    (c : Char) : p c c.toLower := by
  by_cases hc : isAscii c = true
  · exact forall_of_isAscii (p := fun c => p c c.toLower) hascii hc
  · have hsame : c.toLower = c := by
      refine dif_neg ?_
      rintro ⟨-, hle⟩
      have hlt : c.toNat < 0x80 :=
        Nat.lt_of_le_of_lt (UInt32.le_iff_toNat_le.mp hle) (by decide)
      exact hc (decide_eq_true hlt)
    rw [hsame]
    exact hself c

theorem toLower_eq_iff {d : Char} (hd : d ∈ [':', '.', '%', '/']) (c : Char) :
    c.toLower = d ↔ c = d := by
  have hall : ∀ d ∈ [':', '.', '%', '/'], c.toLower = d ↔ c = d := by
    refine forall_toLower (p := fun c e => ∀ d ∈ [':', '.', '%', '/'], e = d ↔ c = d) ?_ ?_ c
    · decide +kernel
    · exact fun _ _ _ => Iff.rfl
  exact hall d hd

theorem isDigit_toLower (c : Char) : c.toLower.isDigit = c.isDigit := by
  refine forall_toLower (p := fun c e => e.isDigit = c.isDigit) ?_ (fun _ => rfl) c
  decide +kernel

theorem toLower_of_isDigit {c : Char} (h : c.isDigit = true) : c.toLower = c := by
  have hall : c.isDigit = true → c.toLower = c := by
    refine forall_toLower (p := fun c e => c.isDigit = true → e = c) ?_ (fun _ _ => rfl) c
    decide +kernel
  exact hall h

theorem hexDigit?_toLower (c : Char) : hexDigit? c.toLower = hexDigit? c := by
  refine forall_toLower (p := fun c e => hexDigit? e = hexDigit? c) ?_ (fun _ => rfl) c
  decide +kernel

/-- `text.lower()` of an ASCII text. -/
def lowerText (text : Text) : Text := text.map Char.toLower

theorem mem_lowerText {d : Char} (hd : d ∈ [':', '.', '%', '/']) {text : Text} :
    d ∈ lowerText text ↔ d ∈ text := by
  rw [lowerText, List.mem_map]
  constructor
  · rintro ⟨c, hc, heq⟩
    exact (toLower_eq_iff hd c).mp heq ▸ hc
  · exact fun h => ⟨d, h, (toLower_eq_iff hd d).mpr rfl⟩

theorem lowerText_eq_nil {text : Text} : lowerText text = [] ↔ text = [] := List.map_eq_nil_iff

theorem length_lowerText (text : Text) : (lowerText text).length = text.length := List.length_map _

theorem parseOctet_lowerText (octet : Text) : parseOctet (lowerText octet) = parseOctet octet := by
  have hall : (lowerText octet).all Char.isDigit = octet.all Char.isDigit := by
    rw [lowerText, List.all_map]
    congr 1
    funext c
    exact isDigit_toLower c
  by_cases hdigits : octet.all Char.isDigit = true
  · have hsame : lowerText octet = octet := by
      refine (List.map_congr_left fun c hc => ?_).trans (List.map_id octet)
      exact toLower_of_isDigit (List.all_eq_true.mp hdigits c hc)
    rw [hsame]
  · have hnone : ∀ {text : Text}, text.all Char.isDigit = false → parseOctet text = none := by
      intro text h
      rw [parseOctet, if_pos (.inr (.inl h))]
    rw [hnone (hall.trans (eq_false_of_ne_true hdigits)), hnone (eq_false_of_ne_true hdigits)]

theorem mapM_map_lowerText {f : Text → Option Nat} (hf : ∀ text, f (lowerText text) = f text)
    (parts : List Text) : (parts.map lowerText).mapM f = parts.mapM f := by
  rw [List.mapM_map]
  congr 1
  funext text
  exact hf text

theorem parseIpv4_lowerText (text : Text) : parseIpv4 (lowerText text) = parseIpv4 text := by
  have hsplit : (lowerText text).splitOn '.' = (text.splitOn '.').map lowerText :=
    splitOn_map (toLower_eq_iff (by decide)) text
  rw [parseIpv4, hsplit]
  simp only [List.length_map, mapM_map_lowerText parseOctet_lowerText]
  rfl

theorem parseHextet_lowerText (hextet : Text) :
    parseHextet (lowerText hextet) = parseHextet hextet := by
  have hvalue : hexValue (lowerText hextet) = hexValue hextet := by
    unfold hexValue lowerText
    rw [List.foldlM_map]
    congr 1
    funext value c
    rw [hexDigit?_toLower]
  simp only [parseHextet, hvalue, lowerText_eq_nil, length_lowerText]

theorem lowerText_hexNumber (n : Nat) : lowerText (hexNumber n) = hexNumber n := by
  refine (List.map_congr_left fun c hc => ?_).trans (List.map_id _)
  obtain ⟨digit, rfl⟩ := exists_digitChar_of_mem_hexNumber hc
  clear hc
  revert digit
  decide

theorem convertSuffix_map_lowerText (parts : List Text) :
    convertSuffix (parts.map lowerText) = (convertSuffix parts).map (·.map lowerText) := by
  unfold convertSuffix
  rw [List.getLast?_map]
  cases hlast : parts.getLast? with
  | none => rfl
  | some last =>
      simp only [Option.map_some, mem_lowerText (show '.' ∈ [':', '.', '%', '/'] by decide)]
      split
      · rw [parseIpv4_lowerText, Option.map_map]
        congr 1
        funext octets
        have hsuffix : (suffixHextets octets).map lowerText = suffixHextets octets := by
          unfold suffixHextets
          split
          · simp only [List.map_cons, List.map_nil, lowerText_hexNumber]
          · rfl
        rw [Function.comp_apply, List.map_append, hsuffix, List.map_dropLast]
      · rfl

theorem head?_map_lowerText {parts : List Text} :
    (parts.map lowerText).head? = some [] ↔ parts.head? = some [] := by
  rw [List.head?_map]
  cases parts.head? with
  | none => simp
  | some part => simp [lowerText_eq_nil]

theorem getLast?_map_lowerText {parts : List Text} :
    (parts.map lowerText).getLast? = some [] ↔ parts.getLast? = some [] := by
  rw [List.getLast?_map]
  cases parts.getLast? with
  | none => simp
  | some part => simp [lowerText_eq_nil]

theorem partsBefore_map_lowerText (parts : List Text) :
    partsBefore (parts.map lowerText) = (partsBefore parts).map (·.map lowerText) := by
  simp only [partsBefore, head?_map_lowerText, List.length_map]
  split
  · split <;> rfl
  · rfl

theorem partsAfter_map_lowerText (parts : List Text) :
    partsAfter (parts.map lowerText) = (partsAfter parts).map (·.map lowerText) := by
  simp only [partsAfter, getLast?_map_lowerText, List.length_map]
  split
  · split <;> rfl
  · rfl

theorem parseHextets_map_lowerText (parts : List Text) :
    parseHextets (parts.map lowerText) = parseHextets parts := by
  have hempty : ∀ part : Text, (lowerText part == []) = (part == []) := by
    intro part
    cases part <;> rfl
  have hinner : ((parts.map lowerText).drop 1).dropLast =
      ((parts.drop 1).dropLast).map lowerText := by
    rw [← List.map_drop, ← List.map_dropLast]
  have hcount : (((parts.drop 1).dropLast).map lowerText).count [] =
      ((parts.drop 1).dropLast).count [] := by
    rw [List.count_eq_countP, List.countP_map, List.count_eq_countP]
    congr 1
    funext part
    exact hempty part
  have hindex : (((parts.drop 1).dropLast).map lowerText).idxOf? [] =
      ((parts.drop 1).dropLast).idxOf? [] := by
    show List.findIdx? (· == []) _ = List.findIdx? (· == []) _
    rw [List.findIdx?_map]
    congr 1
    funext part
    exact hempty part
  unfold parseHextets
  dsimp only
  rw [hinner, hcount, hindex]
  split
  · rfl
  · split
    · rw [← List.map_take, ← List.map_drop, partsBefore_map_lowerText, partsAfter_map_lowerText,
        Option.bind_eq_bind, Option.bind_map]
      congr 1
      funext high
      rw [Function.comp_apply, Option.bind_eq_bind, Option.bind_map]
      congr 1
      funext low
      simp only [Function.comp_apply, List.length_map, mapM_map_lowerText parseHextet_lowerText]
    · simp only [List.length_map, head?_map_lowerText, getLast?_map_lowerText,
        mapM_map_lowerText parseHextet_lowerText]

theorem parseIpv6_lowerText (text : Text) : parseIpv6 (lowerText text) = parseIpv6 text := by
  have hsplit : (lowerText text).splitOn ':' = (text.splitOn ':').map lowerText :=
    splitOn_map (toLower_eq_iff (by decide)) text
  unfold parseIpv6
  dsimp only
  rw [hsplit, convertSuffix_map_lowerText, List.length_map, Option.bind_eq_bind, Option.bind_map]
  split
  · rfl
  · congr 1
    funext parts
    simp only [Function.comp_apply, List.length_map, parseHextets_map_lowerText]

/-- The case of letters does not matter. -/
theorem ipAddress_lowerText {text : Text} (h : '%' ∉ text) :
    ipAddress (lowerText text) = ipAddress text := by
  have hlower : '%' ∉ lowerText text := by rwa [mem_lowerText (by decide)]
  unfold ipAddress parseIpv6Address
  rw [parseIpv4_lowerText, splitScopeId_of_not_mem h, splitScopeId_of_not_mem hlower]
  simp only [mem_lowerText (show '/' ∈ [':', '.', '%', '/'] by decide), Option.bind_eq_bind,
    Option.bind_some, parseIpv6_lowerText]

theorem parseIpv4_append_dot (text : Text) : parseIpv4 (text ++ ['.']) = none := by
  cases hparse : parseIpv4 (text ++ ['.']) with
  | none => rfl
  | some octets =>
      obtain ⟨-, h⟩ := Option.ite_none_left_eq_some.mp hparse
      have hempty : [] ∈ (text ++ ['.']).splitOn '.' := by
        rw [List.splitOn_append_cons_self, List.splitOn_nil]
        simp
      exact absurd rfl
        (forall_mem_left_of_mapM h (fun _ _ h => (parseOctet_spec h).1) [] hempty)

/-- No address ends with a dot. -/
theorem ipAddress_append_dot {text : Text} (h : '%' ∉ text) : ipAddress (text ++ ['.']) = none := by
  have hpercent : '%' ∉ text ++ ['.'] := by simp [h]
  have hparse : parseIpv6 (text ++ ['.']) = none := by
    obtain ⟨last, hlast⟩ := getLast?_splitOn_append (show '.' ≠ ':' by decide) text
    have hdot : '.' ∈ last ++ ['.'] := by simp
    unfold parseIpv6 convertSuffix
    dsimp only
    rw [hlast]
    dsimp only
    rw [if_pos hdot, parseIpv4_append_dot]
    split <;> rfl
  unfold ipAddress parseIpv6Address
  rw [parseIpv4_append_dot, splitScopeId_of_not_mem hpercent]
  simp only [Option.bind_eq_bind, Option.bind_some, hparse, Option.bind_none, ite_self]

/-- An address has colons, or is made of digits and dots. -/
theorem colon_or_isDigit_of_ipAddress {text : Text} {address : IpAddress}
    (h : ipAddress text = some address) :
    ':' ∈ text ∨ ∀ c ∈ text, c.isDigit = true ∨ c = '.' := by
  rcases ipAddress_cases h with ⟨octets, hoctets, -⟩ |
    ⟨addr, hextets, scopeId, -, hsplit, hparse, -⟩
  · exact .inr (isDigit_of_parseIpv4 hoctets)
  · left
    have haddr : addr = (partition '%' text).1 := by
      unfold splitScopeId at hsplit
      dsimp only at hsplit
      split at hsplit
      · cases hsplit
        rfl
      · obtain ⟨-, hsplit⟩ := Option.ite_none_left_eq_some.mp hsplit
        cases hsplit
        rfl
    have hcolon := colon_mem_of_parseIpv6 hparse
    rw [haddr] at hcolon
    exact (List.takeWhile_prefix _).subset hcolon

end Spelling

end IpAddress

end PxManager.Core
