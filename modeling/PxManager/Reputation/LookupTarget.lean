import PxManager.Core.Bytes
import PxManager.Core.Except
import PxManager.Core.IpSpelling
import PxManager.Core.Newlines
import PxManager.Core.Utf8

/-!
# PxManager.Reputation.LookupTarget

`parse_lookup_target` of `reputation.py`: the address or the domain that a lookup is for.

A domain that is accepted is only read as itself: it has no colon and is not digits and dots, so it
is no address, and it does not end with a dot. An ASCII spelling of it is the domain in some case
of letters, with a dot after it or without.

The encoder of the codec `idna` for texts that are not ASCII is open.
-/

namespace PxManager.Reputation

open PxManager.Core
open PxManager.Core.IpAddress

/-- `text.removesuffix('.')`. -/
def removeDot (text : Text) : Text := (text.dropSuffix? ['.']).getD text

/-- `text.encode('idna')`, where `toAscii` encodes what is not ASCII. `none` is `UnicodeError`. -/
def encodeIdna (toAscii : Text → Option Bytes) (text : Text) : Option Bytes :=
  if text.all isAscii then
    let labels := text.splitOn '.'
    if [] ∈ labels.dropLast ∨ ∃ label ∈ labels, 64 ≤ label.length then none
    else some (text.map fun c => UInt8.ofNat c.toNat)
  else toAscii text

/-- `value.removesuffix('.').encode('idna').decode('ascii').lower()`. -/
def asciiDomain (toAscii : Text → Option Bytes) (value : Text) : Option Text :=
  ((encodeIdna toAscii (removeDot value)).bind decodeAscii).map lowerText

/-- `[a-z0-9]`. -/
def isLetterOrDigit (c : Char) : Bool := c.isLower || c.isDigit

/-- `re.fullmatch(r'[a-z0-9](?:[a-z0-9-]{0,61}[a-z0-9])?', label)`. -/
def matchesLabel : Text → Bool
  | [] => false
  | c :: rest => isLetterOrDigit c && (rest = [] ||
      (rest.dropLast.all (fun c => isLetterOrDigit c || c = '-') && rest.dropLast.length ≤ 61 &&
        rest.getLast?.any isLetterOrDigit))

/-- `re.fullmatch(r'[0-9.]+', domain)`. -/
def matchesDigitsAndDots (domain : Text) : Bool :=
  domain ≠ [] && domain.all fun c => c.isDigit || c = '.'

def invalidTarget : PyError := .valueError (some "Введите IP-адрес или домен без URL, порта и пути")

def invalidDomain : PyError := .valueError (some "Некорректное доменное имя")

/-- `parse_lookup_target`: the target, and whether it is an address. -/
def parseLookupTarget (toAscii : Text → Option Bytes) (value : Text) :
    Except PyError (Text × Bool) := do
  let value := strip value
  if value = [] ∨ 253 < value.length ∨ '%' ∈ value then throw invalidTarget
  match ipAddress value with
  | some address => return (address.str, true)
  | none =>
      let some domain := asciiDomain toAscii value | throw invalidDomain
      if 253 < domain.length ∨ matchesDigitsAndDots domain ∨
          ¬ (domain.splitOn '.').all matchesLabel then
        throw invalidTarget
      return (domain, false)

/-- A label of a domain. -/
structure IsLabel (label : Text) : Prop where
  ne_nil : label ≠ []
  length : label.length ≤ 63
  chars : ∀ c ∈ label, c.isLower = true ∨ c.isDigit = true ∨ c = '-'
  head : label.head? ≠ some '-'
  last : label.getLast? ≠ some '-'

/-- A domain as it is accepted. -/
structure IsDomain (domain : Text) : Prop where
  length : domain.length ≤ 253
  labels : ∀ label ∈ domain.splitOn '.', IsLabel label
  digitsAndDots : ¬ ∀ c ∈ domain, c.isDigit = true ∨ c = '.'

/-! ### Labels -/

section Labels

theorem isLetterOrDigit_iff {c : Char} :
    isLetterOrDigit c = true ↔ c.isLower = true ∨ c.isDigit = true := by
  rw [isLetterOrDigit, Bool.or_eq_true]

theorem isLetterOrDigit_of_ne {c : Char}
    (h : c.isLower = true ∨ c.isDigit = true ∨ c = '-') (hne : c ≠ '-') :
    isLetterOrDigit c = true := by
  rw [isLetterOrDigit_iff]
  exact h.imp_right fun h => h.resolve_right hne

theorem ne_hyphen_of_isLetterOrDigit {c : Char} (h : isLetterOrDigit c = true) : c ≠ '-' := by
  intro hhyphen
  rw [hhyphen] at h
  exact absurd h (by decide)

theorem isLabel_singleton_iff {c : Char} : IsLabel [c] ↔ isLetterOrDigit c = true := by
  constructor
  · intro h
    exact isLetterOrDigit_of_ne (h.chars c (by simp)) (by simpa using h.head)
  · intro hc
    have hne := ne_hyphen_of_isLetterOrDigit hc
    refine ⟨by simp, by simp, ?_, by simpa using hne, by simpa using hne⟩
    intro d hd
    rw [List.mem_singleton.mp hd, ← or_assoc]
    exact .inl (isLetterOrDigit_iff.mp hc)

theorem isLabel_cons_append_iff {c d : Char} {middle : Text} :
    IsLabel (c :: (middle ++ [d])) ↔ isLetterOrDigit c = true ∧
      (∀ e ∈ middle, isLetterOrDigit e = true ∨ e = '-') ∧ middle.length ≤ 61 ∧
        isLetterOrDigit d = true := by
  have hlast : (c :: (middle ++ [d])).getLast? = some d := by
    rw [List.getLast?_cons, List.getLast?_concat, Option.getD_some]
  have hlength : (c :: (middle ++ [d])).length = middle.length + 2 := by simp
  constructor
  · intro h
    have hd : d ≠ '-' := fun heq => h.last (hlast.trans (congrArg some heq))
    have hle := h.length
    rw [hlength] at hle
    refine ⟨isLetterOrDigit_of_ne (h.chars c (by simp)) (by simpa using h.head), ?_, by omega,
      isLetterOrDigit_of_ne (h.chars d (by simp)) hd⟩
    intro e he
    rw [isLetterOrDigit_iff, or_assoc]
    exact h.chars e (by simp [he])
  · intro ⟨hc, hmiddle, hle, hd⟩
    refine ⟨by simp, by omega, ?_, by simpa using ne_hyphen_of_isLetterOrDigit hc, ?_⟩
    · intro e he
      rw [← or_assoc, ← isLetterOrDigit_iff]
      simp only [List.mem_cons, List.mem_append, List.not_mem_nil, or_false] at he
      rcases he with rfl | he | rfl
      · exact .inl hc
      · exact hmiddle e he
      · exact .inl hd
    · rw [hlast, ne_eq, Option.some.injEq]
      exact ne_hyphen_of_isLetterOrDigit hd

/-- The expression matches the labels. -/
theorem matchesLabel_iff {label : Text} : matchesLabel label = true ↔ IsLabel label := by
  cases label with
  | nil => exact ⟨nofun, fun h => absurd rfl h.ne_nil⟩
  | cons c rest =>
      cases rest using List.reverseRecOn with
      | nil =>
          rw [isLabel_singleton_iff]
          simp [matchesLabel]
      | append_singleton middle d =>
          rw [isLabel_cons_append_iff]
          simp [matchesLabel, and_assoc]

/-- A text without characters has an empty label. -/
theorem ne_nil_of_labels {domain : Text} (h : ∀ label ∈ domain.splitOn '.', IsLabel label) :
    domain ≠ [] := by
  intro hnil
  subst hnil
  exact (h [] (by simp)).ne_nil rfl

end Labels

/-! ### What is accepted -/

section Accepted

variable {toAscii : Text → Option Bytes} {value domain : Text} {isIp : Bool}

/-- The checks of a domain. -/
theorem isDomain_iff : ¬ (253 < domain.length ∨ matchesDigitsAndDots domain = true ∨
    ¬ (domain.splitOn '.').all matchesLabel = true) ↔ IsDomain domain := by
  have hlabels : (domain.splitOn '.').all matchesLabel = true ↔
      ∀ label ∈ domain.splitOn '.', IsLabel label := by
    rw [List.all_eq_true]
    exact forall₂_congr fun _ _ => matchesLabel_iff
  have hdigits : domain ≠ [] → (matchesDigitsAndDots domain = true ↔
      ∀ c ∈ domain, c.isDigit = true ∨ c = '.') := by
    intro hne
    simp [matchesDigitsAndDots, hne]
  rw [hlabels, not_or, not_or, not_lt, not_not]
  constructor
  · intro h
    obtain ⟨hlength, hnumbers, hall⟩ := h
    rw [hdigits (ne_nil_of_labels hall)] at hnumbers
    exact ⟨hlength, hall, hnumbers⟩
  · intro h
    refine ⟨h.length, ?_, h.labels⟩
    rw [hdigits (ne_nil_of_labels h.labels)]
    exact h.digitsAndDots

/-- A text that is looked at. -/
def Admitted (value : Text) : Prop := value ≠ [] ∧ value.length ≤ 253 ∧ '%' ∉ value

/-- What a lookup accepts. -/
theorem parseLookupTarget_eq_ok_iff : parseLookupTarget toAscii value = .ok (domain, isIp) ↔
    Admitted (strip value) ∧
    ((∃ address, ipAddress (strip value) = some address ∧ address.str = domain ∧ isIp = true) ∨
      (ipAddress (strip value) = none ∧ asciiDomain toAscii (strip value) = some domain ∧
        IsDomain domain ∧ isIp = false)) := by
  have hadmitted : Admitted (strip value) ↔
      ¬ (strip value = [] ∨ 253 < (strip value).length ∨ '%' ∈ strip value) := by
    rw [not_or, not_or, not_lt]
    exact Iff.rfl
  rw [hadmitted]
  unfold parseLookupTarget
  dsimp only
  by_cases hvalue : strip value = [] ∨ 253 < (strip value).length ∨ '%' ∈ strip value
  · rw [if_pos hvalue]
    exact ⟨nofun, fun h => absurd hvalue h.1⟩
  · rw [if_neg hvalue, and_iff_right hvalue]
    cases haddress : ipAddress (strip value) with
    | some address =>
        simp [pure, Except.pure]
    | none =>
        dsimp only
        cases hfound : asciiDomain toAscii (strip value) with
        | none => simp [throw, throwThe, MonadExceptOf.throw]
        | some found =>
            dsimp only
            by_cases hdomain : IsDomain found
            · rw [if_neg (isDomain_iff.mpr hdomain)]
              constructor
              · intro h
                cases h
                exact .inr ⟨rfl, rfl, hdomain, rfl⟩
              · intro h
                rcases h with ⟨address, haddress, -⟩ | ⟨-, hsame, -, rfl⟩
                · cases haddress
                · cases hsame
                  rfl
            · rw [if_pos (not_not.mp fun h => hdomain (isDomain_iff.mp h))]
              constructor
              · exact nofun
              · intro h
                rcases h with ⟨address, haddress, -⟩ | ⟨-, hsame, hisDomain, -⟩
                · cases haddress
                · cases hsame
                  exact absurd hisDomain hdomain

end Accepted

/-! ### What is read as itself -/

section Canonical

variable {toAscii : Text → Option Bytes} {domain : Text}

theorem removeDot_cases (text : Text) : removeDot text = text ∨ text = removeDot text ++ ['.'] := by
  rw [removeDot]
  cases hdrop : text.dropSuffix? ['.'] with
  | none => exact .inl rfl
  | some front =>
      obtain ⟨dot, htext, hdot⟩ := List.dropSuffix?_eq_some_iff.mp hdrop
      rw [eq_of_beq hdot] at htext
      exact .inr htext

/-- The encoding of an ASCII text. -/
theorem encodeIdna_of_ascii {text : Text} (h : ∀ c ∈ text, isAscii c = true) :
    encodeIdna toAscii text =
      if [] ∈ (text.splitOn '.').dropLast ∨ ∃ label ∈ text.splitOn '.', 64 ≤ label.length then none
      else some (text.map fun c => UInt8.ofNat c.toNat) := by
  rw [encodeIdna, if_pos (List.all_eq_true.mpr h)]

/-- The characters of a domain. -/
theorem IsDomain.chars (h : IsDomain domain) {c : Char} (hc : c ∈ domain) :
    c.isLower = true ∨ c.isDigit = true ∨ c = '-' ∨ c = '.' := by
  have hjoin : ['.'].intercalate (domain.splitOn '.') = domain := List.intercalate_splitOn '.'
  rw [← hjoin] at hc
  rcases mem_intercalate hc with hc | ⟨label, hlabel, hc⟩
  · exact .inr (.inr (.inr (List.mem_singleton.mp hc)))
  · exact ((h.labels label hlabel).chars c hc).imp_right (Or.imp_right .inl)

/-- What holds of the characters of domains. -/
theorem of_domainChar {c : Char}
    (h : c.isLower = true ∨ c.isDigit = true ∨ c = '-' ∨ c = '.') :
    isAscii c = true ∧ isSpace c = false ∧ c ≠ '%' ∧ c ≠ ':' ∧ c.toLower = c := by
  have hunreserved : isUnreserved c = true := by
    rcases h with h | h | rfl | rfl
    · have halpha : c.isAlphanum = true := by
        show ((c.isUpper || c.isLower) || c.isDigit) = true
        rw [h, Bool.or_true, Bool.true_or]
      rw [isUnreserved, halpha, Bool.true_or]
    · have halpha : c.isAlphanum = true := by
        show (c.isAlpha || c.isDigit) = true
        rw [h, Bool.or_true]
      rw [isUnreserved, halpha, Bool.true_or]
    · decide
    · decide
  have hascii := isAscii_of_isUnreserved hunreserved
  refine ⟨hascii, isSpace_of_isUnreserved hunreserved, ?_, ?_, ?_⟩
  · intro hpercent
    rw [hpercent] at hunreserved
    exact absurd hunreserved (by decide)
  · intro hcolon
    rw [hcolon] at hunreserved
    exact absurd hunreserved (by decide)
  · have hlower : ∀ c, isAscii c = true →
        c.isLower = true ∨ c.isDigit = true ∨ c = '-' ∨ c = '.' → c.toLower = c := by
      intro c
      apply forall_of_isAscii
      decide +kernel
    exact hlower c hascii h

theorem IsDomain.lowerText (h : IsDomain domain) : lowerText domain = domain :=
  (List.map_congr_left fun _ hc => (of_domainChar (h.chars hc)).2.2.2.2).trans (List.map_id domain)

theorem IsDomain.not_mem_percent (h : IsDomain domain) : '%' ∉ domain :=
  fun hc => (of_domainChar (h.chars hc)).2.2.1 rfl

/-- A domain is no address. -/
theorem IsDomain.ipAddress (h : IsDomain domain) : ipAddress domain = none := by
  cases haddress : IpAddress.ipAddress domain with
  | none => rfl
  | some address =>
      rcases colon_or_isDigit_of_ipAddress haddress with hcolon | hdigits
      · exact absurd rfl (of_domainChar (h.chars hcolon)).2.2.2.1
      · exact absurd hdigits h.digitsAndDots

/-- A domain does not end with a dot. -/
theorem not_isDomain_append_dot {text : Text} : ¬ IsDomain (text ++ ['.']) := by
  intro h
  have hempty : [] ∈ (text ++ ['.']).splitOn '.' := by
    rw [List.splitOn_append_cons_self, List.splitOn_nil]
    simp
  exact (h.labels [] hempty).ne_nil rfl

theorem IsDomain.asciiDomain (h : IsDomain domain) : asciiDomain toAscii domain = some domain := by
  have hdot : removeDot domain = domain := by
    refine (removeDot_cases domain).resolve_right fun hdotted => ?_
    rw [hdotted] at h
    exact not_isDomain_append_dot h
  have hascii : ∀ c ∈ domain, isAscii c = true := fun c hc => (of_domainChar (h.chars hc)).1
  have hlabels : ¬ ([] ∈ (domain.splitOn '.').dropLast ∨
      ∃ label ∈ domain.splitOn '.', 64 ≤ label.length) := by
    intro hbad
    rcases hbad with hempty | ⟨label, hlabel, hlong⟩
    · exact (h.labels [] ((List.dropLast_subset _) hempty)).ne_nil rfl
    · exact absurd (h.labels label hlabel).length (Nat.not_le_of_lt hlong)
  rw [Reputation.asciiDomain, hdot, encodeIdna_of_ascii hascii, if_neg hlabels, Option.bind_some,
    decodeAscii_of_ascii hascii, Option.map_some, h.lowerText]

/-- A domain is read as itself. -/
theorem parseLookupTarget_of_isDomain (h : IsDomain domain) :
    parseLookupTarget toAscii domain = .ok (domain, false) := by
  have hstrip : strip domain = domain :=
    strip_eq_self fun _ hc => (of_domainChar (h.chars hc)).2.1
  rw [parseLookupTarget_eq_ok_iff, hstrip]
  exact ⟨⟨ne_nil_of_labels h.labels, h.length, h.not_mem_percent⟩,
    .inr ⟨h.ipAddress, h.asciiDomain, h, rfl⟩⟩

/-- An address is read as itself exactly if it has no scope id. -/
theorem parseLookupTarget_str_iff {address : IpAddress} (h : address.Valid) :
    parseLookupTarget toAscii address.str = .ok (address.str, true) ↔ address.scopeId = none := by
  have hread := ipAddress_str h
  rw [parseLookupTarget_eq_ok_iff]
  constructor
  · intro haccepted
    obtain ⟨⟨-, -, hpercent⟩, -⟩ := haccepted
    rw [scopeId_eq_none_iff hread]
    exact fun hmem => hpercent (mem_strip_of_mem hmem rfl)
  · intro hscope
    have hspace : ∀ c ∈ "0123456789abcdef:.".toList, isSpace c = false := by decide
    have hstrip : strip address.str = address.str :=
      strip_eq_self fun c hc => hspace c (of_decide_eq_true (isAddressChar_of_mem_str hscope hc))
    rw [hstrip]
    exact ⟨⟨str_ne_nil h, (length_str_le h hscope).trans (by decide),
      (scopeId_eq_none_iff hread).mp hscope⟩, .inl ⟨address, hread, rfl, rfl⟩⟩

end Canonical

/-! ### Spellings -/

section Spellings

variable {toAscii : Text → Option Bytes} {value text domain domain' : Text} {isIp : Bool}

/-- A spelling without the case of its letters and the whitespace around it. -/
def plain (value : Text) : Text := lowerText (strip value)

/-- Two texts differ in the case of letters, the whitespace around them and one trailing dot at
most. -/
def SameTarget (value value' : Text) : Prop :=
  plain value' = plain value ∨ plain value' = plain value ++ ['.'] ∨
    plain value = plain value' ++ ['.']

/-- The plain spellings of a target. -/
def Spells (text target : Text) : Prop :=
  ('%' ∉ text ∧ ∃ address, ipAddress text = some address ∧ address.str = target) ∨
    (IsDomain target ∧ (text = target ∨ text = target ++ ['.']))

theorem asciiDomain_of_ascii (hascii : ∀ c ∈ text, isAscii c = true)
    (h : asciiDomain toAscii text = some domain) : lowerText (removeDot text) = domain := by
  have hremoved : ∀ c ∈ removeDot text, isAscii c = true := by
    intro c hc
    refine hascii c ?_
    rcases removeDot_cases text with hsame | hdotted
    · exact hsame ▸ hc
    · rw [hdotted]
      exact List.mem_append_left _ hc
  rw [asciiDomain, encodeIdna_of_ascii hremoved] at h
  split at h
  · cases h
  · rw [Option.bind_some, decodeAscii_of_ascii hremoved, Option.map_some] at h
    exact Option.some.inj h

/-- An ASCII text that is accepted spells what is returned. -/
theorem spells_of_parseLookupTarget (hascii : ∀ c ∈ value, isAscii c = true)
    (h : parseLookupTarget toAscii value = .ok (domain, isIp)) : Spells (plain value) domain := by
  obtain ⟨⟨-, -, hpercent⟩, h⟩ := parseLookupTarget_eq_ok_iff.mp h
  rcases h with ⟨address, haddress, hstr, -⟩ | ⟨-, hname, hdomain, -⟩
  · refine .inl ⟨by rwa [plain, mem_lowerText (by decide)], address, ?_, hstr⟩
    rw [plain, ipAddress_lowerText hpercent, haddress]
  · have hlower : lowerText (removeDot (strip value)) = domain :=
      asciiDomain_of_ascii (fun c hc => hascii c (mem_of_mem_strip hc)) hname
    refine .inr ⟨hdomain, ?_⟩
    rcases removeDot_cases (strip value) with hsame | hdotted
    · rw [hsame] at hlower
      exact .inl hlower
    · right
      rw [plain, hdotted, ← hlower]
      exact List.map_append

/-- No spelling of a domain is an address. -/
theorem IsDomain.ipAddress_spelling (h : IsDomain domain)
    (htext : text = domain ∨ text = domain ++ ['.']) : IpAddress.ipAddress text = none := by
  rcases htext with rfl | rfl
  · exact h.ipAddress
  · exact ipAddress_append_dot h.not_mem_percent

theorem Spells.eq (h : Spells text domain) (h' : Spells text domain') : domain' = domain := by
  rcases h with ⟨-, address, haddress, rfl⟩ | ⟨hdomain, htext⟩
  · rcases h' with ⟨-, address', haddress', rfl⟩ | ⟨hdomain', htext'⟩
    · rw [Option.some.inj (haddress.symm.trans haddress')]
    · rw [hdomain'.ipAddress_spelling htext'] at haddress
      cases haddress
  · rcases h' with ⟨-, address', haddress', rfl⟩ | ⟨hdomain', htext'⟩
    · rw [hdomain.ipAddress_spelling htext] at haddress'
      cases haddress'
    · rcases htext with rfl | rfl
      · rcases htext' with rfl | rfl
        · rfl
        · exact absurd hdomain not_isDomain_append_dot
      · rcases htext' with rfl | hdots
        · exact absurd hdomain' not_isDomain_append_dot
        · exact (List.append_cancel_right hdots).symm

/-- A dot after a spelling makes no other target. -/
theorem Spells.eq_of_append_dot (h : Spells text domain) (h' : Spells (text ++ ['.']) domain') :
    domain' = domain := by
  rcases h' with ⟨hpercent, address, haddress, -⟩ | ⟨hdomain', rfl | hdots⟩
  · rw [ipAddress_append_dot fun hc => hpercent (List.mem_append_left _ hc)] at haddress
    cases haddress
  · exact absurd hdomain' not_isDomain_append_dot
  · exact h.eq (.inr ⟨hdomain', .inl (List.append_cancel_right hdots)⟩)

/-- **A lookup returns a canonical form.** It is read as itself, a domain has the form of a domain,
and ASCII spellings that differ in case, surrounding whitespace or a trailing dot have the same. -/
theorem parseLookupTarget_canonical
    (h : parseLookupTarget toAscii value = .ok (domain, isIp)) :
    parseLookupTarget toAscii domain = .ok (domain, isIp) ∧
    (isIp = false → IsDomain domain) ∧
    ∀ value' domain' isIp', (∀ c ∈ value, isAscii c = true) → (∀ c ∈ value', isAscii c = true) →
      SameTarget value value' → parseLookupTarget toAscii value' = .ok (domain', isIp') →
      domain' = domain := by
  obtain ⟨⟨-, -, hpercent⟩, hread⟩ := parseLookupTarget_eq_ok_iff.mp h
  refine ⟨?_, ?_, ?_⟩
  · rcases hread with ⟨address, haddress, rfl, rfl⟩ | ⟨-, -, hdomain, rfl⟩
    · rw [parseLookupTarget_str_iff (valid_of_ipAddress haddress), scopeId_eq_none_iff haddress]
      exact hpercent
    · exact parseLookupTarget_of_isDomain hdomain
  · intro hfalse
    rcases hread with ⟨-, -, -, htrue⟩ | ⟨-, -, hdomain, -⟩
    · rw [hfalse] at htrue
      cases htrue
    · exact hdomain
  · intro value' domain' isIp' hascii hascii' hsame h'
    have hspells := spells_of_parseLookupTarget hascii h
    have hspells' := spells_of_parseLookupTarget hascii' h'
    rcases hsame with hsame | hdotted | hdotted
    · rw [hsame] at hspells'
      exact hspells.eq hspells'
    · rw [hdotted] at hspells'
      exact hspells.eq_of_append_dot hspells'
    · rw [hdotted] at hspells
      exact (hspells'.eq_of_append_dot hspells).symm

theorem parseLookupTarget_canonical_example :
    let toAscii : Text → Option Bytes := fun _ => none
    let domain := "example.com".toList
    parseLookupTarget toAscii domain = .ok (domain, false) ∧ IsDomain domain ∧
    ∀ domain' isIp', parseLookupTarget toAscii "EXAMPLE.com".toList = .ok (domain', isIp') →
      domain' = domain := by
  have h : parseLookupTarget (fun _ => none) " Example.COM. ".toList =
      .ok ("example.com".toList, false) := by decide +kernel
  obtain ⟨hself, hdomain, hsame⟩ := parseLookupTarget_canonical h
  refine ⟨hself, hdomain rfl, ?_⟩
  intro domain' isIp' h'
  exact hsame _ domain' isIp' (by decide) (by decide) (.inr (.inr (by decide +kernel))) h'

end Spellings

end PxManager.Reputation
