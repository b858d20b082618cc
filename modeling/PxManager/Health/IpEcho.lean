import PxManager.Core.Lines
import PxManager.Reputation.LookupTarget

/-!
# PxManager.Health.IpEcho

`extract_ip_echo` of `main.py`: the address in the answer of an IP-echo endpoint.

The address is written into the answer of the check and is asked about like the target of a lookup.
A lookup refuses every text with a percent sign, and an echo does not: a scope id is kept.
-/

namespace PxManager.Health

open PxManager.Core
open PxManager.Core.IpAddress
open PxManager.Reputation

/-- The text that is read as an address. -/
def ipEchoValue (body : Text) : Text :=
  match (splitlines body).find? ("ip=".toList.isPrefixOf ·) with
  | some line => strip ((line.dropPrefix? "ip=".toList).getD line)
  | none => strip body

/-- `extract_ip_echo`. -/
def extractIpEcho (body : Text) : Text :=
  match ipAddress (ipEchoValue body) with
  | some address => address.str
  | none => []

/-! ### Answers -/

/-- An endpoint answers with a value: after `ip=` on the first line that starts so, or in the whole
body if there is no such line. -/
inductive Echoes (body : Text) : Text → Prop
  | line {before after : List Text} {rest : Text} :
      splitlines body = before ++ ("ip=".toList ++ rest) :: after →
      (∀ line ∈ before, ¬ "ip=".toList <+: line) → Echoes body (strip rest)
  | body : (∀ line ∈ splitlines body, ¬ "ip=".toList <+: line) → Echoes body (strip body)

/-- An IPv6 address with a scope id. -/
def HasScopeId (text : Text) : Prop :=
  ∃ address id hextets, text = address ++ '%' :: id ∧
    ipAddress address = some (.ipv6 hextets none) ∧ id ≠ [] ∧ '%' ∉ id ∧ '/' ∉ id

section Echo

variable {toAscii : Text → Option Bytes} {body value : Text} {address : IpAddress}

/-- The value of an answer is what is read. -/
theorem echoes_iff : Echoes body value ↔ value = ipEchoValue body := by
  have hplain : ∀ {lines : List Text}, (∀ line ∈ lines, ¬ "ip=".toList <+: line) ↔
      lines.find? ("ip=".toList.isPrefixOf ·) = none := by
    intro lines
    simp only [List.find?_eq_none, List.isPrefixOf_iff_prefix]
  constructor
  · intro h
    cases h with
    | @line before after rest hlines hbefore =>
        have hfind : (splitlines body).find? ("ip=".toList.isPrefixOf ·) =
            some ("ip=".toList ++ rest) := by
          rw [hlines, List.find?_append, hplain.mp hbefore, Option.none_or,
            List.find?_cons_of_pos (List.isPrefixOf_iff_prefix.mpr (List.prefix_append _ _))]
        rw [ipEchoValue, hfind]
        dsimp only
        rw [List.dropPrefix?_append_of_beq rest (BEq.refl _)]
        rfl
    | body hlines => rw [ipEchoValue, hplain.mp hlines]
  · intro heq
    subst heq
    unfold ipEchoValue
    split
    · next line hfind =>
        obtain ⟨hstarts, before, after, hlines, hbefore⟩ := List.find?_eq_some_iff_append.mp hfind
        obtain ⟨rest, rfl⟩ := List.isPrefixOf_iff_prefix.mp hstarts
        rw [List.dropPrefix?_append_of_beq rest (BEq.refl _)]
        refine .line hlines ?_
        intro line hline hfront
        have hnot := hbefore line hline
        rw [List.isPrefixOf_iff_prefix.mpr hfront] at hnot
        cases hnot
    · next hfind => exact .body (hplain.mpr hfind)

/-- A text is an address with a scope id exactly if it is read as one. -/
theorem hasScopeId_iff :
    HasScopeId value ↔ ∃ address, ipAddress value = some address ∧ address.scopeId ≠ none := by
  constructor
  · intro h
    obtain ⟨front, id, hextets, rfl, hfront, hne, hpercent, hslash⟩ := h
    rcases ipAddress_cases hfront with ⟨_, _, hcases⟩ |
      ⟨addr, _, _, hfrontSlash, hsplit, hparse, hcases⟩
    · cases hcases
    · cases hcases
      have hplain := (scopeId_eq_none_iff hfront).mp rfl
      rw [splitScopeId_of_not_mem hplain] at hsplit
      cases hsplit
      exact ⟨_, ipAddress_append_scopeId hparse hfrontSlash hplain hne hpercent hslash, nofun⟩
  · intro h
    obtain ⟨address, haddress, hscope⟩ := h
    rcases ipAddress_cases haddress with ⟨octets, _, rfl⟩ |
      ⟨addr, hextets, scopeId, hslash, hsplit, hparse, rfl⟩
    · exact absurd rfl hscope
    · obtain ⟨id, rfl⟩ := Option.ne_none_iff_exists'.mp hscope
      obtain ⟨hne, hpercent, -⟩ := (splitScopeId_spec hsplit).2 id rfl
      obtain ⟨rfl, haddr⟩ := splitScopeId_eq_some_some hsplit
      rw [List.mem_append, List.mem_cons, not_or, not_or] at hslash
      exact ⟨addr, id, hextets, rfl, ipAddress_of_parseIpv6 hparse hslash.1 haddr, hne, hpercent,
        hslash.2.2⟩

/-- **A lookup accepts an echoed address, as it is, unless it has a scope id.** -/
theorem parseLookupTarget_extractIpEcho_iff :
    (extractIpEcho body ≠ [] →
      parseLookupTarget toAscii (extractIpEcho body) = .ok (extractIpEcho body, true)) ↔
    ¬ ∃ value, Echoes body value ∧ HasScopeId value := by
  simp only [echoes_iff, exists_eq_left, hasScopeId_iff]
  unfold extractIpEcho
  cases haddress : ipAddress (ipEchoValue body) with
  | none => exact iff_of_true (fun hne => absurd rfl hne) nofun
  | some address =>
      have hvalid := valid_of_ipAddress haddress
      simp only [Option.some.injEq, exists_eq_left', not_not]
      rw [← parseLookupTarget_str_iff hvalid]
      exact ⟨fun h => h (str_ne_nil hvalid), fun h _ => h⟩

/-- The scope id of a link-local address is kept by the one function and refused by the other. -/
theorem not_parseLookupTarget_extractIpEcho :
    ¬ ∀ (toAscii : Text → Option Bytes) (body : Text), extractIpEcho body ≠ [] →
      parseLookupTarget toAscii (extractIpEcho body) = .ok (extractIpEcho body, true) := by
  intro h
  have haccepted := h (fun _ => none) "fe80::1%eth0".toList (by decide +kernel)
  revert haccepted
  decide +kernel

end Echo

end PxManager.Health
