import PxManager.Core.Dict
import PxManager.Core.JsonEq

/-!
# PxManager.Health.Hosts

The host entries of `main.py`, and the check that every health handler makes first.

A host entry is a JSON object, so each key is looked up as the code does it, with the default that
it gives.
-/

namespace PxManager.Health

open PxManager.Core

/-- An entry of `hosts_data`, or of the Telegram proxies. -/
abbrev HostData := Dict String Json

/-- `a == b` of two entries. -/
def sameData (a b : HostData) : Bool :=
  a.entries.length = b.entries.length &&
    a.entries.all fun e => (b.get? e.1).any fun value => Json.eq e.2 value

/-- `ALL_HEALTH_CHECKS`. -/
def allHealthChecks : List String := ["dns", "ping", "connect", "head"]

/-- `find_host_data`. -/
def findHostData (hosts : List HostData) (host : String) : Option HostData :=
  if host = "" then none
  else hosts.find? fun item => (item.get? "host").bind Json.asStr? = some host

/-- `host_data.get("health_checks") or ALL_HEALTH_CHECKS`. -/
def healthChecks (hostData : HostData) : List String :=
  match hostData.get? "health_checks" with
  | some (.arr (check :: checks)) => (check :: checks).filterMap Json.asStr?
  | _ => allHealthChecks

/-- `get_allowed_health_host_for_check`: the entry, or the error of the response with status
400. -/
def getAllowedHealthHostForCheck (hosts : List HostData) (host checkName : String) :
    Except String HostData :=
  match findHostData hosts host with
  | none => .error "host is not allowed"
  | some hostData =>
      if checkName ∈ healthChecks hostData then .ok hostData
      else .error "check is not allowed for host"

/-- Entries are equal if each key has equal values in them. -/
theorem sameData_iff {a b : HostData} :
    sameData a b = true ↔ ∀ key, Json.SameMember (a.get? key) (b.get? key) := by
  rw [sameData, Bool.and_eq_true, decide_eq_true_eq, List.all_eq_true]
  constructor
  · rintro ⟨hlength, hall⟩
    -- the keys of `a` are keys of `b`, and there are as many of them
    have hsubset : a.keys ⊆ b.keys := by
      intro k hk
      obtain ⟨e, he, rfl⟩ := List.mem_map.mp hk
      obtain ⟨other, hother, -⟩ := (Option.any_eq_true _ _).mp (hall e he)
      exact Dict.mem_keys_of_get? hother
    have hperm := (List.subperm_of_subset a.keys_nodup hsubset).perm_of_length_le
      (by simp [Dict.keys, hlength])
    intro key
    cases hget : a.get? key with
    | none =>
        rw [Dict.get?_eq_none_iff, hperm.mem_iff] at hget
        rw [Dict.get?_eq_none_iff.mpr hget]
        exact .none
    | some value =>
        obtain ⟨other, hother, heq⟩ :=
          (Option.any_eq_true _ _).mp (hall _ (Dict.mem_entries_iff.mpr hget))
        rw [hother]
        exact .some heq
  · intro hsame
    constructor
    · have hkeys : a.keys.Perm b.keys := by
        rw [List.perm_ext_iff_of_nodup a.keys_nodup b.keys_nodup]
        intro key
        rw [← not_iff_not, ← Dict.get?_eq_none_iff, ← Dict.get?_eq_none_iff]
        exact (hsame key).eq_none_iff
      simpa [Dict.keys] using hkeys.length_eq
    · intro e he
      have hmember := hsame e.1
      rw [Dict.mem_entries_iff.mp he] at hmember
      generalize b.get? e.1 = other at hmember
      cases hmember with
      | some heq => exact heq

theorem host_of_findHostData {hosts : List HostData} {host : String} {hostData : HostData}
    (h : findHostData hosts host = some hostData) : hostData.get? "host" = some (.str host) := by
  unfold findHostData at h
  split at h
  · cases h
  · have hhost := List.find?_some h
    rw [decide_eq_true_eq] at hhost
    cases hget : hostData.get? "host" with
    | none => simp [hget] at hhost
    | some value =>
        rw [hget] at hhost
        cases value <;> simp_all [Json.asStr?]

/-- The handlers get the entry of the host that was asked for. -/
theorem host_of_getAllowedHealthHostForCheck {hosts : List HostData} {host checkName : String}
    {hostData : HostData}
    (h : getAllowedHealthHostForCheck hosts host checkName = .ok hostData) :
    hostData.get? "host" = some (.str host) := by
  unfold getAllowedHealthHostForCheck at h
  split at h
  · cases h
  · next hfind =>
      split at h
      · cases h
        exact host_of_findHostData hfind
      · cases h

end PxManager.Health
