import PxManager.Core.Python
import PxManager.Health.Hosts

/-!
# PxManager.Export.Hosts

What the exporters of `main.py` share: the fields of a host entry with their fallbacks, and the
choice of the selected entry.

Entries are objects, and some code compares them by identity (`is`), some by `==`, and lists do
both (`in`, `index`). So an entry comes with its identity.
-/

namespace PxManager.Export

open PxManager.Core PxManager.Health

/-- A host entry as an object: its identity, and what is in it. -/
structure HostObject where
  identity : Nat
  data : HostData

/-- `a is b`. -/
def HostObject.is (a b : HostObject) : Bool := a.identity = b.identity

/-- How lists compare their elements with a value: `a is b or a == b`. -/
def HostObject.same (a b : HostObject) : Bool := a.is b || sameData a.data b.data

/-- `host_data.get(key)`. -/
def field (hostData : HostData) (key : String) : Json := (hostData.get? key).getD .null

/-- `host_data["host"]`. -/
def hostOf (hostData : HostData) : Except PyError Json :=
  match hostData.get? "host" with
  | some host => .ok host
  | none => .error .keyError

/-- `host_data.get("port", default_port)`. -/
def portOf (hostData : HostData) (defaultPort : String) : Json :=
  (hostData.get? "port").getD (.str defaultPort)

/-- `host_data.get("title") or host_data.get("code") or host`. -/
def titleOf (hostData : HostData) (host : Json) : Json :=
  ((field hostData "title").or (field hostData "code")).or host

/-- `str(host_data.get("code", "")).upper()`. -/
def codeOf (py : Builtins) (hostData : HostData) : Text :=
  py.upper (py.str ((hostData.get? "code").getD (.str "")))

/-- `item.get("selected")`, as a condition. -/
def isSelected (item : HostObject) : Bool := (field item.data "selected").truthy

/-- `get_selected_host_data`. -/
def getSelectedHostData (hostsData : List HostObject) : Option HostObject :=
  match hostsData.find? isSelected with
  | some item => some item
  | none => hostsData.head?

/-- `hosts_data.index(selected_host) if selected_host in hosts_data else None`. -/
def indexIn (hostsData : List HostObject) (selectedHost : HostObject) : Option Nat :=
  hostsData.findIdx? fun item => item.same selectedHost

/-- `order_selected_first`. -/
def orderSelectedFirst (hostsData : List HostObject) (values : List Text)
    (selectedHost : Option HostObject) : List Text :=
  match selectedHost.bind (indexIn hostsData) with
  | none => values
  | some selectedIndex =>
      match values[selectedIndex]? with
      | none => values
      | some selectedValue => selectedValue :: values.eraseIdx selectedIndex

/-! ### The index of the selected entry -/

/-- The index of the first entry that is flagged, or 0. -/
def selectedIndex (hostsData : List HostObject) : Nat :=
  (hostsData.findIdx? isSelected).getD 0

/-- An entry that is equal to a flagged one is flagged. -/
theorem isSelected_of_sameData {a b : HostObject} (h : sameData a.data b.data = true)
    (hb : isSelected b = true) : isSelected a = true := by
  unfold isSelected field at hb ⊢
  have hsame := sameData_iff.mp h "selected"
  generalize a.data.get? "selected" = value, b.data.get? "selected" = value' at hb hsame ⊢
  cases hsame with
  | none => exact hb
  | some heq => exact (Json.truthy_of_eq heq).trans hb

/-- The selected entry stands at `selectedIndex`. No entry before it is flagged; and if there are
such entries, it is flagged itself. -/
theorem getSelectedHostData_spec {hostsData : List HostObject} (hne : hostsData ≠ []) :
    ∃ item, getSelectedHostData hostsData = some item ∧
      hostsData[selectedIndex hostsData]? = some item ∧
      ∀ j < selectedIndex hostsData, isSelected item = true ∧
        ∀ other, hostsData[j]? = some other → isSelected other = false := by
  unfold getSelectedHostData selectedIndex
  cases hfind : hostsData.findIdx? isSelected with
  | none =>
      have hnone : hostsData.find? isSelected = none := by
        rw [List.find?_eq_none]
        intro item hitem
        rw [List.findIdx?_eq_none_iff.mp hfind item hitem]
        decide
      obtain ⟨item, items, rfl⟩ := List.exists_cons_of_ne_nil hne
      rw [hnone]
      exact ⟨item, rfl, rfl, fun j hj => absurd hj (Nat.not_lt_zero j)⟩
  | some i =>
      obtain ⟨hi, hflag, hbefore⟩ := List.findIdx?_eq_some_iff_getElem.mp hfind
      have hsome : hostsData.find? isSelected = some hostsData[i] := by
        rw [List.find?_eq_some_iff_getElem]
        exact ⟨hflag, i, hi, rfl, fun j hj => by simpa using hbefore j hj⟩
      rw [hsome]
      refine ⟨hostsData[i], rfl, List.getElem?_eq_getElem hi, ?_⟩
      intro j hj
      refine ⟨hflag, ?_⟩
      intro other hother
      obtain ⟨hlt, rfl⟩ := List.getElem?_eq_some_iff.mp hother
      simpa using hbefore j hj

/-- Lists of distinct objects find the selected entry at its own place: an equal entry before it
would be flagged too. -/
theorem indexIn_getSelectedHostData {hostsData : List HostObject} (hne : hostsData ≠ [])
    (hdistinct : (hostsData.map HostObject.identity).Nodup) :
    (getSelectedHostData hostsData).bind (indexIn hostsData) =
      some (selectedIndex hostsData) := by
  obtain ⟨item, hget, hitem, hbefore⟩ := getSelectedHostData_spec hne
  obtain ⟨hi, rfl⟩ := List.getElem?_eq_some_iff.mp hitem
  rw [hget, Option.bind_some, indexIn, List.findIdx?_eq_some_iff_getElem]
  refine ⟨hi, by simp [HostObject.same, HostObject.is], ?_⟩
  intro j hj hsame
  obtain ⟨hflag, hother⟩ := hbefore j hj
  rw [HostObject.same, Bool.or_eq_true] at hsame
  rcases hsame with his | hdata
  · have hne := List.pairwise_iff_getElem.mp hdistinct j (selectedIndex hostsData)
      (by simpa using hj.trans hi) (by simpa using hi) hj
    rw [List.getElem_map, List.getElem_map] at hne
    exact hne (of_decide_eq_true his)
  · have hflag' := isSelected_of_sameData hdata hflag
    rw [hother _ (List.getElem?_eq_getElem (hj.trans hi))] at hflag'
    cases hflag'

end PxManager.Export
