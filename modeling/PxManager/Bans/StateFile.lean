import PxManager.Bans.Persistent
import PxManager.Core.Python

/-!
# PxManager.Bans.StateFile

What the constructor of `PersistentBanStore` makes of any document in its state file.

Of each IP it takes the last element with a number after the time of loading, whatever the other
elements are. But `float()` of an integer from about 2^1024 on raises `OverflowError`, and nothing
handles that; and for an integer of more than 4300 digits, wherever it is, `json.loads` raises a
`ValueError` that is no `JSONDecodeError`. After the elements, the clock is read again, and bans
that are over by then are dropped.
-/

namespace PxManager.Bans

open PxManager.Core

/-! ### What is promised -/

/-- `value > now` of a number. A boolean is one, as in Python. -/
def isAfter (now : ℚ) (value : Json) : Bool :=
  match value.number? with
  | some (.finite q) => now < q
  | some .inf => true
  | _ => false

/-- `float(value)` of a number that is not too large and can be an expiry. -/
def toFloat? : Json → Option (WithTop ℚ)
  | .bool b => some (if b then 1 else 0 : ℚ)
  | .int n => (floatOfInt n).map (↑)
  | .float (.finite q) => some q
  | .float .inf => some ⊤
  | _ => none

/-- A member that is a string, or `-`. -/
def textMember (members : List (String × Json)) (key : String) : String :=
  ((Json.get? members key).bind Json.asStr?).getD "-"

/-- The ban that an element stands for: it is an object with a string `ip` and a number
`expires_at` after `now`. -/
def banOf (now : ℚ) : Json → Option Ban
  | .obj members =>
      match Json.get? members "ip", Json.get? members "expires_at" with
      | some (.str ip), some value =>
          if isAfter now value then
            (toFloat? value).map fun expiresAt =>
              { ip, expiresAt, os := textMember members "os",
                browser := textMember members "browser", device := textMember members "device" }
          else none
      | _, _ => none
  | _ => none

/-- The elements of a document that is a list. -/
def elementsOf : Json → List Json
  | .arr items => items
  | _ => []

/-- The last ban of an IP in a list. -/
def lastBan (now : ℚ) (items : List Json) (ip : String) : Option Ban :=
  ((items.filterMap (banOf now)).filter (·.ip = ip)).getLast?

/-- If an element has a string `ip` and an integer `expires_at` after `now`, then the integer is
not so large that the nearest float would be 2^1024. -/
def Fits (now : ℚ) (item : Json) : Prop :=
  ∀ members ip n, item = .obj members → Json.get? members "ip" = some (.str ip) →
    Json.get? members "expires_at" = some (.int n) → now < n → n.natAbs + 2 ^ 970 < 2 ^ 1024

/-- No integer of the document has more than 4300 digits. -/
def Short (doc : Json) : Prop :=
  ∀ n : ℤ, .int n ∈ doc.numbers → n.natAbs < 10 ^ maxStrDigits

theorem short_iff {doc : Json} : Short doc ↔ doc.numbers.any Json.tooLong = false := by
  rw [List.any_eq_false]
  constructor
  · intro h x hx
    cases x with
    | int n => exact Json.not_tooLong_int.mpr (h n hx)
    | _ => exact Bool.false_ne_true
  · intro h n hn
    exact Json.not_tooLong_int.mp (h _ hn)

/-! ### The loop -/

namespace PersistentBanStore

/-- The bans with that of an element. -/
def addBan (now : ℚ) (bans : Dict String Ban) (item : Json) : Dict String Ban :=
  match banOf now item with
  | some ban => bans.set ban.ip ban
  | none => bans

theorem loadExpiry?_eq (now : ℚ) (value : Json) :
    loadExpiry? now value =
      if isAfter now value then
        some (match toFloat? value with
          | some expiresAt => .ok expiresAt
          | none => .error .overflow)
      else none := by
  cases value with
  | bool b => cases b <;> simp [loadExpiry?, isAfter, Json.number?, toFloat?]
  | int n =>
      simp only [loadExpiry?, isAfter, Json.number?, toFloat?, decide_eq_true_eq]
      split
      · cases floatOfInt n <;> rfl
      · rfl
  | float x => cases x <;> simp [loadExpiry?, isAfter, Json.number?, toFloat?]
  | _ => simp [loadExpiry?, isAfter, Json.number?]

/-- Only an integer can be a number after `now` that has no float. -/
theorem int_of_toFloat?_eq_none {now : ℚ} {value : Json} (hafter : isAfter now value = true)
    (hnone : toFloat? value = none) :
    ∃ n : ℤ, value = .int n ∧ now < n ∧ floatOfInt n = none := by
  cases value with
  | int n =>
      rw [toFloat?, Option.map_eq_none_iff] at hnone
      exact ⟨n, rfl, by simpa [isAfter, Json.number?] using hafter, hnone⟩
  | float x => cases x <;> simp [isAfter, Json.number?, toFloat?] at hafter hnone
  | bool b => cases hnone
  | _ => cases hafter

/-- The members that `_load` looks at first: a string `ip`, and an `expires_at`. -/
def Candidate (members : List (String × Json)) (ip : String) (value : Json) : Prop :=
  Json.get? members "ip" = some (.str ip) ∧ Json.get? members "expires_at" = some value

/-- An element that is no candidate is ignored. -/
theorem loadItem_of_not_candidate (now : ℚ) {bans : Dict String Ban}
    {members : List (String × Json)} (h : ¬ ∃ ip value, Candidate members ip value) :
    Fits now (.obj members) ∧ banOf now (.obj members) = none ∧
      loadItem now bans (.obj members) = .ok bans := by
  refine ⟨?_, ?_, ?_⟩
  · intro members' ip n hitem hip hvalue
    cases hitem
    exact absurd ⟨ip, .int n, hip, hvalue⟩ h
  · unfold banOf
    dsimp only
    split
    · next ip value hip hvalue => exact absurd ⟨ip, value, hip, hvalue⟩ h
    · rfl
  · unfold loadItem
    dsimp only
    split
    · next ip expiry hip hexpiry =>
        obtain ⟨value, hvalue, -⟩ := Option.bind_eq_some_iff.mp hexpiry
        exact absurd ⟨ip, value, hip, hvalue⟩ h
    · rfl

/-- A candidate adds its ban if its number is after `now`, and can be a float. -/
theorem loadItem_of_candidate {now : ℚ} {bans : Dict String Ban} {members : List (String × Json)}
    {ip : String} {value : Json} (h : Candidate members ip value) :
    loadItem now bans (.obj members) =
      if isAfter now value = true ∧ toFloat? value = none then .error .overflow
      else .ok (addBan now bans (.obj members)) := by
  obtain ⟨hip, hvalue⟩ := h
  simp only [loadItem, addBan, banOf, hip, hvalue, Option.bind_some, loadExpiry?_eq]
  cases isAfter now value with
  | false => rfl
  | true => cases toFloat? value <;> rfl

/-- An element adds its ban, if it has one, or makes the constructor raise. -/
theorem loadItem_eq (now : ℚ) (bans : Dict String Ban) (item : Json) :
    (Fits now item ∧ loadItem now bans item = .ok (addBan now bans item)) ∨
      (¬ Fits now item ∧ loadItem now bans item = .error .overflow) := by
  cases item with
  | obj members =>
      by_cases hcandidate : ∃ ip value, Candidate members ip value
      · obtain ⟨ip, value, hip, hvalue⟩ := hcandidate
        rw [loadItem_of_candidate ⟨hip, hvalue⟩]
        by_cases hlarge : isAfter now value = true ∧ toFloat? value = none
        · obtain ⟨n, rfl, hn, hnone⟩ := int_of_toFloat?_eq_none hlarge.1 hlarge.2
          refine .inr ⟨?_, if_pos hlarge⟩
          intro hfits
          have hsome := (floatOfInt_isSome_iff n).mpr (hfits members ip n rfl hip hvalue hn)
          rw [hnone] at hsome
          cases hsome
        · refine .inl ⟨?_, if_neg hlarge⟩
          intro members' ip' n hitem _ hint hn
          cases hitem
          obtain rfl := Option.some.inj (hvalue.symm.trans hint)
          refine (floatOfInt_isSome_iff n).mp ?_
          by_contra hsome
          have hnone := Option.not_isSome_iff_eq_none.mp hsome
          refine hlarge ⟨?_, ?_⟩
          · simpa [isAfter, Json.number?] using hn
          · rw [toFloat?, hnone, Option.map_none]
      · obtain ⟨hfits, hban, hload⟩ := loadItem_of_not_candidate now hcandidate
        refine .inl ⟨hfits, ?_⟩
        rw [hload, addBan, hban]
  | _ => exact .inl ⟨fun _ _ _ hitem _ _ _ => Json.noConfusion hitem, rfl⟩

/-- The loop raises exactly if some element does not fit. -/
theorem foldlM_loadItem_eq (now : ℚ) (items : List Json) (bans : Dict String Ban) :
    ((∀ item ∈ items, Fits now item) ∧
        items.foldlM (loadItem now) bans = .ok (items.foldl (addBan now) bans)) ∨
      ((¬ ∀ item ∈ items, Fits now item) ∧
        items.foldlM (loadItem now) bans = .error .overflow) := by
  induction items generalizing bans with
  | nil => exact .inl ⟨fun _ hitem => (List.not_mem_nil hitem).elim, rfl⟩
  | cons item items ih =>
      rw [List.foldlM_cons, List.forall_mem_cons]
      rcases loadItem_eq now bans item with ⟨hfits, hload⟩ | ⟨hfits, hload⟩
      · rw [hload]
        rcases ih (addBan now bans item) with ⟨hall, hloads⟩ | ⟨hall, hloads⟩
        · exact .inl ⟨⟨hfits, hall⟩, hloads⟩
        · exact .inr ⟨fun h => hall h.2, hloads⟩
      · rw [hload]
        exact .inr ⟨fun h => hfits h.1, rfl⟩

/-- Of every IP, the loop keeps the last ban. -/
theorem get?_foldl_addBan (now : ℚ) (items : List Json) (bans : Dict String Ban) (ip : String) :
    (items.foldl (addBan now) bans).get? ip = (lastBan now items ip).or (bans.get? ip) := by
  induction items using List.reverseRecOn with
  | nil => rfl
  | append_singleton items item ih =>
      rw [List.foldl_append, List.foldl_cons, List.foldl_nil, lastBan, List.filterMap_append,
        List.filter_append, List.getLast?_append, addBan]
      cases hban : banOf now item with
      | none =>
          simp only [List.filterMap_cons, hban, List.filterMap_nil, List.filter_nil,
            List.getLast?_nil, Option.none_or]
          exact ih
      | some ban =>
          rw [Dict.get?_set]
          by_cases hip : ip = ban.ip
          · simp [hban, hip]
          · simp only [List.filterMap_cons, hban, List.filterMap_nil, if_neg hip]
            rw [List.filter_cons_of_neg (by simpa using Ne.symm hip), List.filter_nil,
              List.getLast?_nil, Option.none_or]
            exact ih

/-- The bans that are not over at `t` are kept. -/
theorem get?_cleanupExpired {cfg : BanConfig} {t : ℚ} {self : PersistentBanStore}
    (h : self.attrs.WF) (ip : String) :
    (self.cleanupExpired cfg t).attrs.bans.get? ip =
      (self.attrs.bans.get? ip).filter fun ban => decide (↑t < ban.expiresAt) := by
  rw [cleanupExpired_attrs]
  have hentries : (BanStore.cleanupExpired cfg t self.attrs).bans =
      self.attrs.bans.filter fun e => decide (↑t < e.2.expiresAt) :=
    Dict.ext (BanStore.cleanupExpired_spec h cfg t).1
  rw [hentries, Dict.get?_filter]

/-- The ban of an element is that of the IP in it. -/
theorem lastBan_ip {now : ℚ} {items : List Json} {ip : String} {ban : Ban}
    (h : lastBan now items ip = some ban) : ban.ip = ip := by
  have hmem := List.mem_of_getLast? h
  simpa using (List.mem_filter.mp hmem).2

/-- What the constructor makes of a list: it raises, or keeps the last bans that are not over
at `t`. -/
theorem loadDocument_arr (cfg : BanConfig) (now t : ℚ) (items : List Json) (disk : Disk) :
    ((∀ item ∈ items, Fits now item) ∧
        ∃ self, loadDocument cfg now t ⟨BanStore.init, disk, []⟩ (.arr items) = .ok self ∧
          ∀ ip, self.attrs.bans.get? ip =
            (lastBan now items ip).filter fun ban => decide (↑t < ban.expiresAt)) ∨
      ((¬ ∀ item ∈ items, Fits now item) ∧
        loadDocument cfg now t ⟨BanStore.init, disk, []⟩ (.arr items) = .error .overflow) := by
  unfold loadDocument
  dsimp only
  rcases foldlM_loadItem_eq now items ∅ with ⟨hfits, hload⟩ | ⟨hfits, hload⟩
  · rw [hload]
    refine .inl ⟨hfits, _, rfl, ?_⟩
    intro ip
    have hget : ∀ ip, (items.foldl (addBan now) ∅).get? ip = lastBan now items ip := by
      intro ip
      rw [get?_foldl_addBan, Dict.get?_empty, Option.or_none]
    have hwf : ({ BanStore.init with bans := items.foldl (addBan now) ∅ } : BanStore).WF := by
      refine wf_of_bans ?_
      intro ip' ban hban
      rw [hget] at hban
      exact lastBan_ip hban
    rw [get?_cleanupExpired hwf]
    exact congrArg (Option.filter _) (hget ip)
  · rw [hload]
    exact .inr ⟨hfits, rfl⟩

/-- The document is loaded as it should be if all integers fit, and no ban is over when the clock is
read again. -/
theorem loadDocument_iff (cfg : BanConfig) (now t : ℚ) (doc : Json) (disk : Disk) :
    (∃ self, loadDocument cfg now t ⟨BanStore.init, disk, []⟩ doc = .ok self ∧
        ∀ ip, self.attrs.bans.get? ip = lastBan now (elementsOf doc) ip) ↔
      (∀ item ∈ elementsOf doc, Fits now item) ∧
        ∀ ip ban, lastBan now (elementsOf doc) ip = some ban → ↑t < ban.expiresAt := by
  cases doc with
  | arr items =>
      rw [elementsOf]
      rcases loadDocument_arr cfg now t items disk with ⟨hfits, self, hload, hbans⟩ | ⟨hfits, hload⟩
      · rw [hload]
        constructor
        · rintro ⟨self', heq, hall⟩
          cases heq
          refine ⟨hfits, ?_⟩
          intro ip ban hban
          have hkept := hbans ip
          rw [hall ip, hban] at hkept
          exact of_decide_eq_true (Option.filter_eq_some_iff.mp hkept.symm).2
        · rintro ⟨-, hlater⟩
          refine ⟨self, rfl, ?_⟩
          intro ip
          rw [hbans ip]
          cases hban : lastBan now items ip with
          | none => rfl
          | some ban => exact Option.filter_some_pos (decide_eq_true (hlater ip ban hban))
      · rw [hload]
        constructor
        · rintro ⟨self, heq, -⟩
          cases heq
        · rintro ⟨hall, -⟩
          exact absurd hall hfits
  | _ =>
      refine ⟨fun _ => ⟨fun _ hitem => (List.not_mem_nil hitem).elim, ?_⟩, fun _ => ?_⟩
      · intro ip ban hban
        cases hban
      · exact ⟨_, rfl, fun ip => rfl⟩

/-- **The constructor takes of each IP the last ban that the document lists.** It does so exactly
if no integer has more than 4300 digits, all integers fit, and no ban is over when the clock is read
again. -/
theorem loadsLastBans_iff (cfg : BanConfig) (now t : ℚ) (doc : Json) (tmp : Option FileText) :
    (∃ self, load cfg now t ⟨some (.document doc), tmp⟩ = .ok self ∧
        ∀ ip, self.attrs.bans.get? ip = lastBan now (elementsOf doc) ip) ↔
      Short doc ∧ (∀ item ∈ elementsOf doc, Fits now item) ∧
        ∀ ip ban, lastBan now (elementsOf doc) ip = some ban → ↑t < ban.expiresAt := by
  rw [load_document rfl]
  split
  · next hlong =>
      constructor
      · rintro ⟨self, heq, -⟩
        cases heq
      · rintro ⟨hshort, -⟩
        rw [short_iff.mp hshort] at hlong
        cases hlong
  · next hshort =>
      rw [loadDocument_iff, iff_and_self]
      exact fun _ => short_iff.mpr (Bool.eq_false_of_not_eq_true hshort)

/-- A ban that expires at 10^400 makes the constructor raise. -/
theorem not_loadsLastBans : ¬ ∀ (cfg : BanConfig) (now : ℚ) (doc : Json) (tmp : Option FileText),
    ∃ self, load cfg now now ⟨some (.document doc), tmp⟩ = .ok self ∧
      ∀ ip, self.attrs.bans.get? ip = lastBan now (elementsOf doc) ip := by
  intro h
  obtain ⟨self, hload, -⟩ := h appConfig 0
    (.arr [.obj [("ip", .str "192.0.2.1"), ("expires_at", .int (10 ^ 400))]]) none
  have hitem : ¬ Fits 0 (.obj [("ip", .str "192.0.2.1"), ("expires_at", .int (10 ^ 400))]) := by
    intro hfits
    have hlt := hfits _ "192.0.2.1" (10 ^ 400) rfl rfl rfl (by positivity)
    revert hlt
    decide +kernel
  rw [load_document rfl] at hload
  split at hload
  · cases hload
  · rcases loadDocument_arr appConfig 0 0
      [.obj [("ip", .str "192.0.2.1"), ("expires_at", .int (10 ^ 400))]] _ with
        ⟨hfits, -⟩ | ⟨-, hraise⟩
    · exact hitem (hfits _ (List.mem_singleton_self _))
    · rw [hraise] at hload
      cases hload

end PersistentBanStore

end PxManager.Bans
