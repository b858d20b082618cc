import Mathlib.Data.List.Induction
import PxManager.Login.Handler

/-!
# PxManager.Login.GeneratePasswd

`main` of `ansible/scripts/generate_passwd.py`, which makes the map of `passwd.json`.

Each round of the loop assigns one name, and looks up the hash to keep in the file, not in the map
that is being made. A name that is listed again is assigned again, so what the rounds before its
last one assigned does not matter.

argon2 is the structure `PasswordHasher`. The salts that it draws are a parameter of the script.
-/

namespace PxManager.Login.GeneratePasswd

open PxManager.Core

/-! ### argon2 -/

/-- `argon2.PasswordHasher`: `hash` with a salt, and how `verify` ends. -/
structure PasswordHasher (Salt : Type) where
  hash : Salt → Text → Text
  verify : Text → Text → HashCheck

namespace PasswordHasher

variable {Salt : Type} (hasher : PasswordHasher Salt)

/-- A text that `hash` returned. -/
def Made (passwordHash : Text) : Prop :=
  ∃ salt password, passwordHash = hasher.hash salt password

/-- A hash is not empty, it verifies its password, and for no password it is an invalid hash. -/
structure Documented : Prop where
  hash_ne_nil : ∀ salt password, hasher.hash salt password ≠ []
  verify_hash : ∀ salt password, hasher.verify (hasher.hash salt password) password = .verified
  verify_ne_raised : ∀ salt password password',
    hasher.verify (hasher.hash salt password) password' ≠ .raised

end PasswordHasher

/-! ### The script -/

/-- An entry of `proxy_users`. -/
structure User where
  name : Text
  password : Text

/-- `passwd`, and how many salts were drawn for it. -/
structure LoopState where
  passwd : Dict Text Text
  drawn : Nat

variable {Salt : Type} (hasher : PasswordHasher Salt) (salts : Nat → Salt)

/-- A round of the loop. `none` is an exception that is no `Argon2Error`. -/
def addUser (existing : Dict Text Text) (state : LoopState) (user : User) : Option LoopState :=
  let hashed := hasher.hash (salts state.drawn) user.password
  let assigned : LoopState :=
    { passwd := state.passwd.set user.name hashed, drawn := state.drawn + 1 }
  match existing.get? user.name with
  | none | some [] => some assigned
  | some currentHash =>
      match hasher.verify currentHash user.password with
      | .verified => some { state with passwd := state.passwd.set user.name currentHash }
      | .refused => some assigned
      | .raised => none

/-- `main`, from the users and the map in the file, if it is there, to the map that is printed. -/
def main (users : List User) (file : Option (Dict Text Text)) : Option (Dict Text Text) :=
  let existing := file.getD ∅
  (users.foldlM (addUser hasher salts existing) ⟨∅, 0⟩).map LoopState.passwd

/-! ### The last entry of a name -/

/-- No entry after this one has its name. -/
def IsLastEntry (users : List User) (user : User) : Prop :=
  ∃ before after, users = before ++ user :: after ∧ ∀ later ∈ after, later.name ≠ user.name

theorem isLastEntry_append {users : List User} {last user : User} :
    IsLastEntry (users ++ [last]) user ↔
      user = last ∨ IsLastEntry users user ∧ user.name ≠ last.name := by
  constructor
  · intro ⟨before, after, heq, hafter⟩
    cases after using List.reverseRecOn with
    | nil => exact .inl (List.singleton_inj.mp (List.append_inj_right' heq rfl)).symm
    | append_singleton after later _ =>
        rw [← List.cons_append, ← List.append_assoc] at heq
        have hlast : last = later := List.singleton_inj.mp (List.append_inj_right' heq rfl)
        have hmem : last ∈ after ++ [later] := List.mem_append_right after (by simp [hlast])
        refine .inr ⟨⟨before, after, List.append_inj_left' heq rfl, ?_⟩, (hafter last hmem).symm⟩
        intro later' hlater'
        exact hafter later' (List.mem_append_left _ hlater')
  · rintro (rfl | ⟨⟨before, after, rfl, hafter⟩, hname⟩)
    · exact ⟨users, [], rfl, nofun⟩
    · refine ⟨before, after ++ [last], by simp, ?_⟩
      intro later hlater
      rcases List.mem_append.mp hlater with hlater | hlater
      · exact hafter later hlater
      · rw [List.mem_singleton.mp hlater]
        exact hname.symm

/-- Every name has a last entry. -/
theorem exists_isLastEntry {users : List User} {name : Text} (h : name ∈ users.map User.name) :
    ∃ user, IsLastEntry users user ∧ user.name = name := by
  induction users using List.reverseRecOn with
  | nil => cases h
  | append_singleton users last ih =>
      by_cases hname : last.name = name
      · exact ⟨last, isLastEntry_append.mpr (.inl rfl), hname⟩
      · have hmem : name ∈ users.map User.name := by
          simpa [Ne.symm hname] using h
        obtain ⟨user, huser, rfl⟩ := ih hmem
        exact ⟨user, isLastEntry_append.mpr (.inr ⟨huser, Ne.symm hname⟩), rfl⟩

theorem name_mem_of_isLastEntry {users : List User} {user : User} (h : IsLastEntry users user) :
    user.name ∈ users.map User.name := by
  obtain ⟨before, after, rfl, -⟩ := h
  simp

/-! ### What the script makes -/

/-- A hash for the entry of a user: it verifies the password, and the hash that was there is kept if
that one verifies it. -/
structure IsHashFor (existing : Dict Text Text) (user : User) (passwordHash : Text) : Prop where
  made : hasher.Made passwordHash
  verified : hasher.verify passwordHash user.password = .verified
  kept : ∀ currentHash, existing.get? user.name = some currentHash →
    hasher.verify currentHash user.password = .verified → passwordHash = currentHash

/-- The listed names, each where it is listed first, with a hash for the last entry of each. -/
structure Generated (existing : Dict Text Text) (users : List User) (passwd : Dict Text Text) :
    Prop where
  keys : passwd.keys = (users.map User.name).eraseDups
  hashes : ∀ user, IsLastEntry users user →
    ∃ passwordHash, passwd.get? user.name = some passwordHash ∧
      IsHashFor hasher existing user passwordHash

variable {hasher} {existing : Dict Text Text}

namespace Generated

variable {users : List User} {passwd : Dict Text Text}

theorem mem_keys_iff (h : Generated hasher existing users passwd) (name : Text) :
    name ∈ passwd.keys ↔ ∃ user ∈ users, user.name = name := by
  rw [h.keys, List.mem_eraseDups, List.mem_map]

theorem exists_of_mem_keys (h : Generated hasher existing users passwd) {name : Text}
    (hname : name ∈ passwd.keys) :
    ∃ user passwordHash, IsLastEntry users user ∧ user.name = name ∧
      passwd.get? name = some passwordHash ∧ IsHashFor hasher existing user passwordHash := by
  rw [h.keys, List.mem_eraseDups] at hname
  obtain ⟨user, hlast, rfl⟩ := exists_isLastEntry hname
  obtain ⟨passwordHash, hget, hhash⟩ := h.hashes user hlast
  exact ⟨user, passwordHash, hlast, rfl, hget, hhash⟩

theorem made (h : Generated hasher existing users passwd) :
    ∀ passwordHash ∈ passwd.values, hasher.Made passwordHash := by
  intro passwordHash hmem
  obtain ⟨name, hget⟩ := Dict.mem_values_iff.mp hmem
  obtain ⟨user, passwordHash', -, -, hget', hhash⟩ :=
    h.exists_of_mem_keys (Dict.mem_keys_of_get? hget)
  rw [hget] at hget'
  cases hget'
  exact hhash.made

/-- One more user. -/
theorem set (h : Generated hasher existing users passwd) {user : User} {passwordHash : Text}
    (hhash : IsHashFor hasher existing user passwordHash) :
    Generated hasher existing (users ++ [user]) (passwd.set user.name passwordHash) where
  keys := by
    rw [List.map_append]
    exact Dict.keys_set_eraseDups h.keys user.name passwordHash
  hashes := by
    intro user' hlast
    rcases isLastEntry_append.mp hlast with rfl | ⟨hlast, hname⟩
    · exact ⟨passwordHash, Dict.get?_set_self, hhash⟩
    · rw [Dict.get?_set, if_neg hname]
      exact h.hashes user' hlast

/-- **With its own output in the file, the script makes the same map.** -/
theorem eq_of_generated (h : Generated hasher existing users passwd) {passwd' : Dict Text Text}
    (h' : Generated hasher passwd users passwd') : passwd' = passwd := by
  have hkeys : passwd'.keys = passwd.keys := h'.keys.trans h.keys.symm
  refine Dict.ext_get? hkeys ?_
  intro name
  by_cases hname : name ∈ passwd.keys
  · obtain ⟨user, passwordHash, hlast, rfl, hget, hhash⟩ := h.exists_of_mem_keys hname
    obtain ⟨passwordHash', hget', hhash'⟩ := h'.hashes user hlast
    rw [hget, hget', hhash'.kept passwordHash hget hhash.verified]
  · rw [Dict.get?_eq_none_iff.mpr hname, Dict.get?_eq_none_iff.mpr (hkeys ▸ hname)]

/-- With the map in `passwd.json`, the users have the passwords that were listed last. -/
theorem passwordStore_verify (h : Generated hasher existing users passwd) {user : User}
    (hlast : IsLastEntry users user) :
    ({ hashes := passwd, hasher := hasher.verify } : PasswordStore).verify user.name user.password =
      some true := by
  obtain ⟨passwordHash, hget, hhash⟩ := h.hashes user hlast
  simp only [PasswordStore.verify, hget, hhash.verified]

end Generated

/-! ### Runs -/

section Runs

variable (hdocumented : hasher.Documented)
include hdocumented

/-- A new hash is made where the one in the file does not verify the password. -/
theorem isHashFor_hash (user : User) (salt : Salt)
    (hother : ∀ currentHash, existing.get? user.name = some currentHash →
      hasher.verify currentHash user.password ≠ .verified) :
    IsHashFor hasher existing user (hasher.hash salt user.password) where
  made := ⟨salt, user.password, rfl⟩
  verified := hdocumented.verify_hash salt user.password
  kept currentHash hget hverified := absurd hverified (hother currentHash hget)

/-- A round assigns one name. -/
theorem addUser_spec (hmade : ∀ currentHash ∈ existing.values, hasher.Made currentHash)
    (state : LoopState) (user : User) :
    ∃ passwordHash drawn, addUser hasher salts existing state user =
      some ⟨state.passwd.set user.name passwordHash, drawn⟩ ∧
        IsHashFor hasher existing user passwordHash := by
  cases hget : existing.get? user.name with
  | none =>
      refine ⟨_, _, by simp only [addUser, hget]; rfl, isHashFor_hash hdocumented user _ ?_⟩
      intro currentHash hcurrent
      rw [hget] at hcurrent
      cases hcurrent
  | some currentHash =>
      obtain ⟨salt, password, rfl⟩ := hmade currentHash (Dict.mem_values_iff.mpr ⟨_, hget⟩)
      obtain ⟨c, text, htext⟩ := List.exists_cons_of_ne_nil (hdocumented.hash_ne_nil salt password)
      have hraised := hdocumented.verify_ne_raised salt password user.password
      rw [htext] at hget hraised
      cases hcheck : hasher.verify (c :: text) user.password with
      | verified =>
          refine ⟨c :: text, state.drawn, by simp only [addUser, hget, hcheck], ?_⟩
          exact ⟨⟨salt, password, htext.symm⟩, hcheck, fun _ hcurrent _ =>
            Option.some.inj (hget.symm.trans hcurrent)⟩
      | refused =>
          refine ⟨_, _, by simp only [addUser, hget, hcheck]; rfl,
            isHashFor_hash hdocumented user _ ?_⟩
          intro currentHash hcurrent hverified
          rw [← Option.some.inj (hget.symm.trans hcurrent), hcheck] at hverified
          cases hverified
      | raised => exact absurd hcheck hraised

/-- The rounds end, whatever the users. -/
theorem generated_foldlM (hmade : ∀ currentHash ∈ existing.values, hasher.Made currentHash)
    (users : List User) :
    ∃ state, users.foldlM (addUser hasher salts existing) ⟨∅, 0⟩ = some state ∧
      Generated hasher existing users state.passwd := by
  induction users using List.reverseRecOn with
  | nil =>
      refine ⟨_, rfl, rfl, ?_⟩
      intro user hlast
      exact absurd (name_mem_of_isLastEntry hlast) List.not_mem_nil
  | append_singleton users user ih =>
      obtain ⟨state, hrun, hgenerated⟩ := ih
      obtain ⟨passwordHash, drawn, hround, hhash⟩ :=
        addUser_spec salts hdocumented hmade state user
      refine ⟨⟨state.passwd.set user.name passwordHash, drawn⟩, ?_, hgenerated.set hhash⟩
      rw [List.foldlM_append, hrun, Option.bind_eq_bind, Option.bind_some, List.foldlM_cons, hround]
      rfl

theorem generated_main (users : List User) (file : Option (Dict Text Text))
    (hmade : ∀ currentHash ∈ (file.getD ∅).values, hasher.Made currentHash) :
    ∃ passwd, main hasher salts users file = some passwd ∧
      Generated hasher (file.getD ∅) users passwd := by
  obtain ⟨state, hrun, hgenerated⟩ := generated_foldlM salts hdocumented hmade users
  exact ⟨state.passwd, by rw [main, hrun, Option.map_some], hgenerated⟩

/-- **The map has the listed names, each with a hash of its last password, and the next run keeps
it.** -/
theorem main_stable (users : List User) (file : Option (Dict Text Text))
    (hmade : ∀ currentHash ∈ (file.getD ∅).values, hasher.Made currentHash) :
    ∃ passwd, main hasher salts users file = some passwd ∧
      (∀ name, name ∈ passwd.keys ↔ ∃ user ∈ users, user.name = name) ∧
      (∀ user, IsLastEntry users user → ∃ passwordHash,
        passwd.get? user.name = some passwordHash ∧
          hasher.verify passwordHash user.password = .verified ∧
          ∀ currentHash, (file.getD ∅).get? user.name = some currentHash →
            hasher.verify currentHash user.password = .verified → passwordHash = currentHash) ∧
      ∀ salts', main hasher salts' users (some passwd) = some passwd := by
  obtain ⟨passwd, hmain, hgenerated⟩ := generated_main salts hdocumented users file hmade
  refine ⟨passwd, hmain, hgenerated.mem_keys_iff, ?_, ?_⟩
  · intro user hlast
    obtain ⟨passwordHash, hget, hhash⟩ := hgenerated.hashes user hlast
    exact ⟨passwordHash, hget, hhash.verified, hhash.kept⟩
  · intro salts'
    obtain ⟨passwd', hmain', hgenerated'⟩ :=
      generated_main salts' hdocumented users (some passwd) hgenerated.made
    rw [hmain', hgenerated.eq_of_generated hgenerated']

end Runs

/-! ### A new password, and a name that is listed twice -/

/-- A hasher whose hashes are the salt and the password. -/
def plainHasher : PasswordHasher Char where
  hash salt password := "$argon2id$".toList ++ salt :: password
  verify passwordHash password :=
    if "$argon2id$".toList <+: passwordHash then
      if passwordHash.drop 11 = password then .verified else .refused
    else .raised

theorem verify_plainHasher (salt : Char) (password password' : Text) :
    plainHasher.verify (plainHasher.hash salt password) password' =
      if password = password' then .verified else .refused := by
  have hfront : "$argon2id$".toList <+: plainHasher.hash salt password := List.prefix_append _ _
  have hdrop : (plainHasher.hash salt password).drop 11 = password := rfl
  calc plainHasher.verify (plainHasher.hash salt password) password'
      = if "$argon2id$".toList <+: plainHasher.hash salt password then
          if (plainHasher.hash salt password).drop 11 = password' then .verified else .refused
        else .raised := rfl
    _ = if password = password' then .verified else .refused := by rw [if_pos hfront, hdrop]

theorem documented_plainHasher : plainHasher.Documented where
  hash_ne_nil _ _ := List.cons_ne_nil _ _
  verify_hash salt password := by rw [verify_plainHasher, if_pos rfl]
  verify_ne_raised salt password password' := by
    rw [verify_plainHasher]
    intro hraised
    split at hraised <;> cases hraised

/-- Ada is listed again with the password that she has, and Bob with a new one. -/
def sampleUsers : List User :=
  [⟨"ada".toList, "one".toList⟩, ⟨"bob".toList, "two".toList⟩, ⟨"ada".toList, "three".toList⟩]

/-- The map before. -/
def samplePasswd : Dict Text Text :=
  Dict.ofList [("bob".toList, plainHasher.hash 'b' "old".toList),
    ("ada".toList, plainHasher.hash 'a' "three".toList)]

theorem made_of_mem_samplePasswd :
    ∀ currentHash ∈ samplePasswd.values, plainHasher.Made currentHash := by
  intro currentHash hmem
  have hvalues : samplePasswd.values =
      [plainHasher.hash 'b' "old".toList, plainHasher.hash 'a' "three".toList] := rfl
  rw [hvalues, List.mem_pair] at hmem
  rcases hmem with rfl | rfl
  · exact ⟨_, _, rfl⟩
  · exact ⟨_, _, rfl⟩

/-- Ada's hash is kept, and Bob's is new. With other salts, the next run keeps both. -/
theorem main_sampleUsers :
    (main plainHasher (fun n => Char.ofNat (n + 112)) sampleUsers (some samplePasswd)).map
        Dict.entries = some [("ada".toList, plainHasher.hash 'a' "three".toList),
          ("bob".toList, plainHasher.hash 'q' "two".toList)] ∧
      ∃ passwd, main plainHasher (fun n => Char.ofNat (n + 112)) sampleUsers (some samplePasswd) =
          some passwd ∧
        ∀ salts', main plainHasher salts' sampleUsers (some passwd) = some passwd := by
  obtain ⟨passwd, hmain, -, -, hstable⟩ :=
    main_stable (fun n => Char.ofNat (n + 112)) documented_plainHasher sampleUsers
      (some samplePasswd) made_of_mem_samplePasswd
  exact ⟨rfl, passwd, hmain, hstable⟩

end PxManager.Login.GeneratePasswd
