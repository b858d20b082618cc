import PxManager.Login.BruteForce

/-!
# PxManager.Login.Accounted

How a login ends whose password is verified: with a session, or with status 401 and one failure
recorded for the IP.

`PasswordStore.verify` takes the exceptions of argon2 for a wrong password, but a stored text that
is no argon2 hash raises `InvalidHashError`, which is not one of them, and `from_file` takes any
text. The exception then leaves the handler, and no failure is recorded.

The page of a refused login reads `retpath` after the failure has been recorded. If that is not
UTF-8, the answer is an error page with status 400.
-/

namespace PxManager.Login

open PxManager.Core PxManager.Bans

/-! ### `PasswordStore.from_file` -/

/-- The entry of a member whose value is a string. -/
def passwordEntry? : String × Json → Option (Text × Text)
  | (username, .str passwordHash) => some (username.toList, passwordHash.toList)
  | _ => none

/-- `PasswordStore.from_file`, of the document in the file. `none` is `ClickException`. -/
def PasswordStore.fromFile (hasher : Text → Text → HashCheck) : Json → Option PasswordStore
  | .obj members => do
      let entries ← members.mapM passwordEntry?
      return { hashes := Dict.ofList entries, hasher }
  | _ => none

/-- `PasswordHasher.verify` raises `InvalidHashError` for the texts that are no argon2 hashes. -/
def IsArgon2 (hasher : Text → Text → HashCheck) (isHash : Text → Bool) : Prop :=
  ∀ passwordHash password, hasher passwordHash password = .raised ↔ isHash passwordHash = false

/-! ### Outcomes -/

/-- One more login failure is recorded for an IP: it is counted with those of the last hour, and
where it makes them too many the IP is banned and the count starts again. Nothing changes for other
IPs. -/
structure RecordsFailure (ip : String) (client : AccessLogClient) (now : ℚ)
    (before after : BanStore) : Prop where
  counted :
    let failures := recentFailures appConfig now (before.failures .login ip) ++ [now]
    if loginFailureLimit ≤ failures.length then
      after.bans.get? ip = some (BanStore.newBan appConfig ip client now) ∧
        after.failures .login ip = []
    else after.bans.get? ip = none ∧ after.failures .login ip = failures
  others : ∀ ip', ip' ≠ ip → after.bans.get? ip' = before.bans.get? ip' ∧
    ∀ type, after.failures type ip' = before.failures type ip'

/-- A login with this user name and this password is verified, and a session is made and its cookie
sent, or it is answered with status 401 and recorded. -/
def Accounted (checkNetloc : Text → Bool) (request : PostRequest) (username password : Text)
    (sessionId : String) (clock : PostClock) (app : App) : Prop :=
  let (response, after) := post checkNetloc request sessionId clock app
  (app.passwordStore.verify username password = some true ∧ response.cookie = some sessionId ∧
      ∃ session, after.sessionStore.sessions.get? sessionId = some session ∧
        session.username = username ∧ session.password = password) ∨
    (app.passwordStore.verify username password = some false ∧
      (∃ retpath, response = .unauthorized retpath) ∧ after.sessionStore = app.sessionStore ∧
      RecordsFailure request.clientIp request.client clock.failure
        (BanStore.isBanned request.clientIp clock.gate app.banStore).2.attrs after.banStore.attrs)

/-! ### Recording a failure -/

/-- An IP that is let through has no ban. -/
theorem get?_bans_of_isBanned {σ : Type} [BanSelf σ] {ip : String} {t : ℚ} {self : σ}
    (h : (BanStore.isBanned ip t self).1 = false) :
    (BanSelf.attrs (BanStore.isBanned ip t self).2).bans.get? ip = none := by
  unfold BanStore.isBanned at h ⊢
  cases hget : (BanSelf.attrs self).bans.get? ip with
  | none => exact hget
  | some ban =>
      rw [hget] at h
      dsimp only at h ⊢
      split at h
      · next hexpired =>
          rw [if_pos hexpired, BanSelf.attrs_delete]
          exact Dict.get?_erase_self
      · cases h

/-- A failure of an IP without a ban is recorded. -/
theorem recordsFailure_recordFailure {ip : String} {client : AccessLogClient} {t now : ℚ}
    {self : BanStore} (h : self.bans.get? ip = none) :
    RecordsFailure ip client now self
      (BanStore.recordFailure appConfig .login ip FailureType.login.limit (some client) t now
        self) := by
  have hpass : BanStore.isBanned ip t self = (false, self) := by
    simp [BanStore.isBanned, h]
  have hlimit : FailureType.login.limit = loginFailureLimit := rfl
  simp only [BanStore.recordFailure, hpass, hlimit, Bool.false_eq_true, if_false,
    BanSelf.attrs_self, BanSelf.modify_self]
  split
  · next hmany =>
      refine ⟨?_, ?_⟩
      · dsimp only
        rw [if_pos hmany]
        exact ⟨Dict.get?_set_self, by simp [BanStore.failures, BanStore.failuresByIp]⟩
      · intro ip' hne
        refine ⟨by rw [Dict.get?_set, if_neg hne], ?_⟩
        intro type
        cases type <;> simp [BanStore.failures, BanStore.failuresByIp, Dict.get?_erase, hne]
  · next hfew =>
      refine ⟨?_, ?_⟩
      · dsimp only
        rw [if_neg hfew, BanStore.bans_setFailuresByIp, BanStore.failures_setFailuresByIp,
          if_pos ⟨rfl, rfl⟩]
        exact ⟨h, rfl⟩
      · intro ip' hne
        refine ⟨by rw [BanStore.bans_setFailuresByIp], ?_⟩
        intro type
        rw [BanStore.failures_setFailuresByIp, if_neg (fun heq => hne heq.2)]

/-! ### Logins -/

section Logins

variable {checkNetloc : Text → Bool} {hasher : Text → Text → HashCheck} {isHash : Text → Bool}
  {data : Json} {request : PostRequest} {username password : Text} {sessionId : String}
  {clock : PostClock} {app : App}

theorem hasher_of_fromFile {store : PasswordStore}
    (h : PasswordStore.fromFile hasher data = some store) : store.hasher = hasher := by
  unfold PasswordStore.fromFile at h
  split at h
  · obtain ⟨entries, -, h⟩ := Option.bind_eq_some_iff.mp h
    cases h
    rfl
  · cases h

theorem verify_eq_true_iff {store : PasswordStore} {username password : Text} :
    store.verify username password = some true ↔
      ∃ passwordHash, store.hashes.get? username = some passwordHash ∧
        store.hasher passwordHash password = .verified := by
  unfold PasswordStore.verify
  cases store.hashes.get? username with
  | none => simp
  | some passwordHash => cases hcheck : store.hasher passwordHash password <;> simp [hcheck]

/-- The password is verified or refused if the stored text is an argon2 hash. -/
theorem verify_isSome_iff (hhasher : IsArgon2 app.passwordStore.hasher isHash)
    (username password : Text) :
    (app.passwordStore.verify username password).isSome ↔
      ∀ passwordHash, app.passwordStore.hashes.get? username = some passwordHash →
        isHash passwordHash = true := by
  unfold PasswordStore.verify
  cases hget : app.passwordStore.hashes.get? username with
  | none => simp
  | some passwordHash =>
      have hraised := hhasher passwordHash password
      simp only [Option.some.injEq, forall_eq']
      cases hcheck : app.passwordStore.hasher passwordHash password <;> simp_all

theorem decodeArguments_isSome_iff {values : List (List UInt8)} :
    (decodeArguments values).isSome ↔ ∀ value ∈ values, (decodeUtf8 value).isSome := by
  induction values with
  | nil => simp [decodeArguments]
  | cons value values ih =>
      rw [List.forall_mem_cons, ← ih, decodeArguments, List.mapM_cons, decodeArguments]
      cases decodeUtf8 value <;> cases values.mapM decodeUtf8 <;> simp

/-- The answer to a refused login has status 401 if its `retpath` can be read. -/
theorem respondWith_unauthorized_iff (checkNetloc : Text → Bool) {values : List (List UInt8)} :
    (∃ retpath, respondWith checkNetloc values none .unauthorized = .unauthorized retpath) ↔
      ∀ value ∈ values, (decodeUtf8 value).isSome := by
  rw [← decodeArguments_isSome_iff]
  unfold respondWith
  cases decodeArguments values with
  | none => simp
  | some values => simp

/-- A login is accounted for if the verification ends, and the page of a refused one can be made. -/
theorem accounted_iff_verify (hread : request.credentials? = some (username, password))
    (hgate : (BanStore.isBanned request.clientIp clock.gate app.banStore).1 = false) :
    Accounted checkNetloc request username password sessionId clock app ↔
      app.passwordStore.verify username password = some true ∨
        app.passwordStore.verify username password = some false ∧
          ∀ value ∈ request.retpath, (decodeUtf8 value).isSome := by
  rw [← respondWith_unauthorized_iff checkNetloc]
  unfold Accounted
  simp only [post, hread, hgate, Bool.false_eq_true, if_false]
  cases app.passwordStore.verify username password with
  | none => simp
  | some verified =>
      cases verified with
      | true =>
          refine iff_of_true (.inl ⟨rfl, ?_, _, Dict.get?_set_self, rfl, rfl⟩) (.inl rfl)
          exact cookie_respondWith checkNetloc fun _ => rfl
      | false =>
          have hrecorded : RecordsFailure request.clientIp request.client clock.failure
              (BanStore.isBanned request.clientIp clock.gate app.banStore).2.attrs
              ((BanStore.isBanned request.clientIp clock.gate app.banStore).2.recordFailure appConfig
                .login request.clientIp FailureType.login.limit (some request.client)
                clock.failureGate clock.failure).attrs := by
            rw [PersistentBanStore.recordFailure_attrs]
            exact recordsFailure_recordFailure (get?_bans_of_isBanned hgate)
          constructor
          · rintro (⟨hother, -⟩ | ⟨-, hresponse, -⟩)
            · cases hother
            · exact .inr ⟨rfl, hresponse⟩
          · rintro (hother | ⟨-, hresponse⟩)
            · cases hother
            · exact .inr ⟨rfl, hresponse, rfl, hrecorded⟩

/-- **When a login from an IP that is not banned is accounted for.** Either the stored text is a
hash of the password, or every value of `retpath` is UTF-8 and the text that is stored for the user
name, where there is one, is an argon2 hash. -/
theorem accounted_iff (hstore : PasswordStore.fromFile hasher data = some app.passwordStore)
    (hhasher : IsArgon2 hasher isHash)
    (hread : request.credentials? = some (username, password))
    (hgate : (BanStore.isBanned request.clientIp clock.gate app.banStore).1 = false) :
    Accounted checkNetloc request username password sessionId clock app ↔
      (∃ passwordHash, app.passwordStore.hashes.get? username = some passwordHash ∧
        hasher passwordHash password = .verified) ∨
      (∀ passwordHash, app.passwordStore.hashes.get? username = some passwordHash →
        isHash passwordHash = true) ∧ ∀ value ∈ request.retpath, (decodeUtf8 value).isSome := by
  obtain rfl := hasher_of_fromFile hstore
  rw [accounted_iff_verify hread hgate, ← verify_isSome_iff hhasher username password,
    ← verify_eq_true_iff]
  cases app.passwordStore.verify username password with
  | none => simp
  | some verified => cases verified <;> simp

end Logins

/-! ### A text that is no hash -/

/-- The only text that the verifier below takes for a hash. -/
def sampleHash : Text := "$argon2id$".toList

/-- A verifier that knows the password of one hash. -/
def sampleHasher (passwordHash password : Text) : HashCheck :=
  if passwordHash ≠ sampleHash then .raised
  else if password = "secret".toList then .verified
  else .refused

theorem isArgon2_sampleHasher : IsArgon2 sampleHasher fun passwordHash => passwordHash = sampleHash
    := by
  intro passwordHash password
  unfold sampleHasher
  by_cases hhash : passwordHash = sampleHash
  · rw [if_neg (not_not.mpr hhash)]
    constructor
    · intro hraised
      split at hraised <;> cases hraised
    · intro hother
      exact absurd hhash (of_decide_eq_false hother)
  · rw [if_pos hhash]
    exact ⟨fun _ => decide_eq_false hhash, fun _ => rfl⟩

/-- The application with these password hashes and no bans. -/
def sampleApp (members : List (Text × Text)) : App where
  passwordStore := { hashes := Dict.ofList members, hasher := sampleHasher }
  sessionStore := { ttlSeconds := 1800, sessions := ∅ }
  banStore := { attrs := BanStore.init, disk := { state := none, tmp := none }, trail := [] }
  authLog := []

/-- A login of `alice` with a wrong password. -/
def sampleRequest : PostRequest where
  realIp := none
  remoteIp := "192.0.2.1"
  username := [encodeUtf8 "alice".toList]
  password := [encodeUtf8 "guess".toList]
  retpath := []
  bodyRetpath := []
  client := { os := "-", browser := "-", device := "-" }

/-- A wrong password for a stored hash. -/
theorem accounted_wrongPassword :
    Accounted (fun _ => true) sampleRequest "alice".toList "guess".toList "token" ⟨0, 0, 0, 0, 0, 0⟩
      (sampleApp [("alice".toList, sampleHash)]) := by
  have hstore : PasswordStore.fromFile sampleHasher (.obj [("alice", .str "$argon2id$")]) =
      some (sampleApp [("alice".toList, sampleHash)]).passwordStore := rfl
  exact (accounted_iff hstore isArgon2_sampleHasher rfl rfl).mpr (.inr (by decide +kernel))

/-- A stored text that is no hash. -/
theorem not_accounted_plainText :
    ¬ ∀ data app request username password sessionId clock,
      PasswordStore.fromFile sampleHasher data = some app.passwordStore →
      request.credentials? = some (username, password) →
      (BanStore.isBanned request.clientIp clock.gate app.banStore).1 = false →
      Accounted (fun _ => true) request username password sessionId clock app := by
  intro hall
  have haccounted := hall (.obj [("alice", .str "plain")])
    (sampleApp [("alice".toList, "plain".toList)]) sampleRequest "alice".toList "guess".toList
    "token" ⟨0, 0, 0, 0, 0, 0⟩ rfl rfl rfl
  rw [accounted_iff_verify rfl rfl] at haccounted
  exact absurd haccounted (by decide +kernel)

end PxManager.Login
