import Mathlib.Tactic.NormNum
import PxManager.Core.Machine
import PxManager.Login.Handler

/-!
# PxManager.Login.Sessions

What a session store answers, over all runs of its calls.

The store deletes an expired session when it comes across it: in `get`, in `create` and in the
periodic `cleanup_expired`. None of this shows. `History` keeps for every session id the session
that was created and not deleted, and forgets nothing when time passes; `Agrees` relates the two,
and every call preserves it. The answers are then those of the history, which does not even see
the calls of `get` and `cleanup_expired`.

Clock readings are rationals, an idealization: `now + ttl` is not rounded.
-/

namespace PxManager.Login

open PxManager.Core

/-- A call of the session store, with its clock readings. -/
inductive SessionCall
  | create (username password : Text) (sessionId : String) (t now : ℚ)
  | get (sessionId : Option String) (now : ℚ)
  | delete (sessionId : Option String)
  | cleanupExpired (now : ℚ)
  deriving DecidableEq

/-- A store, the last reading of `time.monotonic()`, and the session ids handed out so far. -/
structure SessionState where
  store : SessionStore
  clock : ℚ
  issued : List String

/-- `SessionStore(ttl_seconds)`. -/
def SessionState.init (ttlSeconds clock : ℚ) : SessionState := ⟨⟨ttlSeconds, ∅⟩, clock, []⟩

/-- One call. The clock does not go back, and `secrets.token_urlsafe` gives a new token, which is
not empty. -/
def SessionState.step (s : SessionState) : SessionCall → Option SessionState
  | .create username password sessionId t now =>
      if s.clock ≤ t ∧ t ≤ now ∧ sessionId ≠ "" ∧ sessionId ∉ s.issued then
        some ⟨s.store.create username password sessionId t now, now, sessionId :: s.issued⟩
      else none
  | .get sessionId now =>
      if s.clock ≤ now then some { s with store := (s.store.get sessionId now).2, clock := now }
      else none
  | .delete sessionId =>
      match sessionId with
      | none => some s
      | some sessionId => some { s with store := s.store.delete sessionId }
  | .cleanupExpired now =>
      if s.clock ≤ now then some { s with store := s.store.cleanupExpired now, clock := now }
      else none

/-! ### The history -/

/-- The sessions that were created and not deleted, expired or not. -/
abbrev History := String → Option Session

/-- What a call adds to the history or takes from it. -/
def History.record (ttlSeconds : ℚ) (history : History) : SessionCall → History
  | .create username password sessionId _ now =>
      Function.update history sessionId (some ⟨username, password, now + ttlSeconds⟩)
  | .delete (some sessionId) => Function.update history sessionId none
  | _ => history

/-- The history of a list of calls. -/
def history (ttlSeconds : ℚ) (calls : List SessionCall) : History :=
  calls.foldl (History.record ttlSeconds) fun _ => none

/-- What `get` answers by the history alone. -/
def History.answer (history : History) (sessionId : String) (now : ℚ) : Option (Text × Text) :=
  match history sessionId with
  | none => none
  | some session =>
      if now < session.expiresAt then some (session.username, session.password) else none

/-! ### The store after each call -/

namespace SessionStore

@[simp] theorem sessions_delete {self : SessionStore} {sessionId sid : String} :
    (self.delete sessionId).sessions.get? sid =
      if sid = sessionId ∧ sessionId ≠ "" then none else self.sessions.get? sid := by
  unfold delete
  split
  · next h => simp [Dict.get?_erase, h]
  · next h => simp [h]

@[simp] theorem ttlSeconds_delete {self : SessionStore} {sessionId : String} :
    (self.delete sessionId).ttlSeconds = self.ttlSeconds := by
  unfold delete
  split <;> rfl

theorem sessions_foldl_delete {self : SessionStore} {ids : List String} {sid : String} :
    (ids.foldl (fun self sessionId => self.delete sessionId) self).sessions.get? sid =
      if sid ∈ ids ∧ sid ≠ "" then none else self.sessions.get? sid := by
  induction ids generalizing self with
  | nil => simp
  | cons id ids ih =>
      rw [List.foldl_cons, ih, sessions_delete]
      by_cases h : sid = id
      · subst h
        by_cases hempty : sid = "" <;> simp [hempty]
      · simp [h]

theorem ttlSeconds_cleanupExpired {self : SessionStore} {now : ℚ} :
    (self.cleanupExpired now).ttlSeconds = self.ttlSeconds := by
  unfold cleanupExpired
  generalize List.map Prod.fst _ = ids
  induction ids generalizing self with
  | nil => rfl
  | cons id ids ih => rw [List.foldl_cons, ih, ttlSeconds_delete]

/-- `cleanup_expired` keeps the sessions that have not expired. -/
theorem sessions_cleanupExpired {self : SessionStore} {now : ℚ} {sid : String}
    (hempty : self.sessions.get? "" = none) :
    (self.cleanupExpired now).sessions.get? sid =
      (self.sessions.get? sid).filter fun session => now < session.expiresAt := by
  have hmem : sid ∈ (self.sessions.entries.filter fun e => e.2.expiresAt ≤ now).map Prod.fst ↔
      ∃ session, self.sessions.get? sid = some session ∧ session.expiresAt ≤ now := by
    simp [← Dict.mem_entries_iff]
  rw [cleanupExpired, sessions_foldl_delete]
  simp only [hmem]
  cases hget : self.sessions.get? sid with
  | none => simp
  | some session =>
      have hsid : sid ≠ "" := by
        rintro rfl
        cases hempty.symm.trans hget
      by_cases hexpired : session.expiresAt ≤ now <;>
        simp [hsid, hexpired, Option.filter]

/-- What `get` answers, by the entry of the session alone. -/
theorem get_fst {self : SessionStore} {now : ℚ} {sid : String}
    (hempty : self.sessions.get? "" = none) :
    (self.get (some sid) now).1 =
      (self.sessions.get? sid).filter fun session => now < session.expiresAt := by
  by_cases hsid : sid = ""
  · subst hsid
    simp [get, hempty, Option.filter]
  · cases hget : self.sessions.get? sid with
    | none => simp [get, hsid, hget, Option.filter]
    | some session =>
        by_cases hexpired : session.expiresAt ≤ now <;>
          simp [get, hsid, hget, hexpired, Option.filter]

/-- `get` leaves the store as it is, or deletes an expired session. -/
theorem get_snd (self : SessionStore) (sessionId : Option String) (now : ℚ) :
    (self.get sessionId now).2 = self ∨ ∃ sid session,
      (self.get sessionId now).2 = self.delete sid ∧ self.sessions.get? sid = some session ∧
        session.expiresAt ≤ now := by
  unfold get
  split
  · exact .inl rfl
  · split
    · exact .inl rfl
    · next sid _ _ session hget =>
        split
        · next hexpired => exact .inr ⟨sid, session, rfl, hget, hexpired⟩
        · exact .inl rfl

end SessionStore

/-! ### The store agrees with the history -/

/-- The sessions of the store are those of the history, but for some that have expired. -/
structure Agrees (s : SessionState) (history : History) : Prop where
  session : ∀ sid, s.store.sessions.get? sid = history sid ∨
    s.store.sessions.get? sid = none ∧ ∃ session, history sid = some session ∧
      session.expiresAt ≤ s.clock
  empty : s.store.sessions.get? "" = none

theorem agrees_init (ttlSeconds clock : ℚ) :
    Agrees (SessionState.init ttlSeconds clock) fun _ => none :=
  ⟨fun _ => .inl rfl, rfl⟩

namespace Agrees

variable {s : SessionState} {history : History}

/-- The store agrees still when time passes. -/
theorem mono (h : Agrees s history) {now : ℚ} (hnow : s.clock ≤ now) :
    Agrees { s with clock := now } history where
  session sid := by
    refine (h.session sid).imp_right ?_
    rintro ⟨hnone, session, hsession, hle⟩
    exact ⟨hnone, session, hsession, hle.trans hnow⟩
  empty := h.empty

/-- Sessions that have expired may go. -/
theorem expire (h : Agrees s history) {store : SessionStore}
    (hstore : ∀ sid, store.sessions.get? sid = s.store.sessions.get? sid ∨
      store.sessions.get? sid = none ∧ ∃ session, s.store.sessions.get? sid = some session ∧
        session.expiresAt ≤ s.clock) : Agrees { s with store } history where
  session sid := by
    dsimp only
    rcases hstore sid with heq | ⟨hnone, session, hget, hle⟩
    · rw [heq]
      exact h.session sid
    · rw [hnone]
      rcases h.session sid with hsid | ⟨hgone, -⟩
      · exact .inr ⟨rfl, session, hsid ▸ hget, hle⟩
      · cases hgone.symm.trans hget
  empty := by
    rcases hstore "" with heq | ⟨hnone, -⟩
    · exact heq.trans h.empty
    · exact hnone

/-- The entry of one session id changes in the store and in the history alike. -/
theorem update (h : Agrees s history) {store : SessionStore} {issued : List String}
    {sid : String} {session : Option Session} (hsid : sid = "" → session = none)
    (hstore : ∀ id, store.sessions.get? id =
      if id = sid then session else s.store.sessions.get? id) :
    Agrees { s with store, issued } (Function.update history sid session) where
  session id := by
    dsimp only
    rw [hstore]
    by_cases hid : id = sid
    · subst hid
      simp
    · rw [if_neg hid, Function.update_of_ne hid]
      exact h.session id
  empty := by
    dsimp only
    rw [hstore]
    split
    · next heq => exact hsid heq.symm
    · exact h.empty

theorem delete (h : Agrees s history) (sid : String) :
    Agrees { s with store := s.store.delete sid } (Function.update history sid none) := by
  refine h.update (fun _ => rfl) ?_
  intro id
  rw [SessionStore.sessions_delete]
  by_cases hid : id = sid
  · subst hid
    by_cases hempty : id = ""
    · simp [hempty, h.empty]
    · simp [hempty]
  · simp [hid]

theorem cleanupExpired (h : Agrees s history) :
    Agrees { s with store := s.store.cleanupExpired s.clock } history := by
  refine h.expire ?_
  intro sid
  rw [SessionStore.sessions_cleanupExpired h.empty]
  cases hget : s.store.sessions.get? sid with
  | none => exact .inl rfl
  | some session =>
      by_cases hexpired : session.expiresAt ≤ s.clock
      · exact .inr ⟨by simp [Option.filter, hexpired], session, rfl, hexpired⟩
      · exact .inl (by simp [Option.filter, lt_of_not_ge hexpired])

theorem get (h : Agrees s history) (sessionId : Option String) :
    Agrees { s with store := (s.store.get sessionId s.clock).2 } history := by
  rcases s.store.get_snd sessionId s.clock with heq | ⟨sid, session, heq, hget, hexpired⟩
  · rw [heq]
    exact h
  · rw [heq]
    refine h.expire ?_
    intro id
    rw [SessionStore.sessions_delete]
    by_cases hid : id = sid ∧ sid ≠ ""
    · exact .inr ⟨if_pos hid, session, hid.1 ▸ hget, hexpired⟩
    · exact .inl (if_neg hid)

/-- A call keeps the store and the history in agreement. -/
theorem step (h : Agrees s history) {call : SessionCall} {s' : SessionState}
    (hs : s.step call = some s') : Agrees s' (history.record s.store.ttlSeconds call) := by
  cases call with
  | create username password sessionId t now =>
      simp only [SessionState.step, Option.ite_none_right_eq_some, Option.some.injEq] at hs
      obtain ⟨⟨hclock, hnow, hid, -⟩, rfl⟩ := hs
      have hclean := ((h.mono hclock).cleanupExpired.mono hnow)
      refine hclean.update (fun hempty => absurd hempty hid) ?_
      intro id
      rw [SessionStore.create, Dict.get?_set, SessionStore.ttlSeconds_cleanupExpired]
  | get sessionId now =>
      simp only [SessionState.step, Option.ite_none_right_eq_some, Option.some.injEq] at hs
      obtain ⟨hclock, rfl⟩ := hs
      exact (h.mono hclock).get sessionId
  | delete sessionId =>
      cases sessionId with
      | none =>
          cases hs
          exact h
      | some sid =>
          cases hs
          exact h.delete sid
  | cleanupExpired now =>
      simp only [SessionState.step, Option.ite_none_right_eq_some, Option.some.injEq] at hs
      obtain ⟨hclock, rfl⟩ := hs
      exact (h.mono hclock).cleanupExpired

/-- What `get` answers is what the history answers. -/
theorem answer (h : Agrees s history) {sid : String} {now : ℚ} (hnow : s.clock ≤ now) :
    (getAuthenticatedCredentials (some sid) now s.store).1 = history.answer sid now := by
  have hcredentials : (getAuthenticatedCredentials (some sid) now s.store).1 =
      (s.store.get (some sid) now).1.map fun x => (x.username, x.password) := rfl
  rw [hcredentials, SessionStore.get_fst h.empty, History.answer]
  rcases h.session sid with hsid | ⟨hnone, session, hsession, hle⟩
  · rw [hsid]
    cases history sid with
    | none => rfl
    | some session => by_cases hlt : now < session.expiresAt <;> simp [Option.filter, hlt]
  · rw [hnone, hsession]
    simp [Option.filter, (hle.trans hnow).not_gt]

end Agrees

/-! ### Runs -/

section Runs

variable {s s' : SessionState} {call : SessionCall} {calls : List SessionCall} {sid : String}

/-- What a call leaves alone, whatever it does: the clock does not go back, the lifetime of a
session stays, and no session id is handed out twice. -/
theorem step_keeps (hs : s.step call = some s') :
    s.clock ≤ s'.clock ∧ s'.store.ttlSeconds = s.store.ttlSeconds ∧
      ∀ sid ∈ s.issued, sid ∈ s'.issued ∧
        ∀ username password t now, call ≠ .create username password sid t now := by
  cases call with
  | create username password sessionId t now =>
      simp only [SessionState.step, Option.ite_none_right_eq_some, Option.some.injEq] at hs
      obtain ⟨⟨hclock, hnow, -, hfresh⟩, rfl⟩ := hs
      refine ⟨hclock.trans hnow, SessionStore.ttlSeconds_cleanupExpired, ?_⟩
      intro sid hsid
      refine ⟨List.mem_cons_of_mem _ hsid, ?_⟩
      rintro _ _ _ _ ⟨⟩
      exact hfresh hsid
  | get sessionId now =>
      simp only [SessionState.step, Option.ite_none_right_eq_some, Option.some.injEq] at hs
      obtain ⟨hclock, rfl⟩ := hs
      refine ⟨hclock, ?_, fun sid hsid => ⟨hsid, by simp⟩⟩
      rcases s.store.get_snd sessionId now with heq | ⟨sid, session, heq, -⟩
      · exact congrArg SessionStore.ttlSeconds heq
      · dsimp only
        rw [heq]
        exact SessionStore.ttlSeconds_delete
  | delete sessionId =>
      cases sessionId with
      | none =>
          cases hs
          exact ⟨le_rfl, rfl, fun sid hsid => ⟨hsid, by simp⟩⟩
      | some sessionId =>
          cases hs
          exact ⟨le_rfl, SessionStore.ttlSeconds_delete, fun sid hsid => ⟨hsid, by simp⟩⟩
  | cleanupExpired now =>
      simp only [SessionState.step, Option.ite_none_right_eq_some, Option.some.injEq] at hs
      obtain ⟨hclock, rfl⟩ := hs
      exact ⟨hclock, SessionStore.ttlSeconds_cleanupExpired, fun sid hsid => ⟨hsid, by simp⟩⟩

/-- Every run keeps the store and the history in agreement. -/
theorem Agrees.run {history : History} (h : Agrees s history)
    (hrun : run SessionState.step s calls = some s') :
    Agrees s' (calls.foldl (History.record s.store.ttlSeconds) history) := by
  induction calls generalizing s history with
  | nil => exact Option.some.inj hrun ▸ h
  | cons call calls ih =>
      obtain ⟨s₁, hs, hrun⟩ := run_cons_eq_some.mp hrun
      rw [List.foldl_cons, ← (step_keeps hs).2.1]
      exact ih ((step_keeps hs).2.1 ▸ h.step hs) hrun

/-- A session id that was handed out is not created again. -/
theorem issued_run (hrun : run SessionState.step s calls = some s') (hsid : sid ∈ s.issued) :
    ∀ username password t now, .create username password sid t now ∉ calls := by
  induction calls generalizing s with
  | nil => simp
  | cons call calls ih =>
      obtain ⟨s₁, hs, hrun⟩ := run_cons_eq_some.mp hrun
      obtain ⟨hsid₁, hne⟩ := (step_keeps hs).2.2 sid hsid
      intro username password t now hmem
      rcases List.mem_cons.mp hmem with heq | hmem
      · exact hne _ _ _ _ heq.symm
      · exact ih hrun hsid₁ _ _ _ _ hmem

/-! ### Reading the history -/

/-- The calls that the history of a session id depends on. -/
def SessionCall.concerns (sid : String) : SessionCall → Bool
  | .create _ _ sessionId _ _ => sessionId = sid
  | .delete (some sessionId) => sessionId = sid
  | _ => false

theorem create_or_delete_of_concerns (h : call.concerns sid = true) :
    (∃ username password t now, call = .create username password sid t now) ∨
      call = .delete (some sid) := by
  cases call with
  | create username password sessionId t now =>
      obtain rfl : sessionId = sid := of_decide_eq_true h
      exact .inl ⟨username, password, t, now, rfl⟩
  | delete sessionId =>
      cases sessionId with
      | none => cases h
      | some sessionId =>
          obtain rfl : sessionId = sid := of_decide_eq_true h
          exact .inr rfl
  | get sessionId now => cases h
  | cleanupExpired now => cases h

theorem record_of_not_concerns {ttlSeconds : ℚ} {history : History}
    (h : call.concerns sid = false) : history.record ttlSeconds call sid = history sid := by
  cases call with
  | create username password sessionId t now =>
      exact Function.update_of_ne (Ne.symm (of_decide_eq_false h)) _ _
  | delete sessionId =>
      cases sessionId with
      | none => rfl
      | some sessionId => exact Function.update_of_ne (Ne.symm (of_decide_eq_false h)) _ _
  | get sessionId now => rfl
  | cleanupExpired now => rfl

theorem record_congr {ttlSeconds : ℚ} {history history' : History}
    (h : history sid = history' sid) :
    history.record ttlSeconds call sid = history'.record ttlSeconds call sid := by
  cases call with
  | create username password sessionId t now =>
      simp only [History.record, Function.update_apply, h]
  | delete sessionId =>
      cases sessionId with
      | none => exact h
      | some sessionId => simp only [History.record, Function.update_apply, h]
  | get sessionId now => exact h
  | cleanupExpired now => exact h

theorem foldl_record_filter {ttlSeconds : ℚ} {history history' : History}
    (h : history sid = history' sid) :
    calls.foldl (History.record ttlSeconds) history sid =
      (calls.filter (SessionCall.concerns sid)).foldl (History.record ttlSeconds) history' sid := by
  induction calls generalizing history history' with
  | nil => exact h
  | cons call calls ih =>
      cases hconcerns : call.concerns sid with
      | false =>
          rw [List.filter_cons_of_neg (by simp [hconcerns])]
          exact ih ((record_of_not_concerns hconcerns).trans h)
      | true =>
          rw [List.filter_cons_of_pos hconcerns]
          exact ih (record_congr h)

/-- The call by which a session came into the history, if it did so after the history began. -/
theorem foldl_record_eq_some {ttlSeconds : ℚ} {history : History} {session : Session}
    (h : calls.foldl (History.record ttlSeconds) history sid = some session) :
    history sid = some session ∧ .delete (some sid) ∉ calls ∨
      ∃ before after t c, calls =
          before ++ .create session.username session.password sid t c :: after ∧
        .delete (some sid) ∉ after ∧ session.expiresAt = c + ttlSeconds := by
  induction calls generalizing history with
  | nil => exact .inl ⟨h, List.not_mem_nil⟩
  | cons call calls ih =>
      rcases ih h with ⟨hfirst, hdelete⟩ | ⟨before, after, t, c, rfl, hdelete, hexpires⟩
      · cases hconcerns : call.concerns sid with
        | false =>
            rw [record_of_not_concerns hconcerns] at hfirst
            refine .inl ⟨hfirst, ?_⟩
            rintro (_ | _)
            · simp [SessionCall.concerns] at hconcerns
            · contradiction
        | true =>
            rcases create_or_delete_of_concerns hconcerns with
              ⟨username, password, t, now, rfl⟩ | rfl
            · simp only [History.record, Function.update_self, Option.some.injEq] at hfirst
              subst hfirst
              exact .inr ⟨[], calls, t, now, rfl, hdelete, rfl⟩
            · simp [History.record] at hfirst
      · exact .inr ⟨call :: before, after, t, c, rfl, hdelete, hexpires⟩

/-- Calls that neither create nor delete a session leave its history alone. -/
theorem foldl_record_of_not_mem {ttlSeconds : ℚ} {history : History}
    (hcreate : ∀ username password t now, .create username password sid t now ∉ calls)
    (hdelete : .delete (some sid) ∉ calls) :
    calls.foldl (History.record ttlSeconds) history sid = history sid := by
  have hnil : calls.filter (SessionCall.concerns sid) = [] := by
    rw [List.filter_eq_nil_iff]
    intro call hmem hconcerns
    rcases create_or_delete_of_concerns hconcerns with ⟨username, password, t, now, rfl⟩ | rfl
    · exact hcreate username password t now hmem
    · exact hdelete hmem
  rw [foldl_record_filter rfl, hnil]
  rfl

/-! ### The answers -/

/-- `sessionId` was created for these credentials less than `ttlSeconds` before `t`, and has not
been deleted since. -/
def Live (ttlSeconds : ℚ) (calls : List SessionCall) (sid : String) (username password : Text)
    (t : ℚ) : Prop :=
  ∃ before after cleanup c, calls = before ++ .create username password sid cleanup c :: after ∧
    t < c + ttlSeconds ∧ .delete (some sid) ∉ after

variable {ttlSeconds clock : ℚ}

theorem agrees_run (hrun : run SessionState.step (.init ttlSeconds clock) calls = some s) :
    Agrees s (history ttlSeconds calls) :=
  (agrees_init ttlSeconds clock).run hrun

/-- The history answers with the sessions that are live. -/
theorem answer_history_eq_some_iff {username password : Text} {t : ℚ}
    (hrun : run SessionState.step (.init ttlSeconds clock) calls = some s) :
    (history ttlSeconds calls).answer sid t = some (username, password) ↔
      Live ttlSeconds calls sid username password t := by
  constructor
  · intro h
    unfold History.answer at h
    split at h
    · cases h
    · next session hsession =>
        rw [Option.ite_none_right_eq_some] at h
        obtain ⟨hlt, hcredentials⟩ := h
        cases hcredentials
        rcases foldl_record_eq_some hsession with ⟨hnone, -⟩ | hcreate
        · cases hnone
        · obtain ⟨before, after, cleanup, c, hcalls, hdelete, hexpires⟩ := hcreate
          exact ⟨before, after, cleanup, c, hcalls, hexpires ▸ hlt, hdelete⟩
  · rintro ⟨before, after, cleanup, c, rfl, hlt, hdelete⟩
    -- after the session is created, its id is in `issued`
    obtain ⟨s₁, -, hrest⟩ := run_append_eq_some.mp hrun
    obtain ⟨s₂, hs, hafter⟩ := run_cons_eq_some.mp hrest
    have hissued : sid ∈ s₂.issued := by
      simp only [SessionState.step, Option.ite_none_right_eq_some, Option.some.injEq] at hs
      obtain ⟨-, rfl⟩ := hs
      exact List.mem_cons_self
    have hsession : history ttlSeconds
        (before ++ .create username password sid cleanup c :: after) sid =
          some ⟨username, password, c + ttlSeconds⟩ := by
      rw [history, List.foldl_append, List.foldl_cons,
        foldl_record_of_not_mem (issued_run hafter hissued) hdelete]
      simp [History.record]
    rw [History.answer, hsession]
    simp [hlt]

/-- In every run of calls, the store answers for a session id exactly while the session is live.
So calls of `get` and `cleanup_expired`, and calls for other sessions, change no answer; and a
session that was refused is never accepted again. -/
theorem sessions_answer_by_time
    (hrun : run SessionState.step (.init ttlSeconds clock) calls = some s) :
    (∀ sid t, s.clock ≤ t → ∀ username password,
      (getAuthenticatedCredentials (some sid) t s.store).1 = some (username, password) ↔
        Live ttlSeconds calls sid username password t) ∧
    (∀ clock' calls' s' sid t,
      run SessionState.step (.init ttlSeconds clock') calls' = some s' →
      calls.filter (SessionCall.concerns sid) = calls'.filter (SessionCall.concerns sid) →
      s.clock ≤ t → s'.clock ≤ t →
      (getAuthenticatedCredentials (some sid) t s.store).1 =
        (getAuthenticatedCredentials (some sid) t s'.store).1) ∧
    ∀ later s' sid t t', run SessionState.step s later = some s' → sid ∈ s.issued →
      s.clock ≤ t → t ≤ t' → s'.clock ≤ t' →
      (getAuthenticatedCredentials (some sid) t s.store).1 = none →
      (getAuthenticatedCredentials (some sid) t' s'.store).1 = none := by
  have hagrees := agrees_run hrun
  refine ⟨?_, ?_, ?_⟩
  · intro sid t ht username password
    rw [hagrees.answer ht, answer_history_eq_some_iff hrun]
  · intro clock' calls' s' sid t hrun' hfilter ht ht'
    have hhistory : history ttlSeconds calls sid = history ttlSeconds calls' sid := by
      rw [history, history, foldl_record_filter rfl, hfilter, ← foldl_record_filter rfl]
    rw [hagrees.answer ht, (agrees_run hrun').answer ht', History.answer, History.answer, hhistory]
  · intro later s' sid t t' hlater hissued ht htt' ht' hrefused
    have hagrees' := agrees_run (run_append_eq_some.mpr ⟨s, hrun, hlater⟩)
    rw [hagrees.answer ht] at hrefused
    rw [hagrees'.answer ht', History.answer]
    split
    · rfl
    · next session hsession =>
        rw [history, List.foldl_append] at hsession
        rcases foldl_record_eq_some hsession with ⟨hbefore, -⟩ | hcreated
        · -- the session is the one that was refused
          rw [if_neg]
          intro hlt
          have hhistory : history ttlSeconds calls sid = some session := hbefore
          rw [History.answer, hhistory] at hrefused
          simp [htt'.trans_lt hlt] at hrefused
        · obtain ⟨before, after, cleanup, c, hcreate, -⟩ := hcreated
          refine absurd ?_ (issued_run hlater hissued session.username session.password cleanup c)
          rw [hcreate]
          exact List.mem_append_right _ List.mem_cons_self

/-- A session of ten seconds is accepted at the ninth, although a lookup and a cleanup came in
between. -/
theorem sessions_answer_by_time_ten_seconds :
    ∃ s, run SessionState.step (.init 10 0) [.create ['u'] ['p'] "sid" 0 0, .get (some "sid") 8,
        .cleanupExpired 9] = some s ∧
      (getAuthenticatedCredentials (some "sid") 9 s.store).1 = some (['u'], ['p']) := by
  have hclock : (run SessionState.step (.init 10 0) [.create ['u'] ['p'] "sid" 0 0,
      .get (some "sid") 8, .cleanupExpired 9]).map SessionState.clock = some 9 := by
    decide +kernel
  obtain ⟨s, hrun, hclock⟩ := Option.map_eq_some_iff.mp hclock
  have hlive : Live 10 [.create ['u'] ['p'] "sid" 0 0, .get (some "sid") 8, .cleanupExpired 9]
      "sid" ['u'] ['p'] 9 :=
    ⟨[], [.get (some "sid") 8, .cleanupExpired 9], 0, 0, rfl, by norm_num, by simp⟩
  exact ⟨s, hrun,
    ((sessions_answer_by_time hrun).1 "sid" 9 hclock.le ['u'] ['p']).mpr hlive⟩

end Runs

end PxManager.Login
