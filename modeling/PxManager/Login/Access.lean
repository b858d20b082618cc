import PxManager.Admin.Save
import PxManager.Core.UrlEncode
import PxManager.Login.Sessions

/-!
# PxManager.Login.Access

Who gets an answer from the guarded pages and from the API.

`Server.answer` is how Tornado takes a request through a handler: the XSRF check, `prepare`, and the
method. What a guarded method does is left open, but for what it does to the sessions, to the bans
and to the files of the admin page. A method that waits keeps the credentials that it has begun
with, so the place where it begins is what matters.

The session store answers by the history of its calls, so who gets in can be read off the requests:
somebody has logged in with a password that the store accepts, from an IP that was not banned, has
been given the session id, and nobody has logged out with it.
-/

namespace PxManager.Login

open PxManager.Core PxManager.Bans PxManager.Admin

/-! ### Handlers -/

/-- The handlers of `make_app`. -/
inductive Handler
  | index | logout | favicon | robots
  /-- `default_handler_class`. -/
  | errorPage
  | admin | adminLog | doc | healthPage | lookup | api
  | healthConnect | healthDns | healthHead | healthProtocol | healthReputation | healthSpeed
  | healthPing
  | proxyList | superProxy | foxyProxy | megaProxy | shadowrocket
  deriving DecidableEq

/-- The methods that Tornado supports. -/
inductive Method
  | get | head | post | delete | patch | put | options
  deriving DecidableEq

/-- What `prepare` asks for. -/
inductive Guard
  /-- There is no `prepare`. -/
  | nothing
  /-- `ErrorPageHandler.prepare`. -/
  | refuse
  /-- A user, or a redirect to the login. -/
  | user
  /-- `AdminBaseHandler.prepare`. -/
  | admin
  /-- `require_authenticated_credentials`. -/
  | credentials
  deriving DecidableEq

/-- The `prepare` of a handler. -/
def Handler.prepare : Handler → Guard
  | .errorPage => .refuse
  | .admin | .adminLog => .admin
  | .doc | .healthPage | .lookup => .user
  | .api | .healthConnect | .healthDns | .healthHead | .healthPing => .credentials
  | .proxyList | .superProxy | .foxyProxy | .megaProxy | .shadowrocket => .credentials
  | _ => .nothing

/-- Does the method itself call `require_authenticated_credentials` first? -/
def Handler.asks : Handler → Method → Bool
  | .healthProtocol, .get | .healthReputation, .get | .healthSpeed, .post => true
  | _, _ => false

/-- Has the handler a method of its own? -/
def Handler.implements : Handler → Method → Bool
  | .favicon, m | .robots, m => m = .get
  -- `BaseHandler.options`
  | _, .options => true
  | .errorPage, _ => false
  | .index, m | .admin, m => m = .get ∨ m = .post
  | .logout, m | .healthSpeed, m => m = .post
  | _, m => m = .get

/-- A request to one of the handlers. -/
structure WebRequest where
  handler : Handler
  method : Method
  /-- Does `check_xsrf_cookie` accept the request? -/
  xsrf : Bool
  /-- Is there an `Origin` that is not allowed? -/
  foreignOrigin : Bool
  uri : Text
  /-- The session id in the signed cookie. -/
  cookie : Option String
  /-- The client, and the arguments of a login. -/
  login : PostRequest
  /-- The arguments of the admin page. -/
  saved : AdminRequest
  /-- What `secrets.token_urlsafe` gives in this request. -/
  token : String
  /-- The reading of `time.monotonic()` in `session_store.get`. -/
  user : ℚ
  /-- The other readings: `gate` is that of a check of the bans, `failureGate` and `failure` those
  of a failure that is recorded. -/
  clock : PostClock

/-- The answer to a request, as far as it depends on who asks. -/
inductive Reply
  /-- A page for everybody. -/
  | page (status : Nat)
  | redirect (location : Text)
  | login (response : Response)
  /-- The body of a guarded method runs for the session with these credentials. -/
  | runs (username password : Text)
  deriving DecidableEq

/-- The application between two requests, with the last reading of `time.monotonic()` and the
session ids that were handed out. -/
structure Server where
  app : App
  dataDir : DataDir
  clock : ℚ
  issued : List String

/-- The session store of the application. -/
def Server.sessions (s : Server) : SessionState := ⟨s.app.sessionStore, s.clock, s.issued⟩

namespace Server

variable (py : Builtins) (checkNetloc isIpAddress : Text → Bool) (adminUser : Option Text)

/-- `get_session`, with the user name and the password of the session. -/
def readSession (s : Server) (cookie : Option String) (now : ℚ) : Option (Text × Text) × Server :=
  let (credentials, sessionStore) := getAuthenticatedCredentials cookie now s.app.sessionStore
  (credentials, { s with app := { s.app with sessionStore }, clock := now })

/-- `require_authenticated_credentials`. -/
def requireCredentials (s : Server) (r : WebRequest) : Option (Text × Text) × Server :=
  match s.readSession r.cookie r.user with
  | (some credentials, s) => (some credentials, s)
  | (none, s) =>
      let banStore := s.app.banStore.recordFailure appConfig .auth r.login.clientIp
        FailureType.auth.limit (some r.login.client) r.clock.failureGate r.clock.failure
      (none, { s with app := { s.app with banStore } })

/-- `BaseHandler.options`. -/
def optionsReply (r : WebRequest) : Reply := .page (if r.foreignOrigin then 403 else 204)

/-- The method of a handler whose `prepare` has let a session pass. -/
def guardedMethod (s : Server) (r : WebRequest) (username password : Text) : Reply × Server :=
  if r.handler.implements r.method = false then (.page 405, s)
  else if r.method = .options then (optionsReply r, s)
  else
    match r.handler with
    | .admin =>
        let dataDir :=
          if r.method = .post then
            match AdminHandler.post py checkNetloc isIpAddress s.dataDir r.saved with
            | .ok (dataDir, _) => dataDir
            -- never, by `post_cases`
            | .error _ => s.dataDir
          else s.dataDir
        let (_, banStore) := s.app.banStore.activeBans appConfig r.clock.gate
        (.runs username password, { s with app := { s.app with banStore }, dataDir })
    | _ => (.runs username password, s)

/-- `IndexHandler.get`. -/
def indexGet (s : Server) (r : WebRequest) : Reply × Server :=
  let (banned, banStore) := BanStore.isBanned r.login.clientIp r.clock.gate s.app.banStore
  let s := { s with app := { s.app with banStore } }
  -- `retpath` is read last, and an error that it raises replaces the page
  let page status := .page (if (decodeArguments r.login.retpath).isSome then status else 400)
  if banned then (page 403, s) else (page 200, (s.readSession r.cookie r.user).2)

/-- `IndexHandler.post`, and what it does to the clock and to the session ids: a session that is
created is sent as a cookie, whatever the response. -/
def indexPost (s : Server) (r : WebRequest) : Reply × Server :=
  let (response, app) := post checkNetloc r.login r.token r.clock s.app
  match response.cookie with
  | some sessionId =>
      (.login response, { s with app, clock := r.clock.session, issued := sessionId :: s.issued })
  | none => (.login response, { s with app })

/-- `LogoutHandler.post`. -/
def logoutPost (s : Server) (r : WebRequest) : Reply × Server :=
  let sessionStore :=
    match r.cookie with
    | some sessionId => s.app.sessionStore.delete sessionId
    | none => s.app.sessionStore
  (.redirect "/".toList, { s with app := { s.app with sessionStore } })

/-- The method of a handler without `prepare`. -/
def openMethod (s : Server) (r : WebRequest) : Reply × Server :=
  if r.handler.implements r.method = false then (.page 405, s)
  else if r.handler.asks r.method then
    match s.requireCredentials r with
    | (some (username, password), s) => (.runs username password, s)
    | (none, s) => (.page 401, s)
  else
    match r.handler, r.method with
    | _, .options => (optionsReply r, s)
    | .index, .post => s.indexPost checkNetloc r
    | .index, _ => s.indexGet r
    | .logout, _ => s.logoutPost r
    | _, _ => (.page 200, s)

/-- `redirect_to_login`. -/
def loginLocation (uri : Text) : Text :=
  "/?".toList ++ urlencode [("retpath".toList, safeRetpath checkNetloc uri)]

/-- `RequestHandler._execute`. -/
def answer (s : Server) (r : WebRequest) : Reply × Server :=
  if r.method ∉ [.get, .head, .options] ∧ r.xsrf = false then (.page 403, s)
  else
    match r.handler.prepare with
    | .nothing => s.openMethod checkNetloc r
    | .refuse => (.page 404, s)
    | .user =>
        match s.readSession r.cookie r.user with
        | (some (username, password), s) =>
            s.guardedMethod py checkNetloc isIpAddress r username password
        | (none, s) => (.redirect (loginLocation checkNetloc r.uri), s)
    | .admin =>
        match s.readSession r.cookie r.user with
        | (some (username, password), s) =>
            if adminUser = some username then
              s.guardedMethod py checkNetloc isIpAddress r username password
            else (.page 403, s)
        | (none, s) => (.redirect (loginLocation checkNetloc r.uri), s)
    | .credentials =>
        match s.requireCredentials r with
        | (some (username, password), s) =>
            s.guardedMethod py checkNetloc isIpAddress r username password
        | (none, s) => (.page 401, s)

/-! ### Runs -/

end Server

/-- What happens to the application. -/
inductive WebEvent
  | request (r : WebRequest)
  /-- `current_user` is read for a page or for the access log. -/
  | readUser (cookie : Option String) (now : ℚ)
  | cleanupSessions (now : ℚ)
  | cleanupBans (now : ℚ)

namespace Server

variable (py : Builtins) (checkNetloc isIpAddress : Text → Bool) (adminUser : Option Text)

/-- A request can come at the time that its readings say, with a new session id. -/
def Accepts (s : Server) (r : WebRequest) : Prop :=
  s.clock ≤ r.user ∧ s.clock ≤ r.clock.cleanup ∧ r.clock.cleanup ≤ r.clock.session ∧
    r.token ≠ "" ∧ r.token ∉ s.issued

instance (s : Server) (r : WebRequest) : Decidable (s.Accepts r) :=
  inferInstanceAs (Decidable (_ ∧ _ ∧ _ ∧ _ ∧ _))

/-- The application after an event. -/
def step (s : Server) : WebEvent → Option Server
  | .request r =>
      if s.Accepts r then some (s.answer py checkNetloc isIpAddress adminUser r).2 else none
  | .readUser cookie now => if s.clock ≤ now then some (s.readSession cookie now).2 else none
  | .cleanupSessions now =>
      if s.clock ≤ now then
        let sessionStore := s.app.sessionStore.cleanupExpired now
        some { s with app := { s.app with sessionStore }, clock := now }
      else none
  | .cleanupBans now =>
      let banStore := s.app.banStore.cleanupExpired appConfig now
      some { s with app := { s.app with banStore } }

end Server

/-! ### What an event does to the sessions -/

section Sessions

variable {py : Builtins} {checkNetloc isIpAddress : Text → Bool} {adminUser : Option Text}
  {s : Server} {r : WebRequest}

/-- What a login does to the sessions, if its arguments can be read. -/
theorem post_sessions (checkNetloc : Text → Bool) {request : PostRequest} {username password : Text}
    (hread : request.credentials? = some (username, password)) (sessionId : String)
    (clock : PostClock) (app : App) :
    let result := post checkNetloc request sessionId clock app
    let verified := (BanStore.isBanned request.clientIp clock.gate app.banStore).1 = false ∧
      app.passwordStore.verify username password = some true
    result.2.passwordStore = app.passwordStore ∧
      ((verified ∧ result.1.cookie = some sessionId ∧ result.2.sessionStore =
          app.sessionStore.create username password sessionId clock.cleanup clock.session) ∨
        ¬ verified ∧ result.1.cookie = none ∧ result.2.sessionStore = app.sessionStore) := by
  dsimp only
  unfold post
  rw [hread]
  dsimp only
  split
  · next hbanned =>
      refine ⟨rfl, .inr ⟨?_, cookie_respondWith checkNetloc fun _ => rfl, rfl⟩⟩
      rintro ⟨hnot, -⟩
      rw [hbanned] at hnot
      cases hnot
  · next hpass =>
      rw [Bool.not_eq_true] at hpass
      split
      · next hverify =>
          refine ⟨rfl, .inr ⟨?_, rfl, rfl⟩⟩
          rintro ⟨-, htrue⟩
          cases hverify.symm.trans htrue
      · next hverify =>
          refine ⟨rfl, .inr ⟨?_, cookie_respondWith checkNetloc fun _ => rfl, rfl⟩⟩
          rintro ⟨-, htrue⟩
          cases hverify.symm.trans htrue
      · next hverify =>
          exact ⟨rfl, .inl ⟨⟨hpass, hverify⟩, cookie_respondWith checkNetloc fun _ => rfl, rfl⟩⟩

/-- Is the request a login? -/
def WebRequest.LogsIn (r : WebRequest) : Prop :=
  r.handler = .index ∧ r.method = .post ∧ r.xsrf = true

/-- Is the request a logout? -/
def WebRequest.LogsOut (r : WebRequest) : Prop :=
  r.handler = .logout ∧ r.method = .post ∧ r.xsrf = true

instance (r : WebRequest) : Decidable r.LogsIn := inferInstanceAs (Decidable (_ ∧ _ ∧ _))

instance (r : WebRequest) : Decidable r.LogsOut := inferInstanceAs (Decidable (_ ∧ _ ∧ _))

/-- The user name and the password with which a login is let in. -/
def WebRequest.logsInAs (r : WebRequest) (app : App) : Option (Text × Text) :=
  if r.LogsIn ∧ (BanStore.isBanned r.login.clientIp r.clock.gate app.banStore).1 = false then
    r.login.credentials?.filter fun (username, password) =>
      app.passwordStore.verify username password = some true
  else none

/-- Does the request read the session of its cookie? -/
def WebRequest.ReadsSession (r : WebRequest) (app : App) : Prop :=
  (r.method ∈ [.get, .head, .options] ∨ r.xsrf = true) ∧
    (r.handler.prepare ∈ [.user, .admin, .credentials] ∨
      r.handler.prepare = .nothing ∧ (r.handler.asks r.method = true ∨
        r.handler = .index ∧ r.method = .get ∧
          (BanStore.isBanned r.login.clientIp r.clock.gate app.banStore).1 = false))

instance (r : WebRequest) (app : App) : Decidable (r.ReadsSession app) :=
  inferInstanceAs (Decidable (_ ∧ _))

/-- The calls of the session store that an event makes. -/
def Server.calls (s : Server) : WebEvent → List SessionCall
  | .request r =>
      match r.logsInAs s.app with
      | some (username, password) =>
          [.create username password r.token r.clock.cleanup r.clock.session]
      | none =>
          if r.LogsOut then [.delete r.cookie]
          else if r.ReadsSession s.app then [.get r.cookie r.user]
          else []
  | .readUser cookie now => [.get cookie now]
  | .cleanupSessions now => [.cleanupExpired now]
  | .cleanupBans _ => []

/-- The calls of a request that is no login, or is one that is not let in. -/
theorem calls_of_logsInAs (h : r.logsInAs s.app = none) :
    s.calls (.request r) =
      if r.LogsOut then [.delete r.cookie]
      else if r.ReadsSession s.app then [.get r.cookie r.user]
      else [] := by
  simp only [Server.calls, h]

theorem logsInAs_of_not_logsIn {app : App} (h : ¬ r.LogsIn) : r.logsInAs app = none :=
  if_neg fun h' => h h'.1

theorem logsIn_of_logsInAs {app : App} {credentials : Text × Text}
    (h : r.logsInAs app = some credentials) : r.LogsIn := by
  by_contra hnot
  rw [logsInAs_of_not_logsIn hnot] at h
  cases h

theorem calls_of_not_logsIn (h : ¬ r.LogsIn) :
    s.calls (.request r) =
      if r.LogsOut then [.delete r.cookie]
      else if r.ReadsSession s.app then [.get r.cookie r.user]
      else [] :=
  calls_of_logsInAs (logsInAs_of_not_logsIn h)

theorem requireCredentials_sessions (s : Server) (r : WebRequest) :
    (s.requireCredentials r).2.sessions = (s.readSession r.cookie r.user).2.sessions ∧
      (s.requireCredentials r).2.app.passwordStore = s.app.passwordStore := by
  unfold Server.requireCredentials
  split
  · next heq => exact ⟨by rw [heq], congrArg (·.2.app.passwordStore) heq.symm⟩
  · next heq => exact ⟨by rw [heq]; rfl, congrArg (·.2.app.passwordStore) heq.symm⟩

variable (py checkNetloc isIpAddress) in
theorem guardedMethod_sessions (s : Server) (r : WebRequest) (username password : Text) :
    (s.guardedMethod py checkNetloc isIpAddress r username password).2.sessions = s.sessions ∧
      (s.guardedMethod py checkNetloc isIpAddress r username password).2.app.passwordStore =
        s.app.passwordStore := by
  unfold Server.guardedMethod
  split
  · exact ⟨rfl, rfl⟩
  · split
    · exact ⟨rfl, rfl⟩
    · split <;> exact ⟨rfl, rfl⟩

theorem run_get (s : Server) (cookie : Option String) {now : ℚ} (h : s.clock ≤ now) :
    run SessionState.step s.sessions [.get cookie now] = some (s.readSession cookie now).2.sessions := by
  have hclock : s.sessions.clock ≤ now := h
  simp only [run, SessionState.step, if_pos hclock, Option.bind_some]
  rfl

/-- A handler with a `prepare` reads the session in it, and nowhere else. -/
theorem calls_of_prepare (hxsrf : r.method ∈ [.get, .head, .options] ∨ r.xsrf = true)
    (hprepare : r.handler.prepare ∈ [.user, .admin, .credentials]) :
    s.calls (.request r) = [.get r.cookie r.user] := by
  have hin : ¬ r.LogsIn := by
    rintro ⟨hindex, -⟩
    rw [hindex] at hprepare
    exact absurd hprepare (by decide)
  have hout : ¬ r.LogsOut := by
    rintro ⟨hlogout, -⟩
    rw [hlogout] at hprepare
    exact absurd hprepare (by decide)
  rw [calls_of_not_logsIn hin, if_neg hout, if_pos ⟨hxsrf, .inl hprepare⟩]

/-- What a login does to the sessions. -/
theorem indexPost_sessions (hindex : r.handler = .index) (hmethod : r.method = .post)
    (hxsrf : r.method ∈ [.get, .head, .options] ∨ r.xsrf = true) (haccepts : s.Accepts r) :
    run SessionState.step s.sessions (s.calls (.request r)) =
        some (s.indexPost checkNetloc r).2.sessions ∧
      (s.indexPost checkNetloc r).2.app.passwordStore = s.app.passwordStore := by
  obtain ⟨huser, hcleanup, hsession, htoken, hfresh⟩ := haccepts
  have hok : r.xsrf = true := by
    rw [hmethod] at hxsrf
    exact hxsrf.resolve_left (by decide)
  have hout : ¬ r.LogsOut := by
    rintro ⟨hlogout, -⟩
    cases hindex.symm.trans hlogout
  have hreads : ¬ r.ReadsSession s.app := by
    rintro ⟨-, hother | ⟨-, hother | ⟨-, hother, -⟩⟩⟩
    · rw [hindex] at hother
      exact absurd hother (by decide)
    · rw [hindex] at hother
      cases hother
    · cases hmethod.symm.trans hother
  have hlogin : r.LogsIn := ⟨hindex, hmethod, hok⟩
  unfold Server.indexPost
  cases hread : r.login.credentials? with
  | none =>
      have hin : r.logsInAs s.app = none := by
        rw [WebRequest.logsInAs, hread]
        exact ite_self _
      rw [calls_of_logsInAs hin, if_neg hout, if_neg hreads, post, hread]
      exact ⟨rfl, rfl⟩
  | some credentials =>
      obtain ⟨username, password⟩ := credentials
      obtain ⟨hpasswords, hcases⟩ := post_sessions checkNetloc hread r.token r.clock s.app
      generalize post checkNetloc r.login r.token r.clock s.app = result at hpasswords hcases
      obtain ⟨response, app⟩ := result
      rcases hcases with ⟨⟨hgate, hverify⟩, hcookie, hstore⟩ | ⟨hnot, hcookie, hstore⟩
      · have hin : r.logsInAs s.app = some (username, password) := by
          rw [WebRequest.logsInAs, if_pos ⟨hlogin, hgate⟩, hread]
          exact Option.filter_some_pos (decide_eq_true hverify)
        simp only [Server.calls, hin, hcookie]
        refine ⟨?_, hpasswords⟩
        simp only [run, SessionState.step]
        rw [if_pos ⟨hcleanup, hsession, htoken, hfresh⟩, Option.bind_some]
        exact congrArg
          (fun store => some (SessionState.mk store r.clock.session (r.token :: s.issued)))
          hstore.symm
      · have hin : r.logsInAs s.app = none := by
          rw [WebRequest.logsInAs, hread]
          split
          · next hgate =>
              refine Option.filter_some_neg (decide_eq_false ?_)
              exact fun hverify => hnot ⟨hgate.2, hverify⟩
          · rfl
        rw [calls_of_logsInAs hin, if_neg hout, if_neg hreads]
        simp only [hcookie]
        refine ⟨?_, hpasswords⟩
        exact congrArg (fun store => some (SessionState.mk store s.clock s.issued)) hstore.symm

theorem indexGet_sessions (hindex : r.handler = .index) (hmethod : r.method = .get)
    (haccepts : s.Accepts r) :
    run SessionState.step s.sessions (s.calls (.request r)) = some (s.indexGet r).2.sessions ∧
      (s.indexGet r).2.app.passwordStore = s.app.passwordStore := by
  have hpost : r.method ≠ .post := by simp [hmethod]
  unfold Server.indexGet
  dsimp only
  split
  · next hbanned =>
      have hcalls : s.calls (.request r) = [] := by
        rw [calls_of_not_logsIn fun h => hpost h.2.1, if_neg fun h => hpost h.2.1, if_neg]
        rintro ⟨-, hother | ⟨-, hother | ⟨-, -, hother⟩⟩⟩
        · rw [hindex] at hother
          exact absurd hother (by decide)
        · rw [hindex] at hother
          cases hother
        · rw [hbanned] at hother
          cases hother
      exact ⟨by rw [hcalls]; rfl, rfl⟩
  · next hpass =>
      rw [Bool.not_eq_true] at hpass
      have hcalls : s.calls (.request r) = [.get r.cookie r.user] := by
        rw [calls_of_not_logsIn fun h => hpost h.2.1, if_neg fun h => hpost h.2.1, if_pos]
        refine ⟨.inl (by rw [hmethod]; decide), .inr ⟨by rw [hindex]; rfl, .inr ⟨hindex, hmethod, hpass⟩⟩⟩
      rw [hcalls, run_get s r.cookie haccepts.1]
      exact ⟨rfl, rfl⟩

theorem logoutPost_sessions (hlogout : r.handler = .logout) (hmethod : r.method = .post)
    (hxsrf : r.method ∈ [.get, .head, .options] ∨ r.xsrf = true) :
    run SessionState.step s.sessions (s.calls (.request r)) = some (s.logoutPost r).2.sessions ∧
      (s.logoutPost r).2.app.passwordStore = s.app.passwordStore := by
  have hok : r.xsrf = true := by
    rw [hmethod] at hxsrf
    exact hxsrf.resolve_left (by decide)
  have hin : ¬ r.LogsIn := by
    rintro ⟨hindex, -⟩
    cases hlogout.symm.trans hindex
  rw [calls_of_not_logsIn hin, if_pos ⟨hlogout, hmethod, hok⟩]
  unfold Server.logoutPost
  cases r.cookie <;> exact ⟨rfl, rfl⟩

/-- What a request does to the sessions. -/
theorem openMethod_sessions (hprepare : r.handler.prepare = .nothing)
    (hxsrf : r.method ∈ [.get, .head, .options] ∨ r.xsrf = true) (haccepts : s.Accepts r) :
    run SessionState.step s.sessions (s.calls (.request r)) =
        some (s.openMethod checkNetloc r).2.sessions ∧
      (s.openMethod checkNetloc r).2.app.passwordStore = s.app.passwordStore := by
  have hget := run_get s r.cookie haccepts.1
  unfold Server.openMethod
  split
  · next hnot =>
      have hcalls : s.calls (.request r) = [] := by
        rw [calls_of_not_logsIn, if_neg, if_neg]
        · rintro ⟨-, hother | ⟨-, hasks | ⟨hindex, hget, -⟩⟩⟩
          · rw [hprepare] at hother
            exact absurd hother (by decide)
          · revert hnot hasks
            cases r.handler <;> cases r.method <;> decide
          · rw [hindex, hget] at hnot
            cases hnot
        · rintro ⟨hlogout, hpost, -⟩
          rw [hlogout, hpost] at hnot
          cases hnot
        · rintro ⟨hindex, hpost, -⟩
          rw [hindex, hpost] at hnot
          cases hnot
      exact ⟨by rw [hcalls]; rfl, rfl⟩
  · next himplements =>
    split
    · next hasks =>
        have hcalls : s.calls (.request r) = [.get r.cookie r.user] := by
          rw [calls_of_not_logsIn, if_neg, if_pos ⟨hxsrf, .inr ⟨hprepare, .inl hasks⟩⟩]
          · rintro ⟨hlogout, -⟩
            rw [hlogout] at hasks
            cases hasks
          · rintro ⟨hindex, -⟩
            rw [hindex] at hasks
            cases hasks
        obtain ⟨hrequired, hkept⟩ := requireCredentials_sessions s r
        rw [hcalls, hget]
        split
        · next heq =>
            rw [heq] at hrequired hkept
            exact ⟨congrArg some hrequired.symm, hkept⟩
        · next heq =>
            rw [heq] at hrequired hkept
            exact ⟨congrArg some hrequired.symm, hkept⟩
    · next hasks =>
        rw [Bool.not_eq_true] at hasks
        have hnone : r.handler ≠ .index → r.handler ≠ .logout → s.calls (.request r) = [] := by
          intro hindex hlogout
          rw [calls_of_not_logsIn fun h => hindex h.1, if_neg fun h => hlogout h.1, if_neg]
          rintro ⟨-, hother | ⟨-, hother | ⟨hother, -⟩⟩⟩
          · rw [hprepare] at hother
            exact absurd hother (by decide)
          · rw [hasks] at hother
            cases hother
          · exact hindex hother
        split
        · next hmethod =>
            have hpost : r.method ≠ .post := by simp [hmethod]
            have hreads : ¬ r.ReadsSession s.app := by
              rintro ⟨-, hother | ⟨-, hother | ⟨-, hother, -⟩⟩⟩
              · rw [hprepare] at hother
                exact absurd hother (by decide)
              · rw [hasks] at hother
                cases hother
              · cases hmethod.symm.trans hother
            have hcalls : s.calls (.request r) = [] := by
              rw [calls_of_not_logsIn fun h => hpost h.2.1, if_neg fun h => hpost h.2.1, if_neg hreads]
            exact ⟨by rw [hcalls]; rfl, rfl⟩
        · next hindex hmethod => exact indexPost_sessions hindex hmethod hxsrf haccepts
        · next hindex hoptions hpost =>
            have hget : r.method = .get := by
              revert himplements hoptions hpost
              rw [hindex]
              cases r.method <;> decide
            exact indexGet_sessions hindex hget haccepts
        · next hlogout hoptions =>
            have hpost : r.method = .post := by
              revert himplements hoptions
              rw [hlogout]
              cases r.method <;> decide
            exact logoutPost_sessions hlogout hpost hxsrf
        · next hindex hlogout _ _ =>
            have hcalls : s.calls (.request r) = [] := hnone hindex hlogout
            exact ⟨by rw [hcalls]; rfl, rfl⟩

theorem answer_sessions (haccepts : s.Accepts r) :
    run SessionState.step s.sessions (s.calls (.request r)) =
        some (s.answer py checkNetloc isIpAddress adminUser r).2.sessions ∧
      (s.answer py checkNetloc isIpAddress adminUser r).2.app.passwordStore =
        s.app.passwordStore := by
  have hget := run_get s r.cookie haccepts.1
  unfold Server.answer
  split
  · next hblocked =>
      obtain ⟨hmethod, hxsrf⟩ := hblocked
      have hcalls : s.calls (.request r) = [] := by
        have hnot : ¬ r.xsrf = true := by simp [hxsrf]
        rw [calls_of_not_logsIn fun h => hnot h.2.2, if_neg fun h => hnot h.2.2, if_neg]
        rintro ⟨hok | hok, -⟩
        · exact hmethod hok
        · exact hnot hok
      exact ⟨by rw [hcalls]; rfl, rfl⟩
  · next hpass =>
      have hxsrf : r.method ∈ [.get, .head, .options] ∨ r.xsrf = true := by
        rw [not_and_or, not_not, Bool.not_eq_false] at hpass
        exact hpass
      split
      · next hprepare => exact openMethod_sessions hprepare hxsrf haccepts
      · next hprepare =>
          have hcalls : s.calls (.request r) = [] := by
            rw [calls_of_not_logsIn, if_neg, if_neg]
            · rintro ⟨-, hother | ⟨hother, -⟩⟩
              · rw [hprepare] at hother
                exact absurd hother (by decide)
              · cases hprepare.symm.trans hother
            · rintro ⟨hlogout, -⟩
              rw [hlogout] at hprepare
              cases hprepare
            · rintro ⟨hindex, -⟩
              rw [hindex] at hprepare
              cases hprepare
          exact ⟨by rw [hcalls]; rfl, rfl⟩
      · next hprepare =>
          rw [calls_of_prepare hxsrf (by rw [hprepare]; decide), hget]
          split
          · next heq =>
              obtain ⟨hsessions, hpasswords⟩ :=
                guardedMethod_sessions py checkNetloc isIpAddress _ r _ _
              rw [hsessions, hpasswords, heq]
              exact ⟨rfl, congrArg (·.2.app.passwordStore) heq.symm⟩
          · next heq => exact ⟨by rw [heq], congrArg (·.2.app.passwordStore) heq.symm⟩
      · next hprepare =>
          rw [calls_of_prepare hxsrf (by rw [hprepare]; decide), hget]
          split
          · next heq =>
              split
              · obtain ⟨hsessions, hpasswords⟩ :=
                  guardedMethod_sessions py checkNetloc isIpAddress _ r _ _
                rw [hsessions, hpasswords, heq]
                exact ⟨rfl, congrArg (·.2.app.passwordStore) heq.symm⟩
              · exact ⟨by rw [heq], congrArg (·.2.app.passwordStore) heq.symm⟩
          · next heq => exact ⟨by rw [heq], congrArg (·.2.app.passwordStore) heq.symm⟩
      · next hprepare =>
          rw [calls_of_prepare hxsrf (by rw [hprepare]; decide), hget]
          obtain ⟨hrequired, hkept⟩ := requireCredentials_sessions s r
          split
          · next heq =>
              obtain ⟨hsessions, hpasswords⟩ :=
                guardedMethod_sessions py checkNetloc isIpAddress _ r _ _
              rw [heq] at hrequired hkept
              rw [hsessions, hpasswords, hrequired]
              exact ⟨rfl, hkept⟩
          · next heq =>
              rw [heq] at hrequired hkept
              exact ⟨congrArg some hrequired.symm, hkept⟩

theorem step_sessions {e : WebEvent} {s' : Server}
    (hs : s.step py checkNetloc isIpAddress adminUser e = some s') :
    run SessionState.step s.sessions (s.calls e) = some s'.sessions ∧
      s'.app.passwordStore = s.app.passwordStore := by
  cases e with
  | request r =>
      simp only [Server.step, Option.ite_none_right_eq_some, Option.some.injEq] at hs
      obtain ⟨haccepts, rfl⟩ := hs
      exact answer_sessions haccepts
  | readUser cookie now =>
      simp only [Server.step, Option.ite_none_right_eq_some, Option.some.injEq] at hs
      obtain ⟨hclock, rfl⟩ := hs
      exact ⟨run_get s cookie hclock, rfl⟩
  | cleanupSessions now =>
      simp only [Server.step, Option.ite_none_right_eq_some, Option.some.injEq] at hs
      obtain ⟨hclock, rfl⟩ := hs
      have hsessions : s.sessions.clock ≤ now := hclock
      refine ⟨?_, rfl⟩
      simp only [Server.calls, run, SessionState.step, if_pos hsessions, Option.bind_some]
      rfl
  | cleanupBans now =>
      cases hs
      exact ⟨rfl, rfl⟩

end Sessions

/-! ### Whose session it is -/

section Access

variable (py : Builtins) (checkNetloc isIpAddress : Text → Bool) (adminUser : Option Text)

/-- Somebody has logged in with these credentials less than the lifetime of a session before `t` and
has got the session id, and nobody has logged out with it since. -/
def LoggedIn (start : Server) (events : List WebEvent) (sid : String) (username password : Text)
    (t : ℚ) : Prop :=
  ∃ before r after s, events = before ++ .request r :: after ∧
    run (Server.step py checkNetloc isIpAddress adminUser) start before = some s ∧
    r.logsInAs s.app = some (username, password) ∧ r.token = sid ∧
    t < r.clock.session + start.app.sessionStore.ttlSeconds ∧
    ∀ r', .request r' ∈ after → r'.LogsOut → r'.cookie ≠ some sid

/-- The calls of the session store in a run. -/
def runCalls (start : Server) (events : List WebEvent) : List SessionCall :=
  reports (Server.step py checkNetloc isIpAddress adminUser) (fun s e _ => s.calls e) start events

variable {py checkNetloc isIpAddress adminUser} {start s : Server} {events : List WebEvent}
  {sid : String} {username password : Text} {t : ℚ}

/-- A session is created by a login. -/
theorem request_of_create {e : WebEvent} {cleanup c : ℚ}
    (h : SessionCall.create username password sid cleanup c ∈ s.calls e) :
    ∃ r, e = .request r ∧ r.logsInAs s.app = some (username, password) ∧ r.token = sid ∧
      r.clock.cleanup = cleanup ∧ r.clock.session = c := by
  cases e with
  | request r =>
      rw [Server.calls] at h
      split at h
      · next hin =>
          cases List.mem_singleton.mp h
          exact ⟨r, rfl, hin, rfl, rfl, rfl⟩
      · split at h
        · cases List.mem_singleton.mp h
        · split at h
          · cases List.mem_singleton.mp h
          · cases h
  | readUser cookie now => cases List.mem_singleton.mp h
  | cleanupSessions now => cases List.mem_singleton.mp h
  | cleanupBans now => cases h

/-- What a logout reports. -/
theorem calls_of_logsOut {r : WebRequest} (h : r.LogsOut) :
    s.calls (.request r) = [.delete r.cookie] := by
  have hin : ¬ r.LogsIn := by
    rintro ⟨hindex, -⟩
    cases h.1.symm.trans hindex
  rw [calls_of_not_logsIn hin, if_pos h]

theorem delete_mem_reports {r : WebRequest}
    (hrun : run (Server.step py checkNetloc isIpAddress adminUser) start events = some s)
    (hr : .request r ∈ events) (hout : r.LogsOut) :
    .delete r.cookie ∈ runCalls py checkNetloc isIpAddress adminUser start events := by
  obtain ⟨before, after, rfl⟩ := List.append_of_mem hr
  obtain ⟨s₁, hbefore, hafter⟩ := run_append_eq_some.mp hrun
  obtain ⟨s₂, hstep, -⟩ := run_cons_eq_some.mp hafter
  rw [runCalls, reports_append hbefore, reports_cons hstep, calls_of_logsOut hout]
  exact List.mem_append_right _ List.mem_cons_self

/-- A session is deleted by a logout. -/
theorem request_of_delete
    (hrun : run (Server.step py checkNetloc isIpAddress adminUser) start events = some s)
    (h : .delete (some sid) ∈ runCalls py checkNetloc isIpAddress adminUser start events) :
    ∃ r, .request r ∈ events ∧ r.LogsOut ∧ r.cookie = some sid := by
  obtain ⟨left, right, hreports⟩ := List.append_of_mem h
  obtain ⟨front, e, rest, s₁, s₂, left', right', rfl, -, -, -, hcalls, -⟩ :=
    exists_step_of_reports hrun hreports
  have hmem : SessionCall.delete (some sid) ∈ s₁.calls e := by
    rw [hcalls]
    exact List.mem_append_right _ List.mem_cons_self
  cases e with
  | request r =>
      rw [Server.calls] at hmem
      split at hmem
      · cases List.mem_singleton.mp hmem
      · split at hmem
        · next hout =>
            have hcookie := SessionCall.delete.inj (List.mem_singleton.mp hmem)
            exact ⟨r, List.mem_append_right _ List.mem_cons_self, hout, hcookie.symm⟩
        · split at hmem
          · cases List.mem_singleton.mp hmem
          · cases hmem
  | readUser cookie now => cases List.mem_singleton.mp hmem
  | cleanupSessions now => cases List.mem_singleton.mp hmem
  | cleanupBans now => cases hmem

/-- The session is live by the calls of the store if and only if it is by the requests. -/
theorem live_iff_loggedIn
    (hrun : run (Server.step py checkNetloc isIpAddress adminUser) start events = some s) :
    Live start.app.sessionStore.ttlSeconds
        (runCalls py checkNetloc isIpAddress adminUser start events) sid username password t ↔
      LoggedIn py checkNetloc isIpAddress adminUser start events sid username password t := by
  constructor
  · rintro ⟨before, after, cleanup, c, hreports, hlt, hdelete⟩
    obtain ⟨front, e, rest, s₁, s₂, left, right, rfl, hfront, hstep, hrest, hcalls, rfl⟩ :=
      exists_step_of_reports hrun hreports
    have hmem : SessionCall.create username password sid cleanup c ∈ s₁.calls e := by
      rw [hcalls]
      exact List.mem_append_right _ List.mem_cons_self
    obtain ⟨r, rfl, hin, rfl, rfl, rfl⟩ := request_of_create hmem
    refine ⟨front, r, rest, s₁, rfl, hfront, hin, rfl, hlt, ?_⟩
    intro r' hr' hout hcookie
    refine hdelete (List.mem_append_right _ ?_)
    rw [← hcookie]
    exact delete_mem_reports hrest hr' hout
  · rintro ⟨before, r, after, s₁, rfl, hbefore, hin, rfl, hlt, hout⟩
    obtain ⟨s₁', hbefore', hafter⟩ := run_append_eq_some.mp hrun
    obtain rfl := Option.some.inj (hbefore.symm.trans hbefore')
    obtain ⟨s₂, hstep, hrest⟩ := run_cons_eq_some.mp hafter
    refine ⟨runCalls py checkNetloc isIpAddress adminUser start before,
      runCalls py checkNetloc isIpAddress adminUser s₂ after, r.clock.cleanup, r.clock.session, ?_,
      hlt, ?_⟩
    · simp only [runCalls, reports_append hbefore, reports_cons hstep, Server.calls, hin]
      rfl
    · intro hmem
      obtain ⟨r', hr', hout', hcookie⟩ := request_of_delete hrest hmem
      exact hout r' hr' hout' hcookie

/-- After a run the store answers by the requests. -/
theorem credentials_iff_loggedIn {ttlSeconds clock : ℚ}
    (hstart : start.sessions = .init ttlSeconds clock)
    (hrun : run (Server.step py checkNetloc isIpAddress adminUser) start events = some s)
    (ht : s.clock ≤ t) :
    (getAuthenticatedCredentials (some sid) t s.app.sessionStore).1 = some (username, password) ↔
      LoggedIn py checkNetloc isIpAddress adminUser start events sid username password t := by
  have httl : start.app.sessionStore.ttlSeconds = ttlSeconds :=
    congrArg (fun sessions => sessions.store.ttlSeconds) hstart
  have hcalls : run SessionState.step (.init ttlSeconds clock)
      (runCalls py checkNetloc isIpAddress adminUser start events) = some s.sessions := by
    rw [← hstart]
    exact run_reports (fun _ _ _ hs => (step_sessions hs).1) hrun
  rw [← live_iff_loggedIn hrun, httl, ← answer_history_eq_some_iff hcalls]
  exact Eq.congr_left ((agrees_run hcalls).answer ht)

/-! ### Who gets in -/

/-- The request has come to the body of a guarded method, given the user. -/
def WebRequest.Admitted (adminUser : Option Text) (r : WebRequest) (username : Text) : Prop :=
  (r.method ∈ [.get, .head, .options] ∨ r.xsrf = true) ∧
    r.handler.implements r.method = true ∧
    match r.handler.prepare with
    | .nothing => r.handler.asks r.method = true
    | .refuse => False
    | .admin => r.method ≠ .options ∧ adminUser = some username
    | .user | .credentials => r.method ≠ .options

theorem guardedMethod_eq_runs_iff (s : Server) (r : WebRequest) (username password u p : Text) :
    (s.guardedMethod py checkNetloc isIpAddress r username password).1 = .runs u p ↔
      (r.handler.implements r.method = true ∧ r.method ≠ .options) ∧
        (username, password) = (u, p) := by
  unfold Server.guardedMethod
  split
  · next hnot => simp [hnot]
  · next himplements =>
      rw [Bool.not_eq_false] at himplements
      split
      · next hoptions => simp [hoptions, Server.optionsReply]
      · next hoptions =>
          split <;> simp [himplements, hoptions]

theorem requireCredentials_fst (s : Server) (r : WebRequest) :
    (s.requireCredentials r).1 =
      (getAuthenticatedCredentials r.cookie r.user s.app.sessionStore).1 := by
  unfold Server.requireCredentials
  split
  · next heq => exact congrArg Prod.fst heq.symm
  · next heq => exact congrArg Prod.fst heq.symm

theorem requireCredentials_dataDir (s : Server) (r : WebRequest) :
    (s.requireCredentials r).2.dataDir = s.dataDir := by
  unfold Server.requireCredentials
  split
  · next heq => exact congrArg (·.2.dataDir) heq.symm
  · next heq => exact congrArg (·.2.dataDir) heq.symm

theorem openMethod_eq_runs_iff (s : Server) (r : WebRequest) (u p : Text) :
    (s.openMethod checkNetloc r).1 = .runs u p ↔
      (r.handler.implements r.method = true ∧ r.handler.asks r.method = true) ∧
        (getAuthenticatedCredentials r.cookie r.user s.app.sessionStore).1 = some (u, p) := by
  have hfst := requireCredentials_fst s r
  unfold Server.openMethod
  split
  · next hnot => simp [hnot]
  · next himplements =>
      rw [Bool.not_eq_false] at himplements
      split
      · next hasks =>
          split
          · next heq => simp [himplements, hasks, ← hfst, heq]
          · next heq => simp [himplements, hasks, ← hfst, heq]
      · next hasks =>
          have hno : ∀ reply : Reply, (∀ username password, reply ≠ .runs username password) →
              (reply = .runs u p ↔ (r.handler.implements r.method = true ∧
                r.handler.asks r.method = true) ∧
                (getAuthenticatedCredentials r.cookie r.user s.app.sessionStore).1 =
                  some (u, p)) := by
            intro reply hreply
            exact iff_of_false (hreply u p) fun h => hasks h.1.2
          refine hno _ ?_
          intro username password
          split
          · exact Reply.noConfusion
          · unfold Server.indexPost
            dsimp only
            split <;> exact Reply.noConfusion
          · unfold Server.indexGet
            dsimp only
            split <;> exact Reply.noConfusion
          · exact Reply.noConfusion
          · exact Reply.noConfusion

/-- A guarded method runs exactly for the session of the cookie. -/
theorem answer_eq_runs_iff (s : Server) (r : WebRequest) (u p : Text) :
    (s.answer py checkNetloc isIpAddress adminUser r).1 = .runs u p ↔
      r.Admitted adminUser u ∧
        (getAuthenticatedCredentials r.cookie r.user s.app.sessionStore).1 = some (u, p) := by
  have hread : (s.readSession r.cookie r.user).1 =
      (getAuthenticatedCredentials r.cookie r.user s.app.sessionStore).1 := rfl
  have hrequire := requireCredentials_fst s r
  unfold Server.answer WebRequest.Admitted
  split
  · next hblocked =>
      refine iff_of_false Reply.noConfusion ?_
      rintro ⟨⟨hmethod | hxsrf, -⟩, -⟩
      · exact hblocked.1 hmethod
      · rw [hblocked.2] at hxsrf
        cases hxsrf
  · next hpass =>
      rw [not_and_or, not_not, Bool.not_eq_false] at hpass
      split
      · next hprepare =>
          rw [openMethod_eq_runs_iff, hprepare]
          simp only [hpass, true_and]
      · next hprepare => simp [hprepare]
      · next hprepare =>
          rw [hprepare, ← hread]
          split
          · next heq =>
              rw [guardedMethod_eq_runs_iff, heq, Option.some.injEq]
              simp only [hpass, true_and]
          · next heq => simp [heq]
      · next hprepare =>
          rw [hprepare, ← hread]
          split
          · next username password _ heq =>
              rw [heq, Option.some.injEq]
              split
              · next hadmin =>
                  rw [guardedMethod_eq_runs_iff]
                  constructor
                  · rintro ⟨hmethod, hcredentials⟩
                    cases hcredentials
                    exact ⟨⟨hpass, hmethod.1, hmethod.2, hadmin⟩, rfl⟩
                  · rintro ⟨⟨-, himplements, hmethod, -⟩, hcredentials⟩
                    exact ⟨⟨himplements, hmethod⟩, hcredentials⟩
              · next hadmin =>
                  refine iff_of_false Reply.noConfusion ?_
                  rintro ⟨⟨-, -, -, huser⟩, hcredentials⟩
                  cases hcredentials
                  exact hadmin huser
          · next heq => simp [heq]
      · next hprepare =>
          rw [hprepare, ← hrequire]
          split
          · next heq =>
              rw [guardedMethod_eq_runs_iff, heq, Option.some.injEq]
              simp only [hpass, true_and]
          · next heq => simp [heq]

theorem openMethod_dataDir (s : Server) (r : WebRequest) :
    (s.openMethod checkNetloc r).2.dataDir = s.dataDir := by
  have hrequired := requireCredentials_dataDir s r
  unfold Server.openMethod
  split
  · rfl
  · split
    · split
      · next heq =>
          rw [heq] at hrequired
          exact hrequired
      · next heq =>
          rw [heq] at hrequired
          exact hrequired
    · split
      · rfl
      · unfold Server.indexPost
        dsimp only
        split <;> rfl
      · unfold Server.indexGet
        dsimp only
        split <;> rfl
      · rfl
      · rfl

theorem guardedMethod_dataDir (s : Server) (r : WebRequest) (username password : Text)
    (h : (s.guardedMethod py checkNetloc isIpAddress r username password).2.dataDir ≠ s.dataDir) :
    r.handler = .admin ∧ r.method = .post ∧
      (s.guardedMethod py checkNetloc isIpAddress r username password).1 = .runs username password := by
  revert h
  unfold Server.guardedMethod
  split
  · exact fun h => absurd rfl h
  · split
    · exact fun h => absurd rfl h
    · split
      · next hadmin =>
          dsimp only
          split
          · next hpost => exact fun _ => ⟨hadmin, hpost, rfl⟩
          · exact fun h => absurd rfl h
      · exact fun h => absurd rfl h

/-- The files change only by a post to the admin page that is admitted. -/
theorem answer_dataDir (s : Server) (r : WebRequest)
    (h : (s.answer py checkNetloc isIpAddress adminUser r).2.dataDir ≠ s.dataDir) :
    r.handler = .admin ∧ r.method = .post ∧
      ∃ u p, (s.answer py checkNetloc isIpAddress adminUser r).1 = .runs u p := by
  have hrequired := requireCredentials_dataDir s r
  have hread : (s.readSession r.cookie r.user).2.dataDir = s.dataDir := rfl
  revert h
  unfold Server.answer
  split
  · exact fun h => absurd rfl h
  · split
    · exact fun h => absurd (openMethod_dataDir s r) h
    · exact fun h => absurd rfl h
    · split
      · next heq =>
          rw [heq] at hread
          intro h
          obtain ⟨hadmin, hpost, hruns⟩ := guardedMethod_dataDir _ r _ _ (hread ▸ h)
          exact ⟨hadmin, hpost, _, _, hruns⟩
      · next heq =>
          rw [heq] at hread
          exact fun h => absurd hread h
    · split
      · next heq =>
          rw [heq] at hread
          split
          · intro h
            obtain ⟨hadmin, hpost, hruns⟩ := guardedMethod_dataDir _ r _ _ (hread ▸ h)
            exact ⟨hadmin, hpost, _, _, hruns⟩
          · exact fun h => absurd hread h
      · next heq =>
          rw [heq] at hread
          exact fun h => absurd hread h
    · split
      · next heq =>
          rw [heq] at hrequired
          intro h
          obtain ⟨hadmin, hpost, hruns⟩ := guardedMethod_dataDir _ r _ _ (hrequired ▸ h)
          exact ⟨hadmin, hpost, _, _, hruns⟩
      · next heq =>
          rw [heq] at hrequired
          exact fun h => absurd hrequired h

/-- **Who gets in.** After any run of requests, the body of a guarded method runs exactly for those
who have logged in, and that of the admin page exactly for the admin: the user name and the password
are those of a login from an IP that was not banned, with a password that the store accepts; the
session id was handed out in that login, less than the lifetime of a session ago, and nobody has
logged out with it. The files of the admin page change only in this way, and only by a post. -/
theorem access_by_login {ttlSeconds clock : ℚ} (hstart : start.sessions = .init ttlSeconds clock)
    (hrun : run (Server.step py checkNetloc isIpAddress adminUser) start events = some s)
    (r : WebRequest) (hr : s.clock ≤ r.user) :
    (∀ u p, (s.answer py checkNetloc isIpAddress adminUser r).1 = .runs u p ↔
      r.Admitted adminUser u ∧ ∃ sid, r.cookie = some sid ∧
        LoggedIn py checkNetloc isIpAddress adminUser start events sid u p r.user) ∧
    ((s.answer py checkNetloc isIpAddress adminUser r).2.dataDir ≠ s.dataDir →
      r.handler = .admin ∧ r.method = .post ∧ ∃ u p sid, adminUser = some u ∧
        r.cookie = some sid ∧
        LoggedIn py checkNetloc isIpAddress adminUser start events sid u p r.user) := by
  have hruns : ∀ u p, (s.answer py checkNetloc isIpAddress adminUser r).1 = .runs u p ↔
      r.Admitted adminUser u ∧ ∃ sid, r.cookie = some sid ∧
        LoggedIn py checkNetloc isIpAddress adminUser start events sid u p r.user := by
    intro u p
    rw [answer_eq_runs_iff]
    refine and_congr_right fun _ => ?_
    cases hcookie : r.cookie with
    | none => simp [getAuthenticatedCredentials, SessionStore.get]
    | some sid => simp [credentials_iff_loggedIn hstart hrun hr]
  refine ⟨hruns, ?_⟩
  intro h
  obtain ⟨hadmin, hpost, u, p, hrunning⟩ := answer_dataDir s r h
  obtain ⟨⟨-, -, hadmitted⟩, sid, hcookie, hlogged⟩ := (hruns u p).mp hrunning
  rw [hadmin] at hadmitted
  exact ⟨hadmin, hpost, u, p, sid, hadmitted.2, hcookie, hlogged⟩

end Access

/-- An application with one account, where the hash of a password is the password. -/
def oneAccount : Server where
  app :=
    { passwordStore :=
        { hashes := Dict.ofList [("u".toList, "p".toList)]
          hasher := fun passwordHash password =>
            if password = passwordHash then .verified else .refused }
      sessionStore := ⟨10, ∅⟩
      banStore := { attrs := BanStore.init, disk := ⟨none, none⟩, trail := [] }
      authLog := [] }
  dataDir := ⟨none, none⟩
  clock := 0
  issued := []

/-- A request of the account at time `t`, with a cookie and a new session id. -/
def sampleWebRequest (handler : Handler) (method : Method) (cookie : Option String) (token : String)
    (t : ℚ) : WebRequest where
  handler := handler
  method := method
  xsrf := true
  foreignOrigin := false
  uri := "/".toList
  cookie := cookie
  login := { realIp := none, remoteIp := "192.0.2.1", username := [encodeUtf8 "u".toList],
             password := [encodeUtf8 "p".toList], retpath := [], bodyRetpath := []
             client := ⟨"", "", ""⟩ }
  saved := ⟨[], []⟩
  token := token
  user := t
  clock := ⟨t, t, t, t, t, t⟩

/-- The login of the account, and the logout. -/
def sampleLogin : WebRequest := sampleWebRequest .index .post none "sid" 1

def sampleLogout : WebRequest := sampleWebRequest .logout .post (some "sid") "other" 3

/-- Whoever has logged in gets an answer of the API, and none any more after the logout. -/
theorem access_by_login_logout :
    ∃ s s', run (Server.step asciiBuiltins (fun _ => true) (fun _ => true) none) oneAccount
        [.request sampleLogin] = some s ∧
      run (Server.step asciiBuiltins (fun _ => true) (fun _ => true) none) oneAccount
        [.request sampleLogin, .request sampleLogout] = some s' ∧
      (s.answer asciiBuiltins (fun _ => true) (fun _ => true) none
        (sampleWebRequest .api .get (some "sid") "new" 2)).1 = .runs "u".toList "p".toList ∧
      (s'.answer asciiBuiltins (fun _ => true) (fun _ => true) none
        (sampleWebRequest .api .get (some "sid") "new" 4)).1 ≠ .runs "u".toList "p".toList := by
  have hin : oneAccount.Accepts sampleLogin := by decide +kernel
  have hout : (oneAccount.answer asciiBuiltins (fun _ => true) (fun _ => true) none
      sampleLogin).2.Accepts sampleLogout := by decide +kernel
  have hlogin : run (Server.step asciiBuiltins (fun _ => true) (fun _ => true) none) oneAccount
      [.request sampleLogin] = some (oneAccount.answer asciiBuiltins (fun _ => true)
        (fun _ => true) none sampleLogin).2 := by
    rw [run, Server.step, if_pos hin]
    rfl
  have hlogout : run (Server.step asciiBuiltins (fun _ => true) (fun _ => true) none) oneAccount
      [.request sampleLogin, .request sampleLogout] = some ((oneAccount.answer asciiBuiltins
        (fun _ => true) (fun _ => true) none sampleLogin).2.answer asciiBuiltins (fun _ => true)
        (fun _ => true) none sampleLogout).2 := by
    rw [run, Server.step, if_pos hin, Option.bind_some, run, Server.step, if_pos hout]
    rfl
  have hstart : oneAccount.sessions = .init 10 0 := rfl
  refine ⟨_, _, hlogin, hlogout, ?_, ?_⟩
  · refine ((access_by_login hstart hlogin _ (by decide +kernel)).1 _ _).mpr
      ⟨⟨.inl (by decide), rfl, Method.noConfusion⟩, "sid", rfl, ?_⟩
    exact ⟨[], sampleLogin, [], oneAccount, rfl, rfl, by decide +kernel, rfl, by decide +kernel,
      fun _ h => absurd h List.not_mem_nil⟩
  · rw [ne_eq, (access_by_login hstart hlogout _ (by decide +kernel)).1]
    rintro ⟨-, sid, hcookie, before, r, after, s, hevents, -, hin, rfl, -, hnone⟩
    cases before with
    | nil =>
        cases hevents
        exact hnone sampleLogout List.mem_cons_self ⟨rfl, rfl, rfl⟩ rfl
    | cons first before =>
        cases before with
        | nil =>
            cases hevents
            cases (logsIn_of_logsInAs hin).1
        | cons second before => simp at hevents

end PxManager.Login
