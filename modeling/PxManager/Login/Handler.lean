import PxManager.Bans.Persistent
import PxManager.Login.Retpath

/-!
# PxManager.Login.Handler

`PasswordStore`, `SessionStore` and `IndexHandler.post` of `main.py`.

`post` has no `await`, so a request is one step of the application. Its clock readings are part of
the request's `PostClock`, in the order in which they are made.

* argon2 is the function `hasher`, which says how `PasswordHasher.verify` ends.
* The session id is the token that `secrets.token_urlsafe` gives.
* `get_access_log_client` reads the request only, so its result is part of the request.
* The pages are told apart by their status and their `retpath`.
* An argument that is not UTF-8 raises `HTTPError(400)` where it is read. The error page replaces
  what the handler has written by then, but not the cookies that it has set.
-/

namespace PxManager.Login

open PxManager.Core PxManager.Bans

/-! ### `PasswordStore` -/

/-- How `PasswordHasher.verify` ends: with `True`, with one of the two exceptions that `verify`
catches, or with another one, such as `InvalidHashError`. -/
inductive HashCheck
  | verified
  | refused
  | raised
  deriving DecidableEq, Repr

/-- `PasswordStore`. -/
structure PasswordStore where
  hashes : Dict Text Text
  hasher : Text → Text → HashCheck

/-- `PasswordStore.verify`. `none` is an exception. -/
def PasswordStore.verify (self : PasswordStore) (username password : Text) : Option Bool :=
  match self.hashes.get? username with
  | none => some false
  | some passwordHash =>
      match self.hasher passwordHash password with
      | .verified => some true
      | .refused => some false
      | .raised => none

/-! ### `SessionStore` -/

/-- `Session`. -/
structure Session where
  username : Text
  password : Text
  expiresAt : ℚ

/-- `SessionStore`. -/
structure SessionStore where
  ttlSeconds : ℚ
  sessions : Dict String Session

namespace SessionStore

/-- `SessionStore.delete` of a session id. -/
def delete (sessionId : String) (self : SessionStore) : SessionStore :=
  if sessionId ≠ "" then { self with sessions := self.sessions.erase sessionId } else self

/-- `SessionStore.cleanup_expired` at time `now`. -/
def cleanupExpired (now : ℚ) (self : SessionStore) : SessionStore :=
  let expired := (self.sessions.entries.filter fun e => e.2.expiresAt ≤ now).map Prod.fst
  expired.foldl (fun self sessionId => self.delete sessionId) self

/-- `SessionStore.create`, which reads the clock at `t` and again at `now`. -/
def create (username password : Text) (sessionId : String) (t now : ℚ) (self : SessionStore) :
    SessionStore :=
  let self := self.cleanupExpired t
  let session := { username, password, expiresAt := now + self.ttlSeconds }
  { self with sessions := self.sessions.set sessionId session }

/-- `SessionStore.get` at time `now`. -/
def get (sessionId : Option String) (now : ℚ) (self : SessionStore) :
    Option Session × SessionStore :=
  match sessionId.filter (· ≠ "") with
  | none => (none, self)
  | some sessionId =>
      match self.sessions.get? sessionId with
      | none => (none, self)
      | some session =>
          if session.expiresAt ≤ now then (none, self.delete sessionId) else (some session, self)

end SessionStore

/-- `BaseHandler.get_authenticated_credentials`, given the session id of the cookie. -/
def getAuthenticatedCredentials (cookie : Option String) (now : ℚ) (store : SessionStore) :
    Option (Text × Text) × SessionStore :=
  let (session, store) := store.get cookie now
  (session.map fun session => (session.username, session.password), store)

/-! ### `IndexHandler.post` -/

/-- What the handlers read of `application.settings`, and the lines of `auth.log`. -/
structure App where
  passwordStore : PasswordStore
  sessionStore : SessionStore
  banStore : PersistentBanStore
  authLog : List Text

/-- What `post` reads of its request. Each argument has the values that were sent for it, as bytes;
`retpath` has those of the query and of the body. -/
structure PostRequest where
  realIp : Option Text
  remoteIp : String
  username : List (List UInt8)
  password : List (List UInt8)
  retpath : List (List UInt8)
  bodyRetpath : List (List UInt8)
  client : AccessLogClient

/-- The clock readings of a request: `is_banned`, the two of `record_login_failure` (the second
one only if the IP is not banned), and the two of `SessionStore.create`, which are readings of
`time.monotonic()`. The password is verified at `verify`. -/
structure PostClock where
  gate : ℚ
  verify : ℚ
  failureGate : ℚ
  failure : ℚ
  cleanup : ℚ
  session : ℚ

/-- The response of `post`. -/
inductive Response
  /-- Status 403, and the page with the text for too many failed logins. -/
  | forbidden (retpath : Text)
  /-- Status 401, and the page with the text for a wrong user name or password. -/
  | unauthorized (retpath : Text)
  /-- A redirect, and the session cookie. -/
  | loggedIn (sessionId : String) (location : Text)
  /-- Status 400, and the session cookie if it has been set before. -/
  | badRequest (cookie : Option String)
  /-- An exception left the handler. -/
  | serverError
  deriving DecidableEq, Repr

/-- The session id of the session cookie that is sent. -/
def Response.cookie : Response → Option String
  | .loggedIn sessionId _ => some sessionId
  | .badRequest cookie => cookie
  | _ => none

/-- `decode_argument` of all values of a name, whichever of them is used. `none` is
`HTTPError(400)`. -/
def decodeArguments (values : List (List UInt8)) : Option (List Text) := values.mapM decodeUtf8

/-- The user name and the password of the form. `none` is `HTTPError(400)`. -/
def PostRequest.credentials? (request : PostRequest) : Option (Text × Text) := do
  let username ← decodeArguments request.username
  let password ← decodeArguments request.password
  return (getArgument username [], getArgument password [])

/-- `BaseHandler.client_ip`. -/
def PostRequest.clientIp (request : PostRequest) : String :=
  match request.realIp with
  | some (c :: realIp) => String.ofList (strip (c :: realIp))
  | _ => request.remoteIp

/-- `format_log_value`. -/
def formatLogValue (value : Text) : Text :=
  if value = [] ∨ value = ['-'] then ['-']
  else
    let escaped := value.flatMap fun c => if c = '\\' then ['\\', '\\'] else [c]
    let escaped := escaped.flatMap fun c => if c = '"' then ['\\', '"'] else [c]
    '"' :: escaped ++ ['"']

/-- A line of `auth.log`. -/
def authLogLine (event : String) (ip : String) (user : Text) (client : AccessLogClient) : Text :=
  event.toList ++ " ip=".toList ++ ip.toList ++ " user=".toList ++ user ++
    " os=".toList ++ formatLogValue client.os.toList ++
    " browser=".toList ++ formatLogValue client.browser.toList ++
    " device=".toList ++ formatLogValue client.device.toList

variable (checkNetloc : Text → Bool)

/-- The response to a request, given its `retpath` and the session cookie that has been set. -/
def respondWith (values : List (List UInt8)) (cookie : Option String) (respond : Text → Response) :
    Response :=
  match decodeArguments values with
  | some values => respond (argumentRetpath checkNetloc values)
  | none => .badRequest cookie

/-- `IndexHandler.post`. -/
def post (request : PostRequest) (sessionId : String) (clock : PostClock) (app : App) :
    Response × App :=
  match request.credentials? with
  | none => (.badRequest none, app)
  | some (username, password) =>
      let clientIp := request.clientIp
      let (banned, banStore) := BanStore.isBanned clientIp clock.gate app.banStore
      let app := { app with banStore }
      if banned then
        (respondWith checkNetloc request.retpath none .forbidden, app)
      else
        match app.passwordStore.verify username password with
        | none => (.serverError, app)
        | some false =>
            let banStore := app.banStore.recordFailure appConfig .login clientIp
              FailureType.login.limit (some request.client) clock.failureGate clock.failure
            let user := if username = [] then ['-'] else username
            let line := authLogLine "login_failure" clientIp user request.client
            -- the failure is recorded, whether or not the page can be made
            (respondWith checkNetloc request.retpath none .unauthorized,
              { app with banStore, authLog := app.authLog ++ [line] })
        | some true =>
            let banStore := app.banStore.recordSuccess clientIp
            let line := authLogLine "login_success" clientIp username request.client
            let sessionStore :=
              app.sessionStore.create username password sessionId clock.cleanup clock.session
            (respondWith checkNetloc request.bodyRetpath (some sessionId) (.loggedIn sessionId),
              { app with banStore, authLog := app.authLog ++ [line], sessionStore })

/-- A page without a session cookie is sent without one, also where its `retpath` cannot be read. -/
theorem cookie_respondWith {values : List (List UInt8)} {cookie : Option String}
    {respond : Text → Response} (h : ∀ retpath, (respond retpath).cookie = cookie) :
    (respondWith checkNetloc values cookie respond).cookie = cookie := by
  unfold respondWith
  split
  · exact h _
  · rfl

end PxManager.Login
