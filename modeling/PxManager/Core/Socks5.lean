import PxManager.Core.Bytes

/-!
# PxManager.Core.Socks5

A SOCKS5 server, as a client sees it: it chooses a method, may ask for a user name and a password,
and answers the request of the client with a reply.

A client that offers the method of the server, and authenticates if it is asked to, gets the answer
to its request.
-/

namespace PxManager.Core.Socks5

/-- The address in a reply. -/
inductive BoundAddress
  | ipv4 (bytes : Bytes) (length : bytes.length = 4)
  | domain (name : Bytes) (length : name.length < 256)
  | ipv6 (bytes : Bytes) (length : bytes.length = 16)

/-- The type of an address. -/
def BoundAddress.type : BoundAddress → UInt8
  | .ipv4 _ _ => 1
  | .domain _ _ => 3
  | .ipv6 _ _ => 4

/-- What follows the type of an address. -/
def BoundAddress.body : BoundAddress → Bytes
  | .ipv4 bytes _ => bytes
  | .domain name _ => UInt8.ofNat name.length :: name
  | .ipv6 bytes _ => bytes

/-- The answer to a request. -/
structure Reply where
  /-- 0 if the request is granted. -/
  code : UInt8
  address : BoundAddress
  port : UInt16

/-- The bytes of a reply up to the type of its address. -/
def Reply.head (self : Reply) : Bytes := [5, self.code, 0, self.address.type]

/-- The bytes of the port. -/
def Reply.portBytes (self : Reply) : Bytes := [(self.port >>> 8).toUInt8, self.port.toUInt8]

/-- The bytes of a reply. -/
def Reply.encode (self : Reply) : Bytes := self.head ++ (self.address.body ++ self.portBytes)

/-- What a server waits for. -/
inductive Phase
  | method
  | credentials
  | request
  /-- The request was granted. -/
  | connected
  | closed
  deriving DecidableEq, Repr

/-- A server. -/
structure Server where
  /-- The user name and the password that it requires. -/
  credentials : Option (Bytes × Bytes)
  /-- Its answer to a request. -/
  connect : Bytes → Reply

/-- The one method that a server accepts: none, or a user name and a password. -/
def Server.method (self : Server) : UInt8 := if self.credentials.isNone then 0 else 2

/-- The message with a user name and a password. -/
def credentialsMessage (username password : Bytes) : Bytes :=
  1 :: UInt8.ofNat username.length :: (username ++ UInt8.ofNat password.length :: password)

/-- What a server does with a message: what it waits for after that, and what it sends. -/
def Server.receive (self : Server) (phase : Phase) (message : Bytes) : Phase × Bytes :=
  match phase with
  | .method =>
      let methods := message.drop 2
      if message.take 2 = [5, UInt8.ofNat methods.length] ∧ self.method ∈ methods then
        (if self.credentials.isNone then .request else .credentials, [5, self.method])
      else (.closed, [5, 0xff])
  | .credentials =>
      if self.credentials.any fun e => message = credentialsMessage e.1 e.2 then
        (.request, [1, 0])
      else (.closed, [1, 1])
  | .request =>
      let reply := self.connect message
      (if reply.code = 0 then .connected else .closed, reply.encode)
  | .connected => (.connected, [])
  | .closed => (.closed, [])

/-- What a server waits for after some messages, and all that it sends. -/
def Server.converse (self : Server) (phase : Phase) : List Bytes → Phase × Bytes
  | [] => (phase, [])
  | message :: messages =>
      let (phase, bytes) := self.receive phase message
      let (phase, rest) := self.converse phase messages
      (phase, bytes ++ rest)

section Server

variable {self : Server}

theorem receive_request (message : Bytes) :
    self.receive .request message =
      (if (self.connect message).code = 0 then .connected else .closed,
        (self.connect message).encode) := rfl

/-- The offer of no authentication is accepted by a server that requires none. -/
theorem receive_noAuth :
    self.receive .method [5, 1, 0] =
      if self.credentials = none then (.request, [5, 0]) else (.closed, [5, 0xff]) := by
  cases h : self.credentials <;> simp [Server.receive, Server.method, h]

/-- A client that offers both methods, and authenticates if the server requires it, gets the answer
to its request. -/
theorem converse_authenticating (request : Bytes) :
    (self.credentials = none →
      (self.converse .method [[5, 2, 0, 2], request]).2 =
        [5, 0] ++ (self.connect request).encode) ∧
    ∀ username password, self.credentials = some (username, password) →
      (self.converse .method [[5, 2, 0, 2], credentialsMessage username password, request]).2 =
        [5, 2] ++ ([1, 0] ++ (self.connect request).encode) := by
  constructor
  · intro h
    have hmethod : self.receive .method [5, 2, 0, 2] = (.request, [5, 0]) := by
      simp [Server.receive, Server.method, h]
    simp only [Server.converse, hmethod, receive_request, List.append_nil]
  · intro username password h
    have hmethod : self.receive .method [5, 2, 0, 2] = (.credentials, [5, 2]) := by
      simp [Server.receive, Server.method, h]
    have hcredentials : self.receive .credentials (credentialsMessage username password) =
        (.request, [1, 0]) := by
      simp [Server.receive, h]
    simp only [Server.converse, hmethod, hcredentials, receive_request, List.append_nil]

end Server

end PxManager.Core.Socks5
