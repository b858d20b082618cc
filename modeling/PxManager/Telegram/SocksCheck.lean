import PxManager.Core.Bytes
import PxManager.Core.Socks5
import PxManager.Health.ResultCache
import PxManager.Telegram.ProxyLinks

/-!
# PxManager.Telegram.SocksCheck

`run_socks5_request_check` of `main.py`, and the server that it talks to.

The check offers no authentication and nothing else. So it agrees with a server that requires none,
and fails at every server that requires a user name and a password, although the link has them.

Connecting and `writer.drain` are taken to succeed, and the server to answer in time.
-/

namespace PxManager.Telegram

open PxManager.Core PxManager.Core.Socks5 PxManager.Health PxManager.Mtg

/-! ### The connection -/

/-- What the check raises. -/
inductive SocksError
  | valueError (text : Text)
  /-- `asyncio.IncompleteReadError`: the server has closed the connection. -/
  | incompleteRead (partialLength expected : Nat)
  /-- The server sends no more. -/
  | timeout
  deriving DecidableEq

/-- `str(error) or error.__class__.__name__`. -/
def SocksError.text : SocksError → Text
  | .valueError text => text
  | .incompleteRead partialLength expected =>
      decimal partialLength ++ " bytes read on a total of ".toList ++ decimal expected ++
        " expected bytes".toList
  | .timeout => "TimeoutError".toList

/-- The segments in which the bytes arrive that the server sends at a time. -/
structure Segmentation where
  split : Nat → Bytes → List Bytes
  flatten_split : ∀ n bytes, (split n bytes).flatten = bytes

/-- The connection to a server. -/
structure Connection where
  reader : Reader
  /-- What the server waits for. -/
  phase : Phase
  /-- How many messages the server has received. -/
  messages : Nat
  /-- All bytes that the server has sent. -/
  sent : Bytes
  /-- All bytes that were read. -/
  consumed : Bytes

/-- A new connection. -/
def Connection.new : Connection where
  reader := ⟨[], []⟩
  phase := .method
  messages := 0
  sent := []
  consumed := []

/-- `writer.write`, and what the server does. -/
def Connection.write (server : Server) (segmentation : Segmentation) (self : Connection)
    (data : Bytes) : Connection :=
  let answer := server.receive self.phase data
  { self with
    reader := ⟨self.reader.buffer,
      self.reader.segments ++ segmentation.split self.messages answer.2⟩
    phase := answer.1
    messages := self.messages + 1
    sent := self.sent ++ answer.2 }

/-- The connection when bytes were read. -/
def Connection.after (self : Connection) (bytes : Bytes) (reader : Reader) : Connection :=
  { self with reader, consumed := self.consumed ++ bytes }

/-- `await asyncio.wait_for(reader.readexactly(size), timeout=5)`. -/
def Connection.readexactly (self : Connection) (size : Nat) :
    Except SocksError (Bytes × Connection) :=
  match self.reader.readexactly size with
  | some (bytes, reader) => .ok (bytes, self.after bytes reader)
  | none =>
      .error (if self.phase = .closed then .incompleteRead self.reader.stream.length size
        else .timeout)

/-! ### The check -/

/-- The request of the check. -/
def connectRequest : Bytes :=
  let target := encodeUtf8 "telegram.org".toList
  [5, 1, 0, 3] ++ [UInt8.ofNat target.length] ++ target ++ (toBytes 443 2 .big).getD []

/-- The address of the response. -/
def readAddress (self : Connection) (addressType : UInt8) : Except SocksError Connection := do
  if addressType = 1 then
    let (_, self) ← self.readexactly 4
    return self
  else if addressType = 3 then
    let (length, self) ← self.readexactly 1
    let (_, self) ← self.readexactly (length.headD 0).toNat
    return self
  else if addressType = 4 then
    let (_, self) ← self.readexactly 16
    return self
  else throw (.valueError "invalid SOCKS5 address type".toList)

/-- The `try` of `run_socks5_request_check`. -/
def exchange (server : Server) (segmentation : Segmentation) : Except SocksError Connection := do
  let self := Connection.new.write server segmentation [5, 1, 0]
  let (greeting, self) ← self.readexactly 2
  if greeting ≠ [5, 0] then
    throw (.valueError "SOCKS5 server rejected no-auth method".toList)
  let self := self.write server segmentation connectRequest
  let (response, self) ← self.readexactly 4
  if response.getD 0 0 ≠ 5 then throw (.valueError "invalid SOCKS5 response".toList)
  if response.getD 1 0 ≠ 0 then
    throw (.valueError ("SOCKS5 CONNECT failed with code ".toList ++
      decimal (response.getD 1 0).toNat))
  let self ← readAddress self (response.getD 3 0)
  let (_, self) ← self.readexactly 2
  return self

/-- `run_socks5_request_check`, where `network` has the server at each address. -/
def runSocks5RequestCheck (network : Text → ℤ → Server) (segmentation : Segmentation)
    (hostData : TgProxyHost) : HealthResult :=
  match exchange (network hostData.host hostData.port) segmentation with
  | .ok _ => .ofList
      [("ok", .bool true), ("status", .str "responded"), ("status_code", .null),
        ("status_line", .str "SOCKS5 CONNECT telegram.org:443 OK"), ("error", .null)]
  | .error error => .ofList
      [("ok", .bool false), ("status", .str "error"), ("status_code", .null),
        ("status_line", .null), ("error", .str (String.ofList error.text))]

/-! ### Reading -/

section Reading

variable {server : Server} {segmentation : Segmentation} {self : Connection}

@[simp] theorem write_phase (data : Bytes) :
    (self.write server segmentation data).phase = (server.receive self.phase data).1 := rfl

@[simp] theorem write_sent (data : Bytes) :
    (self.write server segmentation data).sent =
      self.sent ++ (server.receive self.phase data).2 := rfl

@[simp] theorem write_consumed (data : Bytes) :
    (self.write server segmentation data).consumed = self.consumed := rfl

theorem stream_write (data : Bytes) :
    (self.write server segmentation data).reader.stream =
      self.reader.stream ++ (server.receive self.phase data).2 := by
  simp [Connection.write, Reader.stream, segmentation.flatten_split, List.append_assoc]

/-- Bytes that are there are read, in whatever segments they arrive. -/
theorem readexactly_of_stream {bytes rest : Bytes} (h : self.reader.stream = bytes ++ rest) :
    ∃ reader, self.readexactly bytes.length = .ok (bytes, self.after bytes reader) ∧
      reader.stream = rest := by
  have hread := self.reader.readexactly_map_stream bytes.length
  rw [h, readExactly_append] at hread
  obtain ⟨⟨bytes', reader⟩, hresult, hpair⟩ := Option.map_eq_some_iff.mp hread
  obtain ⟨rfl, rfl⟩ := Prod.mk.inj hpair
  unfold Connection.readexactly
  rw [hresult]
  exact ⟨reader, rfl, rfl⟩

/-- The address of a reply is read up to its end. -/
theorem readAddress_of_stream (address : BoundAddress) {rest : Bytes}
    (h : self.reader.stream = address.body ++ rest) :
    ∃ conn, readAddress self address.type = .ok conn ∧ conn.reader.stream = rest ∧
      conn.consumed = self.consumed ++ address.body ∧ conn.sent = self.sent := by
  cases address with
  | ipv4 bytes length =>
      obtain ⟨reader, hread, hstream⟩ := readexactly_of_stream h
      have hlength : (BoundAddress.ipv4 bytes length).body.length = 4 := length
      rw [hlength] at hread
      exact ⟨_, bind_eq_ok_iff.mpr ⟨_, hread, rfl⟩, hstream, rfl, rfl⟩
  | domain name length =>
      have hone : self.reader.stream = [UInt8.ofNat name.length] ++ (name ++ rest) := h
      obtain ⟨reader, hread, hstream⟩ := readexactly_of_stream hone
      have hname : (self.after [UInt8.ofNat name.length] reader).reader.stream = name ++ rest :=
        hstream
      obtain ⟨reader', hread', hstream'⟩ := readexactly_of_stream hname
      have hcount : (([UInt8.ofNat name.length] : Bytes).headD 0).toNat = name.length := by
        simp [Nat.mod_eq_of_lt length]
      have hcounted : (self.after [UInt8.ofNat name.length] reader).readexactly
          (([UInt8.ofNat name.length] : Bytes).headD 0).toNat =
            .ok (name, (self.after [UInt8.ofNat name.length] reader).after name reader') := by
        rw [hcount, hread']
      refine ⟨_, bind_eq_ok_iff.mpr ⟨_, hread, bind_eq_ok_iff.mpr ⟨_, hcounted, rfl⟩⟩, hstream', ?_,
        rfl⟩
      simp [Connection.after, BoundAddress.body]
  | ipv6 bytes length =>
      obtain ⟨reader, hread, hstream⟩ := readexactly_of_stream h
      have hlength : (BoundAddress.ipv6 bytes length).body.length = 16 := length
      rw [hlength] at hread
      exact ⟨_, bind_eq_ok_iff.mpr ⟨_, hread, rfl⟩, hstream, rfl, rfl⟩

end Reading

/-! ### Agreement -/

section Agreement

variable {server : Server}

/-- The greeting of the check, by what the server requires. -/
theorem greeting_of_server (server : Server) (segmentation : Segmentation) :
    ∃ self : Connection, Connection.new.write server segmentation [5, 1, 0] = self ∧
      self.reader.stream = (if server.credentials = none then [5, 0] else [5, 0xff]) ++ [] ∧
      self.sent = (if server.credentials = none then [5, 0] else [5, 0xff]) ∧
      self.consumed = [] ∧ (server.credentials = none → self.phase = .request) := by
  refine ⟨_, rfl, ?_, ?_, rfl, ?_⟩
  · rw [stream_write, Connection.new, receive_noAuth]
    split <;> rfl
  · rw [write_sent, Connection.new, receive_noAuth]
    split <;> rfl
  · intro h
    rw [write_phase, Connection.new, receive_noAuth, if_pos h]

/-- A server that requires authentication accepts no method. -/
theorem exchange_of_credentials (h : server.credentials ≠ none) (segmentation : Segmentation) :
    exchange server segmentation =
      .error (.valueError "SOCKS5 server rejected no-auth method".toList) := by
  obtain ⟨self, hopen, hstream, -⟩ := greeting_of_server server segmentation
  rw [if_neg h] at hstream
  obtain ⟨reader, hread, -⟩ := readexactly_of_stream hstream
  rw [exchange, hopen]
  exact (congrArg (· >>= _) hread).trans rfl

/-- A server that requires no authentication is asked, and the first four bytes of its answer are
read. -/
theorem exchange_of_noAuth (h : server.credentials = none) (segmentation : Segmentation) :
    ∃ self : Connection,
      exchange server segmentation =
        (if (server.connect connectRequest).code ≠ 0 then
          .error (.valueError ("SOCKS5 CONNECT failed with code ".toList ++
            decimal (server.connect connectRequest).code.toNat))
        else do
          let self ← readAddress self (server.connect connectRequest).address.type
          let (_, self) ← self.readexactly 2
          return self) ∧
      self.reader.stream = (server.connect connectRequest).address.body ++
        ((server.connect connectRequest).portBytes ++ []) ∧
      self.consumed = [5, 0] ++ (server.connect connectRequest).head ∧
      self.sent = [5, 0] ++ (server.connect connectRequest).encode := by
  obtain ⟨self, hopen, hstream, hsent, hconsumed, hphase⟩ := greeting_of_server server segmentation
  rw [if_pos h] at hstream hsent
  obtain ⟨reader, hread, hrest⟩ := readexactly_of_stream hstream
  have hasked :
      ((self.after [5, 0] reader).write server segmentation connectRequest).reader.stream =
        (server.connect connectRequest).head ++ ((server.connect connectRequest).address.body ++
          ((server.connect connectRequest).portBytes ++ [])) := by
    rw [stream_write, Connection.after, hrest, hphase h, receive_request]
    simp [Reply.encode]
  obtain ⟨reader', hread', hrest'⟩ := readexactly_of_stream hasked
  refine ⟨((self.after [5, 0] reader).write server segmentation connectRequest).after
    (server.connect connectRequest).head reader', ?_, hrest', ?_, ?_⟩
  · rw [exchange, hopen]
    refine (congrArg (· >>= _) hread).trans ?_
    show (Connection.readexactly _ 4 >>= _) = _
    refine (congrArg (· >>= _) hread').trans ?_
    show (if (server.connect connectRequest).code ≠ 0 then _ else _) = _
    split <;> rfl
  · simp [Connection.after, hconsumed]
  · simp [Connection.after, hsent, hphase h, receive_request]

/-- What the check has read when it returns: all that the server has sent. -/
theorem exchange_of_granted (h : server.credentials = none)
    (hcode : (server.connect connectRequest).code = 0) (segmentation : Segmentation) :
    ∃ self, exchange server segmentation = .ok self ∧
      self.sent = [5, 0] ++ (server.connect connectRequest).encode ∧
      self.consumed = self.sent := by
  obtain ⟨self, hexchange, hstream, hconsumed, hsent⟩ := exchange_of_noAuth h segmentation
  obtain ⟨conn, haddress, hport, hconsumed', hsent'⟩ := readAddress_of_stream _ hstream
  obtain ⟨reader, hread, -⟩ := readexactly_of_stream hport
  refine ⟨conn.after (server.connect connectRequest).portBytes reader, ?_, ?_, ?_⟩
  · rw [hexchange, if_neg (not_not.mpr hcode)]
    exact bind_eq_ok_iff.mpr ⟨_, haddress, bind_eq_ok_iff.mpr ⟨_, hread, rfl⟩⟩
  · simp [Connection.after, hsent', hsent]
  · simp [Connection.after, hsent', hsent, hconsumed', hconsumed, Reply.encode]

/-- The check succeeds exactly if the server grants the request, and then it has read all that the
server has sent. -/
def AgreesWithServer (network : Text → ℤ → Server) (segmentation : Segmentation)
    (hostData : TgProxyHost) : Prop :=
  ((runSocks5RequestCheck network segmentation hostData).get? "ok" = some (.bool true) ↔
    ((network hostData.host hostData.port).connect connectRequest).code = 0) ∧
  ∀ self, exchange (network hostData.host hostData.port) segmentation = .ok self →
    self.consumed = self.sent

theorem get?_ok_of_exchange {network : Text → ℤ → Server} {segmentation : Segmentation}
    {hostData : TgProxyHost} :
    (runSocks5RequestCheck network segmentation hostData).get? "ok" = some (.bool true) ↔
      ∃ self, exchange (network hostData.host hostData.port) segmentation = .ok self := by
  unfold runSocks5RequestCheck
  cases exchange (network hostData.host hostData.port) segmentation with
  | ok self => exact ⟨fun _ => ⟨self, rfl⟩, fun _ => rfl⟩
  | error error =>
      refine ⟨fun h => ?_, fun h => ?_⟩
      · cases h
      · obtain ⟨self, h⟩ := h
        cases h

/-- The check succeeds at a server that requires no authentication and grants the request. -/
theorem exchange_isOk_iff (segmentation : Segmentation) :
    (∃ self, exchange server segmentation = .ok self) ↔
      server.credentials = none ∧ (server.connect connectRequest).code = 0 := by
  constructor
  · rintro ⟨self, hself⟩
    by_cases h : server.credentials = none
    · refine ⟨h, ?_⟩
      by_contra hcode
      obtain ⟨_, hexchange, -⟩ := exchange_of_noAuth h segmentation
      rw [hself, if_pos hcode] at hexchange
      cases hexchange
    · rw [exchange_of_credentials h] at hself
      cases hself
  · rintro ⟨h, hcode⟩
    obtain ⟨self, hself, -⟩ := exchange_of_granted h hcode segmentation
    exact ⟨self, hself⟩

/-- **The check agrees with a server exactly if that requires no authentication or refuses.** -/
theorem agreesWithServer_iff (network : Text → ℤ → Server) (segmentation : Segmentation)
    (hostData : TgProxyHost) :
    AgreesWithServer network segmentation hostData ↔
      (network hostData.host hostData.port).credentials = none ∨
        ((network hostData.host hostData.port).connect connectRequest).code ≠ 0 := by
  rw [AgreesWithServer, get?_ok_of_exchange, exchange_isOk_iff, ← imp_iff_or_not]
  constructor
  · rintro ⟨hiff, -⟩ hcode
    exact (hiff.mpr hcode).1
  · intro h
    refine ⟨⟨fun hok => hok.2, fun hcode => ⟨h hcode, hcode⟩⟩, ?_⟩
    intro self hself
    obtain ⟨hnone, hcode⟩ := (exchange_isOk_iff segmentation).mp ⟨self, hself⟩
    obtain ⟨self', hself', -, hconsumed⟩ := exchange_of_granted hnone hcode segmentation
    rw [hself] at hself'
    cases hself'
    exact hconsumed

end Agreement

/-- A link with a user name and a password. -/
def credentialsLink : Text := "tg://socks?server=a.example&port=1080&user=u&pass=p".toList

/-- A server that requires them and grants every request. -/
def credentialsServer : Server where
  credentials := some (encodeUtf8 ['u'], encodeUtf8 ['p'])
  connect _ := ⟨0, .ipv4 [0, 0, 0, 0] rfl, 0⟩

/-- The check fails at a server that grants the request to a client with the credentials of the
link. -/
theorem not_agreesWithServer_credentials : ¬ ∀ (line : Text) (lineNumber : Nat)
    (hostData : TgProxyHost) (network : Text → ℤ → Server) (segmentation : Segmentation),
      parseTgProxyHealthHost asciiBuiltins (fun _ => true) (fun _ => false) line lineNumber =
        .ok hostData →
      hostData.proxyKind = .socks5 →
      ((network hostData.host hostData.port).credentials = none ∨
        (network hostData.host hostData.port).credentials =
          some (encodeUtf8 hostData.username, encodeUtf8 hostData.password)) →
      AgreesWithServer network segmentation hostData := by
  intro h
  have hparse : (parseTgProxyHealthHost asciiBuiltins (fun _ => true) (fun _ => false)
      credentialsLink 1).map (fun hostData => (hostData.proxyKind, hostData.username,
        hostData.password)) = .ok (.socks5, ['u'], ['p']) := by
    decide +kernel
  obtain ⟨hostData, hhostData⟩ : ∃ hostData, parseTgProxyHealthHost asciiBuiltins (fun _ => true)
      (fun _ => false) credentialsLink 1 = .ok hostData := by
    refine exists_of_isOk ?_
    cases hresult : parseTgProxyHealthHost asciiBuiltins (fun _ => true) (fun _ => false)
        credentialsLink 1 with
    | ok hostData => rfl
    | error error =>
        rw [hresult] at hparse
        cases hparse
  rw [hhostData] at hparse
  obtain ⟨hkind, hcredentials⟩ := Prod.mk.inj (Except.ok.inj hparse)
  obtain ⟨husername, hpassword⟩ := Prod.mk.inj hcredentials
  have hlink : credentialsServer.credentials =
      some (encodeUtf8 hostData.username, encodeUtf8 hostData.password) := by
    rw [husername, hpassword]
    rfl
  have hagrees := h credentialsLink 1 hostData (fun _ _ => credentialsServer)
    ⟨fun _ bytes => [bytes], fun _ _ => List.flatten_singleton⟩ hhostData hkind (.inr hlink)
  obtain ⟨self, hself⟩ := get?_ok_of_exchange.mp (hagrees.1.mpr rfl)
  have hnone : credentialsServer.credentials ≠ none := by simp [credentialsServer]
  rw [exchange_of_credentials hnone] at hself
  cases hself

end PxManager.Telegram
