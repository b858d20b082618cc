import PxManager.Core.Except
import PxManager.Core.Hex
import PxManager.Core.Utf8
import PxManager.Mtg.RoundTrip

/-!
# PxManager.Mtg.Handshake

`make_client_hello` and `handshake` of `mtg_health.py`.

Both sides prove that they know the key by a digest in the random field of their hello, bytes 11 to
42, which counts as zero when the digest is made. The client puts the time into the last four
bytes of its field; the server digests the client's field and all of its own three records.

HMAC-SHA256 and the hello of the TLS library are parameters. Of the first only the length of its
digests is used. `writer.drain` is taken to succeed.
-/

namespace PxManager.Mtg

open PxManager.Core

/-- `hmac.digest(key, message, 'sha256')`. -/
structure Hmac where
  digest : Bytes → Bytes → Bytes
  length_digest : ∀ key message, (digest key message).length = 32

/-- What `handshake` uses of the process: HMAC, the bytes of the ClientHello that the TLS library
makes for a domain, and `int(time.time())`. -/
structure Env where
  hmac : Hmac
  clientHello : Text → Except MtgError Bytes
  time : Nat

/-- `bytes(32)`. -/
def zeros : Bytes := List.replicate 32 0

/-- `data[11:43]`. -/
def randomField (data : Bytes) : Bytes := (data.drop 11).take 32

/-- `data[11:43] = field`, of data with at least 43 bytes. -/
def setRandomField (data field : Bytes) : Bytes := data.take 11 ++ field ++ data.drop 43

/-- `for index, value in enumerate(values, start): random[index] ^= value`. -/
def xorFrom (start : Nat) (random values : Bytes) : Bytes :=
  (values.zipIdx start).foldl (fun random e => random.modify e.2 (· ^^^ e.1)) random

/-- The text of the `UnicodeDecodeError` of `bytes.decode('ascii')`, which is a `ValueError`. -/
def asciiDecodeError (bytes : Bytes) : String :=
  let position := bytes.findIdx (0x80 ≤ ·)
  "'ascii' codec can't decode byte 0x" ++ String.ofList (hexLower [bytes.getD position 0]) ++
    " in position " ++ String.ofList (decimal position) ++ ": ordinal not in range(128)"

/-- `make_client_hello`: the hello, and its random field. -/
def makeClientHello (env : Env) (secret : Bytes) : Except MtgError (Bytes × Bytes) := do
  if secret.length ≤ 17 ∨ secret[0]? ≠ some 0xee then
    throw (.valueError "Некорректный секрет Fake TLS")
  let some domain := decodeAscii (secret.drop 17)
    | throw (.valueError (asciiDecodeError (secret.drop 17)))
  if domain = [] ∨ domain.length > 253 ∨ domain.any isSpace then
    throw (.valueError "Некорректный домен Fake TLS")
  let hello ← env.clientHello domain
  if hello.length < 43 ∨ (fromBytes ((hello.drop 3).take 2) .big : Int) ≠ hello.length - 5 then
    throw (.valueError "Не удалось сформировать ClientHello")
  let hello := setRandomField hello zeros
  let random := env.hmac.digest ((secret.drop 1).take 16) hello
  let some timestamp := toBytes env.time 4 .little | throw .overflow
  let random := xorFrom 28 random timestamp
  return (setRandomField hello random, random)

/-! ### The random field -/

section RandomField

variable {front field field' back : Bytes}

theorem exists_randomField {data : Bytes} (h : 43 ≤ data.length) :
    ∃ front field back : Bytes, front.length = 11 ∧ field.length = 32 ∧
      data = front ++ field ++ back := by
  refine ⟨data.take 11, randomField data, data.drop 43, ?_, ?_, ?_⟩
  · rw [List.length_take]
    omega
  · rw [randomField, List.length_take, List.length_drop]
    omega
  · rw [randomField, List.append_assoc, show data.drop 43 = (data.drop 11).drop 32 by simp,
      List.take_append_drop, List.take_append_drop]

theorem randomField_append (hfront : front.length = 11) (hfield : field.length = 32) :
    randomField (front ++ field ++ back) = field := by
  rw [randomField, List.append_assoc, List.drop_left' hfront, List.take_left' hfield]

theorem setRandomField_append (hfront : front.length = 11) (hfield : field.length = 32) :
    setRandomField (front ++ field ++ back) field' = front ++ field' ++ back := by
  have hlength : (front ++ field).length = 43 := by
    rw [List.length_append, hfront, hfield]
  rw [setRandomField, List.drop_left' hlength, List.append_assoc front field,
    List.take_left' hfront]

end RandomField

/-! ### The time in the random field -/

theorem modify_append_cons (front random : Bytes) (byte : UInt8) (f : UInt8 → UInt8) :
    (front ++ byte :: random).modify front.length f = front ++ f byte :: random := by
  induction front with
  | nil => rfl
  | cons b front ih => simp [ih]

/-- The loop combines the values with the bytes from `start` on. -/
theorem xorFrom_append (front random values : Bytes) (h : values.length = random.length) :
    xorFrom front.length (front ++ random) values =
      front ++ List.zipWith (· ^^^ ·) random values := by
  induction values generalizing front random with
  | nil =>
      obtain rfl := List.length_eq_zero_iff.mp h.symm
      rfl
  | cons value values ih =>
      cases random with
      | nil => simp at h
      | cons byte random =>
          have hrest := ih (front ++ [byte ^^^ value]) random (Nat.succ.inj h)
          rw [xorFrom, List.length_append, List.length_singleton] at hrest
          rw [xorFrom, List.zipIdx_cons, List.foldl_cons, modify_append_cons,
            List.append_cons front, hrest, List.append_assoc]
          rfl

theorem zipWith_xor_self (bytes : Bytes) :
    List.zipWith (· ^^^ ·) bytes bytes = List.replicate bytes.length 0 := by
  induction bytes with
  | nil => rfl
  | cons b bytes ih =>
      rw [List.zipWith_cons_cons, ih, UInt8.xor_self, List.length_cons, List.replicate_succ]

theorem zipWith_xor_cancel {bytes values : Bytes} (h : values.length = bytes.length) :
    List.zipWith (· ^^^ ·) (List.zipWith (· ^^^ ·) bytes values) bytes = values := by
  induction bytes generalizing values with
  | nil => exact (List.length_eq_zero_iff.mp h).symm
  | cons b bytes ih =>
      cases values with
      | nil => simp at h
      | cons value values =>
          rw [List.zipWith_cons_cons, List.zipWith_cons_cons, ih (Nat.succ.inj h),
            UInt8.xor_comm b, UInt8.xor_assoc, UInt8.xor_self, UInt8.xor_zero]

/-- The time covers the end of the digest. -/
theorem length_halves {digest timestamp : Bytes} (hdigest : digest.length = 32)
    (htimestamp : timestamp.length = 4) :
    (digest.take 28).length = 28 ∧ timestamp.length = (digest.drop 28).length := by
  rw [List.length_take, List.length_drop]
  omega

theorem xorFrom_digest {digest timestamp : Bytes} (hdigest : digest.length = 32)
    (htimestamp : timestamp.length = 4) :
    xorFrom 28 digest timestamp =
      digest.take 28 ++ List.zipWith (· ^^^ ·) (digest.drop 28) timestamp := by
  obtain ⟨hfront, hback⟩ := length_halves hdigest htimestamp
  rw [← xorFrom_append _ _ _ hback, hfront, List.take_append_drop]

theorem length_xorFrom {digest timestamp : Bytes} (hdigest : digest.length = 32)
    (htimestamp : timestamp.length = 4) : (xorFrom 28 digest timestamp).length = 32 := by
  rw [xorFrom_digest hdigest htimestamp]
  simp [hdigest, htimestamp]

/-- Whoever combines the field with the digest again, finds the time at its end. -/
theorem zipWith_xorFrom {digest timestamp : Bytes} (hdigest : digest.length = 32)
    (htimestamp : timestamp.length = 4) :
    List.zipWith (· ^^^ ·) (xorFrom 28 digest timestamp) digest =
      List.replicate 28 0 ++ timestamp := by
  obtain ⟨hfront, hback⟩ := length_halves hdigest htimestamp
  calc List.zipWith (· ^^^ ·) (xorFrom 28 digest timestamp) digest
    _ = List.zipWith (· ^^^ ·)
          (digest.take 28 ++ List.zipWith (· ^^^ ·) (digest.drop 28) timestamp)
          (digest.take 28 ++ digest.drop 28) := by
        rw [xorFrom_digest hdigest htimestamp, List.take_append_drop]
    _ = List.zipWith (· ^^^ ·) (digest.take 28) (digest.take 28) ++
          List.zipWith (· ^^^ ·) (List.zipWith (· ^^^ ·) (digest.drop 28) timestamp)
            (digest.drop 28) := List.zipWith_append rfl
    _ = List.replicate 28 0 ++ timestamp := by
        rw [zipWith_xor_self, hfront, zipWith_xor_cancel hback]

/-! ### The connection -/

/-- `await reader.readexactly(size)` on a reader. -/
def Reader.readBytes (reader : Reader) (size : Nat) : Except MtgError (Bytes × Reader) :=
  match reader.readexactly size with
  | some read => .ok read
  | none => .error .incompleteRead

/-- `read_record` from a reader. -/
def Reader.readRecord (reader : Reader) : Except MtgError (Bytes × Reader) := do
  let (header, reader) ← Reader.readBytes reader 5
  let size := fromBytes ((header.drop 3).take 2) .big
  if (header.drop 1).take 2 ≠ [0x03, 0x03] ∨ ¬ (0 < size ∧ size ≤ maxRecordSize) then
    throw (.valueError "Некорректная запись Fake TLS")
  let (body, reader) ← Reader.readBytes reader size
  return (header ++ body, reader)

/-- `b'\x14\x03\x03\x00\x01\x01'`. -/
def changeCipherSpec : Bytes := [0x14, 0x03, 0x03, 0x00, 0x01, 0x01]

/-- The two ends of a connection. -/
structure Connection where
  reader : Reader
  /-- The arguments of `writer.write`. -/
  written : List Bytes

/-- `handshake`. -/
def handshake (env : Env) (secret : Bytes) (self : Connection) : Except MtgError Connection := do
  let (hello, random) ← makeClientHello env secret
  let self := { self with written := self.written ++ [hello] }
  let (server, reader) ← Reader.readRecord self.reader
  if server.length < 44 ∨ server[0]? ≠ some 22 ∨ server[5]? ≠ some 2 then
    throw (.valueError "Прокси не вернул ServerHello Fake TLS")
  let (ccs, reader) ← Reader.readRecord reader
  if ccs ≠ changeCipherSpec then
    throw (.valueError "Некорректный ChangeCipherSpec Fake TLS")
  let (noise, reader) ← Reader.readRecord reader
  if noise[0]? ≠ some 23 then
    throw (.valueError "Прокси не вернул данные Fake TLS")
  let received := randomField server
  let unsigned := setRandomField server zeros ++ ccs ++ noise
  let expected := env.hmac.digest ((secret.drop 1).take 16) (random ++ unsigned)
  if received ≠ expected then
    throw (.valueError "Подпись Fake TLS не совпала: проверьте секрет и адрес прокси")
  return { reader, written := self.written ++ [ccs] }

/-! ### The client's hello -/

/-- A Fake-TLS secret: `0xEE`, a key of 16 bytes, and a domain. -/
structure ValidSecret (secret : Bytes) (domain : Text) : Prop where
  length : 17 < secret.length
  mark : secret[0]? = some 0xee
  decodes : decodeAscii (secret.drop 17) = some domain
  nonempty : domain ≠ []
  short : domain.length ≤ 253
  printable : domain.any isSpace = false

/-- A ClientHello: long enough for its random field, and of the length that its header says. -/
structure ValidHello (hello : Bytes) : Prop where
  long : 43 ≤ hello.length
  length : (fromBytes ((hello.drop 3).take 2) .big : Int) = hello.length - 5

/-- The random field of the hello: the digest of the hello, combined with the time. -/
def clientRandom (env : Env) (secret hello : Bytes) : Bytes :=
  xorFrom 28 (env.hmac.digest ((secret.drop 1).take 16) (setRandomField hello zeros))
    (littleBytes 4 env.time)

theorem length_clientRandom (env : Env) (secret hello : Bytes) :
    (clientRandom env secret hello).length = 32 :=
  length_xorFrom (env.hmac.length_digest ..) (length_littleBytes 4 env.time)

theorem makeClientHello_eq {env : Env} {secret hello : Bytes} {domain : Text}
    (hsecret : ValidSecret secret domain) (henv : env.clientHello domain = .ok hello)
    (hhello : ValidHello hello) (htime : env.time < 2 ^ 32) :
    makeClientHello env secret =
      .ok (setRandomField (setRandomField hello zeros) (clientRandom env secret hello),
        clientRandom env secret hello) := by
  have htimestamp : toBytes env.time 4 .little = some (littleBytes 4 env.time) := by
    rw [toBytes, if_pos (by omega)]
  have hmark : ¬ (secret.length ≤ 17 ∨ secret[0]? ≠ some 0xee) := by
    simp [hsecret.length, hsecret.mark]
  have hdomain : ¬ (domain = [] ∨ domain.length > 253 ∨ domain.any isSpace = true) := by
    simp [hsecret.nonempty, hsecret.short, hsecret.printable]
  have hvalid : ¬ (hello.length < 43 ∨
      (fromBytes ((hello.drop 3).take 2) .big : Int) ≠ hello.length - 5) := by
    simp [hhello.long, hhello.length]
  simp only [makeClientHello, if_neg hmark, hsecret.decodes, if_neg hdomain, henv, if_neg hvalid,
    htimestamp, bind, Except.bind, pure, Except.pure]
  rfl

/-- A verifier that digests the hello with its field set to zero, and combines the digest with the
field, finds the time. -/
theorem verify_clientRandom (env : Env) {secret hello : Bytes} (hhello : ValidHello hello) :
    let sent := setRandomField (setRandomField hello zeros) (clientRandom env secret hello)
    List.zipWith (· ^^^ ·) (randomField sent)
        (env.hmac.digest ((secret.drop 1).take 16) (setRandomField sent zeros)) =
      List.replicate 28 0 ++ littleBytes 4 env.time := by
  obtain ⟨front, field, back, hfront, hfield, rfl⟩ := exists_randomField hhello.long
  have hrandom := length_clientRandom env secret (front ++ field ++ back)
  have hzeros : zeros.length = 32 := rfl
  intro sent
  have hsent : sent = front ++ clientRandom env secret (front ++ field ++ back) ++ back := by
    show setRandomField (setRandomField _ _) _ = _
    rw [setRandomField_append hfront hfield, setRandomField_append hfront hzeros]
  rw [hsent, randomField_append hfront hrandom, setRandomField_append hfront hrandom,
    clientRandom, setRandomField_append hfront hfield]
  exact zipWith_xorFrom (env.hmac.length_digest ..) (length_littleBytes 4 env.time)

/-! ### Records -/

theorem readBytes_eq_ok_iff {size : Nat} {stream bytes rest : Bytes} :
    readBytes size stream = .ok (bytes, rest) ↔ bytes.length = size ∧ stream = bytes ++ rest := by
  rw [← readExactly_eq_some_iff, readBytes]
  cases readExactly size stream <;> simp

/-- `read_record` returns nothing but records with a valid payload. -/
theorem typedRecord_of_readRecord {stream bytes rest : Bytes}
    (h : readRecord stream = .ok (bytes, rest)) :
    ∃ type data, ValidPayload data ∧ bytes = typedRecord type data ∧ stream = bytes ++ rest := by
  unfold readRecord at h
  cases hheader : readBytes 5 stream with
  | error e =>
      rw [hheader] at h
      cases h
  | ok read =>
      obtain ⟨header, stream₁⟩ := read
      obtain ⟨hlength, rfl⟩ := readBytes_eq_ok_iff.mp hheader
      rw [hheader] at h
      simp only [bind, Except.bind, pure, Except.pure] at h
      split at h
      · cases h
      · next hgood =>
          cases hbody : readBytes (fromBytes ((header.drop 3).take 2) .big) stream₁ with
          | error e =>
              rw [hbody] at h
              cases h
          | ok read =>
              obtain ⟨body, stream₂⟩ := read
              obtain ⟨hsize, rfl⟩ := readBytes_eq_ok_iff.mp hbody
              rw [hbody] at h
              cases h
              obtain ⟨type, b, c, d, e, rfl⟩ : ∃ a b c d e, header = [a, b, c, d, e] := by
                match header, hlength with
                | [a, b, c, d, e], _ => exact ⟨a, b, c, d, e, rfl⟩
              rw [not_or, not_not, not_not] at hgood
              obtain ⟨hversion, hpos, hmax⟩ := hgood
              have hsize' : body.length = fromLittle [e, d] := hsize
              have hlittle : (littleBytes 2 body.length).reverse = [d, e] := by
                rw [hsize', show 2 = [e, d].length from rfl, littleBytes_fromLittle]
                rfl
              refine ⟨type, body, ⟨hsize ▸ hpos, hsize ▸ hmax⟩, ?_, List.append_assoc .. |>.symm⟩
              rw [typedRecord, hlittle]
              cases hversion
              rfl

/-- It does not matter in which segments the bytes arrive. -/
theorem Reader.readBytes_map_stream (reader : Reader) (size : Nat) :
    (Reader.readBytes reader size).map (fun read => (read.1, read.2.stream)) =
      Mtg.readBytes size reader.stream := by
  unfold Reader.readBytes Mtg.readBytes
  rw [← reader.readexactly_map_stream]
  cases reader.readexactly size <;> rfl

theorem Reader.readRecord_map_stream (reader : Reader) :
    (Reader.readRecord reader).map (fun read => (read.1, read.2.stream)) =
      Mtg.readRecord reader.stream := by
  unfold Reader.readRecord Mtg.readRecord
  rw [← Reader.readBytes_map_stream]
  cases Reader.readBytes reader 5 with
  | error e => rfl
  | ok read =>
      obtain ⟨header, reader⟩ := read
      simp only [bind, Except.bind, Except.map, pure, Except.pure]
      by_cases hbad : (header.drop 1).take 2 ≠ [0x03, 0x03] ∨
          ¬ (0 < fromBytes ((header.drop 3).take 2) .big ∧
            fromBytes ((header.drop 3).take 2) .big ≤ maxRecordSize)
      · rw [if_pos hbad, if_pos hbad]
        rfl
      · rw [if_neg hbad, if_neg hbad, ← Reader.readBytes_map_stream]
        cases Reader.readBytes reader (fromBytes ((header.drop 3).take 2) .big) <;> rfl

theorem Reader.typedRecord_of_readRecord {reader reader' : Reader} {bytes : Bytes}
    (h : Reader.readRecord reader = .ok (bytes, reader')) :
    ∃ type data, ValidPayload data ∧ bytes = typedRecord type data ∧
      reader.stream = bytes ++ reader'.stream := by
  refine Mtg.typedRecord_of_readRecord ?_
  rw [← Reader.readRecord_map_stream, h]
  rfl

theorem Reader.readRecord_of_stream {reader : Reader} {type : UInt8} {data rest : Bytes}
    (hdata : ValidPayload data) (h : reader.stream = typedRecord type data ++ rest) :
    ∃ reader', Reader.readRecord reader = .ok (typedRecord type data, reader') ∧
      reader'.stream = rest := by
  have hread := Reader.readRecord_map_stream reader
  rw [h, readRecord_typedRecord hdata] at hread
  cases hresult : Reader.readRecord reader with
  | error e =>
      rw [hresult] at hread
      cases hread
  | ok read =>
      obtain ⟨bytes, reader'⟩ := read
      rw [hresult] at hread
      cases hread
      exact ⟨reader', rfl, rfl⟩

/-! ### The server's flight -/

/-- What a server that knows the key answers: a ServerHello, `ChangeCipherSpec` and a record of
type 23, with the digest of the client's random field and of all three in the random field. -/
def ServerFlight (hmac : Hmac) (key random flight : Bytes) : Prop :=
  ∃ hello noise, ValidPayload hello ∧ ValidPayload noise ∧
    44 ≤ (typedRecord 22 hello).length ∧ hello[0]? = some 2 ∧
    flight = typedRecord 22 hello ++ changeCipherSpec ++ typedRecord 23 noise ∧
    randomField flight = hmac.digest key (random ++ setRandomField flight zeros)

theorem getElem?_typedRecord_zero (type : UInt8) (data : Bytes) :
    (typedRecord type data)[0]? = some type := rfl

theorem getElem?_typedRecord_five (type : UInt8) (data : Bytes) :
    (typedRecord type data)[5]? = data[0]? := by
  rw [typedRecord, List.getElem?_append_right (by simp)]
  simp

/-- The fields of the whole flight are those of its first record. -/
theorem randomField_flight {server rest : Bytes} (h : 44 ≤ server.length) :
    randomField (server ++ rest) = randomField server ∧
      setRandomField (server ++ rest) zeros = setRandomField server zeros ++ rest := by
  obtain ⟨front, field, back, hfront, hfield, rfl⟩ := exists_randomField (Nat.le_of_succ_le h)
  rw [List.append_assoc _ back rest, randomField_append hfront hfield,
    randomField_append hfront hfield, setRandomField_append hfront hfield,
    setRandomField_append hfront hfield, List.append_assoc _ back rest]
  exact ⟨rfl, rfl⟩

theorem changeCipherSpec_eq : changeCipherSpec = typedRecord 0x14 [0x01] := by decide

variable {env : Env} {secret hello random : Bytes}

/-- `handshake` accepts the flight of a server that knows the key. -/
theorem handshake_of_serverFlight (hclient : makeClientHello env secret = .ok (hello, random))
    {flight rest : Bytes} (hflight : ServerFlight env.hmac ((secret.drop 1).take 16) random flight)
    {self : Connection} (hself : self.reader.stream = flight ++ rest) :
    ∃ self', handshake env secret self = .ok self' ∧ self'.reader.stream = rest ∧
      self'.written = self.written ++ [hello, changeCipherSpec] := by
  obtain ⟨data, noise, hdata, hnoise, hlong, htype, rfl, hsigned⟩ := hflight
  rw [List.append_assoc, List.append_assoc] at hself
  obtain ⟨reader₁, hserver, hself₁⟩ := Reader.readRecord_of_stream hdata hself
  rw [changeCipherSpec_eq] at hself₁
  obtain ⟨reader₂, hccs, hself₂⟩ := Reader.readRecord_of_stream ⟨by decide, by decide⟩ hself₁
  obtain ⟨reader₃, hnoiseRead, hself₃⟩ := Reader.readRecord_of_stream hnoise hself₂
  rw [← changeCipherSpec_eq] at hccs
  rw [List.append_assoc, (randomField_flight hlong).1, (randomField_flight hlong).2] at hsigned
  refine ⟨⟨reader₃, self.written ++ [hello] ++ [changeCipherSpec]⟩, ?_, hself₃, by simp⟩
  have hshape : ¬ ((typedRecord 22 data).length < 44 ∨ (typedRecord 22 data)[0]? ≠ some 22 ∨
      (typedRecord 22 data)[5]? ≠ some 2) := by
    simp [getElem?_typedRecord_zero, getElem?_typedRecord_five, htype, hlong]
  have hnoiseType : ¬ (typedRecord 23 noise)[0]? ≠ some 23 := by
    simp [getElem?_typedRecord_zero]
  simp only [handshake, hclient, hserver, if_neg hshape, hccs, hnoiseRead, if_neg hnoiseType,
    bind, Except.bind, pure, Except.pure, ne_eq, not_true_eq_false, if_false]
  rw [if_neg]
  rw [not_not, hsigned, List.append_assoc]

/-- `handshake` accepts nothing else. -/
theorem serverFlight_of_handshake {self self' : Connection}
    (h : handshake env secret self = .ok self') :
    ∃ hello random flight, makeClientHello env secret = .ok (hello, random) ∧
      ServerFlight env.hmac ((secret.drop 1).take 16) random flight ∧
      self.reader.stream = flight ++ self'.reader.stream ∧
      self'.written = self.written ++ [hello, changeCipherSpec] := by
  -- each step of `handshake` succeeds, and each of its checks passes
  obtain ⟨⟨hello, random⟩, hclient, h⟩ := bind_eq_ok h
  obtain ⟨⟨server, reader₁⟩, hserver, h⟩ := bind_eq_ok h
  obtain ⟨hshape, h⟩ := of_guard_eq_ok h
  obtain ⟨⟨ccs, reader₂⟩, hccs, h⟩ := bind_eq_ok h
  obtain ⟨hccsEq, h⟩ := of_guard_eq_ok h
  obtain ⟨⟨noise, reader₃⟩, hnoise, h⟩ := bind_eq_ok h
  obtain ⟨hnoiseType, h⟩ := of_guard_eq_ok h
  obtain ⟨hsigned, h⟩ := of_guard_eq_ok h
  cases h
  simp only [not_or, not_not] at hshape hccsEq hnoiseType hsigned
  obtain ⟨hlong, htype, hmessage⟩ := hshape
  obtain ⟨type, data, hdata, rfl, hself⟩ := Reader.typedRecord_of_readRecord hserver
  obtain ⟨-, -, -, -, hself₁⟩ := Reader.typedRecord_of_readRecord hccs
  obtain ⟨type', noise, hvalid, rfl, hself₂⟩ := Reader.typedRecord_of_readRecord hnoise
  rw [getElem?_typedRecord_zero, Option.some.injEq] at htype hnoiseType
  subst htype hnoiseType hccsEq
  rw [getElem?_typedRecord_five] at hmessage
  refine ⟨hello, random, typedRecord 22 data ++ changeCipherSpec ++ typedRecord 23 noise, hclient,
    ⟨data, noise, hdata, hvalid, not_lt.mp hlong, hmessage, rfl, ?_⟩, ?_, ?_⟩
  · rw [List.append_assoc, (randomField_flight (not_lt.mp hlong)).1,
      (randomField_flight (not_lt.mp hlong)).2, hsigned, List.append_assoc]
  · rw [hself, hself₁, hself₂]
    simp
  · simp

/-- **The Fake-TLS handshake.** The hello that is sent carries the digest of itself and the time.
`handshake` accepts the flight of a server that knows the key, in whatever segments it arrives,
and reads no further; and it accepts nothing else. -/
theorem handshake_complete_and_sound (env : Env) (secret : Bytes) (domain : Text) (hello : Bytes)
    (hsecret : ValidSecret secret domain) (henv : env.clientHello domain = .ok hello)
    (hhello : ValidHello hello) (htime : env.time < 2 ^ 32) :
    ∃ sent random, makeClientHello env secret = .ok (sent, random) ∧
      List.zipWith (· ^^^ ·) (randomField sent)
          (env.hmac.digest ((secret.drop 1).take 16) (setRandomField sent zeros)) =
        List.replicate 28 0 ++ littleBytes 4 env.time ∧
      (∀ (flight rest : Bytes) (self : Connection),
        ServerFlight env.hmac ((secret.drop 1).take 16) random flight →
        self.reader.stream = flight ++ rest →
        ∃ self', handshake env secret self = .ok self' ∧ self'.reader.stream = rest ∧
          self'.written = self.written ++ [sent, changeCipherSpec]) ∧
      ∀ self self' : Connection, handshake env secret self = .ok self' →
        ∃ flight, ServerFlight env.hmac ((secret.drop 1).take 16) random flight ∧
          self.reader.stream = flight ++ self'.reader.stream ∧
          self'.written = self.written ++ [sent, changeCipherSpec] := by
  have hclient := makeClientHello_eq hsecret henv hhello htime
  refine ⟨_, _, hclient, verify_clientRandom env hhello, ?_, ?_⟩
  · intro flight rest self hflight hself
    exact handshake_of_serverFlight hclient hflight hself
  · intro self self' h
    obtain ⟨sent, random, flight, hclient', hflight, hself, hwritten⟩ :=
      serverFlight_of_handshake h
    rw [hclient] at hclient'
    cases hclient'
    exact ⟨flight, hflight, hself, hwritten⟩

/-! ### One handshake -/

/-- `0xEE`, the key `00 01 … 0f`, and `example.org`. -/
def sampleSecret : Bytes :=
  0xee :: (List.range 16).map UInt8.ofNat ++ encodeUtf8 "example.org".toList

/-- HMAC-SHA256 under the key of `sampleSecret`, of the two messages that the handshake below
digests. -/
def sampleHmac : Hmac where
  digest _ message :=
    if message.length = 44 then
      [48, 116, 232, 195, 125, 185, 80, 169, 139, 149, 200, 83, 22, 178, 224, 66, 64, 195, 33,
       204, 59, 100, 142, 132, 221, 41, 79, 91, 205, 80, 24, 210]
    else
      [175, 209, 87, 92, 77, 11, 77, 101, 126, 221, 163, 120, 238, 29, 194, 99, 118, 193, 24,
       244, 253, 12, 29, 131, 25, 170, 221, 135, 214, 96, 101, 141]
  length_digest key message := by split <;> rfl

/-- A short ClientHello, in November 2023. -/
def sampleEnv : Env where
  hmac := sampleHmac
  clientHello _ := .ok ([22, 3, 1, 0, 39, 1, 0, 0, 35, 3, 3] ++ List.replicate 32 0xaa ++ [0])
  time := 1700000000

/-- The random field of the server's flight. -/
def sampleDigest : Bytes := sampleHmac.digest [] []

/-- A flight whose records are cut into three segments. -/
theorem handshake_complete_and_sound_three_segments :
    ∃ self', handshake sampleEnv sampleSecret
        ⟨⟨[22, 3], [[3, 0, 39, 2, 0, 0, 35, 3, 3] ++ sampleDigest, [0, 20, 3, 3, 0, 1, 1, 23],
          [3, 3, 0, 1, 7]]⟩, []⟩ = .ok self' ∧ self'.reader.stream = [] := by
  obtain ⟨sent, random, hclient, -, hcomplete, -⟩ := handshake_complete_and_sound sampleEnv
    sampleSecret "example.org".toList _
    ⟨by decide, by decide, by decide, by decide, by decide, by decide⟩ rfl
    ⟨by decide, by decide⟩ (by decide)
  have hflight : ServerFlight sampleHmac ((sampleSecret.drop 1).take 16) random
      ([22, 3, 3, 0, 39, 2, 0, 0, 35, 3, 3] ++ sampleDigest ++ [0] ++ changeCipherSpec ++
        [23, 3, 3, 0, 1, 7]) := by
    refine ⟨[2, 0, 0, 35, 3, 3] ++ sampleDigest ++ [0], [7], ⟨by decide, by decide⟩,
      ⟨by decide, by decide⟩, by decide, by decide, by decide, ?_⟩
    refine (if_neg ?_).symm
    have hlength : (setRandomField ([22, 3, 3, 0, 39, 2, 0, 0, 35, 3, 3] ++ sampleDigest ++ [0] ++
        changeCipherSpec ++ [23, 3, 3, 0, 1, 7]) zeros).length = 56 := by decide
    rw [List.length_append, hlength]
    omega
  obtain ⟨self', h, hstream, -⟩ := hcomplete _ [] ⟨⟨[22, 3], [[3, 0, 39, 2, 0, 0, 35, 3, 3] ++
    sampleDigest, [0, 20, 3, 3, 0, 1, 1, 23], [3, 3, 0, 1, 7]]⟩, []⟩ hflight (by decide)
  exact ⟨self', h, hstream⟩

end PxManager.Mtg
