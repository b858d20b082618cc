import PxManager.Core.Bytes

/-!
# PxManager.Mtg.Framing

The record layer of `mtg_health.py`: `read_record`, and `write_record`, `send`, `readexactly` and
`recv` of `MTGConnection`.

A packet is a length, the payload and 0 to 3 bytes of padding. All packets are one stream, which
is encrypted as it goes and cut into records. The cuts mean nothing: whoever sends the same
ciphertext in other records sends the same packets.

Nothing is assumed of the ciphers but what `StreamCipher` says, and that one inverts the other.
-/

namespace PxManager.Mtg

open PxManager.Core

/-- `MAX_RECORD_SIZE`. -/
def maxRecordSize : Nat := 18432
/-- `MAX_PACKET_SIZE`. -/
def maxPacketSize : Nat := 1024 * 1024

/-- What reading and writing raise. -/
inductive MtgError
  | valueError (text : String)
  | incompleteRead
  | overflow
  deriving DecidableEq, Repr

/-- `await reader.readexactly(size)`. -/
def readBytes (size : Nat) (stream : Bytes) : Except MtgError (Bytes × Bytes) :=
  match readExactly size stream with
  | some read => .ok read
  | none => .error .incompleteRead

/-- `read_record`. -/
def readRecord (stream : Bytes) : Except MtgError (Bytes × Bytes) := do
  let (header, stream) ← readBytes 5 stream
  let size := fromBytes ((header.drop 3).take 2) .big
  if (header.drop 1).take 2 ≠ [0x03, 0x03] ∨ ¬ (0 < size ∧ size ≤ maxRecordSize) then
    throw (.valueError "Некорректная запись Fake TLS")
  let (body, stream) ← readBytes size stream
  return (header ++ body, stream)

/-- The bytes that `write_record` writes. -/
def record (data : Bytes) : Except MtgError Bytes :=
  match toBytes data.length 2 .big with
  | some size => .ok ([0x17, 0x03, 0x03] ++ size ++ data)
  | none => .error .overflow

/-! ### Sending -/

/-- What `send` uses of `MTGConnection`. -/
structure Sender (κ : Type) where
  encrypt : κ
  /-- The bytes given to `writer.write`. -/
  written : Bytes

/-- `MTGConnection.write_record`. -/
def Sender.writeRecord {κ : Type} (self : Sender κ) (data : Bytes) :
    Except MtgError (Sender κ) := do
  let bytes ← record data
  return { self with written := self.written ++ bytes }

/-- `MTGConnection.send`, with the padding it draws. -/
def Sender.send {κ : Type} (cipher : StreamCipher κ) (self : Sender κ) (data padding : Bytes) :
    Except MtgError (Sender κ) :=
  match toBytes (data.length + padding.length) 4 .little with
  | none => .error .overflow
  | some size =>
      let packet := size ++ data ++ padding
      let (encrypted, encrypt) := cipher.process self.encrypt packet
      (slices 16384 encrypted).foldlM Sender.writeRecord { self with encrypt }

/-- Several calls of `send`. -/
def Sender.sendAll {κ : Type} (cipher : StreamCipher κ) (self : Sender κ)
    (packets : List (Bytes × Bytes)) : Except MtgError (Sender κ) :=
  packets.foldlM (fun self packet => self.send cipher packet.1 packet.2) self

/-! ### Receiving -/

/-- What `recv` uses of `MTGConnection`. -/
structure Receiver (κ : Type) where
  reader : Bytes
  buffer : Bytes
  decrypt : κ

theorem length_of_readRecord {stream bytes rest : Bytes}
    (h : readRecord stream = .ok (bytes, rest)) : rest.length < stream.length := by
  have hread : ∀ {size : Nat} {stream bytes rest : Bytes},
      readBytes size stream = .ok (bytes, rest) →
        size ≤ stream.length ∧ rest = stream.drop size := by
    intro size stream bytes rest h
    unfold readBytes readExactly at h
    split at h
    · next hsome =>
        split at hsome
        · next hle =>
            cases hsome
            cases h
            exact ⟨hle, rfl⟩
        · cases hsome
    · cases h
  unfold readRecord at h
  cases hheader : readBytes 5 stream with
  | error e => rw [hheader] at h; cases h
  | ok header =>
      obtain ⟨header, stream₁⟩ := header
      obtain ⟨hle, rfl⟩ := hread hheader
      rw [hheader] at h
      simp only [bind, Except.bind] at h
      split at h
      · cases h
      · split at h
        · cases h
        · next hbody =>
            cases h
            obtain ⟨-, hrest⟩ := hread hbody
            rw [hrest]
            simp only [List.length_drop]
            omega

/-- `MTGConnection.readexactly`. -/
def Receiver.readexactly {κ : Type} (cipher : StreamCipher κ) (self : Receiver κ) (size : Nat) :
    Except MtgError (Bytes × Receiver κ) :=
  if self.buffer.length < size then
    match _h : readRecord self.reader with
    | .error e => .error e
    | .ok (bytes, reader) =>
        if bytes.head? ≠ some 23 then .error (.valueError "Неожиданный тип записи Fake TLS")
        else
          let (data, decrypt) := cipher.process self.decrypt (bytes.drop 5)
          Receiver.readexactly cipher { reader, buffer := self.buffer ++ data, decrypt } size
  else .ok (self.buffer.take size, { self with buffer := self.buffer.drop size })
termination_by self.reader.length
decreasing_by exact length_of_readRecord _h

/-- `MTGConnection.recv`. -/
def Receiver.recv {κ : Type} (cipher : StreamCipher κ) (self : Receiver κ) :
    Except MtgError (Bytes × Receiver κ) := do
  let (header, self) ← self.readexactly cipher 4
  let size := fromBytes header .little
  if ¬ (0 < size ∧ size ≤ maxPacketSize) then
    throw (.valueError "Некорректная длина ответа Telegram")
  let (packet, self) ← self.readexactly cipher size
  return (packet.take (size - size % 4), self)

/-- Several calls of `recv`. -/
def Receiver.recvAll {κ : Type} (cipher : StreamCipher κ) :
    Nat → Receiver κ → Except MtgError (List Bytes × Receiver κ)
  | 0, self => .ok ([], self)
  | n + 1, self => do
      let (packet, self) ← self.recv cipher
      let (packets, self) ← Receiver.recvAll cipher n self
      return (packet :: packets, self)

end PxManager.Mtg
