import PxManager.Mtg.Framing

/-!
# PxManager.Mtg.RoundTrip

What one side sends, the other receives, however the ciphertext is cut into records on the way.

The receiver's buffer and the decryption of the records that it has not read are together the
plaintext that is still to be returned (`Pending`). Reading a record moves bytes from the second
part to the first and changes nothing else, so `readexactly` returns the next bytes of the
plaintext and `recv` the next packet.
-/

namespace PxManager.Mtg

open PxManager.Core

/-! ### Records -/

/-- A type-23 record. -/
def frame (data : Bytes) : Bytes :=
  [0x17, 0x03, 0x03] ++ (littleBytes 2 data.length).reverse ++ data

theorem record_eq_frame {data : Bytes} (h : data.length < 65536) :
    record data = .ok (frame data) := by
  rw [record, toBytes, if_pos (by simpa using h)]
  rfl

/-- The payload of a record may have 1 to `MAX_RECORD_SIZE` bytes. -/
def ValidPayload (data : Bytes) : Prop := 0 < data.length ∧ data.length ≤ maxRecordSize

theorem readBytes_append (bytes stream : Bytes) :
    readBytes bytes.length (bytes ++ stream) = .ok (bytes, stream) := by
  rw [readBytes, readExactly_append]

/-- A record of a type. -/
def typedRecord (type : UInt8) (data : Bytes) : Bytes :=
  [type, 0x03, 0x03] ++ (littleBytes 2 data.length).reverse ++ data

/-- `read_record` accepts a record with a valid payload, of whatever type it is. -/
theorem readRecord_typedRecord {type : UInt8} {data : Bytes} (h : ValidPayload data)
    (stream : Bytes) :
    readRecord (typedRecord type data ++ stream) = .ok (typedRecord type data, stream) := by
  obtain ⟨hpos, hmax⟩ := h
  have hsize : data.length < 256 ^ 2 := by
    unfold maxRecordSize at hmax
    omega
  obtain ⟨b, c, hbc⟩ : ∃ b c, (littleBytes 2 data.length).reverse = [b, c] :=
    List.length_eq_two.mp (by rw [List.length_reverse, length_littleBytes])
  have hlen : fromBytes [b, c] .big = data.length := by
    rw [← hbc]
    show fromLittle _ = _
    rw [List.reverse_reverse, fromLittle_littleBytes hsize]
  have hrecord : typedRecord type data = [type, 0x03, 0x03, b, c] ++ data := by
    rw [typedRecord, hbc]
    rfl
  have hheader := readBytes_append [type, 0x03, 0x03, b, c] (data ++ stream)
  have hbody := readBytes_append data stream
  rw [hrecord, List.append_assoc]
  unfold readRecord
  simp only [List.length_cons, List.length_nil, Nat.reduceAdd] at hheader
  simp only [hheader, bind, Except.bind, pure, Except.pure]
  rw [if_neg, show ((List.drop 3 [type, 0x03, 0x03, b, c]).take 2) = [b, c] from rfl, hlen, hbody]
  show ¬ (_ ∨ ¬ (0 < fromBytes [b, c] .big ∧ fromBytes [b, c] .big ≤ maxRecordSize))
  rw [hlen]
  simp [hpos, hmax]

theorem readRecord_frame {data : Bytes} (h : ValidPayload data) (stream : Bytes) :
    readRecord (frame data ++ stream) = .ok (frame data, stream) :=
  readRecord_typedRecord h stream

/-! ### Receiving -/

variable {κ δ : Type}

/-- The receiver still has to return `rest`: it has decrypted a part, and the rest is in the
records that it has not read. -/
def Pending (cipher : StreamCipher δ) (self : Receiver δ) (rest : Bytes) : Prop :=
  ∃ chunks : List Bytes, (∀ chunk ∈ chunks, ValidPayload chunk) ∧
    self.reader = chunks.flatMap frame ∧
    self.buffer ++ (cipher.process self.decrypt chunks.flatten).1 = rest

theorem drop_frame (data : Bytes) : (frame data).drop 5 = data := by
  have hlen : ([0x17, 0x03, 0x03] ++ (littleBytes 2 data.length).reverse).length = 5 := by
    simp [length_littleBytes]
  rw [frame, List.drop_append_of_le_length (Nat.le_of_eq hlen.symm), ← hlen, List.drop_length,
    List.nil_append]

/-- `readexactly` when the buffer has the bytes already. -/
theorem readexactly_buffered {cipher : StreamCipher δ} {self : Receiver δ} {bytes extra : Bytes}
    (h : self.buffer = bytes ++ extra) :
    self.readexactly cipher bytes.length = .ok (bytes, { self with buffer := extra }) := by
  rw [Receiver.readexactly, if_neg (by simp [h]), h, List.take_left, List.drop_left]

/-- `readexactly` returns the next bytes. -/
theorem readexactly_pending {cipher : StreamCipher δ} {self : Receiver δ} {bytes rest : Bytes}
    (h : Pending cipher self (bytes ++ rest)) :
    ∃ self', self.readexactly cipher bytes.length = .ok (bytes, self') ∧
      Pending cipher self' rest := by
  obtain ⟨chunks, hvalid, hreader, hbuffer⟩ := h
  induction chunks generalizing self with
  | nil =>
      rw [List.flatten_nil, cipher.process_nil, List.append_nil] at hbuffer
      refine ⟨_, readexactly_buffered hbuffer, [], hvalid, hreader, ?_⟩
      rw [List.flatten_nil, cipher.process_nil, List.append_nil]
  | cons chunk chunks ih =>
      obtain ⟨hchunk, hchunks⟩ := List.forall_mem_cons.mp hvalid
      by_cases hlen : self.buffer.length < bytes.length
      · -- Read one record, which moves the bytes of `chunk` into the buffer.
        rw [List.flatten_cons, cipher.process_append, ← List.append_assoc] at hbuffer
        obtain ⟨self', hread, hpending⟩ := @ih
          { reader := chunks.flatMap frame
            buffer := self.buffer ++ (cipher.process self.decrypt chunk).1
            decrypt := (cipher.process self.decrypt chunk).2 } hchunks rfl hbuffer
        refine ⟨self', ?_, hpending⟩
        have hrecord : readRecord self.reader = .ok (frame chunk, chunks.flatMap frame) := by
          rw [hreader, List.flatMap_cons, readRecord_frame hchunk]
        rw [Receiver.readexactly, if_pos hlen]
        split
        · next e herror =>
            rw [hrecord] at herror
            cases herror
        · next bytes' reader hok =>
            rw [hrecord] at hok
            cases hok
            rw [if_neg (by simp [frame]), drop_frame]
            exact hread
      · -- The buffer has enough, and the records stay where they are.
        have hprefix : bytes <+: self.buffer :=
          List.prefix_of_prefix_length_le ⟨rest, rfl⟩ ⟨_, hbuffer⟩ (Nat.le_of_not_lt hlen)
        obtain ⟨extra, hextra⟩ := hprefix
        refine ⟨_, readexactly_buffered hextra.symm, chunk :: chunks, hvalid, hreader, ?_⟩
        rw [← hextra, List.append_assoc] at hbuffer
        exact List.append_cancel_left hbuffer

/-- A payload and its padding that `send` may be given. -/
structure ValidPacket (packet : Bytes × Bytes) : Prop where
  nonempty : packet.1 ≠ []
  aligned : packet.1.length % 4 = 0
  padding : packet.2.length ≤ 3
  size : packet.1.length + packet.2.length ≤ maxPacketSize

/-- The plaintext of a packet. -/
def plaintext (packet : Bytes × Bytes) : Bytes :=
  littleBytes 4 (packet.1.length + packet.2.length) ++ packet.1 ++ packet.2

/-- `recv` returns the payload of the next packet. -/
theorem recv_pending {cipher : StreamCipher δ} {self : Receiver δ} {packet : Bytes × Bytes}
    (hpacket : ValidPacket packet) {rest : Bytes}
    (h : Pending cipher self (plaintext packet ++ rest)) :
    ∃ self', self.recv cipher = .ok (packet.1, self') ∧ Pending cipher self' rest := by
  obtain ⟨payload, padding⟩ := packet
  obtain ⟨hne, haligned, hpadding, hsize⟩ := hpacket
  dsimp only at hne haligned hpadding hsize
  have hpos := List.length_pos_iff.mpr hne
  have hfits : payload.length + padding.length < 256 ^ 4 := by
    unfold maxPacketSize at hsize
    omega
  rw [plaintext, List.append_assoc, List.append_assoc] at h
  obtain ⟨self₁, hheader, h₁⟩ := readexactly_pending h
  rw [← List.append_assoc] at h₁
  obtain ⟨self₂, hbody, h₂⟩ := readexactly_pending h₁
  rw [length_littleBytes] at hheader
  rw [List.length_append] at hbody
  refine ⟨self₂, ?_, h₂⟩
  have hlen : fromBytes (littleBytes 4 (payload.length + padding.length)) .little =
      payload.length + padding.length := fromLittle_littleBytes hfits
  -- the payload is aligned and the padding shorter than 4, so the remainder is the padding
  have hstrip : payload.length + padding.length - (payload.length + padding.length) % 4 =
      payload.length := by omega
  unfold Receiver.recv
  simp only [hheader, bind, Except.bind, pure, Except.pure, hlen, hbody, hstrip]
  rw [if_neg (by omega), List.take_left]

theorem recvAll_pending {cipher : StreamCipher δ} {self : Receiver δ}
    {packets : List (Bytes × Bytes)} (hpackets : ∀ packet ∈ packets, ValidPacket packet)
    (h : Pending cipher self (packets.flatMap plaintext)) :
    ∃ self', Receiver.recvAll cipher packets.length self = .ok (packets.map Prod.fst, self') ∧
      self'.buffer = [] := by
  induction packets generalizing self with
  | nil =>
      obtain ⟨chunks, -, -, hbuffer⟩ := h
      exact ⟨self, rfl, (List.append_eq_nil_iff.mp hbuffer).1⟩
  | cons packet packets ih =>
      obtain ⟨hpacket, hpackets⟩ := List.forall_mem_cons.mp hpackets
      obtain ⟨self₁, hrecv, h₁⟩ := recv_pending hpacket h
      obtain ⟨self₂, hrest, hempty⟩ := ih hpackets h₁
      refine ⟨self₂, ?_, hempty⟩
      simp only [List.length_cons, Receiver.recvAll, hrecv, bind, Except.bind, hrest, pure,
        Except.pure, List.map_cons]

/-! ### Sending -/

theorem foldlM_writeRecord (self : Sender κ) {chunks : List Bytes}
    (hchunks : ∀ chunk ∈ chunks, chunk.length < 65536) :
    chunks.foldlM Sender.writeRecord self =
      .ok { self with written := self.written ++ chunks.flatMap frame } := by
  induction chunks generalizing self with
  | nil => simp [pure, Except.pure]
  | cons chunk chunks ih =>
      obtain ⟨hchunk, hchunks⟩ := List.forall_mem_cons.mp hchunks
      rw [List.foldlM_cons, Sender.writeRecord, record_eq_frame hchunk]
      simp only [bind, Except.bind, pure, Except.pure]
      rw [ih _ hchunks, List.flatMap_cons, List.append_assoc]

/-- What `send` writes: records with valid payloads, which are together the encrypted packet. -/
theorem send_eq (cipher : StreamCipher κ) (self : Sender κ) {packet : Bytes × Bytes}
    (hpacket : ValidPacket packet) :
    ∃ chunks : List Bytes, (∀ chunk ∈ chunks, ValidPayload chunk) ∧
      chunks.flatten = (cipher.process self.encrypt (plaintext packet)).1 ∧
      self.send cipher packet.1 packet.2 = .ok
        { encrypt := (cipher.process self.encrypt (plaintext packet)).2
          written := self.written ++ chunks.flatMap frame } := by
  obtain ⟨payload, padding⟩ := packet
  have hsize : payload.length + padding.length < 256 ^ 4 := by
    have := hpacket.size
    unfold maxPacketSize at this
    dsimp only at this
    omega
  refine ⟨slices 16384 (cipher.process self.encrypt (plaintext (payload, padding))).1,
    fun chunk hchunk => ?_, flatten_slices (by decide) _, ?_⟩
  · obtain ⟨hpos, hle⟩ := length_of_mem_slices hchunk
    exact ⟨hpos, hle.trans (by decide)⟩
  · rw [Sender.send, toBytes, if_pos hsize]
    refine foldlM_writeRecord _ ?_
    intro chunk hchunk
    exact (length_of_mem_slices hchunk).2.trans_lt (by decide)

theorem sendAll_eq (cipher : StreamCipher κ) (self : Sender κ) {packets : List (Bytes × Bytes)}
    (hpackets : ∀ packet ∈ packets, ValidPacket packet) :
    ∃ (sender : Sender κ) (chunks : List Bytes), (∀ chunk ∈ chunks, ValidPayload chunk) ∧
      chunks.flatten = (cipher.process self.encrypt (packets.flatMap plaintext)).1 ∧
      self.sendAll cipher packets = .ok sender ∧
      sender.written = self.written ++ chunks.flatMap frame := by
  induction packets generalizing self with
  | nil =>
      refine ⟨self, [], by simp, ?_, rfl, by simp⟩
      rw [List.flatMap_nil, cipher.process_nil]
      rfl
  | cons packet packets ih =>
      obtain ⟨hpacket, hpackets⟩ := List.forall_mem_cons.mp hpackets
      obtain ⟨chunks, hvalid, hflat, hsend⟩ := send_eq cipher self hpacket
      obtain ⟨sender, chunks', hvalid', hflat', hall, hwritten⟩ := ih
        { encrypt := (cipher.process self.encrypt (plaintext packet)).2
          written := self.written ++ chunks.flatMap frame } hpackets
      refine ⟨sender, chunks ++ chunks', List.forall_mem_append.mpr ⟨hvalid, hvalid'⟩, ?_, ?_, ?_⟩
      · rw [List.flatten_append, hflat, hflat', List.flatMap_cons, cipher.process_append]
      · rw [Sender.sendAll, List.foldlM_cons, hsend]
        exact hall
      · rw [hwritten, List.flatMap_append, List.append_assoc]

/-! ### The round trip -/

/-- **The framing round trip.** What `send` writes for any packets are records that `read_record`
accepts. Whoever receives their ciphertext in any records of type 23 gets the payloads back, one
with each `recv`, and nothing is left in the buffer. -/
theorem framing_roundTrip (encrypt : StreamCipher κ) (decrypt : StreamCipher δ) (key : κ) (key' : δ)
    (hinverse : ∀ data, (decrypt.process key' (encrypt.process key data).1).1 = data)
    (packets : List (Bytes × Bytes)) (hpackets : ∀ packet ∈ packets, ValidPacket packet) :
    ∃ (sender : Sender κ) (records : List Bytes),
      Sender.sendAll encrypt ⟨key, []⟩ packets = .ok sender ∧
      sender.written = records.flatten ∧
      (∀ bytes ∈ records, bytes.head? = some 23 ∧
        ∀ stream, readRecord (bytes ++ stream) = .ok (bytes, stream)) ∧
      ∀ chunks : List Bytes, (∀ chunk ∈ chunks, ValidPayload chunk) →
        chunks.flatten = records.flatMap (fun bytes => bytes.drop 5) →
        ∃ receiver, Receiver.recvAll decrypt packets.length ⟨chunks.flatMap frame, [], key'⟩ =
          .ok (packets.map Prod.fst, receiver) ∧ receiver.buffer = [] := by
  obtain ⟨sender, sent, hvalid, hflat, hsend, hwritten⟩ := sendAll_eq encrypt ⟨key, []⟩ hpackets
  refine ⟨sender, sent.map frame, hsend, ?_, ?_, ?_⟩
  · rw [hwritten, List.flatMap_def]
    rfl
  · intro bytes hbytes
    obtain ⟨data, hdata, rfl⟩ := List.mem_map.mp hbytes
    exact ⟨rfl, readRecord_frame (hvalid data hdata)⟩
  · intro chunks hchunks hcut
    have hcipher : chunks.flatten = (encrypt.process key (packets.flatMap plaintext)).1 := by
      rw [hcut, ← hflat, List.flatMap_map, List.flatMap_congr fun data _ => drop_frame data]
      simp
    refine recvAll_pending hpackets ⟨chunks, hchunks, rfl, ?_⟩
    rw [hcipher, hinverse]
    rfl

/-- Two packets, whose ciphertext arrives in records of one byte. -/
theorem framing_roundTrip_single_bytes :
    ∃ (chunks : List Bytes) (receiver : Receiver Nat), (∀ chunk ∈ chunks, chunk.length = 1) ∧
      Receiver.recvAll (keystreamCipher fun n => UInt8.ofNat (3 * n)) 2
        ⟨chunks.flatMap frame, [], 0⟩ = .ok ([[1, 2, 3, 4], [5, 6, 7, 8]], receiver) ∧
      receiver.buffer = [] := by
  obtain ⟨sender, records, -, -, -, hrecv⟩ := framing_roundTrip
    (keystreamCipher fun n => UInt8.ofNat (3 * n)) (keystreamCipher fun n => UInt8.ofNat (3 * n))
    0 0 (xorKeystream_xorKeystream _ 0) [([1, 2, 3, 4], [9]), ([5, 6, 7, 8], [9, 9, 9])]
    (by simp only [List.forall_mem_cons]; exact ⟨⟨by decide, by decide, by decide, by decide⟩,
      ⟨by decide, by decide, by decide, by decide⟩, by simp⟩)
  obtain ⟨receiver, hall, hempty⟩ := hrecv
    ((records.flatMap fun bytes => bytes.drop 5).map fun b => [b])
    (fun chunk hchunk => by
      obtain ⟨b, -, rfl⟩ := List.mem_map.mp hchunk
      exact ⟨Nat.one_pos, (by decide : 1 ≤ maxRecordSize)⟩)
    (by rw [← List.flatMap_def, List.flatMap_singleton'])
  refine ⟨_, receiver, fun chunk hchunk => ?_, hall, hempty⟩
  obtain ⟨b, -, rfl⟩ := List.mem_map.mp hchunk
  rfl

end PxManager.Mtg
