import BareProxy.Tls.RecordProtection

/-!
# The protected channel

One side encrypts records and serializes them, the other side cuts the bytes into records again as they come
in and decrypts them. Whatever the pieces, the records arrive as they were sent.
-/

namespace BareProxy.Tls

/-- Encrypts records one after the other, each with its padding. -/
def encryptRecords (protection : Tls13RecordProtection) (records : List (TlsPlaintextRecord × Nat)) :
    Except TlsRecordError (List TlsCiphertextRecord) × Tls13RecordProtection :=
  runAll (fun protection (record, paddingLength) => protection.encryptRecord record paddingLength) protection records

def decryptRecords (protection : Tls13RecordProtection) (records : List TlsCiphertextRecord) :
    Except TlsRecordError (List TlsPlaintextRecord) × Tls13RecordProtection :=
  runAll Tls13RecordProtection.decryptRecord protection records

/-- What the decoder needs of an encrypted record. -/
theorem encryptRecord_framed {protection protection' : Tls13RecordProtection} {record : TlsPlaintextRecord}
    {paddingLength : Nat} {encrypted : TlsCiphertextRecord}
    (h : protection.encryptRecord record paddingLength = (.ok encrypted, protection')) (more : Bytes) :
    ciphertextFramer.next (encrypted.serialize ++ more) = .ok (some (encrypted, more)) := by
  obtain ⟨_, innerPlaintext, ciphertext, tag, -, hinner, hencrypt, rfl, -⟩ := Tls13RecordProtection.encryptRecord_ok h
  have hlength := (Crypto.chacha20Poly1305Decrypt_encrypt hencrypt).2
  have hinnerLength := length_encodeTlsInnerPlaintext hinner
  refine nextCiphertextRecord_serialize rfl ?_ more
  have hlimits : tlsInnerPlaintextLimit + 16 ≤ tlsCiphertextFragmentLimit := by decide
  rw [List.length_append, Vector.length_toList, hlength]
  omega

theorem encryptRecords_readSequenceNumber {protection protection' : Tls13RecordProtection}
    {records : List (TlsPlaintextRecord × Nat)} {encrypted : List TlsCiphertextRecord}
    (h : encryptRecords protection records = (.ok encrypted, protection')) :
    protection'.readSequenceNumber = protection.readSequenceNumber := by
  induction records generalizing protection encrypted with
  | nil =>
    cases h
    rfl
  | cons first records ih =>
    obtain ⟨record, paddingLength⟩ := first
    obtain ⟨output, more, next, hfirst, hrest, rfl⟩ := runAll_cons_ok.1 h
    obtain ⟨_, _, _, _, -, -, -, -, hnext⟩ := Tls13RecordProtection.encryptRecord_ok hfirst
    rw [ih hrest, hnext]

/-- The receiver follows the sender record by record. -/
theorem decryptRecords_encryptRecords {sender sender' receiver : Tls13RecordProtection}
    {records : List (TlsPlaintextRecord × Nat)} {encrypted : List TlsCiphertextRecord}
    (hkey : receiver.readKey = sender.writeKey) (hiv : receiver.readIv = sender.writeIv)
    (hsequence : receiver.readSequenceNumber = sender.writeSequenceNumber)
    (h : encryptRecords sender records = (.ok encrypted, sender')) :
    decryptRecords receiver encrypted =
        (.ok (records.map fun record => { record.1 with legacyRecordVersion := tlsLegacyRecordVersion }),
          { receiver with readSequenceNumber := sender'.writeSequenceNumber }) ∧
      ∀ record ∈ encrypted, ∀ more, ciphertextFramer.next (record.serialize ++ more) = .ok (some (record, more)) := by
  induction records generalizing sender receiver encrypted with
  | nil =>
    cases h
    rw [← hsequence]
    exact ⟨rfl, fun record hrecord => absurd hrecord List.not_mem_nil⟩
  | cons first records ih =>
    obtain ⟨record, paddingLength⟩ := first
    obtain ⟨output, more, next, hfirst, hrest, rfl⟩ := runAll_cons_ok.1 h
    obtain ⟨_, _, _, _, -, -, -, -, hnext⟩ := Tls13RecordProtection.encryptRecord_ok hfirst
    have hdecrypt := Tls13RecordProtection.decryptRecord_encryptRecord hkey hiv hsequence hfirst
    have hstep := @ih next { receiver with readSequenceNumber := next.writeSequenceNumber } more
      (by rw [hnext]; exact hkey) (by rw [hnext]; exact hiv) rfl hrest
    refine ⟨runAll_cons_ok.2 ⟨_, _, _, hdecrypt, hstep.1, rfl⟩, ?_⟩
    intro found hfound
    rcases List.mem_cons.1 hfound with rfl | hmore
    · exact encryptRecord_framed hfirst
    · exact hstep.2 found hmore

/-- The records come out as they went in, whatever the pieces in which their bytes arrive. -/
theorem protectedChannel_identity (key₁ : ByteArrayN 32) (iv₁ : ByteArrayN 12) (key₂ : ByteArrayN 32)
    (iv₂ : ByteArrayN 12) {records : List (TlsPlaintextRecord × Nat)} {encrypted : List TlsCiphertextRecord}
    {sender' : Tls13RecordProtection}
    (h : encryptRecords (.new key₁ iv₁ key₂ iv₂) records = (.ok encrypted, sender'))
    {pieces : List Bytes} (hpieces : pieces.flatten = encrypted.flatMap TlsCiphertextRecord.serialize) :
    ∃ batches received receiver',
      runAll CiphertextRecordDecoder.push .new pieces = (.ok batches, .new) ∧
      batches.flatten = encrypted ∧
      decryptRecords (.new key₂ iv₂ key₁ iv₁) batches.flatten = (.ok received, receiver') ∧
      received.map (fun record => (record.contentType, record.fragment)) =
        records.map (fun record => (record.1.contentType, record.1.fragment)) ∧
      receiver'.readSequenceNumber = sender'.writeSequenceNumber ∧
      receiver'.writeSequenceNumber = sender'.readSequenceNumber := by
  have hstart : Tls13RecordProtection.readKey (.new key₂ iv₂ key₁ iv₁) =
      Tls13RecordProtection.writeKey (.new key₁ iv₁ key₂ iv₂) := rfl
  obtain ⟨hdecrypt, hframed⟩ := decryptRecords_encryptRecords hstart rfl rfl h
  have hdrain := Framer.drain_flatMap hframed (rfl : ciphertextFramer.next [] = .ok none)
  rw [List.append_nil, ← hpieces] at hdrain
  obtain ⟨batches, hpush, hbatches⟩ := Framer.runAll_push (rfl : ciphertextFramer.next [] = .ok none) hdrain
  refine ⟨batches, _, _, hpush, hbatches, hbatches ▸ hdecrypt, ?_, rfl, ?_⟩
  · rw [List.map_map]
    rfl
  · exact (encryptRecords_readSequenceNumber h).symm

/-- An empty record and one that ends in a zero and is padded, fed to the decoder a byte at a time. -/
theorem protectedChannel_identity_bytewise :
    ∃ encrypted sender' batches received receiver',
      encryptRecords (.new (Vector.replicate 32 1) (Vector.replicate 12 1) (Vector.replicate 32 2)
        (Vector.replicate 12 2)) [(⟨.applicationData, tlsLegacyRecordVersion, []⟩, 0),
          (⟨.handshake, tlsLegacyRecordVersion, [7, 0]⟩, 3)] = (.ok encrypted, sender') ∧
      runAll CiphertextRecordDecoder.push .new ((encrypted.flatMap TlsCiphertextRecord.serialize).map ([·])) =
        (.ok batches, .new) ∧
      decryptRecords (.new (Vector.replicate 32 2) (Vector.replicate 12 2) (Vector.replicate 32 1)
        (Vector.replicate 12 1)) batches.flatten = (.ok received, receiver') ∧
      received.map (fun record => (record.contentType, record.fragment)) =
        [(.applicationData, []), (.handshake, [7, 0])] ∧
      receiver'.readSequenceNumber = sender'.writeSequenceNumber := by
  obtain ⟨first, hfirst⟩ := @Tls13RecordProtection.encryptRecord_isOk
    (.new (Vector.replicate 32 1) (Vector.replicate 12 1) (Vector.replicate 32 2) (Vector.replicate 12 2))
    ⟨.applicationData, tlsLegacyRecordVersion, []⟩ 0 0 rfl rfl (by decide) (by decide)
  obtain ⟨second, hsecond⟩ := @Tls13RecordProtection.encryptRecord_isOk
    ⟨Vector.replicate 32 1, Vector.replicate 12 1, Vector.replicate 32 2, Vector.replicate 12 2, checkedSucc 0, some 0⟩
    ⟨.handshake, tlsLegacyRecordVersion, [7, 0]⟩ 3 1 (by decide) (by decide) (by decide) (by decide)
  have hrun : encryptRecords (.new (Vector.replicate 32 1) (Vector.replicate 12 1) (Vector.replicate 32 2)
      (Vector.replicate 12 2)) [(⟨.applicationData, tlsLegacyRecordVersion, []⟩, 0),
        (⟨.handshake, tlsLegacyRecordVersion, [7, 0]⟩, 3)] = (.ok [first, second], _) :=
    runAll_cons_ok.2 ⟨first, [second], _, hfirst, runAll_cons_ok.2 ⟨second, [], _, hsecond, rfl, rfl⟩, rfl⟩
  obtain ⟨batches, received, receiver', hpush, -, hdecrypt, hreceived, hsequence, -⟩ :=
    protectedChannel_identity _ _ _ _ hrun
      (List.flatMap_singleton' ([first, second].flatMap TlsCiphertextRecord.serialize))
  exact ⟨[first, second], _, batches, received, receiver', hrun, hpush, hdecrypt, hreceived, hsequence⟩

end BareProxy.Tls
