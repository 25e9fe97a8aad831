import BareProxy.Tls.Record

/-!
# Protected records

`Tls13RecordProtection` encrypts and decrypts records under one key, one IV and one running sequence number
for each direction. A call that fails hands back the state it got; a call that succeeds moves the sequence
number of its direction by one, until the number is used up.
-/

namespace BareProxy.Tls

open Crypto

structure Tls13RecordProtection where
  writeKey : ByteArrayN 32
  writeIv : ByteArrayN 12
  readKey : ByteArrayN 32
  readIv : ByteArrayN 12
  writeSequenceNumber : Option UInt64
  readSequenceNumber : Option UInt64
  deriving DecidableEq

def tls13RecordNonce (staticIv : ByteArrayN 12) (sequenceNumber : UInt64) : ByteArrayN 12 :=
  arrayOf (staticIv.toList.take 4 ++
    List.zipWith (· ^^^ ·) (staticIv.toList.drop 4) (beBytes 8 sequenceNumber.toNat)) (by simp)

def tlsCiphertextHeader (encryptedLength : Nat) : Except TlsRecordError Bytes :=
  if encryptedLength > tlsCiphertextFragmentLimit then
    .error (.ciphertextOverflow encryptedLength tlsCiphertextFragmentLimit)
  else .ok (ciphertextHeader tlsLegacyRecordVersion encryptedLength)

def encodeTlsInnerPlaintext (record : TlsPlaintextRecord) (paddingLength : Nat) : Except TlsRecordError Bytes := do
  validatePlaintextFragment record.contentType record.fragment
  if record.contentType = .changeCipherSpec then
    throw (.invalidInnerContentType ContentType.changeCipherSpec.code)
  if paddingLength > tlsInnerPlaintextLimit then
    throw (.innerPlaintextOverflow paddingLength tlsInnerPlaintextLimit)
  let encodedLength := record.fragment.length + 1 + paddingLength
  if encodedLength > tlsInnerPlaintextLimit then
    throw (.innerPlaintextOverflow encodedLength tlsInnerPlaintextLimit)
  return record.fragment ++ record.contentType.code :: List.replicate paddingLength 0

/-- `rposition` of a byte that is not zero. -/
def lastNonzero (bytes : Bytes) : Option Nat :=
  (bytes.reverse.findIdx? (· ≠ 0)).map fun index => bytes.length - 1 - index

def decodeTlsInnerPlaintext (innerPlaintext : Bytes) : Except TlsRecordError TlsPlaintextRecord :=
  if innerPlaintext.length > tlsInnerPlaintextLimit then
    .error (.innerPlaintextOverflow innerPlaintext.length tlsInnerPlaintextLimit)
  else match lastNonzero innerPlaintext with
    | none => .error .missingInnerContentType
    | some contentTypeIndex =>
      let encodedContentType := innerPlaintext.getD contentTypeIndex 0
      match ContentType.ofCode encodedContentType with
      | some .changeCipherSpec | none => .error (.invalidInnerContentType encodedContentType)
      | some contentType => do
        let fragment := innerPlaintext.take contentTypeIndex
        validatePlaintextFragment contentType fragment
        return { contentType, legacyRecordVersion := tlsLegacyRecordVersion, fragment }

def validateChacha20Poly1305Ciphertext (record : TlsCiphertextRecord) : Except TlsRecordError Unit :=
  if record.legacyRecordVersion ≠ tlsLegacyRecordVersion then
    .error (.invalidCiphertextVersion record.legacyRecordVersion)
  else if record.encryptedRecord.length > tlsChacha20Poly1305CiphertextLimit then
    .error (.ciphertextOverflow record.encryptedRecord.length tlsChacha20Poly1305CiphertextLimit)
  else if record.encryptedRecord.length < chacha20Poly1305TagSize then
    .error (.ciphertextTooShort record.encryptedRecord.length chacha20Poly1305TagSize)
  else .ok ()

theorem validateChacha20Poly1305Ciphertext_ok {record : TlsCiphertextRecord} :
    validateChacha20Poly1305Ciphertext record = .ok () ↔
      record.legacyRecordVersion = tlsLegacyRecordVersion ∧
      record.encryptedRecord.length ≤ tlsChacha20Poly1305CiphertextLimit ∧
      chacha20Poly1305TagSize ≤ record.encryptedRecord.length := by
  rw [validateChacha20Poly1305Ciphertext]
  by_cases hversion : record.legacyRecordVersion = tlsLegacyRecordVersion
  · rw [if_neg (not_not.2 hversion)]
    by_cases hlong : record.encryptedRecord.length > tlsChacha20Poly1305CiphertextLimit
    · simp [hlong]
    · by_cases hshort : record.encryptedRecord.length < chacha20Poly1305TagSize
      · simp [hlong, hshort]
      · simp [hlong, hshort, hversion, Nat.not_lt.1 hlong, Nat.not_lt.1 hshort]
  · simp [hversion]

/-! ### The inner plaintext -/

theorem code_ne_zero (contentType : ContentType) : contentType.code ≠ 0 := by
  cases contentType <;> decide

/-- The padding is skipped down to the content type, whatever the fragment ends in. -/
theorem lastNonzero_padded (fragment : Bytes) {byte : Byte} (h : byte ≠ 0) (paddingLength : Nat) :
    lastNonzero (fragment ++ byte :: List.replicate paddingLength 0) = some fragment.length := by
  have hfind : ∀ count (rest : Bytes),
      (List.replicate count (0 : Byte) ++ byte :: rest).findIdx? (· ≠ 0) = some count := by
    intro count rest
    induction count with
    | zero => simp [h, List.findIdx?_cons]
    | succ count ih => simpa [List.replicate_succ, List.findIdx?_cons] using ih
  have hreverse : (fragment ++ byte :: List.replicate paddingLength 0).reverse =
      List.replicate paddingLength 0 ++ byte :: fragment.reverse := by simp
  rw [lastNonzero, hreverse, hfind, Option.map_some, Option.some.injEq, List.length_append, List.length_cons,
    List.length_replicate]
  omega

theorem encodeTlsInnerPlaintext_ok {record : TlsPlaintextRecord} {paddingLength : Nat} {innerPlaintext : Bytes} :
    encodeTlsInnerPlaintext record paddingLength = .ok innerPlaintext ↔
      validatePlaintextFragment record.contentType record.fragment = .ok () ∧
      record.contentType ≠ .changeCipherSpec ∧
      record.fragment.length + 1 + paddingLength ≤ tlsInnerPlaintextLimit ∧
      innerPlaintext = record.fragment ++ record.contentType.code :: List.replicate paddingLength 0 := by
  rw [encodeTlsInnerPlaintext]
  cases hvalid : validatePlaintextFragment record.contentType record.fragment with
  | error e => simp [bind, Except.bind]
  | ok _ =>
    by_cases htype : record.contentType = .changeCipherSpec
    · simp [bind, Except.bind, htype, throw, throwThe, MonadExceptOf.throw]
    · by_cases hpadding : paddingLength > tlsInnerPlaintextLimit
      · simp [bind, Except.bind, htype, hpadding, throw, throwThe, MonadExceptOf.throw]
        omega
      · by_cases hlimit : record.fragment.length + 1 + paddingLength > tlsInnerPlaintextLimit
        · simp [bind, Except.bind, htype, hpadding, hlimit, throw, throwThe, MonadExceptOf.throw]
        · simp [bind, Except.bind, htype, hpadding, hlimit, pure, Except.pure, Nat.not_lt.1 hlimit, eq_comm]

theorem length_encodeTlsInnerPlaintext {record : TlsPlaintextRecord} {paddingLength : Nat} {innerPlaintext : Bytes}
    (h : encodeTlsInnerPlaintext record paddingLength = .ok innerPlaintext) :
    innerPlaintext.length ≤ tlsInnerPlaintextLimit := by
  obtain ⟨-, -, hlimit, rfl⟩ := encodeTlsInnerPlaintext_ok.1 h
  rw [List.length_append, List.length_cons, List.length_replicate]
  omega

/-- Decoding gives the content type and the fragment back. -/
theorem decodeTlsInnerPlaintext_encode {record : TlsPlaintextRecord} {paddingLength : Nat} {innerPlaintext : Bytes}
    (h : encodeTlsInnerPlaintext record paddingLength = .ok innerPlaintext) :
    decodeTlsInnerPlaintext innerPlaintext = .ok { record with legacyRecordVersion := tlsLegacyRecordVersion } := by
  obtain ⟨hvalid, htype, hlimit, rfl⟩ := encodeTlsInnerPlaintext_ok.1 h
  rw [decodeTlsInnerPlaintext, if_neg (Nat.not_lt.2 (length_encodeTlsInnerPlaintext h)),
    lastNonzero_padded _ (code_ne_zero _)]
  simp [hvalid]

/-- `checked_add(1)`. -/
def checkedSucc (n : UInt64) : Option UInt64 := if n.toNat + 1 < 2 ^ 64 then some (n + 1) else none

/-- The sequence number after this many records. -/
def sequenceAt (count : Nat) : Option UInt64 := if count < 2 ^ 64 then some (UInt64.ofNat count) else none

theorem sequenceAt_eq_some {count : Nat} {sequenceNumber : UInt64} (h : sequenceAt count = some sequenceNumber) :
    count < 2 ^ 64 ∧ sequenceNumber = UInt64.ofNat count ∧ checkedSucc sequenceNumber = sequenceAt (count + 1) := by
  rw [sequenceAt] at h
  by_cases hcount : count < 2 ^ 64
  · rw [if_pos hcount, Option.some.injEq] at h
    subst h
    have htoNat : (UInt64.ofNat count).toNat = count := by
      rw [UInt64.toNat_ofNat']
      exact Nat.mod_eq_of_lt hcount
    refine ⟨hcount, rfl, ?_⟩
    rw [checkedSucc, sequenceAt, htoNat, UInt64.ofNat_add]
    rfl
  · rw [if_neg hcount] at h
    cases h

/-- Different sequence numbers give different nonces. -/
theorem tls13RecordNonce_injective {staticIv : ByteArrayN 12} {left right : UInt64}
    (h : tls13RecordNonce staticIv left = tls13RecordNonce staticIv right) : left = right := by
  have hlist := congrArg Vector.toList h
  rw [tls13RecordNonce, tls13RecordNonce, toList_arrayOf, toList_arrayOf, List.append_cancel_left_eq] at hlist
  -- xor with the IV once more gives the encoded numbers back
  have hback : ∀ sequenceNumber : UInt64, List.zipWith (· ^^^ ·)
      (List.zipWith (· ^^^ ·) (staticIv.toList.drop 4) (beBytes 8 sequenceNumber.toNat)) (staticIv.toList.drop 4) =
        beBytes 8 sequenceNumber.toNat := by
    intro sequenceNumber
    have hcomm : List.zipWith (· ^^^ ·) (staticIv.toList.drop 4) (beBytes 8 sequenceNumber.toNat) =
        List.zipWith (· ^^^ ·) (beBytes 8 sequenceNumber.toNat) (staticIv.toList.drop 4) :=
      List.zipWith_comm_of_comm UInt8.xor_comm
    rw [hcomm]
    exact zipWith_xor_xor _ _ (by simp)
  have hbytes : beBytes 8 left.toNat = beBytes 8 right.toNat := by rw [← hback, hlist, hback]
  exact UInt64.toNat.inj (beBytes_injective left.toNat_lt right.toNat_lt hbytes)

namespace Tls13RecordProtection

def new (writeKey : ByteArrayN 32) (writeIv : ByteArrayN 12) (readKey : ByteArrayN 32) (readIv : ByteArrayN 12) :
    Tls13RecordProtection :=
  ⟨writeKey, writeIv, readKey, readIv, some 0, some 0⟩

def encryptRecord (protection : Tls13RecordProtection) (record : TlsPlaintextRecord) (paddingLength : Nat) :
    Except TlsRecordError TlsCiphertextRecord × Tls13RecordProtection :=
  match protection.writeSequenceNumber with
  | none => (.error (.sequenceNumberExhausted .write), protection)
  | some sequenceNumber =>
    match encodeTlsInnerPlaintext record paddingLength with
    | .error error => (.error error, protection)
    | .ok innerPlaintext =>
      let encryptedLength := innerPlaintext.length + chacha20Poly1305TagSize
      if encryptedLength > tlsChacha20Poly1305CiphertextLimit then
        (.error (.ciphertextOverflow encryptedLength tlsChacha20Poly1305CiphertextLimit), protection)
      else match tlsCiphertextHeader encryptedLength with
        | .error error => (.error error, protection)
        | .ok header =>
          let nonce := tls13RecordNonce protection.writeIv sequenceNumber
          match chacha20Poly1305Encrypt protection.writeKey nonce header innerPlaintext with
          | .error error => (.error (.aead error), protection)
          | .ok (ciphertext, tag) =>
            (.ok { legacyRecordVersion := tlsLegacyRecordVersion, encryptedRecord := ciphertext ++ tag.toList },
              { protection with writeSequenceNumber := checkedSucc sequenceNumber })

def decryptRecord (protection : Tls13RecordProtection) (record : TlsCiphertextRecord) :
    Except TlsRecordError TlsPlaintextRecord × Tls13RecordProtection :=
  match validateChacha20Poly1305Ciphertext record with
  | .error error => (.error error, protection)
  | .ok () =>
    match protection.readSequenceNumber with
    | none => (.error (.sequenceNumberExhausted .read), protection)
    | some sequenceNumber =>
      let ciphertextLength := record.encryptedRecord.length - chacha20Poly1305TagSize
      let ciphertext := record.encryptedRecord.take ciphertextLength
      let tag := copyFromSlice 16 (record.encryptedRecord.drop ciphertextLength)
      let nonce := tls13RecordNonce protection.readIv sequenceNumber
      match chacha20Poly1305Decrypt protection.readKey nonce record.header ciphertext tag with
      | .error error => (.error (.aead error), protection)
      | .ok innerPlaintext =>
        match decodeTlsInnerPlaintext innerPlaintext with
        | .error error => (.error error, protection)
        | .ok plaintextRecord =>
          (.ok plaintextRecord, { protection with readSequenceNumber := checkedSucc sequenceNumber })

/-! ### What a call does -/

variable {protection protection' : Tls13RecordProtection}

/-- A successful encryption: the AEAD runs under the sequence number of the state, and only that number moves. -/
theorem encryptRecord_ok {record : TlsPlaintextRecord} {paddingLength : Nat} {encrypted : TlsCiphertextRecord}
    (h : protection.encryptRecord record paddingLength = (.ok encrypted, protection')) :
    ∃ sequenceNumber innerPlaintext ciphertext tag,
      protection.writeSequenceNumber = some sequenceNumber ∧
      encodeTlsInnerPlaintext record paddingLength = .ok innerPlaintext ∧
      chacha20Poly1305Encrypt protection.writeKey (tls13RecordNonce protection.writeIv sequenceNumber)
        (ciphertextHeader tlsLegacyRecordVersion (innerPlaintext.length + chacha20Poly1305TagSize)) innerPlaintext =
          .ok (ciphertext, tag) ∧
      encrypted = ⟨tlsLegacyRecordVersion, ciphertext ++ tag.toList⟩ ∧
      protection' = { protection with writeSequenceNumber := checkedSucc sequenceNumber } := by
  rw [encryptRecord] at h
  split at h
  · cases h
  · rename_i sequenceNumber hsequence
    split at h
    · cases h
    · rename_i innerPlaintext hinner
      dsimp only at h
      split at h
      · cases h
      · split at h
        · cases h
        · rename_i header hheader
          split at h
          · cases h
          · rename_i ciphertext tag hencrypt
            rw [tlsCiphertextHeader] at hheader
            split at hheader
            · cases hheader
            · cases hheader
              cases h
              exact ⟨sequenceNumber, innerPlaintext, ciphertext, tag, hsequence, hinner, hencrypt, rfl, rfl⟩

theorem encryptRecord_error {record : TlsPlaintextRecord} {paddingLength : Nat} {e : TlsRecordError}
    (h : protection.encryptRecord record paddingLength = (.error e, protection')) : protection' = protection := by
  dsimp only [encryptRecord] at h
  repeat' split at h
  all_goals cases h
  all_goals rfl

/-- The record of this sequence number opens under the key and the IV. -/
def Opens (key : ByteArrayN 32) (iv : ByteArrayN 12) (sequenceNumber : UInt64) (record : TlsCiphertextRecord)
    (plaintextRecord : TlsPlaintextRecord) : Prop :=
  validateChacha20Poly1305Ciphertext record = .ok () ∧
  ∃ ciphertext tag innerPlaintext, record.encryptedRecord = ciphertext ++ Vector.toList tag ∧
    chacha20Poly1305Decrypt key (tls13RecordNonce iv sequenceNumber) record.header ciphertext tag =
      .ok innerPlaintext ∧
    decodeTlsInnerPlaintext innerPlaintext = .ok plaintextRecord

/-- Decryption succeeds exactly when the record opens under the sequence number of the state, and only that
number moves. -/
theorem decryptRecord_eq_ok {record : TlsCiphertextRecord} {plaintextRecord : TlsPlaintextRecord} :
    protection.decryptRecord record = (.ok plaintextRecord, protection') ↔
      ∃ sequenceNumber, protection.readSequenceNumber = some sequenceNumber ∧
        Opens protection.readKey protection.readIv sequenceNumber record plaintextRecord ∧
        protection' = { protection with readSequenceNumber := checkedSucc sequenceNumber } := by
  constructor
  · intro h
    rw [decryptRecord] at h
    split at h
    · cases h
    · rename_i hvalid
      split at h
      · cases h
      · rename_i sequenceNumber hsequence
        dsimp only at h
        split at h
        · cases h
        · rename_i innerPlaintext hdecrypt
          split at h
          · cases h
          · rename_i decoded hdecode
            cases h
            refine ⟨sequenceNumber, hsequence, ⟨hvalid, _, _, innerPlaintext, ?_, hdecrypt, hdecode⟩, rfl⟩
            have hlong := (validateChacha20Poly1305Ciphertext_ok.1 hvalid).2.2
            rw [toList_copyFromSlice, List.take_append_drop]
            rw [chacha20Poly1305TagSize] at hlong ⊢
            rw [List.length_drop]
            omega
  · intro hfacts
    obtain ⟨sequenceNumber, hsequence, ⟨hvalid, ciphertext, tag, innerPlaintext, hcut, hdecrypt, hdecode⟩, rfl⟩ := hfacts
    have hlength : record.encryptedRecord.length - chacha20Poly1305TagSize = ciphertext.length := by
      rw [hcut, List.length_append, Vector.length_toList, chacha20Poly1305TagSize]
      omega
    have htake : record.encryptedRecord.take ciphertext.length = ciphertext := by rw [hcut, List.take_left]
    have hdrop : record.encryptedRecord.drop ciphertext.length = tag.toList := by rw [hcut, List.drop_left]
    simp only [decryptRecord, hvalid, hsequence, hlength, htake, hdrop, copyFromSlice_toList, hdecrypt, hdecode]

/-- A successful decryption: the AEAD runs under the sequence number of the state, and only that number moves. -/
theorem decryptRecord_ok {record : TlsCiphertextRecord} {plaintextRecord : TlsPlaintextRecord}
    (h : protection.decryptRecord record = (.ok plaintextRecord, protection')) :
    ∃ sequenceNumber ciphertext tag innerPlaintext,
      protection.readSequenceNumber = some sequenceNumber ∧
      record.encryptedRecord = ciphertext ++ Vector.toList tag ∧
      chacha20Poly1305Decrypt protection.readKey (tls13RecordNonce protection.readIv sequenceNumber)
        record.header ciphertext tag = .ok innerPlaintext ∧
      decodeTlsInnerPlaintext innerPlaintext = .ok plaintextRecord ∧
      protection' = { protection with readSequenceNumber := checkedSucc sequenceNumber } := by
  obtain ⟨sequenceNumber, hsequence, ⟨-, ciphertext, tag, innerPlaintext, hcut, hdecrypt, hdecode⟩, hnext⟩ :=
    decryptRecord_eq_ok.1 h
  exact ⟨sequenceNumber, ciphertext, tag, innerPlaintext, hsequence, hcut, hdecrypt, hdecode, hnext⟩

theorem decryptRecord_error {record : TlsCiphertextRecord} {e : TlsRecordError}
    (h : protection.decryptRecord record = (.error e, protection')) : protection' = protection := by
  dsimp only [decryptRecord] at h
  repeat' split at h
  all_goals cases h
  all_goals rfl

/-- Encryption succeeds as long as the record is one that may be protected and there is room for the padding. -/
theorem encryptRecord_isOk {record : TlsPlaintextRecord} {paddingLength : Nat} {sequenceNumber : UInt64}
    (hsequence : protection.writeSequenceNumber = some sequenceNumber)
    (hvalid : validatePlaintextFragment record.contentType record.fragment = .ok ())
    (htype : record.contentType ≠ .changeCipherSpec)
    (hlimit : record.fragment.length + 1 + paddingLength ≤ tlsInnerPlaintextLimit) :
    ∃ encrypted, protection.encryptRecord record paddingLength =
      (.ok encrypted, { protection with writeSequenceNumber := checkedSucc sequenceNumber }) := by
  have hinner := encodeTlsInnerPlaintext_ok.2 ⟨hvalid, htype, hlimit, rfl⟩
  generalize record.fragment ++ record.contentType.code :: List.replicate paddingLength 0 = innerPlaintext at hinner
  have hlength := length_encodeTlsInnerPlaintext hinner
  have hencrypted : ¬ innerPlaintext.length + chacha20Poly1305TagSize > tlsChacha20Poly1305CiphertextLimit := by
    rw [tlsChacha20Poly1305CiphertextLimit]
    omega
  have hfragment : ¬ innerPlaintext.length + chacha20Poly1305TagSize > tlsCiphertextFragmentLimit := by
    have hlimits : tlsChacha20Poly1305CiphertextLimit ≤ tlsCiphertextFragmentLimit := by decide
    omega
  obtain ⟨ciphertext, tag, hencrypt⟩ := chacha20Poly1305Encrypt_isOk protection.writeKey
    (tls13RecordNonce protection.writeIv sequenceNumber)
    (ciphertextHeader tlsLegacyRecordVersion (innerPlaintext.length + chacha20Poly1305TagSize))
    (Nat.lt_of_le_of_lt hlength (by decide))
  refine ⟨⟨tlsLegacyRecordVersion, ciphertext ++ tag.toList⟩, ?_⟩
  simp only [encryptRecord, hsequence, hinner, if_neg hencrypted, tlsCiphertextHeader, if_neg hfragment, hencrypt]

/-- What one side encrypted the other side decrypts, when its keys and its sequence number are the same. -/
theorem decryptRecord_encryptRecord {receiver : Tls13RecordProtection} {record : TlsPlaintextRecord}
    {paddingLength : Nat} {encrypted : TlsCiphertextRecord}
    (hkey : receiver.readKey = protection.writeKey) (hiv : receiver.readIv = protection.writeIv)
    (hsequence : receiver.readSequenceNumber = protection.writeSequenceNumber)
    (h : protection.encryptRecord record paddingLength = (.ok encrypted, protection')) :
    receiver.decryptRecord encrypted =
      (.ok { record with legacyRecordVersion := tlsLegacyRecordVersion },
        { receiver with readSequenceNumber := protection'.writeSequenceNumber }) := by
  obtain ⟨sequenceNumber, innerPlaintext, ciphertext, tag, hwrite, hinner, hencrypt, rfl, rfl⟩ := encryptRecord_ok h
  obtain ⟨hdecrypt, hlength⟩ := chacha20Poly1305Decrypt_encrypt hencrypt
  have htag : tag.toList.length = chacha20Poly1305TagSize := by
    rw [Vector.length_toList, chacha20Poly1305TagSize]
  have htotal : (ciphertext ++ tag.toList).length = innerPlaintext.length + chacha20Poly1305TagSize := by
    rw [List.length_append, hlength, htag]
  have hcut : (ciphertext ++ tag.toList).length - chacha20Poly1305TagSize = ciphertext.length := by
    rw [htotal, hlength]
    omega
  have hvalid : validateChacha20Poly1305Ciphertext ⟨tlsLegacyRecordVersion, ciphertext ++ tag.toList⟩ = .ok () := by
    refine validateChacha20Poly1305Ciphertext_ok.2 ⟨rfl, ?_, ?_⟩
    · dsimp only
      rw [htotal, tlsChacha20Poly1305CiphertextLimit]
      exact Nat.add_le_add_right (length_encodeTlsInnerPlaintext hinner) _
    · dsimp only
      rw [htotal]
      exact Nat.le_add_left _ _
  have hheader : TlsCiphertextRecord.header ⟨tlsLegacyRecordVersion, ciphertext ++ tag.toList⟩ =
      ciphertextHeader tlsLegacyRecordVersion (innerPlaintext.length + chacha20Poly1305TagSize) := by
    rw [TlsCiphertextRecord.header, htotal]
  simp only [decryptRecord, hvalid, hsequence, hwrite, hcut, List.take_left, List.drop_left, copyFromSlice_toList,
    hheader, hkey, hiv, hdecrypt, decodeTlsInnerPlaintext_encode hinner]

end Tls13RecordProtection

end BareProxy.Tls
