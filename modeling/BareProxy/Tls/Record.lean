import BareProxy.Base.Framer
import BareProxy.Crypto.Aead
import BareProxy.Tls.Alert

/-!
# TLS records

The record layer of `tls.rs`: plaintext and ciphertext records, the incremental decoder of ciphertext
records, and `Tls13RecordProtection`, which encrypts and decrypts records under one key and one running
sequence number for each direction. Calls that fail hand back the state they got.
-/

namespace BareProxy.Tls

open Crypto

def tlsRecordHeaderSize : Nat := 5

def tlsPlaintextFragmentLimit : Nat := 2 ^ 14

def tlsInnerPlaintextLimit : Nat := tlsPlaintextFragmentLimit + 1

def tlsCiphertextFragmentLimit : Nat := tlsPlaintextFragmentLimit + 256

def tlsLegacyRecordVersion : Nat := 0x0303

def chacha20Poly1305TagSize : Nat := 16

def tlsChacha20Poly1305CiphertextLimit : Nat := tlsInnerPlaintextLimit + chacha20Poly1305TagSize

inductive ContentType
  | changeCipherSpec
  | alert
  | handshake
  | applicationData
  deriving DecidableEq, Repr

def ContentType.code : ContentType → Byte
  | .changeCipherSpec => 20
  | .alert => 21
  | .handshake => 22
  | .applicationData => 23

def ContentType.ofCode (value : Byte) : Option ContentType :=
  if value = 20 then some .changeCipherSpec
  else if value = 21 then some .alert
  else if value = 22 then some .handshake
  else if value = 23 then some .applicationData
  else none

@[simp] theorem ofCode_code (contentType : ContentType) : ContentType.ofCode contentType.code = some contentType := by
  cases contentType <;> rfl

inductive RecordDirection
  | read
  | write
  deriving DecidableEq, Repr

inductive TlsRecordError
  | unknownContentType (contentType : Byte)
  | recordOverflow (length maximum : Nat)
  | emptyHandshakeFragment
  | invalidAlertLength (length : Nat)
  | invalidChangeCipherSpec
  | unprotectedApplicationData
  | interleavedHandshake (nextType : ContentType)
  | handshakeNotAligned (bufferedBytes : Nat)
  | invalidCiphertextContentType (contentType : Byte)
  | invalidCiphertextVersion (version : Nat)
  | ciphertextOverflow (length maximum : Nat)
  | ciphertextTooShort (length minimum : Nat)
  | innerPlaintextOverflow (length maximum : Nat)
  | missingInnerContentType
  | invalidInnerContentType (contentType : Byte)
  | sequenceNumberExhausted (direction : RecordDirection)
  | aead (error : ChaCha20Poly1305Error)
  | invalidFatalAlertDescription (description : TlsAlertDescription)
  | writeAfterCloseNotify
  | closeNotifyAlreadySent
  | connectionFailed
  | unexpectedProtectedContentType (contentType : ContentType)
  deriving DecidableEq, Repr

/-! ### Plaintext records -/

structure TlsPlaintextRecord where
  contentType : ContentType
  legacyRecordVersion : Nat
  fragment : Bytes
  deriving DecidableEq, Repr

def validatePlaintextFragment (contentType : ContentType) (fragment : Bytes) : Except TlsRecordError Unit :=
  if fragment.length > tlsPlaintextFragmentLimit then
    .error (.recordOverflow fragment.length tlsPlaintextFragmentLimit)
  else match contentType with
    | .handshake => if fragment.isEmpty then .error .emptyHandshakeFragment else .ok ()
    | .alert => if fragment.length ≠ 2 then .error (.invalidAlertLength fragment.length) else .ok ()
    | .changeCipherSpec => if fragment ≠ [1] then .error .invalidChangeCipherSpec else .ok ()
    | .applicationData => .ok ()

def TlsPlaintextRecord.new (contentType : ContentType) (fragment : Bytes) : Except TlsRecordError TlsPlaintextRecord := do
  validatePlaintextFragment contentType fragment
  return { contentType, legacyRecordVersion := tlsLegacyRecordVersion, fragment }

theorem TlsPlaintextRecord.new_eq_ok {contentType : ContentType} {fragment : Bytes} {record : TlsPlaintextRecord} :
    TlsPlaintextRecord.new contentType fragment = .ok record ↔
      validatePlaintextFragment contentType fragment = .ok () ∧
        record = ⟨contentType, tlsLegacyRecordVersion, fragment⟩ := by
  rw [TlsPlaintextRecord.new, bind_eq_ok]
  constructor
  · intro hfacts
    obtain ⟨_, hvalid, h⟩ := hfacts
    cases h
    exact ⟨hvalid, rfl⟩
  · intro hfacts
    obtain ⟨hvalid, rfl⟩ := hfacts
    exact ⟨(), hvalid, rfl⟩

/-- What a handshake fragment has to be. -/
theorem validatePlaintextFragment_handshake {fragment : Bytes} :
    validatePlaintextFragment .handshake fragment = .ok () ↔
      1 ≤ fragment.length ∧ fragment.length ≤ tlsPlaintextFragmentLimit := by
  rw [validatePlaintextFragment]
  by_cases hlong : fragment.length > tlsPlaintextFragmentLimit
  · rw [if_pos hlong]
    simp
    omega
  · rw [if_neg hlong]
    cases fragment with
    | nil => simp
    | cons b rest => simpa using hlong

/-! ### Ciphertext records -/

structure TlsCiphertextRecord where
  legacyRecordVersion : Nat
  encryptedRecord : Bytes
  deriving DecidableEq, Repr

/-- The five bytes before a ciphertext of this length. -/
def ciphertextHeader (version length : Nat) : Bytes :=
  ContentType.applicationData.code :: (beBytes 2 version ++ beBytes 2 length)

def TlsCiphertextRecord.header (record : TlsCiphertextRecord) : Bytes :=
  ciphertextHeader record.legacyRecordVersion record.encryptedRecord.length

def TlsCiphertextRecord.serialize (record : TlsCiphertextRecord) : Bytes := record.header ++ record.encryptedRecord

/-- One pass of the loop of `CiphertextRecordDecoder::push`. -/
def nextCiphertextRecord (available : Bytes) : Except TlsRecordError (Option (TlsCiphertextRecord × Bytes)) :=
  if available.length < tlsRecordHeaderSize then .ok none
  else
    let contentType := available.getD 0 0
    let legacyRecordVersion := ofBe ((available.drop 1).take 2)
    let encryptedLength := ofBe ((available.drop 3).take 2)
    if contentType ≠ ContentType.applicationData.code then .error (.invalidCiphertextContentType contentType)
    else if legacyRecordVersion ≠ tlsLegacyRecordVersion then .error (.invalidCiphertextVersion legacyRecordVersion)
    else if encryptedLength > tlsCiphertextFragmentLimit then
      .error (.ciphertextOverflow encryptedLength tlsCiphertextFragmentLimit)
    else
      let recordLength := tlsRecordHeaderSize + encryptedLength
      if available.length < recordLength then .ok none
      else .ok (some ({ legacyRecordVersion, encryptedRecord := (available.take recordLength).drop tlsRecordHeaderSize },
        available.drop recordLength))

/-- The fields of a header do not change when more bytes follow. -/
theorem header_append {available : Bytes} (h : tlsRecordHeaderSize ≤ available.length) (more : Bytes) :
    (available ++ more).getD 0 0 = available.getD 0 0 ∧
      ((available ++ more).drop 1).take 2 = (available.drop 1).take 2 ∧
      ((available ++ more).drop 3).take 2 = (available.drop 3).take 2 := by
  rw [tlsRecordHeaderSize] at h
  refine ⟨?_, ?_, ?_⟩
  · rw [List.getD_eq_getElem?_getD, List.getD_eq_getElem?_getD, List.getElem?_append_left (by omega)]
  · rw [List.drop_append_of_le_length (by omega), List.take_append_of_le_length (by rw [List.length_drop]; omega)]
  · rw [List.drop_append_of_le_length (by omega), List.take_append_of_le_length (by rw [List.length_drop]; omega)]

def ciphertextFramer : Framer TlsRecordError TlsCiphertextRecord where
  next := nextCiphertextRecord
  next_shorter := by
    intro buffer record rest h
    unfold nextCiphertextRecord at h
    dsimp only at h
    split at h
    · cases h
    · repeat (split at h; · cases h)
      cases h
      rw [List.length_drop, tlsRecordHeaderSize]
      simp only [tlsRecordHeaderSize] at *
      omega
  next_append := by
    intro buffer record rest more h
    unfold nextCiphertextRecord at h ⊢
    dsimp only at h ⊢
    split at h
    · cases h
    · rename_i hheader
      obtain ⟨htype, hversion, hlength⟩ := header_append (Nat.not_lt.1 hheader) more
      rw [htype, hversion, hlength, if_neg (by rw [List.length_append]; omega)]
      repeat (split at h; · cases h)
      rename_i htype' hversion' hlength' hrecord
      cases h
      have hle := Nat.not_lt.1 hrecord
      rw [if_neg htype', if_neg hversion', if_neg hlength', if_neg (by rw [List.length_append]; omega),
        List.take_append_of_le_length hle, List.drop_append_of_le_length hle]
  error_append := by
    intro buffer e more h
    unfold nextCiphertextRecord at h ⊢
    dsimp only at h ⊢
    split at h
    · cases h
    · rename_i hheader
      obtain ⟨htype, hversion, hlength⟩ := header_append (Nat.not_lt.1 hheader) more
      rw [htype, hversion, hlength, if_neg (by rw [List.length_append]; omega)]
      split at h
      · rw [if_pos ‹_›]
        exact h
      · rw [if_neg ‹_›]
        split at h
        · rw [if_pos ‹_›]
          exact h
        · rw [if_neg ‹_›]
          split at h
          · rw [if_pos ‹_›]
            exact h
          · split at h
            · cases h
            · cases h

/-- `CiphertextRecordDecoder` with its only field, the bytes that do not make a whole record yet. -/
abbrev CiphertextRecordDecoder := Bytes

namespace CiphertextRecordDecoder

def new : CiphertextRecordDecoder := []

def push (decoder : CiphertextRecordDecoder) (input : Bytes) :
    Except TlsRecordError (List TlsCiphertextRecord) × CiphertextRecordDecoder :=
  ciphertextFramer.push decoder input

end CiphertextRecordDecoder

/-- The fields that a buffer with this header has. -/
theorem nextCiphertextRecord_cons {version length : Bytes} (hversion : version.length = 2) (hlength : length.length = 2)
    (hlegacy : ofBe version = tlsLegacyRecordVersion) (hlimit : ofBe length ≤ tlsCiphertextFragmentLimit)
    {encrypted : Bytes} (hencrypted : encrypted.length = ofBe length) (more : Bytes) :
    nextCiphertextRecord (ContentType.applicationData.code :: (version ++ (length ++ (encrypted ++ more)))) =
      .ok (some (⟨tlsLegacyRecordVersion, encrypted⟩, more)) := by
  obtain ⟨v0, v1, rfl⟩ := List.length_eq_two.1 hversion
  obtain ⟨l0, l1, rfl⟩ := List.length_eq_two.1 hlength
  have hcut : (encrypted ++ more).take (ofBe [l0, l1]) = encrypted ∧ (encrypted ++ more).drop (ofBe [l0, l1]) = more :=
    ⟨List.take_left' hencrypted, List.drop_left' hencrypted⟩
  have hfive : 5 + ofBe [l0, l1] = ofBe [l0, l1] + 1 + 1 + 1 + 1 + 1 := by omega
  simp [nextCiphertextRecord, tlsRecordHeaderSize, hlegacy, hfive, hcut, hencrypted, Nat.not_lt.2 hlimit]

/-- A record within the limit is found where it was serialized. -/
theorem nextCiphertextRecord_serialize {record : TlsCiphertextRecord}
    (hversion : record.legacyRecordVersion = tlsLegacyRecordVersion)
    (hlength : record.encryptedRecord.length ≤ tlsCiphertextFragmentLimit) (more : Bytes) :
    nextCiphertextRecord (record.serialize ++ more) = .ok (some (record, more)) := by
  obtain ⟨version, encrypted⟩ := record
  dsimp only at hversion hlength
  have hfit : encrypted.length < 256 ^ 2 := Nat.lt_of_le_of_lt hlength (by decide)
  have hread : ofBe (beBytes 2 encrypted.length) = encrypted.length := by
    rw [ofBe_beBytes, Nat.mod_eq_of_lt hfit]
  have hlegacy : ofBe (beBytes 2 tlsLegacyRecordVersion) = tlsLegacyRecordVersion := by decide
  have hfound := nextCiphertextRecord_cons (length_beBytes 2 version) (length_beBytes 2 encrypted.length)
    (by rw [hversion, hlegacy]) (by rw [hread]; exact hlength) hread.symm more
  subst hversion
  simpa [TlsCiphertextRecord.serialize, TlsCiphertextRecord.header, ciphertextHeader] using hfound

end BareProxy.Tls
