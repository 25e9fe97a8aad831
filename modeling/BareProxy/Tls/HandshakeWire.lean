import BareProxy.Base.Stream
import BareProxy.Crypto.Hkdf
import BareProxy.P256.Ecdsa
import BareProxy.Tls.Record

/-!
# Handshake messages on the wire

Errors, numbers and the reader and writers that the handshake code of `tls.rs` shares. A reader is what is
left to read; every writer has a lemma that says how the reader takes it apart again.
-/

namespace BareProxy.Tls

open P256 Crypto

/-! ### Numbers -/

def tlsVersion13 : Nat := 0x0304

def tlsChacha20Poly1305Sha256 : Nat := 0x1303

def tlsGroupSecp256r1 : Nat := 0x0017

def tlsSignatureEcdsaSecp256r1Sha256 : Nat := 0x0403

def handshakeHeaderSize : Nat := 4

def handshakeTypeClientHello : Byte := 1

def handshakeTypeServerHello : Byte := 2

def handshakeTypeEncryptedExtensions : Byte := 8

def handshakeTypeCertificate : Byte := 11

def handshakeTypeCertificateVerify : Byte := 15

def handshakeTypeFinished : Byte := 20

def handshakeTypeMessageHash : Byte := 254

def tlsUint24Max : Nat := 0x00ffffff

def extensionServerName : Nat := 0

def extensionSupportedGroups : Nat := 10

def extensionSignatureAlgorithms : Nat := 13

def extensionApplicationLayerProtocolNegotiation : Nat := 16

def extensionPadding : Nat := 21

def extensionPreSharedKey : Nat := 41

def extensionEarlyData : Nat := 42

def extensionSupportedVersions : Nat := 43

def extensionCookie : Nat := 44

def extensionKeyShare : Nat := 51

def tlsSha256HashSize : Nat := 32

def alpnHttp11 : Bytes := ascii "http/1.1"

/-! ### Errors -/

inductive TlsHandshakeError
  | truncated
  | unexpectedHandshakeType (messageType : Byte)
  | handshakeLengthMismatch (declared actual : Nat)
  | invalidLegacyVersion (version : Nat)
  | invalidSessionIdLength (length : Nat)
  | invalidCipherSuiteVector (length : Nat)
  | invalidCompressionMethods
  | missingExtensions
  | malformedVector (field : String)
  | duplicateExtension (extensionType : Nat)
  | tls13Required
  | missingRequiredExtension (extensionType : Nat)
  | preSharedKeyNotLast
  | invalidServerName
  | duplicateServerName
  | duplicateKeyShareGroup (group : Nat)
  | keyShareGroupNotOffered (group : Nat)
  | keyShareOrderMismatch
  | invalidAlpn
  deriving DecidableEq, Repr

inductive TlsServerHandshakeError
  | clientHello (error : TlsHandshakeError)
  | unsupportedCipherSuite
  | unsupportedGroup
  | unsupportedSignatureAlgorithm
  | noApplicationProtocol
  | helloRetryRequired (group : Nat)
  | invalidRetryClientHello
  | invalidRetryKeyShare
  | invalidP256KeyShare (error : P256PointError)
  | serverPublicKey (error : P256PointError)
  | random (error : IoError)
  | ecdh (error : P256EcdhError)
  | signing (error : P256EcdsaError)
  | keySchedule (error : HkdfError)
  | recordProtection (error : TlsRecordError)
  | emptyCertificateChain
  | emptyCertificate (index : Nat)
  | certificateTooLong (index length : Nat)
  | certificateListTooLong (length : Nat)
  | authenticationAlreadyStarted
  | serverAuthenticationRequired
  | unexpectedClientFinishedContentType (contentType : ContentType)
  | invalidClientFinished
  | clientFinishedMismatch
  | handshakeMessageTooLong (length : Nat)

/-! ### The reader -/

/-- What is left to read. -/
abbrev HandshakeReader := Bytes

namespace HandshakeReader

def readExact (length : Nat) (reader : HandshakeReader) : Except TlsHandshakeError (Bytes × HandshakeReader) :=
  if reader.length < length then .error .truncated else .ok (reader.take length, reader.drop length)

def readU8 (reader : HandshakeReader) : Except TlsHandshakeError (Byte × HandshakeReader) := do
  let (bytes, reader) ← reader.readExact 1
  return (bytes.headD 0, reader)

def readU16 (reader : HandshakeReader) : Except TlsHandshakeError (Nat × HandshakeReader) := do
  let (bytes, reader) ← reader.readExact 2
  return (ofBe bytes, reader)

def readVectorU8 (field : String) (reader : HandshakeReader) : Except TlsHandshakeError (Bytes × HandshakeReader) := do
  let (length, reader) ← reader.readU8
  mapErr (fun _ => .malformedVector field) (reader.readExact length.toNat)

def readVectorU16 (field : String) (reader : HandshakeReader) : Except TlsHandshakeError (Bytes × HandshakeReader) := do
  let (length, reader) ← reader.readU16
  mapErr (fun _ => .malformedVector field) (reader.readExact length)

def finish (field : String) (reader : HandshakeReader) : Except TlsHandshakeError Unit :=
  if reader.length = 0 then .ok () else .error (.malformedVector field)

theorem readExact_eq_ok {length : Nat} {reader bytes rest : Bytes} :
    readExact length reader = .ok (bytes, rest) ↔ bytes.length = length ∧ reader = bytes ++ rest := by
  rw [readExact]
  constructor
  · intro h
    split at h
    · cases h
    · cases h
      refine ⟨?_, (List.take_append_drop _ _).symm⟩
      rw [List.length_take]
      omega
  · intro hfacts
    obtain ⟨hlength, rfl⟩ := hfacts
    rw [if_neg (by simp [hlength]), List.take_left' hlength, List.drop_left' hlength]

theorem readU8_eq_ok {reader rest : Bytes} {byte : Byte} :
    readU8 reader = .ok (byte, rest) ↔ reader = byte :: rest := by
  rw [readU8, bind_eq_ok]
  constructor
  · intro hfacts
    obtain ⟨⟨bytes, rest'⟩, hread, hbyte⟩ := hfacts
    obtain ⟨hlength, rfl⟩ := readExact_eq_ok.mp hread
    obtain ⟨first, rfl⟩ := List.length_eq_one_iff.mp hlength
    cases hbyte
    rfl
  · rintro rfl
    exact ⟨([byte], rest), readExact_eq_ok.mpr ⟨rfl, rfl⟩, rfl⟩

theorem readU16_eq_ok {reader rest : Bytes} {n : Nat} :
    readU16 reader = .ok (n, rest) ↔ n < 256 ^ 2 ∧ reader = beBytes 2 n ++ rest := by
  rw [readU16, bind_eq_ok]
  constructor
  · intro hfacts
    obtain ⟨⟨bytes, rest'⟩, hread, hvalue⟩ := hfacts
    obtain ⟨hlength, rfl⟩ := readExact_eq_ok.mp hread
    cases hvalue
    have hbytes := beBytes_ofBe bytes
    rw [hlength] at hbytes
    rw [hbytes]
    exact ⟨hlength ▸ ofBe_lt bytes, rfl⟩
  · intro hfacts
    obtain ⟨hn, rfl⟩ := hfacts
    refine ⟨(beBytes 2 n, rest), readExact_eq_ok.mpr ⟨length_beBytes 2 n, rfl⟩, ?_⟩
    simp only [ofBe_beBytes, Nat.mod_eq_of_lt hn, pure_eq_ok]

theorem readVectorU8_eq_ok {field : String} {reader bytes rest : Bytes} :
    readVectorU8 field reader = .ok (bytes, rest) ↔
      bytes.length < 256 ∧ reader = UInt8.ofNat bytes.length :: (bytes ++ rest) := by
  rw [readVectorU8, bind_eq_ok]
  constructor
  · intro hfacts
    obtain ⟨⟨length, rest'⟩, hlength, hread⟩ := hfacts
    rw [mapErr_eq_ok] at hread
    obtain ⟨hbytes, rfl⟩ := readExact_eq_ok.mp hread
    rw [readU8_eq_ok] at hlength
    rw [hbytes, UInt8.ofNat_toNat]
    exact ⟨length.toNat_lt, hlength⟩
  · intro hfacts
    obtain ⟨hlength, rfl⟩ := hfacts
    refine ⟨(UInt8.ofNat bytes.length, bytes ++ rest), readU8_eq_ok.mpr rfl, ?_⟩
    rw [mapErr_eq_ok, readExact_eq_ok, UInt8.toNat_ofNat', Nat.mod_eq_of_lt hlength]
    exact ⟨rfl, rfl⟩

theorem readVectorU16_eq_ok {field : String} {reader bytes rest : Bytes} :
    readVectorU16 field reader = .ok (bytes, rest) ↔
      bytes.length < 256 ^ 2 ∧ reader = beBytes 2 bytes.length ++ (bytes ++ rest) := by
  rw [readVectorU16, bind_eq_ok]
  constructor
  · intro hfacts
    obtain ⟨⟨length, rest'⟩, hlength, hread⟩ := hfacts
    rw [mapErr_eq_ok] at hread
    obtain ⟨rfl, rfl⟩ := readExact_eq_ok.mp hread
    exact readU16_eq_ok.mp hlength
  · intro hfacts
    obtain ⟨hlength, rfl⟩ := hfacts
    refine ⟨(bytes.length, bytes ++ rest), readU16_eq_ok.mpr ⟨hlength, rfl⟩, ?_⟩
    rw [mapErr_eq_ok, readExact_eq_ok]
    exact ⟨rfl, rfl⟩

theorem readExact_append {bytes : Bytes} {length : Nat} (h : bytes.length = length) (rest : Bytes) :
    readExact length (bytes ++ rest) = .ok (bytes, rest) := readExact_eq_ok.mpr ⟨h, rfl⟩

theorem readU16_append {n : Nat} (h : n < 256 ^ 2) (rest : Bytes) :
    readU16 (beBytes 2 n ++ rest) = .ok (n, rest) := readU16_eq_ok.mpr ⟨h, rfl⟩

theorem readVectorU8_cons {field : String} {bytes : Bytes} (h : bytes.length < 256) (rest : Bytes) :
    readVectorU8 field (UInt8.ofNat bytes.length :: (bytes ++ rest)) = .ok (bytes, rest) :=
  readVectorU8_eq_ok.mpr ⟨h, rfl⟩

theorem readVectorU16_append {field : String} {bytes : Bytes} (h : bytes.length < 256 ^ 2) (rest : Bytes) :
    readVectorU16 field (beBytes 2 bytes.length ++ (bytes ++ rest)) = .ok (bytes, rest) :=
  readVectorU16_eq_ok.mpr ⟨h, rfl⟩

@[simp] theorem finish_nil (field : String) : finish field [] = .ok () := rfl

end HandshakeReader

/-! ### Writers -/

/-- Source: `append_uint24`. -/
def uint24 (value : Nat) : Bytes := beBytes 3 value

/-- The bytes that `append_tls_extension` appends. -/
def tlsExtension (extensionType : Nat) (data : Bytes) : Bytes :=
  beBytes 2 extensionType ++ (beBytes 2 data.length ++ data)

/-- A block of extensions, one appended after the other. -/
def tlsExtensions (extensions : List (Nat × Bytes)) : Bytes :=
  extensions.flatMap fun (extensionType, data) => tlsExtension extensionType data

/-- A message type, the length of the body in three bytes, and the body. -/
def handshakeMessage (messageType : Byte) (body : Bytes) : Bytes := messageType :: (uint24 body.length ++ body)

def encodeHandshakeMessage (messageType : Byte) (body : Bytes) : Except TlsServerHandshakeError Bytes :=
  if body.length > tlsUint24Max then .error (.handshakeMessageTooLong body.length)
  else .ok (handshakeMessage messageType body)

theorem encodeHandshakeMessage_eq {messageType : Byte} {body : Bytes} (h : body.length ≤ tlsUint24Max) :
    encodeHandshakeMessage messageType body = .ok (handshakeMessage messageType body) := if_neg (Nat.not_lt.mpr h)

theorem encodeHandshakeMessage_ok {messageType : Byte} {body message : Bytes} :
    encodeHandshakeMessage messageType body = .ok message ↔
      body.length ≤ tlsUint24Max ∧ message = handshakeMessage messageType body := by
  rw [encodeHandshakeMessage]
  split
  · simp_all
  · simp_all [eq_comm]

@[simp] theorem length_handshakeMessage (messageType : Byte) (body : Bytes) :
    (handshakeMessage messageType body).length = handshakeHeaderSize + body.length := by
  simp only [handshakeMessage, uint24, List.length_cons, List.length_append, length_beBytes, handshakeHeaderSize]
  omega

/-- The length in the header of a message, as every reader of messages computes it. -/
def declaredLength (message : Bytes) : Nat := ofBe ((message.drop 1).take 3)

theorem declaredLength_handshakeMessage {messageType : Byte} {body : Bytes} (h : body.length ≤ tlsUint24Max)
    (more : Bytes) : declaredLength (handshakeMessage messageType body ++ more) = body.length := by
  have hlength : body.length < 256 ^ 3 := Nat.lt_of_le_of_lt h (by decide)
  rw [declaredLength, handshakeMessage, List.cons_append, List.drop_one, List.tail_cons, List.append_assoc,
    List.take_left' (by simp [uint24]), uint24, ofBe_beBytes, Nat.mod_eq_of_lt hlength]

/-- A message on its own is as long as its header says. -/
theorem declaredLength_alone {messageType : Byte} {body : Bytes} (h : body.length ≤ tlsUint24Max) :
    declaredLength (handshakeMessage messageType body) =
      (handshakeMessage messageType body).length - handshakeHeaderSize := by
  have hdeclared := @declaredLength_handshakeMessage messageType body h []
  rw [List.append_nil] at hdeclared
  rw [hdeclared, length_handshakeMessage, Nat.add_sub_cancel_left]

/-- A header that tells the type and the length makes a message of what follows it. -/
theorem eq_handshakeMessage {message : Bytes} {messageType : Byte} (hsize : handshakeHeaderSize ≤ message.length)
    (htype : message.headD 0 = messageType)
    (hdeclared : declaredLength message = message.length - handshakeHeaderSize) :
    message = handshakeMessage messageType (message.drop handshakeHeaderSize) := by
  match message, hsize, htype, hdeclared with
  | a :: b :: c :: d :: body, hsize, htype, hdeclared =>
      have hlength : body.length = ofBe [b, c, d] := hdeclared.symm
      have hbytes : beBytes 3 body.length = [b, c, d] := by
        rw [hlength]
        exact beBytes_ofBe [b, c, d]
      show a :: b :: c :: d :: body = handshakeMessage messageType body
      rw [handshakeMessage, uint24, hbytes, ← htype]
      rfl

@[simp] theorem headD_handshakeMessage (messageType : Byte) (body : Bytes) :
    (handshakeMessage messageType body).headD 0 = messageType := rfl

@[simp] theorem drop_handshakeMessage (messageType : Byte) (body : Bytes) :
    (handshakeMessage messageType body).drop handshakeHeaderSize = body := by
  rw [handshakeMessage, handshakeHeaderSize, List.drop_succ_cons, List.drop_left' (by simp [uint24])]

end BareProxy.Tls
