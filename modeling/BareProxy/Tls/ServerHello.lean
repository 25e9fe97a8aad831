import BareProxy.Tls.ClientHello

/-!
# ServerHello

The answers to a ClientHello that `tls.rs` builds (ServerHello, HelloRetryRequest and EncryptedExtensions),
and the ServerHello as its client side reads it.
-/

namespace BareProxy.Tls

open P256 Crypto

def tls13HelloRetryRequestRandom : ByteArrayN 32 :=
  #v[0xcf, 0x21, 0xad, 0x74, 0xe5, 0x9a, 0x61, 0x11, 0xbe, 0x1d, 0x8c, 0x02, 0x1e, 0x65, 0xb8, 0x91,
    0xc2, 0xa2, 0x11, 0x16, 0x7a, 0xbb, 0x8c, 0x5e, 0x07, 0x9e, 0x09, 0xe2, 0xc8, 0xa8, 0x33, 0x9c]

/-! ### Building -/

/-- The body that a ServerHello and a HelloRetryRequest have in common. The session ID is one of a parsed
ClientHello, and its length fits a byte. -/
def serverHelloBody (clientHello : ClientHello) (random : ByteArrayN 32) (extensions : Bytes) : Bytes :=
  beBytes 2 tlsLegacyRecordVersion ++ (random.toList ++
    UInt8.ofNat clientHello.legacySessionId.length :: (clientHello.legacySessionId ++
      (beBytes 2 tlsChacha20Poly1305Sha256 ++ 0 :: (beBytes 2 extensions.length ++ extensions))))

def buildTls13HelloRetryRequest (clientHello : ClientHello) : Except TlsServerHandshakeError Bytes :=
  let extensions := tlsExtensions [
    (extensionSupportedVersions, beBytes 2 tlsVersion13),
    (extensionKeyShare, beBytes 2 tlsGroupSecp256r1)]
  encodeHandshakeMessage handshakeTypeServerHello
    (serverHelloBody clientHello tls13HelloRetryRequestRandom extensions)

def buildTls13ServerHello (clientHello : ClientHello) (random : ByteArrayN 32) (serverKeyShare : ByteArrayN 65) :
    Except TlsServerHandshakeError Bytes :=
  let extensions := tlsExtensions [
    (extensionSupportedVersions, beBytes 2 tlsVersion13),
    (extensionKeyShare, beBytes 2 tlsGroupSecp256r1 ++ (beBytes 2 65 ++ serverKeyShare.toList))]
  encodeHandshakeMessage handshakeTypeServerHello (serverHelloBody clientHello random extensions)

/-- The extensions of the message and the protocol that was chosen. -/
def negotiateAlpn (clientHello : ClientHello) : Except TlsServerHandshakeError (Bytes × Option Bytes) :=
  if clientHello.offersHttp11 then
    let protocolNameList := UInt8.ofNat alpnHttp11.length :: alpnHttp11
    let alpnData := beBytes 2 protocolNameList.length ++ protocolNameList
    .ok (tlsExtension extensionApplicationLayerProtocolNegotiation alpnData, some alpnHttp11)
  else if clientHello.alpnProtocols.isEmpty then
    .ok ([], none)
  else
    .error .noApplicationProtocol

def buildTls13EncryptedExtensions (clientHello : ClientHello) :
    Except TlsServerHandshakeError (Bytes × Option Bytes) := do
  let (extensions, negotiatedAlpn) ← negotiateAlpn clientHello
  let body := beBytes 2 extensions.length ++ extensions
  let message ← encodeHandshakeMessage handshakeTypeEncryptedExtensions body
  return (message, negotiatedAlpn)

/-! ### Reading -/

inductive TlsClientHelloBuildError
  | invalidServerName
  | zeroPrivateKey
  | publicKey (error : P256PointError)
  deriving DecidableEq, Repr

inductive TlsClientHandshakeError
  | clientHello (error : TlsClientHelloBuildError)
  | random (error : IoError)
  | serverHello (error : TlsHandshakeError)
  | unexpectedServerHelloType (messageType : Byte)
  | serverHelloLengthMismatch (declared actual : Nat)
  | invalidServerHelloLegacyVersion (version : Nat)
  | invalidServerHelloSessionIdLength (length : Nat)
  | helloRetryRequestUnsupported
  | legacySessionIdMismatch
  | unsupportedCipherSuite (cipherSuite : Nat)
  | invalidCompressionMethod (method : Byte)
  | duplicateServerHelloExtension (extensionType : Nat)
  | unexpectedServerHelloExtension (extensionType : Nat)
  | missingServerHelloExtension (extensionType : Nat)
  | invalidSelectedVersion (version : Nat)
  | invalidServerKeyShareGroup (group : Nat)
  | invalidServerKeyShare (error : P256PointError)
  | ecdh (error : P256EcdhError)
  | keySchedule (error : HkdfError)
  | recordProtection (error : TlsRecordError)
  | unexpectedProtectedContentType (contentType : ContentType)

structure ParsedTls13ServerHello where
  legacySessionIdEcho : Bytes
  serverKeyShare : Bytes
  deriving DecidableEq, Repr

/-- The extensions of a ServerHello so far. -/
structure ServerHelloExtensions where
  seenExtensions : List Nat := []
  selectedVersion : Option Nat := none
  serverKeyShare : Option Bytes := none
  deriving DecidableEq, Repr

/-- A read of the client side. -/
def serverHelloRead {α : Type} (result : Except TlsHandshakeError α) : Except TlsClientHandshakeError α :=
  mapErr .serverHello result

/-- The `match` on the type of one extension. -/
def ServerHelloExtensions.addExtension (parsed : ServerHelloExtensions) (extensionType : Nat) (extensionData : Bytes) :
    Except TlsClientHandshakeError ServerHelloExtensions :=
  if extensionType = extensionSupportedVersions then do
    let (version, versionReader) ← serverHelloRead (HandshakeReader.readU16 extensionData)
    serverHelloRead (versionReader.finish "ServerHello supported_versions")
    return { parsed with selectedVersion := some version }
  else if extensionType = extensionKeyShare then do
    let (group, keyShareReader) ← serverHelloRead (HandshakeReader.readU16 extensionData)
    let (keyExchange, keyShareReader) ←
      serverHelloRead (keyShareReader.readVectorU16 "ServerHello key_exchange")
    serverHelloRead (keyShareReader.finish "ServerHello key_share")
    ensure (group = tlsGroupSecp256r1) (.invalidServerKeyShareGroup group)
    ensure (keyExchange ≠ []) (.serverHello (.malformedVector "ServerHello key_exchange"))
    return { parsed with serverKeyShare := some keyExchange }
  else .error (.unexpectedServerHelloExtension extensionType)

def readServerHelloExtension (parsed : ServerHelloExtensions) (reader : HandshakeReader) :
    Except TlsClientHandshakeError (ServerHelloExtensions × HandshakeReader) := do
  let (extensionType, reader) ← serverHelloRead reader.readU16
  let (extensionData, reader) ← serverHelloRead (reader.readVectorU16 "ServerHello extension_data")
  ensure (extensionType ∉ parsed.seenExtensions) (.duplicateServerHelloExtension extensionType)
  let parsed := { parsed with seenExtensions := parsed.seenExtensions ++ [extensionType] }
  let parsed ← parsed.addExtension extensionType extensionData
  return (parsed, reader)

theorem readServerHelloExtension_shorter {parsed parsed' : ServerHelloExtensions} {reader rest : Bytes}
    (h : readServerHelloExtension parsed reader = .ok (parsed', rest)) : rest.length < reader.length := by
  obtain ⟨⟨extensionType, reader₁⟩, htype, h⟩ := bind_eq_ok.mp h
  obtain ⟨⟨extensionData, reader₂⟩, hdata, h⟩ := bind_eq_ok.mp h
  obtain ⟨-, -, h⟩ := bind_eq_ok.mp h
  obtain ⟨added, -, h⟩ := bind_eq_ok.mp h
  cases h
  have := readU16_shorter (mapErr_eq_ok.mp htype)
  have := readVectorU16_shorter (mapErr_eq_ok.mp hdata)
  omega

def serverHelloExtensionLoop : ReadLoop TlsClientHandshakeError ServerHelloExtensions where
  step := readServerHelloExtension
  step_shorter := readServerHelloExtension_shorter

def parseTls13ServerHello (message : Bytes) : Except TlsClientHandshakeError ParsedTls13ServerHello := do
  ensure (handshakeHeaderSize ≤ message.length) (.serverHello .truncated)
  let messageType := message.headD 0
  ensure (messageType = handshakeTypeServerHello) (.unexpectedServerHelloType messageType)
  let actualLength := message.length - handshakeHeaderSize
  ensure (declaredLength message = actualLength) (.serverHelloLengthMismatch (declaredLength message) actualLength)
  let reader : HandshakeReader := message.drop handshakeHeaderSize
  let (legacyVersion, reader) ← serverHelloRead reader.readU16
  ensure (legacyVersion = tlsLegacyRecordVersion) (.invalidServerHelloLegacyVersion legacyVersion)
  let (random, reader) ← serverHelloRead (reader.readExact 32)
  ensure (random ≠ tls13HelloRetryRequestRandom.toList) .helloRetryRequestUnsupported
  let (legacySessionIdEcho, reader) ← serverHelloRead (reader.readVectorU8 "legacy_session_id_echo")
  ensure (legacySessionIdEcho.length ≤ 32) (.invalidServerHelloSessionIdLength legacySessionIdEcho.length)
  let (cipherSuite, reader) ← serverHelloRead reader.readU16
  ensure (cipherSuite = tlsChacha20Poly1305Sha256) (.unsupportedCipherSuite cipherSuite)
  let (compressionMethod, reader) ← serverHelloRead reader.readU8
  ensure (compressionMethod = 0) (.invalidCompressionMethod compressionMethod)
  let (extensions, reader) ← serverHelloRead (reader.readVectorU16 "ServerHello extensions")
  serverHelloRead (reader.finish "ServerHello")
  let parsed ← serverHelloExtensionLoop.run {} extensions
  let selectedVersion ← okOr (.missingServerHelloExtension extensionSupportedVersions) parsed.selectedVersion
  ensure (selectedVersion = tlsVersion13) (.invalidSelectedVersion selectedVersion)
  let serverKeyShare ← okOr (.missingServerHelloExtension extensionKeyShare) parsed.serverKeyShare
  return { legacySessionIdEcho, serverKeyShare }

/-! ### EncryptedExtensions -/

/-- At most one short extension is sent. -/
theorem length_negotiateAlpn {clientHello : ClientHello} {extensions : Bytes} {negotiatedAlpn : Option Bytes}
    (h : negotiateAlpn clientHello = .ok (extensions, negotiatedAlpn)) : extensions.length ≤ 15 := by
  rw [negotiateAlpn] at h
  split at h
  · cases h
    decide
  · split at h
    · cases h
      decide
    · cases h

theorem buildTls13EncryptedExtensions_eq_ok {clientHello : ClientHello} {message : Bytes}
    {negotiatedAlpn : Option Bytes} :
    buildTls13EncryptedExtensions clientHello = .ok (message, negotiatedAlpn) ↔
      ∃ extensions, negotiateAlpn clientHello = .ok (extensions, negotiatedAlpn) ∧
        message = handshakeMessage handshakeTypeEncryptedExtensions (beBytes 2 extensions.length ++ extensions) := by
  constructor
  · intro h
    obtain ⟨⟨extensions, alpn⟩, halpn, h⟩ := bind_eq_ok.mp h
    obtain ⟨encoded, hencode, h⟩ := bind_eq_ok.mp h
    cases h
    exact ⟨extensions, halpn, (encodeHandshakeMessage_ok.mp hencode).2⟩
  · intro hfacts
    obtain ⟨extensions, halpn, rfl⟩ := hfacts
    have hlength : (beBytes 2 extensions.length ++ extensions).length ≤ tlsUint24Max := by
      have := length_negotiateAlpn halpn
      rw [List.length_append, length_beBytes, tlsUint24Max]
      omega
    rw [buildTls13EncryptedExtensions, halpn, ok_bind]
    simp only [encodeHandshakeMessage_eq hlength, ok_bind, pure_eq_ok]

/-- The message fits one record. -/
theorem length_encryptedExtensions {clientHello : ClientHello} {message : Bytes} {negotiatedAlpn : Option Bytes}
    (h : buildTls13EncryptedExtensions clientHello = .ok (message, negotiatedAlpn)) :
    1 ≤ message.length ∧ message.length ≤ tlsPlaintextFragmentLimit := by
  obtain ⟨extensions, halpn, rfl⟩ := buildTls13EncryptedExtensions_eq_ok.mp h
  have := length_negotiateAlpn halpn
  rw [length_handshakeMessage, List.length_append, length_beBytes, handshakeHeaderSize, tlsPlaintextFragmentLimit]
  omega

/-! ### The client reads what the server built -/

open HandshakeReader

/-- One extension of a ServerHello that has not been seen before. -/
theorem serverHelloExtensionLoop_step {parsed parsed' : ServerHelloExtensions} {extensionType : Nat} {data rest : Bytes}
    (htype : extensionType < 256 ^ 2) (hdata : data.length < 256 ^ 2) (hnew : extensionType ∉ parsed.seenExtensions)
    (hadd : ({ parsed with seenExtensions := parsed.seenExtensions ++ [extensionType] } :
      ServerHelloExtensions).addExtension extensionType data = .ok parsed') :
    serverHelloExtensionLoop.run parsed (tlsExtension extensionType data ++ rest) =
      serverHelloExtensionLoop.run parsed' rest := by
  apply ReadLoop.run_of_step
  show readServerHelloExtension parsed _ = _
  rw [tlsExtension, List.append_assoc, List.append_assoc, readServerHelloExtension]
  simp only [serverHelloRead, readU16_append htype, readVectorU16_append hdata, mapErr_ok, ok_bind, ensure_of hnew,
    hadd, pure_eq_ok]

/-- The extensions of a ServerHello. -/
def serverHelloExtensions (serverKeyShare : ByteArrayN 65) : Bytes :=
  tlsExtensions [
    (extensionSupportedVersions, beBytes 2 tlsVersion13),
    (extensionKeyShare, beBytes 2 tlsGroupSecp256r1 ++ (beBytes 2 65 ++ serverKeyShare.toList))]

theorem length_serverHelloExtensions (serverKeyShare : ByteArrayN 65) :
    (serverHelloExtensions serverKeyShare).length = 79 := by
  simp [serverHelloExtensions, tlsExtensions, tlsExtension]

theorem serverHelloExtensionLoop_build (serverKeyShare : ByteArrayN 65) :
    serverHelloExtensionLoop.run {} (serverHelloExtensions serverKeyShare) =
      .ok ⟨[extensionSupportedVersions, extensionKeyShare], some tlsVersion13, some serverKeyShare.toList⟩ := by
  have hlength : serverKeyShare.toList.length = 65 := serverKeyShare.length_toList
  have hne : serverKeyShare.toList ≠ [] := by
    rw [← List.length_pos_iff, hlength]
    decide
  have hversion := @readU16_append tlsVersion13 (by decide) []
  have hgroup := @readU16_append tlsGroupSecp256r1 (by decide) (beBytes 2 65 ++ serverKeyShare.toList)
  have hkey := @readVectorU16_append "ServerHello key_exchange" serverKeyShare.toList (by rw [hlength]; decide) []
  rw [List.append_nil] at hversion hkey
  rw [hlength] at hkey
  have hversions (parsed : ServerHelloExtensions) :
      parsed.addExtension extensionSupportedVersions (beBytes 2 tlsVersion13) =
        .ok { parsed with selectedVersion := some tlsVersion13 } := by
    rw [ServerHelloExtensions.addExtension, if_pos rfl]
    simp only [serverHelloRead, hversion, mapErr_ok, ok_bind, finish_nil, pure_eq_ok]
  have hshare (parsed : ServerHelloExtensions) :
      parsed.addExtension extensionKeyShare
          (beBytes 2 tlsGroupSecp256r1 ++ (beBytes 2 65 ++ serverKeyShare.toList)) =
        .ok { parsed with serverKeyShare := some serverKeyShare.toList } := by
    rw [ServerHelloExtensions.addExtension, if_neg (by decide), if_pos rfl]
    simp only [serverHelloRead, hgroup, hkey, mapErr_ok, ok_bind, finish_nil, ensure_of, ensure_of hne, pure_eq_ok]
  simp only [serverHelloExtensions, tlsExtensions, List.flatMap_cons, List.flatMap_nil]
  rw [serverHelloExtensionLoop_step (by decide) (by decide) (by decide) (hversions _),
    serverHelloExtensionLoop_step (by decide) (by simp) (by decide) (hshare _), ReadLoop.run_nil]
  rfl

theorem length_serverHelloBody (clientHello : ClientHello) (random : ByteArrayN 32) (extensions : Bytes) :
    (serverHelloBody clientHello random extensions).length =
      40 + clientHello.legacySessionId.length + extensions.length := by
  simp only [serverHelloBody, List.length_append, List.length_cons, length_beBytes, Vector.length_toList]
  omega

theorem buildTls13ServerHello_isOk {clientHello : ClientHello} (hsession : clientHello.legacySessionId.length ≤ 32)
    (random : ByteArrayN 32) (serverKeyShare : ByteArrayN 65) :
    ∃ message, buildTls13ServerHello clientHello random serverKeyShare = .ok message := by
  refine ⟨_, encodeHandshakeMessage_eq ?_⟩
  rw [← serverHelloExtensions, length_serverHelloBody, length_serverHelloExtensions, tlsUint24Max]
  omega

theorem buildTls13HelloRetryRequest_isOk {clientHello : ClientHello}
    (hsession : clientHello.legacySessionId.length ≤ 32) :
    ∃ message, buildTls13HelloRetryRequest clientHello = .ok message := by
  have hextensions : (tlsExtensions [(extensionSupportedVersions, beBytes 2 tlsVersion13),
      (extensionKeyShare, beBytes 2 tlsGroupSecp256r1)]).length = 12 := by decide
  refine ⟨_, encodeHandshakeMessage_eq ?_⟩
  rw [length_serverHelloBody, hextensions, tlsUint24Max]
  omega

/-- A ServerHello with any random value but the one that marks a HelloRetryRequest. -/
theorem parseTls13ServerHello_build {clientHello : ClientHello} (hsession : clientHello.legacySessionId.length ≤ 32)
    {random : ByteArrayN 32} (hrandom : random ≠ tls13HelloRetryRequestRandom) (serverKeyShare : ByteArrayN 65) :
    ∃ message, buildTls13ServerHello clientHello random serverKeyShare = .ok message ∧
      parseTls13ServerHello message = .ok ⟨clientHello.legacySessionId, serverKeyShare.toList⟩ := by
  have hloop := serverHelloExtensionLoop_build serverKeyShare
  have hextensions := length_serverHelloExtensions serverKeyShare
  rw [buildTls13ServerHello]
  rw [← serverHelloExtensions]
  generalize serverHelloExtensions serverKeyShare = extensions at hloop hextensions
  have hlength : (serverHelloBody clientHello random extensions).length ≤ tlsUint24Max := by
    rw [length_serverHelloBody, hextensions, tlsUint24Max]
    omega
  have hdeclared := @declaredLength_alone handshakeTypeServerHello _ hlength
  have hblock : readVectorU16 "ServerHello extensions" (beBytes 2 extensions.length ++ extensions) =
      .ok (extensions, []) := readVectorU16_eq_ok.2 ⟨by rw [hextensions]; decide, by rw [List.append_nil]⟩
  have hnotRetry : random.toList ≠ tls13HelloRetryRequestRandom.toList := fun heq => hrandom (array_ext heq)
  refine ⟨_, encodeHandshakeMessage_eq hlength, ?_⟩
  rw [parseTls13ServerHello, ensure_of (by rw [length_handshakeMessage]; omega), ok_bind]
  simp only [headD_handshakeMessage, ensure_of, ok_bind, hdeclared, drop_handshakeMessage]
  rw [serverHelloBody]
  simp only [serverHelloRead, readU16_append (show tlsLegacyRecordVersion < 256 ^ 2 by decide),
    readU16_append (show tlsChacha20Poly1305Sha256 < 256 ^ 2 by decide), readExact_append random.length_toList,
    readVectorU8_cons (Nat.lt_of_le_of_lt hsession (by decide)), readU8_eq_ok.2 rfl, hblock, finish_nil, mapErr_ok, ok_bind,
    ensure_of hnotRetry, ensure_of hsession, hloop, okOr, pure_eq_ok]
  rfl

end BareProxy.Tls
