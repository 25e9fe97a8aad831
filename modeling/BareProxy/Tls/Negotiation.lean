import BareProxy.Tls.KeySchedule
import BareProxy.Tls.RecordProtection
import BareProxy.Tls.ServerHello

/-!
# Negotiation

The first flight of the server side of `tls.rs`: from a ClientHello, or from a second one after a
HelloRetryRequest, to a ServerHello and the encrypted EncryptedExtensions.

The bytes of the operating system's random source are an input: a list with one entry for each call of
`fill_random`. A function that asks for more than the list holds has no result.
-/

namespace BareProxy.Tls

open P256 Crypto

/-- What one call of `fill_random` for 32 bytes does. -/
abbrev RandomDraw := Except IoError (ByteArrayN 32)

/-- Draws are rejected until one is a scalar in range, which is never zero. -/
def generateEphemeralP256PrivateKey :
    List RandomDraw → Option (Except IoError { key : Scalar // key ≠ .zero } × List RandomDraw)
  | [] => none
  | .error error :: draws => some (.error error, draws)
  | .ok candidateBytes :: draws =>
      let candidate := Uint256.fromBeBytes candidateBytes
      if h : candidate ≠ .zero ∧ candidate.cmp p256GroupOrder = .lt then
        some (.ok ⟨⟨candidate, Uint256.cmp_eq_lt.mp h.2⟩, P256Signature.scalar_ne_zero h.1⟩, draws)
      else
        generateEphemeralP256PrivateKey draws

/-! ### The flight -/

structure Tls13ServerHelloFlight where
  serverHello : Bytes
  serverKeyShare : ByteArrayN 65
  encryptedExtensions : Bytes
  encryptedExtensionsRecord : TlsCiphertextRecord
  negotiatedAlpn : Option Bytes
  clientHandshakeTrafficSecret : ByteArrayN 32
  serverHandshakeTrafficSecret : ByteArrayN 32
  mainSecret : ByteArrayN 32
  transcript : TlsTranscript
  handshakeRecordProtection : Tls13RecordProtection
  serverAuthenticationStarted : Bool

def validateTls13ServerClientHello (clientHello : ClientHello) : Except TlsServerHandshakeError Unit := do
  ensure clientHello.offersChacha20Poly1305Sha256 .unsupportedCipherSuite
  ensure clientHello.supportsSecp256r1 .unsupportedGroup
  ensure clientHello.supportsEcdsaSecp256r1Sha256 .unsupportedSignatureAlgorithm

/-- The key of the client. -/
def clientKeyShare (clientHello : ClientHello) : Except TlsServerHandshakeError P256Point := do
  let encodedClientKeyShare ← okOr (.helloRetryRequired tlsGroupSecp256r1) clientHello.secp256r1KeyShare
  mapErr .invalidP256KeyShare (P256Point.fromSec1Uncompressed encodedClientKeyShare)

/-- The key share of the server and the secret that both sides share. -/
def serverKeyExchange (serverPrivateKey : Scalar) (clientPublicKey : P256Point) :
    Except TlsServerHandshakeError (ByteArrayN 65 × ByteArrayN 32) := do
  let serverPublicKey := p256GeneratorMultiply serverPrivateKey
  let serverKeyShare ← mapErr .serverPublicKey serverPublicKey.toSec1Uncompressed
  let sharedSecret ← mapErr .ecdh (p256Ecdh serverPrivateKey clientPublicKey)
  return (serverKeyShare, sharedSecret)

/-- What follows once the keys are exchanged and the random bytes of the server are drawn. -/
def answerClientHello (clientHelloMessage : Bytes) (clientHello : ClientHello) (transcript : TlsTranscript)
    (serverKeyShare : ByteArrayN 65) (sharedSecret : ByteArrayN 32) (serverRandom : RandomDraw) :
    Except TlsServerHandshakeError Tls13ServerHelloFlight := do
  let serverRandom ← mapErr .random serverRandom
  let serverHello ← buildTls13ServerHello clientHello serverRandom serverKeyShare
  let transcript := transcript.updateHandshakeMessage clientHelloMessage
  let transcript := transcript.updateHandshakeMessage serverHello
  let helloTranscriptHash := transcript.hash
  let keySchedule ← mapErr .keySchedule (deriveTls13HandshakeKeySchedule sharedSecret helloTranscriptHash)
  let handshakeRecordProtection := Tls13RecordProtection.new keySchedule.serverKey keySchedule.serverIv
    keySchedule.clientKey keySchedule.clientIv
  let (encryptedExtensions, negotiatedAlpn) ← buildTls13EncryptedExtensions clientHello
  let encryptedExtensionsPlaintext ←
    mapErr .recordProtection (TlsPlaintextRecord.new .handshake encryptedExtensions)
  let (encrypted, handshakeRecordProtection) :=
    handshakeRecordProtection.encryptRecord encryptedExtensionsPlaintext 0
  let encryptedExtensionsRecord ← mapErr .recordProtection encrypted
  let transcript := transcript.updateHandshakeMessage encryptedExtensions
  return {
    serverHello, serverKeyShare, encryptedExtensions, encryptedExtensionsRecord, negotiatedAlpn
    clientHandshakeTrafficSecret := keySchedule.clientHandshakeTrafficSecret
    serverHandshakeTrafficSecret := keySchedule.serverHandshakeTrafficSecret
    mainSecret := keySchedule.mainSecret
    transcript, handshakeRecordProtection
    serverAuthenticationStarted := false }

def negotiateTls13ServerHelloFromClientHello (draws : List RandomDraw) (clientHelloMessage : Bytes)
    (clientHello : ClientHello) (transcript : TlsTranscript) :
    Option (Except TlsServerHandshakeError Tls13ServerHelloFlight) :=
  match clientKeyShare clientHello with
  | .error error => some (.error error)
  | .ok clientPublicKey =>
      match generateEphemeralP256PrivateKey draws with
      | none => none
      | some (.error error, _) => some (.error (.random error))
      | some (.ok serverPrivateKey, draws) =>
          match serverKeyExchange serverPrivateKey.1 clientPublicKey with
          | .error error => some (.error error)
          | .ok (serverKeyShare, sharedSecret) =>
              match draws with
              | [] => none
              | serverRandom :: _ =>
                  some (answerClientHello clientHelloMessage clientHello transcript serverKeyShare sharedSecret
                    serverRandom)

/-- The two checks that every ClientHello goes through. -/
def acceptClientHello (clientHelloMessage : Bytes) : Except TlsServerHandshakeError ClientHello := do
  let clientHello ← mapErr .clientHello (parseClientHello clientHelloMessage)
  validateTls13ServerClientHello clientHello
  return clientHello

def negotiateTls13ServerHello (draws : List RandomDraw) (clientHelloMessage : Bytes) :
    Option (Except TlsServerHandshakeError Tls13ServerHelloFlight) :=
  match acceptClientHello clientHelloMessage with
  | .error error => some (.error error)
  | .ok clientHello => negotiateTls13ServerHelloFromClientHello draws clientHelloMessage clientHello .new

/-! ### HelloRetryRequest -/

structure Tls13HelloRetryFlight where
  helloRetryRequest : Bytes
  clientHello : ClientHello
  transcript : TlsTranscript

inductive Tls13ServerFirstFlight
  | serverHello (flight : Tls13ServerHelloFlight)
  | helloRetry (flight : Tls13HelloRetryFlight)

/-- The flight that asks for another key share. -/
def helloRetryFlight (clientHelloMessage : Bytes) (clientHello : ClientHello) :
    Except TlsServerHandshakeError Tls13HelloRetryFlight := do
  let helloRetryRequest ← buildTls13HelloRetryRequest clientHello
  let transcript ← TlsTranscript.afterHelloRetry clientHelloMessage helloRetryRequest
  return { helloRetryRequest, clientHello, transcript }

def negotiateTls13ServerFirstFlight (draws : List RandomDraw) (clientHelloMessage : Bytes) :
    Option (Except TlsServerHandshakeError Tls13ServerFirstFlight) :=
  match acceptClientHello clientHelloMessage with
  | .error error => some (.error error)
  | .ok clientHello =>
      if clientHello.secp256r1KeyShare.isSome then
        (negotiateTls13ServerHelloFromClientHello draws clientHelloMessage clientHello .new).map
          (Except.map .serverHello)
      else
        some ((helloRetryFlight clientHelloMessage clientHello).map .helloRetry)

def retryInvariantExtensions (clientHello : ClientHello) : List (Nat × Bytes) :=
  clientHello.rawExtensions.filter fun (extensionType, _) =>
    extensionType ∉ [extensionKeyShare, extensionPadding, extensionPreSharedKey, extensionEarlyData]

def validateRetryClientHello (original retry : ClientHello) : Except TlsServerHandshakeError Unit := do
  ensure (original.random = retry.random ∧ original.legacySessionId = retry.legacySessionId ∧
    original.cipherSuites = retry.cipherSuites) .invalidRetryClientHello
  ensure (original.preSharedKeyPresent ∨ ¬retry.preSharedKeyPresent) .invalidRetryClientHello
  ensure (¬retry.hasExtension extensionEarlyData ∧ ¬retry.hasExtension extensionCookie) .invalidRetryClientHello
  ensure (retry.keyShares.map TlsKeyShareEntry.group = [tlsGroupSecp256r1]) .invalidRetryKeyShare
  ensure (retryInvariantExtensions original = retryInvariantExtensions retry) .invalidRetryClientHello

def Tls13HelloRetryFlight.continueWithClientHello (flight : Tls13HelloRetryFlight) (draws : List RandomDraw)
    (clientHelloMessage : Bytes) : Option (Except TlsServerHandshakeError Tls13ServerHelloFlight) :=
  match acceptClientHello clientHelloMessage with
  | .error error => some (.error error)
  | .ok clientHello =>
      match validateRetryClientHello flight.clientHello clientHello with
      | .error error => some (.error error)
      | .ok () => negotiateTls13ServerHelloFromClientHello draws clientHelloMessage clientHello flight.transcript

/-! ### What negotiation hands out -/

/-- A flight that answers a ClientHello: what was sent, hashed and encrypted, and under which keys. -/
structure Tls13ServerHelloFlight.Answers (flight : Tls13ServerHelloFlight) (clientHelloMessage : Bytes)
    (clientHello : ClientHello) (transcript : TlsTranscript) (serverKeyShare : ByteArrayN 65)
    (sharedSecret serverRandom : ByteArrayN 32) (keySchedule : Tls13HandshakeKeySchedule) : Prop where
  serverHello_eq : buildTls13ServerHello clientHello serverRandom serverKeyShare = .ok flight.serverHello
  serverKeyShare_eq : flight.serverKeyShare = serverKeyShare
  keySchedule_eq :
    deriveTls13HandshakeKeySchedule sharedSecret
      ((transcript.updateHandshakeMessage clientHelloMessage).updateHandshakeMessage flight.serverHello).hash =
        .ok keySchedule
  encryptedExtensions_eq :
    buildTls13EncryptedExtensions clientHello = .ok (flight.encryptedExtensions, flight.negotiatedAlpn)
  encryptedExtensionsRecord_eq :
    (Tls13RecordProtection.new keySchedule.serverKey keySchedule.serverIv keySchedule.clientKey
      keySchedule.clientIv).encryptRecord ⟨.handshake, tlsLegacyRecordVersion, flight.encryptedExtensions⟩ 0 =
        (.ok flight.encryptedExtensionsRecord, flight.handshakeRecordProtection)
  clientHandshakeTrafficSecret_eq : flight.clientHandshakeTrafficSecret = keySchedule.clientHandshakeTrafficSecret
  serverHandshakeTrafficSecret_eq : flight.serverHandshakeTrafficSecret = keySchedule.serverHandshakeTrafficSecret
  mainSecret_eq : flight.mainSecret = keySchedule.mainSecret
  transcript_eq : flight.transcript =
    ((transcript.updateHandshakeMessage clientHelloMessage).updateHandshakeMessage
      flight.serverHello).updateHandshakeMessage flight.encryptedExtensions
  notStarted : flight.serverAuthenticationStarted = false

theorem answerClientHello_ok {clientHelloMessage : Bytes} {clientHello : ClientHello} {transcript : TlsTranscript}
    {serverKeyShare : ByteArrayN 65} {sharedSecret : ByteArrayN 32} {serverRandom : RandomDraw}
    {flight : Tls13ServerHelloFlight}
    (h : answerClientHello clientHelloMessage clientHello transcript serverKeyShare sharedSecret serverRandom =
      .ok flight) :
    ∃ random keySchedule, serverRandom = .ok random ∧
      flight.Answers clientHelloMessage clientHello transcript serverKeyShare sharedSecret random keySchedule := by
  obtain ⟨random, hrandom, h⟩ := bind_eq_ok.1 h
  obtain ⟨serverHello, hserverHello, h⟩ := bind_eq_ok.1 h
  obtain ⟨keySchedule, hkeySchedule, h⟩ := bind_eq_ok.1 h
  obtain ⟨⟨encryptedExtensions, negotiatedAlpn⟩, hextensions, h⟩ := bind_eq_ok.1 h
  obtain ⟨plaintext, hplaintext, h⟩ := bind_eq_ok.1 h
  obtain ⟨-, rfl⟩ := TlsPlaintextRecord.new_eq_ok.1 (mapErr_eq_ok.1 hplaintext)
  obtain ⟨record, hrecord, h⟩ := bind_eq_ok.1 h
  cases h
  refine ⟨random, keySchedule, mapErr_eq_ok.1 hrandom, hserverHello, rfl, mapErr_eq_ok.1 hkeySchedule, hextensions, ?_,
    rfl, rfl, rfl, rfl, rfl⟩
  exact Prod.ext (mapErr_eq_ok.1 hrecord) rfl

theorem negotiateTls13ServerHelloFromClientHello_ok {draws : List RandomDraw} {clientHelloMessage : Bytes}
    {clientHello : ClientHello} {transcript : TlsTranscript} {flight : Tls13ServerHelloFlight}
    (h : negotiateTls13ServerHelloFromClientHello draws clientHelloMessage clientHello transcript =
      some (.ok flight)) :
    ∃ serverKeyShare sharedSecret serverRandom keySchedule,
      flight.Answers clientHelloMessage clientHello transcript serverKeyShare sharedSecret serverRandom
        keySchedule := by
  rw [negotiateTls13ServerHelloFromClientHello] at h
  repeat' split at h
  all_goals try cases h
  obtain ⟨random, keySchedule, -, hanswers⟩ := answerClientHello_ok (Option.some.inj h)
  exact ⟨_, _, random, keySchedule, hanswers⟩

/-- The record of EncryptedExtensions is the only use of the handshake keys so far. -/
theorem Tls13ServerHelloFlight.Answers.protection_eq {flight : Tls13ServerHelloFlight} {clientHelloMessage : Bytes}
    {clientHello : ClientHello} {transcript : TlsTranscript} {serverKeyShare : ByteArrayN 65}
    {sharedSecret serverRandom : ByteArrayN 32} {keySchedule : Tls13HandshakeKeySchedule}
    (h : flight.Answers clientHelloMessage clientHello transcript serverKeyShare sharedSecret serverRandom
      keySchedule) :
    flight.handshakeRecordProtection = ⟨keySchedule.serverKey, keySchedule.serverIv, keySchedule.clientKey,
      keySchedule.clientIv, sequenceAt 1, sequenceAt 0⟩ := by
  obtain ⟨sequenceNumber, _, _, _, hsequence, -, -, -, hnext⟩ :=
    Tls13RecordProtection.encryptRecord_ok h.encryptedExtensionsRecord_eq
  cases hsequence
  rw [hnext]
  rfl

/-- Every nonzero scalar may be drawn. -/
theorem generateEphemeralP256PrivateKey_toBeBytes (key : Scalar) (h : key ≠ .zero) (draws : List RandomDraw) :
    generateEphemeralP256PrivateKey (.ok key.value.toBeBytes :: draws) = some (.ok ⟨key, h⟩, draws) := by
  have hnonzero : key.value ≠ .zero := by
    intro hzero
    apply h
    rw [← Residue.toZMod_inj, Residue.toZMod, hzero]
    exact Nat.cast_zero
  have hlt : key.value.cmp p256GroupOrder = .lt := Uint256.cmp_eq_lt.mpr key.value_lt
  rw [generateEphemeralP256PrivateKey]
  simp only [Uint256.fromBeBytes_toBeBytes, hnonzero, hlt, ne_eq, not_false_eq_true, and_self, dite_true]

/-- The answer goes out unless the client asks for other protocols only. -/
theorem answerClientHello_isOk {clientHello : ClientHello} {encryptedExtensions : Bytes} {negotiatedAlpn : Option Bytes}
    (hsession : clientHello.legacySessionId.length ≤ 32)
    (hextensions : buildTls13EncryptedExtensions clientHello = .ok (encryptedExtensions, negotiatedAlpn))
    (clientHelloMessage : Bytes) (transcript : TlsTranscript) (serverKeyShare : ByteArrayN 65)
    (sharedSecret serverRandom : ByteArrayN 32) :
    ∃ flight, answerClientHello clientHelloMessage clientHello transcript serverKeyShare sharedSecret
      (.ok serverRandom) = .ok flight := by
  obtain ⟨serverHello, hserverHello⟩ := buildTls13ServerHello_isOk hsession serverRandom serverKeyShare
  obtain ⟨keySchedule, hkeySchedule⟩ := deriveTls13HandshakeKeySchedule_isOk sharedSecret
    ((transcript.updateHandshakeMessage clientHelloMessage).updateHandshakeMessage serverHello).hash
  have hlength := length_encryptedExtensions hextensions
  have hvalid := validatePlaintextFragment_handshake.2 hlength
  have hplaintext := TlsPlaintextRecord.new_eq_ok.2 ⟨hvalid, rfl⟩
  obtain ⟨record, hrecord⟩ := @Tls13RecordProtection.encryptRecord_isOk
    (.new keySchedule.serverKey keySchedule.serverIv keySchedule.clientKey keySchedule.clientIv)
    ⟨.handshake, tlsLegacyRecordVersion, encryptedExtensions⟩ 0 0 rfl hvalid ContentType.noConfusion
    (Nat.add_le_add_right hlength.2 1)
  rw [answerClientHello]
  simp only [mapErr_ok, ok_bind, hserverHello, hkeySchedule, hextensions, hplaintext, hrecord, pure_eq_ok]
  exact ⟨_, rfl⟩

/-! ### The three ways to a flight -/

theorem negotiateTls13ServerHello_ok {draws : List RandomDraw} {clientHelloMessage : Bytes}
    {flight : Tls13ServerHelloFlight} (h : negotiateTls13ServerHello draws clientHelloMessage = some (.ok flight)) :
    ∃ clientHello, acceptClientHello clientHelloMessage = .ok clientHello ∧
      negotiateTls13ServerHelloFromClientHello draws clientHelloMessage clientHello .new = some (.ok flight) := by
  rw [negotiateTls13ServerHello] at h
  split at h
  · cases h
  · rename_i clientHello haccept
    exact ⟨clientHello, haccept, h⟩

/-- The first flight answers a ClientHello with a usable key share and asks for one otherwise. -/
theorem negotiateTls13ServerFirstFlight_ok {draws : List RandomDraw} {clientHelloMessage : Bytes}
    {first : Tls13ServerFirstFlight}
    (h : negotiateTls13ServerFirstFlight draws clientHelloMessage = some (.ok first)) :
    ∃ clientHello, acceptClientHello clientHelloMessage = .ok clientHello ∧
      ((∃ flight, first = .serverHello flight ∧
          negotiateTls13ServerHelloFromClientHello draws clientHelloMessage clientHello .new = some (.ok flight)) ∨
        ∃ retry, first = .helloRetry retry ∧ clientHello.secp256r1KeyShare = none ∧
          helloRetryFlight clientHelloMessage clientHello = .ok retry) := by
  rw [negotiateTls13ServerFirstFlight] at h
  split at h
  · cases h
  · rename_i clientHello haccept
    refine ⟨clientHello, haccept, ?_⟩
    split at h
    · obtain ⟨result, hresult, hmap⟩ := Option.map_eq_some_iff.1 h
      cases result with
      | error error => cases hmap
      | ok flight =>
          cases hmap
          exact .inl ⟨flight, rfl, hresult⟩
    · rename_i hshare
      cases hretry : helloRetryFlight clientHelloMessage clientHello with
      | error error =>
          rw [hretry] at h
          cases h
      | ok retry =>
          rw [hretry] at h
          cases h
          exact .inr ⟨retry, rfl, by simpa using hshare, rfl⟩

theorem helloRetryFlight_ok {clientHelloMessage : Bytes} {clientHello : ClientHello} {retry : Tls13HelloRetryFlight}
    (h : helloRetryFlight clientHelloMessage clientHello = .ok retry) :
    retry.clientHello = clientHello ∧
      buildTls13HelloRetryRequest clientHello = .ok retry.helloRetryRequest ∧
      retry.transcript = .ofBytes (handshakeMessage handshakeTypeMessageHash (sha256 clientHelloMessage).toList ++
        retry.helloRetryRequest) := by
  obtain ⟨helloRetryRequest, hbuild, h⟩ := bind_eq_ok.1 h
  rw [TlsTranscript.afterHelloRetry_eq, ok_bind] at h
  cases h
  exact ⟨rfl, hbuild, rfl⟩

theorem continueWithClientHello_ok {retry : Tls13HelloRetryFlight} {draws : List RandomDraw}
    {clientHelloMessage : Bytes} {flight : Tls13ServerHelloFlight}
    (h : retry.continueWithClientHello draws clientHelloMessage = some (.ok flight)) :
    ∃ clientHello, acceptClientHello clientHelloMessage = .ok clientHello ∧
      validateRetryClientHello retry.clientHello clientHello = .ok () ∧
      negotiateTls13ServerHelloFromClientHello draws clientHelloMessage clientHello retry.transcript =
        some (.ok flight) := by
  rw [Tls13HelloRetryFlight.continueWithClientHello] at h
  split at h
  · cases h
  · rename_i clientHello haccept
    split at h
    · cases h
    · rename_i hvalid
      exact ⟨clientHello, haccept, hvalid, h⟩

/-- A flight from negotiation, and the messages that its transcript starts with: the ClientHello, or what stands
for a first ClientHello, the HelloRetryRequest and the second ClientHello. -/
inductive Negotiated : Tls13ServerHelloFlight → Bytes → Prop
  | serverHello {draws : List RandomDraw} {clientHelloMessage : Bytes} {flight : Tls13ServerHelloFlight}
      (h : negotiateTls13ServerHello draws clientHelloMessage = some (.ok flight)) :
      Negotiated flight clientHelloMessage
  | firstFlight {draws : List RandomDraw} {clientHelloMessage : Bytes} {flight : Tls13ServerHelloFlight}
      (h : negotiateTls13ServerFirstFlight draws clientHelloMessage = some (.ok (.serverHello flight))) :
      Negotiated flight clientHelloMessage
  | helloRetry {draws draws' : List RandomDraw} {clientHelloMessage clientHelloMessage' : Bytes}
      {retry : Tls13HelloRetryFlight} {flight : Tls13ServerHelloFlight}
      (hretry : negotiateTls13ServerFirstFlight draws clientHelloMessage = some (.ok (.helloRetry retry)))
      (h : retry.continueWithClientHello draws' clientHelloMessage' = some (.ok flight)) :
      Negotiated flight (handshakeMessage handshakeTypeMessageHash (sha256 clientHelloMessage).toList ++
        retry.helloRetryRequest ++ clientHelloMessage')

/-- Each of the ways ends in an answer to a ClientHello. -/
theorem Negotiated.answers {flight : Tls13ServerHelloFlight} {hellos : Bytes} (h : Negotiated flight hellos) :
    ∃ clientHelloMessage clientHello transcript serverKeyShare sharedSecret serverRandom keySchedule,
      transcript.updateHandshakeMessage clientHelloMessage = .ofBytes hellos ∧
      flight.Answers clientHelloMessage clientHello transcript serverKeyShare sharedSecret serverRandom
        keySchedule := by
  cases h with
  | serverHello h =>
      obtain ⟨clientHello, -, hnegotiate⟩ := negotiateTls13ServerHello_ok h
      obtain ⟨_, _, _, _, hanswers⟩ := negotiateTls13ServerHelloFromClientHello_ok hnegotiate
      exact ⟨_, _, _, _, _, _, _, TlsTranscript.updateHandshakeMessage_new _, hanswers⟩
  | firstFlight h =>
      obtain ⟨clientHello, -, ⟨found, hfound, hnegotiate⟩ | ⟨retry, hretry, -⟩⟩ :=
        negotiateTls13ServerFirstFlight_ok h
      · cases hfound
        obtain ⟨_, _, _, _, hanswers⟩ := negotiateTls13ServerHelloFromClientHello_ok hnegotiate
        exact ⟨_, _, _, _, _, _, _, TlsTranscript.updateHandshakeMessage_new _, hanswers⟩
      · cases hretry
  | helloRetry hretry h =>
      obtain ⟨clientHello, -, ⟨found, hfound, -⟩ | ⟨retry, hfound, -, hflight⟩⟩ :=
        negotiateTls13ServerFirstFlight_ok hretry
      · cases hfound
      · cases hfound
        obtain ⟨-, -, htranscript⟩ := helloRetryFlight_ok hflight
        obtain ⟨clientHello', -, -, hnegotiate⟩ := continueWithClientHello_ok h
        obtain ⟨_, _, _, _, hanswers⟩ := negotiateTls13ServerHelloFromClientHello_ok hnegotiate
        refine ⟨_, _, _, _, _, _, _, ?_, hanswers⟩
        rw [htranscript, TlsTranscript.updateHandshakeMessage_ofBytes]

/-- The transcript of a flight is what was sent before it and in it. -/
theorem transcript_of_negotiated {flight : Tls13ServerHelloFlight} {hellos : Bytes} (hnegotiated : Negotiated flight hellos) :
    flight.transcript = .ofBytes (hellos ++ flight.serverHello ++ flight.encryptedExtensions) := by
  obtain ⟨_, _, _, _, _, _, _, htranscript, hanswers⟩ := hnegotiated.answers
  rw [hanswers.transcript_eq, htranscript, TlsTranscript.updateHandshakeMessage_ofBytes,
    TlsTranscript.updateHandshakeMessage_ofBytes]

end BareProxy.Tls
