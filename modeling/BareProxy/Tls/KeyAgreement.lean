import BareProxy.Tls.ClientFlight

/-!
# Agreement on the handshake keys

A client and a server of `tls.rs` that talk to each other: the server takes the ClientHello that the client
built, the client takes the answer, and both hold the same secrets.
-/

namespace BareProxy.Tls

open P256 Crypto

/-- The ClientHello for a key whose public part has this encoding. -/
theorem buildTls13ClientHello_eq {serverName : Bytes} {privateKey : Scalar} {publicKey : ByteArrayN 65}
    (hname : isValidServerName serverName = true) (hkey : privateKey ≠ .zero)
    (hpublic : (p256GeneratorMultiply privateKey).toSec1Uncompressed = .ok publicKey) (random : ByteArrayN 32) :
    buildTls13ClientHello serverName random privateKey =
      .ok (handshakeMessage handshakeTypeClientHello
        (clientHelloBody random (tlsExtensions (clientHelloExtensions serverName publicKey)))) := by
  rw [buildTls13ClientHello, ensure_of hname, ok_bind, ensure_of hkey, ok_bind, hpublic, mapErr_ok, ok_bind,
    pure_eq_ok]

/-- What the client starts from. -/
theorem Tls13ClientHelloFlight.new_eq {serverName message : Bytes} {random : ByteArrayN 32}
    {privateKey : { key : Scalar // key ≠ .zero }} {draws rest : List RandomDraw}
    (hname : isValidServerName serverName = true)
    (hdraws : generateEphemeralP256PrivateKey draws = some (.ok privateKey, rest))
    (hmessage : buildTls13ClientHello serverName random privateKey.1 = .ok message) :
    Tls13ClientHelloFlight.new (.ok random :: draws) serverName =
      some (.ok ⟨message, privateKey.1, .ofBytes message⟩) := by
  rw [Tls13ClientHelloFlight.new, hname]
  simp only [hdraws, ofRandom, hmessage, mapErr_ok, ok_bind, TlsTranscript.updateHandshakeMessage_new, pure_eq_ok]
  rfl

/-- The server answers what the client built, whatever came before it. -/
theorem negotiateFromClientHello_build {serverName : Bytes} {clientKey : Scalar}
    {serverKey : { key : Scalar // key ≠ .zero }} {publicKey : ByteArrayN 65} {clientRandom serverRandom : ByteArrayN 32}
    {draws rest : List RandomDraw} (hclient : clientKey ≠ .zero)
    (hpublic : P256Point.fromSec1Uncompressed publicKey.toList = .ok (p256GeneratorMultiply clientKey))
    (hdraws : generateEphemeralP256PrivateKey draws = some (.ok serverKey, .ok serverRandom :: rest))
    (message : Bytes) (transcript : TlsTranscript) :
    ∃ flight serverKeyShare sharedSecret keySchedule,
      (p256GeneratorMultiply serverKey.1).toSec1Uncompressed = .ok serverKeyShare ∧
      p256Ecdh serverKey.1 (p256GeneratorMultiply clientKey) = .ok sharedSecret ∧
      negotiateTls13ServerHelloFromClientHello draws message (builtClientHello serverName clientRandom publicKey)
        transcript = some (.ok flight) ∧
      flight.negotiatedAlpn = some alpnHttp11 ∧
      flight.Answers message (builtClientHello serverName clientRandom publicKey) transcript serverKeyShare sharedSecret
        serverRandom keySchedule := by
  obtain ⟨serverKeyShare, hserverKeyShare, -⟩ := fromSec1Uncompressed_generatorMultiply serverKey.2
  obtain ⟨sharedSecret, hsharedSecret, -⟩ := p256Ecdh_comm serverKey.2 hclient
  have hshare : clientKeyShare (builtClientHello serverName clientRandom publicKey) =
      .ok (p256GeneratorMultiply clientKey) := by
    have hfound : (builtClientHello serverName clientRandom publicKey).secp256r1KeyShare = some publicKey.toList := rfl
    rw [clientKeyShare, hfound, okOr, ok_bind, hpublic, mapErr_ok]
  have hexchange : serverKeyExchange serverKey.1 (p256GeneratorMultiply clientKey) =
      .ok (serverKeyShare, sharedSecret) := by
    rw [serverKeyExchange]
    simp only [hserverKeyShare, hsharedSecret, mapErr_ok, ok_bind, pure_eq_ok]
  have halpn : ∃ extensions, negotiateAlpn (builtClientHello serverName clientRandom publicKey) =
      .ok (extensions, some alpnHttp11) := ⟨_, if_pos rfl⟩
  obtain ⟨extensions, halpn⟩ := halpn
  have hextensions := buildTls13EncryptedExtensions_eq_ok.2 ⟨extensions, halpn, rfl⟩
  obtain ⟨flight, hflight⟩ := answerClientHello_isOk
    (show (builtClientHello serverName clientRandom publicKey).legacySessionId.length ≤ 32 from Nat.zero_le _)
    hextensions message transcript serverKeyShare sharedSecret serverRandom
  obtain ⟨random, keySchedule, hrandom, hanswers⟩ := answerClientHello_ok hflight
  cases hrandom
  have hagreed := hanswers.encryptedExtensions_eq
  rw [hextensions] at hagreed
  refine ⟨flight, serverKeyShare, sharedSecret, keySchedule, hserverKeyShare, hsharedSecret, ?_, ?_, hanswers⟩
  · simp only [negotiateTls13ServerHelloFromClientHello, hshare, hdraws, hexchange, hflight]
  · exact (Prod.ext_iff.1 (Except.ok.inj hagreed)).2.symm

/-- The server answers the ClientHello of the client. -/
theorem negotiate_build {serverName : Bytes} {clientKey : Scalar} {serverKey : { key : Scalar // key ≠ .zero }}
    {publicKey : ByteArrayN 65} {clientRandom serverRandom : ByteArrayN 32} {draws rest : List RandomDraw}
    {message : Bytes}
    (hclient : clientKey ≠ .zero)
    (hpublic : P256Point.fromSec1Uncompressed publicKey.toList = .ok (p256GeneratorMultiply clientKey))
    (hdraws : generateEphemeralP256PrivateKey draws = some (.ok serverKey, .ok serverRandom :: rest))
    (haccept : acceptClientHello message = .ok (builtClientHello serverName clientRandom publicKey)) :
    ∃ flight serverKeyShare sharedSecret keySchedule,
      (p256GeneratorMultiply serverKey.1).toSec1Uncompressed = .ok serverKeyShare ∧
      p256Ecdh serverKey.1 (p256GeneratorMultiply clientKey) = .ok sharedSecret ∧
      negotiateTls13ServerHello draws message = some (.ok flight) ∧
      negotiateTls13ServerFirstFlight draws message = some (.ok (.serverHello flight)) ∧
      flight.negotiatedAlpn = some alpnHttp11 ∧
      flight.Answers message (builtClientHello serverName clientRandom publicKey) .new serverKeyShare sharedSecret
        serverRandom keySchedule := by
  obtain ⟨flight, serverKeyShare, sharedSecret, keySchedule, hshare, hsecret, hnegotiate, halpn, hanswers⟩ :=
    negotiateFromClientHello_build hclient hpublic hdraws message .new
  have hsome : (builtClientHello serverName clientRandom publicKey).secp256r1KeyShare.isSome = true := rfl
  refine ⟨flight, serverKeyShare, sharedSecret, keySchedule, hshare, hsecret, ?_, ?_, halpn, hanswers⟩
  · simp only [negotiateTls13ServerHello, haccept, hnegotiate]
  · simp only [negotiateTls13ServerFirstFlight, haccept, hsome, if_true, hnegotiate]
    rfl

/-- The client takes the answer and derives the keys of the server. -/
theorem receiveServerHello_answer {message : Bytes} {clientHello : ClientHello} {clientKey serverKey : Scalar}
    {flight : Tls13ServerHelloFlight} {serverKeyShare : ByteArrayN 65} {sharedSecret serverRandom : ByteArrayN 32}
    {keySchedule : Tls13HandshakeKeySchedule} (hsession : clientHello.legacySessionId = [])
    (hrandom : serverRandom ≠ tls13HelloRetryRequestRandom)
    (hshare : P256Point.fromSec1Uncompressed serverKeyShare.toList = .ok (p256GeneratorMultiply serverKey))
    (hsecret : p256Ecdh clientKey (p256GeneratorMultiply serverKey) = .ok sharedSecret)
    (hanswers : flight.Answers message clientHello .new serverKeyShare sharedSecret serverRandom keySchedule) :
    Tls13ClientHelloFlight.receiveServerHello ⟨message, clientKey, .ofBytes message⟩ flight.serverHello =
      .ok ⟨keySchedule.clientHandshakeTrafficSecret, keySchedule.serverHandshakeTrafficSecret, keySchedule.mainSecret,
        (TlsTranscript.ofBytes message).updateHandshakeMessage flight.serverHello,
        .new keySchedule.clientKey keySchedule.clientIv keySchedule.serverKey keySchedule.serverIv⟩ := by
  obtain ⟨serverHello, hbuild, hparse⟩ :=
    @parseTls13ServerHello_build clientHello (by rw [hsession]; decide) _ hrandom serverKeyShare
  rw [hanswers.serverHello_eq] at hbuild
  cases hbuild
  have hschedule := hanswers.keySchedule_eq
  rw [TlsTranscript.updateHandshakeMessage_new] at hschedule
  rw [Tls13ClientHelloFlight.receiveServerHello, hparse, ok_bind]
  simp only [ensure_of hsession, hshare, hsecret, hschedule, mapErr_ok, ok_bind, pure_eq_ok]

/-- EncryptedExtensions arrives at the client as it was sent. -/
theorem decryptServerHandshakeRecord_answer {message : Bytes} {clientHello : ClientHello} {transcript : TlsTranscript}
    {flight : Tls13ServerHelloFlight} {serverKeyShare : ByteArrayN 65} {sharedSecret serverRandom : ByteArrayN 32}
    {keySchedule : Tls13HandshakeKeySchedule} {state : Tls13ClientHandshakeState}
    (hanswers : flight.Answers message clientHello transcript serverKeyShare sharedSecret serverRandom keySchedule)
    (hprotection : state.handshakeRecordProtection =
      .new keySchedule.clientKey keySchedule.clientIv keySchedule.serverKey keySchedule.serverIv) :
    ∃ state', state.decryptServerHandshakeRecord flight.encryptedExtensionsRecord =
      (.ok ⟨.handshake, tlsLegacyRecordVersion, flight.encryptedExtensions⟩, state') := by
  have hdecrypt := @Tls13RecordProtection.decryptRecord_encryptRecord _ _ state.handshakeRecordProtection _ _ _
    (by rw [hprotection]; rfl) (by rw [hprotection]; rfl) (by rw [hprotection]; rfl) hanswers.encryptedExtensionsRecord_eq
  simp only [Tls13ClientHandshakeState.decryptServerHandshakeRecord, hdecrypt, ne_eq, not_true_eq_false, if_false]
  exact ⟨_, rfl⟩

/-- Client and server agree on the handshake keys, whatever the name, the random values and the keys that they draw. -/
theorem clientServer_agreement {serverName : Bytes} {clientRandom serverRandom : ByteArrayN 32}
    {clientKey serverKey : Scalar} (hname : isValidServerName serverName = true) (hclient : clientKey ≠ .zero)
    (hserver : serverKey ≠ .zero) (hrandom : serverRandom ≠ tls13HelloRetryRequestRandom)
    {clientDraws serverDraws clientRest serverRest : List RandomDraw}
    (hclientDraws : generateEphemeralP256PrivateKey clientDraws = some (.ok ⟨clientKey, hclient⟩, clientRest))
    (hserverDraws : generateEphemeralP256PrivateKey serverDraws =
      some (.ok ⟨serverKey, hserver⟩, .ok serverRandom :: serverRest)) :
    ∃ client clientHello flight state plaintext state',
      buildTls13ClientHello serverName clientRandom clientKey = .ok client.clientHello ∧
      Tls13ClientHelloFlight.new (.ok clientRandom :: clientDraws) serverName = some (.ok client) ∧
      parseClientHello client.clientHello = .ok clientHello ∧
      clientHello.serverName = some (toAsciiLowercase serverName) ∧
      negotiateTls13ServerHello serverDraws client.clientHello = some (.ok flight) ∧
      negotiateTls13ServerFirstFlight serverDraws client.clientHello = some (.ok (.serverHello flight)) ∧
      flight.negotiatedAlpn = some alpnHttp11 ∧
      client.receiveServerHello flight.serverHello = .ok state ∧
      state.clientHandshakeTrafficSecret = flight.clientHandshakeTrafficSecret ∧
      state.serverHandshakeTrafficSecret = flight.serverHandshakeTrafficSecret ∧
      state.mainSecret = flight.mainSecret ∧
      state.handshakeRecordProtection.readKey = flight.handshakeRecordProtection.writeKey ∧
      state.handshakeRecordProtection.readIv = flight.handshakeRecordProtection.writeIv ∧
      state.handshakeRecordProtection.writeKey = flight.handshakeRecordProtection.readKey ∧
      state.handshakeRecordProtection.writeIv = flight.handshakeRecordProtection.readIv ∧
      state.decryptServerHandshakeRecord flight.encryptedExtensionsRecord = (.ok plaintext, state') ∧
      plaintext.contentType = .handshake ∧ plaintext.fragment = flight.encryptedExtensions := by
  obtain ⟨publicKey, hencoded, hdecoded⟩ := fromSec1Uncompressed_generatorMultiply hclient
  have hmessage := buildTls13ClientHello_eq hname hclient hencoded clientRandom
  have hnew := Tls13ClientHelloFlight.new_eq hname hclientDraws hmessage
  have hparse := parseClientHello_build hname clientRandom publicKey
  have haccept := acceptClientHello_build hname clientRandom publicKey
  obtain ⟨flight, serverKeyShare, sharedSecret, keySchedule, hshare, hsecret, hdirect, hfirst, halpn, hanswers⟩ :=
    negotiate_build hclient hdecoded hserverDraws haccept
  obtain ⟨encoded, hencoded', hdecoded'⟩ := fromSec1Uncompressed_generatorMultiply hserver
  obtain rfl : serverKeyShare = encoded := Except.ok.inj (hshare.symm.trans hencoded')
  obtain ⟨secret, hsecret', hsecret''⟩ := p256Ecdh_comm hclient hserver
  obtain rfl : sharedSecret = secret := Except.ok.inj (hsecret.symm.trans hsecret'')
  have hreceive := receiveServerHello_answer rfl hrandom hdecoded' hsecret' hanswers
  obtain ⟨state', hdecrypt⟩ := @decryptServerHandshakeRecord_answer _ _ _ _ _ _ _ _ ⟨_, _, _, _, _⟩ hanswers rfl
  refine ⟨_, _, flight, _, _, state', hmessage, hnew, hparse, rfl, hdirect, hfirst, halpn, hreceive,
    hanswers.clientHandshakeTrafficSecret_eq.symm, hanswers.serverHandshakeTrafficSecret_eq.symm,
    hanswers.mainSecret_eq.symm, ?_, ?_, ?_, ?_, hdecrypt, rfl, rfl⟩
  all_goals rw [hanswers.protection_eq]; rfl

theorem isValidServerName_example : isValidServerName (ascii "Example.com") = true := by
  have hutf8 : validUtf8 (ascii "Example.com") = true := validUtf8_of_isAscii (by decide)
  rw [isValidServerName, if_neg (by decide), if_neg (by rw [hutf8]; decide), if_neg (by decide)]
  decide

theorem two_ne_zero_scalar : (.new (.fromLimbs 2 0 0 0) : Scalar) ≠ .zero := by
  rw [ne_eq, ← Residue.toZMod_eq_zero, Residue.toZMod_new, ZMod.natCast_eq_zero_iff]
  exact Nat.not_dvd_of_pos_of_lt (by decide) (by decide)

/-- Two sides that draw the keys one and two. -/
theorem clientServer_agreement_one_two :
    isValidServerName (ascii "Example.com") = true ∧
    ∃ client flight state,
      Tls13ClientHelloFlight.new [.ok (Vector.replicate 32 5), .ok (Residue.one : Scalar).value.toBeBytes]
        (ascii "Example.com") = some (.ok client) ∧
      negotiateTls13ServerHello
        [.ok (Residue.new (.fromLimbs 2 0 0 0) : Scalar).value.toBeBytes, .ok (Vector.replicate 32 7)]
        client.clientHello = some (.ok flight) ∧
      client.receiveServerHello flight.serverHello = .ok state ∧ state.mainSecret = flight.mainSecret := by
  obtain ⟨client, _, flight, state, _, _, -, hnew, -, -, hnegotiate, -, -, hreceive, -, -, hmain, -⟩ :=
    @clientServer_agreement _ (Vector.replicate 32 5) (Vector.replicate 32 7) .one _ isValidServerName_example
      (by decide) two_ne_zero_scalar (by decide) _ _ _ _
      (generateEphemeralP256PrivateKey_toBeBytes .one (by decide) [])
      (generateEphemeralP256PrivateKey_toBeBytes _ two_ne_zero_scalar [.ok (Vector.replicate 32 7)])
  exact ⟨isValidServerName_example, client, flight, state, hnew, hnegotiate, hreceive, hmain⟩

/-- There are flights from negotiation. -/
theorem exists_negotiated : ∃ flight hellos, Negotiated flight hellos := by
  obtain ⟨publicKey, -, hdecoded⟩ := fromSec1Uncompressed_generatorMultiply (show (.one : Scalar) ≠ .zero by decide)
  obtain ⟨flight, _, _, _, -, -, hnegotiate, -⟩ := negotiate_build (by decide) hdecoded
    (generateEphemeralP256PrivateKey_toBeBytes _ two_ne_zero_scalar [.ok (Vector.replicate 32 7)])
    (acceptClientHello_build isValidServerName_example (Vector.replicate 32 5) publicKey)
  exact ⟨flight, _, .serverHello hnegotiate⟩

end BareProxy.Tls
