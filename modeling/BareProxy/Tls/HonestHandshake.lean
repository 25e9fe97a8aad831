import BareProxy.Tls.HandshakeAgreement

/-!
# A client that follows the protocol

The client of `tls.rs` stops after the first protected record. A client that goes on as the protocol says opens the
whole flight of the server and answers with its Finished; the server then reaches a state for application data, and both
sides hold the same keys, each for the direction in which the other reads.
-/

namespace BareProxy.Tls

open P256 Crypto Reader Conversation

/-! ### The ClientHello in records -/

theorem validate_clientHello {serverName : Bytes} (hname : isValidServerName serverName = true)
    (random : ByteArrayN 32) (publicKey : ByteArrayN 65) :
    validatePlaintextFragment .handshake (handshakeMessage handshakeTypeClientHello
      (clientHelloBody random (tlsExtensions (clientHelloExtensions serverName publicKey)))) = .ok () := by
  have hlength := (isValidServerName_isAscii hname).2
  have hextensions : (tlsExtensions (clientHelloExtensions serverName publicKey)).length = serverName.length + 122 := by
    show (tlsExtensions (offeredExtensions serverName (beBytes 2 (2 + 2 + 65) ++
      (beBytes 2 tlsGroupSecp256r1 ++ (beBytes 2 65 ++ publicKey.toList))))).length = _
    rw [length_offeredExtensions]
    simp only [List.length_append, length_beBytes, Vector.length_toList]
  rw [validatePlaintextFragment_handshake, length_handshakeMessage, clientHelloBody]
  simp only [List.length_append, List.length_cons, length_beBytes, Vector.length_toList, hextensions]
  rw [handshakeHeaderSize, tlsPlaintextFragmentLimit]
  omega

theorem carriesClientHello_single {messageType : Byte} {body : Bytes}
    (hvalid : validatePlaintextFragment .handshake (handshakeMessage messageType body) = .ok ()) :
    CarriesClientHello false [⟨.handshake, tlsLegacyRecordVersion, handshakeMessage messageType body⟩]
      (handshakeMessage messageType body) := by
  have hfragment : IsHelloFragment false ⟨.handshake, tlsLegacyRecordVersion, handshakeMessage messageType body⟩ :=
    ⟨⟨hvalid, show tlsLegacyRecordVersion < 256 ^ 2 by decide⟩, rfl, Or.inl rfl⟩
  have hlength := (validatePlaintextFragment_handshake.1 hvalid).2
  rw [length_handshakeMessage, tlsPlaintextFragmentLimit] at hlength
  refine ⟨isWholeMessage_handshakeMessage (by rw [tlsUint24Max]; omega), ?_, ?_, [], _, rfl, hfragment⟩
  · intro record hrecord
    obtain rfl := List.mem_singleton.1 hrecord
    exact Or.inl hfragment
  · rw [List.flatMap_singleton, hfragment.helloFragment_eq]

/-! ### The client's Finished -/

theorem Tls13RecordProtection.isValid_of_encryptRecord {protection protection' : Tls13RecordProtection}
    {plaintext : TlsPlaintextRecord} {paddingLength : Nat} {record : TlsCiphertextRecord}
    (h : protection.encryptRecord plaintext paddingLength = (.ok record, protection')) : record.IsValid := by
  obtain ⟨_, innerPlaintext, ciphertext, tag, -, hinner, hencrypt, rfl, -⟩ := encryptRecord_ok h
  have hlength := (chacha20Poly1305Decrypt_encrypt hencrypt).2
  have hinnerLength := length_encodeTlsInnerPlaintext hinner
  have hlimits : tlsInnerPlaintextLimit + 16 ≤ tlsCiphertextFragmentLimit := by decide
  refine ⟨rfl, ?_⟩
  rw [List.length_append, Vector.length_toList, hlength]
  omega

/-- What a client with these secrets answers to the messages up to the server's Finished: its own Finished in one
record. With it come the keys for application data. -/
structure Tls13ClientHandshakeState.Answers (client : Tls13ClientHandshakeState) (messages : Bytes)
    (record : TlsCiphertextRecord) (keySchedule : Tls13ApplicationKeySchedule) : Prop where
  finished : ∃ verifyData protection,
    tls13FinishedVerifyData client.clientHandshakeTrafficSecret (sha256 messages) = .ok verifyData ∧
    client.handshakeRecordProtection.encryptRecord
      ⟨.handshake, tlsLegacyRecordVersion, handshakeMessage handshakeTypeFinished verifyData.toList⟩ 0 =
        (.ok record, protection)
  keys : deriveTls13ApplicationKeySchedule client.mainSecret (sha256 messages) = .ok keySchedule

/-- A client whose secrets and keys are those of the server. -/
structure Tls13ClientHandshakeState.Agrees (client : Tls13ClientHandshakeState) (flight : Tls13ServerHelloFlight) :
    Prop where
  secret_eq : client.clientHandshakeTrafficSecret = flight.clientHandshakeTrafficSecret
  mainSecret_eq : client.mainSecret = flight.mainSecret
  protection_eq : client.handshakeRecordProtection = mirroredProtection flight.handshakeRecordProtection

namespace Tls13ClientHandshakeState

variable {client : Tls13ClientHandshakeState} {flight flight' : Tls13ServerHelloFlight} {messages : Bytes}
  {record : TlsCiphertextRecord} {keySchedule : Tls13ApplicationKeySchedule}

theorem Agrees.exists_answers (h : client.Agrees flight) (messages : Bytes) :
    ∃ record keySchedule, client.Answers messages record keySchedule := by
  obtain ⟨finishedKey, -, hverify⟩ := tls13FinishedVerifyData_eq client.clientHandshakeTrafficSecret
  obtain ⟨keySchedule, hkeys⟩ := deriveTls13ApplicationKeySchedule_isOk client.mainSecret (sha256 messages)
  have hsequence : client.handshakeRecordProtection.writeSequenceNumber = some 0 := by
    rw [h.protection_eq]
    rfl
  have hlength : (handshakeMessage handshakeTypeFinished
      (hmacSha256 finishedKey.toList (sha256 messages).toList).toList).length = 36 := by
    rw [length_handshakeMessage, Vector.length_toList]
    rfl
  obtain ⟨record, hrecord⟩ := @Tls13RecordProtection.encryptRecord_isOk _
    ⟨.handshake, tlsLegacyRecordVersion, handshakeMessage handshakeTypeFinished
      (hmacSha256 finishedKey.toList (sha256 messages).toList).toList⟩ 0 _ hsequence
    (validatePlaintextFragment_handshake.2 (by rw [hlength]; decide)) (fun htype => by cases htype)
    (show _ + 1 + 0 ≤ _ by rw [hlength]; decide)
  exact ⟨record, keySchedule, ⟨_, _, hverify _, hrecord⟩, hkeys⟩

theorem Answers.isValid (h : client.Answers messages record keySchedule) : record.IsValid := by
  obtain ⟨_, _, -, hencrypt⟩ := h.finished
  exact Tls13RecordProtection.isValid_of_encryptRecord hencrypt

/-- The server takes the answer, whatever it authenticated with, and goes on with the same keys. -/
theorem Answers.completes {hellos : Bytes} {turns : Nat} {certificateChain : List Bytes} {signingKey : Scalar}
    {authentication : Tls13ServerAuthenticationFlight}
    (h : client.Answers (serverTranscript hellos flight authentication) record keySchedule) (hagrees : client.Agrees flight)
    (hauthenticated : flight.Authenticated turns certificateChain signingKey authentication flight')
    (hinv : ServerRunInvariant flight' hellos (some authentication)) :
    ∃ state, flight'.completeHandshake [record] = .ok state ∧ state.recordProtection =
      .new keySchedule.serverKey keySchedule.serverIv keySchedule.clientKey keySchedule.clientIv := by
  obtain ⟨next, hflight⟩ := hauthenticated.flight_eq
  have hhash := hinv.transcriptHash_eq hauthenticated
  have hsecret : flight'.clientHandshakeTrafficSecret = client.clientHandshakeTrafficSecret := by
    rw [hagrees.secret_eq, hflight]
  have hmain : flight'.mainSecret = client.mainSecret := by rw [hagrees.mainSecret_eq, hflight]
  obtain ⟨verifyData, protection, hverify, hencrypt⟩ := h.finished
  obtain ⟨finishedKey, hkey, hdata⟩ := tls13FinishedVerifyData_eq flight'.clientHandshakeTrafficSecret
  have hsame : verifyData = hmacSha256 finishedKey.toList flight'.transcript.hash.toList := by
    rw [← hsecret, ← hhash, hdata] at hverify
    exact (Except.ok.inj hverify).symm
  have hread : flight'.handshakeRecordProtection.readKey = client.handshakeRecordProtection.writeKey ∧
      flight'.handshakeRecordProtection.readIv = client.handshakeRecordProtection.writeIv ∧
      client.handshakeRecordProtection.writeSequenceNumber = some 0 := by
    rw [hagrees.protection_eq, hflight]
    exact ⟨rfl, rfl, rfl⟩
  have hdecrypt := Tls13RecordProtection.decryptRecord_encryptRecord hread.1 hread.2.1
    (hinv.readSequenceNumber_eq.trans hread.2.2.symm) hencrypt
  obtain ⟨number, hnumber, hopens, -⟩ := Tls13RecordProtection.decryptRecord_eq_ok.1 hdecrypt
  have hinOrder : OpensInOrder flight'.handshakeRecordProtection.readKey flight'.handshakeRecordProtection.readIv 0
      [record] (handshakeMessage handshakeTypeFinished verifyData.toList) := by
    rw [hinv.readSequenceNumber_eq] at hnumber
    obtain ⟨hstart, rfl, -⟩ := sequenceAt_eq_some hnumber
    rw [← List.append_nil (handshakeMessage _ _)]
    exact .cons hstart hopens rfl (.nil _)
  rw [hsame] at hinOrder
  obtain ⟨state, hstate⟩ := (flight'.completeHandshake_isOk hinv.readSequenceNumber_eq hkey).2
    ⟨hinv.started_eq, List.cons_ne_nil _ _, hinOrder⟩
  obtain ⟨derived, hderived, hprotection, -⟩ := completeHandshake_state hstate
  rw [hhash, hmain, h.keys] at hderived
  cases hderived
  exact ⟨state, hstate, hprotection⟩

end Tls13ClientHandshakeState

/-! ### Both sides together -/

theorem exists_agreeing {serverName : Bytes} {clientRandom serverRandom : ByteArrayN 32} {clientKey serverKey : Scalar}
    (hname : isValidServerName serverName = true) (hclient : clientKey ≠ .zero) (hserver : serverKey ≠ .zero)
    (hrandom : serverRandom ≠ tls13HelloRetryRequestRandom)
    {clientDraws serverDraws clientRest serverRest : List RandomDraw}
    (hclientDraws : generateEphemeralP256PrivateKey clientDraws = some (.ok ⟨clientKey, hclient⟩, clientRest))
    (hserverDraws : generateEphemeralP256PrivateKey serverDraws =
      some (.ok ⟨serverKey, hserver⟩, .ok serverRandom :: serverRest)) :
    ∃ client clientHello flight state,
      Tls13ClientHelloFlight.new (.ok clientRandom :: clientDraws) serverName = some (.ok client) ∧
      CarriesClientHello false [⟨.handshake, tlsLegacyRecordVersion, client.clientHello⟩] client.clientHello ∧
      parseClientHello client.clientHello = .ok clientHello ∧
      clientHello.serverName = some (toAsciiLowercase serverName) ∧ clientHello.legacySessionId = [] ∧
      negotiateTls13ServerFirstFlight serverDraws client.clientHello = some (.ok (.serverHello flight)) ∧
      client.receiveServerHello flight.serverHello = .ok state ∧ state.Agrees flight := by
  obtain ⟨publicKey, hencoded, hdecoded⟩ := fromSec1Uncompressed_generatorMultiply hclient
  have hmessage := buildTls13ClientHello_eq hname hclient hencoded clientRandom
  have hnew := Tls13ClientHelloFlight.new_eq hname hclientDraws hmessage
  have hparse := parseClientHello_build hname clientRandom publicKey
  obtain ⟨flight, serverKeyShare, sharedSecret, keySchedule, hshare, hsecret, -, hfirst, -, hanswers⟩ :=
    negotiate_build hclient hdecoded hserverDraws (acceptClientHello_build hname clientRandom publicKey)
  obtain ⟨encoded, hencoded', hdecoded'⟩ := fromSec1Uncompressed_generatorMultiply hserver
  obtain rfl : serverKeyShare = encoded := Except.ok.inj (hshare.symm.trans hencoded')
  obtain ⟨secret, hsecret', hsecret''⟩ := p256Ecdh_comm hclient hserver
  obtain rfl : sharedSecret = secret := Except.ok.inj (hsecret.symm.trans hsecret'')
  have hvalid := validate_clientHello hname clientRandom publicKey
  refine ⟨_, _, flight, _, hnew, carriesClientHello_single hvalid, hparse, rfl, rfl,
    hfirst, receiveServerHello_answer rfl hrandom hdecoded' hsecret' hanswers,
    hanswers.clientHandshakeTrafficSecret_eq.symm, hanswers.mainSecret_eq.symm, ?_⟩
  rw [mirroredProtection, hanswers.protection_eq]

/-- What a client opens of the flight of the server are its messages and nothing else. -/
def OpensFlight (client : Tls13ClientHandshakeState) (flight : Tls13ServerHelloFlight)
    (authentication : Tls13ServerAuthenticationFlight) : Prop :=
  ∃ plaintexts receiver batches,
    decryptRecords client.handshakeRecordProtection (serverFlightCiphertexts flight authentication) =
      (.ok plaintexts, receiver) ∧
    runAll HandshakeDeframer.pushRecord .new plaintexts = (.ok batches, .new) ∧
    batches.flatten = serverFlightMessages flight authentication

/-- A client that follows the protocol and a server that has an identity and a route for its name have a conversation that
establishes a state for application data. -/
theorem exists_established {serverName : Bytes} {clientRandom serverRandom : ByteArrayN 32}
    {clientKey serverKey : Scalar} (hname : isValidServerName serverName = true) (hclient : clientKey ≠ .zero)
    (hserver : serverKey ≠ .zero) (hrandom : serverRandom ≠ tls13HelloRetryRequestRandom)
    {clientDraws serverDraws clientRest serverRest : List RandomDraw}
    (hclientDraws : generateEphemeralP256PrivateKey clientDraws = some (.ok ⟨clientKey, hclient⟩, clientRest))
    (hserverDraws : generateEphemeralP256PrivateKey serverDraws =
      some (.ok ⟨serverKey, hserver⟩, .ok serverRandom :: serverRest))
    {identities : TlsIdentityStore} {configuration : Option Config} {identity : TlsIdentity} {certificate : Bytes}
    (hselect : identities.select (toAsciiLowercase serverName) = some identity)
    (hroute : hasRoute configuration (toAsciiLowercase serverName) = true)
    (hcertificate : buildTls13Certificate identity.certificateChain = .ok certificate)
    (hsigningKey : identity.signingKey ≠ .zero) :
    ∃ client flight state,
      Tls13ClientHelloFlight.new (.ok clientRandom :: clientDraws) serverName = some (.ok client) ∧
      negotiateTls13ServerFirstFlight serverDraws client.clientHello = some (.ok (.serverHello flight)) ∧
      client.receiveServerHello flight.serverHello = .ok state ∧
      CarriesClientHello false [⟨.handshake, tlsLegacyRecordVersion, client.clientHello⟩] client.clientHello ∧
      (∀ k signature,
        IsFirstSignature identity.signingKey (signedContent flight client.clientHello certificate) k signature →
          ∀ turns > k, ∃ authentication flight',
            flight.authenticateServer turns identity.certificateChain identity.signingKey =
              some (.ok authentication, flight')) ∧
      ∀ turns result flight',
        flight.authenticateServer turns identity.certificateChain identity.signingKey = some (result, flight') →
        ∃ authentication record keySchedule applicationState, result = .ok authentication ∧
          OpensFlight state flight authentication ∧
          state.Answers (serverTranscript client.clientHello flight authentication) record keySchedule ∧
          applicationState.recordProtection =
            .new keySchedule.serverKey keySchedule.serverIv keySchedule.clientKey keySchedule.clientIv ∧
          ∀ records compatibility : List TlsPlaintextRecord,
            CarriesClientHello false records client.clientHello → (∀ other ∈ compatibility, IsChangeCipherSpec other) →
            Handshake serverDraws turns identities configuration (some applicationState)
              (records.flatMap TlsPlaintextRecord.wire ++
                (compatibility.flatMap TlsPlaintextRecord.wire ++ record.serialize))
              (handshakeRecord flight.serverHello ++
                (serverFlightCiphertexts flight authentication).flatMap TlsCiphertextRecord.serialize) := by
  obtain ⟨client, clientHello, flight, state, hnew, hcarries, hparse, hserverName, hsession, hfirst, hreceive, hagrees⟩ :=
    @exists_agreeing _ clientRandom _ _ _ hname hclient hserver hrandom _ _ _ _ hclientDraws hserverDraws
  have hnegotiated := Negotiated.firstFlight hfirst
  have hinv := hnegotiated.runInvariant
  refine ⟨client, flight, state, hnew, hfirst, hreceive, hcarries,
    fun _ _ hsigned _ hturns => hnegotiated.authenticates hcertificate hsigningKey hsigned hturns,
    fun turns result flight' hresult => ?_⟩
  obtain ⟨authentication, rfl, hauthenticated⟩ := Tls13ServerHelloFlight.authenticateServer_ok_of_some hinv.started_eq
    (hinv.writeSequenceNumber_eq hinv.started_eq) hcertificate hsigningKey hresult
  obtain ⟨_, hsome, -⟩ | ⟨_, hsome, hinv'⟩ := hinv.authenticateServer hresult
  · cases hsome
  cases hsome
  obtain ⟨receiver, hdecrypt⟩ := decrypt_serverFlight hnegotiated hauthenticated
  obtain ⟨batches, hdeframe, hbatches⟩ :=
    deframe_serverFlight (isHandshakeMessage_serverFlight hnegotiated hauthenticated)
  obtain ⟨record, keySchedule, hanswers⟩ :=
    hagrees.exists_answers (serverTranscript client.clientHello flight authentication)
  obtain ⟨applicationState, hcomplete, hprotection⟩ := hanswers.completes hagrees hauthenticated hinv'
  refine ⟨authentication, record, keySchedule, applicationState, rfl, ⟨_, receiver, batches, hagrees.protection_eq ▸ hdecrypt,
    hdeframe, hbatches⟩, hanswers, hprotection, fun records compatibility hrecords hcompatibility => ?_⟩
  have hsame : serverFlightCiphertexts flight' authentication = serverFlightCiphertexts flight authentication := by
    obtain ⟨_, hflight⟩ := hauthenticated.flight_eq
    rw [serverFlightCiphertexts, serverFlightCiphertexts, hflight]
  have hhellos := @Hellos.direct serverDraws (!clientHello.legacySessionId.isEmpty) _ _ hfirst
  have hfinishes : Finishes turns identity flight applicationState
      (compatibility.flatMap TlsPlaintextRecord.wire ++ record.serialize)
      ((serverFlightCiphertexts flight authentication).flatMap TlsCiphertextRecord.serialize) :=
    ⟨authentication, flight', record, hresult, ⟨compatibility, hcompatibility, hanswers.isValid, rfl⟩, hcomplete,
      by rw [hsame]⟩
  have hserved : IsServed identities configuration client.clientHello clientHello identity :=
    ⟨hparse, _, hserverName, hselect, hroute⟩
  have hestablished := Handshake.established hrecords hserved hhellos hfinishes
  rw [hsession] at hestablished
  simpa only [List.isEmpty_nil, Bool.not_true, compatibilityRecord, Bool.false_eq_true, if_false, List.append_nil,
    List.nil_append] using hestablished

/-- A client that follows the protocol and a server that has an identity and a route for its name reach application
data, whatever the name and the values that they draw: the server answers the ClientHello and authenticates with enough
turns for its signer; then the client opens the whole flight, has an answer, and on every stream that brings its
ClientHello and this answer, in whatever records and segments, the server completes the handshake, with the client's
keys the other way round. -/
theorem handshake_agreement {serverName : Bytes} {clientRandom serverRandom : ByteArrayN 32}
    {clientKey serverKey : Scalar} (hname : isValidServerName serverName = true) (hclient : clientKey ≠ .zero)
    (hserver : serverKey ≠ .zero) (hrandom : serverRandom ≠ tls13HelloRetryRequestRandom)
    {clientDraws serverDraws clientRest serverRest : List RandomDraw}
    (hclientDraws : generateEphemeralP256PrivateKey clientDraws = some (.ok ⟨clientKey, hclient⟩, clientRest))
    (hserverDraws : generateEphemeralP256PrivateKey serverDraws =
      some (.ok ⟨serverKey, hserver⟩, .ok serverRandom :: serverRest))
    {identities : TlsIdentityStore} {configuration : Option Config} {identity : TlsIdentity} {certificate : Bytes}
    (hselect : identities.select (toAsciiLowercase serverName) = some identity)
    (hroute : hasRoute configuration (toAsciiLowercase serverName) = true)
    (hcertificate : buildTls13Certificate identity.certificateChain = .ok certificate)
    (hsigningKey : identity.signingKey ≠ .zero) :
    ∃ client flight state,
      Tls13ClientHelloFlight.new (.ok clientRandom :: clientDraws) serverName = some (.ok client) ∧
      negotiateTls13ServerFirstFlight serverDraws client.clientHello = some (.ok (.serverHello flight)) ∧
      client.receiveServerHello flight.serverHello = .ok state ∧
      CarriesClientHello false [⟨.handshake, tlsLegacyRecordVersion, client.clientHello⟩] client.clientHello ∧
      (∀ k signature,
        IsFirstSignature identity.signingKey (signedContent flight client.clientHello certificate) k signature →
          ∀ turns > k, ∃ authentication flight',
            flight.authenticateServer turns identity.certificateChain identity.signingKey =
              some (.ok authentication, flight')) ∧
      ∀ turns result flight',
        flight.authenticateServer turns identity.certificateChain identity.signingKey = some (result, flight') →
        ∃ authentication record keySchedule, result = .ok authentication ∧ OpensFlight state flight authentication ∧
          state.Answers (serverTranscript client.clientHello flight authentication) record keySchedule ∧
          ∀ (records compatibility : List TlsPlaintextRecord) (stream : Endpoint) (rest : Bytes),
            CarriesClientHello false records client.clientHello → (∀ other ∈ compatibility, IsChangeCipherSpec other) →
            Sound stream → pending stream.input = records.flatMap TlsPlaintextRecord.wire ++
              (compatibility.flatMap TlsPlaintextRecord.wire ++ record.serialize) ++ rest →
            ∃ applicationState stream',
              serverHandshake serverDraws turns identities configuration stream =
                some (.ok (some applicationState), stream') ∧
              applicationState.recordProtection =
                .new keySchedule.serverKey keySchedule.serverIv keySchedule.clientKey keySchedule.clientIv ∧
              Sound stream' ∧ pending stream'.input = rest ∧
              stream'.output.written = stream.output.written ++ (handshakeRecord flight.serverHello ++
                (serverFlightCiphertexts flight authentication).flatMap TlsCiphertextRecord.serialize) := by
  obtain ⟨client, flight, state, hnew, hfirst, hreceive, hcarries, hproduces, hserver⟩ :=
    @exists_established _ clientRandom _ _ _ hname hclient hserver hrandom _ _ _ _ hclientDraws hserverDraws _ _ _ _
      hselect hroute hcertificate hsigningKey
  refine ⟨client, flight, state, hnew, hfirst, hreceive, hcarries, hproduces, fun turns result flight' hresult => ?_⟩
  obtain ⟨authentication, record, keySchedule, applicationState, hok, hopens, hanswers, hprotection, hhandshake⟩ :=
    hserver turns result flight' hresult
  refine ⟨authentication, record, keySchedule, hok, hopens, hanswers,
    fun records compatibility stream rest hrecords hcompatibility hsound hpending => ?_⟩
  obtain ⟨stream', hrun, hsound', hrest, hwritten⟩ :=
    (means_serverHandshake serverDraws turns identities configuration).exists_run
      (hhandshake records compatibility hrecords hcompatibility) hsound hpending
  exact ⟨applicationState, stream', hrun, hprotection, hsound', hrest, hwritten⟩

/-- An identity for one name, with the private key one and a chain of one certificate. -/
def exampleIdentities : TlsIdentityStore where
  identities := [⟨[[1]], .one, [ascii "example.com"]⟩]
  ne_nil := List.cons_ne_nil _ _
  distinct := by decide

theorem exampleIdentities_select : exampleIdentities.select (toAsciiLowercase (ascii "Example.com")) =
    some ⟨[[1]], .one, [ascii "example.com"]⟩ := by
  decide +kernel

theorem handshake_agreement_one_two :
    ∃ client flight state certificate,
      buildTls13Certificate [[1]] = .ok certificate ∧
      Tls13ClientHelloFlight.new [.ok (Vector.replicate 32 5), .ok (Residue.one : Scalar).value.toBeBytes]
        (ascii "Example.com") = some (.ok client) ∧
      client.receiveServerHello flight.serverHello = .ok state ∧
      (∀ signature, IsFirstSignature .one (signedContent flight client.clientHello certificate) 0 signature →
        ∃ authentication flight', flight.authenticateServer 1 [[1]] .one = some (.ok authentication, flight')) ∧
      ∀ turns result flight', flight.authenticateServer turns [[1]] .one = some (result, flight') →
        ∃ authentication, result = .ok authentication ∧ OpensFlight state flight authentication := by
  obtain ⟨certificate, hcertificate⟩ : ∃ certificate, buildTls13Certificate [[1]] = .ok certificate := ⟨_, rfl⟩
  obtain ⟨client, flight, state, hnew, -, hreceive, -, hproduces, hserver⟩ :=
    @handshake_agreement _ (Vector.replicate 32 5) (Vector.replicate 32 7) .one _ isValidServerName_example
      (by decide) two_ne_zero_scalar (by decide) _ _ _ _
      (generateEphemeralP256PrivateKey_toBeBytes .one (by decide) [])
      (generateEphemeralP256PrivateKey_toBeBytes _ two_ne_zero_scalar [.ok (Vector.replicate 32 7)])
      exampleIdentities none _ _ exampleIdentities_select rfl hcertificate (by decide)
  refine ⟨client, flight, state, certificate, hcertificate, hnew, hreceive,
    fun signature hsigned => hproduces 0 signature hsigned 1 Nat.one_pos, fun turns result flight' hresult => ?_⟩
  obtain ⟨authentication, _, _, hok, hopens, -⟩ := hserver turns result flight' hresult
  exact ⟨authentication, hok, hopens⟩

/-- On a stream that brings the client's part of this conversation the server reaches a state, and has shown its one
identity. -/
theorem serverHandshake_establishes_one_two :
    ∃ client flight certificate,
      buildTls13Certificate [[1]] = .ok certificate ∧
      Tls13ClientHelloFlight.new [.ok (Vector.replicate 32 5), .ok (Residue.one : Scalar).value.toBeBytes]
        (ascii "Example.com") = some (.ok client) ∧
      ∀ signature, IsFirstSignature .one (signedContent flight client.clientHello certificate) 0 signature →
        ∃ stream stream' state shown hellos authentication record,
          serverHandshake [.ok (.new (.fromLimbs 2 0 0 0) : Scalar).value.toBeBytes, .ok (Vector.replicate 32 7)] 1
            exampleIdentities none stream = some (.ok (some state), stream') ∧
          Shows 1 ⟨[[1]], .one, [ascii "example.com"]⟩ shown hellos authentication record state := by
  obtain ⟨certificate, hcertificate⟩ : ∃ certificate, buildTls13Certificate [[1]] = .ok certificate := ⟨_, rfl⟩
  obtain ⟨client, flight, _, hnew, -, -, hcarries, hproduces, hserver⟩ :=
    @exists_established _ (Vector.replicate 32 5) (Vector.replicate 32 7) .one _ isValidServerName_example
      (by decide) two_ne_zero_scalar (by decide) _ _ _ _
      (generateEphemeralP256PrivateKey_toBeBytes .one (by decide) [])
      (generateEphemeralP256PrivateKey_toBeBytes _ two_ne_zero_scalar [.ok (Vector.replicate 32 7)])
      exampleIdentities none _ _ exampleIdentities_select rfl hcertificate (by decide)
  refine ⟨client, flight, certificate, hcertificate, hnew, fun signature hsigned => ?_⟩
  obtain ⟨_, flight', hauthenticate⟩ := hproduces 0 signature hsigned 1 Nat.one_pos
  obtain ⟨_, _, _, state, -, -, -, -, hhandshake⟩ := hserver 1 _ flight' hauthenticate
  obtain ⟨stream, stream', hrun⟩ :=
    (means_serverHandshake _ 1 exampleIdentities none).exists_stream (hhandshake _ [] hcarries (by simp))
  obtain ⟨_, _, hfacts, -⟩ := serverHandshake_establishes _ 1 exampleIdentities none hrun
  obtain ⟨_, identity, shown, hellos, authentication, record, _, _, _, -, hmem, -, -, -, hshows, -⟩ := hfacts state rfl
  obtain rfl := List.mem_singleton.1 hmem
  exact ⟨stream, stream', state, shown, hellos, authentication, record, hrun, hshows⟩

end BareProxy.Tls
