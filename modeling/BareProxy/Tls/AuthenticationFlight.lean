import BareProxy.P256.Nonces
import BareProxy.Tls.Deframer
import BareProxy.Tls.KeyAgreement
import BareProxy.Tls.ServerAuthentication

/-!
# The authentication flight, as the peer sees it

Whoever holds the mirrored record protection decrypts the records of the server in order, joins the fragments and
finds the four messages again, with a signature and a Finished that check out.
-/

namespace BareProxy.Tls

open P256 Crypto

/-- The record protection of the other side before it has sent or received anything. -/
def mirroredProtection (protection : Tls13RecordProtection) : Tls13RecordProtection :=
  .new protection.readKey protection.readIv protection.writeKey protection.writeIv

/-- The plaintext records of EncryptedExtensions and of the authentication. -/
def serverFlightRecords (flight : Tls13ServerHelloFlight) (authentication : Tls13ServerAuthenticationFlight) :
    List (TlsPlaintextRecord × Nat) :=
  (⟨.handshake, tlsLegacyRecordVersion, flight.encryptedExtensions⟩, 0) ::
    (handshakeRecords authentication.certificate ++ (handshakeRecords authentication.certificateVerify ++
      handshakeRecords authentication.finished))

/-- The records that the server sends, in order. -/
def serverFlightCiphertexts (flight : Tls13ServerHelloFlight) (authentication : Tls13ServerAuthenticationFlight) :
    List TlsCiphertextRecord :=
  flight.encryptedExtensionsRecord :: (authentication.certificateRecords ++
    (authentication.certificateVerifyRecords ++ authentication.finishedRecords))

def serverFlightMessages (flight : Tls13ServerHelloFlight) (authentication : Tls13ServerAuthenticationFlight) :
    List Bytes :=
  [flight.encryptedExtensions, authentication.certificate, authentication.certificateVerify, authentication.finished]

theorem flatten_handshakeRecords (message : Bytes) :
    ((handshakeRecords message).map fun record => record.1.fragment).flatten = message := by
  rw [handshakeRecords, List.map_map]
  have hfragments : ((fun record : TlsPlaintextRecord × Nat => record.1.fragment) ∘
      fun fragment : Bytes => ((⟨.handshake, tlsLegacyRecordVersion, fragment⟩ : TlsPlaintextRecord), 0)) = id := rfl
  rw [hfragments, List.map_id, flatten_chunks (by decide)]

theorem contentType_handshakeRecords {message : Bytes} {record : TlsPlaintextRecord × Nat}
    (h : record ∈ handshakeRecords message) :
    record.1.contentType = .handshake ∧ record.1.legacyRecordVersion = tlsLegacyRecordVersion := by
  obtain ⟨fragment, -, rfl⟩ := List.mem_map.1 h
  exact ⟨rfl, rfl⟩

variable {flight flight' : Tls13ServerHelloFlight} {authentication : Tls13ServerAuthenticationFlight}

/-- The records are all of the handshake. -/
theorem contentType_serverFlightRecords {record : TlsPlaintextRecord × Nat}
    (h : record ∈ serverFlightRecords flight authentication) :
    record.1.contentType = .handshake ∧ record.1.legacyRecordVersion = tlsLegacyRecordVersion := by
  rcases List.mem_cons.1 h with rfl | h
  · exact ⟨rfl, rfl⟩
  · rcases List.mem_append.1 h with h | h
    · exact contentType_handshakeRecords h
    · rcases List.mem_append.1 h with h | h
      · exact contentType_handshakeRecords h
      · exact contentType_handshakeRecords h

theorem flatten_serverFlightRecords :
    ((serverFlightRecords flight authentication).map fun record => record.1.fragment).flatten =
      (serverFlightMessages flight authentication).flatten := by
  simp only [serverFlightRecords, serverFlightMessages, List.map_cons, List.map_append, List.flatten_cons,
    List.flatten_append, flatten_handshakeRecords, List.flatten_nil, List.append_nil]

/-- The fragments of the flight make up its messages and nothing else. -/
theorem deframe_serverFlight
    (hmessages : ∀ message ∈ serverFlightMessages flight authentication, ∃ messageType,
      IsHandshakeMessage messageType message) :
    ∃ batches,
      runAll HandshakeDeframer.pushRecord .new
        ((serverFlightRecords flight authentication).map Prod.fst) = (.ok batches, .new) ∧
      batches.flatten = serverFlightMessages flight authentication := by
  have hnext : ∀ message ∈ serverFlightMessages flight authentication, ∀ more,
      handshakeFramer.next (id message ++ more) = .ok (some (message, more)) := by
    intro message hmessage more
    obtain ⟨messageType, body, hbody, rfl⟩ := hmessages message hmessage
    exact nextHandshakeMessage_append hbody more
  have hdrain := Framer.drain_flatMap hnext (rfl : handshakeFramer.next [] = .ok none)
  rw [List.append_nil, List.flatMap_id, ← flatten_serverFlightRecords, ← List.nil_append (List.flatten _)] at hdrain
  obtain ⟨batches, hbatches, hflatten⟩ := Framer.runAll_push (rfl : handshakeFramer.next [] = .ok none) hdrain
  refine ⟨batches, ?_, hflatten⟩
  rw [HandshakeDeframer.runAll_pushRecord, List.map_map]
  · exact hbatches
  · intro record hrecord
    obtain ⟨pair, hpair, rfl⟩ := List.mem_map.1 hrecord
    exact (contentType_serverFlightRecords hpair).1

/-- The mirrored protection opens the records of the flight one after the other. -/
theorem decrypt_serverFlight {hellos : Bytes} {turns : Nat} {certificateChain : List Bytes} {signingKey : Scalar}
    (hnegotiated : Negotiated flight hellos)
    (hauthenticated : flight.Authenticated turns certificateChain signingKey authentication flight') :
    ∃ receiver, decryptRecords (mirroredProtection flight.handshakeRecordProtection)
      (serverFlightCiphertexts flight authentication) =
        (.ok ((serverFlightRecords flight authentication).map Prod.fst), receiver) := by
  obtain ⟨_, _, _, _, _, _, keySchedule, -, hanswers⟩ := hnegotiated.answers
  obtain ⟨protection₁, protection₂, hcertificate, hverify, hfinished⟩ := hauthenticated.records
  have hencrypt : encryptRecords
      (.new keySchedule.serverKey keySchedule.serverIv keySchedule.clientKey keySchedule.clientIv)
      (serverFlightRecords flight authentication) =
        (.ok (serverFlightCiphertexts flight authentication), flight'.handshakeRecordProtection) :=
    runAll_cons_ok.2 ⟨_, _, _, hanswers.encryptedExtensionsRecord_eq,
      runAll_append_ok hcertificate (runAll_append_ok hverify hfinished), rfl⟩
  have hmirror : mirroredProtection flight.handshakeRecordProtection =
      .new keySchedule.clientKey keySchedule.clientIv keySchedule.serverKey keySchedule.serverIv := by
    rw [mirroredProtection, hanswers.protection_eq]
  have hsame : (serverFlightRecords flight authentication).map
      (fun record => { record.1 with legacyRecordVersion := tlsLegacyRecordVersion }) =
        (serverFlightRecords flight authentication).map Prod.fst := by
    apply List.map_congr_left
    intro record hrecord
    rw [← (contentType_serverFlightRecords hrecord).2]
  have hdecrypt := (@decryptRecords_encryptRecords _ _ (mirroredProtection flight.handshakeRecordProtection) _ _
    (by rw [hmirror]; rfl) (by rw [hmirror]; rfl) (by rw [hmirror]; rfl) hencrypt).1
  rw [hsame] at hdecrypt
  exact ⟨_, hdecrypt⟩

theorem isHandshakeMessage_serverFlight {hellos : Bytes} {turns : Nat} {certificateChain : List Bytes}
    {signingKey : Scalar} (hnegotiated : Negotiated flight hellos)
    (hauthenticated : flight.Authenticated turns certificateChain signingKey authentication flight') :
    ∀ message ∈ serverFlightMessages flight authentication, ∃ messageType, IsHandshakeMessage messageType message := by
  obtain ⟨_, _, _, _, _, _, _, -, hanswers⟩ := hnegotiated.answers
  obtain ⟨extensions, halpn, hextensions⟩ := buildTls13EncryptedExtensions_eq_ok.1 hanswers.encryptedExtensions_eq
  have hlength := length_negotiateAlpn halpn
  obtain ⟨_, -, hverify⟩ := buildTls13ServerCertificateVerify_ok hauthenticated.certificateVerify
  obtain ⟨_, -, hfinished⟩ := buildTls13Finished_ok hauthenticated.finished
  intro message hmessage
  simp only [serverFlightMessages, List.mem_cons, List.not_mem_nil, or_false] at hmessage
  obtain rfl | rfl | rfl | rfl := hmessage
  · refine ⟨_, _, ?_, hextensions⟩
    rw [List.length_append, length_beBytes, tlsUint24Max]
    omega
  · exact ⟨_, isHandshakeMessage_certificate hauthenticated.certificate⟩
  · exact ⟨_, isHandshakeMessage_of_encode hverify⟩
  · exact ⟨_, isHandshakeMessage_of_encode hfinished⟩

/-- What the peer finds in a flight whose messages through Certificate are `through`. -/
theorem authenticated_checks {through : Bytes} {turns : Nat} {certificateChain : List Bytes} {signingKey : Scalar}
    (htranscript : flight.transcript.updateHandshakeMessage authentication.certificate = .ofBytes through)
    (hsigningKey : signingKey ≠ .zero)
    (hauthenticated : flight.Authenticated turns certificateChain signingKey authentication flight') :
    ∃ der signature finishedKey,
      authentication.certificateVerify = handshakeMessage handshakeTypeCertificateVerify
        (beBytes 2 tlsSignatureEcdsaSecp256r1Sha256 ++ (beBytes 2 der.length ++ der)) ∧
      Der.readP256Signature der = some signature ∧
      p256EcdsaVerifySha256 (p256GeneratorMultiply signingKey)
        (tls13ServerCertificateVerifyContent (sha256 through)) signature = true ∧
      tls13ExpandLabelArray 32 flight.serverHandshakeTrafficSecret.toList "finished" [] = .ok finishedKey ∧
      authentication.finished = handshakeMessage handshakeTypeFinished
        (hmacSha256 finishedKey.toList (sha256 (through ++ authentication.certificateVerify)).toList).toList := by
  have hverify := hauthenticated.certificateVerify
  have hfinished := hauthenticated.finished
  rw [htranscript, TlsTranscript.hash_ofBytes] at hverify
  rw [htranscript, TlsTranscript.updateHandshakeMessage_ofBytes, TlsTranscript.hash_ofBytes] at hfinished
  obtain ⟨signature, hsign, hencode⟩ := buildTls13ServerCertificateVerify_ok hverify
  obtain ⟨_, hsigned, hsignature⟩ := p256EcdsaSignSha256_isSome hsigningKey (by rw [hsign]; rfl)
  rw [hsign] at hsigned
  cases hsigned
  obtain ⟨_, hdata, hencodeFinished⟩ := buildTls13Finished_ok hfinished
  obtain ⟨finishedKey, hkey, hverifyData⟩ := tls13FinishedVerifyData_eq flight.serverHandshakeTrafficSecret
  rw [hverifyData] at hdata
  cases hdata
  exact ⟨encodeTlsP256SignatureDer signature, signature, finishedKey, (encodeHandshakeMessage_ok.1 hencode).2,
    Der.readP256Signature_encodeP256SignatureDer signature, hsignature, hkey,
    (encodeHandshakeMessage_ok.1 hencodeFinished).2⟩

/-- What the server signs at the end of these hellos, with this Certificate message. -/
def signedContent (flight : Tls13ServerHelloFlight) (hellos certificate : Bytes) : Bytes :=
  tls13ServerCertificateVerifyContent (sha256 (hellos ++ flight.serverHello ++ flight.encryptedExtensions ++ certificate))

theorem Negotiated.notStarted {hellos : Bytes} (h : Negotiated flight hellos) :
    flight.serverAuthenticationStarted = false ∧
      flight.handshakeRecordProtection.writeSequenceNumber = sequenceAt 1 := by
  obtain ⟨_, _, _, _, _, _, _, -, hanswers⟩ := h.answers
  exact ⟨hanswers.notStarted, by rw [hanswers.protection_eq]⟩

theorem Negotiated.signedContent_eq {hellos : Bytes} (h : Negotiated flight hellos) (certificate : Bytes) :
    tls13ServerCertificateVerifyContent (flight.transcript.updateHandshakeMessage certificate).hash =
      signedContent flight hellos certificate := by
  rw [transcript_of_negotiated h, TlsTranscript.updateHandshakeMessage_ofBytes, TlsTranscript.hash_ofBytes, signedContent]

/-- The server authenticates with more turns than there are candidates before the first signature. -/
theorem Negotiated.authenticates {hellos certificate : Bytes} {certificateChain : List Bytes} {signingKey : Scalar}
    (h : Negotiated flight hellos) (hcertificate : buildTls13Certificate certificateChain = .ok certificate)
    (hsigningKey : signingKey ≠ .zero) {k : Nat} {signature : P256Signature}
    (hfirst : IsFirstSignature signingKey (signedContent flight hellos certificate) k signature) {turns : Nat}
    (hturns : k < turns) :
    ∃ authentication flight', flight.authenticateServer turns certificateChain signingKey =
      some (.ok authentication, flight') := by
  have hsign := p256EcdsaSignSha256_of_isFirst hsigningKey hfirst hturns
  rw [← h.signedContent_eq] at hsign
  obtain ⟨authentication, flight', hauthenticate, -⟩ :=
    Tls13ServerHelloFlight.authenticateServer_isOk h.notStarted.1 h.notStarted.2 hcertificate hsign
  exact ⟨authentication, flight', hauthenticate⟩

/-- What the server sends after its ServerHello is what the peer reconstructs and can check. The call returns exactly
when the signer does, which it does with more turns than there are candidates before the first signature, and then it
has succeeded. -/
theorem authenticationFlight_reconstructed {hellos certificate : Bytes} {certificateChain : List Bytes}
    {signingKey : Scalar} (hnegotiated : Negotiated flight hellos)
    (hcertificate : buildTls13Certificate certificateChain = .ok certificate) (hsigningKey : signingKey ≠ .zero)
    (turns : Nat) :
    (flight.authenticateServer turns certificateChain signingKey).isSome =
      (p256EcdsaSignSha256 turns signingKey (tls13ServerCertificateVerifyContent
        (sha256 (hellos ++ flight.serverHello ++ flight.encryptedExtensions ++ certificate)))).isSome ∧
    (∀ k signature, IsFirstSignature signingKey (tls13ServerCertificateVerifyContent
        (sha256 (hellos ++ flight.serverHello ++ flight.encryptedExtensions ++ certificate))) k signature → k < turns →
      ∃ authentication flight', flight.authenticateServer turns certificateChain signingKey =
        some (.ok authentication, flight')) ∧
    ∀ result flight', flight.authenticateServer turns certificateChain signingKey = some (result, flight') →
      ∃ authentication receiver plaintexts batches der signature finishedKey,
        result = .ok authentication ∧
        authentication.certificate = certificate ∧
        decryptRecords (mirroredProtection flight.handshakeRecordProtection)
          (serverFlightCiphertexts flight authentication) = (.ok plaintexts, receiver) ∧
        runAll HandshakeDeframer.pushRecord .new plaintexts = (.ok batches, .new) ∧
        batches.flatten = serverFlightMessages flight authentication ∧
        authentication.certificateVerify = handshakeMessage handshakeTypeCertificateVerify
          (beBytes 2 tlsSignatureEcdsaSecp256r1Sha256 ++ (beBytes 2 der.length ++ der)) ∧
        Der.readP256Signature der = some signature ∧
        p256EcdsaVerifySha256 (p256GeneratorMultiply signingKey)
          (tls13ServerCertificateVerifyContent
            (sha256 (hellos ++ flight.serverHello ++ flight.encryptedExtensions ++ certificate))) signature = true ∧
        tls13ExpandLabelArray 32 flight.serverHandshakeTrafficSecret.toList "finished" [] = .ok finishedKey ∧
        authentication.finished = handshakeMessage handshakeTypeFinished
          (hmacSha256 finishedKey.toList (sha256 (hellos ++ flight.serverHello ++ flight.encryptedExtensions ++
            certificate ++ authentication.certificateVerify)).toList).toList := by
  obtain ⟨hstarted, hsequence⟩ := hnegotiated.notStarted
  have htranscript : flight.transcript.updateHandshakeMessage certificate =
      .ofBytes (hellos ++ flight.serverHello ++ flight.encryptedExtensions ++ certificate) := by
    rw [transcript_of_negotiated hnegotiated, TlsTranscript.updateHandshakeMessage_ofBytes]
  refine ⟨?_, fun k signature hfirst hturns => hnegotiated.authenticates hcertificate hsigningKey hfirst hturns, ?_⟩
  · have hcontent := hnegotiated.signedContent_eq certificate
    rw [signedContent] at hcontent
    rw [← hcontent]
    exact Tls13ServerHelloFlight.isSome_authenticateServer hstarted hsequence hcertificate hsigningKey turns
  · intro result flight' hresult
    obtain ⟨authentication, rfl, hauthenticated⟩ :=
      Tls13ServerHelloFlight.authenticateServer_ok_of_some hstarted hsequence hcertificate hsigningKey hresult
    have hsame : authentication.certificate = certificate :=
      Except.ok.inj (hauthenticated.certificate.symm.trans hcertificate)
    obtain ⟨receiver, hdecrypt⟩ := decrypt_serverFlight hnegotiated hauthenticated
    obtain ⟨batches, hdeframe, hbatches⟩ :=
      deframe_serverFlight (isHandshakeMessage_serverFlight hnegotiated hauthenticated)
    obtain ⟨der, signature, finishedKey, hchecks⟩ :=
      authenticated_checks (by rw [hsame, htranscript]) hsigningKey hauthenticated
    exact ⟨authentication, receiver, _, batches, der, signature, finishedKey, rfl, hsame, hdecrypt, hdeframe, hbatches,
      hchecks⟩

/-- A chain of one certificate and the signing key one, on a flight from negotiation: a signature for the first nonce
leads to an authentication, which the client reads. -/
theorem authenticationFlight_reconstructed_negotiated :
    ∃ flight hellos certificate, Negotiated flight hellos ∧ buildTls13Certificate [[1]] = .ok certificate ∧
      ∀ signature, IsFirstSignature .one (signedContent flight hellos certificate) 0 signature →
        ∃ authentication flight' plaintexts receiver,
          flight.authenticateServer 1 [[1]] .one = some (.ok authentication, flight') ∧
          authentication.certificate = certificate ∧
          decryptRecords (mirroredProtection flight.handshakeRecordProtection)
            (serverFlightCiphertexts flight authentication) = (.ok plaintexts, receiver) := by
  obtain ⟨flight, hellos, hnegotiated⟩ := exists_negotiated
  obtain ⟨certificate, hcertificate⟩ : ∃ certificate, buildTls13Certificate [[1]] = .ok certificate := ⟨_, rfl⟩
  refine ⟨flight, hellos, certificate, hnegotiated, hcertificate, fun signature hsigned => ?_⟩
  obtain ⟨-, hproduces, hreconstructed⟩ :=
    authenticationFlight_reconstructed hnegotiated hcertificate (by decide : (.one : Scalar) ≠ .zero) 1
  obtain ⟨authentication, flight', hauthenticate⟩ := hproduces 0 signature hsigned Nat.one_pos
  obtain ⟨_, receiver, plaintexts, _, _, _, _, hok, hsame, hdecrypt, -⟩ := hreconstructed _ flight' hauthenticate
  cases hok
  exact ⟨authentication, flight', plaintexts, receiver, hauthenticate, hsame, hdecrypt⟩

end BareProxy.Tls
