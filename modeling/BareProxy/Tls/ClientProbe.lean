import BareProxy.Tls.HonestHandshake

/-!
# The client probe

`run` of `tls_client_probe.rs` on its socket: it sends a ClientHello, reads the ServerHello and opens the first protected
record. With the server of this repository at the other end it succeeds, and the server, which it then leaves alone, ends
with the stream.
-/

namespace BareProxy.Tls

open P256 Crypto Reader Conversation ProbeTexts

def alertError (record : TlsPlaintextRecord) : IoError :=
  match TlsAlert.parse record.fragment with
  | .ok alert => invalidData ("TLS peer sent plaintext alert level=" ++ toString alert.level.toNat ++ " description=" ++
      alert.description.debug)
  | .error error => recordError error

def clientError (error : TlsClientHandshakeError) : IoError := invalidData error.text

/-- One turn of the loop of `read_server_hello`. -/
def takeServerHello (deframer : HandshakeDeframer) (wire : Bytes) : Except IoError (Bytes ⊕ HandshakeDeframer) :=
  if wire.getD 0 0 = ContentType.handshake.code then do
    let record ← tlsClientProbe.decodePlaintextRecord wire
    takeMessage "TLS server sent multiple plaintext handshake messages while waiting for ServerHello" deframer record
  else if wire.getD 0 0 = ContentType.alert.code then do
    let record ← tlsClientProbe.decodePlaintextRecord wire
    .error (alertError record)
  else
    .error (invalidData
      ("expected plaintext TLS ServerHello record, got content type " ++ toString (wire.getD 0 0)))

def readServerHello {ρ : Type} [Reader ρ] (stream : ρ) : Except IoError Bytes × ρ :=
  tlsClientProbe.readRecords takeServerHello HandshakeDeframer.new stream

/-- One turn of the loop of `read_first_protected_server_record`. -/
def takeFirstProtected (_ : Unit) (wire : Bytes) : Except IoError (TlsCiphertextRecord ⊕ Unit) :=
  if wire.getD 0 0 = ContentType.changeCipherSpec.code then do
    tlsClientProbe.decodeChangeCipherSpec wire
    return .inr ()
  else if wire.getD 0 0 = ContentType.applicationData.code then do
    let record ← tlsClientProbe.decodeCiphertextRecord wire
    return .inl record
  else if wire.getD 0 0 = ContentType.alert.code then do
    let record ← tlsClientProbe.decodePlaintextRecord wire
    .error (alertError record)
  else
    .error (invalidData ("expected protected TLS handshake record, got content type " ++ toString (wire.getD 0 0)))

def readFirstProtectedServerRecord {ρ : Type} [Reader ρ] (stream : ρ) : Except IoError TlsCiphertextRecord × ρ :=
  tlsClientProbe.readRecords takeFirstProtected () stream

/-- The dialogue on the connected socket, with the record and the hash that the last line of the log is about. -/
def clientProbe (draws : List RandomDraw) (serverName : Bytes) :
    Conversation (TlsPlaintextRecord × ByteArrayN 32) := do
  let client ← Dialogue.ofOption ((Tls13ClientHelloFlight.new draws serverName).map (mapErr clientError))
  writeHandshakeMessage client.clientHello
  let serverHello ← reading readServerHello
  let handshake ← Dialogue.ofExcept (mapErr clientError (client.receiveServerHello serverHello))
  let encryptedHandshake ← reading readFirstProtectedServerRecord
  let (decrypted, handshake) := handshake.decryptServerHandshakeRecord encryptedHandshake
  let decrypted ← Dialogue.ofExcept (mapErr clientError decrypted)
  return (decrypted, handshake.transcript.hash)

/-! ### What the probe reads -/

/-- Loops that take the same records bring the same results. -/
theorem ProbeTexts.Brings.congr {σ α : Type} {take take' : σ → Bytes → Except IoError (α ⊕ σ)}
    (htake : ∀ state wire result, take state wire = .ok result → take' state wire = .ok result) {value : α} {state : σ}
    {wires : List Bytes} (h : ProbeTexts.Brings take value state wires) : ProbeTexts.Brings take' value state wires := by
  induction h with
  | last hwire hlast => exact .last hwire (htake _ _ _ hlast)
  | next hwire hnext _ ih => exact .next hwire (htake _ _ _ hnext) ih

theorem takeMessage_text {several several' : String} {deframer : HandshakeDeframer} {record : TlsPlaintextRecord}
    (htype : record.contentType = .handshake) {result : Bytes ⊕ HandshakeDeframer} :
    takeMessage several deframer record = .ok result ↔ takeMessage several' deframer record = .ok result := by
  cases result with
  | inl message => rw [takeMessage_inl htype, takeMessage_inl htype]
  | inr deframer' => rw [takeMessage_inr htype, takeMessage_inr htype]

/-- A ServerHello is taken from the records that a first ClientHello would be taken from. -/
theorem takeServerHello_iff {deframer : HandshakeDeframer} {wire : Bytes} {result : Bytes ⊕ HandshakeDeframer} :
    takeServerHello deframer wire = .ok result ↔ takeClientHello false deframer wire = .ok result := by
  constructor
  · intro h
    rw [takeServerHello] at h
    split at h
    · rename_i htype
      obtain ⟨record, hdecode, htake⟩ := bind_eq_ok.1 h
      obtain ⟨hvalid, rfl⟩ := decodePlaintextRecord_eq_ok.1 hdecode
      have hhandshake : record.contentType = .handshake := by
        rw [getD_wire] at htype
        rw [← Option.some.injEq, ← ofCode_code, htype]
        rfl
      exact (takeClientHello_handshake htype).2
        ⟨record, ⟨hvalid, hhandshake, Or.inl rfl⟩, rfl, (takeMessage_text hhandshake).1 htake⟩
    · split at h
      · obtain ⟨_, -, h⟩ := bind_eq_ok.1 h
        cases h
      · cases h
  · intro h
    obtain htype | htype := takeClientHello_type h
    · cases ((takeClientHello_changeCipherSpec htype).1 h).2.1
    · obtain ⟨record, hfragment, rfl, htake⟩ := (takeClientHello_handshake htype).1 h
      rw [takeServerHello, if_pos htype]
      exact bind_eq_ok.2 ⟨record, decodePlaintextRecord_eq_ok.2 ⟨hfragment.1, rfl⟩, (takeMessage_text hfragment.2.1).1 htake⟩

theorem takeFirstProtected_iff {state : Unit} {wire : Bytes} {result : TlsCiphertextRecord ⊕ Unit} :
    takeFirstProtected state wire = .ok result ↔ takeClientFinished state wire = .ok result := by
  have htypes : ContentType.applicationData.code ≠ ContentType.changeCipherSpec.code := by decide
  rw [takeFirstProtected, takeClientFinished]
  by_cases hchange : wire.getD 0 0 = ContentType.changeCipherSpec.code
  · rw [if_pos hchange, if_pos hchange, bind_eq_ok, bind_eq_ok]
    simp only [decodeChangeCipherSpec_eq_ok]
  · rw [if_neg hchange, if_neg hchange]
    by_cases hdata : wire.getD 0 0 = ContentType.applicationData.code
    · rw [if_pos hdata, if_neg (not_not.2 hdata), bind_eq_ok, bind_eq_ok]
      simp only [decodeCiphertextRecord_eq_ok]
    · rw [if_neg hdata, if_pos hdata]
      split
      · constructor
        · intro h
          obtain ⟨_, -, h⟩ := bind_eq_ok.1 h
          cases h
        · intro h
          cases h
      · constructor
        · intro h
          cases h
        · intro h
          cases h

theorem means_readServerHello :
    Means (reading readServerHello) fun message received sent =>
      (∃ records, CarriesClientHello false records message ∧ received = records.flatMap TlsPlaintextRecord.wire) ∧
        sent = [] := by
  apply Means.reading
  · intro input input' message h
    obtain ⟨wires, hbrings, hpending⟩ := readRecords_ok h
    obtain ⟨records, rfl, hwhole, hrecords, hmessage, hlast⟩ :=
      brings_clientHello.1 (hbrings.congr fun _ _ _ => takeServerHello_iff.1)
    exact ⟨_, ⟨records, ⟨hwhole, hrecords, hmessage, hlast⟩, rfl⟩, by rw [hpending, List.flatMap_def]⟩
  · rintro message _ ⟨records, ⟨hwhole, hrecords, hmessage, hlast⟩, rfl⟩ input rest hclean hpending
    rw [List.flatMap_def] at hpending
    have hbrings : ProbeTexts.Brings (takeClientHello false) message HandshakeDeframer.new (records.map TlsPlaintextRecord.wire) :=
      brings_clientHello.2 ⟨records, rfl, hwhole, hrecords, hmessage, hlast⟩
    exact readRecords_clean (hbrings.congr fun _ _ _ => takeServerHello_iff.2) hclean hpending

theorem means_readFirstProtectedServerRecord :
    Means (reading readFirstProtectedServerRecord) fun record received sent =>
      CarriesFinished record received ∧ sent = [] := by
  apply Means.reading
  · intro input input' record h
    obtain ⟨wires, hbrings, hpending⟩ := readRecords_ok h
    obtain ⟨compatibility, hcompatibility, hvalid, rfl⟩ :=
      brings_clientFinished.1 (hbrings.congr fun _ _ _ => takeFirstProtected_iff.1)
    refine ⟨_, ⟨compatibility, hcompatibility, hvalid, rfl⟩, ?_⟩
    rw [hpending, List.flatten_append, List.flatten_singleton, List.flatMap_def]
  · rintro record _ ⟨compatibility, hcompatibility, hvalid, rfl⟩ input rest hclean hpending
    have hbrings : ProbeTexts.Brings takeClientFinished record ()
        (compatibility.map TlsPlaintextRecord.wire ++ [record.serialize]) :=
      brings_clientFinished.2 ⟨compatibility, hcompatibility, hvalid, rfl⟩
    refine readRecords_clean (hbrings.congr fun _ _ _ => takeFirstProtected_iff.2) hclean ?_
    rw [hpending, List.flatten_append, List.flatten_singleton, List.flatMap_def]

/-! ### The conversations of the probe -/

/-- What the probe sends, what it receives and what it opens. -/
inductive ProbeConversation (draws : List RandomDraw) (serverName : Bytes) :
    TlsPlaintextRecord × ByteArrayN 32 → Bytes → Bytes → Prop
  | opened {client : Tls13ClientHelloFlight} {records : List TlsPlaintextRecord} {serverHello received : Bytes}
      {handshake handshake' : Tls13ClientHandshakeState} {record : TlsCiphertextRecord} {decrypted : TlsPlaintextRecord}
      (hnew : Tls13ClientHelloFlight.new draws serverName = some (.ok client))
      (hvalid : validatePlaintextFragment .handshake client.clientHello = .ok ())
      (hcarries : CarriesClientHello false records serverHello)
      (hreceive : client.receiveServerHello serverHello = .ok handshake) (hrecord : CarriesFinished record received)
      (hdecrypt : handshake.decryptServerHandshakeRecord record = (.ok decrypted, handshake')) :
      ProbeConversation draws serverName (decrypted, handshake'.transcript.hash)
        (records.flatMap TlsPlaintextRecord.wire ++ received) (handshakeRecord client.clientHello)

/-- The probe succeeds exactly in these conversations, whatever records and segments the server's bytes come in. -/
theorem means_clientProbe (draws : List RandomDraw) (serverName : Bytes) :
    Means (clientProbe draws serverName) (ProbeConversation draws serverName) := by
  have hopen (handshake : Tls13ClientHandshakeState) := means_readFirstProtectedServerRecord.bind fun record =>
    (Means.ofExcept (mapErr clientError (handshake.decryptServerHandshakeRecord record).1)).bind fun decrypted =>
      Means.pure (decrypted, (handshake.decryptServerHandshakeRecord record).2.transcript.hash)
  have hread (client : Tls13ClientHelloFlight) := (means_writeHandshakeMessage client.clientHello).bind fun _ =>
    means_readServerHello.bind fun serverHello =>
      (Means.ofExcept (mapErr clientError (client.receiveServerHello serverHello))).bind hopen
  apply ((Means.ofOption ((Tls13ClientHelloFlight.new draws serverName).map (mapErr clientError))).bind hread).of_iff
  intro result received sent
  constructor
  · rintro ⟨client, _, _, _, _, ⟨hnew, rfl, rfl⟩, ⟨_, _, _, _, _, ⟨hvalid, rfl, rfl⟩, ⟨serverHello, _, _, _, _,
      ⟨⟨records, hcarries, rfl⟩, rfl⟩, ⟨handshake, _, _, _, _, ⟨hreceive, rfl, rfl⟩, ⟨record, _, _, _, _,
      ⟨hrecord, rfl⟩, ⟨decrypted, _, _, _, _, ⟨hdecrypt, rfl, rfl⟩, ⟨rfl, rfl, rfl⟩, rfl, rfl⟩, rfl, rfl⟩, rfl, rfl⟩,
      rfl, rfl⟩, rfl, rfl⟩, rfl, rfl⟩
    rw [map_mapErr_eq_ok] at hnew
    rw [mapErr_eq_ok] at hreceive hdecrypt
    simp only [List.nil_append, List.append_nil]
    exact .opened hnew hvalid hcarries hreceive hrecord (Prod.ext hdecrypt rfl)
  · rintro ⟨hnew, hvalid, hcarries, hreceive, hrecord, hdecrypt⟩
    refine ⟨_, [], _, [], _, ⟨map_mapErr_eq_ok.2 hnew, rfl, rfl⟩, ⟨(), [], _, _, [], ⟨hvalid, rfl, rfl⟩, ⟨_, _, _, [], [],
      ⟨⟨_, hcarries, rfl⟩, rfl⟩, ⟨_, [], _, [], [], ⟨mapErr_eq_ok.2 hreceive, rfl, rfl⟩, ⟨_, _, [], [], [],
      ⟨hrecord, rfl⟩, ⟨_, [], [], [], [], ⟨mapErr_eq_ok.2 (congrArg Prod.fst hdecrypt), rfl, rfl⟩, ⟨?_, rfl, rfl⟩, rfl, rfl⟩,
      ?_, rfl⟩, rfl, rfl⟩, rfl, rfl⟩, rfl, ?_⟩, rfl, rfl⟩
    · rw [hdecrypt]
    · exact (List.append_nil _).symm
    · exact (List.append_nil _).symm

/-! ### The server when the client is gone -/

theorem readClientFinishedRecord_end {input : Source} (hclean : Clean input) (hpending : pending input = []) :
    ∃ input', readClientFinishedRecord input = (.error failedToFill, input') := by
  obtain ⟨input', hread, -⟩ := @readWireRecord_end tlsProbe _ _ _ hclean hpending
  exact ⟨input', by rw [readClientFinishedRecord, readRecords_eq, hread]⟩

/-- On a sound stream a write goes out, whatever is there to read. -/
theorem exists_write {write : Conversation Unit} {bytes : Bytes}
    (h : Means write fun _ received sent => received = [] ∧ sent = bytes) {stream : Endpoint} (hsound : Sound stream) :
    ∃ stream', write stream = some (.ok (), stream') ∧ Sound stream' ∧
      pending stream'.input = pending stream.input ∧ stream'.output.written = stream.output.written ++ bytes :=
  @Means.exists_run _ _ _ h () _ _ ⟨rfl, rfl⟩ _ _ hsound (List.nil_append _).symm

/-- The flight of the server goes out before it finds the end of the stream. -/
theorem finishHandshake_end {turns : Nat} {identity : TlsIdentity} {flight flight' : Tls13ServerHelloFlight}
    {authentication : Tls13ServerAuthenticationFlight} (hauthenticate : flight.authenticateServer turns
      identity.certificateChain identity.signingKey = some (.ok authentication, flight'))
    {stream : Endpoint} (hsound : Sound stream) (hpending : pending stream.input = []) :
    ∃ stream', finishHandshake turns identity flight stream = some (.error failedToFill, stream') ∧
      stream'.output.written = stream.output.written ++
        (serverFlightCiphertexts flight' authentication).flatMap TlsCiphertextRecord.serialize := by
  obtain ⟨stream₁, hfirst, hsound₁, hpending₁, hwritten₁⟩ :=
    exists_write (Means.writeFlushed flight'.encryptedExtensionsRecord.serialize) hsound
  obtain ⟨stream₂, hsecond, hsound₂, hpending₂, hwritten₂⟩ :=
    exists_write (means_writeCiphertextRecords authentication.certificateRecords) hsound₁
  obtain ⟨stream₃, hthird, hsound₃, hpending₃, hwritten₃⟩ :=
    exists_write (means_writeCiphertextRecords authentication.certificateVerifyRecords) hsound₂
  obtain ⟨stream₄, hfourth, hsound₄, hpending₄, hwritten₄⟩ :=
    exists_write (means_writeCiphertextRecords authentication.finishedRecords) hsound₃
  rw [hpending₃, hpending₂, hpending₁, hpending] at hpending₄
  obtain ⟨input', hread⟩ := readClientFinishedRecord_end hsound₄.clean hpending₄
  have hend : reading readClientFinishedRecord stream₄ =
      some (.error failedToFill, { stream₄ with input := input' }) := reading_eq.2 ⟨hread, rfl⟩
  refine ⟨{ stream₄ with input := input' }, ?_, ?_⟩
  · calc finishHandshake turns identity flight stream
      _ = _ := Dialogue.bind_of_ok (Dialogue.ofOption_eq_ok.2 ⟨authenticateServer_result.2 hauthenticate, rfl⟩)
      _ = _ := Dialogue.bind_of_ok hfirst
      _ = _ := Dialogue.bind_of_ok hsecond
      _ = _ := Dialogue.bind_of_ok hthird
      _ = _ := Dialogue.bind_of_ok hfourth
      _ = _ := Dialogue.bind_of_error hend
  · show stream₄.output.written = _
    rw [hwritten₄, hwritten₃, hwritten₂, hwritten₁]
    simp only [serverFlightCiphertexts, List.flatMap_cons, List.flatMap_append, List.append_assoc]

/-- A server whose client goes away after a first ClientHello has sent its whole flight. -/
theorem serverHandshake_end {draws : List RandomDraw} {turns : Nat} {identities : TlsIdentityStore}
    {configuration : Option Config} {records : List TlsPlaintextRecord} {clientHello1 : Bytes} {clientHello : ClientHello}
    {identity : TlsIdentity} {flight flight' : Tls13ServerHelloFlight} {authentication : Tls13ServerAuthenticationFlight}
    (hcarries : CarriesClientHello false records clientHello1)
    (hserved : IsServed identities configuration clientHello1 clientHello identity)
    (hfirst : negotiateTls13ServerFirstFlight draws clientHello1 = some (.ok (.serverHello flight)))
    (hauthenticate : flight.authenticateServer turns identity.certificateChain identity.signingKey =
      some (.ok authentication, flight'))
    {stream : Endpoint} (hsound : Sound stream)
    (hpending : pending stream.input = records.flatMap TlsPlaintextRecord.wire) :
    ∃ stream', serverHandshake draws turns identities configuration stream = some (.error failedToFill, stream') ∧
      stream'.output.written = stream.output.written ++ (handshakeRecord flight.serverHello ++
        compatibilityRecord (!clientHello.legacySessionId.isEmpty) ++
        (serverFlightCiphertexts flight' authentication).flatMap TlsCiphertextRecord.serialize) := by
  obtain ⟨hparse, serverName, hname, hselect, hroute⟩ := hserved
  obtain ⟨stream₁, hread, hsound₁, hpending₁, hwritten₁⟩ := (means_readClientHello false).exists_run
    ⟨⟨records, hcarries, rfl⟩, rfl⟩ hsound (hpending.trans (List.append_nil _).symm)
  obtain ⟨stream₂, hhellos, hsound₂, hpending₂, hwritten₂⟩ :=
    (means_exchangeHellos draws (!clientHello.legacySessionId.isEmpty) clientHello1).exists_run (.direct hfirst) hsound₁
      (hpending₁.trans (List.nil_append _).symm)
  obtain ⟨stream', hfinish, hwritten'⟩ := finishHandshake_end hauthenticate hsound₂ hpending₂
  refine ⟨stream', ?_, ?_⟩
  · calc serverHandshake draws turns identities configuration stream
      _ = _ := Dialogue.bind_of_ok hread
      _ = _ := Dialogue.bind_of_ok (Dialogue.ofExcept_eq_ok.2 ⟨mapErr_eq_ok.2 hparse, rfl⟩)
      _ = _ := Dialogue.bind_of_ok (Dialogue.ofExcept_eq_ok.2 ⟨okOr_eq_ok.2 hname, rfl⟩)
      _ = (exchangeHellos draws (!clientHello.legacySessionId.isEmpty) clientHello1 >>= fun flight =>
            finishHandshake turns identity flight >>= fun state => pure (some state)) stream₁ := by
        simp only [serveClient, hselect, hroute, if_true]
      _ = _ := Dialogue.bind_of_ok hhellos
      _ = _ := Dialogue.bind_of_error hfinish
  · rw [hwritten', hwritten₂, hwritten₁]
    simp only [List.append_nil, List.append_assoc]

/-! ### The probe and the server -/

theorem Tls13ClientHelloFlight.transcript_of_new {draws : List RandomDraw} {serverName : Bytes}
    {client : Tls13ClientHelloFlight} (h : Tls13ClientHelloFlight.new draws serverName = some (.ok client)) :
    client.transcript = .ofBytes client.clientHello := by
  rw [Tls13ClientHelloFlight.new.eq_def] at h
  split at h
  · cases h
  · split at h
    · cases h
    · cases h
    · split at h
      · cases h
      · cases h
      · obtain ⟨clientHello, -, h⟩ := bind_eq_ok.1 (Option.some.inj h)
        cases h
        exact TlsTranscript.updateHandshakeMessage_new clientHello

theorem Tls13ClientHelloFlight.transcript_of_receive {client : Tls13ClientHelloFlight} {serverHello : Bytes}
    {state : Tls13ClientHandshakeState} (h : client.receiveServerHello serverHello = .ok state) :
    state.transcript = client.transcript.updateHandshakeMessage serverHello := by
  obtain ⟨_, -, h⟩ := bind_eq_ok.1 h
  obtain ⟨_, -, h⟩ := bind_eq_ok.1 h
  obtain ⟨_, -, h⟩ := bind_eq_ok.1 h
  obtain ⟨_, -, h⟩ := bind_eq_ok.1 h
  obtain ⟨_, -, h⟩ := bind_eq_ok.1 h
  cases h
  rfl

/-- The client opens EncryptedExtensions with the keys on which it agrees with the server. -/
theorem Tls13ClientHandshakeState.Agrees.decryptServerHandshakeRecord {client : Tls13ClientHandshakeState}
    {flight : Tls13ServerHelloFlight} {hellos : Bytes} (h : client.Agrees flight) (hnegotiated : Negotiated flight hellos) :
    flight.encryptedExtensionsRecord.IsValid ∧
    ∃ client', client.decryptServerHandshakeRecord flight.encryptedExtensionsRecord =
      (.ok ⟨.handshake, tlsLegacyRecordVersion, flight.encryptedExtensions⟩, client') ∧
        client'.transcript = client.transcript := by
  obtain ⟨_, _, _, _, _, _, keySchedule, -, hanswers⟩ := hnegotiated.answers
  have hencrypt := hanswers.encryptedExtensionsRecord_eq
  have hprotection : client.handshakeRecordProtection =
      .new keySchedule.clientKey keySchedule.clientIv keySchedule.serverKey keySchedule.serverIv := by
    rw [h.protection_eq, mirroredProtection, hanswers.protection_eq]
  have hdecrypt := @Tls13RecordProtection.decryptRecord_encryptRecord _ _ client.handshakeRecordProtection _ _ _
    (by rw [hprotection]; rfl) (by rw [hprotection]; rfl) (by rw [hprotection]; rfl) hencrypt
  refine ⟨Tls13RecordProtection.isValid_of_encryptRecord hencrypt, ?_⟩
  simp only [Tls13ClientHandshakeState.decryptServerHandshakeRecord, hdecrypt, ne_eq, not_true_eq_false, if_false]
  exact ⟨_, rfl, rfl⟩

/-- A ServerHello is sent in a record that the probe takes. -/
theorem carriesServerHello {draws : List RandomDraw} {clientHelloMessage : Bytes} {flight : Tls13ServerHelloFlight}
    (h : negotiateTls13ServerFirstFlight draws clientHelloMessage = some (.ok (.serverHello flight))) :
    CarriesClientHello false [⟨.handshake, tlsLegacyRecordVersion, flight.serverHello⟩] flight.serverHello := by
  obtain ⟨_, _, _, _, _, _, _, -, hanswers⟩ := (Negotiated.firstFlight h).answers
  have hvalid := validate_serverHello_of_firstFlight h
  obtain ⟨-, hmessage⟩ := encodeHandshakeMessage_ok.1 hanswers.serverHello_eq
  rw [hmessage] at hvalid ⊢
  exact carriesClientHello_single hvalid

/-- The probe and a server that has an identity and a route for its name, and enough turns for its signer: on every stream
that brings the server's bytes, in whatever segments, the probe succeeds, with the server's EncryptedExtensions and the hash of the two hellos, and on
every stream that brings the probe's bytes and ends the server sends these bytes and fails with the end of the stream. -/
theorem clientProbe_serverHandshake {serverName : Bytes} {clientRandom serverRandom : ByteArrayN 32}
    {clientKey serverKey : Scalar} (hname : isValidServerName serverName = true) (hclient : clientKey ≠ .zero)
    (hserver : serverKey ≠ .zero) (hrandom : serverRandom ≠ tls13HelloRetryRequestRandom)
    {clientDraws serverDraws clientRest serverRest : List RandomDraw}
    (hclientDraws : generateEphemeralP256PrivateKey clientDraws = some (.ok ⟨clientKey, hclient⟩, clientRest))
    (hserverDraws : generateEphemeralP256PrivateKey serverDraws =
      some (.ok ⟨serverKey, hserver⟩, .ok serverRandom :: serverRest))
    {identities : TlsIdentityStore} {configuration : Option Config} {identity : TlsIdentity} {certificate : Bytes}
    (hselect : identities.select (toAsciiLowercase serverName) = some identity)
    (hroute : hasRoute configuration (toAsciiLowercase serverName) = true)
    (hcertificate : buildTls13Certificate identity.certificateChain = .ok certificate)
    (hsigningKey : identity.signingKey ≠ .zero) :
    ∃ client flight,
      Tls13ClientHelloFlight.new (.ok clientRandom :: clientDraws) serverName = some (.ok client) ∧
      negotiateTls13ServerFirstFlight serverDraws client.clientHello = some (.ok (.serverHello flight)) ∧
      (∀ k signature,
        IsFirstSignature identity.signingKey (signedContent flight client.clientHello certificate) k signature →
          ∀ turns > k, ∃ authentication flight',
            flight.authenticateServer turns identity.certificateChain identity.signingKey =
              some (.ok authentication, flight')) ∧
      ∀ turns result flight',
        flight.authenticateServer turns identity.certificateChain identity.signingKey = some (result, flight') →
        ∃ authentication, result = .ok authentication ∧ ∀ fromServer,
          fromServer = handshakeRecord flight.serverHello ++
            (serverFlightCiphertexts flight authentication).flatMap TlsCiphertextRecord.serialize →
          (∀ stream rest, Sound stream → pending stream.input = fromServer ++ rest →
            ∃ stream', clientProbe (.ok clientRandom :: clientDraws) serverName stream =
                some (.ok (⟨.handshake, tlsLegacyRecordVersion, flight.encryptedExtensions⟩,
                  sha256 (client.clientHello ++ flight.serverHello)), stream') ∧
              stream'.output.written = stream.output.written ++ handshakeRecord client.clientHello) ∧
          ∀ stream, Sound stream → pending stream.input = handshakeRecord client.clientHello →
            ∃ stream', serverHandshake serverDraws turns identities configuration stream =
                some (.error failedToFill, stream') ∧
              stream'.output.written = stream.output.written ++ fromServer := by
  obtain ⟨client, clientHello, flight, state, hnew, hcarries, hparse, hserverName, hsession, hfirst, hreceive, hagrees⟩ :=
    @exists_agreeing _ clientRandom _ _ _ hname hclient hserver hrandom _ _ _ _ hclientDraws hserverDraws
  have hnegotiated := Negotiated.firstFlight hfirst
  have hinv := hnegotiated.runInvariant
  refine ⟨client, flight, hnew, hfirst,
    fun _ _ hsigned _ hturns => hnegotiated.authenticates hcertificate hsigningKey hsigned hturns,
    fun turns result flight' hresult => ?_⟩
  obtain ⟨authentication, rfl, hauthenticated⟩ := Tls13ServerHelloFlight.authenticateServer_ok_of_some hinv.started_eq
    (hinv.writeSequenceNumber_eq hinv.started_eq) hcertificate hsigningKey hresult
  refine ⟨authentication, rfl, fun fromServer hfromServer => ⟨?_, ?_⟩⟩
  · intro stream rest hsound hpending
    obtain ⟨hvalid, state', hdecrypt, htranscript⟩ := hagrees.decryptServerHandshakeRecord hnegotiated
    have hconversation : ProbeConversation (.ok clientRandom :: clientDraws) serverName _ _ _ :=
      .opened hnew (hcarries.records_valid _ (List.mem_singleton_self _)).isValid.1 (carriesServerHello hfirst) hreceive
        ⟨[], by simp, hvalid, (List.nil_append _).symm⟩ hdecrypt
    rw [htranscript, Tls13ClientHelloFlight.transcript_of_receive hreceive,
      Tls13ClientHelloFlight.transcript_of_new hnew, TlsTranscript.updateHandshakeMessage_ofBytes,
      TlsTranscript.hash_ofBytes] at hconversation
    rw [hfromServer, serverFlightCiphertexts, List.flatMap_cons, List.append_assoc, List.append_assoc,
      ← List.append_assoc (handshakeRecord _)] at hpending
    obtain ⟨stream', hrun, -, -, hwritten⟩ := (means_clientProbe _ serverName).exists_run hconversation hsound
      (by rw [List.flatMap_singleton]; exact hpending)
    exact ⟨stream', hrun, hwritten⟩
  · intro stream hsound hpending
    have hserved : IsServed identities configuration client.clientHello clientHello identity :=
      ⟨hparse, _, hserverName, hselect, hroute⟩
    obtain ⟨stream', hrun, hwritten⟩ := serverHandshake_end hcarries hserved hfirst hresult hsound
      (hpending.trans (List.flatMap_singleton _ _).symm)
    refine ⟨stream', hrun, ?_⟩
    have hsame : serverFlightCiphertexts flight' authentication = serverFlightCiphertexts flight authentication := by
      obtain ⟨_, hflight⟩ := hauthenticated.flight_eq
      rw [serverFlightCiphertexts, serverFlightCiphertexts, hflight]
    rw [hwritten, hfromServer, hsession, hsame]
    simp only [List.isEmpty_nil, Bool.not_true, compatibilityRecord, Bool.false_eq_true, if_false, List.append_nil]

/-- A probe and a server that draw the keys one and two. -/
theorem clientProbe_serverHandshake_one_two :
    ∃ client flight certificate,
      buildTls13Certificate [[1]] = .ok certificate ∧
      Tls13ClientHelloFlight.new [.ok (Vector.replicate 32 5), .ok (Residue.one : Scalar).value.toBeBytes]
        (ascii "Example.com") = some (.ok client) ∧
      ∀ signature, IsFirstSignature .one (signedContent flight client.clientHello certificate) 0 signature →
        ∃ authentication, ∀ stream, Sound stream →
          pending stream.input = handshakeRecord flight.serverHello ++
            (serverFlightCiphertexts flight authentication).flatMap TlsCiphertextRecord.serialize →
          ∃ stream', clientProbe [.ok (Vector.replicate 32 5), .ok (Residue.one : Scalar).value.toBeBytes]
            (ascii "Example.com") stream = some (.ok (⟨.handshake, tlsLegacyRecordVersion, flight.encryptedExtensions⟩,
              sha256 (client.clientHello ++ flight.serverHello)), stream') := by
  obtain ⟨certificate, hcertificate⟩ : ∃ certificate, buildTls13Certificate [[1]] = .ok certificate := ⟨_, rfl⟩
  obtain ⟨client, flight, hnew, -, hproduces, hserver⟩ :=
    @clientProbe_serverHandshake _ (Vector.replicate 32 5) (Vector.replicate 32 7) .one _ isValidServerName_example
      (by decide) two_ne_zero_scalar (by decide) _ _ _ _
      (generateEphemeralP256PrivateKey_toBeBytes .one (by decide) [])
      (generateEphemeralP256PrivateKey_toBeBytes _ two_ne_zero_scalar [.ok (Vector.replicate 32 7)])
      exampleIdentities none _ _ exampleIdentities_select rfl hcertificate (by decide)
  refine ⟨client, flight, certificate, hcertificate, hnew, fun signature hsigned => ?_⟩
  obtain ⟨authentication, flight', hauthenticate⟩ := hproduces 0 signature hsigned 1 Nat.one_pos
  obtain ⟨_, hok, hboth⟩ := hserver 1 _ flight' hauthenticate
  cases hok
  refine ⟨authentication, fun stream hsound hpending => ?_⟩
  obtain ⟨stream', hrun, -⟩ := (hboth _ rfl).1 stream [] hsound (hpending.trans (List.append_nil _).symm)
  exact ⟨stream', hrun⟩

end BareProxy.Tls
