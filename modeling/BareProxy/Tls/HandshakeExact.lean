import BareProxy.Tls.AuthenticationFlight
import BareProxy.Tls.HandshakeCompletion
import BareProxy.Tls.ServerFlights

/-!
# The handshakes of a server

`Handshake` lists the conversations that a server takes part in, as what the client sends, what the server sends and
the outcome: it is the protocol without records read one by one, loops and states. The handshake on a connection means
exactly this relation.
-/

namespace BareProxy.Tls

open Reader Conversation

/-! ### What the server writes -/

/-- A message in a record of its own. -/
def handshakeRecord (message : Bytes) : Bytes :=
  TlsPlaintextRecord.wire ⟨.handshake, tlsLegacyRecordVersion, message⟩

/-- The compatibility record after the first message, in compatibility mode. -/
def compatibilityRecord (compatibilityMode : Bool) : Bytes :=
  if compatibilityMode then TlsPlaintextRecord.wire ⟨.changeCipherSpec, tlsLegacyRecordVersion, [1]⟩ else []

/-- The fatal alert for a name that is not known. -/
def unrecognizedNameAlert : Bytes := TlsPlaintextRecord.wire ⟨.alert, tlsLegacyRecordVersion, [2, 112]⟩

theorem writePlaintextRecord_eq {contentType : ContentType} {fragment : Bytes}
    (hvalid : validatePlaintextFragment contentType fragment = .ok ()) (htype : contentType ≠ .applicationData) :
    writePlaintextRecord contentType fragment =
      writeFlushed (TlsPlaintextRecord.wire ⟨contentType, tlsLegacyRecordVersion, fragment⟩) := by
  have hrecord := TlsPlaintextRecord.new_eq_ok.2 ⟨hvalid, rfl⟩
  have hwire : TlsPlaintextRecord.serialize ⟨contentType, tlsLegacyRecordVersion, fragment⟩ =
      .ok (TlsPlaintextRecord.wire ⟨contentType, tlsLegacyRecordVersion, fragment⟩) := by
    rw [TlsPlaintextRecord.serialize, hvalid, ok_bind, ensure_of htype]
    rfl
  funext stream
  rw [writePlaintextRecord, hrecord, mapErr_ok, Dialogue.bind_of_ok (Dialogue.ofExcept_eq_ok.2 ⟨rfl, rfl⟩), hwire]
  rfl

/-- A message is sent when it fits into a record. -/
theorem means_writeHandshakeMessage (message : Bytes) :
    Means (writeHandshakeMessage message) fun _ received sent =>
      validatePlaintextFragment .handshake message = .ok () ∧ received = [] ∧ sent = handshakeRecord message := by
  by_cases hvalid : validatePlaintextFragment .handshake message = .ok ()
  · rw [writeHandshakeMessage, writePlaintextRecord_eq hvalid (by decide)]
    apply (Means.writeFlushed _).of_iff
    intro value received sent
    exact ⟨fun h => ⟨hvalid, h⟩, fun h => h.2⟩
  · constructor
    · intro stream stream' value h
      obtain ⟨record, _, hrecord, -⟩ := Dialogue.bind_eq_ok.1 h
      have hnew := mapErr_eq_ok.1 (Dialogue.ofExcept_eq_ok.1 hrecord).1
      exact absurd (TlsPlaintextRecord.new_eq_ok.1 hnew).1 hvalid
    · intro value received sent h
      exact absurd h.1 hvalid

theorem means_writeCompatibilityChangeCipherSpec :
    Means writeCompatibilityChangeCipherSpec fun _ received sent =>
      received = [] ∧ sent = compatibilityRecord true := by
  rw [writeCompatibilityChangeCipherSpec, writePlaintextRecord_eq rfl (by decide)]
  exact Means.writeFlushed _

theorem means_writeFatalAlert :
    Means (writeFatalAlert .unrecognizedName) fun _ received sent => received = [] ∧ sent = unrecognizedNameAlert :=
  Means.writeFlushed unrecognizedNameAlert

theorem means_writeEach (records : List TlsCiphertextRecord) :
    Means (writeEach records) fun _ received sent =>
      received = [] ∧ sent = records.flatMap TlsCiphertextRecord.serialize := by
  induction records with
  | nil =>
    apply (Means.pure ()).of_iff
    intro value received sent
    exact ⟨fun h => h.2, fun h => ⟨rfl, h⟩⟩
  | cons record records ih =>
    apply ((Means.writeAll record.serialize).bind fun _ => ih).of_iff
    intro value received sent
    constructor
    · rintro ⟨_, _, _, _, _, ⟨rfl, rfl⟩, ⟨rfl, rfl⟩, rfl, rfl⟩
      exact ⟨rfl, rfl⟩
    · rintro ⟨rfl, rfl⟩
      exact ⟨(), [], [], _, _, ⟨rfl, rfl⟩, ⟨rfl, rfl⟩, rfl, rfl⟩

theorem means_writeCiphertextRecords (records : List TlsCiphertextRecord) :
    Means (writeCiphertextRecords records) fun _ received sent =>
      received = [] ∧ sent = records.flatMap TlsCiphertextRecord.serialize := by
  apply ((means_writeEach records).bind fun _ => Means.flush).of_iff
  intro value received sent
  constructor
  · rintro ⟨_, _, _, _, _, ⟨rfl, rfl⟩, ⟨rfl, rfl⟩, rfl, rfl⟩
    exact ⟨rfl, List.append_nil _⟩
  · rintro ⟨rfl, rfl⟩
    exact ⟨(), [], [], _, [], ⟨rfl, rfl⟩, ⟨rfl, rfl⟩, rfl, (List.append_nil _).symm⟩

/-- What follows the compatibility record goes out behind it. -/
theorem means_compatibility (compatibilityMode : Bool) {α : Type} {next : Conversation α}
    {meaning : α → Bytes → Bytes → Prop} (hnext : Means next meaning) :
    Means (do
      if compatibilityMode then writeCompatibilityChangeCipherSpec
      next) fun value received sent =>
        ∃ sent', meaning value received sent' ∧ sent = compatibilityRecord compatibilityMode ++ sent' := by
  cases compatibilityMode with
  | false =>
    apply hnext.of_iff
    intro value received sent
    constructor
    · intro h
      exact ⟨sent, h, rfl⟩
    · rintro ⟨sent', h, rfl⟩
      exact h
  | true =>
    apply (means_writeCompatibilityChangeCipherSpec.bind fun _ => hnext).of_iff
    intro value received sent
    constructor
    · rintro ⟨_, _, _, _, sent', ⟨rfl, rfl⟩, h, rfl, rfl⟩
      exact ⟨sent', h, rfl⟩
    · rintro ⟨sent', h, rfl⟩
      exact ⟨(), [], received, _, sent', ⟨rfl, rfl⟩, h, rfl, rfl⟩

/-! ### The messages of the server fit into a record -/

theorem validate_serverHelloBody {clientHello : ClientHello} {random : ByteArrayN 32} {extensions message : Bytes}
    (hsession : clientHello.legacySessionId.length ≤ 32) (hextensions : extensions.length ≤ 256)
    (h : encodeHandshakeMessage handshakeTypeServerHello (serverHelloBody clientHello random extensions) = .ok message) :
    validatePlaintextFragment .handshake message = .ok () := by
  obtain ⟨-, rfl⟩ := encodeHandshakeMessage_ok.1 h
  rw [validatePlaintextFragment_handshake, length_handshakeMessage, length_serverHelloBody, handshakeHeaderSize,
    tlsPlaintextFragmentLimit]
  omega

theorem Tls13ServerHelloFlight.Answers.validate_serverHello {flight : Tls13ServerHelloFlight} {clientHelloMessage : Bytes}
    {clientHello : ClientHello} {transcript : TlsTranscript} {serverKeyShare : ByteArrayN 65}
    {sharedSecret serverRandom : ByteArrayN 32} {keySchedule : Tls13HandshakeKeySchedule}
    (h : flight.Answers clientHelloMessage clientHello transcript serverKeyShare sharedSecret serverRandom keySchedule)
    (hsession : clientHello.legacySessionId.length ≤ 32) :
    validatePlaintextFragment .handshake flight.serverHello = .ok () := by
  apply validate_serverHelloBody hsession _ h.serverHello_eq
  rw [← serverHelloExtensions, length_serverHelloExtensions]
  decide

theorem validate_serverHello_of_firstFlight {draws : List RandomDraw} {clientHelloMessage : Bytes}
    {flight : Tls13ServerHelloFlight}
    (h : negotiateTls13ServerFirstFlight draws clientHelloMessage = some (.ok (.serverHello flight))) :
    validatePlaintextFragment .handshake flight.serverHello = .ok () := by
  obtain ⟨clientHello, haccept, ⟨_, hflight, hnegotiate⟩ | ⟨_, hretry, -⟩⟩ := negotiateTls13ServerFirstFlight_ok h
  · cases hflight
    obtain ⟨_, _, _, _, hanswers⟩ := negotiateTls13ServerHelloFromClientHello_ok hnegotiate
    exact hanswers.validate_serverHello (length_legacySessionId (acceptClientHello_ok haccept))
  · cases hretry

theorem validate_helloRetryRequest {draws : List RandomDraw} {clientHelloMessage : Bytes} {retry : Tls13HelloRetryFlight}
    (h : negotiateTls13ServerFirstFlight draws clientHelloMessage = some (.ok (.helloRetry retry))) :
    validatePlaintextFragment .handshake retry.helloRetryRequest = .ok () := by
  obtain ⟨clientHello, haccept, ⟨_, hflight, -⟩ | ⟨_, hretry, -, hbuild⟩⟩ := negotiateTls13ServerFirstFlight_ok h
  · cases hflight
  · cases hretry
    exact validate_serverHelloBody (length_legacySessionId (acceptClientHello_ok haccept)) (by decide)
      (helloRetryFlight_ok hbuild).2.1

theorem validate_serverHello_of_continue {retry : Tls13HelloRetryFlight} {draws : List RandomDraw}
    {clientHelloMessage : Bytes} {flight : Tls13ServerHelloFlight}
    (h : retry.continueWithClientHello draws clientHelloMessage = some (.ok flight)) :
    validatePlaintextFragment .handshake flight.serverHello = .ok () := by
  obtain ⟨clientHello, haccept, -, hnegotiate⟩ := continueWithClientHello_ok h
  obtain ⟨_, _, _, _, hanswers⟩ := negotiateTls13ServerHelloFromClientHello_ok hnegotiate
  exact hanswers.validate_serverHello (length_legacySessionId (acceptClientHello_ok haccept))

/-! ### The hellos -/

/-- How the hellos go on after the first ClientHello: the flight, what is received and what is sent. -/
inductive Hellos (draws : List RandomDraw) (compatibilityMode : Bool) (clientHello1 : Bytes) :
    Tls13ServerHelloFlight → Bytes → Bytes → Prop
  | direct {flight : Tls13ServerHelloFlight}
      (h : negotiateTls13ServerFirstFlight draws clientHello1 = some (.ok (.serverHello flight))) :
      Hellos draws compatibilityMode clientHello1 flight []
        (handshakeRecord flight.serverHello ++ compatibilityRecord compatibilityMode)
  | retried {flight : Tls13ServerHelloFlight} {retry : Tls13HelloRetryFlight} {records : List TlsPlaintextRecord}
      {clientHello2 : Bytes}
      (hretry : negotiateTls13ServerFirstFlight draws clientHello1 = some (.ok (.helloRetry retry)))
      (hcarries : CarriesClientHello true records clientHello2)
      (hcontinue : retry.continueWithClientHello draws clientHello2 = some (.ok flight)) :
      Hellos draws compatibilityMode clientHello1 flight (records.flatMap TlsPlaintextRecord.wire)
        (handshakeRecord retry.helloRetryRequest ++ compatibilityRecord compatibilityMode ++
          handshakeRecord flight.serverHello)

theorem map_mapErr_eq_ok {α ε ε' : Type} {wrap : ε → ε'} {result : Option (Except ε α)} {value : α} :
    result.map (mapErr wrap) = some (.ok value) ↔ result = some (.ok value) := by
  rcases result with _ | error | found <;> simp

theorem means_sendServerHello (draws : List RandomDraw) (compatibilityMode : Bool) (flight : Tls13ServerHelloFlight) :
    Means (sendFirstFlight draws compatibilityMode (.serverHello flight)) fun value received sent =>
      validatePlaintextFragment .handshake flight.serverHello = .ok () ∧ value = flight ∧ received = [] ∧
        sent = handshakeRecord flight.serverHello ++ compatibilityRecord compatibilityMode := by
  apply ((means_writeHandshakeMessage flight.serverHello).bind fun _ =>
    means_compatibility compatibilityMode (Means.pure flight)).of_iff
  intro value received sent
  constructor
  · rintro ⟨_, _, _, _, _, ⟨hvalid, rfl, rfl⟩, ⟨_, ⟨rfl, rfl, rfl⟩, rfl⟩, rfl, rfl⟩
    exact ⟨hvalid, rfl, rfl, by rw [List.append_nil]⟩
  · rintro ⟨hvalid, rfl, rfl, rfl⟩
    exact ⟨(), [], [], _, _, ⟨hvalid, rfl, rfl⟩, ⟨[], ⟨rfl, rfl, rfl⟩, rfl⟩, rfl, by rw [List.append_nil]⟩

theorem means_sendHelloRetry (draws : List RandomDraw) (compatibilityMode : Bool) (retry : Tls13HelloRetryFlight) :
    Means (sendFirstFlight draws compatibilityMode (.helloRetry retry)) fun flight received sent =>
      validatePlaintextFragment .handshake retry.helloRetryRequest = .ok () ∧
      validatePlaintextFragment .handshake flight.serverHello = .ok () ∧
      ∃ records clientHello2, CarriesClientHello true records clientHello2 ∧
        retry.continueWithClientHello draws clientHello2 = some (.ok flight) ∧
        received = records.flatMap TlsPlaintextRecord.wire ∧
        sent = handshakeRecord retry.helloRetryRequest ++ compatibilityRecord compatibilityMode ++
          handshakeRecord flight.serverHello := by
  have hanswer (clientHello2 : Bytes) := (Means.ofOption
    ((retry.continueWithClientHello draws clientHello2).map (mapErr handshakeError))).bind fun flight =>
      (means_writeHandshakeMessage flight.serverHello).bind fun _ => Means.pure flight
  apply ((means_writeHandshakeMessage retry.helloRetryRequest).bind fun _ =>
    means_compatibility compatibilityMode ((means_readClientHello true).bind hanswer)).of_iff
  intro flight received sent
  constructor
  · rintro ⟨_, _, _, _, _, ⟨hvalid, rfl, rfl⟩, ⟨_, ⟨clientHello2, _, _, _, _, ⟨⟨records, hcarries, rfl⟩, rfl⟩,
      ⟨found, _, _, _, _, ⟨hcontinue, rfl, rfl⟩, ⟨_, _, _, _, _, ⟨hvalid', rfl, rfl⟩, ⟨rfl, rfl, rfl⟩, rfl, rfl⟩,
        rfl, rfl⟩, rfl, rfl⟩, rfl⟩, rfl, rfl⟩
    refine ⟨hvalid, hvalid', records, clientHello2, hcarries, map_mapErr_eq_ok.1 hcontinue, ?_, ?_⟩
    · simp only [List.nil_append, List.append_nil]
    · simp only [List.nil_append, List.append_nil, List.append_assoc]
  · rintro ⟨hvalid, hvalid', records, clientHello2, hcarries, hcontinue, rfl, rfl⟩
    refine ⟨(), [], _, _, _, ⟨hvalid, rfl, rfl⟩, ⟨_, ⟨clientHello2, _, [], [], _, ⟨⟨records, hcarries, rfl⟩, rfl⟩,
      ⟨flight, [], [], [], _, ⟨map_mapErr_eq_ok.2 hcontinue, rfl, rfl⟩,
        ⟨(), [], [], _, [], ⟨hvalid', rfl, rfl⟩, ⟨rfl, rfl, rfl⟩, rfl, rfl⟩, rfl, rfl⟩, rfl, rfl⟩, rfl⟩, ?_, ?_⟩
    · simp only [List.nil_append, List.append_nil]
    · simp only [List.nil_append, List.append_nil, List.append_assoc]

theorem means_exchangeHellos (draws : List RandomDraw) (compatibilityMode : Bool) (clientHello1 : Bytes) :
    Means (exchangeHellos draws compatibilityMode clientHello1) (Hellos draws compatibilityMode clientHello1) where
  run_meaning {stream stream' flight} hrun := by
    obtain ⟨firstFlight, stream₁, hfirst, hrun⟩ := Dialogue.bind_eq_ok.1 hrun
    obtain ⟨hnegotiate, rfl⟩ := Dialogue.ofOption_eq_ok.1 hfirst
    rw [map_mapErr_eq_ok] at hnegotiate
    cases firstFlight with
    | serverHello found =>
      obtain ⟨_, _, ⟨-, rfl, rfl, rfl⟩, htransfers⟩ := (means_sendServerHello _ _ _).run_meaning hrun
      exact ⟨_, _, .direct hnegotiate, htransfers⟩
    | helloRetry retry =>
      obtain ⟨_, _, ⟨-, -, records, _, hcarries, hcontinue, rfl, rfl⟩, htransfers⟩ :=
        (means_sendHelloRetry _ _ _).run_meaning hrun
      exact ⟨_, _, .retried hnegotiate hcarries hcontinue, htransfers⟩
  exists_run := by
    intro flight received sent hhellos stream rest hsound hpending
    have hnegotiated {firstFlight : Tls13ServerFirstFlight}
        (hfirst : negotiateTls13ServerFirstFlight draws clientHello1 = some (.ok firstFlight)) :
        exchangeHellos draws compatibilityMode clientHello1 stream =
          sendFirstFlight draws compatibilityMode firstFlight stream :=
      Dialogue.bind_of_ok (Dialogue.ofOption_eq_ok.2 ⟨map_mapErr_eq_ok.2 hfirst, rfl⟩)
    cases hhellos with
    | direct h =>
      rw [hnegotiated h]
      exact (means_sendServerHello _ _ _).exists_run ⟨validate_serverHello_of_firstFlight h, rfl, rfl, rfl⟩ hsound hpending
    | retried hretry hcarries hcontinue =>
      rw [hnegotiated hretry]
      exact (means_sendHelloRetry _ _ _).exists_run ⟨validate_helloRetryRequest hretry,
        validate_serverHello_of_continue hcontinue, _, _, hcarries, hcontinue, rfl, rfl⟩ hsound hpending

/-! ### The rest of the handshake -/

/-- The flight with the certificate goes out in records, and the client's Finished completes the handshake. -/
def Finishes (turns : Nat) (identity : TlsIdentity) (flight : Tls13ServerHelloFlight) (state : Tls13ApplicationState)
    (received sent : Bytes) : Prop :=
  ∃ authentication flight' record,
    flight.authenticateServer turns identity.certificateChain identity.signingKey = some (.ok authentication, flight') ∧
      CarriesFinished record received ∧ flight'.completeHandshake [record] = .ok state ∧
      sent = (serverFlightCiphertexts flight' authentication).flatMap TlsCiphertextRecord.serialize

theorem authenticateServer_result {turns : Nat} {identity : TlsIdentity} {flight flight' : Tls13ServerHelloFlight}
    {authentication : Tls13ServerAuthenticationFlight} :
    ((flight.authenticateServer turns identity.certificateChain identity.signingKey).map fun (result, flight) =>
        (mapErr handshakeError result).map (·, flight)) = some (.ok (authentication, flight')) ↔
      flight.authenticateServer turns identity.certificateChain identity.signingKey =
        some (.ok authentication, flight') := by
  rcases flight.authenticateServer turns identity.certificateChain identity.signingKey with
    _ | ⟨error | found, flight''⟩ <;> simp [Except.map]

theorem means_finishHandshake (turns : Nat) (identity : TlsIdentity) (flight : Tls13ServerHelloFlight) :
    Means (finishHandshake turns identity flight) (Finishes turns identity flight) := by
  have hflight (authenticated : Tls13ServerAuthenticationFlight × Tls13ServerHelloFlight) :=
    (Means.writeFlushed authenticated.2.encryptedExtensionsRecord.serialize).bind fun _ =>
      (means_writeCiphertextRecords authenticated.1.certificateRecords).bind fun _ =>
      (means_writeCiphertextRecords authenticated.1.certificateVerifyRecords).bind fun _ =>
      (means_writeCiphertextRecords authenticated.1.finishedRecords).bind fun _ =>
      means_readClientFinishedRecord.bind fun record =>
      Means.ofExcept (mapErr handshakeError (authenticated.2.completeHandshake [record]))
  apply ((Means.ofOption ((flight.authenticateServer turns identity.certificateChain identity.signingKey).map
    fun (result, flight) => (mapErr handshakeError result).map (·, flight))).bind hflight).of_iff
  intro state received sent
  constructor
  · rintro ⟨⟨authentication, flight'⟩, _, _, _, _, ⟨hresult, rfl, rfl⟩, ⟨_, _, _, _, _, ⟨rfl, rfl⟩,
      ⟨_, _, _, _, _, ⟨rfl, rfl⟩, ⟨_, _, _, _, _, ⟨rfl, rfl⟩, ⟨_, _, _, _, _, ⟨rfl, rfl⟩, ⟨record, _, _, _, _,
        ⟨hcarries, rfl⟩, ⟨hcomplete, rfl, rfl⟩, rfl, rfl⟩, rfl, rfl⟩, rfl, rfl⟩, rfl, rfl⟩, rfl, rfl⟩, rfl, rfl⟩
    refine ⟨authentication, flight', record, authenticateServer_result.1 hresult, ?_, mapErr_eq_ok.1 hcomplete, ?_⟩
    · simpa only [List.nil_append, List.append_nil] using hcarries
    · simp only [serverFlightCiphertexts, List.flatMap_cons, List.flatMap_append, List.nil_append, List.append_nil]
  · rintro ⟨authentication, flight', record, hresult, hcarries, hcomplete, rfl⟩
    refine ⟨(authentication, flight'), [], received, [], _, ⟨authenticateServer_result.2 hresult, rfl, rfl⟩,
      ⟨(), [], received, _, _, ⟨rfl, rfl⟩, ⟨(), [], received, _, _, ⟨rfl, rfl⟩, ⟨(), [], received, _, _, ⟨rfl, rfl⟩,
        ⟨(), [], received, _, _, ⟨rfl, rfl⟩, ⟨record, received, [], [], [], ⟨hcarries, rfl⟩,
          ⟨mapErr_eq_ok.2 hcomplete, rfl, rfl⟩, ?_, rfl⟩, rfl, rfl⟩, rfl, rfl⟩, rfl, rfl⟩, rfl, rfl⟩, rfl, ?_⟩
    · rw [List.append_nil]
    · simp only [serverFlightCiphertexts, List.flatMap_cons, List.flatMap_append, List.nil_append, List.append_nil]

/-! ### Whole handshakes -/

section Handshakes

variable (draws : List RandomDraw) (turns : Nat) (identities : TlsIdentityStore) (configuration : Option Config)

/-- A ClientHello that asks for a name with an identity and, where there is a configuration, a route. -/
def IsServed (clientHelloMessage : Bytes) (clientHello : ClientHello) (identity : TlsIdentity) : Prop :=
  parseClientHello clientHelloMessage = .ok clientHello ∧ ∃ serverName, clientHello.serverName = some serverName ∧
    identities.select serverName = some identity ∧ hasRoute configuration serverName = true

/-- A ClientHello that asks for any other name. -/
def IsTurnedAway (clientHelloMessage : Bytes) : Prop :=
  ∃ clientHello serverName, parseClientHello clientHelloMessage = .ok clientHello ∧
    clientHello.serverName = some serverName ∧
      (identities.select serverName = none ∨ hasRoute configuration serverName = false)

/-- The conversations of a server: the outcome, what it receives and what it sends. -/
inductive Handshake : Option Tls13ApplicationState → Bytes → Bytes → Prop
  | turnedAway {records : List TlsPlaintextRecord} {clientHello1 : Bytes}
      (hcarries : CarriesClientHello false records clientHello1)
      (haway : IsTurnedAway identities configuration clientHello1) :
      Handshake none (records.flatMap TlsPlaintextRecord.wire) unrecognizedNameAlert
  | established {records : List TlsPlaintextRecord} {clientHello1 : Bytes} {clientHello : ClientHello}
      {identity : TlsIdentity} {flight : Tls13ServerHelloFlight} {state : Tls13ApplicationState}
      {received₁ received₂ sent₁ sent₂ : Bytes} (hcarries : CarriesClientHello false records clientHello1)
      (hserved : IsServed identities configuration clientHello1 clientHello identity)
      (hhellos : Hellos draws (!clientHello.legacySessionId.isEmpty) clientHello1 flight received₁ sent₁)
      (hfinishes : Finishes turns identity flight state received₂ sent₂) :
      Handshake (some state) (records.flatMap TlsPlaintextRecord.wire ++ (received₁ ++ received₂)) (sent₁ ++ sent₂)

theorem means_turnAway :
    Means (do
      writeFatalAlert .unrecognizedName
      return (none : Option Tls13ApplicationState)) fun state received sent =>
        state = none ∧ received = [] ∧ sent = unrecognizedNameAlert := by
  apply (means_writeFatalAlert.bind fun _ => Means.pure none).of_iff
  intro state received sent
  constructor
  · rintro ⟨_, _, _, _, _, ⟨rfl, rfl⟩, ⟨rfl, rfl, rfl⟩, rfl, rfl⟩
    exact ⟨rfl, rfl, List.append_nil _⟩
  · rintro ⟨rfl, rfl, rfl⟩
    exact ⟨(), [], [], _, [], ⟨rfl, rfl⟩, ⟨rfl, rfl, rfl⟩, rfl, (List.append_nil _).symm⟩

theorem means_serve (compatibilityMode : Bool) (clientHello1 : Bytes) (identity : TlsIdentity) :
    Means (do
      let flight ← exchangeHellos draws compatibilityMode clientHello1
      let applicationState ← finishHandshake turns identity flight
      return some applicationState) fun outcome received sent =>
        ∃ state flight received₁ received₂ sent₁ sent₂, outcome = some state ∧
          Hellos draws compatibilityMode clientHello1 flight received₁ sent₁ ∧
          Finishes turns identity flight state received₂ sent₂ ∧ received = received₁ ++ received₂ ∧
          sent = sent₁ ++ sent₂ := by
  apply ((means_exchangeHellos draws compatibilityMode clientHello1).bind fun flight =>
    (means_finishHandshake turns identity flight).bind fun state => Means.pure (some state)).of_iff
  intro outcome received sent
  constructor
  · rintro ⟨flight, _, _, _, _, hhellos, ⟨state, _, _, _, _, hfinishes, ⟨rfl, rfl, rfl⟩, rfl, rfl⟩, rfl, rfl⟩
    rw [List.append_nil, List.append_nil]
    exact ⟨state, flight, _, _, _, _, rfl, hhellos, hfinishes, rfl, rfl⟩
  · rintro ⟨state, flight, received₁, received₂, sent₁, sent₂, rfl, hhellos, hfinishes, rfl, rfl⟩
    exact ⟨flight, _, _, _, _, hhellos, ⟨state, _, [], _, [], hfinishes, ⟨rfl, rfl, rfl⟩, (List.append_nil _).symm,
      (List.append_nil _).symm⟩, rfl, rfl⟩

theorem means_serveClient (compatibilityMode : Bool) (clientHello1 serverName : Bytes) :
    Means (serveClient draws turns identities configuration compatibilityMode clientHello1 serverName)
      fun outcome received sent =>
        (outcome = none ∧ (identities.select serverName = none ∨ hasRoute configuration serverName = false) ∧
          received = [] ∧ sent = unrecognizedNameAlert) ∨
        ∃ identity state flight received₁ received₂ sent₁ sent₂, identities.select serverName = some identity ∧
          hasRoute configuration serverName = true ∧ outcome = some state ∧
          Hellos draws compatibilityMode clientHello1 flight received₁ sent₁ ∧
          Finishes turns identity flight state received₂ sent₂ ∧ received = received₁ ++ received₂ ∧
          sent = sent₁ ++ sent₂ := by
  rw [serveClient]
  cases hselect : identities.select serverName with
  | none =>
    apply means_turnAway.of_iff
    intro outcome received sent
    constructor
    · rintro ⟨rfl, hfacts⟩
      exact Or.inl ⟨rfl, Or.inl rfl, hfacts⟩
    · rintro (⟨rfl, -, hfacts⟩ | ⟨_, _, _, _, _, _, _, hsome, -⟩)
      · exact ⟨rfl, hfacts⟩
      · cases hsome
  | some identity =>
    dsimp only
    split
    · rename_i hroute
      apply (means_serve draws turns compatibilityMode clientHello1 identity).of_iff
      intro outcome received sent
      constructor
      · rintro ⟨state, flight, received₁, received₂, sent₁, sent₂, hfacts⟩
        exact Or.inr ⟨identity, state, flight, received₁, received₂, sent₁, sent₂, rfl, hroute, hfacts⟩
      · rintro (⟨-, haway | haway, -⟩ | ⟨_, state, flight, received₁, received₂, sent₁, sent₂, hsome, -, hfacts⟩)
        · cases haway
        · rw [hroute] at haway
          cases haway
        · cases hsome
          exact ⟨state, flight, received₁, received₂, sent₁, sent₂, hfacts⟩
    · rename_i hroute
      apply means_turnAway.of_iff
      intro outcome received sent
      constructor
      · rintro ⟨rfl, hfacts⟩
        exact Or.inl ⟨rfl, Or.inr (Bool.eq_false_iff.2 hroute), hfacts⟩
      · rintro (⟨rfl, -, hfacts⟩ | ⟨_, _, _, _, _, _, _, -, hsome, -⟩)
        · exact ⟨rfl, hfacts⟩
        · exact absurd hsome hroute

theorem means_serverHandshake :
    Means (serverHandshake draws turns identities configuration) (Handshake draws turns identities configuration) := by
  have hserve (clientHello1 : Bytes) (clientHello : ClientHello) :=
    (Means.ofExcept (okOr (invalidData "TLS probe ClientHello contains no SNI hostname") clientHello.serverName)).bind
      (means_serveClient draws turns identities configuration (!clientHello.legacySessionId.isEmpty) clientHello1)
  have hparse (clientHello1 : Bytes) :=
    (Means.ofExcept (mapErr (fun error => invalidData error.text) (parseClientHello clientHello1))).bind
      (hserve clientHello1)
  apply ((means_readClientHello false).bind hparse).of_iff
  intro outcome received sent
  constructor
  · rintro ⟨clientHello1, _, _, _, _, ⟨⟨records, hcarries, rfl⟩, rfl⟩, ⟨clientHello, _, _, _, _, ⟨hparse, rfl, rfl⟩,
      ⟨serverName, _, _, _, _, ⟨hname, rfl, rfl⟩, hserved, rfl, rfl⟩, rfl, rfl⟩, rfl, rfl⟩
    replace hparse := mapErr_eq_ok.1 hparse
    replace hname := okOr_eq_ok.1 hname
    obtain ⟨rfl, haway, rfl, rfl⟩ | ⟨identity, state, flight, _, _, _, _, hselect, hroute, rfl, hhellos, hfinishes, rfl,
      rfl⟩ := hserved
    · rw [List.append_nil]
      exact .turnedAway hcarries ⟨clientHello, serverName, hparse, hname, haway⟩
    · exact .established hcarries ⟨hparse, serverName, hname, hselect, hroute⟩ hhellos hfinishes
  · intro hhandshake
    cases hhandshake with
    | turnedAway hcarries haway =>
      obtain ⟨clientHello, serverName, hparse, hname, haway⟩ := haway
      exact ⟨_, _, [], [], _, ⟨⟨_, hcarries, rfl⟩, rfl⟩, ⟨clientHello, [], [], [], _, ⟨mapErr_eq_ok.2 hparse, rfl, rfl⟩,
        ⟨serverName, [], [], [], _, ⟨okOr_eq_ok.2 hname, rfl, rfl⟩, Or.inl ⟨rfl, haway, rfl, rfl⟩, rfl, rfl⟩, rfl, rfl⟩,
        (List.append_nil _).symm, rfl⟩
    | established hcarries hserved hhellos hfinishes =>
      obtain ⟨hparse, serverName, hname, hselect, hroute⟩ := hserved
      exact ⟨_, _, _, [], _, ⟨⟨_, hcarries, rfl⟩, rfl⟩, ⟨_, [], _, [], _, ⟨mapErr_eq_ok.2 hparse, rfl, rfl⟩,
        ⟨serverName, [], _, [], _, ⟨okOr_eq_ok.2 hname, rfl, rfl⟩, Or.inr ⟨_, _, _, _, _, _, _, hselect, hroute, rfl,
          hhellos, hfinishes, rfl, rfl⟩, rfl, rfl⟩, rfl, rfl⟩, rfl, rfl⟩

/-- A handshake ends with a state, or with the client turned away, exactly in the conversations of the protocol: whenever
it does, on any stream, the bytes received and sent are such a conversation; and on a stream that fails nowhere and
brings what the client sends in one, in whatever records and segments, the server sends its part of it, reaches its
outcome and leaves what follows unread. -/
theorem serverHandshake_exact :
    (∀ stream stream' outcome,
      serverHandshake draws turns identities configuration stream = some (.ok outcome, stream') →
        ∃ received sent, Handshake draws turns identities configuration outcome received sent ∧
          Transfers stream stream' received sent) ∧
    ∀ outcome received sent, Handshake draws turns identities configuration outcome received sent →
      ∀ stream rest, Sound stream → pending stream.input = received ++ rest →
        ∃ stream', serverHandshake draws turns identities configuration stream = some (.ok outcome, stream') ∧
          Sound stream' ∧ pending stream'.input = rest ∧ stream'.output.written = stream.output.written ++ sent :=
  ⟨fun _ _ _ hrun => (means_serverHandshake draws turns identities configuration).run_meaning hrun,
    fun _ _ _ hhandshake _ _ hsound hpending =>
      (means_serverHandshake draws turns identities configuration).exists_run hhandshake hsound hpending⟩

end Handshakes

end BareProxy.Tls
