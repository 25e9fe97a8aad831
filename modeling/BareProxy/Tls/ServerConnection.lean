import BareProxy.Config.Route
import BareProxy.Tls.Deframer
import BareProxy.Tls.HandshakeErrorText
import BareProxy.Tls.Identity
import BareProxy.Tls.ServerAuthentication
import BareProxy.Tls.WireRecords

/-!
# The handshake on a connection

`handle_connection` of `tls_probe.rs` up to the state for application data: it reads the ClientHello record by record,
chooses the identity for the name in it or turns the client away with an alert, sends its flights and reads the client's
Finished. Logging is left out.
-/

namespace BareProxy.Tls

open P256 Reader Conversation

def recordError (error : TlsRecordError) : IoError := invalidData error.text

def handshakeError (error : TlsServerHandshakeError) : IoError := invalidData error.text

/-! ### Reading -/

/-- The record that both readers skip. -/
def ProbeTexts.decodeChangeCipherSpec (texts : ProbeTexts) (wire : Bytes) : Except IoError Unit := do
  let record ← texts.decodePlaintextRecord wire
  ensure (record.contentType = .changeCipherSpec) (invalidData "invalid TLS compatibility change_cipher_spec record")

/-- The one message that a reader waits for, or the fragments so far. -/
def takeMessage (severalMessages : String) (deframer : HandshakeDeframer) (record : TlsPlaintextRecord) :
    Except IoError (Bytes ⊕ HandshakeDeframer) :=
  match deframer.pushRecord record with
  | (.error error, _) => .error (recordError error)
  | (.ok messages, deframer) =>
    if messages.length > 1 then .error (invalidData severalMessages)
    else match messages.head? with
      | none => .ok (.inr deframer)
      | some message =>
        if deframer ≠ [] then .error (recordError (.handshakeNotAligned deframer.length)) else .ok (.inl message)

/-- One turn of the loop of `read_client_hello`. -/
def takeClientHello (allowCompatibilityChangeCipherSpec : Bool) (deframer : HandshakeDeframer) (wire : Bytes) :
    Except IoError (Bytes ⊕ HandshakeDeframer) :=
  if wire.getD 0 0 = ContentType.changeCipherSpec.code then do
    ensure (allowCompatibilityChangeCipherSpec = true)
      (invalidData "unexpected change_cipher_spec before the first ClientHello")
    tlsProbe.decodeChangeCipherSpec wire
    return .inr deframer
  else if wire.getD 0 0 ≠ ContentType.handshake.code then
    .error (invalidData ("expected plaintext ClientHello record, got TLS content type " ++ toString (wire.getD 0 0)))
  else do
    let record ← tlsProbe.decodePlaintextRecord wire
    ensure (allowCompatibilityChangeCipherSpec = false ∨ record.legacyRecordVersion = tlsLegacyRecordVersion)
      (invalidData ("second ClientHello record version must be 0x" ++ hexFour tlsLegacyRecordVersion))
    takeMessage "TLS probe received multiple handshake messages while waiting for ClientHello" deframer record

def readClientHello {ρ : Type} [Reader ρ] (allowCompatibilityChangeCipherSpec : Bool) (stream : ρ) :
    Except IoError Bytes × ρ :=
  tlsProbe.readRecords (takeClientHello allowCompatibilityChangeCipherSpec) HandshakeDeframer.new stream

/-- One turn of the loop of `read_client_finished_record`. -/
def takeClientFinished (_ : Unit) (wire : Bytes) : Except IoError (TlsCiphertextRecord ⊕ Unit) :=
  if wire.getD 0 0 = ContentType.changeCipherSpec.code then do
    tlsProbe.decodeChangeCipherSpec wire
    return .inr ()
  else if wire.getD 0 0 ≠ ContentType.applicationData.code then
    .error (invalidData
      ("expected protected client Finished record, got TLS content type " ++ toString (wire.getD 0 0)))
  else do
    let record ← tlsProbe.decodeCiphertextRecord wire
    return .inl record

def readClientFinishedRecord {ρ : Type} [Reader ρ] (stream : ρ) : Except IoError TlsCiphertextRecord × ρ :=
  tlsProbe.readRecords takeClientFinished () stream

/-! ### Writing -/

def writePlaintextRecord (contentType : ContentType) (fragment : Bytes) : Conversation Unit := do
  let record ← Dialogue.ofExcept (mapErr recordError (TlsPlaintextRecord.new contentType fragment))
  let wire ← Dialogue.ofExcept (mapErr recordError record.serialize)
  writeFlushed wire

def writeHandshakeMessage (message : Bytes) : Conversation Unit := writePlaintextRecord .handshake message

def writeCompatibilityChangeCipherSpec : Conversation Unit := writePlaintextRecord .changeCipherSpec [0x01]

def writeFatalAlert (description : TlsAlertDescription) : Conversation Unit := do
  let alert ← Dialogue.ofExcept (mapErr recordError (TlsAlert.fatal description))
  let record ← Dialogue.ofExcept (mapErr recordError alert.plaintextRecord)
  let wire ← Dialogue.ofExcept (mapErr recordError record.serialize)
  writeFlushed wire

/-- The loop of `write_ciphertext_records`. -/
def writeEach : List TlsCiphertextRecord → Conversation Unit
  | [] => pure ()
  | record :: records => do
    writing (Sink.writeAll record.serialize)
    writeEach records

def writeCiphertextRecords (records : List TlsCiphertextRecord) : Conversation Unit := do
  writeEach records
  writing Sink.flush

def writeCiphertextRecord (record : TlsCiphertextRecord) : Conversation Unit := writeFlushed record.serialize

/-! ### The handshake -/

/-- Sends the first flight; after a HelloRetryRequest the second ClientHello is answered. -/
def sendFirstFlight (draws : List RandomDraw) (compatibilityMode : Bool) :
    Tls13ServerFirstFlight → Conversation Tls13ServerHelloFlight
  | .serverHello flight => do
    writeHandshakeMessage flight.serverHello
    if compatibilityMode then writeCompatibilityChangeCipherSpec
    return flight
  | .helloRetry retry => do
    writeHandshakeMessage retry.helloRetryRequest
    if compatibilityMode then writeCompatibilityChangeCipherSpec
    let clientHello2 ← reading (readClientHello true)
    let flight ← Dialogue.ofOption ((retry.continueWithClientHello draws clientHello2).map (mapErr handshakeError))
    writeHandshakeMessage flight.serverHello
    return flight

def exchangeHellos (draws : List RandomDraw) (compatibilityMode : Bool) (clientHello1 : Bytes) :
    Conversation Tls13ServerHelloFlight := do
  let firstFlight ←
    Dialogue.ofOption ((negotiateTls13ServerFirstFlight draws clientHello1).map (mapErr handshakeError))
  sendFirstFlight draws compatibilityMode firstFlight

/-- The flight with the certificate, and what the client answers. -/
def finishHandshake (turns : Nat) (identity : TlsIdentity) (flight : Tls13ServerHelloFlight) :
    Conversation Tls13ApplicationState := do
  let (authentication, flight) ← Dialogue.ofOption
    ((flight.authenticateServer turns identity.certificateChain identity.signingKey).map fun (result, flight) =>
      (mapErr handshakeError result).map (·, flight))
  writeCiphertextRecord flight.encryptedExtensionsRecord
  writeCiphertextRecords authentication.certificateRecords
  writeCiphertextRecords authentication.certificateVerifyRecords
  writeCiphertextRecords authentication.finishedRecords
  let clientFinished ← reading readClientFinishedRecord
  Dialogue.ofExcept (mapErr handshakeError (flight.completeHandshake [clientFinished]))

/-- Whether a configuration, if there is one, has a route for this name. -/
def hasRoute (configuration : Option Config) (serverName : Bytes) : Bool :=
  match configuration with
  | none => true
  | some configuration => (configuration.routeForHost serverName).isOk

/-- What becomes of a client that asks for this name; no state when it is turned away. -/
def serveClient (draws : List RandomDraw) (turns : Nat) (identities : TlsIdentityStore) (configuration : Option Config)
    (compatibilityMode : Bool) (clientHello1 serverName : Bytes) : Conversation (Option Tls13ApplicationState) :=
  match identities.select serverName with
  | none => do
    writeFatalAlert .unrecognizedName
    return none
  | some identity =>
    if hasRoute configuration serverName then do
      let flight ← exchangeHellos draws compatibilityMode clientHello1
      let applicationState ← finishHandshake turns identity flight
      return some applicationState
    else do
      writeFatalAlert .unrecognizedName
      return none

/-- No result when the random source or the turns for a nonce run out. -/
def serverHandshake (draws : List RandomDraw) (turns : Nat) (identities : TlsIdentityStore)
    (configuration : Option Config) : Conversation (Option Tls13ApplicationState) := do
  let clientHello1 ← reading (readClientHello false)
  let parsedClientHello ← Dialogue.ofExcept
    (mapErr (fun error => invalidData error.text) (parseClientHello clientHello1))
  let compatibilityMode := !parsedClientHello.legacySessionId.isEmpty
  let serverName ← Dialogue.ofExcept
    (okOr (invalidData "TLS probe ClientHello contains no SNI hostname") parsedClientHello.serverName)
  serveClient draws turns identities configuration compatibilityMode clientHello1 serverName

/-! ### Segments -/

section Respects

variable (draws : List RandomDraw) (turns : Nat)

theorem respects_writePlaintextRecord (contentType : ContentType) (fragment : Bytes) :
    Dialogue.Respects SameStream (writePlaintextRecord contentType fragment) :=
  (Dialogue.respects_ofExcept _).bind fun _ => (Dialogue.respects_ofExcept _).bind fun wire => respects_writeFlushed wire

theorem respects_writeFatalAlert (description : TlsAlertDescription) :
    Dialogue.Respects SameStream (writeFatalAlert description) :=
  (Dialogue.respects_ofExcept _).bind fun _ => (Dialogue.respects_ofExcept _).bind fun _ =>
    (Dialogue.respects_ofExcept _).bind fun wire => respects_writeFlushed wire

theorem respects_writeEach (records : List TlsCiphertextRecord) : Dialogue.Respects SameStream (writeEach records) := by
  induction records with
  | nil => exact Dialogue.respects_pure ()
  | cons record records ih => exact (respects_writing _).bind fun _ => ih

theorem respects_writeCiphertextRecords (records : List TlsCiphertextRecord) :
    Dialogue.Respects SameStream (writeCiphertextRecords records) :=
  (respects_writeEach records).bind fun _ => respects_writing _

theorem respects_compatibility (compatibilityMode : Bool) {α : Type} {next : Conversation α}
    (hnext : Dialogue.Respects SameStream next) :
    Dialogue.Respects SameStream (do
      if compatibilityMode then writeCompatibilityChangeCipherSpec
      next) := by
  cases compatibilityMode with
  | false => exact hnext
  | true => exact (respects_writePlaintextRecord _ _).bind fun _ => hnext

theorem respects_readClientHello (allowCompatibilityChangeCipherSpec : Bool) :
    Dialogue.Respects SameStream (reading (readClientHello allowCompatibilityChangeCipherSpec)) :=
  respects_reading (tlsProbe.readsPending_readRecords (takeClientHello _) _)

theorem respects_exchangeHellos (compatibilityMode : Bool) (clientHello1 : Bytes) :
    Dialogue.Respects SameStream (exchangeHellos draws compatibilityMode clientHello1) := by
  apply (Dialogue.respects_ofOption _).bind
  intro firstFlight
  cases firstFlight with
  | serverHello flight =>
    apply (respects_writePlaintextRecord _ _).bind
    intro _
    exact respects_compatibility compatibilityMode (Dialogue.respects_pure flight)
  | helloRetry retry =>
    apply (respects_writePlaintextRecord _ _).bind
    intro _
    apply respects_compatibility compatibilityMode
    apply (respects_readClientHello true).bind
    intro clientHello2
    apply (Dialogue.respects_ofOption _).bind
    intro flight
    exact (respects_writePlaintextRecord _ _).bind fun _ => Dialogue.respects_pure flight

theorem respects_finishHandshake (identity : TlsIdentity) (flight : Tls13ServerHelloFlight) :
    Dialogue.Respects SameStream (finishHandshake turns identity flight) := by
  apply (Dialogue.respects_ofOption _).bind
  intro (authentication, flight)
  apply (respects_writeFlushed _).bind
  intro _
  apply (respects_writeCiphertextRecords _).bind
  intro _
  apply (respects_writeCiphertextRecords _).bind
  intro _
  apply (respects_writeCiphertextRecords _).bind
  intro _
  apply (respects_reading (tlsProbe.readsPending_readRecords takeClientFinished ())).bind
  intro clientFinished
  exact Dialogue.respects_ofExcept _

theorem respects_serveClient (identities : TlsIdentityStore) (configuration : Option Config) (compatibilityMode : Bool)
    (clientHello1 serverName : Bytes) :
    Dialogue.Respects SameStream
      (serveClient draws turns identities configuration compatibilityMode clientHello1 serverName) := by
  have hturnedAway : Dialogue.Respects SameStream (do
      writeFatalAlert .unrecognizedName
      return (none : Option Tls13ApplicationState)) :=
    (respects_writeFatalAlert _).bind fun _ => Dialogue.respects_pure none
  rw [serveClient]
  cases identities.select serverName with
  | none => exact hturnedAway
  | some identity =>
    dsimp only
    split
    · apply (respects_exchangeHellos draws _ clientHello1).bind
      intro flight
      exact (respects_finishHandshake turns identity flight).bind fun state => Dialogue.respects_pure (some state)
    · exact hturnedAway

/-- A handshake does not depend on the segments in which the client's bytes arrive: whatever its outcome, success, alert
or error, another segmentation of the same bytes leads to the same outcome, after the same bytes were sent, and leaves
the same bytes to read. -/
theorem serverHandshake_segmentation (identities : TlsIdentityStore) (configuration : Option Config)
    {stream stream' : Endpoint} (hsame : SameStream stream stream') :
    Dialogue.Alike SameStream (serverHandshake draws turns identities configuration stream)
      (serverHandshake draws turns identities configuration stream') := by
  revert stream stream' hsame
  show Dialogue.Respects SameStream (serverHandshake draws turns identities configuration)
  apply (respects_readClientHello false).bind
  intro clientHello1
  apply (Dialogue.respects_ofExcept _).bind
  intro parsedClientHello
  apply (Dialogue.respects_ofExcept _).bind
  intro serverName
  exact respects_serveClient draws turns identities configuration _ clientHello1 serverName

/-- A record that arrives in two segments, and the same record in one. -/
theorem serverHandshake_segmentation_two :
    Dialogue.Alike SameStream
      (serverHandshake [] 0 ⟨[⟨[], .one, [ascii "localhost"]⟩], List.cons_ne_nil _ _, by decide⟩ none
        ⟨.ofSegments [[22, 3], [3, 0, 2, 1, 0]], .accepting []⟩)
      (serverHandshake [] 0 ⟨[⟨[], .one, [ascii "localhost"]⟩], List.cons_ne_nil _ _, by decide⟩ none
        ⟨.ofSegments [[22, 3, 3, 0, 2, 1, 0]], .accepting []⟩) :=
  serverHandshake_segmentation [] 0 _ none
    ⟨Source.clean_ofSegments (by decide), Source.clean_ofSegments (by decide), by rw [Source.pending_ofSegments]; rfl, rfl⟩

end Respects

end BareProxy.Tls
