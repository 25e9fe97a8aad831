import BareProxy.Base.Chunks
import BareProxy.Der.Signature
import BareProxy.Tls.Application
import BareProxy.Tls.Negotiation
import BareProxy.Tls.RecordChannel

/-!
# Server authentication

The second flight of the server side of `tls.rs` (Certificate, CertificateVerify and Finished, encrypted under
the handshake keys) and the client's Finished that completes the handshake.
-/

namespace BareProxy.Tls

open P256 Crypto Der

def tlsServerCertificateVerifyContext : Bytes := ascii "TLS 1.3, server CertificateVerify"

/-! ### Messages -/

/-- One certificate of the loop: the list so far and the index. -/
def appendCertificate (state : Bytes × Nat) (certificate : Bytes) : Except TlsServerHandshakeError (Bytes × Nat) := do
  let (certificateList, index) := state
  ensure (certificate ≠ []) (.emptyCertificate index)
  ensure (certificate.length ≤ tlsUint24Max) (.certificateTooLong index certificate.length)
  let certificateList := certificateList ++ (uint24 certificate.length ++ (certificate ++ beBytes 2 0))
  ensure (certificateList.length ≤ tlsUint24Max) (.certificateListTooLong certificateList.length)
  return (certificateList, index + 1)

def buildTls13Certificate (certificateChain : List Bytes) : Except TlsServerHandshakeError Bytes := do
  ensure (certificateChain ≠ []) .emptyCertificateChain
  let (certificateList, _) ← certificateChain.foldlM appendCertificate ([], 0)
  let body := 0 :: (uint24 certificateList.length ++ certificateList)
  encodeHandshakeMessage handshakeTypeCertificate body

def tls13ServerCertificateVerifyContent (transcriptHash : ByteArrayN 32) : Bytes :=
  List.replicate 64 0x20 ++ (tlsServerCertificateVerifyContext ++ 0 :: transcriptHash.toList)

def encodeTlsP256SignatureDer (signature : P256Signature) : Bytes :=
  let (r, s) := signature.components
  derSequence [derIntegerUnsigned r.toBeBytes.toList, derIntegerUnsigned s.toBeBytes.toList]

/-- The body of a CertificateVerify with this signature. -/
def certificateVerifyBody (signature : P256Signature) : Bytes :=
  let signature := encodeTlsP256SignatureDer signature
  beBytes 2 tlsSignatureEcdsaSecp256r1Sha256 ++ (beBytes 2 signature.length ++ signature)

/-- No result when the search for a nonce takes more turns than it is given. -/
def buildTls13ServerCertificateVerify (turns : Nat) (signingKey : Scalar) (transcriptHash : ByteArrayN 32) :
    Option (Except TlsServerHandshakeError Bytes) :=
  let signedContent := tls13ServerCertificateVerifyContent transcriptHash
  (p256EcdsaSignSha256 turns signingKey signedContent).map fun signed => do
    let signature ← mapErr .signing signed
    encodeHandshakeMessage handshakeTypeCertificateVerify (certificateVerifyBody signature)

def buildTls13Finished (handshakeTrafficSecret transcriptHash : ByteArrayN 32) :
    Except TlsServerHandshakeError Bytes := do
  let verifyData ← mapErr .keySchedule (tls13FinishedVerifyData handshakeTrafficSecret transcriptHash)
  encodeHandshakeMessage handshakeTypeFinished verifyData.toList

/-! ### Records -/

def encryptHandshakeFragment (protection : Tls13RecordProtection) (fragment : Bytes) :
    Except TlsRecordError TlsCiphertextRecord × Tls13RecordProtection :=
  match TlsPlaintextRecord.new .handshake fragment with
  | .error error => (.error error, protection)
  | .ok plaintext => protection.encryptRecord plaintext 0

def encryptHandshakeMessageRecords (protection : Tls13RecordProtection) (message : Bytes) :
    Except TlsServerHandshakeError (List TlsCiphertextRecord) × Tls13RecordProtection :=
  let (records, protection) :=
    runAll encryptHandshakeFragment protection (chunks tlsPlaintextFragmentLimit message)
  (mapErr .recordProtection records, protection)

/-- The loop over the records of the client's Finished: the message so far. -/
def decryptFinishedFragments (protection : Tls13RecordProtection) (message : Bytes) :
    List TlsCiphertextRecord → Except TlsServerHandshakeError Bytes × Tls13RecordProtection
  | [] => (.ok message, protection)
  | record :: records =>
      match protection.decryptRecord record with
      | (.error error, protection) => (.error (.recordProtection error), protection)
      | (.ok plaintext, protection) =>
          if plaintext.contentType ≠ .handshake then
            (.error (.unexpectedClientFinishedContentType plaintext.contentType), protection)
          else
            let message := message ++ plaintext.fragment
            if message.length > handshakeHeaderSize + tlsSha256HashSize then
              (.error .invalidClientFinished, protection)
            else
              decryptFinishedFragments protection message records

/-- The checks on the message that the records make up. -/
def validateFinishedMessage (message : Bytes) : Except TlsServerHandshakeError Bytes := do
  ensure (message.length = handshakeHeaderSize + tlsSha256HashSize ∧ message.headD 0 = handshakeTypeFinished)
    .invalidClientFinished
  ensure (declaredLength message = tlsSha256HashSize) .invalidClientFinished
  return message

def decryptTls13ClientFinished (protection : Tls13RecordProtection) (records : List TlsCiphertextRecord) :
    Except TlsServerHandshakeError Bytes × Tls13RecordProtection :=
  if records.isEmpty then (.error .invalidClientFinished, protection)
  else
    let (message, protection) := decryptFinishedFragments protection [] records
    (message >>= validateFinishedMessage, protection)

/-! ### The flight -/

structure Tls13ServerAuthenticationFlight where
  certificate : Bytes
  certificateRecords : List TlsCiphertextRecord
  certificateVerify : Bytes
  certificateVerifyRecords : List TlsCiphertextRecord
  finished : Bytes
  finishedRecords : List TlsCiphertextRecord

namespace Tls13ServerHelloFlight

/-- The three encryptions; the transcript is replaced after the last one. -/
def encryptAuthentication (flight : Tls13ServerHelloFlight) (certificate certificateVerify finished : Bytes)
    (nextTranscript : TlsTranscript) :
    Except TlsServerHandshakeError Tls13ServerAuthenticationFlight × Tls13ServerHelloFlight :=
  match encryptHandshakeMessageRecords flight.handshakeRecordProtection certificate with
  | (.error error, handshakeRecordProtection) => (.error error, { flight with handshakeRecordProtection })
  | (.ok certificateRecords, handshakeRecordProtection) =>
      match encryptHandshakeMessageRecords handshakeRecordProtection certificateVerify with
      | (.error error, handshakeRecordProtection) => (.error error, { flight with handshakeRecordProtection })
      | (.ok certificateVerifyRecords, handshakeRecordProtection) =>
          match encryptHandshakeMessageRecords handshakeRecordProtection finished with
          | (.error error, handshakeRecordProtection) => (.error error, { flight with handshakeRecordProtection })
          | (.ok finishedRecords, handshakeRecordProtection) =>
              (.ok { certificate, certificateRecords, certificateVerify, certificateVerifyRecords, finished,
                     finishedRecords },
                { flight with handshakeRecordProtection, transcript := nextTranscript })

def authenticateServer (flight : Tls13ServerHelloFlight) (turns : Nat) (certificateChain : List Bytes)
    (signingKey : Scalar) :
    Option (Except TlsServerHandshakeError Tls13ServerAuthenticationFlight × Tls13ServerHelloFlight) :=
  if flight.serverAuthenticationStarted then
    some (.error .authenticationAlreadyStarted, flight)
  else
    match buildTls13Certificate certificateChain with
    | .error error => some (.error error, flight)
    | .ok certificate =>
        let nextTranscript := flight.transcript.updateHandshakeMessage certificate
        match buildTls13ServerCertificateVerify turns signingKey nextTranscript.hash with
        | none => none
        | some (.error error) => some (.error error, flight)
        | some (.ok certificateVerify) =>
            let nextTranscript := nextTranscript.updateHandshakeMessage certificateVerify
            match buildTls13Finished flight.serverHandshakeTrafficSecret nextTranscript.hash with
            | .error error => some (.error error, flight)
            | .ok finished =>
                let nextTranscript := nextTranscript.updateHandshakeMessage finished
                let flight := { flight with serverAuthenticationStarted := true }
                some (flight.encryptAuthentication certificate certificateVerify finished nextTranscript)

/-- The flight is used up: what is left of its record protection is dropped. -/
def completeHandshake (flight : Tls13ServerHelloFlight) (clientFinishedRecords : List TlsCiphertextRecord) :
    Except TlsServerHandshakeError Tls13ApplicationState := do
  ensure flight.serverAuthenticationStarted .serverAuthenticationRequired
  let serverFinishedTranscriptHash := flight.transcript.hash
  let applicationKeySchedule ←
    mapErr .keySchedule (deriveTls13ApplicationKeySchedule flight.mainSecret serverFinishedTranscriptHash)
  let clientFinished ← (decryptTls13ClientFinished flight.handshakeRecordProtection clientFinishedRecords).1
  let expectedVerifyData ← mapErr .keySchedule
    (tls13FinishedVerifyData flight.clientHandshakeTrafficSecret serverFinishedTranscriptHash)
  ensure (constantTimeEq (clientFinished.drop handshakeHeaderSize) expectedVerifyData.toList)
    .clientFinishedMismatch
  let transcript := flight.transcript.updateHandshakeMessage clientFinished
  let recordProtection := Tls13RecordProtection.new applicationKeySchedule.serverKey applicationKeySchedule.serverIv
    applicationKeySchedule.clientKey applicationKeySchedule.clientIv
  return .new flight.negotiatedAlpn applicationKeySchedule.clientApplicationTrafficSecret
    applicationKeySchedule.serverApplicationTrafficSecret transcript.hash recordProtection

end Tls13ServerHelloFlight

/-! ### Encryption of the flight -/

/-- The plaintext records that a message is cut into, without padding. -/
def handshakeRecords (message : Bytes) : List (TlsPlaintextRecord × Nat) :=
  (chunks tlsPlaintextFragmentLimit message).map fun fragment => (⟨.handshake, tlsLegacyRecordVersion, fragment⟩, 0)

/-- While sequence numbers last, fragments of the right size are encrypted one after the other. -/
theorem runAll_encryptHandshakeFragment {protection : Tls13RecordProtection} {start : Nat} {fragments : List Bytes}
    (hsequence : protection.writeSequenceNumber = sequenceAt start) (hroom : start + fragments.length < 2 ^ 64)
    (hfragments : ∀ fragment ∈ fragments, 1 ≤ fragment.length ∧ fragment.length ≤ tlsPlaintextFragmentLimit) :
    ∃ records, runAll encryptHandshakeFragment protection fragments =
        (.ok records, { protection with writeSequenceNumber := sequenceAt (start + fragments.length) }) ∧
      encryptRecords protection
          (fragments.map fun fragment => (⟨.handshake, tlsLegacyRecordVersion, fragment⟩, 0)) =
        (.ok records, { protection with writeSequenceNumber := sequenceAt (start + fragments.length) }) := by
  induction fragments generalizing protection start with
  | nil =>
      rw [List.length_nil, Nat.add_zero, ← hsequence]
      exact ⟨[], rfl, rfl⟩
  | cons fragment fragments ih =>
      rw [List.length_cons] at hroom
      have hfragment := hfragments fragment List.mem_cons_self
      have hvalid := validatePlaintextFragment_handshake.2 hfragment
      have hnumber : sequenceAt start = some (UInt64.ofNat start) := if_pos (by omega)
      have hsucc := (sequenceAt_eq_some hnumber).2.2
      obtain ⟨encrypted, hencrypt⟩ := @Tls13RecordProtection.encryptRecord_isOk protection
        ⟨.handshake, tlsLegacyRecordVersion, fragment⟩ 0 _ (hsequence.trans hnumber) hvalid ContentType.noConfusion
        (Nat.add_le_add_right hfragment.2 1)
      rw [hsucc] at hencrypt
      have hfirst : encryptHandshakeFragment protection fragment =
          protection.encryptRecord ⟨.handshake, tlsLegacyRecordVersion, fragment⟩ 0 := by
        rw [encryptHandshakeFragment, TlsPlaintextRecord.new_eq_ok.2 ⟨hvalid, rfl⟩]
      obtain ⟨records, hrun, hrecords⟩ := @ih { protection with writeSequenceNumber := sequenceAt (start + 1) }
        (start + 1) rfl (by omega) fun other hother => hfragments other (List.mem_cons_of_mem _ hother)
      have hcount : start + 1 + fragments.length = start + (fragment :: fragments).length := by
        rw [List.length_cons]
        omega
      rw [hcount] at hrun hrecords
      refine ⟨encrypted :: records, ?_, ?_⟩
      · exact runAll_cons_ok.2 ⟨encrypted, records, _, hfirst.trans hencrypt, hrun, rfl⟩
      · exact runAll_cons_ok.2 ⟨encrypted, records, _, hencrypt, hrecords, rfl⟩

theorem encryptHandshakeMessageRecords_isOk {protection : Tls13RecordProtection} {start : Nat} {message : Bytes}
    (hsequence : protection.writeSequenceNumber = sequenceAt start) (hroom : start + message.length < 2 ^ 64) :
    ∃ records next, start ≤ next ∧ next ≤ start + message.length ∧
      encryptHandshakeMessageRecords protection message =
        (.ok records, { protection with writeSequenceNumber := sequenceAt next }) ∧
      encryptRecords protection (handshakeRecords message) =
        (.ok records, { protection with writeSequenceNumber := sequenceAt next }) := by
  have hcount := @length_chunks_le _ tlsPlaintextFragmentLimit message
  obtain ⟨records, hrun, hrecords⟩ := @runAll_encryptHandshakeFragment protection start (chunks tlsPlaintextFragmentLimit message)
    hsequence (by omega) fun fragment h => length_of_mem_chunks h
  refine ⟨records, _, Nat.le_add_right _ _, Nat.add_le_add_left hcount start, ?_, hrecords⟩
  rw [encryptHandshakeMessageRecords, hrun]
  rfl

/-! ### What a call does -/

/-- A message of this type whose body has a length of three bytes. -/
def IsHandshakeMessage (messageType : Byte) (message : Bytes) : Prop :=
  ∃ body : Bytes, body.length ≤ tlsUint24Max ∧ message = handshakeMessage messageType body

theorem isHandshakeMessage_of_encode {messageType : Byte} {body message : Bytes}
    (h : encodeHandshakeMessage messageType body = .ok message) : IsHandshakeMessage messageType message :=
  ⟨body, encodeHandshakeMessage_ok.1 h⟩

theorem IsHandshakeMessage.length_le {messageType : Byte} {message : Bytes} (h : IsHandshakeMessage messageType message) :
    message.length ≤ handshakeHeaderSize + tlsUint24Max := by
  obtain ⟨body, hbody, rfl⟩ := h
  rw [length_handshakeMessage]
  exact Nat.add_le_add_left hbody _

theorem isHandshakeMessage_certificate {certificateChain : List Bytes} {certificate : Bytes}
    (h : buildTls13Certificate certificateChain = .ok certificate) :
    IsHandshakeMessage handshakeTypeCertificate certificate := by
  obtain ⟨_, -, h⟩ := bind_eq_ok.1 h
  obtain ⟨⟨certificateList, _⟩, -, h⟩ := bind_eq_ok.1 h
  exact isHandshakeMessage_of_encode h

theorem buildTls13ServerCertificateVerify_ok {turns : Nat} {signingKey : Scalar} {transcriptHash : ByteArrayN 32}
    {certificateVerify : Bytes}
    (h : buildTls13ServerCertificateVerify turns signingKey transcriptHash = some (.ok certificateVerify)) :
    ∃ signature,
      p256EcdsaSignSha256 turns signingKey (tls13ServerCertificateVerifyContent transcriptHash) =
        some (.ok signature) ∧
      encodeHandshakeMessage handshakeTypeCertificateVerify (certificateVerifyBody signature) =
        .ok certificateVerify := by
  obtain ⟨signed, hsigned, h⟩ := Option.map_eq_some_iff.1 h
  obtain ⟨signature, hsignature, h⟩ := bind_eq_ok.1 h
  rw [mapErr_eq_ok.1 hsignature] at hsigned
  exact ⟨signature, hsigned, h⟩

theorem length_certificateVerifyBody (signature : P256Signature) :
    (certificateVerifyBody signature).length ≤ tlsUint24Max := by
  have hder : (encodeTlsP256SignatureDer signature).length < 130 := length_encodeP256SignatureDer signature
  simp only [certificateVerifyBody, List.length_append, length_beBytes, tlsUint24Max]
  omega

theorem buildTls13Finished_ok {handshakeTrafficSecret transcriptHash : ByteArrayN 32} {finished : Bytes}
    (h : buildTls13Finished handshakeTrafficSecret transcriptHash = .ok finished) :
    ∃ verifyData, tls13FinishedVerifyData handshakeTrafficSecret transcriptHash = .ok verifyData ∧
      encodeHandshakeMessage handshakeTypeFinished verifyData.toList = .ok finished := by
  obtain ⟨verifyData, hverify, h⟩ := bind_eq_ok.1 h
  exact ⟨verifyData, mapErr_eq_ok.1 hverify, h⟩

namespace Tls13ServerHelloFlight

/-- What a successful `authenticate_server` hands out, and the flight that it leaves behind. -/
structure Authenticated (flight : Tls13ServerHelloFlight) (turns : Nat) (certificateChain : List Bytes)
    (signingKey : Scalar) (authentication : Tls13ServerAuthenticationFlight) (flight' : Tls13ServerHelloFlight) :
    Prop where
  certificate : buildTls13Certificate certificateChain = .ok authentication.certificate
  certificateVerify :
    buildTls13ServerCertificateVerify turns signingKey
      (flight.transcript.updateHandshakeMessage authentication.certificate).hash =
        some (.ok authentication.certificateVerify)
  finished :
    buildTls13Finished flight.serverHandshakeTrafficSecret
      ((flight.transcript.updateHandshakeMessage authentication.certificate).updateHandshakeMessage
        authentication.certificateVerify).hash = .ok authentication.finished
  records : ∃ protection₁ protection₂,
    encryptRecords flight.handshakeRecordProtection (handshakeRecords authentication.certificate) =
      (.ok authentication.certificateRecords, protection₁) ∧
    encryptRecords protection₁ (handshakeRecords authentication.certificateVerify) =
      (.ok authentication.certificateVerifyRecords, protection₂) ∧
    encryptRecords protection₂ (handshakeRecords authentication.finished) =
      (.ok authentication.finishedRecords, flight'.handshakeRecordProtection)
  flight_eq : ∃ next, flight' = { flight with
    transcript := ((flight.transcript.updateHandshakeMessage authentication.certificate).updateHandshakeMessage
      authentication.certificateVerify).updateHandshakeMessage authentication.finished
    handshakeRecordProtection := { flight.handshakeRecordProtection with writeSequenceNumber := sequenceAt next }
    serverAuthenticationStarted := true }

/-- The three messages together are too short to use up the sequence numbers. -/
theorem encryptAuthentication_isOk {flight : Tls13ServerHelloFlight} {certificate certificateVerify finished : Bytes}
    (hsequence : flight.handshakeRecordProtection.writeSequenceNumber = sequenceAt 1)
    (hcertificate : IsHandshakeMessage handshakeTypeCertificate certificate)
    (hverify : IsHandshakeMessage handshakeTypeCertificateVerify certificateVerify)
    (hfinished : IsHandshakeMessage handshakeTypeFinished finished) (nextTranscript : TlsTranscript) :
    ∃ certificateRecords certificateVerifyRecords finishedRecords protection₁ protection₂ next,
      encryptRecords flight.handshakeRecordProtection (handshakeRecords certificate) =
        (.ok certificateRecords, protection₁) ∧
      encryptRecords protection₁ (handshakeRecords certificateVerify) =
        (.ok certificateVerifyRecords, protection₂) ∧
      encryptRecords protection₂ (handshakeRecords finished) =
        (.ok finishedRecords, { flight.handshakeRecordProtection with writeSequenceNumber := sequenceAt next }) ∧
      flight.encryptAuthentication certificate certificateVerify finished nextTranscript =
        (.ok ⟨certificate, certificateRecords, certificateVerify, certificateVerifyRecords, finished,
            finishedRecords⟩,
          { flight with
            handshakeRecordProtection :=
              { flight.handshakeRecordProtection with writeSequenceNumber := sequenceAt next }
            transcript := nextTranscript }) := by
  have hlimit : handshakeHeaderSize + tlsUint24Max = 2 ^ 24 + 3 := by decide
  have hcertificate := hcertificate.length_le
  have hverify := hverify.length_le
  have hfinished := hfinished.length_le
  obtain ⟨certificateRecords, next₁, -, hnext₁, h₁, hrecords₁⟩ :=
    @encryptHandshakeMessageRecords_isOk _ _ certificate hsequence (by omega)
  obtain ⟨certificateVerifyRecords, next₂, -, hnext₂, h₂, hrecords₂⟩ :=
    @encryptHandshakeMessageRecords_isOk
      { flight.handshakeRecordProtection with writeSequenceNumber := sequenceAt next₁ } next₁ certificateVerify rfl
      (by omega)
  obtain ⟨finishedRecords, next₃, -, hnext₃, h₃, hrecords₃⟩ :=
    @encryptHandshakeMessageRecords_isOk
      { flight.handshakeRecordProtection with writeSequenceNumber := sequenceAt next₂ } next₂ finished rfl (by omega)
  refine ⟨certificateRecords, certificateVerifyRecords, finishedRecords, _, _, next₃, hrecords₁, hrecords₂,
    hrecords₃, ?_⟩
  simp only [encryptAuthentication, h₁, h₂, h₃]

/-- On a flight that has sent one record, `authenticate_server` fails without a trace or succeeds. -/
theorem authenticateServer_cases {flight flight' : Tls13ServerHelloFlight} {turns : Nat} {certificateChain : List Bytes}
    {signingKey : Scalar} {result : Except TlsServerHandshakeError Tls13ServerAuthenticationFlight}
    (hsequence : flight.serverAuthenticationStarted = false →
      flight.handshakeRecordProtection.writeSequenceNumber = sequenceAt 1)
    (h : flight.authenticateServer turns certificateChain signingKey = some (result, flight')) :
    (∃ error, result = .error error ∧ flight' = flight) ∨
      ∃ authentication, result = .ok authentication ∧ flight.serverAuthenticationStarted = false ∧
        flight.Authenticated turns certificateChain signingKey authentication flight' := by
  rw [authenticateServer] at h
  split at h
  · cases h
    exact .inl ⟨_, rfl, rfl⟩
  · rename_i hstarted
    split at h
    · cases h
      exact .inl ⟨_, rfl, rfl⟩
    · rename_i certificate hcertificate
      dsimp only at h
      split at h
      · cases h
      · cases h
        exact .inl ⟨_, rfl, rfl⟩
      · rename_i certificateVerify hverify
        split at h
        · cases h
          exact .inl ⟨_, rfl, rfl⟩
        · rename_i finished hfinished
          obtain ⟨signature, -, hsignature⟩ := buildTls13ServerCertificateVerify_ok hverify
          obtain ⟨verifyData, -, hencode⟩ := buildTls13Finished_ok hfinished
          have hnotStarted : flight.serverAuthenticationStarted = false := by simpa using hstarted
          obtain ⟨_, _, _, _, _, next, hrecords₁, hrecords₂, hrecords₃, hencrypt⟩ :=
            @encryptAuthentication_isOk { flight with serverAuthenticationStarted := true } _ _ _
              (hsequence hnotStarted) (isHandshakeMessage_certificate hcertificate)
              (isHandshakeMessage_of_encode hsignature) (isHandshakeMessage_of_encode hencode)
              (((flight.transcript.updateHandshakeMessage certificate).updateHandshakeMessage
                certificateVerify).updateHandshakeMessage finished)
          rw [hencrypt] at h
          cases h
          exact .inr ⟨_, rfl, hnotStarted, hcertificate, hverify, hfinished, ⟨_, _, hrecords₁, hrecords₂, hrecords₃⟩,
            next, rfl⟩

/-- The call succeeds for a chain that can be encoded, once the signer has found a nonce. -/
theorem authenticateServer_isOk {flight : Tls13ServerHelloFlight} {turns : Nat} {certificateChain : List Bytes}
    {signingKey : Scalar} {certificate : Bytes} {signature : P256Signature}
    (hstarted : flight.serverAuthenticationStarted = false)
    (hsequence : flight.handshakeRecordProtection.writeSequenceNumber = sequenceAt 1)
    (hcertificate : buildTls13Certificate certificateChain = .ok certificate)
    (hsign : p256EcdsaSignSha256 turns signingKey (tls13ServerCertificateVerifyContent
      (flight.transcript.updateHandshakeMessage certificate).hash) = some (.ok signature)) :
    ∃ authentication flight',
      flight.authenticateServer turns certificateChain signingKey = some (.ok authentication, flight') ∧
      flight.Authenticated turns certificateChain signingKey authentication flight' := by
  have hverify : buildTls13ServerCertificateVerify turns signingKey
      (flight.transcript.updateHandshakeMessage certificate).hash =
        some (.ok (handshakeMessage handshakeTypeCertificateVerify (certificateVerifyBody signature))) := by
    simp only [buildTls13ServerCertificateVerify, hsign, Option.map_some, mapErr_ok, ok_bind,
      encodeHandshakeMessage_eq (length_certificateVerifyBody signature)]
  obtain ⟨finishedKey, -, hdata⟩ := tls13FinishedVerifyData_eq flight.serverHandshakeTrafficSecret
  have hfinished (transcriptHash : ByteArrayN 32) :
      ∃ finished, buildTls13Finished flight.serverHandshakeTrafficSecret transcriptHash = .ok finished ∧
        IsHandshakeMessage handshakeTypeFinished finished := by
    have hlength : (hmacSha256 finishedKey.toList transcriptHash.toList).toList.length ≤ tlsUint24Max := by
      rw [Vector.length_toList]
      decide
    refine ⟨_, ?_, _, hlength, rfl⟩
    rw [buildTls13Finished, hdata, mapErr_ok, ok_bind, encodeHandshakeMessage_eq hlength]
  obtain ⟨authentication, flight', hresult⟩ : ∃ authentication flight',
      flight.authenticateServer turns certificateChain signingKey = some (.ok authentication, flight') := by
    rw [authenticateServer, if_neg (by rw [hstarted]; decide), hcertificate]
    simp only [hverify]
    obtain ⟨finished, hbuild, hmessage⟩ := hfinished
      ((flight.transcript.updateHandshakeMessage certificate).updateHandshakeMessage
        (handshakeMessage handshakeTypeCertificateVerify (certificateVerifyBody signature))).hash
    obtain ⟨_, _, _, _, _, _, -, -, -, hencrypt⟩ :=
      @encryptAuthentication_isOk { flight with serverAuthenticationStarted := true } certificate
        (handshakeMessage handshakeTypeCertificateVerify (certificateVerifyBody signature)) finished hsequence
        (isHandshakeMessage_certificate hcertificate) ⟨_, length_certificateVerifyBody signature, rfl⟩ hmessage
        (((flight.transcript.updateHandshakeMessage certificate).updateHandshakeMessage
          (handshakeMessage handshakeTypeCertificateVerify (certificateVerifyBody signature))).updateHandshakeMessage
            finished)
    simp only [hbuild, hencrypt]
    exact ⟨_, _, rfl⟩
  obtain ⟨error, herror, -⟩ | ⟨found, hok, -, hauthenticated⟩ :=
    authenticateServer_cases (fun _ => hsequence) hresult
  · cases herror
  · cases hok
    exact ⟨authentication, flight', hresult, hauthenticated⟩

/-- The call returns exactly when the signer does. -/
theorem isSome_authenticateServer {flight : Tls13ServerHelloFlight} {certificateChain : List Bytes}
    {signingKey : Scalar} {certificate : Bytes} (hstarted : flight.serverAuthenticationStarted = false)
    (hsequence : flight.handshakeRecordProtection.writeSequenceNumber = sequenceAt 1)
    (hcertificate : buildTls13Certificate certificateChain = .ok certificate) (hsigningKey : signingKey ≠ .zero)
    (turns : Nat) :
    (flight.authenticateServer turns certificateChain signingKey).isSome =
      (p256EcdsaSignSha256 turns signingKey (tls13ServerCertificateVerifyContent
        (flight.transcript.updateHandshakeMessage certificate).hash)).isSome := by
  cases hsign : p256EcdsaSignSha256 turns signingKey (tls13ServerCertificateVerifyContent
    (flight.transcript.updateHandshakeMessage certificate).hash) with
  | none =>
      rw [authenticateServer, if_neg (by rw [hstarted]; decide), hcertificate]
      simp only [buildTls13ServerCertificateVerify, hsign, Option.map_none]
      rfl
  | some signed =>
      obtain ⟨signature, hsigned, -⟩ := p256EcdsaSignSha256_isSome hsigningKey (by rw [hsign]; rfl)
      obtain ⟨_, _, hfound, -⟩ := authenticateServer_isOk hstarted hsequence hcertificate hsigned
      rw [hfound]
      rfl

/-- A call that returns has signed with a key other than zero. -/
theorem authenticateServer_ok_of_some {flight flight' : Tls13ServerHelloFlight} {turns : Nat}
    {certificateChain : List Bytes} {signingKey : Scalar} {certificate : Bytes}
    {result : Except TlsServerHandshakeError Tls13ServerAuthenticationFlight}
    (hstarted : flight.serverAuthenticationStarted = false)
    (hsequence : flight.handshakeRecordProtection.writeSequenceNumber = sequenceAt 1)
    (hcertificate : buildTls13Certificate certificateChain = .ok certificate) (hsigningKey : signingKey ≠ .zero)
    (h : flight.authenticateServer turns certificateChain signingKey = some (result, flight')) :
    ∃ authentication, result = .ok authentication ∧
      flight.Authenticated turns certificateChain signingKey authentication flight' := by
  have hsign := isSome_authenticateServer hstarted hsequence hcertificate hsigningKey turns
  rw [h, Option.isSome_some] at hsign
  obtain ⟨signature, hsigned, -⟩ := p256EcdsaSignSha256_isSome hsigningKey hsign.symm
  obtain ⟨authentication, found, hfound, hauthenticated⟩ :=
    authenticateServer_isOk hstarted hsequence hcertificate hsigned
  rw [h] at hfound
  cases hfound
  exact ⟨authentication, rfl, hauthenticated⟩

end Tls13ServerHelloFlight

end BareProxy.Tls
