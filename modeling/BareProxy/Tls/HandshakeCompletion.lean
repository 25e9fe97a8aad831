import BareProxy.Tls.KeyAgreement
import BareProxy.Tls.ServerAuthentication

/-!
# Completing a handshake

When the server side takes a client's Finished. The records may cut the message anywhere; they have to open one
after the other under the client's handshake key, and their content has to be the Finished message for the
transcript up to the server's Finished.
-/

namespace BareProxy.Tls

open P256 Crypto

/-- Records that open to handshake data at consecutive sequence numbers, and their content. -/
inductive OpensInOrder (key : ByteArrayN 32) (iv : ByteArrayN 12) : Nat → List TlsCiphertextRecord → Bytes → Prop
  | nil (start : Nat) : OpensInOrder key iv start [] []
  | cons {start : Nat} {record : TlsCiphertextRecord} {plaintext : TlsPlaintextRecord}
      {records : List TlsCiphertextRecord} {content : Bytes} (hstart : start < 2 ^ 64)
      (hrecord : Tls13RecordProtection.Opens key iv (UInt64.ofNat start) record plaintext)
      (hcontent : plaintext.contentType = .handshake) (hrest : OpensInOrder key iv (start + 1) records content) :
      OpensInOrder key iv start (record :: records) (plaintext.fragment ++ content)

/-- Every sequence number, and the lack of one, is the state after some number of records. -/
theorem exists_sequenceAt (sequenceNumber : Option UInt64) : ∃ start, sequenceNumber = sequenceAt start := by
  cases sequenceNumber with
  | none => exact ⟨2 ^ 64, rfl⟩
  | some number =>
      refine ⟨number.toNat, ?_⟩
      rw [sequenceAt, if_pos number.toNat_lt, UInt64.ofNat_toNat]

/-- The loop over the records reads their content, as long as the message is not longer than a Finished. -/
theorem decryptFinishedFragments_eq_ok {protection : Tls13RecordProtection} {start : Nat} {message total : Bytes}
    {records : List TlsCiphertextRecord} (hsequence : protection.readSequenceNumber = sequenceAt start)
    (hmessage : message.length ≤ handshakeHeaderSize + tlsSha256HashSize) :
    (decryptFinishedFragments protection message records).1 = .ok total ↔
      ∃ content, OpensInOrder protection.readKey protection.readIv start records content ∧
        total = message ++ content ∧ total.length ≤ handshakeHeaderSize + tlsSha256HashSize := by
  induction records generalizing protection start message with
  | nil =>
      constructor
      · intro h
        obtain rfl := Except.ok.inj h
        exact ⟨[], .nil start, (List.append_nil _).symm, hmessage⟩
      · intro hfacts
        obtain ⟨content, hopens, rfl, -⟩ := hfacts
        cases hopens
        rw [List.append_nil]
        rfl
  | cons record records ih =>
      constructor
      · intro h
        rw [decryptFinishedFragments] at h
        split at h
        · cases h
        · rename_i plaintext protection' hdecrypt
          obtain ⟨number, hnumber, hopens, rfl⟩ := Tls13RecordProtection.decryptRecord_eq_ok.1 hdecrypt
          rw [hsequence] at hnumber
          obtain ⟨hstart, rfl, hsucc⟩ := sequenceAt_eq_some hnumber
          split at h
          · cases h
          · rename_i hcontent
            dsimp only at h
            split at h
            · cases h
            · rename_i hshort
              obtain ⟨content, hrest, rfl, hlength⟩ := (ih hsucc (Nat.not_lt.1 hshort)).1 h
              exact ⟨plaintext.fragment ++ content, .cons hstart hopens (not_not.1 hcontent) hrest,
                List.append_assoc _ _ _, hlength⟩
      · intro hfacts
        obtain ⟨content, hopens, rfl, hlength⟩ := hfacts
        cases hopens with
        | cons hstart hrecord hcontent hrest =>
            rename_i plaintext content
            have hnumber : sequenceAt start = some (UInt64.ofNat start) := if_pos hstart
            have hsucc := (sequenceAt_eq_some hnumber).2.2
            have hdecrypt := Tls13RecordProtection.decryptRecord_eq_ok.2
              ⟨_, hsequence.trans hnumber, hrecord, rfl⟩
            have hshort : ¬(message ++ plaintext.fragment).length > handshakeHeaderSize + tlsSha256HashSize := by
              rw [← List.append_assoc, List.length_append] at hlength
              omega
            simp only [decryptFinishedFragments, hdecrypt, hcontent, ne_eq, not_true_eq_false, if_false, hshort]
            exact (ih hsucc (Nat.not_lt.1 hshort)).2 ⟨content, hrest, (List.append_assoc _ _ _).symm, hlength⟩

/-- The checks leave a Finished message with data of the size of a digest. -/
theorem validateFinishedMessage_eq_ok {message message' : Bytes} :
    validateFinishedMessage message = .ok message' ↔
      message' = message ∧ ∃ verifyData : Bytes, verifyData.length = tlsSha256HashSize ∧
        message = handshakeMessage handshakeTypeFinished verifyData := by
  constructor
  · intro h
    obtain ⟨_, hshape, h⟩ := bind_eq_ok.1 h
    obtain ⟨_, hdeclared, h⟩ := bind_eq_ok.1 h
    obtain ⟨hlength, htype⟩ := ensure_eq_ok.1 hshape
    have hdeclared := ensure_eq_ok.1 hdeclared
    cases h
    have hdata : message.length - handshakeHeaderSize = tlsSha256HashSize := by rw [hlength, Nat.add_sub_cancel_left]
    refine ⟨rfl, message.drop handshakeHeaderSize, ?_, eq_handshakeMessage ?_ htype (hdeclared.trans hdata.symm)⟩
    · rw [List.length_drop, hdata]
    · rw [hlength]
      exact Nat.le_add_right _ _
  · intro hfacts
    obtain ⟨rfl, verifyData, hlength, rfl⟩ := hfacts
    have hdeclared := @declaredLength_handshakeMessage handshakeTypeFinished verifyData
      (show verifyData.length ≤ tlsUint24Max by rw [hlength]; decide) []
    rw [List.append_nil, hlength] at hdeclared
    rw [validateFinishedMessage, ensure_of ⟨by rw [length_handshakeMessage, hlength], rfl⟩, ok_bind,
      ensure_of hdeclared, ok_bind, pure_eq_ok]

theorem decryptTls13ClientFinished_eq_ok {protection : Tls13RecordProtection} {start : Nat}
    {records : List TlsCiphertextRecord} {message : Bytes}
    (hsequence : protection.readSequenceNumber = sequenceAt start) :
    (decryptTls13ClientFinished protection records).1 = .ok message ↔
      records ≠ [] ∧ OpensInOrder protection.readKey protection.readIv start records message ∧
        ∃ verifyData : Bytes, verifyData.length = tlsSha256HashSize ∧
          message = handshakeMessage handshakeTypeFinished verifyData := by
  rw [decryptTls13ClientFinished]
  by_cases hempty : records = []
  · simp [hempty]
  · rw [if_neg (by simpa using hempty)]
    dsimp only
    rw [bind_eq_ok]
    constructor
    · intro hfacts
      obtain ⟨total, htotal, hvalid⟩ := hfacts
      obtain ⟨content, hopens, rfl, -⟩ := (decryptFinishedFragments_eq_ok hsequence (Nat.zero_le _)).1 htotal
      obtain ⟨rfl, hmessage⟩ := validateFinishedMessage_eq_ok.1 hvalid
      exact ⟨hempty, hopens, hmessage⟩
    · intro hfacts
      obtain ⟨-, hopens, verifyData, hlength, rfl⟩ := hfacts
      refine ⟨_, (decryptFinishedFragments_eq_ok hsequence (Nat.zero_le _)).2 ⟨_, hopens, rfl, ?_⟩,
        validateFinishedMessage_eq_ok.2 ⟨rfl, verifyData, hlength, rfl⟩⟩
      rw [List.nil_append, length_handshakeMessage, hlength]

/-! ### Runs of the server side -/

/-- A flight after any number of calls of `authenticate_server`, with what the last successful one handed out. -/
inductive ServerRun : Tls13ServerHelloFlight → Bytes → Option Tls13ServerAuthenticationFlight → Prop
  | negotiated {flight : Tls13ServerHelloFlight} {hellos : Bytes} (h : Negotiated flight hellos) :
      ServerRun flight hellos none
  | authenticated {flight flight' : Tls13ServerHelloFlight} {hellos : Bytes}
      {before : Option Tls13ServerAuthenticationFlight} {authentication : Tls13ServerAuthenticationFlight} {turns : Nat}
      {certificateChain : List Bytes} {signingKey : Scalar} (hrun : ServerRun flight hellos before)
      (h : flight.authenticateServer turns certificateChain signingKey = some (.ok authentication, flight')) :
      ServerRun flight' hellos (some authentication)
  | refused {flight flight' : Tls13ServerHelloFlight} {hellos : Bytes}
      {before : Option Tls13ServerAuthenticationFlight} {error : TlsServerHandshakeError} {turns : Nat}
      {certificateChain : List Bytes} {signingKey : Scalar} (hrun : ServerRun flight hellos before)
      (h : flight.authenticateServer turns certificateChain signingKey = some (.error error, flight')) :
      ServerRun flight' hellos before

/-- The messages of the authentication, if there was one. -/
def authenticationMessages : Option Tls13ServerAuthenticationFlight → Bytes
  | none => []
  | some authentication => authentication.certificate ++ authentication.certificateVerify ++ authentication.finished

/-- What holds of a flight in every run. -/
structure ServerRunInvariant (flight : Tls13ServerHelloFlight) (hellos : Bytes)
    (authentication : Option Tls13ServerAuthenticationFlight) : Prop where
  started_eq : flight.serverAuthenticationStarted = authentication.isSome
  transcript_eq : flight.transcript = .ofBytes (hellos ++ flight.serverHello ++ flight.encryptedExtensions ++
    authenticationMessages authentication)
  readKey_eq : deriveTls13TrafficKeyIv flight.clientHandshakeTrafficSecret =
    .ok (flight.handshakeRecordProtection.readKey, flight.handshakeRecordProtection.readIv)
  readSequenceNumber_eq : flight.handshakeRecordProtection.readSequenceNumber = sequenceAt 0
  writeSequenceNumber_eq : flight.serverAuthenticationStarted = false →
    flight.handshakeRecordProtection.writeSequenceNumber = sequenceAt 1

theorem Tls13ServerHelloFlight.Answers.runInvariant {flight : Tls13ServerHelloFlight} {clientHelloMessage : Bytes}
    {clientHello : ClientHello} {transcript : TlsTranscript} {serverKeyShare : ByteArrayN 65}
    {sharedSecret serverRandom : ByteArrayN 32} {keySchedule : Tls13HandshakeKeySchedule} {hellos : Bytes}
    (h : flight.Answers clientHelloMessage clientHello transcript serverKeyShare sharedSecret serverRandom keySchedule)
    (htranscript : transcript.updateHandshakeMessage clientHelloMessage = .ofBytes hellos) :
    ServerRunInvariant flight hellos none where
  started_eq := h.notStarted
  transcript_eq := by
    rw [h.transcript_eq, htranscript, TlsTranscript.updateHandshakeMessage_ofBytes,
      TlsTranscript.updateHandshakeMessage_ofBytes, authenticationMessages, List.append_nil]
  readKey_eq := by
    rw [h.protection_eq, h.clientHandshakeTrafficSecret_eq]
    exact (deriveTls13HandshakeKeySchedule_keys h.keySchedule_eq).1
  readSequenceNumber_eq := by rw [h.protection_eq]
  writeSequenceNumber_eq := fun _ => by rw [h.protection_eq]

theorem Negotiated.runInvariant {flight : Tls13ServerHelloFlight} {hellos : Bytes} (h : Negotiated flight hellos) :
    ServerRunInvariant flight hellos none := by
  obtain ⟨_, _, _, _, _, _, _, htranscript, hanswers⟩ := h.answers
  exact hanswers.runInvariant htranscript

/-- A call of `authenticate_server` keeps the invariant, and leaves no trace when it fails. -/
theorem ServerRunInvariant.authenticateServer {flight flight' : Tls13ServerHelloFlight} {hellos : Bytes}
    {before : Option Tls13ServerAuthenticationFlight} {turns : Nat} {certificateChain : List Bytes}
    {signingKey : Scalar} {result : Except TlsServerHandshakeError Tls13ServerAuthenticationFlight}
    (hinv : ServerRunInvariant flight hellos before)
    (h : flight.authenticateServer turns certificateChain signingKey = some (result, flight')) :
    (∃ error, result = .error error ∧ flight' = flight) ∨
      ∃ authentication, result = .ok authentication ∧
        ServerRunInvariant flight' hellos (some authentication) := by
  obtain ⟨error, hresult, hflight⟩ | ⟨authentication, hresult, hstarted, hauthenticated⟩ :=
    Tls13ServerHelloFlight.authenticateServer_cases hinv.writeSequenceNumber_eq h
  · exact .inl ⟨error, hresult, hflight⟩
  · refine .inr ⟨authentication, hresult, ?_⟩
    have hbefore : before = none := by
      rw [hinv.started_eq] at hstarted
      simpa using hstarted
    obtain ⟨next, rfl⟩ := hauthenticated.flight_eq
    refine ⟨rfl, ?_, hinv.readKey_eq, hinv.readSequenceNumber_eq, fun hfalse => by cases hfalse⟩
    show ((flight.transcript.updateHandshakeMessage _).updateHandshakeMessage _).updateHandshakeMessage _ = _
    rw [hinv.transcript_eq, hbefore]
    simp only [TlsTranscript.updateHandshakeMessage_ofBytes, authenticationMessages, List.append_nil,
      List.append_assoc]

theorem ServerRun.invariant {flight : Tls13ServerHelloFlight} {hellos : Bytes}
    {authentication : Option Tls13ServerAuthenticationFlight} (h : ServerRun flight hellos authentication) :
    ServerRunInvariant flight hellos authentication := by
  induction h with
  | negotiated h => exact h.runInvariant
  | authenticated hrun h ih =>
      obtain ⟨error, hresult, -⟩ | ⟨authentication, hresult, hinv⟩ := ih.authenticateServer h
      · cases hresult
      · cases hresult
        exact hinv
  | refused hrun h ih =>
      obtain ⟨error, -, rfl⟩ | ⟨authentication, hresult, -⟩ := ih.authenticateServer h
      · exact ih
      · cases hresult

/-! ### The client's Finished -/

/-- A flight whose authentication has started completes on the right Finished and on nothing else. -/
theorem Tls13ServerHelloFlight.completeHandshake_isOk {flight : Tls13ServerHelloFlight} {start : Nat}
    {finishedKey : ByteArrayN 32} {records : List TlsCiphertextRecord}
    (hsequence : flight.handshakeRecordProtection.readSequenceNumber = sequenceAt start)
    (hkey : tls13ExpandLabelArray 32 flight.clientHandshakeTrafficSecret.toList "finished" [] = .ok finishedKey) :
    (∃ state, flight.completeHandshake records = .ok state) ↔
      flight.serverAuthenticationStarted = true ∧ records ≠ [] ∧
        OpensInOrder flight.handshakeRecordProtection.readKey flight.handshakeRecordProtection.readIv start records
          (handshakeMessage handshakeTypeFinished
            (hmacSha256 finishedKey.toList flight.transcript.hash.toList).toList) := by
  have hverify : tls13FinishedVerifyData flight.clientHandshakeTrafficSecret flight.transcript.hash =
      .ok (hmacSha256 finishedKey.toList flight.transcript.hash.toList) := by
    rw [tls13FinishedVerifyData, hkey, ok_bind, pure_eq_ok]
  obtain ⟨keySchedule, hschedule⟩ :=
    deriveTls13ApplicationKeySchedule_isOk flight.mainSecret flight.transcript.hash
  generalize hexpected : hmacSha256 finishedKey.toList flight.transcript.hash.toList = expected at hverify ⊢
  constructor
  · intro hfacts
    obtain ⟨state, h⟩ := hfacts
    obtain ⟨_, hstarted, h⟩ := bind_eq_ok.1 h
    obtain ⟨_, -, h⟩ := bind_eq_ok.1 h
    obtain ⟨message, hmessage, h⟩ := bind_eq_ok.1 h
    obtain ⟨verifyData, hverifyData, h⟩ := bind_eq_ok.1 h
    obtain ⟨_, heq, -⟩ := bind_eq_ok.1 h
    rw [hverify, mapErr_ok, Except.ok.injEq] at hverifyData
    obtain ⟨hrecords, hopens, sent, hlength, rfl⟩ := (decryptTls13ClientFinished_eq_ok hsequence).1 hmessage
    have hsent : sent = expected.toList := by
      rw [hverifyData]
      exact constantTimeEq_iff.1 (ensure_eq_ok.1 heq)
    rw [hsent] at hopens
    exact ⟨ensure_eq_ok.1 hstarted, hrecords, hopens⟩
  · intro hfacts
    obtain ⟨hstarted, hrecords, hopens⟩ := hfacts
    have hmessage := (decryptTls13ClientFinished_eq_ok hsequence).2
      ⟨hrecords, hopens, expected.toList, expected.length_toList, rfl⟩
    have hequal : constantTimeEq ((handshakeMessage handshakeTypeFinished expected.toList).drop handshakeHeaderSize)
        expected.toList = true := constantTimeEq_iff.2 rfl
    rw [completeHandshake, ensure_of hstarted, ok_bind]
    simp only [hschedule, mapErr_ok, ok_bind, hmessage, hverify, ensure_of hequal, pure_eq_ok]
    exact ⟨_, rfl⟩

/-- A handshake completes exactly on the client's Finished after server authentication, and a failed
authentication leaves no trace. -/
theorem completeHandshake_exactly_on_finished :
    (∀ flight : Tls13ServerHelloFlight, ∃ start finishedKey,
      flight.handshakeRecordProtection.readSequenceNumber = sequenceAt start ∧
      tls13ExpandLabelArray 32 flight.clientHandshakeTrafficSecret.toList "finished" [] = .ok finishedKey ∧
      ∀ records, (∃ state, flight.completeHandshake records = .ok state) ↔
        flight.serverAuthenticationStarted = true ∧ records ≠ [] ∧
          OpensInOrder flight.handshakeRecordProtection.readKey flight.handshakeRecordProtection.readIv start records
            (handshakeMessage handshakeTypeFinished
              (hmacSha256 finishedKey.toList flight.transcript.hash.toList).toList)) ∧
    ∀ flight hellos authentication, ServerRun flight hellos authentication →
      (∃ clientKey clientIv finishedKey,
        deriveTls13TrafficKeyIv flight.clientHandshakeTrafficSecret = .ok (clientKey, clientIv) ∧
        tls13ExpandLabelArray 32 flight.clientHandshakeTrafficSecret.toList "finished" [] = .ok finishedKey ∧
        ∀ records, (∃ state, flight.completeHandshake records = .ok state) ↔
          authentication.isSome = true ∧ records ≠ [] ∧
            OpensInOrder clientKey clientIv 0 records
              (handshakeMessage handshakeTypeFinished
                (hmacSha256 finishedKey.toList (sha256 (hellos ++ flight.serverHello ++ flight.encryptedExtensions ++
                  authenticationMessages authentication)).toList).toList)) ∧
      ∀ turns certificateChain signingKey error flight',
        flight.authenticateServer turns certificateChain signingKey = some (.error error, flight') →
          flight' = flight := by
  constructor
  · intro flight
    obtain ⟨start, hstart⟩ := exists_sequenceAt flight.handshakeRecordProtection.readSequenceNumber
    obtain ⟨finishedKey, hkey, -⟩ := tls13FinishedVerifyData_eq flight.clientHandshakeTrafficSecret
    exact ⟨start, finishedKey, hstart, hkey, fun records => flight.completeHandshake_isOk hstart hkey⟩
  · intro flight hellos authentication hrun
    have hinv := hrun.invariant
    constructor
    · obtain ⟨finishedKey, hkey, -⟩ := tls13FinishedVerifyData_eq flight.clientHandshakeTrafficSecret
      refine ⟨_, _, finishedKey, hinv.readKey_eq, hkey, fun records => ?_⟩
      rw [flight.completeHandshake_isOk hinv.readSequenceNumber_eq hkey, hinv.started_eq, hinv.transcript_eq,
        TlsTranscript.hash_ofBytes]
    · intro turns certificateChain signingKey error flight' h
      obtain ⟨_, -, hflight⟩ | ⟨_, hresult, -⟩ := hinv.authenticateServer h
      · exact hflight
      · cases hresult

/-- A message that fits into a record is sealed in one. -/
theorem OpensInOrder.exists_single (key : ByteArrayN 32) (iv : ByteArrayN 12) {start : Nat} (hstart : start < 2 ^ 64)
    {message : Bytes} (hvalid : validatePlaintextFragment .handshake message = .ok ()) :
    ∃ record, OpensInOrder key iv start [record] message := by
  have hlimits : tlsPlaintextFragmentLimit + 1 + 0 ≤ tlsInnerPlaintextLimit := by decide
  have hlength := (validatePlaintextFragment_handshake.1 hvalid).2
  obtain ⟨record, hencrypt⟩ := @Tls13RecordProtection.encryptRecord_isOk
    ⟨key, iv, key, iv, sequenceAt start, sequenceAt start⟩ ⟨.handshake, tlsLegacyRecordVersion, message⟩ 0 _
    (if_pos hstart) hvalid (by simp) (by dsimp only; omega)
  have hdecrypt := @Tls13RecordProtection.decryptRecord_encryptRecord _ _
    ⟨key, iv, key, iv, sequenceAt start, sequenceAt start⟩ _ _ _ rfl rfl rfl hencrypt
  obtain ⟨number, hnumber, hopens, -⟩ := Tls13RecordProtection.decryptRecord_eq_ok.1 hdecrypt
  obtain ⟨-, rfl, -⟩ := sequenceAt_eq_some hnumber
  have hinOrder := OpensInOrder.cons hstart hopens rfl (.nil (start + 1))
  rw [List.append_nil] at hinOrder
  exact ⟨record, hinOrder⟩

theorem validate_finished (verifyData : ByteArrayN 32) :
    validatePlaintextFragment .handshake (handshakeMessage handshakeTypeFinished verifyData.toList) = .ok () := by
  rw [validatePlaintextFragment_handshake, length_handshakeMessage, Vector.length_toList]
  decide

/-- A negotiated flight takes no Finished before its authentication, and an empty chain does not change it. Once it has
started to authenticate there is a Finished on which it completes. -/
theorem completeHandshake_exactly_on_finished_negotiated :
    ∃ flight hellos, ServerRun flight hellos none ∧
      (∀ records state, flight.completeHandshake records ≠ .ok state) ∧
      (∃ flight', flight.authenticateServer 0 [] .one = some (.error .emptyCertificateChain, flight') ∧
        flight' = flight) ∧
      (∃ record state, { flight with serverAuthenticationStarted := true }.completeHandshake [record] = .ok state) ∧
      ∀ turns authentication flight',
        flight.authenticateServer turns [[1]] .one = some (.ok authentication, flight') →
          ∃ record state, flight'.completeHandshake [record] = .ok state := by
  obtain ⟨flight, hellos, hnegotiated⟩ := exists_negotiated
  have hrun := ServerRun.negotiated hnegotiated
  obtain ⟨⟨_, _, _, -, -, hfinished⟩, hunchanged⟩ := completeHandshake_exactly_on_finished.2 flight hellos none hrun
  have hnotStarted : flight.serverAuthenticationStarted = false := hrun.invariant.started_eq
  have hrefused : flight.authenticateServer 0 [] .one = some (.error .emptyCertificateChain, flight) := by
    rw [Tls13ServerHelloFlight.authenticateServer, hnotStarted]
    rfl
  refine ⟨flight, hellos, hrun, ?_, ⟨flight, hrefused, hunchanged _ _ _ _ _ hrefused⟩, ?_, ?_⟩
  · intro records state hstate
    exact Bool.noConfusion ((hfinished records).1 ⟨state, hstate⟩).1
  · obtain ⟨start, finishedKey, hstart, -, hcompletes⟩ :=
      completeHandshake_exactly_on_finished.1 { flight with serverAuthenticationStarted := true }
    have hnumber : sequenceAt start = some 0 := hstart.symm.trans hrun.invariant.readSequenceNumber_eq
    obtain ⟨record, hopens⟩ := OpensInOrder.exists_single flight.handshakeRecordProtection.readKey
      flight.handshakeRecordProtection.readIv (sequenceAt_eq_some hnumber).1
      (validate_finished (hmacSha256 finishedKey.toList flight.transcript.hash.toList))
    obtain ⟨state, hstate⟩ := (hcompletes [record]).2 ⟨rfl, List.cons_ne_nil _ _, hopens⟩
    exact ⟨record, state, hstate⟩
  · intro turns authentication flight' hauthenticate
    obtain ⟨⟨clientKey, clientIv, finishedKey, -, -, hcompletes⟩, -⟩ :=
      completeHandshake_exactly_on_finished.2 flight' hellos (some authentication) (.authenticated hrun hauthenticate)
    obtain ⟨record, hopens⟩ := @OpensInOrder.exists_single clientKey clientIv 0 (by decide) _
      (validate_finished (hmacSha256 finishedKey.toList (sha256 (hellos ++ flight'.serverHello ++
        flight'.encryptedExtensions ++ authenticationMessages (some authentication))).toList))
    obtain ⟨state, hstate⟩ := (hcompletes [record]).2 ⟨rfl, List.cons_ne_nil _ _, hopens⟩
    exact ⟨record, state, hstate⟩

end BareProxy.Tls
