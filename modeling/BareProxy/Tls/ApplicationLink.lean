import BareProxy.Base.Link
import BareProxy.Tls.ApplicationRun
import BareProxy.Tls.RecordRun
import BareProxy.Tls.WireRecords

/-!
# Application data on a connection

The application state of the server and, at the other end, the record protection of a client with the mirrored keys; in
between a connection that keeps the order of the records. Seen by those who use the two ends it carries plaintext: every
call and every arrival has the result that it has on a link of two ends without keys, until the sequence numbers run out
as they do there.
-/

namespace BareProxy.Tls

open Tls13ApplicationState

/-! ### The two ends -/

/-- What the server can be asked to send. -/
inductive ApplicationWrite
  | applicationData (fragment : Bytes)
  | closeNotify
  | fatalAlert (description : TlsAlertDescription)

def ApplicationWrite.encrypt (state : Tls13ApplicationState) :
    ApplicationWrite → Except TlsRecordError TlsCiphertextRecord × Tls13ApplicationState
  | .applicationData fragment => state.encryptApplicationDataRecord fragment
  | .closeNotify => state.encryptCloseNotify
  | .fatalAlert description => state.encryptFatalAlert description

/-- A call that encrypts tells its caller whether it succeeded, and sends the record if it did. -/
def sendResult {σ α : Type} (call : Except TlsRecordError α × σ) : (Except TlsRecordError Unit × Option α) × σ :=
  ((call.1.map fun _ => (), call.1.toOption), call.2)

def serverEnd : Party Tls13ApplicationState ApplicationWrite (Except TlsRecordError Unit)
    (Except TlsRecordError Tls13ApplicationEvent) TlsCiphertextRecord where
  call state write := sendResult (write.encrypt state)
  take := receiveProtectedRecord

/-- A client can send any record that may be protected, with any padding. -/
def clientEnd : Party Tls13RecordProtection (TlsPlaintextRecord × Nat) (Except TlsRecordError Unit)
    (Except TlsRecordError TlsPlaintextRecord) TlsCiphertextRecord where
  call protection input := sendResult (protection.encryptRecord input.1 input.2)
  take := Tls13RecordProtection.decryptRecord

/-! ### Ends without keys -/

structure PlainServer where
  sent : Nat
  closeNotifySent : Bool
  closeNotifyReceived : Bool
  failed : Bool

namespace PlainServer

def start : PlainServer := ⟨0, false, false, false⟩

/-- The record to be sent, when it may be sent. -/
def record (server : PlainServer) : ApplicationWrite → Except TlsRecordError TlsPlaintextRecord
  | .applicationData fragment =>
    if server.failed then .error .connectionFailed
    else if server.closeNotifySent then .error .writeAfterCloseNotify
    else TlsPlaintextRecord.new .applicationData fragment
  | .closeNotify =>
    if server.failed then .error .connectionFailed
    else if server.closeNotifySent then .error .closeNotifyAlreadySent
    else TlsAlert.closeNotify.plaintextRecord
  | .fatalAlert description =>
    if server.failed then .error .connectionFailed
    else TlsAlert.fatal description >>= TlsAlert.plaintextRecord

/-- The server after the record went out. -/
def afterWrite (server : PlainServer) : ApplicationWrite → PlainServer
  | .applicationData _ => { server with sent := server.sent + 1 }
  | .closeNotify => { server with sent := server.sent + 1, closeNotifySent := true }
  | .fatalAlert _ => { server with sent := server.sent + 1, failed := true }

def write (server : PlainServer) (write : ApplicationWrite) :
    Except TlsRecordError TlsPlaintextRecord × PlainServer :=
  match server.record write with
  | .error error => (.error error, server)
  | .ok record =>
    if server.sent < 2 ^ 64 then (.ok record, server.afterWrite write)
    else (.error (.sequenceNumberExhausted .write), server)

def receiveAlert (server : PlainServer) (fragment : Bytes) :
    Except TlsRecordError Tls13ApplicationEvent × PlainServer :=
  match TlsAlert.parse fragment with
  | .error error => (.error error, server)
  | .ok alert =>
    match alert.description with
    | .closeNotify => (.ok .closeNotify, { server with closeNotifyReceived := true })
    | .userCanceled => (.ok .userCanceled, server)
    | description => (.ok (.fatalAlert description), { server with failed := true })

def receive (server : PlainServer) (record : TlsPlaintextRecord) :
    Except TlsRecordError Tls13ApplicationEvent × PlainServer :=
  if server.failed then (.error .connectionFailed, server)
  else if server.closeNotifyReceived then (.ok .ignoredAfterCloseNotify, server)
  else match record.contentType with
    | .applicationData => (.ok (.applicationData record.fragment), server)
    | .alert => server.receiveAlert record.fragment
    | contentType => (.error (.unexpectedProtectedContentType contentType), server)

end PlainServer

def plainServerEnd : Party PlainServer ApplicationWrite (Except TlsRecordError Unit)
    (Except TlsRecordError Tls13ApplicationEvent) TlsPlaintextRecord where
  call server write := sendResult (server.write write)
  take := PlainServer.receive

/-- A client without keys counts what it has sent. -/
def plainClientWrite (sent : Nat) (record : TlsPlaintextRecord) (paddingLength : Nat) :
    Except TlsRecordError TlsPlaintextRecord × Nat :=
  if sent < 2 ^ 64 then
    match encodeTlsInnerPlaintext record paddingLength with
    | .error error => (.error error, sent)
    | .ok _ => (.ok { record with legacyRecordVersion := tlsLegacyRecordVersion }, sent + 1)
  else (.error (.sequenceNumberExhausted .write), sent)

def plainClientEnd : Party Nat (TlsPlaintextRecord × Nat) (Except TlsRecordError Unit)
    (Except TlsRecordError TlsPlaintextRecord) TlsPlaintextRecord where
  call sent input := sendResult (plainClientWrite sent input.1 input.2)
  take sent record := (.ok record, sent)

/-! ### Records under way -/

/-- The record with this number protects this plaintext. -/
def Seals (key : ByteArrayN 32) (iv : ByteArrayN 12) (number : Nat) (record : TlsCiphertextRecord)
    (plaintext : TlsPlaintextRecord) : Prop :=
  number < 2 ^ 64 ∧ Tls13RecordProtection.Opens key iv (UInt64.ofNat number) record plaintext

section Records

variable {writeKey readKey : ByteArrayN 32} {writeIv readIv : ByteArrayN 12} {sent taken : Nat}

/-- A record that was sealed with the next number to be read is opened. -/
theorem Seals.decryptRecord {record : TlsCiphertextRecord} {plaintext : TlsPlaintextRecord}
    (h : Seals readKey readIv taken record plaintext) :
    (protectionAt writeKey writeIv readKey readIv sent taken).decryptRecord record =
      (.ok plaintext, protectionAt writeKey writeIv readKey readIv sent (taken + 1)) := by
  have hnumber : sequenceAt taken = some (UInt64.ofNat taken) := if_pos h.1
  apply Tls13RecordProtection.decryptRecord_eq_ok.2
  refine ⟨_, hnumber, h.2, ?_⟩
  rw [(sequenceAt_eq_some hnumber).2.2]
  rfl

/-- A record that may be protected is sealed with the next number to be written. -/
theorem encryptRecord_protectionAt {record : TlsPlaintextRecord} {paddingLength : Nat} {innerPlaintext : Bytes}
    (hsent : sent < 2 ^ 64) (hinner : encodeTlsInnerPlaintext record paddingLength = .ok innerPlaintext) :
    ∃ encrypted, (protectionAt writeKey writeIv readKey readIv sent taken).encryptRecord record paddingLength =
        (.ok encrypted, protectionAt writeKey writeIv readKey readIv (sent + 1) taken) ∧
      Seals writeKey writeIv sent encrypted { record with legacyRecordVersion := tlsLegacyRecordVersion } := by
  have hnumber : sequenceAt sent = some (UInt64.ofNat sent) := if_pos hsent
  obtain ⟨hvalid, htype, hlimit, -⟩ := encodeTlsInnerPlaintext_ok.1 hinner
  obtain ⟨encrypted, hencrypt⟩ := @Tls13RecordProtection.encryptRecord_isOk
    (protectionAt writeKey writeIv readKey readIv sent taken) _ _ _ hnumber hvalid htype hlimit
  rw [(sequenceAt_eq_some hnumber).2.2] at hencrypt
  refine ⟨encrypted, hencrypt, hsent, ?_⟩
  have hdecrypt := @Tls13RecordProtection.decryptRecord_encryptRecord _ _
    (protectionAt readKey readIv writeKey writeIv taken sent) _ _ _ rfl rfl rfl hencrypt
  obtain ⟨number, hread, hopens, -⟩ := Tls13RecordProtection.decryptRecord_eq_ok.1 hdecrypt
  obtain rfl : UInt64.ofNat sent = number := Option.some.inj (hnumber.symm.trans hread)
  exact hopens

theorem encryptRecord_exhausted {record : TlsPlaintextRecord} {paddingLength : Nat} (hsent : ¬ sent < 2 ^ 64) :
    (protectionAt writeKey writeIv readKey readIv sent taken).encryptRecord record paddingLength =
      (.error (.sequenceNumberExhausted .write), protectionAt writeKey writeIv readKey readIv sent taken) := by
  have hnumber : (protectionAt writeKey writeIv readKey readIv sent taken).writeSequenceNumber = none := if_neg hsent
  rw [Tls13RecordProtection.encryptRecord, hnumber]

end Records

/-! ### The ends refine those without keys -/

section Refinement

variable {writeKey readKey : ByteArrayN 32} {writeIv readIv : ByteArrayN 12}

/-- A server that has sent and taken this many records under these keys, and what it is without them. -/
structure ServerRelated (writeKey : ByteArrayN 32) (writeIv : ByteArrayN 12) (readKey : ByteArrayN 32)
    (readIv : ByteArrayN 12) (sent taken : Nat) (state : Tls13ApplicationState) (server : PlainServer) : Prop where
  server_eq : server = ⟨sent, state.closeNotifySent, state.closeNotifyReceived, state.failed⟩
  protection_eq : state.failed = false →
    state.recordProtection = protectionAt writeKey writeIv readKey readIv sent taken

/-- What a successful call leaves beside the sequence numbers. -/
def ApplicationWrite.afterEncrypt (state : Tls13ApplicationState) : ApplicationWrite → Tls13ApplicationState
  | .applicationData _ => state
  | .closeNotify => { state with closeNotifySent := true }
  | .fatalAlert _ => state.fail

/-- The calls of the server check what an end without keys checks, and then encrypt. -/
theorem ApplicationWrite.encrypt_eq (state : Tls13ApplicationState) (sent : Nat) (write : ApplicationWrite) :
    write.encrypt state =
      match PlainServer.record ⟨sent, state.closeNotifySent, state.closeNotifyReceived, state.failed⟩ write with
      | .error error => (.error error, state)
      | .ok plaintext =>
        match state.encryptPlaintext plaintext with
        | (.error error, state) => (.error error, state)
        | (.ok encrypted, state) => (.ok encrypted, write.afterEncrypt state) := by
  cases write with
  | applicationData fragment =>
    rw [encrypt, encryptApplicationDataRecord, PlainServer.record]
    split
    · rfl
    · split
      · rfl
      · cases TlsPlaintextRecord.new .applicationData fragment with
        | error error => rfl
        | ok plaintext =>
          dsimp only
          rcases state.encryptPlaintext plaintext with ⟨error | encrypted, state'⟩
          · rfl
          · rfl
  | closeNotify =>
    rw [encrypt, encryptCloseNotify, PlainServer.record]
    split
    · rfl
    · split
      · rfl
      · rfl
  | fatalAlert description =>
    rw [encrypt, encryptFatalAlert, PlainServer.record]
    split
    · rfl
    · rfl

/-- Every record that the server sends may be protected. -/
theorem PlainServer.record_ok {server : PlainServer} {write : ApplicationWrite} {record : TlsPlaintextRecord}
    (h : server.record write = .ok record) :
    server.failed = false ∧ record.legacyRecordVersion = tlsLegacyRecordVersion ∧
      ∃ innerPlaintext, encodeTlsInnerPlaintext record 0 = .ok innerPlaintext := by
  have hnew : ∀ {contentType fragment}, TlsPlaintextRecord.new contentType fragment = .ok record →
      contentType ≠ .changeCipherSpec → record.legacyRecordVersion = tlsLegacyRecordVersion ∧
        ∃ innerPlaintext, encodeTlsInnerPlaintext record 0 = .ok innerPlaintext := by
    intro contentType fragment hrecord htype
    obtain ⟨hvalid, rfl⟩ := TlsPlaintextRecord.new_eq_ok.1 hrecord
    have hlength := length_fragment_of_valid hvalid
    exact ⟨rfl, _, encodeTlsInnerPlaintext_ok.2 ⟨hvalid, htype, Nat.succ_le_succ hlength, rfl⟩⟩
  cases hfailed : server.failed with
  | true =>
    cases write <;> rw [PlainServer.record, if_pos hfailed] at h <;> cases h
  | false =>
    refine ⟨rfl, ?_⟩
    cases write with
    | applicationData fragment =>
      rw [PlainServer.record, if_neg (by rw [hfailed]; exact Bool.false_ne_true)] at h
      split at h
      · cases h
      · exact hnew h (by decide)
    | closeNotify =>
      rw [PlainServer.record, if_neg (by rw [hfailed]; exact Bool.false_ne_true)] at h
      split at h
      · cases h
      · exact hnew h (by decide)
    | fatalAlert description =>
      rw [PlainServer.record, if_neg (by rw [hfailed]; exact Bool.false_ne_true)] at h
      obtain ⟨alert, -, halert⟩ := bind_eq_ok.1 h
      exact hnew halert (by decide)

theorem ServerRelated.call {sent taken : Nat} {state : Tls13ApplicationState} {server : PlainServer}
    (h : ServerRelated writeKey writeIv readKey readIv sent taken state server) (write : ApplicationWrite) :
    (serverEnd.call state write).1.1 = (plainServerEnd.call server write).1.1 ∧
      ∃ sent', SentBy (Seals writeKey writeIv) sent (serverEnd.call state write).1.2
          (plainServerEnd.call server write).1.2 sent' ∧
        ServerRelated writeKey writeIv readKey readIv sent' taken (serverEnd.call state write).2
          (plainServerEnd.call server write).2 := by
  obtain ⟨rfl, hprotection⟩ := h
  show (sendResult (write.encrypt state)).1.1 = (sendResult (PlainServer.write _ write)).1.1 ∧
    ∃ sent', SentBy _ sent (sendResult (write.encrypt state)).1.2 (sendResult (PlainServer.write _ write)).1.2 sent' ∧
      ServerRelated _ _ _ _ sent' taken (sendResult (write.encrypt state)).2 (sendResult (PlainServer.write _ write)).2
  rw [ApplicationWrite.encrypt_eq state sent, PlainServer.write]
  cases hrecord : PlainServer.record ⟨sent, state.closeNotifySent, state.closeNotifyReceived, state.failed⟩ write with
  | error error => exact ⟨rfl, sent, .nothing, rfl, hprotection⟩
  | ok record =>
    obtain ⟨hfailed, hversion, innerPlaintext, hinner⟩ := PlainServer.record_ok hrecord
    dsimp only
    rw [encryptPlaintext, hprotection hfailed]
    by_cases hsent : sent < 2 ^ 64
    · obtain ⟨encrypted, hencrypt, hseals⟩ :=
        @encryptRecord_protectionAt writeKey readKey writeIv readIv sent taken _ _ _ hsent hinner
      have hsame : { record with legacyRecordVersion := tlsLegacyRecordVersion } = record := by rw [← hversion]
      rw [hsame] at hseals
      rw [hencrypt, if_pos hsent]
      refine ⟨rfl, sent + 1, .message hseals, ?_, ?_⟩
      · cases write <;> rfl
      · intro hnext
        cases write with
        | applicationData fragment => rfl
        | closeNotify => rfl
        | fatalAlert description => cases hnext
    · rw [encryptRecord_exhausted hsent, if_neg hsent]
      exact ⟨rfl, sent, .nothing, rfl, fun _ => rfl⟩

/-- An alert does the same to both. -/
theorem ServerRelated.receiveAlert {sent taken : Nat} {state : Tls13ApplicationState} {server : PlainServer}
    (h : ServerRelated writeKey writeIv readKey readIv sent taken state server) (fragment : Bytes) :
    (state.receiveAlert fragment).1 = (server.receiveAlert fragment).1 ∧
      ServerRelated writeKey writeIv readKey readIv sent taken (state.receiveAlert fragment).2
        (server.receiveAlert fragment).2 := by
  rw [Tls13ApplicationState.receiveAlert, PlainServer.receiveAlert]
  cases TlsAlert.parse fragment with
  | error error => exact ⟨rfl, h⟩
  | ok alert =>
    obtain ⟨rfl, hprotection⟩ := h
    obtain ⟨level, description⟩ := alert
    cases description with
    | closeNotify => exact ⟨rfl, rfl, hprotection⟩
    | userCanceled => exact ⟨rfl, rfl, hprotection⟩
    | _ => exact ⟨rfl, rfl, fun hfalse => by cases hfalse⟩

theorem ServerRelated.take {sent taken : Nat} {state : Tls13ApplicationState} {server : PlainServer}
    {record : TlsCiphertextRecord} {plaintext : TlsPlaintextRecord}
    (h : ServerRelated writeKey writeIv readKey readIv sent taken state server)
    (hseals : Seals readKey readIv taken record plaintext) :
    (state.receiveProtectedRecord record).1 = (server.receive plaintext).1 ∧
      ServerRelated writeKey writeIv readKey readIv sent (taken + 1) (state.receiveProtectedRecord record).2
        (server.receive plaintext).2 := by
  obtain ⟨rfl, hprotection⟩ := h
  rw [receiveProtectedRecord, PlainServer.receive]
  by_cases hfailed : state.failed = true
  · rw [if_pos hfailed, if_pos hfailed]
    exact ⟨rfl, rfl, fun hfalse => absurd (hfailed.symm.trans hfalse) Bool.true_eq_false.mp⟩
  · rw [if_neg hfailed, if_neg hfailed, hprotection (Bool.eq_false_iff.2 hfailed), hseals.decryptRecord]
    dsimp only
    split
    · exact ⟨rfl, rfl, fun _ => rfl⟩
    · cases plaintext.contentType with
      | applicationData => exact ⟨rfl, rfl, fun _ => rfl⟩
      | alert => exact ServerRelated.receiveAlert ⟨rfl, fun _ => rfl⟩ _
      | changeCipherSpec => exact ⟨rfl, rfl, fun _ => rfl⟩
      | handshake => exact ⟨rfl, rfl, fun _ => rfl⟩

theorem serverEnd_refines (writeKey : ByteArrayN 32) (writeIv : ByteArrayN 12) (readKey : ByteArrayN 32)
    (readIv : ByteArrayN 12) :
    serverEnd.Refines plainServerEnd (ServerRelated writeKey writeIv readKey readIv) (Seals writeKey writeIv)
      (Seals readKey readIv) :=
  ⟨fun h write => h.call write, fun h hseals => h.take hseals⟩

/-- A client that has sent and taken this many records under these keys. -/
def ClientRelated (writeKey : ByteArrayN 32) (writeIv : ByteArrayN 12) (readKey : ByteArrayN 32)
    (readIv : ByteArrayN 12) (sent taken : Nat) (protection : Tls13RecordProtection) (count : Nat) : Prop :=
  protection = protectionAt writeKey writeIv readKey readIv sent taken ∧ count = sent

theorem ClientRelated.call {sent taken count : Nat} {protection : Tls13RecordProtection}
    (h : ClientRelated writeKey writeIv readKey readIv sent taken protection count) (input : TlsPlaintextRecord × Nat) :
    (clientEnd.call protection input).1.1 = (plainClientEnd.call count input).1.1 ∧
      ∃ sent', SentBy (Seals writeKey writeIv) sent (clientEnd.call protection input).1.2
          (plainClientEnd.call count input).1.2 sent' ∧
        ClientRelated writeKey writeIv readKey readIv sent' taken (clientEnd.call protection input).2
          (plainClientEnd.call count input).2 := by
  obtain ⟨rfl, rfl⟩ := h
  obtain ⟨record, paddingLength⟩ := input
  show (sendResult (Tls13RecordProtection.encryptRecord _ record paddingLength)).1.1 =
      (sendResult (plainClientWrite count record paddingLength)).1.1 ∧
    ∃ sent', SentBy _ count (sendResult (Tls13RecordProtection.encryptRecord _ record paddingLength)).1.2
        (sendResult (plainClientWrite count record paddingLength)).1.2 sent' ∧
      ClientRelated _ _ _ _ sent' taken (sendResult (Tls13RecordProtection.encryptRecord _ record paddingLength)).2
        (sendResult (plainClientWrite count record paddingLength)).2
  rw [plainClientWrite]
  by_cases hsent : count < 2 ^ 64
  · rw [if_pos hsent]
    cases hinner : encodeTlsInnerPlaintext record paddingLength with
    | error error =>
      have hencrypt : (protectionAt writeKey writeIv readKey readIv count taken).encryptRecord record paddingLength =
          (.error error, protectionAt writeKey writeIv readKey readIv count taken) := by
        have hnumber : (protectionAt writeKey writeIv readKey readIv count taken).writeSequenceNumber =
          some (UInt64.ofNat count) := if_pos hsent
        rw [Tls13RecordProtection.encryptRecord, hnumber, hinner]
      rw [hencrypt]
      exact ⟨rfl, count, .nothing, rfl, rfl⟩
    | ok innerPlaintext =>
      obtain ⟨encrypted, hencrypt, hseals⟩ :=
        @encryptRecord_protectionAt writeKey readKey writeIv readIv count taken _ _ _ hsent hinner
      rw [hencrypt]
      exact ⟨rfl, count + 1, .message hseals, rfl, rfl⟩
  · rw [encryptRecord_exhausted hsent, if_neg hsent]
    exact ⟨rfl, count, .nothing, rfl, rfl⟩

theorem clientEnd_refines (writeKey : ByteArrayN 32) (writeIv : ByteArrayN 12) (readKey : ByteArrayN 32)
    (readIv : ByteArrayN 12) :
    clientEnd.Refines plainClientEnd (ClientRelated writeKey writeIv readKey readIv) (Seals writeKey writeIv)
      (Seals readKey readIv) := by
  refine ⟨fun h input => h.call input, ?_⟩
  rintro sent taken protection count record plaintext ⟨rfl, rfl⟩ hseals
  show (Tls13RecordProtection.decryptRecord _ record).1 = _ ∧
    ClientRelated _ _ _ _ _ _ (Tls13RecordProtection.decryptRecord _ record).2 _
  rw [hseals.decryptRecord]
  exact ⟨rfl, rfl, rfl⟩

end Refinement

/-! ### Runs of the connection -/

abbrev ApplicationTurn := Link.Turn ApplicationWrite (TlsPlaintextRecord × Nat)

abbrev ApplicationOutput := Link.Output (Except TlsRecordError Unit) (Except TlsRecordError Tls13ApplicationEvent)
  (Except TlsRecordError Unit) (Except TlsRecordError TlsPlaintextRecord)

/-- The server after the handshake, at the left, and a client with its keys the other way round. -/
def applicationLink (negotiatedAlpn : Option Bytes) (clientApplicationTrafficSecret serverApplicationTrafficSecret
    transcriptHash : ByteArrayN 32) (serverKey : ByteArrayN 32) (serverIv : ByteArrayN 12) (clientKey : ByteArrayN 32)
    (clientIv : ByteArrayN 12) : Link Tls13ApplicationState Tls13RecordProtection TlsCiphertextRecord :=
  .start (.new negotiatedAlpn clientApplicationTrafficSecret serverApplicationTrafficSecret transcriptHash
      (.new serverKey serverIv clientKey clientIv)) (.new clientKey clientIv serverKey serverIv)

/-- The same without keys. -/
def plainLink : Link PlainServer Nat TlsPlaintextRecord := .start .start 0

/-- Whatever the two sides send and in whatever order the records arrive among it, the connection gives every caller
what the connection without keys gives. -/
theorem applicationLink_plain (negotiatedAlpn : Option Bytes) (clientApplicationTrafficSecret
    serverApplicationTrafficSecret transcriptHash serverKey : ByteArrayN 32) (serverIv : ByteArrayN 12)
    (clientKey : ByteArrayN 32) (clientIv : ByteArrayN 12) (turns : List ApplicationTurn) :
    outputsOf (Link.step serverEnd clientEnd) (applicationLink negotiatedAlpn clientApplicationTrafficSecret
        serverApplicationTrafficSecret transcriptHash serverKey serverIv clientKey clientIv) turns =
      outputsOf (Link.step plainServerEnd plainClientEnd) plainLink turns :=
  Link.outputsOf_eq (serverEnd_refines serverKey serverIv clientKey clientIv)
    (clientEnd_refines clientKey clientIv serverKey serverIv) ⟨rfl, fun _ => rfl⟩ ⟨rfl, rfl⟩ turns

end BareProxy.Tls
