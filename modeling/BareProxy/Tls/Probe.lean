import BareProxy.Base.Lines
import BareProxy.Tls.HonestHandshake
import BareProxy.Tls.TransportPlain

/-!
# The probe server

`handle_connection` of `tls_probe.rs` without a configuration: after the handshake it collects a request from protected
records, answers it with a fixed response and closes. A client that follows the protocol opens this response, however it
cuts its request into records.
-/

namespace BareProxy.Tls

open P256 Crypto Reader Conversation ProbeTexts

def maxProbeHttpRequest : Nat := 32 * 1024

/-- What an event adds to the request. -/
def requestFragment : Tls13ApplicationEvent → Except IoError Bytes
  | .applicationData fragment => .ok fragment
  | .closeNotify => .error (invalidData "client sent close_notify before the TLS probe HTTP request")
  | .userCanceled => .error (invalidData "client canceled the TLS connection before the probe request")
  | .fatalAlert description => .error (invalidData ("client sent fatal TLS alert " ++ description.debug))
  | .ignoredAfterCloseNotify => .error (invalidData "TLS probe received application data after close_notify")

/-- One turn of the loop of `read_http_request`, with the request so far. -/
def takeRequest : Bytes × Tls13ApplicationState → Bytes →
    Except IoError ((Bytes × Tls13ApplicationState) ⊕ (Bytes × Tls13ApplicationState))
  | (request, applicationState), wire =>
    if wire.getD 0 0 ≠ ContentType.applicationData.code then
      .error (invalidData
        ("expected protected application-data record, got TLS content type " ++ toString (wire.getD 0 0)))
    else do
      let record ← tlsProbe.decodeCiphertextRecord wire
      let (event, applicationState) := applicationState.receiveProtectedRecord record
      let event ← mapErr recordError event
      let fragment ← requestFragment event
      let request := request ++ fragment
      ensure (request.length ≤ maxProbeHttpRequest)
        (invalidData ("TLS probe HTTP request exceeded " ++ toString maxProbeHttpRequest ++ " bytes"))
      return if crlfCrlf <:+: request then .inl (request, applicationState) else .inr (request, applicationState)

def readHttpRequest {ρ : Type} [Reader ρ] (applicationState : Tls13ApplicationState) (stream : ρ) :
    Except IoError (Bytes × Tls13ApplicationState) × ρ :=
  tlsProbe.readRecords takeRequest ([], applicationState) stream

def probeResponse : Bytes :=
  ascii "HTTP/1.1 200 OK\r\nContent-Length: 24\r\nContent-Type: text/plain\r\nConnection: close\r\n\r\nBareProxy TLS probe OK.\n"

/-- The response and the end. -/
def answerRequest (request : Bytes) (applicationState : Tls13ApplicationState) : Conversation Unit := do
  Dialogue.ofExcept (ensure (ascii "GET / HTTP/1.1\r\n" <+: request)
    (invalidData "TLS probe expected an HTTP/1.1 GET request"))
  let (responseRecord, applicationState) := applicationState.encryptApplicationDataRecord probeResponse
  let responseRecord ← Dialogue.ofExcept (mapErr recordError responseRecord)
  writeCiphertextRecord responseRecord
  let closeNotify ← Dialogue.ofExcept (mapErr recordError applicationState.encryptCloseNotify.1)
  writeCiphertextRecord closeNotify

/-- The connection of the probe. -/
def handleConnection (draws : List RandomDraw) (turns : Nat) (identities : TlsIdentityStore) : Conversation Unit := do
  let outcome ← serverHandshake draws turns identities none
  match outcome with
  | none => return ()
  | some applicationState =>
    let (request, applicationState) ← reading (readHttpRequest applicationState)
    answerRequest request applicationState

/-! ### States that are open -/

/-- The state with other keys or sequence numbers. -/
def Tls13ApplicationState.withProtection (state : Tls13ApplicationState) (recordProtection : Tls13RecordProtection) :
    Tls13ApplicationState := { state with recordProtection }

/-- A state that has sent and taken this many records under these keys, and on which neither side has closed. -/
structure Tls13ApplicationState.OpenAt (state : Tls13ApplicationState) (writeKey : ByteArrayN 32) (writeIv : ByteArrayN 12)
    (readKey : ByteArrayN 32) (readIv : ByteArrayN 12) (sent taken : Nat) : Prop where
  protection_eq : state.recordProtection = protectionAt writeKey writeIv readKey readIv sent taken
  failed_eq : state.failed = false
  closeNotifySent_eq : state.closeNotifySent = false
  closeNotifyReceived_eq : state.closeNotifyReceived = false

theorem version_of_opens {key : ByteArrayN 32} {iv : ByteArrayN 12} {sequenceNumber : UInt64}
    {record : TlsCiphertextRecord} {plaintext : TlsPlaintextRecord}
    (hopens : Tls13RecordProtection.Opens key iv sequenceNumber record plaintext) :
    plaintext.legacyRecordVersion = tlsLegacyRecordVersion := by
  obtain ⟨-, _, _, innerPlaintext, -, -, h⟩ := hopens
  rw [decodeTlsInnerPlaintext] at h
  split at h
  · cases h
  · split at h
    · cases h
    · dsimp only at h
      split at h
      · cases h
      · cases h
      · obtain ⟨_, -, h⟩ := bind_eq_ok.1 h
        cases h
        rfl

namespace Tls13ApplicationState.OpenAt

variable {state state' : Tls13ApplicationState} {writeKey readKey : ByteArrayN 32} {writeIv readIv : ByteArrayN 12}
  {sent taken : Nat}

theorem next (h : state.OpenAt writeKey writeIv readKey readIv sent taken) (sent' taken' : Nat) :
    (state.withProtection (protectionAt writeKey writeIv readKey readIv sent' taken')).OpenAt writeKey writeIv readKey
      readIv sent' taken' :=
  ⟨rfl, h.failed_eq, h.closeNotifySent_eq, h.closeNotifyReceived_eq⟩

theorem receiveAlert_ne_applicationData {fragment content : Bytes} (state : Tls13ApplicationState) :
    (state.receiveAlert content).1 ≠ .ok (.applicationData fragment) := by
  rw [receiveAlert]
  split
  · simp
  · split <;> simp

/-- Data is received exactly when the next record seals it. -/
theorem receive_iff (h : state.OpenAt writeKey writeIv readKey readIv sent taken) {record : TlsCiphertextRecord}
    {fragment : Bytes} :
    state.receiveProtectedRecord record = (.ok (.applicationData fragment), state') ↔
      Seals readKey readIv taken record (dataRecord fragment) ∧
        state' = state.withProtection (protectionAt writeKey writeIv readKey readIv sent (taken + 1)) := by
  rw [receiveProtectedRecord, if_neg (by rw [h.failed_eq]; exact Bool.false_ne_true), h.protection_eq]
  constructor
  · intro hreceive
    split at hreceive
    · cases hreceive
    · rename_i plaintext protection hdecrypt
      dsimp only at hreceive
      rw [if_neg (by rw [h.closeNotifyReceived_eq]; exact Bool.false_ne_true)] at hreceive
      obtain ⟨number, hnumber, hopens, rfl⟩ := Tls13RecordProtection.decryptRecord_eq_ok.1 hdecrypt
      obtain ⟨htaken, rfl, hnext⟩ := sequenceAt_eq_some hnumber
      have hversion := version_of_opens hopens
      obtain ⟨contentType, version, content⟩ := plaintext
      obtain rfl : version = tlsLegacyRecordVersion := hversion
      cases contentType with
      | applicationData =>
        cases hreceive
        refine ⟨⟨htaken, hopens⟩, ?_⟩
        rw [hnext]
        rfl
      | alert => exact absurd (congrArg Prod.fst hreceive) (receiveAlert_ne_applicationData _)
      | changeCipherSpec => cases hreceive
      | handshake => cases hreceive
  · rintro ⟨hseals, rfl⟩
    rw [hseals.decryptRecord]
    dsimp only
    rw [if_neg (by rw [h.closeNotifyReceived_eq]; exact Bool.false_ne_true)]
    rfl

end Tls13ApplicationState.OpenAt

/-! ### Requests in records -/

/-- Fragments that complete a request whose first part was there: with the last of them it holds the empty line, and not
before; and it never gets too long. -/
inductive Completes : Bytes → List Bytes → Prop
  | last {request fragment : Bytes} (hlength : (request ++ fragment).length ≤ maxProbeHttpRequest)
      (h : crlfCrlf <:+: request ++ fragment) : Completes request [fragment]
  | next {request fragment : Bytes} {fragments : List Bytes}
      (hlength : (request ++ fragment).length ≤ maxProbeHttpRequest) (h : ¬ crlfCrlf <:+: request ++ fragment)
      (hrest : Completes (request ++ fragment) fragments) : Completes request (fragment :: fragments)

section TakeRequest

variable {state : Tls13ApplicationState} {writeKey readKey : ByteArrayN 32} {writeIv readIv : ByteArrayN 12}
  {sent taken : Nat} {request : Bytes}

theorem takeRequest_iff (h : state.OpenAt writeKey writeIv readKey readIv sent taken) {wire : Bytes}
    {result : (Bytes × Tls13ApplicationState) ⊕ (Bytes × Tls13ApplicationState)} :
    takeRequest (request, state) wire = .ok result ↔
      ∃ record fragment, wire = record.serialize ∧ Seals readKey readIv taken record (dataRecord fragment) ∧
        (request ++ fragment).length ≤ maxProbeHttpRequest ∧
        result = if crlfCrlf <:+: request ++ fragment
          then .inl (request ++ fragment, state.withProtection (protectionAt writeKey writeIv readKey readIv sent (taken + 1)))
          else .inr (request ++ fragment, state.withProtection (protectionAt writeKey writeIv readKey readIv sent (taken + 1))) := by
  rw [takeRequest]
  constructor
  · intro htake
    split at htake
    · cases htake
    · obtain ⟨record, hdecode, hrecord⟩ := bind_eq_ok.1 htake
      rcases hreceive : state.receiveProtectedRecord record with ⟨received, state'⟩
      rw [hreceive] at hrecord
      obtain ⟨event, hevent, hadd⟩ := bind_eq_ok.1 hrecord
      obtain ⟨fragment, hfragment, hend⟩ := bind_eq_ok.1 hadd
      obtain ⟨_, hlength, hresult⟩ := bind_eq_ok.1 hend
      rw [mapErr_eq_ok] at hevent
      cases event with
      | applicationData content =>
        rw [hevent] at hreceive
        obtain ⟨hseals, hstate⟩ := h.receive_iff.1 hreceive
        obtain rfl : content = fragment := Except.ok.inj hfragment
        rw [hstate] at hresult
        exact ⟨record, content, (decodeCiphertextRecord_eq_ok.1 hdecode).2, hseals, ensure_eq_ok.1 hlength,
          (Except.ok.inj hresult).symm⟩
      | closeNotify => cases hfragment
      | userCanceled => cases hfragment
      | fatalAlert description => cases hfragment
      | ignoredAfterCloseNotify => cases hfragment
  · rintro ⟨record, fragment, rfl, hseals, hlength, rfl⟩
    have htype : record.serialize.getD 0 0 = ContentType.applicationData.code := rfl
    rw [htype, if_neg (not_not.2 rfl), bind_eq_ok]
    refine ⟨record, decodeCiphertextRecord_eq_ok.2 ⟨hseals.isValid, rfl⟩, ?_⟩
    rw [h.receive_iff.2 ⟨hseals, rfl⟩]
    exact bind_eq_ok.2 ⟨_, rfl, bind_eq_ok.2 ⟨fragment, rfl, bind_eq_ok.2 ⟨_, ensure_of hlength _, rfl⟩⟩⟩

/-- A request ends with the record that completes it, and goes on with any other. -/
theorem takeRequest_inl (h : state.OpenAt writeKey writeIv readKey readIv sent taken) {wire : Bytes}
    {value : Bytes × Tls13ApplicationState} :
    takeRequest (request, state) wire = .ok (.inl value) ↔
      ∃ record fragment, wire = record.serialize ∧ Seals readKey readIv taken record (dataRecord fragment) ∧
        (request ++ fragment).length ≤ maxProbeHttpRequest ∧ crlfCrlf <:+: request ++ fragment ∧
        value = (request ++ fragment, state.withProtection (protectionAt writeKey writeIv readKey readIv sent (taken + 1))) := by
  rw [takeRequest_iff h]
  refine exists_congr fun record => exists_congr fun fragment => and_congr_right fun _ => and_congr_right fun _ =>
    and_congr_right fun _ => ?_
  by_cases hcomplete : crlfCrlf <:+: request ++ fragment <;> simp [hcomplete]

theorem takeRequest_inr (h : state.OpenAt writeKey writeIv readKey readIv sent taken) {wire : Bytes}
    {value : Bytes × Tls13ApplicationState} :
    takeRequest (request, state) wire = .ok (.inr value) ↔
      ∃ record fragment, wire = record.serialize ∧ Seals readKey readIv taken record (dataRecord fragment) ∧
        (request ++ fragment).length ≤ maxProbeHttpRequest ∧ ¬ crlfCrlf <:+: request ++ fragment ∧
        value = (request ++ fragment, state.withProtection (protectionAt writeKey writeIv readKey readIv sent (taken + 1))) := by
  rw [takeRequest_iff h]
  refine exists_congr fun record => exists_congr fun fragment => and_congr_right fun _ => and_congr_right fun _ =>
    and_congr_right fun _ => ?_
  by_cases hcomplete : crlfCrlf <:+: request ++ fragment <;> simp [hcomplete]

/-- The records of a request are those that seal fragments which complete it. -/
theorem brings_request {value : Bytes × Tls13ApplicationState} {wires : List Bytes}
    (h : state.OpenAt writeKey writeIv readKey readIv sent taken) :
    ProbeTexts.Brings takeRequest value (request, state) wires ↔
      ∃ records fragments last, wires = records.map TlsCiphertextRecord.serialize ∧ Completes request fragments ∧
        Numbered (Seals readKey readIv) taken last records (fragments.map dataRecord) ∧
        value = (request ++ fragments.flatten,
          state.withProtection (protectionAt writeKey writeIv readKey readIv sent last)) := by
  constructor
  · intro hbrings
    generalize hprogress : (request, state) = progress at hbrings
    induction hbrings generalizing request state taken with
    | last hwire htake =>
      subst hprogress
      obtain ⟨record, fragment, rfl, hseals, hlength, hcomplete, rfl⟩ := (takeRequest_inl h).1 htake
      refine ⟨[record], [fragment], taken + 1, rfl, .last hlength hcomplete, .cons hseals (.nil _), ?_⟩
      rw [List.flatten_singleton]
    | next hwire htake hrest ih =>
      subst hprogress
      obtain ⟨record, fragment, rfl, hseals, hlength, hcomplete, rfl⟩ := (takeRequest_inr h).1 htake
      obtain ⟨records, fragments, last, rfl, hcompletes, hnumbered, rfl⟩ := ih (h.next sent (taken + 1)) rfl
      refine ⟨record :: records, fragment :: fragments, last, rfl, .next hlength hcomplete hcompletes,
        .cons hseals hnumbered, ?_⟩
      rw [List.flatten_cons, ← List.append_assoc]
      rfl
  · rintro ⟨records, fragments, last, rfl, hcompletes, hnumbered, rfl⟩
    induction hcompletes generalizing state taken records with
    | last hlength hcomplete =>
      cases hnumbered with
      | @cons _ _ record _ _ _ hseals hrest =>
        cases hrest
        have hvalid : record.IsValid := hseals.isValid
        rw [List.flatten_singleton]
        exact .last hvalid.isWireRecord ((takeRequest_inl h).2 ⟨_, _, rfl, hseals, hlength, hcomplete, rfl⟩)
    | @next request fragment fragments hlength hcomplete hrest ih =>
      cases hnumbered with
      | @cons _ _ record _ _ _ hseals hnumbered =>
        have hvalid : record.IsValid := hseals.isValid
        rw [List.flatten_cons, ← List.append_assoc]
        exact .next hvalid.isWireRecord ((takeRequest_inr h).2 ⟨_, _, rfl, hseals, hlength, hcomplete, rfl⟩)
          (ih (h.next sent (taken + 1)) _ hnumbered)

/-- Records, from the one with this number on, that seal a whole request; and the number after them. -/
def CarriesRequest (key : ByteArrayN 32) (iv : ByteArrayN 12) (taken last : Nat) (records : List TlsCiphertextRecord)
    (request : Bytes) : Prop :=
  ∃ fragments, Completes [] fragments ∧ Numbered (Seals key iv) taken last records (fragments.map dataRecord) ∧
    request = fragments.flatten

theorem means_readHttpRequest (h : state.OpenAt writeKey writeIv readKey readIv sent taken) :
    Means (reading (readHttpRequest state)) fun value received sent' =>
      (∃ records last, CarriesRequest readKey readIv taken last records value.1 ∧
        value.2 = state.withProtection (protectionAt writeKey writeIv readKey readIv sent last) ∧
        received = records.flatMap TlsCiphertextRecord.serialize) ∧ sent' = [] := by
  apply Means.reading
  · intro input input' value hread
    obtain ⟨wires, hbrings, hpending⟩ := readRecords_ok hread
    obtain ⟨records, fragments, last, rfl, hcompletes, hnumbered, rfl⟩ := (brings_request h).1 hbrings
    refine ⟨_, ⟨records, last, ⟨fragments, hcompletes, hnumbered, List.nil_append _⟩, rfl, rfl⟩, ?_⟩
    rw [hpending, List.flatMap_def]
  · rintro ⟨_, _⟩ _ ⟨records, last, ⟨fragments, hcompletes, hnumbered, rfl⟩, rfl, rfl⟩ input rest hclean hpending
    rw [List.flatMap_def] at hpending
    exact readRecords_clean ((brings_request h).2 ⟨records, fragments, last, rfl, hcompletes, hnumbered, rfl⟩) hclean
      hpending

end TakeRequest

/-! ### The answer -/

/-- The response and the end of the data, protected one after the other. -/
def AnswerRecords (protection : Tls13RecordProtection) (response closing : TlsCiphertextRecord) : Prop :=
  ∃ between after, protection.encryptRecord (dataRecord probeResponse) 0 = (.ok response, between) ∧
    between.encryptRecord ⟨.alert, tlsLegacyRecordVersion, [1, 0]⟩ 0 = (.ok closing, after)

section AnswerRequest

variable {state : Tls13ApplicationState}

theorem encryptCloseNotify_eq_ok (hfailed : state.failed = false) (hsent : state.closeNotifySent = false)
    {closing : TlsCiphertextRecord} :
    state.encryptCloseNotify.1 = .ok closing ↔
      (state.recordProtection.encryptRecord ⟨.alert, tlsLegacyRecordVersion, [1, 0]⟩ 0).1 = .ok closing := by
  have hplaintext : TlsAlert.closeNotify.plaintextRecord = .ok ⟨.alert, tlsLegacyRecordVersion, [1, 0]⟩ := rfl
  rw [Tls13ApplicationState.encryptCloseNotify, if_neg (by rw [hfailed]; exact Bool.false_ne_true),
    if_neg (by rw [hsent]; exact Bool.false_ne_true), hplaintext]
  dsimp only [Tls13ApplicationState.encryptPlaintext]
  split
  · rename_i hencrypt
    rw [(Prod.mk.inj hencrypt).1]
  · rename_i hencrypt
    rw [(Prod.mk.inj hencrypt).1]

/-- The two calls of an open state protect the response and the end. -/
theorem answerRecords_iff (hfailed : state.failed = false) (hsent : state.closeNotifySent = false)
    {response closing : TlsCiphertextRecord} :
    AnswerRecords state.recordProtection response closing ↔
      (state.encryptApplicationDataRecord probeResponse).1 = .ok response ∧
        (state.encryptApplicationDataRecord probeResponse).2.encryptCloseNotify.1 = .ok closing := by
  have hnew : TlsPlaintextRecord.new .applicationData probeResponse = .ok (dataRecord probeResponse) :=
    TlsPlaintextRecord.new_eq_ok.2 ⟨by decide +kernel, rfl⟩
  have hrecord : state.encryptApplicationDataRecord probeResponse =
      state.encryptPlaintext (dataRecord probeResponse) := by
    rw [Tls13ApplicationState.encryptApplicationDataRecord, if_neg (by rw [hfailed]; exact Bool.false_ne_true),
      if_neg (by rw [hsent]; exact Bool.false_ne_true), hnew]
  rw [hrecord, @encryptCloseNotify_eq_ok (state.encryptPlaintext (dataRecord probeResponse)).2 hfailed hsent]
  constructor
  · rintro ⟨between, after, hresponse, hclosing⟩
    rw [Tls13ApplicationState.encryptPlaintext, hresponse]
    exact ⟨rfl, congrArg Prod.fst hclosing⟩
  · intro hboth
    exact ⟨_, _, Prod.ext hboth.1 rfl, Prod.ext hboth.2 rfl⟩

theorem means_answerRequest (hfailed : state.failed = false) (hsent : state.closeNotifySent = false) (request : Bytes) :
    Means (answerRequest request state) fun _ received sent =>
      ascii "GET / HTTP/1.1\r\n" <+: request ∧ received = [] ∧ ∃ response closing,
        AnswerRecords state.recordProtection response closing ∧ sent = response.serialize ++ closing.serialize := by
  have hclose := (Means.ofExcept (mapErr recordError
    (state.encryptApplicationDataRecord probeResponse).2.encryptCloseNotify.1)).bind fun closing =>
      Means.writeFlushed closing.serialize
  have hrespond := (Means.ofExcept (mapErr recordError (state.encryptApplicationDataRecord probeResponse).1)).bind
    fun response => (Means.writeFlushed response.serialize).bind fun _ => hclose
  apply ((Means.ofExcept (ensure (ascii "GET / HTTP/1.1\r\n" <+: request)
    (invalidData "TLS probe expected an HTTP/1.1 GET request"))).bind fun _ => hrespond).of_iff
  intro value received sent
  constructor
  · rintro ⟨_, _, _, _, _, ⟨hget, rfl, rfl⟩, ⟨response, _, _, _, _, ⟨hresponse, rfl, rfl⟩, ⟨_, _, _, _, _, ⟨rfl, rfl⟩,
      ⟨closing, _, _, _, _, ⟨hclosing, rfl, rfl⟩, ⟨rfl, rfl⟩, rfl, rfl⟩, rfl, rfl⟩, rfl, rfl⟩, rfl, rfl⟩
    rw [mapErr_eq_ok] at hresponse hclosing
    exact ⟨ensure_eq_ok.1 hget, rfl, response, closing, (answerRecords_iff hfailed hsent).2 ⟨hresponse, hclosing⟩, rfl⟩
  · rintro ⟨hget, rfl, response, closing, hanswer, rfl⟩
    obtain ⟨hresponse, hclosing⟩ := (answerRecords_iff hfailed hsent).1 hanswer
    exact ⟨⟨⟩, [], [], [], _, ⟨ensure_of hget _, rfl, rfl⟩, ⟨response, [], [], [], _, ⟨mapErr_eq_ok.2 hresponse, rfl, rfl⟩,
      ⟨(), [], [], _, _, ⟨rfl, rfl⟩, ⟨closing, [], [], [], _, ⟨mapErr_eq_ok.2 hclosing, rfl, rfl⟩, ⟨rfl, rfl⟩, rfl, rfl⟩,
      rfl, rfl⟩, rfl, rfl⟩, rfl, rfl⟩

end AnswerRequest

/-! ### The connections of the probe -/

/-- The state after a handshake is open. -/
theorem Handshake.openAt {draws : List RandomDraw} {turns : Nat} {identities : TlsIdentityStore}
    {configuration : Option Config} {state : Tls13ApplicationState} {received sent : Bytes}
    (h : Handshake draws turns identities configuration (some state) received sent) :
    ∃ writeKey writeIv readKey readIv, state.OpenAt writeKey writeIv readKey readIv 0 0 := by
  cases h with
  | established _ _ _ hfinishes =>
    obtain ⟨_, _, _, -, -, hcomplete, -⟩ := hfinishes
    obtain ⟨_, -, h⟩ := bind_eq_ok.1 hcomplete
    obtain ⟨keySchedule, -, h⟩ := bind_eq_ok.1 h
    obtain ⟨_, -, h⟩ := bind_eq_ok.1 h
    obtain ⟨_, -, h⟩ := bind_eq_ok.1 h
    obtain ⟨_, -, h⟩ := bind_eq_ok.1 h
    cases h
    exact ⟨_, _, _, _, rfl, rfl, rfl, rfl⟩

/-- The conversations in which the probe succeeds: what it receives and what it sends. -/
inductive ProbeExchange (draws : List RandomDraw) (turns : Nat) (identities : TlsIdentityStore) : Bytes → Bytes → Prop
  | turnedAway {received sent : Bytes} (h : Handshake draws turns identities none none received sent) :
      ProbeExchange draws turns identities received sent
  | answered {state : Tls13ApplicationState} {received sent request : Bytes} {writeKey readKey : ByteArrayN 32}
      {writeIv readIv : ByteArrayN 12} {records : List TlsCiphertextRecord} {last : Nat}
      {response closing : TlsCiphertextRecord}
      (hhandshake : Handshake draws turns identities none (some state) received sent)
      (hkeys : state.recordProtection = protectionAt writeKey writeIv readKey readIv 0 0)
      (hrequest : CarriesRequest readKey readIv 0 last records request) (hget : ascii "GET / HTTP/1.1\r\n" <+: request)
      (hanswer : AnswerRecords (protectionAt writeKey writeIv readKey readIv 0 last) response closing) :
      ProbeExchange draws turns identities (received ++ records.flatMap TlsCiphertextRecord.serialize)
        (sent ++ (response.serialize ++ closing.serialize))

/-- What follows the handshake on an open state. -/
theorem means_serveRequest {state : Tls13ApplicationState} {writeKey readKey : ByteArrayN 32}
    {writeIv readIv : ByteArrayN 12} {sent taken : Nat} (h : state.OpenAt writeKey writeIv readKey readIv sent taken) :
    Means (reading (readHttpRequest state) >>= fun (request, state') => answerRequest request state')
      fun _ received sent' => ∃ records last request response closing,
        CarriesRequest readKey readIv taken last records request ∧ ascii "GET / HTTP/1.1\r\n" <+: request ∧
        AnswerRecords (protectionAt writeKey writeIv readKey readIv sent last) response closing ∧
        received = records.flatMap TlsCiphertextRecord.serialize ∧ sent' = response.serialize ++ closing.serialize where
  run_meaning {stream stream' _} hrun := by
    obtain ⟨⟨request, state'⟩, stream₁, hread, hanswer⟩ := Dialogue.bind_eq_ok.1 hrun
    obtain ⟨_, _, ⟨⟨records, last, hrequest, hstate, rfl⟩, rfl⟩, htransfers⟩ :=
      (means_readHttpRequest h).run_meaning hread
    obtain rfl : state' = _ := hstate
    have hnext := h.next sent last
    obtain ⟨_, _, ⟨hget, rfl, response, closing, hrecords, rfl⟩, htransfers'⟩ :=
      (means_answerRequest hnext.failed_eq hnext.closeNotifySent_eq request).run_meaning hanswer
    rw [hnext.protection_eq] at hrecords
    refine ⟨_, _, ⟨records, last, request, response, closing, hrequest, hget, hrecords, rfl, rfl⟩, ?_⟩
    simpa only [List.append_nil, List.nil_append] using htransfers.trans htransfers'
  exists_run := by
    rintro ⟨⟩ _ _ ⟨records, last, request, response, closing, hrequest, hget, hrecords, rfl, rfl⟩ stream rest hsound
      hpending
    have hnext := h.next sent last
    obtain ⟨stream₁, hread, hsound₁, hpending₁, hwritten₁⟩ := @Means.exists_run _ _ _ (means_readHttpRequest h)
      (request, state.withProtection (protectionAt writeKey writeIv readKey readIv sent last)) _ _
      ⟨⟨records, last, hrequest, rfl, rfl⟩, rfl⟩ _ _ hsound hpending
    obtain ⟨stream₂, hanswer, hsound₂, hpending₂, hwritten₂⟩ :=
      @Means.exists_run _ _ _ (means_answerRequest hnext.failed_eq hnext.closeNotifySent_eq request) () _ _
        ⟨hget, rfl, response, closing, hrecords, rfl⟩ _ _ hsound₁ (hpending₁.trans (List.nil_append _).symm)
    refine ⟨stream₂, Dialogue.bind_eq_ok.2 ⟨_, _, hread, hanswer⟩, hsound₂, hpending₂, ?_⟩
    rw [hwritten₂, hwritten₁, List.append_nil]

theorem means_handleConnection (draws : List RandomDraw) (turns : Nat) (identities : TlsIdentityStore) :
    Means (handleConnection draws turns identities) fun _ => ProbeExchange draws turns identities where
  run_meaning {stream stream' _} hrun := by
    obtain ⟨outcome, stream₁, hhandshake, hrest⟩ := Dialogue.bind_eq_ok.1 hrun
    obtain ⟨received, sent, hmeaning, htransfers⟩ :=
      (means_serverHandshake draws turns identities none).run_meaning hhandshake
    cases outcome with
    | none =>
      cases hrest
      exact ⟨received, sent, .turnedAway hmeaning, htransfers⟩
    | some state =>
      obtain ⟨writeKey, writeIv, readKey, readIv, hopen⟩ := hmeaning.openAt
      obtain ⟨_, _, ⟨records, last, request, response, closing, hrequest, hget, hanswer, rfl, rfl⟩, htransfers'⟩ :=
        (means_serveRequest hopen).run_meaning hrest
      exact ⟨_, _, .answered hmeaning hopen.protection_eq hrequest hget hanswer, htransfers.trans htransfers'⟩
  exists_run := by
    intro value received sent hexchange stream rest hsound hpending
    cases hexchange with
    | turnedAway hmeaning =>
      obtain ⟨stream₁, hhandshake, hsound₁, hpending₁, hwritten₁⟩ :=
        (means_serverHandshake draws turns identities none).exists_run hmeaning hsound hpending
      exact ⟨stream₁, Dialogue.bind_eq_ok.2 ⟨none, stream₁, hhandshake, rfl⟩, hsound₁, hpending₁, hwritten₁⟩
    | @answered state received₁ sent₁ request _ _ _ _ records last response closing hmeaning hkeys hrequest hget hanswer =>
      rw [List.append_assoc] at hpending
      obtain ⟨stream₁, hhandshake, hsound₁, hpending₁, hwritten₁⟩ :=
        (means_serverHandshake draws turns identities none).exists_run hmeaning hsound hpending
      obtain ⟨_, _, _, _, hopen⟩ := hmeaning.openAt
      obtain ⟨stream₂, hrest, hsound₂, hpending₂, hwritten₂⟩ :=
        @Means.exists_run _ _ _ (means_serveRequest ⟨hkeys, hopen.failed_eq, hopen.closeNotifySent_eq,
          hopen.closeNotifyReceived_eq⟩) () _ _
          ⟨records, last, request, response, closing, hrequest, hget, hanswer, rfl, rfl⟩ _ _ hsound₁ hpending₁
      refine ⟨stream₂, Dialogue.bind_eq_ok.2 ⟨some state, stream₁, hhandshake, hrest⟩, hsound₂, hpending₂, ?_⟩
      rw [hwritten₂, hwritten₁, List.append_assoc]

/-- The probe succeeds exactly in these conversations: whenever it does, on any stream, the bytes received and sent are
one of them; and on a sound stream that brings what a client sends in one, in whatever segments, it sends its part of it
and leaves what follows unread. -/
theorem handleConnection_exact (draws : List RandomDraw) (turns : Nat) (identities : TlsIdentityStore) :
    (∀ stream stream', handleConnection draws turns identities stream = some (.ok (), stream') →
      ∃ received sent, ProbeExchange draws turns identities received sent ∧ Transfers stream stream' received sent) ∧
    ∀ received sent, ProbeExchange draws turns identities received sent →
      ∀ stream rest, Sound stream → pending stream.input = received ++ rest →
        ∃ stream', handleConnection draws turns identities stream = some (.ok (), stream') ∧
          Sound stream' ∧ pending stream'.input = rest ∧ stream'.output.written = stream.output.written ++ sent :=
  ⟨fun _ _ hrun => (means_handleConnection draws turns identities).run_meaning hrun,
    fun _ _ hexchange _ _ hsound hpending =>
      (means_handleConnection draws turns identities).exists_run hexchange hsound hpending⟩

/-! ### A client of the probe -/

section Client

variable {clientKey serverKey : ByteArrayN 32} {clientIv serverIv : ByteArrayN 12}

/-- Data that a client protects, in these fragments with these paddings, goes out in sealed records. -/
theorem numbered_of_encryptRecords {sent taken : Nat} {pieces : List (Bytes × Nat)} {records : List TlsCiphertextRecord}
    {protection : Tls13RecordProtection}
    (h : encryptRecords (protectionAt clientKey clientIv serverKey serverIv sent taken)
      (pieces.map fun (fragment, paddingLength) => (dataRecord fragment, paddingLength)) =
        (.ok records, protection)) :
    ∃ last, Numbered (Seals clientKey clientIv) sent last records ((pieces.map Prod.fst).map dataRecord) ∧
      protection = protectionAt clientKey clientIv serverKey serverIv last taken := by
  induction pieces generalizing sent records with
  | nil =>
    cases h
    exact ⟨sent, .nil _, rfl⟩
  | cons piece pieces ih =>
    obtain ⟨fragment, paddingLength⟩ := piece
    obtain ⟨record, more, next, hfirst, hrest, rfl⟩ := runAll_cons_ok.1 h
    obtain ⟨number, innerPlaintext, _, _, hnumber, hinner, -, -, -⟩ := Tls13RecordProtection.encryptRecord_ok hfirst
    obtain ⟨encrypted, hencrypt, hseals⟩ :=
      @encryptRecord_protectionAt clientKey serverKey clientIv serverIv sent taken _ _ _ (sequenceAt_eq_some hnumber).1
        hinner
    obtain ⟨hrecord, rfl⟩ := Prod.mk.inj (hfirst.symm.trans hencrypt)
    cases hrecord
    obtain ⟨last, hnumbered, hprotection⟩ := ih hrest
    exact ⟨last, .cons hseals hnumbered, hprotection⟩

/-- There is an answer to a request of this many records, and the client opens it to the response and the end. -/
theorem exists_answerRecords {count : Nat} :
    ∃ response closing protection,
      AnswerRecords (protectionAt serverKey serverIv clientKey clientIv 0 count) response closing ∧
      decryptRecords (protectionAt clientKey clientIv serverKey serverIv count 0) [response, closing] =
        (.ok [dataRecord probeResponse, ⟨.alert, tlsLegacyRecordVersion, [1, 0]⟩], protection) := by
  have hresponse : encodeTlsInnerPlaintext (dataRecord probeResponse) 0 =
      .ok (probeResponse ++ [ContentType.applicationData.code]) :=
    encodeTlsInnerPlaintext_ok.2 ⟨by decide +kernel, by decide, by decide +kernel, rfl⟩
  have hclosing : encodeTlsInnerPlaintext ⟨.alert, tlsLegacyRecordVersion, [1, 0]⟩ 0 =
      .ok ([1, 0] ++ [ContentType.alert.code]) :=
    encodeTlsInnerPlaintext_ok.2 ⟨by decide, by decide, by decide, rfl⟩
  obtain ⟨response, hfirst, hsealsFirst⟩ :=
    @encryptRecord_protectionAt serverKey clientKey serverIv clientIv 0 count _ _ _ (by decide) hresponse
  obtain ⟨closing, hsecond, hsealsSecond⟩ :=
    @encryptRecord_protectionAt serverKey clientKey serverIv clientIv 1 count _ _ _ (by decide) hclosing
  refine ⟨response, closing, protectionAt clientKey clientIv serverKey serverIv count 2, ⟨_, _, hfirst, hsecond⟩, ?_⟩
  exact runAll_cons_ok.2 ⟨_, _, _, hsealsFirst.decryptRecord,
    runAll_cons_ok.2 ⟨_, _, _, hsealsSecond.decryptRecord, rfl, rfl⟩, rfl⟩

end Client

/-- A client that follows the protocol and asks the probe, and a server that has an identity for its name and enough
turns for its signer: the client protects a request in fragments and with paddings of its choice, and on every stream that
brings its bytes the probe succeeds and has sent, after its part of the handshake, two records that the client opens to
the response and the end. -/
theorem handleConnection_answers {serverName : Bytes} {clientRandom serverRandom : ByteArrayN 32}
    {clientKey serverKey : Scalar} (hname : isValidServerName serverName = true) (hclient : clientKey ≠ .zero)
    (hserver : serverKey ≠ .zero) (hrandom : serverRandom ≠ tls13HelloRetryRequestRandom)
    {clientDraws serverDraws clientRest serverRest : List RandomDraw}
    (hclientDraws : generateEphemeralP256PrivateKey clientDraws = some (.ok ⟨clientKey, hclient⟩, clientRest))
    (hserverDraws : generateEphemeralP256PrivateKey serverDraws =
      some (.ok ⟨serverKey, hserver⟩, .ok serverRandom :: serverRest))
    {identities : TlsIdentityStore} {identity : TlsIdentity} {certificate : Bytes}
    (hselect : identities.select (toAsciiLowercase serverName) = some identity)
    (hcertificate : buildTls13Certificate identity.certificateChain = .ok certificate)
    (hsigningKey : identity.signingKey ≠ .zero) :
    ∃ client flight state,
      Tls13ClientHelloFlight.new (.ok clientRandom :: clientDraws) serverName = some (.ok client) ∧
      negotiateTls13ServerFirstFlight serverDraws client.clientHello = some (.ok (.serverHello flight)) ∧
      client.receiveServerHello flight.serverHello = .ok state ∧
      (∀ k signature,
        IsFirstSignature identity.signingKey (signedContent flight client.clientHello certificate) k signature →
          ∀ turns > k, ∃ authentication flight',
            flight.authenticateServer turns identity.certificateChain identity.signingKey =
              some (.ok authentication, flight')) ∧
      ∀ turns result flight',
        flight.authenticateServer turns identity.certificateChain identity.signingKey = some (result, flight') →
        ∃ authentication finished keySchedule, result = .ok authentication ∧
          OpensFlight state flight authentication ∧
          state.Answers (serverTranscript client.clientHello flight authentication) finished keySchedule ∧
          ∀ (pieces : List (Bytes × Nat)) records protection, Completes [] (pieces.map Prod.fst) →
            ascii "GET / HTTP/1.1\r\n" <+: (pieces.map Prod.fst).flatten →
            encryptRecords (.new keySchedule.clientKey keySchedule.clientIv keySchedule.serverKey keySchedule.serverIv)
              (pieces.map fun (fragment, paddingLength) => (dataRecord fragment, paddingLength)) =
                (.ok records, protection) →
            ∃ response closing protection', decryptRecords protection [response, closing] =
                (.ok [dataRecord probeResponse, ⟨.alert, tlsLegacyRecordVersion, [1, 0]⟩], protection') ∧
              ∀ stream rest, Sound stream →
                pending stream.input = handshakeRecord client.clientHello ++ finished.serialize ++
                  records.flatMap TlsCiphertextRecord.serialize ++ rest →
                ∃ stream', handleConnection serverDraws turns identities stream = some (.ok (), stream') ∧
                  Sound stream' ∧ pending stream'.input = rest ∧
                  stream'.output.written = stream.output.written ++ (handshakeRecord flight.serverHello ++
                    (serverFlightCiphertexts flight authentication).flatMap TlsCiphertextRecord.serialize ++
                    (response.serialize ++ closing.serialize)) := by
  obtain ⟨client, flight, state, hnew, hfirst, hreceive, hcarries, hproduces, hserver⟩ :=
    @exists_established _ clientRandom _ _ _ hname hclient hserver hrandom _ _ _ _ hclientDraws hserverDraws _ none _ _
      hselect rfl hcertificate hsigningKey
  refine ⟨client, flight, state, hnew, hfirst, hreceive, hproduces, fun turns result flight' hresult => ?_⟩
  obtain ⟨authentication, finished, keySchedule, applicationState, hok, hopens, hanswers, hprotection, hhandshake⟩ :=
    hserver turns result flight' hresult
  refine ⟨authentication, finished, keySchedule, hok, hopens, hanswers,
    fun pieces records protection hcompletes hget hencrypt => ?_⟩
  obtain ⟨last, hnumbered, hlast⟩ := @numbered_of_encryptRecords _ _ _ _ 0 0 _ _ _ hencrypt
  obtain ⟨response, closing, protection', hanswer, hdecrypt⟩ :=
    @exists_answerRecords keySchedule.clientKey keySchedule.serverKey keySchedule.clientIv keySchedule.serverIv last
  rw [← hlast] at hdecrypt
  refine ⟨response, closing, protection', hdecrypt, fun stream rest hsound hpending => ?_⟩
  have hexchange : ProbeExchange serverDraws turns identities _ _ :=
    .answered (hhandshake [⟨.handshake, tlsLegacyRecordVersion, client.clientHello⟩] [] hcarries (by simp)) hprotection
      ⟨pieces.map Prod.fst, hcompletes, hnumbered, rfl⟩ hget hanswer
  refine (handleConnection_exact serverDraws turns identities).2 _ _ hexchange stream rest hsound ?_
  rw [hpending, List.flatMap_singleton]
  rfl

/-- Two sides that draw the keys one and two, and a request in two records, the first of them padded. -/
theorem handleConnection_answers_one_two :
    ∃ client flight certificate,
      buildTls13Certificate [[1]] = .ok certificate ∧
      Tls13ClientHelloFlight.new [.ok (Vector.replicate 32 5), .ok (Residue.one : Scalar).value.toBeBytes]
        (ascii "Example.com") = some (.ok client) ∧
      ∀ signature, IsFirstSignature .one (signedContent flight client.clientHello certificate) 0 signature →
        ∃ authentication, ∃ finished response closing : TlsCiphertextRecord, ∃ records, List.length records = 2 ∧
          ∀ stream, Sound stream → pending stream.input = handshakeRecord client.clientHello ++ finished.serialize ++
              records.flatMap TlsCiphertextRecord.serialize →
            ∃ stream', handleConnection [.ok (.new (.fromLimbs 2 0 0 0) : Scalar).value.toBeBytes,
                .ok (Vector.replicate 32 7)] 1 exampleIdentities stream = some (.ok (), stream') ∧
              stream'.output.written = stream.output.written ++ (handshakeRecord flight.serverHello ++
                (serverFlightCiphertexts flight authentication).flatMap TlsCiphertextRecord.serialize ++
                (response.serialize ++ closing.serialize)) := by
  obtain ⟨certificate, hcertificate⟩ : ∃ certificate, buildTls13Certificate [[1]] = .ok certificate := ⟨_, rfl⟩
  obtain ⟨client, flight, _, hnew, -, -, hproduces, hserver⟩ :=
    @handleConnection_answers _ (Vector.replicate 32 5) (Vector.replicate 32 7) .one _ isValidServerName_example
      (by decide) two_ne_zero_scalar (by decide) _ _ _ _
      (generateEphemeralP256PrivateKey_toBeBytes .one (by decide) [])
      (generateEphemeralP256PrivateKey_toBeBytes _ two_ne_zero_scalar [.ok (Vector.replicate 32 7)])
      exampleIdentities _ _ exampleIdentities_select hcertificate (by decide)
  refine ⟨client, flight, certificate, hcertificate, hnew, fun signature hsigned => ?_⟩
  obtain ⟨authentication, flight', hauthenticate⟩ := hproduces 0 signature hsigned 1 Nat.one_pos
  obtain ⟨_, finished, keySchedule, hok, -, -, hprobe⟩ := hserver 1 _ flight' hauthenticate
  cases hok
  have hline : encodeTlsInnerPlaintext (dataRecord (ascii "GET / HTTP/1.1\r\n")) 3 = .ok _ :=
    encodeTlsInnerPlaintext_ok.2 ⟨by decide +kernel, by decide, by decide, rfl⟩
  have hend : encodeTlsInnerPlaintext (dataRecord (ascii "\r\n")) 0 = .ok _ :=
    encodeTlsInnerPlaintext_ok.2 ⟨by decide, by decide, by decide, rfl⟩
  obtain ⟨first, hfirst, -⟩ := @encryptRecord_protectionAt keySchedule.clientKey keySchedule.serverKey
    keySchedule.clientIv keySchedule.serverIv 0 0 _ _ _ (by decide) hline
  obtain ⟨second, hsecond, -⟩ := @encryptRecord_protectionAt keySchedule.clientKey keySchedule.serverKey
    keySchedule.clientIv keySchedule.serverIv 1 0 _ _ _ (by decide) hend
  have hcompletes : Completes [] [ascii "GET / HTTP/1.1\r\n", ascii "\r\n"] :=
    .next (by decide) (by decide +kernel) (.last (by decide) (by decide +kernel))
  obtain ⟨response, closing, _, -, hanswers⟩ :=
    hprobe [(ascii "GET / HTTP/1.1\r\n", 3), (ascii "\r\n", 0)] [first, second] _ hcompletes (by decide)
      (runAll_cons_ok.2 ⟨_, _, _, hfirst, runAll_cons_ok.2 ⟨_, _, _, hsecond, rfl, rfl⟩, rfl⟩)
  refine ⟨authentication, finished, response, closing, [first, second], rfl, fun stream hsound hpending => ?_⟩
  obtain ⟨stream', hrun, -, -, hwritten⟩ := hanswers stream [] hsound (hpending.trans (List.append_nil _).symm)
  exact ⟨stream', hrun, hwritten⟩

end BareProxy.Tls
