import BareProxy.Tls.ApplicationData
import BareProxy.Tls.TransportStream

/-!
# The transport and a plain stream

The code of the server runs over any stream. Over the transport, with a client at the other end that closes its data, it
finds what it finds on a plain stream that brings the client's fragments: every read and every write has the same result,
and the client opens exactly the bytes that were written.
-/

namespace BareProxy.Tls

open Reader TlsApplicationTransport

/-! ### Calls on a stream -/

inductive StreamCall
  | read (length : Nat)
  | write (input : Bytes)

inductive StreamAnswer
  | read (result : Except IoError Bytes)
  | write (result : Except IoError Nat)

def TlsApplicationTransport.call (transport : TlsApplicationTransport) :
    StreamCall → StreamAnswer × TlsApplicationTransport
  | .read length => (.read (transport.read length).1, (transport.read length).2)
  | .write input => (.write (transport.write input).1, (transport.write input).2)

/-- The same on a plain stream; a read into an empty buffer takes nothing. -/
def plainCall (stream : Endpoint) : StreamCall → StreamAnswer × Endpoint
  | .read length =>
    if length = 0 then (.read (.ok []), stream)
    else (.read (stream.input.read length).1, { stream with input := (stream.input.read length).2 })
  | .write input =>
    (.write ((stream.output.writeAll input).1.map fun _ => input.length),
      { stream with output := (stream.output.writeAll input).2 })

/-- `send_close_notify`. -/
def TlsApplicationTransport.sendCloseNotify (transport : TlsApplicationTransport) :
    Except IoError Unit × TlsApplicationTransport :=
  match transport.applicationState.encryptCloseNotify with
  | (.error error, applicationState) => (.error (invalidData error.text), { transport with applicationState })
  | (.ok record, applicationState) =>
    match transport.stream.output.writeAll record.serialize with
    | (.error error, output) =>
      (.error error, { transport with applicationState, stream := { transport.stream with output } })
    | (.ok (), output) =>
      let (result, output) := output.flush
      (result, { transport with applicationState, stream := { transport.stream with output } })

/-- What a reader meets of these records, up to the end of the data. Whatever follows it is not looked at. -/
inductive Presented : List TlsPlaintextRecord → List ReadEvent → Prop
  | closed {record : TlsPlaintextRecord} {alert : TlsAlert} (htype : record.contentType = .alert)
      (halert : TlsAlert.parse record.fragment = .ok alert) (hdescription : alert.description = .closeNotify)
      (records : List TlsPlaintextRecord) : Presented (record :: records) []
  | canceled {record : TlsPlaintextRecord} {alert : TlsAlert} {records : List TlsPlaintextRecord}
      {events : List ReadEvent} (htype : record.contentType = .alert)
      (halert : TlsAlert.parse record.fragment = .ok alert) (hdescription : alert.description = .userCanceled)
      (h : Presented records events) :
      Presented (record :: records) (.error ⟨.interrupted, "TLS peer canceled the connection"⟩ :: events)
  | empty {record : TlsPlaintextRecord} {records : List TlsPlaintextRecord} {events : List ReadEvent}
      (htype : record.contentType = .applicationData) (hempty : record.fragment = []) (h : Presented records events) :
      Presented (record :: records) events
  | data {record : TlsPlaintextRecord} {records : List TlsPlaintextRecord} {events : List ReadEvent}
      (htype : record.contentType = .applicationData) (hdata : record.fragment ≠ []) (h : Presented records events) :
      Presented (record :: records) (.data record.fragment :: events)

section Reading

variable (writeKey readKey : ByteArrayN 32) (writeIv readIv : ByteArrayN 12)

/-- A transport that has sent this many records, and what it still brings. -/
inductive Brings (sent : Nat) : TlsApplicationTransport → List ReadEvent → Prop
  | closed {transport : TlsApplicationTransport} {taken : Nat} (hclosed : transport.peerClosed = true)
      (hunread : transport.unread = [])
      (hrelated : ServerRelated writeKey writeIv readKey readIv sent taken transport.applicationState
        ⟨sent, false, true, false⟩) : Brings sent transport []
  | waiting {transport : TlsApplicationTransport} {taken count : Nat} {records : List TlsCiphertextRecord}
      {plaintexts : List TlsPlaintextRecord} {events : List ReadEvent} {rest : Bytes}
      (hopen : transport.peerClosed = false) (hunread : transport.unread = []) (hclean : Clean transport.stream.input)
      (hpending : pending transport.stream.input = records.flatMap TlsCiphertextRecord.serialize ++ rest)
      (hrecords : Numbered (Seals readKey readIv) taken count records plaintexts) (hpresented : Presented plaintexts events)
      (hrelated : ServerRelated writeKey writeIv readKey readIv sent taken transport.applicationState
        ⟨sent, false, false, false⟩) : Brings sent transport events
  | unread {transport : TlsApplicationTransport} {events : List ReadEvent} (hunread : transport.unread ≠ [])
      (h : Brings sent { transport with readBuffer := [], readPosition := 0 } events) :
      Brings sent transport (.data transport.unread :: events)

variable {writeKey readKey writeIv readIv} {sent taken : Nat} {transport : TlsApplicationTransport}

theorem Seals.isValid {number : Nat} {record : TlsCiphertextRecord} {plaintext : TlsPlaintextRecord}
    (h : Seals readKey readIv number record plaintext) : record.IsValid := by
  obtain ⟨hversion, hlimit, -⟩ := validateChacha20Poly1305Ciphertext_ok.1 h.2.1
  exact ⟨hversion, hlimit.trans (by decide)⟩

/-- The next record is received as it was sealed. -/
theorem receiveNext_sealed {record : TlsCiphertextRecord} {plaintext : TlsPlaintextRecord} {rest : Bytes}
    {server server' : PlainServer} {event : Tls13ApplicationEvent} (hclean : Clean transport.stream.input)
    (hpending : pending transport.stream.input = record.serialize ++ rest)
    (hseals : Seals readKey readIv taken record plaintext)
    (hrelated : ServerRelated writeKey writeIv readKey readIv sent taken transport.applicationState server)
    (hreceive : server.receive plaintext = (.ok event, server')) :
    ∃ input state, Clean input ∧ pending input = rest ∧
      ServerRelated writeKey writeIv readKey readIv sent (taken + 1) state server' ∧
      transport.receiveNext =
        takeEvent { transport with stream := { transport.stream with input }, applicationState := state } event := by
  obtain ⟨input, hwire, hclean', hrest⟩ := readWireRecord_clean hclean hseals.isValid hpending
  obtain ⟨hevent, hnext⟩ := hrelated.take hseals
  rw [hreceive] at hevent hnext
  rcases hresult : transport.applicationState.receiveProtectedRecord record with ⟨result, state⟩
  rw [hresult] at hevent hnext
  obtain rfl : result = .ok event := hevent
  refine ⟨input, state, hclean', hrest, hnext, ?_⟩
  rw [receiveNext, hwire]
  dsimp only
  rw [wireToRecord_serialize hseals.isValid]
  dsimp only
  rw [hresult]

/-- Where nothing is unread, a read receives. -/
theorem readLoop_of_read {transport : TlsApplicationTransport} (hunread : transport.unread = [])
    (hopen : transport.peerClosed = false) (length : Nat) :
    transport.readLoop length =
      match transport.receiveNext with
      | (some result, transport) => (result, transport)
      | (none, transport) => transport.readLoop length := by
  have hmore : ¬ transport.readPosition < transport.readBuffer.length := fun hmore => unread_ne_nil.2 hmore hunread
  rw [readLoop, if_neg hmore, if_neg (by rw [hopen]; exact Bool.false_ne_true)]
  split
  · rename_i hnext
    rw [hnext]
  · rename_i hnext
    rw [hnext]

/-- A buffer that is long enough takes all that is unread. -/
theorem readLoop_all {length : Nat} (hunread : transport.unread ≠ []) (hle : transport.unread.length ≤ length) :
    transport.readLoop length = (.ok transport.unread, { transport with readBuffer := [], readPosition := 0 }) := by
  have hmore := unread_ne_nil.1 hunread
  have hend : transport.readPosition + transport.unread.length = transport.readBuffer.length := by
    rw [unread, List.length_drop]
    exact Nat.add_sub_cancel' hmore.le
  rw [readLoop, if_pos hmore]
  dsimp only
  rw [Nat.min_eq_left hle, List.take_length, if_pos hend]

/-- A shorter one leaves the rest. -/
theorem readLoop_part {length : Nat} (hlt : length < transport.unread.length) :
    transport.readLoop length =
      (.ok (transport.unread.take length), { transport with readPosition := transport.readPosition + length }) := by
  have hmore := unread_ne_nil.1 (List.ne_nil_of_length_pos (Nat.zero_lt_of_lt hlt))
  have hcount : (transport.unread.take length).length = length := List.length_take_of_le hlt.le
  have hend : ¬ transport.readPosition + length = transport.readBuffer.length := by
    rw [unread, List.length_drop] at hlt
    omega
  rw [readLoop, if_pos hmore]
  dsimp only
  rw [Nat.min_eq_right hlt.le, hcount, if_neg hend]

/-- A read that hands out what is unread. -/
theorem readLoop_unread {events : List ReadEvent} (hunread : transport.unread ≠ [])
    (h : Brings writeKey readKey writeIv readIv sent { transport with readBuffer := [], readPosition := 0 } events)
    (length : Nat) :
    (transport.readLoop length).1 = (Source.read length ⟨.data transport.unread :: events⟩).1 ∧
      Brings writeKey readKey writeIv readIv sent (transport.readLoop length).2
        (Source.read length ⟨.data transport.unread :: events⟩).2.events ∧
      (transport.readLoop length).2.stream.output = transport.stream.output := by
  by_cases hle : transport.unread.length ≤ length
  · have hread : Source.read length ⟨.data transport.unread :: events⟩ = (.ok transport.unread, ⟨events⟩) := if_pos hle
    rw [readLoop_all hunread hle, hread]
    exact ⟨rfl, h, rfl⟩
  · have hlt := Nat.not_le.1 hle
    have hread : Source.read length ⟨.data transport.unread :: events⟩ =
      (.ok (transport.unread.take length), ⟨.data (transport.unread.drop length) :: events⟩) := if_neg hle
    have hrest : { transport with readPosition := transport.readPosition + length }.unread =
        transport.unread.drop length := by
      rw [unread, unread, List.drop_drop]
    have hmore : transport.unread.drop length ≠ [] := by rwa [Ne, List.drop_eq_nil_iff]
    rw [readLoop_part hlt, hread]
    refine ⟨rfl, ?_, rfl⟩
    rw [← hrest] at hmore ⊢
    exact .unread hmore h

/-- A read that receives. -/
theorem readLoop_waiting {plaintexts : List TlsPlaintextRecord} {events : List ReadEvent}
    (hpresented : Presented plaintexts events) (length : Nat) :
    ∀ {transport : TlsApplicationTransport} {taken count : Nat} {records : List TlsCiphertextRecord} {rest : Bytes},
      transport.peerClosed = false → transport.unread = [] → Clean transport.stream.input →
      pending transport.stream.input = records.flatMap TlsCiphertextRecord.serialize ++ rest →
      Numbered (Seals readKey readIv) taken count records plaintexts →
      ServerRelated writeKey writeIv readKey readIv sent taken transport.applicationState ⟨sent, false, false, false⟩ →
        (transport.readLoop length).1 = (Source.read length ⟨events⟩).1 ∧
          Brings writeKey readKey writeIv readIv sent (transport.readLoop length).2 (Source.read length ⟨events⟩).2.events ∧
          (transport.readLoop length).2.stream.output = transport.stream.output := by
  induction hpresented with
  | @closed record alert htype halert hdescription records =>
    intro transport taken count records' rest hopen hunread hclean hpending hrecords hrelated
    cases hrecords with
    | cons hseals hrecords =>
      have hreceive : PlainServer.receive ⟨sent, false, false, false⟩ record =
          (.ok .closeNotify, ⟨sent, false, true, false⟩) := by
        rw [PlainServer.receive, if_neg Bool.false_ne_true, if_neg Bool.false_ne_true, htype]
        dsimp only
        rw [PlainServer.receiveAlert, halert]
        dsimp only
        rw [hdescription]
      rw [List.flatMap_cons, List.append_assoc] at hpending
      obtain ⟨input, state, -, -, hnext, hreceived⟩ := receiveNext_sealed hclean hpending hseals hrelated hreceive
      rw [readLoop_of_read hunread hopen, hreceived]
      exact ⟨rfl, .closed rfl hunread hnext, rfl⟩
  | @canceled record alert records events htype halert hdescription hpresented ih =>
    intro transport taken count records' rest hopen hunread hclean hpending hrecords hrelated
    cases hrecords with
    | cons hseals hrecords =>
      have hreceive : PlainServer.receive ⟨sent, false, false, false⟩ record =
          (.ok .userCanceled, ⟨sent, false, false, false⟩) := by
        rw [PlainServer.receive, if_neg Bool.false_ne_true, if_neg Bool.false_ne_true, htype]
        dsimp only
        rw [PlainServer.receiveAlert, halert]
        dsimp only
        rw [hdescription]
      rw [List.flatMap_cons, List.append_assoc] at hpending
      obtain ⟨input, state, hclean', hrest, hnext, hreceived⟩ :=
        receiveNext_sealed hclean hpending hseals hrelated hreceive
      rw [readLoop_of_read hunread hopen, hreceived]
      exact ⟨rfl, .waiting hopen hunread hclean' hrest hrecords hpresented hnext, rfl⟩
  | @empty record records events htype hempty hpresented ih =>
    intro transport taken count records' rest hopen hunread hclean hpending hrecords hrelated
    cases hrecords with
    | cons hseals hrecords =>
      have hreceive : PlainServer.receive ⟨sent, false, false, false⟩ record =
          (.ok (.applicationData record.fragment), ⟨sent, false, false, false⟩) := by
        rw [PlainServer.receive, if_neg Bool.false_ne_true, if_neg Bool.false_ne_true, htype]
      rw [List.flatMap_cons, List.append_assoc] at hpending
      obtain ⟨input, state, hclean', hrest, hnext, hreceived⟩ :=
        receiveNext_sealed hclean hpending hseals hrelated hreceive
      rw [readLoop_of_read hunread hopen, hreceived, takeEvent, if_pos (List.isEmpty_iff.2 hempty)]
      exact @ih { transport with stream := { transport.stream with input }, applicationState := state } _ _ _ _ hopen
        hunread hclean' hrest hrecords hnext
  | @data record records events htype hdata hpresented ih =>
    intro transport taken count records' rest hopen hunread hclean hpending hrecords hrelated
    cases hrecords with
    | cons hseals hrecords =>
      have hreceive : PlainServer.receive ⟨sent, false, false, false⟩ record =
          (.ok (.applicationData record.fragment), ⟨sent, false, false, false⟩) := by
        rw [PlainServer.receive, if_neg Bool.false_ne_true, if_neg Bool.false_ne_true, htype]
      rw [List.flatMap_cons, List.append_assoc] at hpending
      obtain ⟨input, state, hclean', hrest, hnext, hreceived⟩ :=
        receiveNext_sealed hclean hpending hseals hrelated hreceive
      have hwaiting : Brings writeKey readKey writeIv readIv sent
          { transport with
            stream := { transport.stream with input }, applicationState := state, readBuffer := [], readPosition := 0 }
          events := .waiting hopen rfl hclean' hrest hrecords hpresented hnext
      rw [readLoop_of_read hunread hopen, hreceived, takeEvent, if_neg (by rwa [List.isEmpty_iff])]
      exact @readLoop_unread writeKey readKey writeIv readIv sent
        { transport with
          stream := { transport.stream with input }, applicationState := state, readBuffer := record.fragment,
          readPosition := 0 } events hdata hwaiting length

/-- A read finds what a read of the plain stream finds. -/
theorem Brings.read {events : List ReadEvent} (h : Brings writeKey readKey writeIv readIv sent transport events)
    (length : Nat) :
    (transport.readLoop length).1 = (Source.read length ⟨events⟩).1 ∧
      Brings writeKey readKey writeIv readIv sent (transport.readLoop length).2 (Source.read length ⟨events⟩).2.events ∧
      (transport.readLoop length).2.stream.output = transport.stream.output := by
  cases h with
  | closed hclosed hunread hrelated =>
    have hmore : ¬ transport.readPosition < transport.readBuffer.length := fun hmore => unread_ne_nil.2 hmore hunread
    rw [readLoop, if_neg hmore, if_pos hclosed]
    exact ⟨rfl, .closed hclosed hunread hrelated, rfl⟩
  | waiting hopen hunread hclean hpending hrecords hpresented hrelated =>
    exact readLoop_waiting hpresented length hopen hunread hclean hpending hrecords hrelated
  | unread hunread h => exact readLoop_unread hunread h length

/-! ### Writing -/

/-- The application state of such a transport. -/
theorem Brings.related {events : List ReadEvent} (h : Brings writeKey readKey writeIv readIv sent transport events) :
    ∃ taken closed, ServerRelated writeKey writeIv readKey readIv sent taken transport.applicationState
      ⟨sent, false, closed, false⟩ := by
  induction h with
  | closed _ _ hrelated => exact ⟨_, true, hrelated⟩
  | waiting _ _ _ _ _ _ hrelated => exact ⟨_, false, hrelated⟩
  | unread _ _ ih => exact ih

/-- What a server without keys sends is sealed with the next number. -/
theorem ServerRelated.encrypt {state : Tls13ApplicationState} {server server' : PlainServer} {write : ApplicationWrite}
    {plaintext : TlsPlaintextRecord} (h : ServerRelated writeKey writeIv readKey readIv sent taken state server)
    (hwrite : server.write write = (.ok plaintext, server')) :
    ∃ record state', write.encrypt state = (.ok record, state') ∧ Seals writeKey writeIv sent record plaintext ∧
      ServerRelated writeKey writeIv readKey readIv (sent + 1) taken state' server' := by
  obtain ⟨houtput, sent', hsends, hnext⟩ := h.call write
  have hplain : plainServerEnd.call server write = ((.ok (), some plaintext), server') := congrArg sendResult hwrite
  have hcall : serverEnd.call state write = sendResult (write.encrypt state) := rfl
  rw [hplain, hcall] at houtput hsends hnext
  rcases hencrypt : write.encrypt state with ⟨error | record, state'⟩
  · rw [hencrypt] at houtput
    cases houtput
  · rw [hencrypt] at hsends hnext
    cases hsends with
    | message hseals => exact ⟨record, state', rfl, hseals, hnext⟩

theorem PlainServer.write_applicationData {fragment : Bytes} (hsent : sent < 2 ^ 64)
    (hlength : fragment.length ≤ tlsPlaintextFragmentLimit) (closed : Bool) :
    PlainServer.write ⟨sent, false, closed, false⟩ (.applicationData fragment) =
      (.ok ⟨.applicationData, tlsLegacyRecordVersion, fragment⟩, ⟨sent + 1, false, closed, false⟩) := by
  have hvalid : validatePlaintextFragment .applicationData fragment = .ok () := if_neg (Nat.not_lt.2 hlength)
  have hrecord : PlainServer.record ⟨sent, false, closed, false⟩ (.applicationData fragment) =
      .ok ⟨.applicationData, tlsLegacyRecordVersion, fragment⟩ := by
    rw [PlainServer.record, if_neg Bool.false_ne_true, if_neg Bool.false_ne_true]
    exact TlsPlaintextRecord.new_eq_ok.2 ⟨hvalid, rfl⟩
  rw [PlainServer.write, hrecord]
  exact if_pos hsent

/-- A transport that has sent one record more. -/
theorem Brings.encrypt {events : List ReadEvent} (h : Brings writeKey readKey writeIv readIv sent transport events)
    {fragment : Bytes} (hsent : sent < 2 ^ 64) (hlength : fragment.length ≤ tlsPlaintextFragmentLimit) :
    ∃ record state, transport.applicationState.encryptApplicationDataRecord fragment = (.ok record, state) ∧
      Seals writeKey writeIv sent record ⟨.applicationData, tlsLegacyRecordVersion, fragment⟩ ∧
      ∀ output, Brings writeKey readKey writeIv readIv (sent + 1)
        { transport with applicationState := state, stream := { transport.stream with output } } events := by
  induction h with
  | closed hclosed hunread hrelated =>
    obtain ⟨record, state, hencrypt, hseals, hnext⟩ :=
      hrelated.encrypt (PlainServer.write_applicationData hsent hlength true)
    exact ⟨record, state, hencrypt, hseals, fun _ => .closed hclosed hunread hnext⟩
  | waiting hopen hunread hclean hpending hrecords hpresented hrelated =>
    obtain ⟨record, state, hencrypt, hseals, hnext⟩ :=
      hrelated.encrypt (PlainServer.write_applicationData hsent hlength false)
    exact ⟨record, state, hencrypt, hseals, fun _ => .waiting hopen hunread hclean hpending hrecords hpresented hnext⟩
  | unread hunread h ih =>
    obtain ⟨record, state, hencrypt, hseals, hnext⟩ := ih
    exact ⟨record, state, hencrypt, hseals, fun output => .unread hunread (hnext output)⟩

/-- The plaintext of a fragment that was written. -/
def dataRecord (fragment : Bytes) : TlsPlaintextRecord := (ApplicationWrite.applicationData fragment).plaintext

theorem Brings.writeFragments {events : List ReadEvent} {fragments : List Bytes}
    (hlength : ∀ fragment ∈ fragments, fragment.length ≤ tlsPlaintextFragmentLimit) :
    ∀ {transport : TlsApplicationTransport} {sent : Nat}, Brings writeKey readKey writeIv readIv sent transport events →
      transport.stream.output.script = [] → sent + fragments.length ≤ 2 ^ 64 →
        ∃ records, (transport.writeFragments fragments).1 = .ok () ∧
          Brings writeKey readKey writeIv readIv (sent + fragments.length) (transport.writeFragments fragments).2 events ∧
          (transport.writeFragments fragments).2.stream.output =
            .accepting (transport.stream.output.written ++ records.flatMap TlsCiphertextRecord.serialize) ∧
          Numbered (Seals writeKey writeIv) sent (sent + fragments.length) records (fragments.map dataRecord) := by
  induction fragments with
  | nil =>
    intro transport sent h hscript hroom
    refine ⟨[], rfl, h, ?_, .nil sent⟩
    rw [List.flatMap_nil, List.append_nil, Sink.accepting, ← hscript]
    rfl
  | cons fragment fragments ih =>
    intro transport sent h hscript hroom
    rw [List.length_cons] at hroom
    have hwriteAll : ∀ bytes, transport.stream.output.writeAll bytes =
        (.ok (), .accepting (transport.stream.output.written ++ bytes)) := by
      intro bytes
      rw [Sink.writeAll, hscript]
      rfl
    obtain ⟨record, state, hencrypt, hseals, hnext⟩ := h.encrypt (by omega) (hlength fragment List.mem_cons_self)
    obtain ⟨records, hok, hrest, houtput, hnumbered⟩ :=
      ih (fun other hother => hlength other (List.mem_cons_of_mem _ hother))
        (hnext (.accepting (transport.stream.output.written ++ record.serialize))) rfl (by omega)
    have hcount : sent + (fragments.length + 1) = sent + 1 + fragments.length := by omega
    refine ⟨record :: records, ?_⟩
    rw [TlsApplicationTransport.writeFragments, hencrypt]
    dsimp only
    rw [hwriteAll, List.length_cons, hcount, List.flatMap_cons, ← List.append_assoc]
    exact ⟨hok, hrest, houtput, .cons hseals hnumbered⟩

theorem write_eq (transport : TlsApplicationTransport) (input : Bytes) :
    transport.write input = ((transport.writeFragments (chunks tlsPlaintextFragmentLimit input)).1.map fun _ => input.length,
      (transport.writeFragments (chunks tlsPlaintextFragmentLimit input)).2) := by
  rw [TlsApplicationTransport.write]
  split
  · rename_i hempty
    rw [List.isEmpty_iff] at hempty
    have hnone : chunks tlsPlaintextFragmentLimit input = [] := by rw [hempty, chunks, if_pos (Or.inr rfl)]
    rw [hnone, hempty]
    rfl
  · rcases transport.writeFragments (chunks tlsPlaintextFragmentLimit input) with ⟨error | done, transport'⟩
    · rfl
    · rfl

/-- A write sends its input in fragments. -/
theorem Brings.write {events : List ReadEvent} (h : Brings writeKey readKey writeIv readIv sent transport events)
    (hscript : transport.stream.output.script = []) {input : Bytes} (hroom : sent + input.length ≤ 2 ^ 64) :
    ∃ (sent' : Nat) (records : List TlsCiphertextRecord) (fragments : List Bytes),
      (transport.write input).1 = .ok input.length ∧
      Brings writeKey readKey writeIv readIv sent' (transport.write input).2 events ∧
      (transport.write input).2.stream.output =
        .accepting (transport.stream.output.written ++ records.flatMap TlsCiphertextRecord.serialize) ∧
      Numbered (Seals writeKey writeIv) sent sent' records (fragments.map dataRecord) ∧ fragments.flatten = input ∧
      sent' ≤ sent + input.length := by
  have hcount := @length_chunks_le _ tlsPlaintextFragmentLimit input
  obtain ⟨records, hok, hrest, houtput, hnumbered⟩ := Brings.writeFragments
    (fun fragment hfragment => (length_of_mem_chunks hfragment).2) h hscript ((Nat.add_le_add_left hcount sent).trans hroom)
  rw [write_eq, hok]
  exact ⟨_, records, _, rfl, hrest, houtput, hnumbered, flatten_chunks (by decide) input, Nat.add_le_add_left hcount sent⟩

end Reading

/-! ### Runs -/

/-- What the calls write. -/
def bytesWritten (calls : List StreamCall) : Bytes :=
  calls.flatMap fun
    | .read _ => []
    | .write input => input

section Runs

variable {writeKey readKey : ByteArrayN 32} {writeIv readIv : ByteArrayN 12}

/-- Every call has the result that it has on the plain stream. -/
theorem Brings.run (calls : List StreamCall) :
    ∀ {transport : TlsApplicationTransport} {plain : Endpoint} {sent : Nat},
      Brings writeKey readKey writeIv readIv sent transport plain.input.events → transport.stream.output.script = [] →
      plain.output.script = [] → sent + (bytesWritten calls).length ≤ 2 ^ 64 →
        ∃ (sent' : Nat) (events : List ReadEvent) (records : List TlsCiphertextRecord) (fragments : List Bytes),
          outputsOf call transport calls = outputsOf plainCall plain calls ∧
          Brings writeKey readKey writeIv readIv sent' (stateAfter call transport calls) events ∧
          (stateAfter call transport calls).stream.output =
            .accepting (transport.stream.output.written ++ records.flatMap TlsCiphertextRecord.serialize) ∧
          Numbered (Seals writeKey writeIv) sent sent' records (fragments.map dataRecord) ∧
          fragments.flatten = bytesWritten calls ∧ sent' ≤ sent + (bytesWritten calls).length := by
  induction calls with
  | nil =>
    intro transport plain sent h hscript hplain hroom
    refine ⟨sent, _, [], [], rfl, h, ?_, .nil sent, rfl, Nat.le_refl _⟩
    rw [List.flatMap_nil, List.append_nil, Sink.accepting, ← hscript]
    rfl
  | cons first calls ih =>
    intro transport plain sent h hscript hplain hroom
    cases first with
    | read length =>
      have hbytes : bytesWritten (.read length :: calls) = bytesWritten calls := rfl
      rw [hbytes] at hroom ⊢
      have hstep : ∃ plain', plainCall plain (.read length) = ((call transport (.read length)).1, plain') ∧
          Brings writeKey readKey writeIv readIv sent (call transport (.read length)).2 plain'.input.events ∧
          (call transport (.read length)).2.stream.output = transport.stream.output ∧ plain'.output = plain.output := by
        rw [call, TlsApplicationTransport.read, plainCall]
        split
        · exact ⟨plain, rfl, h, rfl, rfl⟩
        · obtain ⟨hresult, hnext, houtput⟩ := h.read length
          rw [hresult]
          exact ⟨_, rfl, hnext, houtput, rfl⟩
      obtain ⟨plain', hanswer, hnext, houtput, hplain'⟩ := hstep
      obtain ⟨sent', events, records, fragments, hanswers, hafter, hwritten, hrest⟩ :=
        ih hnext (by rw [houtput, hscript]) (by rw [hplain', hplain]) hroom
      refine ⟨sent', events, records, fragments, ?_, hafter, by rw [← houtput]; exact hwritten, hrest⟩
      rw [outputsOf, outputsOf, hanswer, hanswers]
    | write input =>
      have hbytes : bytesWritten (.write input :: calls) = input ++ bytesWritten calls := rfl
      rw [hbytes, List.length_append] at hroom ⊢
      obtain ⟨sent₁, records₁, fragments₁, hresult, hnext, houtput, hnumbered, hflatten, hle⟩ :=
        h.write hscript (show sent + input.length ≤ _ by omega)
      have hanswer : plainCall plain (.write input) =
          ((call transport (.write input)).1, { plain with output := .accepting (plain.output.written ++ input) }) := by
        rw [call, hresult, plainCall, Sink.writeAll, hplain]
        rfl
      obtain ⟨sent', events, records, fragments, hanswers, hafter, hwritten, hnumbered', hflatten', hle'⟩ :=
        @ih (call transport (.write input)).2 { plain with output := .accepting (plain.output.written ++ input) } sent₁ hnext
          (by rw [call, houtput]; rfl) rfl (by omega)
      refine ⟨sent', events, records₁ ++ records, fragments₁ ++ fragments, ?_, hafter, ?_, ?_, ?_, ?_⟩
      · rw [outputsOf, outputsOf, hanswer, hanswers]
      · rw [stateAfter_cons, hwritten, call, houtput, Sink.accepting_written, List.flatMap_append, List.append_assoc]
      · rw [List.map_append]
        exact hnumbered.trans hnumbered'
      · rw [List.flatten_append, hflatten, hflatten']
      · omega

theorem PlainServer.write_closeNotify {sent : Nat} (hsent : sent < 2 ^ 64) (closed : Bool) :
    PlainServer.write ⟨sent, false, closed, false⟩ .closeNotify =
      (.ok ApplicationWrite.closeNotify.plaintext, ⟨sent + 1, true, closed, false⟩) := by
  have hrecord : PlainServer.record ⟨sent, false, closed, false⟩ .closeNotify = .ok ApplicationWrite.closeNotify.plaintext := by
    rw [PlainServer.record, if_neg Bool.false_ne_true, if_neg Bool.false_ne_true]
    exact TlsPlaintextRecord.new_eq_ok.2 ⟨rfl, rfl⟩
  rw [PlainServer.write, hrecord]
  exact if_pos hsent

/-- The end goes out as one more record. -/
theorem Brings.sendCloseNotify {transport : TlsApplicationTransport} {sent : Nat} {events : List ReadEvent}
    (h : Brings writeKey readKey writeIv readIv sent transport events) (hscript : transport.stream.output.script = [])
    (hsent : sent < 2 ^ 64) :
    ∃ record, transport.sendCloseNotify.1 = .ok () ∧
      transport.sendCloseNotify.2.stream.output.written = transport.stream.output.written ++ record.serialize ∧
      Seals writeKey writeIv sent record ApplicationWrite.closeNotify.plaintext := by
  obtain ⟨taken, closed, hrelated⟩ := h.related
  obtain ⟨record, state, hencrypt, hseals, -⟩ := hrelated.encrypt (PlainServer.write_closeNotify hsent closed)
  refine ⟨record, ?_, ?_, hseals⟩
  all_goals rw [ApplicationWrite.encrypt] at hencrypt
  all_goals rw [TlsApplicationTransport.sendCloseNotify, hencrypt]
  all_goals dsimp only
  all_goals rw [Sink.writeAll, hscript]
  all_goals rfl

/-- Over the transport, with a client that has sealed these records and closes its data, any reads and writes of less than
`2 ^ 64` bytes have the results that they have on a plain stream that brings the client's fragments. What goes out are
records that the client opens one after the other, to fragments of exactly the bytes that were written and, when
`send_close_notify` follows, to their end. -/
theorem tlsTransport_plain (negotiatedAlpn : Option Bytes) (clientApplicationTrafficSecret
    serverApplicationTrafficSecret transcriptHash serverKey : ByteArrayN 32) (serverIv : ByteArrayN 12)
    (clientKey : ByteArrayN 32) (clientIv : ByteArrayN 12) {stream : Endpoint} (hsound : Conversation.Sound stream)
    {records : List TlsCiphertextRecord} {plaintexts : List TlsPlaintextRecord} {events : List ReadEvent} {count : Nat}
    {rest : Bytes} (hrecords : Numbered (Seals clientKey clientIv) 0 count records plaintexts)
    (hpresented : Presented plaintexts events)
    (hpending : pending stream.input = records.flatMap TlsCiphertextRecord.serialize ++ rest) {calls : List StreamCall}
    (hroom : (bytesWritten calls).length < 2 ^ 64) :
    let transport := TlsApplicationTransport.new stream (.new negotiatedAlpn clientApplicationTrafficSecret
      serverApplicationTrafficSecret transcriptHash (.new serverKey serverIv clientKey clientIv))
    let after := stateAfter call transport calls
    outputsOf call transport calls = outputsOf plainCall ⟨⟨events⟩, .accepting []⟩ calls ∧
      ∃ (number : Nat) (sealed : List TlsCiphertextRecord) (close : TlsCiphertextRecord) (fragments : List Bytes),
        fragments.flatten = bytesWritten calls ∧
        Numbered (Seals serverKey serverIv) 0 number (sealed ++ [close])
          (fragments.map dataRecord ++ [ApplicationWrite.closeNotify.plaintext]) ∧
        after.stream.output.written = stream.output.written ++ sealed.flatMap TlsCiphertextRecord.serialize ∧
        after.sendCloseNotify.1 = .ok () ∧
        after.sendCloseNotify.2.stream.output.written = after.stream.output.written ++ close.serialize := by
  intro transport after
  have hstart : Brings serverKey clientKey serverIv clientIv 0 transport events :=
    .waiting rfl rfl hsound.clean hpending hrecords hpresented ⟨rfl, fun _ => rfl⟩
  obtain ⟨sent, _, sealed, fragments, hanswers, hafter, hwritten, hnumbered, hflatten, hle⟩ :=
    @Brings.run _ _ _ _ calls transport ⟨⟨events⟩, .accepting []⟩ 0 hstart hsound.script_eq rfl (by omega)
  obtain ⟨close, hok, hclose, hseals⟩ := hafter.sendCloseNotify (by rw [hwritten]; rfl) (by omega)
  refine ⟨hanswers, sent + 1, sealed, close, fragments, hflatten, hnumbered.trans (.cons hseals (.nil _)), ?_, hok, hclose⟩
  rw [hwritten]
  rfl

/-- A client that sends three bytes and closes, under keys of zeros; its first header comes in a segment of its own. -/
theorem tlsTransport_plain_data :
    ∃ first last : TlsCiphertextRecord, outputsOf call (TlsApplicationTransport.new
        ⟨Source.ofSegments [first.header, first.encryptedRecord ++ last.serialize], .accepting []⟩
        (.new none (Vector.replicate 32 0) (Vector.replicate 32 0) (Vector.replicate 32 0)
          (.new (Vector.replicate 32 0) (Vector.replicate 12 0) (Vector.replicate 32 0) (Vector.replicate 12 0))))
        [.read 2, .write (ascii "hi"), .read 5, .read 5] =
      [.read (.ok (ascii "he")), .write (.ok 2), .read (.ok (ascii "y")), .read (.ok [])] := by
  have hdata : encodeTlsInnerPlaintext (dataRecord (ascii "hey")) 0 = .ok (ascii "hey" ++ [23]) := rfl
  have hclose : encodeTlsInnerPlaintext ApplicationWrite.closeNotify.plaintext 0 = .ok [1, 0, 21] := rfl
  obtain ⟨first, -, hfirst⟩ := @encryptRecord_protectionAt (Vector.replicate 32 0) (Vector.replicate 32 0)
    (Vector.replicate 12 0) (Vector.replicate 12 0) 0 0 _ _ _ (by decide) hdata
  obtain ⟨last, -, hlast⟩ := @encryptRecord_protectionAt (Vector.replicate 32 0) (Vector.replicate 32 0)
    (Vector.replicate 12 0) (Vector.replicate 12 0) 1 0 _ _ _ (by decide) hclose
  have hsound : Conversation.Sound
      ⟨Source.ofSegments [first.header, first.encryptedRecord ++ last.serialize], .accepting []⟩ := by
    refine ⟨Source.clean_ofSegments fun segment hsegment => ?_, rfl⟩
    simp only [List.mem_cons, List.not_mem_nil, or_false] at hsegment
    rcases hsegment with rfl | rfl
    · exact List.cons_ne_nil _ _
    · exact List.append_ne_nil_of_right_ne_nil _ (List.cons_ne_nil _ _)
  have hpending : pending (Source.ofSegments [first.header, first.encryptedRecord ++ last.serialize]) =
      [first, last].flatMap TlsCiphertextRecord.serialize ++ [] := by
    rw [Source.pending_ofSegments, List.append_nil]
    simp only [List.flatten_cons, List.flatten_nil, List.flatMap_cons, List.flatMap_nil, List.append_nil,
      TlsCiphertextRecord.serialize, List.append_assoc]
  have hpresented : Presented [dataRecord (ascii "hey"), ApplicationWrite.closeNotify.plaintext]
      [.data (ascii "hey")] := .data rfl (by decide) (.closed rfl rfl rfl [])
  exact ⟨first, last, (tlsTransport_plain _ _ _ _ _ _ _ _ hsound (.cons hfirst (.cons hlast (.nil _))) hpresented
    hpending (by decide)).1⟩

end Runs

end BareProxy.Tls
