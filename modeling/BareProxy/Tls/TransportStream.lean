import BareProxy.Tls.Transport

/-!
# The transport as a byte stream

What reads hand out, in order, is what the application data records hold that the transport receives, whatever
the sizes of the buffers; the end is reported only after `close_notify`. The records are those that the source
would deliver if the transport went on for ever, so that nothing depends on how far it got.
-/

namespace BareProxy.Tls

open Reader Tls13ApplicationState TlsApplicationTransport

/-! ### What is received -/

/-- The record that a result of `read_wire_record` brings. -/
def receivedRecord : Except IoError Bytes → Option TlsCiphertextRecord
  | .error _ => none
  | .ok wire => (wireToRecord wire).toOption

/-- All records that a source still brings. -/
def receivedRecords (input : Source) : List TlsCiphertextRecord :=
  if size (readWireRecord input).2 < size input then
    (receivedRecord (readWireRecord input).1).toList ++ receivedRecords (readWireRecord input).2
  else []
termination_by size input

/-- The fragment of an event of application data. -/
def eventFragment : Except TlsRecordError Tls13ApplicationEvent → Option Bytes
  | .ok (.applicationData fragment) => some fragment
  | _ => none

/-- The fragments of application data that a state gets out of records. -/
def applicationFragments (state : Tls13ApplicationState) : List TlsCiphertextRecord → List Bytes
  | [] => []
  | record :: records =>
    (eventFragment (state.receiveProtectedRecord record).1).toList ++
      applicationFragments (state.receiveProtectedRecord record).2 records

theorem applicationFragments_append (state : Tls13ApplicationState) (front back : List TlsCiphertextRecord) :
    applicationFragments state (front ++ back) = applicationFragments state front ++
      applicationFragments (stateAfter receiveProtectedRecord state front) back := by
  induction front generalizing state with
  | nil => rfl
  | cons record front ih =>
    rw [List.cons_append, applicationFragments, ih, applicationFragments, List.append_assoc, stateAfter_cons]

theorem readWireRecord_progress (input : Source) :
    (readWireRecord input).2 = input ∨ size (readWireRecord input).2 < size input := by
  have hprogress := fun n (input : Source) => readExact_progress Source.read_progress n input
  have hheader := hprogress tlsRecordHeaderSize input
  rw [readWireRecord, ProbeTexts.readWireRecord]
  split
  · rename_i error stream hread
    rwa [hread] at hheader
  · rename_i header stream hread
    have hsize := readExact_ok_size hread (by decide)
    dsimp only
    split
    · exact Or.inr hsize
    · have hfragment := hprogress (ofBe ((header.drop 3).take 2)) stream
      split
      · rename_i error stream' hread'
        rw [hread'] at hfragment
        rcases hfragment with hfragment | hfragment
        · rw [hfragment]
          exact Or.inr hsize
        · exact Or.inr (Nat.lt_trans hfragment hsize)
      · rename_i fragment stream' hread'
        rw [hread'] at hfragment
        rcases hfragment with hfragment | hfragment
        · rw [hfragment]
          exact Or.inr hsize
        · exact Or.inr (Nat.lt_trans hfragment hsize)

/-- Reading one wire record takes its record, if it has one, off the front. -/
theorem receivedRecords_next {input input' : Source} {result : Except IoError Bytes}
    (h : readWireRecord input = (result, input')) :
    receivedRecords input = (receivedRecord result).toList ++ receivedRecords input' := by
  by_cases hsize : size input' < size input
  · rw [receivedRecords, h, if_pos hsize]
  · -- the source stands still, so that this read failed
    have hprogress := readWireRecord_progress input
    rw [h] at hprogress
    have hstill : input' = input := hprogress.resolve_right hsize
    cases result with
    | error error =>
      rw [hstill]
      rfl
    | ok wire => exact absurd (ProbeTexts.readWireRecord_ok h).2.2 hsize

theorem receivedRecords_of_still {input : Source} (h : ¬ size (readWireRecord input).2 < size input) :
    receivedRecords input = [] := by
  rw [receivedRecords, if_neg h]

theorem readWireRecord_clean {ρ : Type} [Reader ρ] {stream : ρ} (hclean : Clean stream) {record : TlsCiphertextRecord}
    (hvalid : record.IsValid) {rest : Bytes} (hpending : pending stream = record.serialize ++ rest) :
    ∃ stream', readWireRecord stream = (.ok record.serialize, stream') ∧ Clean stream' ∧ pending stream' = rest :=
  ProbeTexts.readWireRecord_clean hclean hvalid.isWireRecord hpending

theorem wireToRecord_serialize {record : TlsCiphertextRecord} (hvalid : record.IsValid) :
    wireToRecord record.serialize = .ok record := by
  have htype : record.serialize.getD 0 0 = ContentType.applicationData.code := rfl
  rw [wireToRecord, htype, if_neg (not_not.2 rfl)]
  exact ProbeTexts.decodeCiphertextRecord_eq_ok.2 ⟨hvalid, rfl⟩

theorem receivedRecords_end {input : Source} (hclean : Reader.Clean input) (hpending : Reader.pending input = []) :
    receivedRecords input = [] := by
  fun_induction receivedRecords input with
  | case1 input hsize ih =>
    obtain ⟨input', hread, hclean', hrest⟩ := @ProbeTexts.readWireRecord_end tlsProbe _ _ _ hclean hpending
    have hwire : readWireRecord input = (.error failedToFill, input') := hread
    rw [hwire] at ih ⊢
    exact ih hclean' hrest
  | case2 => rfl

/-- A source that carries records brings these records. -/
theorem receivedRecords_serialize {records : List TlsCiphertextRecord} {input : Source} (hclean : Reader.Clean input)
    (hpending : Reader.pending input = records.flatMap TlsCiphertextRecord.serialize)
    (hrecords : ∀ record ∈ records, record.IsValid) : receivedRecords input = records := by
  induction records generalizing input with
  | nil => exact receivedRecords_end hclean hpending
  | cons record records ih =>
    have hvalid := hrecords record List.mem_cons_self
    obtain ⟨input', hwire, hclean', hrest⟩ := readWireRecord_clean hclean hvalid hpending
    rw [receivedRecords_next hwire, receivedRecord, wireToRecord_serialize hvalid,
      ih hclean' hrest fun other hother => hrecords other (List.mem_cons_of_mem _ hother)]
    rfl

/-! ### One step -/

/-- From one transport to a later one the reads took these records and handed out these bytes. -/
structure Consumes (transport transport' : TlsApplicationTransport) (bytes : Bytes)
    (consumed : List TlsCiphertextRecord) : Prop where
  records : receivedRecords transport.stream.input = consumed ++ receivedRecords transport'.stream.input
  state : transport'.applicationState = stateAfter receiveProtectedRecord transport.applicationState consumed
  bytes_eq : transport.unread ++ (applicationFragments transport.applicationState consumed).flatten =
    bytes ++ transport'.unread

theorem Consumes.refl (transport : TlsApplicationTransport) : Consumes transport transport [] [] :=
  ⟨rfl, rfl, List.append_nil _⟩

theorem Consumes.trans {transport₁ transport₂ transport₃ : TlsApplicationTransport} {bytes₁ bytes₂ : Bytes}
    {consumed₁ consumed₂ : List TlsCiphertextRecord} (h₁ : Consumes transport₁ transport₂ bytes₁ consumed₁)
    (h₂ : Consumes transport₂ transport₃ bytes₂ consumed₂) :
    Consumes transport₁ transport₃ (bytes₁ ++ bytes₂) (consumed₁ ++ consumed₂) := by
  refine ⟨?_, ?_, ?_⟩
  · rw [h₁.records, h₂.records, List.append_assoc]
  · rw [h₂.state, h₁.state, stateAfter_append]
  · rw [applicationFragments_append, List.flatten_append, ← List.append_assoc, h₁.bytes_eq, List.append_assoc,
      ← h₁.state, h₂.bytes_eq, List.append_assoc]

/-- The bytes that a read handed out. -/
def readBytes : Except IoError Bytes → Bytes
  | .ok bytes => bytes
  | .error _ => []

/-- The end is only reported after the peer's `close_notify`. -/
def ClosedByPeer (transport : TlsApplicationTransport) : Prop :=
  transport.peerClosed = true → transport.applicationState.closeNotifyReceived = true

theorem receiveNext_consumes {transport transport' : TlsApplicationTransport} {result : Option (Except IoError Bytes)}
    (hunread : transport.unread = []) (h : transport.receiveNext = (result, transport')) :
    ∃ consumed, Consumes transport transport' [] consumed := by
  rw [receiveNext] at h
  split at h
  · rename_i error input hwire
    cases h
    exact ⟨[], receivedRecords_next hwire, rfl, List.append_nil _⟩
  · rename_i wire input hwire
    have hrecords := receivedRecords_next hwire
    dsimp only at h
    split at h
    · rename_i error hrecord
      cases h
      rw [receivedRecord, hrecord] at hrecords
      exact ⟨[], hrecords, rfl, List.append_nil _⟩
    · rename_i record hrecord
      rw [receivedRecord, hrecord] at hrecords
      split at h
      · rename_i error applicationState hevent
        cases h
        refine ⟨[record], hrecords, ?_, ?_⟩
        · rw [stateAfter_cons, hevent]
          rfl
        · rw [applicationFragments, hevent]
          exact List.append_nil _
      · rename_i event applicationState hevent
        obtain ⟨hstream, hstate⟩ := takeEvent_frame h
        refine ⟨[record], ?_, ?_, ?_⟩
        · rw [hstream]
          exact hrecords
        · rw [hstate, stateAfter_cons, hevent]
          rfl
        · rw [hunread, applicationFragments, hevent]
          cases event with
          | applicationData fragment =>
            rw [takeEvent] at h
            split at h
            · rename_i hempty
              cases h
              rw [List.isEmpty_iff.1 hempty]
              exact hunread.symm
            · cases h
              simp [eventFragment, applicationFragments, unread]
          | closeNotify =>
            cases h
            exact hunread.symm
          | userCanceled =>
            cases h
            exact hunread.symm
          | fatalAlert description =>
            cases h
            exact hunread.symm
          | ignoredAfterCloseNotify =>
            cases h
            exact hunread.symm

theorem receiveProtectedRecord_closed {state state' : Tls13ApplicationState} {record : TlsCiphertextRecord}
    {result : Except TlsRecordError Tls13ApplicationEvent}
    (h : state.receiveProtectedRecord record = (result, state')) (hstate : state.closeNotifyReceived = true) :
    state'.closeNotifyReceived = true := by
  have hflag := (receiveProtectedRecord_branch state record).received hstate
  rwa [h] at hflag

/-- A step that reports the end has seen `close_notify`. -/
theorem receiveNext_closed {transport transport' : TlsApplicationTransport} {result : Option (Except IoError Bytes)}
    (hunread : transport.unread = []) (h : transport.receiveNext = (result, transport')) :
    (ClosedByPeer transport → ClosedByPeer transport') ∧
      (∀ bytes, result = some (.ok bytes) → bytes = [] ∧ transport'.peerClosed = true ∧ transport'.unread = []) := by
  rw [receiveNext] at h
  split at h
  · cases h
    exact ⟨id, fun bytes hbytes => by cases hbytes⟩
  · dsimp only at h
    split at h
    · cases h
      exact ⟨id, fun bytes hbytes => by cases hbytes⟩
    · rename_i record hrecord
      split at h
      · rename_i error applicationState hevent
        cases h
        exact ⟨fun hclosed hpeer => receiveProtectedRecord_closed hevent (hclosed hpeer),
          fun bytes hbytes => by cases hbytes⟩
      · rename_i event applicationState hevent
        have hreceived : event = .closeNotify ∨ event = .ignoredAfterCloseNotify →
            applicationState.closeNotifyReceived = true := by
          have hresult : ((ApplicationCall.receiveProtectedRecord record).run transport.applicationState).1 =
              .event (.ok event) := by rw [ApplicationCall.run, hevent]
          have hflag := run_closed hresult
          rwa [ApplicationCall.run, hevent] at hflag
        have hkept : ClosedByPeer transport → transport.peerClosed = true →
            applicationState.closeNotifyReceived = true :=
          fun hclosed hpeer => receiveProtectedRecord_closed hevent (hclosed hpeer)
        cases event with
        | applicationData fragment =>
          rw [takeEvent] at h
          split at h
          · cases h
            exact ⟨hkept, fun bytes hbytes => by cases hbytes⟩
          · cases h
            exact ⟨hkept, fun bytes hbytes => by cases hbytes⟩
        | closeNotify =>
          cases h
          refine ⟨fun _ _ => hreceived (Or.inl rfl), ?_⟩
          intro bytes hbytes
          cases hbytes
          exact ⟨rfl, rfl, hunread⟩
        | userCanceled =>
          cases h
          exact ⟨hkept, fun bytes hbytes => by cases hbytes⟩
        | fatalAlert description =>
          cases h
          exact ⟨hkept, fun bytes hbytes => by cases hbytes⟩
        | ignoredAfterCloseNotify =>
          cases h
          refine ⟨fun _ _ => hreceived (Or.inr rfl), ?_⟩
          intro bytes hbytes
          cases hbytes
          exact ⟨rfl, rfl, hunread⟩

/-! ### One read -/

/-- The bytes that reads may still hand out. -/
def remaining (transport : TlsApplicationTransport) : Bytes :=
  transport.unread ++ (applicationFragments transport.applicationState
    (receivedRecords transport.stream.input)).flatten

theorem Consumes.remaining_eq {transport transport' : TlsApplicationTransport} {bytes : Bytes}
    {consumed : List TlsCiphertextRecord} (h : Consumes transport transport' bytes consumed) :
    remaining transport = bytes ++ remaining transport' := by
  rw [remaining, h.records, applicationFragments_append, List.flatten_append, ← List.append_assoc, h.bytes_eq,
    ← h.state, List.append_assoc, remaining]

theorem applicationFragments_of_closed {state : Tls13ApplicationState} (h : state.closeNotifyReceived = true)
    (records : List TlsCiphertextRecord) : applicationFragments state records = [] := by
  induction records generalizing state with
  | nil => rfl
  | cons record records ih =>
    rcases hreceive : state.receiveProtectedRecord record with ⟨result, state'⟩
    rw [applicationFragments, hreceive, ih (receiveProtectedRecord_closed hreceive h), List.append_nil]
    cases hfragment : eventFragment result with
    | none => rfl
    | some fragment =>
      obtain ⟨data, rfl⟩ : ∃ data, result = .ok (.applicationData data) := by
        unfold eventFragment at hfragment
        split at hfragment
        · exact ⟨_, rfl⟩
        · cases hfragment
      have hresult : ((ApplicationCall.receiveProtectedRecord record).run state).1 =
          .event (.ok (.applicationData data)) := by rw [ApplicationCall.run, hreceive]
      have hopen := run_applicationData hresult
      rw [h] at hopen
      cases hopen

theorem unread_ne_nil {transport : TlsApplicationTransport} :
    transport.unread ≠ [] ↔ transport.readPosition < transport.readBuffer.length := by
  rw [Ne, unread, List.drop_eq_nil_iff, Nat.not_le]

/-- Handing out bytes of the last fragment leaves the rest of it. -/
theorem unread_split (transport : TlsApplicationTransport) (count : Nat) :
    transport.unread = transport.unread.take count ++
      transport.readBuffer.drop (transport.readPosition + (transport.unread.take count).length) := by
  have hdrop : transport.readBuffer.drop (transport.readPosition + (transport.unread.take count).length) =
      transport.unread.drop (transport.unread.take count).length := by rw [unread, List.drop_drop]
  rw [hdrop, List.length_take]
  rcases Nat.le_total count transport.unread.length with hle | hle
  · rw [Nat.min_eq_left hle, List.take_append_drop]
  · rw [Nat.min_eq_right hle, List.take_of_length_le hle, List.drop_length, List.append_nil]

/-- A read hands out the bytes in front and takes the records it needs. -/
theorem readLoop_consumes (transport : TlsApplicationTransport) (length : Nat) :
    ∃ consumed, Consumes transport (transport.readLoop length).2 (readBytes (transport.readLoop length).1) consumed := by
  fun_induction readLoop transport length with
  | case1 transport hmore output readPosition hend =>
    have hsplit := unread_split transport (min transport.unread.length length)
    have hrest : transport.readBuffer.drop (transport.readPosition + output.length) = [] := by
      rw [List.drop_eq_nil_iff]
      exact Nat.le_of_eq hend.symm
    rw [hrest] at hsplit
    exact ⟨[], rfl, rfl, (List.append_nil _).trans hsplit⟩
  | case2 transport hmore output readPosition hend =>
    exact ⟨[], rfl, rfl, (List.append_nil _).trans (unread_split transport (min transport.unread.length length))⟩
  | case3 transport hmore hclosed => exact ⟨[], .refl _⟩
  | case4 transport hmore hclosed result transport' hnext =>
    have hunread : transport.unread = [] := not_not.1 fun hne => hmore (unread_ne_nil.1 hne)
    have hbytes : readBytes result = [] := by
      cases result with
      | error error => rfl
      | ok bytes => exact ((receiveNext_closed hunread hnext).2 bytes rfl).1
    rw [hbytes]
    exact receiveNext_consumes hunread hnext
  | case5 transport hmore hclosed transport' hnext ih =>
    have hunread : transport.unread = [] := not_not.1 fun hne => hmore (unread_ne_nil.1 hne)
    obtain ⟨consumed₁, h₁⟩ := receiveNext_consumes hunread hnext
    obtain ⟨consumed₂, h₂⟩ := ih
    exact ⟨consumed₁ ++ consumed₂, h₁.trans h₂⟩

/-- The end is reported for a buffer that is not empty only once the peer has closed. -/
theorem readLoop_closed {transport : TlsApplicationTransport} {length : Nat} (hlength : 0 < length) :
    (ClosedByPeer transport → ClosedByPeer (transport.readLoop length).2) ∧
      ((transport.readLoop length).1 = .ok [] →
        (transport.readLoop length).2.peerClosed = true ∧ (transport.readLoop length).2.unread = []) := by
  have houtput : ∀ transport : TlsApplicationTransport, transport.readPosition < transport.readBuffer.length →
      transport.unread.take (min transport.unread.length length) ≠ [] := by
    intro transport hmore hnil
    have hunread := List.length_pos_iff.2 (unread_ne_nil.2 hmore)
    have hzero := congrArg List.length hnil
    rw [List.length_take, List.length_nil] at hzero
    omega
  fun_induction readLoop transport length with
  | case1 transport hmore output readPosition hend =>
    exact ⟨id, fun hnil => absurd (Except.ok.inj hnil) (houtput transport hmore)⟩
  | case2 transport hmore output readPosition hend =>
    exact ⟨id, fun hnil => absurd (Except.ok.inj hnil) (houtput transport hmore)⟩
  | case3 transport hmore hclosed =>
    exact ⟨id, fun _ => ⟨hclosed, not_not.1 fun hne => hmore (unread_ne_nil.1 hne)⟩⟩
  | case4 transport hmore hclosed result transport' hnext =>
    have hunread : transport.unread = [] := not_not.1 fun hne => hmore (unread_ne_nil.1 hne)
    obtain ⟨hkeep, hend⟩ := receiveNext_closed hunread hnext
    exact ⟨hkeep, fun hresult => (hend [] (congrArg some hresult)).2⟩
  | case5 transport hmore hclosed transport' hnext ih =>
    have hunread : transport.unread = [] := not_not.1 fun hne => hmore (unread_ne_nil.1 hne)
    exact ⟨fun hpeer => ih.1 ((receiveNext_closed hunread hnext).1 hpeer), ih.2⟩

/-- Bounds the reads that are still needed. -/
def work (transport : TlsApplicationTransport) : Nat :=
  (remaining transport).length + size transport.stream.input

theorem receiveNext_input {transport transport' : TlsApplicationTransport} {result : Option (Except IoError Bytes)}
    (h : transport.receiveNext = (result, transport')) :
    transport'.stream.input = (readWireRecord transport.stream.input).2 := by
  rw [receiveNext] at h
  split at h
  · rename_i error input hwire
    cases h
    rw [hwire]
  · rename_i wire input hwire
    rw [hwire]
    dsimp only at h
    split at h
    · cases h
      rfl
    · split at h
      · cases h
        rfl
      · rw [(takeEvent_frame h).1]

/-- Every read gets somewhere, unless there is nothing left to hand out. -/
theorem readLoop_work {transport : TlsApplicationTransport} {length : Nat} (hlength : 0 < length)
    (hpeer : ClosedByPeer transport) :
    work (transport.readLoop length).2 < work transport ∨ remaining transport = [] := by
  have houtput : ∀ transport transport' : TlsApplicationTransport,
      transport.readPosition < transport.readBuffer.length → transport'.stream = transport.stream →
      remaining transport = transport.unread.take (min transport.unread.length length) ++ remaining transport' →
      work transport' < work transport := by
    intro transport transport' hmore hstream hremaining
    have hunread := List.length_pos_iff.2 (unread_ne_nil.2 hmore)
    rw [work, work, hstream, hremaining, List.length_append, List.length_take]
    omega
  fun_induction readLoop transport length with
  | case1 transport hmore output readPosition hend =>
    have hremaining := (readLoop_consumes transport length).choose_spec.remaining_eq
    rw [readLoop, if_pos hmore] at hremaining
    dsimp only at hremaining
    rw [if_pos hend] at hremaining
    exact Or.inl (houtput transport _ hmore rfl hremaining)
  | case2 transport hmore output readPosition hend =>
    have hremaining := (readLoop_consumes transport length).choose_spec.remaining_eq
    rw [readLoop, if_pos hmore] at hremaining
    dsimp only at hremaining
    rw [if_neg hend] at hremaining
    exact Or.inl (houtput transport _ hmore rfl hremaining)
  | case3 transport hmore hclosed =>
    have hunread : transport.unread = [] := not_not.1 fun hne => hmore (unread_ne_nil.1 hne)
    rw [remaining, hunread, applicationFragments_of_closed (hpeer hclosed)]
    exact Or.inr rfl
  | case4 transport hmore hclosed result transport' hnext =>
    have hunread : transport.unread = [] := not_not.1 fun hne => hmore (unread_ne_nil.1 hne)
    obtain ⟨consumed, hconsumes⟩ := receiveNext_consumes hunread hnext
    by_cases hsize : size (readWireRecord transport.stream.input).2 < size transport.stream.input
    · refine Or.inl ?_
      rw [work, work, hconsumes.remaining_eq, receiveNext_input hnext]
      exact Nat.add_lt_add_left hsize _
    · rw [remaining, hunread, receivedRecords_of_still hsize]
      exact Or.inr rfl
  | case5 transport hmore hclosed transport' hnext ih =>
    have hunread : transport.unread = [] := not_not.1 fun hne => hmore (unread_ne_nil.1 hne)
    obtain ⟨consumed, hconsumes⟩ := receiveNext_consumes hunread hnext
    have hremaining : remaining transport = remaining transport' := hconsumes.remaining_eq
    rcases ih ((receiveNext_closed hunread hnext).1 hpeer) with hwork | hnil
    · refine Or.inl (Nat.lt_trans hwork ?_)
      rw [work, work, hremaining]
      exact Nat.add_lt_add_left (receiveNext_none_size hnext) _
    · exact Or.inr (hremaining.trans hnil)

/-! ### Sequences of reads -/

theorem read_consumes (transport : TlsApplicationTransport) (length : Nat) :
    ∃ consumed, Consumes transport (transport.read length).2 (readBytes (transport.read length).1) consumed := by
  rw [TlsApplicationTransport.read]
  split
  · exact ⟨[], .refl _⟩
  · exact readLoop_consumes transport length

theorem read_closedByPeer {transport : TlsApplicationTransport} (h : ClosedByPeer transport) (length : Nat) :
    ClosedByPeer (transport.read length).2 := by
  rw [TlsApplicationTransport.read]
  split
  · exact h
  · rename_i hlength
    exact (readLoop_closed (Nat.pos_of_ne_zero hlength)).1 h

/-- The bytes that reads with buffers of these lengths hand out. -/
def bytesRead (transport : TlsApplicationTransport) (lengths : List Nat) : Bytes :=
  (outputsOf TlsApplicationTransport.read transport lengths).flatMap readBytes

theorem reads_consume (transport : TlsApplicationTransport) (lengths : List Nat) :
    ∃ consumed, Consumes transport (stateAfter TlsApplicationTransport.read transport lengths)
      (bytesRead transport lengths) consumed := by
  induction lengths generalizing transport with
  | nil => exact ⟨[], .refl _⟩
  | cons length lengths ih =>
    obtain ⟨consumed₁, h₁⟩ := read_consumes transport length
    obtain ⟨consumed₂, h₂⟩ := ih (transport.read length).2
    rw [bytesRead, outputsOf, List.flatMap_cons, stateAfter_cons]
    exact ⟨consumed₁ ++ consumed₂, h₁.trans h₂⟩

theorem reads_closedByPeer {transport : TlsApplicationTransport} (h : ClosedByPeer transport) (lengths : List Nat) :
    ClosedByPeer (stateAfter TlsApplicationTransport.read transport lengths) :=
  stateAfter_invariant (P := ClosedByPeer) (fun _ length hclosed => read_closedByPeer hclosed length) h lengths

/-- After enough reads nothing is left. -/
theorem reads_work {transport : TlsApplicationTransport} (hpeer : ClosedByPeer transport) {lengths : List Nat}
    (hlengths : ∀ length ∈ lengths, 0 < length) :
    work (stateAfter TlsApplicationTransport.read transport lengths) + lengths.length ≤ work transport ∨
      remaining (stateAfter TlsApplicationTransport.read transport lengths) = [] := by
  induction lengths generalizing transport with
  | nil => exact Or.inl (Nat.le_refl _)
  | cons length lengths ih =>
    have hlength := hlengths length List.mem_cons_self
    have hloop : transport.read length = transport.readLoop length := if_neg (Nat.ne_of_gt hlength)
    rw [stateAfter_cons, List.length_cons]
    rcases ih (read_closedByPeer hpeer length) (fun other hother => hlengths other (List.mem_cons_of_mem _ hother)) with
      hwork | hnil
    · rcases readLoop_work hlength hpeer with hstep | hnil
      · rw [← hloop] at hstep
        exact Or.inl (by omega)
      · -- what one read left as nothing stays nothing
        obtain ⟨_, hfirst⟩ := read_consumes transport length
        obtain ⟨_, hrest⟩ := reads_consume (transport.read length).2 lengths
        have hall := (hfirst.trans hrest).remaining_eq
        rw [hnil] at hall
        exact Or.inr (List.append_eq_nil_iff.1 hall.symm).2
    · exact Or.inr hnil

/-- Once the peer has closed and all is handed out, reads only report the end. -/
theorem read_of_closed {transport : TlsApplicationTransport} (hclosed : transport.peerClosed = true)
    (hunread : transport.unread = []) (length : Nat) : transport.read length = (.ok [], transport) := by
  have hmore : ¬ transport.readPosition < transport.readBuffer.length := fun hmore => unread_ne_nil.2 hmore hunread
  rw [TlsApplicationTransport.read]
  split
  · rfl
  · rw [readLoop, if_neg hmore, if_pos hclosed]

theorem reads_of_closed {transport : TlsApplicationTransport} (hclosed : transport.peerClosed = true)
    (hunread : transport.unread = []) (lengths : List Nat) :
    stateAfter TlsApplicationTransport.read transport lengths = transport := by
  induction lengths with
  | nil => rfl
  | cons length lengths ih => rw [stateAfter_cons, read_of_closed hclosed hunread, ih]

/-- `close_notify` among the records that were received is an event of one of them. -/
theorem exists_closeNotify {state : Tls13ApplicationState} {consumed : List TlsCiphertextRecord}
    (hstate : state.closeNotifyReceived = false)
    (h : (stateAfter receiveProtectedRecord state consumed).closeNotifyReceived = true) :
    ∃ before record after, consumed = before ++ record :: after ∧
      ((stateAfter receiveProtectedRecord state before).receiveProtectedRecord record).1 = .ok .closeNotify := by
  obtain ⟨before, record, after, rfl, hbefore, hafter⟩ := exists_step_of_stateAfter
    (P := fun state : Tls13ApplicationState => state.closeNotifyReceived = true) (by rw [hstate]; decide) h
  have hevent := @run_closeNotifyReceived _ (.receiveProtectedRecord record) hbefore hafter
  exact ⟨before, record, after, rfl, ApplicationResult.event.inj hevent⟩

/-! ### Writes -/

theorem writeFragments_spec (transport : TlsApplicationTransport) (fragments : List Bytes) :
    ∃ sent unsent records bytes state', fragments = sent ++ unsent ∧
      runAll encryptApplicationDataRecord transport.applicationState sent = (.ok records, state') ∧
      (transport.writeFragments fragments).2.stream.output.written = transport.stream.output.written ++ bytes ∧
      bytes <+: records.flatMap TlsCiphertextRecord.serialize ∧
      ((transport.writeFragments fragments).1 = .ok () →
        unsent = [] ∧ bytes = records.flatMap TlsCiphertextRecord.serialize) := by
  induction fragments generalizing transport with
  | nil => exact ⟨[], [], [], [], _, rfl, rfl, (List.append_nil _).symm, List.prefix_rfl, fun _ => ⟨rfl, rfl⟩⟩
  | cons fragment fragments ih =>
    rw [writeFragments]
    split
    · rename_i error applicationState hencrypt
      exact ⟨[], fragment :: fragments, [], [], _, rfl, rfl, (List.append_nil _).symm, List.prefix_rfl,
        fun hok => by cases hok⟩
    · rename_i record applicationState hencrypt
      split
      · rename_i error output hwrite
        obtain ⟨count, hcount⟩ := Sink.writeAll_error hwrite
        refine ⟨[fragment], fragments, [record], record.serialize.take count, applicationState, rfl,
          runAll_cons_ok.2 ⟨record, [], applicationState, hencrypt, rfl, rfl⟩, hcount, ?_, fun hok => by cases hok⟩
        rw [List.flatMap_singleton]
        exact List.take_prefix _ _
      · rename_i output hwrite
        obtain ⟨sent, unsent, records, bytes, state', hfragments, hrun, hwritten, hbytes, hok⟩ :=
          ih { transport with applicationState, stream := { transport.stream with output } }
        refine ⟨fragment :: sent, unsent, record :: records, record.serialize ++ bytes, state', ?_,
          runAll_cons_ok.2 ⟨record, records, applicationState, hencrypt, hrun, rfl⟩, ?_, ?_, ?_⟩
        · rw [hfragments, List.cons_append]
        · rw [hwritten, Sink.writeAll_ok hwrite, List.append_assoc]
        · rw [List.flatMap_cons]
          exact (List.prefix_append_right_inj _).2 hbytes
        · intro hresult
          obtain ⟨hunsent, hall⟩ := hok hresult
          exact ⟨hunsent, by rw [List.flatMap_cons, hall]⟩

/-- The state writes: it has neither failed nor closed, and this many records were protected before. -/
structure WritesAt (count : Nat) (state : Tls13ApplicationState) : Prop where
  failed_eq : state.failed = false
  closeNotifySent_eq : state.closeNotifySent = false
  sequence_eq : state.recordProtection.writeSequenceNumber = sequenceAt count

theorem WritesAt.encrypt {count : Nat} {state : Tls13ApplicationState} (h : WritesAt count state)
    (hcount : count < 2 ^ 64) {fragment : Bytes} (hlength : fragment.length ≤ tlsPlaintextFragmentLimit) :
    ∃ record state', state.encryptApplicationDataRecord fragment = (.ok record, state') ∧ WritesAt (count + 1) state' := by
  have hnumber : sequenceAt count = some (UInt64.ofNat count) := if_pos hcount
  obtain ⟨record, hencrypt⟩ :=
    encryptApplicationDataRecord_isOk h.failed_eq h.closeNotifySent_eq (h.sequence_eq.trans hnumber) hlength
  exact ⟨record, _, hencrypt, h.failed_eq, h.closeNotifySent_eq, (sequenceAt_eq_some hnumber).2.2⟩

theorem writeFragments_isOk {fragments : List Bytes}
    (hlength : ∀ fragment ∈ fragments, fragment.length ≤ tlsPlaintextFragmentLimit) :
    ∀ {transport : TlsApplicationTransport} {count : Nat}, WritesAt count transport.applicationState →
      count + fragments.length ≤ 2 ^ 64 → (∀ call ∈ transport.stream.output.script, call = none) →
        (transport.writeFragments fragments).1 = .ok () := by
  induction fragments with
  | nil =>
    intro transport count _ _ _
    rfl
  | cons fragment fragments ih =>
    intro transport count hwrites hroom hscript
    rw [List.length_cons] at hroom
    obtain ⟨record, state', hencrypt, hnext⟩ :=
      hwrites.encrypt (by omega) (hlength fragment List.mem_cons_self)
    obtain ⟨output, hwrite, hrest⟩ := Sink.writeAll_of_script hscript record.serialize
    rw [writeFragments, hencrypt]
    dsimp only
    rw [hwrite]
    exact ih (fun other hother => hlength other (List.mem_cons_of_mem _ hother)) hnext (by omega) hrest

/-- An open state with enough sequence numbers left writes the whole input where no write fails. -/
theorem write_isOk {transport : TlsApplicationTransport} {count : Nat}
    (hwrites : WritesAt count transport.applicationState)
    (hscript : ∀ call ∈ transport.stream.output.script, call = none) {input : Bytes}
    (hroom : count + (chunks tlsPlaintextFragmentLimit input).length ≤ 2 ^ 64) :
    (transport.write input).1 = .ok input.length := by
  rw [write]
  split
  · rename_i hempty
    rw [List.isEmpty_iff.1 hempty]
    rfl
  · have hresult := writeFragments_isOk (fun fragment hfragment => (length_of_mem_chunks hfragment).2) hwrites hroom hscript
    rcases hsent : transport.writeFragments (chunks tlsPlaintextFragmentLimit input) with ⟨result, transport'⟩
    rw [hsent] at hresult
    rw [show result = .ok () from hresult]

/-- A write sends its input in fragments, all of them when it succeeds, which it does when nothing is in its way. -/
theorem write_spec (transport : TlsApplicationTransport) (input : Bytes) :
    ∃ sent unsent records bytes state', (sent ++ unsent).flatten = input ∧
      (∀ fragment ∈ sent ++ unsent, 1 ≤ fragment.length ∧ fragment.length ≤ 2 ^ 14) ∧
      runAll encryptApplicationDataRecord transport.applicationState sent = (.ok records, state') ∧
      (transport.write input).2.stream.output.written = transport.stream.output.written ++ bytes ∧
      bytes <+: records.flatMap TlsCiphertextRecord.serialize ∧
      (∀ count, (transport.write input).1 = .ok count →
        count = input.length ∧ unsent = [] ∧ bytes = records.flatMap TlsCiphertextRecord.serialize) ∧
      (∀ count, WritesAt count transport.applicationState → count + (sent ++ unsent).length ≤ 2 ^ 64 →
        (∀ call ∈ transport.stream.output.script, call = none) → (transport.write input).1 = .ok input.length) := by
  by_cases hempty : input.isEmpty = true
  · rw [List.isEmpty_iff] at hempty
    subst hempty
    refine ⟨[], [], [], [], transport.applicationState, rfl, ?_, rfl, (List.append_nil _).symm, List.prefix_rfl, ?_,
      fun _ _ _ _ => rfl⟩
    · intro fragment hfragment
      cases hfragment
    · intro count hcount
      cases hcount
      exact ⟨rfl, rfl, rfl⟩
  · obtain ⟨sent, unsent, records, bytes, state', hfragments, hrun, hwritten, hbytes, hok⟩ :=
      writeFragments_spec transport (chunks tlsPlaintextFragmentLimit input)
    refine ⟨sent, unsent, records, bytes, state', ?_, ?_, hrun, ?_, hbytes, ?_, ?_⟩
    · rw [← hfragments]
      exact flatten_chunks (by decide) input
    · rw [← hfragments]
      intro fragment hfragment
      exact length_of_mem_chunks hfragment
    · rw [← hwritten, write, if_neg hempty]
      rcases transport.writeFragments (chunks tlsPlaintextFragmentLimit input) with ⟨error | value, transport'⟩
      · rfl
      · rfl
    · intro count hcount
      rw [write, if_neg hempty] at hcount
      rcases hresult : transport.writeFragments (chunks tlsPlaintextFragmentLimit input) with ⟨error | value, transport'⟩
      · rw [hresult] at hcount
        cases hcount
      · rw [hresult] at hcount hok
        cases hcount
        exact ⟨rfl, hok rfl⟩
    · intro count hwrites hroom hscript
      rw [← hfragments] at hroom
      exact write_isOk hwrites hscript hroom

/-- Where the end is reported, the peer has closed and nothing is left. -/
theorem read_end {transport : TlsApplicationTransport} {length : Nat} (hlength : 0 < length)
    (h : (transport.read length).1 = .ok []) :
    (transport.read length).2.peerClosed = true ∧ (transport.read length).2.unread = [] := by
  have hloop : transport.read length = transport.readLoop length := if_neg (Nat.ne_of_gt hlength)
  rw [hloop] at h ⊢
  exact (readLoop_closed hlength).2 h

/-- The transport is a byte stream. The records received are those that a clean stream carries, however it is cut. What
reads hand out is a prefix of the application data in them, and all of it once enough reads are made; the end is reported for a buffer that is not empty only after a
`close_notify` was decrypted, and from then on always. What a write encrypts and sends are fragments of one byte
up to the limit that make up its input, all of them when it succeeds; and it succeeds in an open state with a
sequence number left for every fragment, on a stream that takes every write. -/
theorem tlsTransport_stream (stream : Endpoint) (applicationState : Tls13ApplicationState) :
    let start := TlsApplicationTransport.new stream applicationState
    let received := receivedRecords stream.input
    let delivered := (applicationFragments applicationState received).flatten
    let after := stateAfter TlsApplicationTransport.read start
    (∀ records, Reader.Clean stream.input → Reader.pending stream.input = records.flatMap TlsCiphertextRecord.serialize →
      (∀ record ∈ records, record.IsValid) → received = records) ∧
    (∀ lengths, bytesRead start lengths <+: delivered) ∧
    (∃ enough, ∀ lengths : List Nat, (∀ length ∈ lengths, 0 < length) → enough ≤ lengths.length →
      bytesRead start lengths = delivered) ∧
    (∀ lengths length, 0 < length → ((after lengths).read length).1 = .ok [] →
      (applicationState.closeNotifyReceived = true ∨
        ∃ before record more rest, received = before ++ record :: (more ++ rest) ∧
          ((stateAfter receiveProtectedRecord applicationState before).receiveProtectedRecord record).1 =
            .ok .closeNotify ∧
          (after (lengths ++ [length])).applicationState =
            stateAfter receiveProtectedRecord applicationState (before ++ record :: more)) ∧
      ∀ later length', ((after (lengths ++ length :: later)).read length').1 = .ok []) ∧
    (∀ (transport : TlsApplicationTransport) (input : Bytes), ∃ sent unsent records bytes state',
      (sent ++ unsent).flatten = input ∧
      (∀ fragment ∈ sent ++ unsent, 1 ≤ fragment.length ∧ fragment.length ≤ 2 ^ 14) ∧
      runAll encryptApplicationDataRecord transport.applicationState sent = (.ok records, state') ∧
      (transport.write input).2.stream.output.written = transport.stream.output.written ++ bytes ∧
      bytes <+: records.flatMap TlsCiphertextRecord.serialize ∧
      (∀ count, (transport.write input).1 = .ok count →
        count = input.length ∧ unsent = [] ∧ bytes = records.flatMap TlsCiphertextRecord.serialize) ∧
      (∀ count, WritesAt count transport.applicationState → count + (sent ++ unsent).length ≤ 2 ^ 64 →
        (∀ call ∈ transport.stream.output.script, call = none) → (transport.write input).1 = .ok input.length)) := by
  intro start received delivered after
  have hpeer : ClosedByPeer start := fun hclosed => by cases hclosed
  have hstart : remaining start = delivered := rfl
  refine ⟨fun _ => receivedRecords_serialize, ?_, ⟨work start + 1, ?_⟩, ?_, write_spec⟩
  · intro lengths
    obtain ⟨consumed, hconsumes⟩ := reads_consume start lengths
    rw [← hstart, hconsumes.remaining_eq]
    exact List.prefix_append _ _
  · intro lengths hlengths henough
    obtain ⟨consumed, hconsumes⟩ := reads_consume start lengths
    have hnil : remaining (stateAfter TlsApplicationTransport.read start lengths) = [] := by
      rcases reads_work hpeer hlengths with hwork | hnil
      · omega
      · exact hnil
    rw [← hstart, hconsumes.remaining_eq, hnil, List.append_nil]
  · intro lengths length hlength hend
    have hnext : after (lengths ++ [length]) = ((after lengths).read length).2 := stateAfter_append _ _ _ _
    obtain ⟨hclosed, hunread⟩ := read_end hlength hend
    rw [← hnext] at hclosed hunread
    refine ⟨?_, ?_⟩
    · by_cases hbefore : applicationState.closeNotifyReceived = true
      · exact Or.inl hbefore
      · refine Or.inr ?_
        obtain ⟨consumed, hconsumes⟩ := reads_consume start (lengths ++ [length])
        have hreceived := reads_closedByPeer hpeer (lengths ++ [length]) hclosed
        rw [hconsumes.state] at hreceived
        obtain ⟨before, record, more, rfl, hevent⟩ := exists_closeNotify (Bool.eq_false_iff.2 hbefore) hreceived
        have hrecords := hconsumes.records
        rw [List.append_assoc, List.cons_append] at hrecords
        exact ⟨before, record, more, _, hrecords, hevent, hconsumes.state⟩
    · intro later length'
      have hlater : after (lengths ++ length :: later) = after (lengths ++ [length]) := by
        have hsplit : lengths ++ length :: later = (lengths ++ [length]) ++ later := by simp
        rw [hsplit]
        exact (stateAfter_append _ _ _ _).trans (reads_of_closed hclosed hunread later)
      rw [hlater, read_of_closed hclosed hunread]

end BareProxy.Tls
