import BareProxy.Tls.NegotiationExact
import BareProxy.Tls.ServerConnection

/-!
# What goes over the wire in a handshake

The handshakes of a server as a relation between the bytes that the client sends, those that the server sends, and the
state at the end. The server reaches a state exactly in the handshakes of this relation, whatever records and segments
the client cuts its messages into.
-/

namespace BareProxy.Tls

open Reader Conversation ProbeTexts

/-! ### One message -/

theorem drain_handshakeFramer_one {buffer message : Bytes} :
    handshakeFramer.drain buffer = .ok ([message], []) ↔ IsWholeMessage buffer ∧ message = buffer := by
  rw [drain_eq_single rfl]
  constructor
  · intro h
    replace h : nextHandshakeMessage buffer = .ok (some (message, [])) := h
    rw [nextHandshakeMessage] at h
    split at h
    · cases h
    · rename_i hheader
      dsimp only at h
      split at h
      · cases h
      · rename_i hlength
        obtain ⟨htake, hdrop⟩ := Prod.mk.inj (Option.some.inj (Except.ok.inj h))
        have hle := List.drop_eq_nil_iff.1 hdrop
        rw [List.take_of_length_le hle] at htake
        exact ⟨⟨Nat.not_lt.1 hheader, Nat.le_antisymm hle (Nat.not_lt.1 hlength)⟩, htake.symm⟩
  · rintro ⟨hwhole, rfl⟩
    have hnext := nextHandshakeMessage_of_isWholeMessage hwhole []
    rwa [List.append_nil] at hnext

theorem drain_handshakeFramer_none {buffer rest : Bytes} :
    handshakeFramer.drain buffer = .ok ([], rest) ↔ IsIncomplete buffer ∧ rest = buffer := by
  rw [← nextHandshakeMessage_eq_none]
  constructor
  · intro h
    rcases hnext : nextHandshakeMessage buffer with error | _ | ⟨message, more⟩
    · rw [Framer.drain_of_error hnext] at h
      cases h
    · rw [Framer.drain_of_none hnext] at h
      cases h
      exact ⟨rfl, rfl⟩
    · rw [Framer.drain_of_some hnext] at h
      split at h
      · cases h
      · cases h
  · rintro ⟨hnext, rfl⟩
    exact Framer.drain_of_none hnext

/-- The beginning of a message is not a message. -/
theorem isIncomplete_of_append {front back : Bytes} (h : IsWholeMessage (front ++ back)) (hback : back ≠ []) :
    IsIncomplete front := by
  obtain ⟨hheader, hlength⟩ := h
  by_cases hshort : front.length < handshakeHeaderSize
  · exact Or.inl hshort
  · rw [declaredLength_append (Nat.not_lt.1 hshort), List.length_append] at hlength
    have hpos := List.length_pos_iff.2 hback
    exact Or.inr (by omega)

section TakeMessage

variable {several : String} {deframer deframer' : HandshakeDeframer} {record : TlsPlaintextRecord} {message : Bytes}

theorem takeMessage_handshake (htype : record.contentType = .handshake) :
    ∃ messages rest, handshakeFramer.drain (deframer ++ record.fragment) = .ok (messages, rest) ∧
      takeMessage several deframer record =
        if messages.length > 1 then .error (invalidData several)
        else match messages.head? with
          | none => .ok (.inr rest)
          | some message =>
            if rest ≠ [] then .error (recordError (.handshakeNotAligned rest.length)) else .ok (.inl message) := by
  obtain ⟨hother, -⟩ | ⟨hother, -⟩ | ⟨-, messages, rest, hdrain, hpush⟩ := HandshakeDeframer.pushRecord_cases deframer record
  · exact absurd htype hother
  · exact absurd htype hother
  · refine ⟨messages, rest, hdrain, ?_⟩
    rewrite [takeMessage, hpush]
    rfl

/-- A message comes out when the fragments end with it. -/
theorem takeMessage_inl (htype : record.contentType = .handshake) :
    takeMessage several deframer record = .ok (.inl message) ↔
      IsWholeMessage message ∧ deframer ++ record.fragment = message := by
  obtain ⟨messages, rest, hdrain, htake⟩ := @takeMessage_handshake several deframer record htype
  have hwhole : IsWholeMessage message ∧ deframer ++ record.fragment = message ↔
      handshakeFramer.drain (deframer ++ record.fragment) = .ok ([message], []) := by
    rw [drain_handshakeFramer_one]
    constructor
    · rintro ⟨h, rfl⟩
      exact ⟨h, rfl⟩
    · rintro ⟨h, rfl⟩
      exact ⟨h, rfl⟩
  rw [htake, hwhole, hdrain]
  rcases messages with _ | ⟨first, _ | ⟨second, more⟩⟩ <;> rcases rest with _ | ⟨b, rest⟩ <;> simp

/-- The fragments are kept while they are the beginning of a message. -/
theorem takeMessage_inr (htype : record.contentType = .handshake) :
    takeMessage several deframer record = .ok (.inr deframer') ↔
      IsIncomplete deframer' ∧ deframer' = deframer ++ record.fragment := by
  obtain ⟨messages, rest, hdrain, htake⟩ := @takeMessage_handshake several deframer record htype
  have hincomplete : IsIncomplete deframer' ∧ deframer' = deframer ++ record.fragment ↔
      handshakeFramer.drain (deframer ++ record.fragment) = .ok ([], deframer') := by
    rw [drain_handshakeFramer_none]
    constructor
    · rintro ⟨h, rfl⟩
      exact ⟨h, rfl⟩
    · rintro ⟨h, rfl⟩
      exact ⟨h, rfl⟩
  rw [htake, hincomplete, hdrain]
  rcases messages with _ | ⟨first, _ | ⟨second, more⟩⟩
  · simp
  · simp only [List.length_singleton, gt_iff_lt, lt_self_iff_false, if_false, List.head?_cons]
    split <;> simp
  · simp

end TakeMessage

/-! ### The records of the client -/

/-- The compatibility record. -/
def IsChangeCipherSpec (record : TlsPlaintextRecord) : Prop :=
  record.IsValid ∧ record.contentType = .changeCipherSpec

theorem decodeChangeCipherSpec_eq_ok {texts : ProbeTexts} {wire : Bytes} {value : Unit} :
    texts.decodeChangeCipherSpec wire = .ok value ↔ ∃ record, IsChangeCipherSpec record ∧ wire = record.wire := by
  rw [decodeChangeCipherSpec, bind_eq_ok]
  constructor
  · rintro ⟨record, hdecode, htype⟩
    obtain ⟨hvalid, rfl⟩ := decodePlaintextRecord_eq_ok.1 hdecode
    exact ⟨record, ⟨hvalid, ensure_eq_ok.1 htype⟩, rfl⟩
  · rintro ⟨record, ⟨hvalid, htype⟩, rfl⟩
    exact ⟨record, decodePlaintextRecord_eq_ok.2 ⟨hvalid, rfl⟩, ensure_of htype _⟩

theorem getD_wire (record : TlsPlaintextRecord) : record.wire.getD 0 0 = record.contentType.code := rfl

/-- A record with a piece of a ClientHello; the second ClientHello has to have the record version of TLS 1.2. -/
def IsHelloFragment (afterRetry : Bool) (record : TlsPlaintextRecord) : Prop :=
  record.IsValid ∧ record.contentType = .handshake ∧
    (afterRetry = false ∨ record.legacyRecordVersion = tlsLegacyRecordVersion)

/-- A record that may stand among these pieces; compatibility records only after a HelloRetryRequest. -/
def IsHelloRecord (afterRetry : Bool) (record : TlsPlaintextRecord) : Prop :=
  IsHelloFragment afterRetry record ∨ (afterRetry = true ∧ IsChangeCipherSpec record)

/-- What a record adds to the message. -/
def helloFragment (record : TlsPlaintextRecord) : Bytes :=
  if record.contentType = .handshake then record.fragment else []

/-- Records whose pieces, ending with the last record, make up one message. -/
structure CarriesClientHello (afterRetry : Bool) (records : List TlsPlaintextRecord) (message : Bytes) : Prop where
  whole : IsWholeMessage message
  records_valid : ∀ record ∈ records, IsHelloRecord afterRetry record
  fragments_eq : records.flatMap helloFragment = message
  last : ∃ front record, records = front ++ [record] ∧ IsHelloFragment afterRetry record

theorem IsHelloFragment.ne_nil {afterRetry : Bool} {record : TlsPlaintextRecord} (h : IsHelloFragment afterRetry record) :
    record.fragment ≠ [] := by
  obtain ⟨⟨hvalid, -⟩, htype, -⟩ := h
  rw [htype] at hvalid
  exact List.length_pos_iff.1 (validatePlaintextFragment_handshake.1 hvalid).1

theorem IsHelloFragment.helloFragment_eq {afterRetry : Bool} {record : TlsPlaintextRecord}
    (h : IsHelloFragment afterRetry record) : helloFragment record = record.fragment := if_pos h.2.1

theorem IsChangeCipherSpec.helloFragment_eq {record : TlsPlaintextRecord} (h : IsChangeCipherSpec record) :
    helloFragment record = [] := if_neg (by rw [h.2]; decide)

theorem IsHelloRecord.isValid {afterRetry : Bool} {record : TlsPlaintextRecord} (h : IsHelloRecord afterRetry record) :
    record.IsValid := h.elim (fun h => h.1) fun h => h.2.1

section TakeClientHello

variable {afterRetry : Bool} {deframer deframer' : HandshakeDeframer} {wire message : Bytes}

theorem takeClientHello_handshake (htype : wire.getD 0 0 = ContentType.handshake.code) {value : Bytes ⊕ HandshakeDeframer} :
    takeClientHello afterRetry deframer wire = .ok value ↔
      ∃ record, IsHelloFragment afterRetry record ∧ wire = record.wire ∧
        takeMessage "TLS probe received multiple handshake messages while waiting for ClientHello" deframer record =
          .ok value := by
  rw [takeClientHello, htype, if_neg (by decide), if_neg (not_not.2 rfl), bind_eq_ok]
  constructor
  · rintro ⟨record, hdecode, h⟩
    obtain ⟨hvalid, rfl⟩ := decodePlaintextRecord_eq_ok.1 hdecode
    obtain ⟨_, hversion, h⟩ := bind_eq_ok.1 h
    rw [getD_wire] at htype
    have hhandshake : record.contentType = .handshake := by
      rw [← Option.some.injEq, ← ofCode_code, htype]
      rfl
    exact ⟨record, ⟨hvalid, hhandshake, ensure_eq_ok.1 hversion⟩, rfl, h⟩
  · rintro ⟨record, ⟨hvalid, -, hversion⟩, rfl, h⟩
    exact ⟨record, decodePlaintextRecord_eq_ok.2 ⟨hvalid, rfl⟩, bind_eq_ok.2 ⟨(), ensure_of hversion _, h⟩⟩

theorem takeClientHello_changeCipherSpec (htype : wire.getD 0 0 = ContentType.changeCipherSpec.code)
    {value : Bytes ⊕ HandshakeDeframer} :
    takeClientHello afterRetry deframer wire = .ok value ↔
      value = .inr deframer ∧ afterRetry = true ∧ ∃ record, IsChangeCipherSpec record ∧ wire = record.wire := by
  rw [takeClientHello, if_pos htype, bind_eq_ok]
  constructor
  · rintro ⟨_, hallow, h⟩
    obtain ⟨_, hdecode, h⟩ := bind_eq_ok.1 h
    cases h
    exact ⟨rfl, ensure_eq_ok.1 hallow, decodeChangeCipherSpec_eq_ok.1 hdecode⟩
  · rintro ⟨rfl, hallow, hrecord⟩
    exact ⟨(), ensure_of hallow _, bind_eq_ok.2 ⟨(), decodeChangeCipherSpec_eq_ok.2 hrecord, rfl⟩⟩

theorem takeClientHello_type {value : Bytes ⊕ HandshakeDeframer}
    (h : takeClientHello afterRetry deframer wire = .ok value) :
    wire.getD 0 0 = ContentType.changeCipherSpec.code ∨ wire.getD 0 0 = ContentType.handshake.code := by
  rw [takeClientHello] at h
  split at h
  · exact Or.inl ‹_›
  · split at h
    · cases h
    · exact Or.inr (not_not.1 ‹_›)

theorem takeClientHello_inl :
    takeClientHello afterRetry deframer wire = .ok (.inl message) ↔
      ∃ record, IsHelloFragment afterRetry record ∧ wire = record.wire ∧ IsWholeMessage message ∧
        deframer ++ record.fragment = message := by
  constructor
  · intro h
    obtain htype | htype := takeClientHello_type h
    · cases ((takeClientHello_changeCipherSpec htype).1 h).1
    · obtain ⟨record, hrecord, hwire, htake⟩ := (takeClientHello_handshake htype).1 h
      exact ⟨record, hrecord, hwire, (takeMessage_inl hrecord.2.1).1 htake⟩
  · rintro ⟨record, hrecord, rfl, hmessage⟩
    have htype : record.wire.getD 0 0 = ContentType.handshake.code := by rw [getD_wire, hrecord.2.1]
    exact (takeClientHello_handshake htype).2 ⟨record, hrecord, rfl, (takeMessage_inl hrecord.2.1).2 hmessage⟩

theorem takeClientHello_inr :
    takeClientHello afterRetry deframer wire = .ok (.inr deframer') ↔
      ∃ record, IsHelloRecord afterRetry record ∧ wire = record.wire ∧ deframer' = deframer ++ helloFragment record ∧
        (record.contentType = .handshake → IsIncomplete deframer') := by
  constructor
  · intro h
    obtain htype | htype := takeClientHello_type h
    · obtain ⟨hdeframer, hallow, record, hrecord, hwire⟩ := (takeClientHello_changeCipherSpec htype).1 h
      cases hdeframer
      refine ⟨record, Or.inr ⟨hallow, hrecord⟩, hwire, ?_, ?_⟩
      · rw [hrecord.helloFragment_eq, List.append_nil]
      · intro hhandshake
        rw [hrecord.2] at hhandshake
        cases hhandshake
    · obtain ⟨record, hrecord, hwire, htake⟩ := (takeClientHello_handshake htype).1 h
      obtain ⟨hincomplete, hdeframer⟩ := (takeMessage_inr hrecord.2.1).1 htake
      exact ⟨record, Or.inl hrecord, hwire, by rw [hdeframer, hrecord.helloFragment_eq], fun _ => hincomplete⟩
  · rintro ⟨record, hrecord | ⟨hallow, hrecord⟩, rfl, hdeframer, hincomplete⟩
    · have htype : record.wire.getD 0 0 = ContentType.handshake.code := by rw [getD_wire, hrecord.2.1]
      rw [hrecord.helloFragment_eq] at hdeframer
      exact (takeClientHello_handshake htype).2
        ⟨record, hrecord, rfl, (takeMessage_inr hrecord.2.1).2 ⟨hincomplete hrecord.2.1, hdeframer⟩⟩
    · have htype : record.wire.getD 0 0 = ContentType.changeCipherSpec.code := by rw [getD_wire, hrecord.2]
      rw [hrecord.helloFragment_eq, List.append_nil] at hdeframer
      rw [hdeframer]
      exact (takeClientHello_changeCipherSpec htype).2 ⟨rfl, hallow, record, hrecord, rfl⟩

/-- The loop takes records that carry a message, after the fragments that it has. -/
theorem brings_clientHello {wires : List Bytes} :
    Brings (takeClientHello afterRetry) message deframer wires ↔
      ∃ records, wires = records.map TlsPlaintextRecord.wire ∧ IsWholeMessage message ∧
        (∀ record ∈ records, IsHelloRecord afterRetry record) ∧ deframer ++ records.flatMap helloFragment = message ∧
        ∃ front record, records = front ++ [record] ∧ IsHelloFragment afterRetry record := by
  constructor
  · intro h
    induction h with
    | last hwire htake =>
      obtain ⟨record, hrecord, rfl, hwhole, hmessage⟩ := takeClientHello_inl.1 htake
      refine ⟨[record], rfl, hwhole, ?_, ?_, [], record, rfl, hrecord⟩
      · intro other hother
        rw [List.mem_singleton.1 hother]
        exact Or.inl hrecord
      · rw [List.flatMap_singleton, hrecord.helloFragment_eq, hmessage]
    | next hwire htake hrest ih =>
      obtain ⟨record, hrecord, rfl, rfl, -⟩ := takeClientHello_inr.1 htake
      obtain ⟨records, rfl, hwhole, hrecords, hmessage, front, last, hlast, hfragment⟩ := ih
      refine ⟨record :: records, rfl, hwhole, List.forall_mem_cons.2 ⟨hrecord, hrecords⟩, ?_, record :: front, last, ?_,
        hfragment⟩
      · rw [List.flatMap_cons, ← List.append_assoc, hmessage]
      · rw [hlast, List.cons_append]
  · rintro ⟨records, rfl, hwhole, hrecords, hmessage, front, last, rfl, hlast⟩
    induction front generalizing deframer with
    | nil =>
      rw [List.nil_append, List.flatMap_singleton, hlast.helloFragment_eq] at hmessage
      exact .last hlast.1.isWireRecord (takeClientHello_inl.2 ⟨last, hlast, rfl, hwhole, hmessage⟩)
    | cons record front ih =>
      have hrecord := hrecords record List.mem_cons_self
      rw [List.cons_append, List.flatMap_cons, ← List.append_assoc] at hmessage
      refine .next hrecord.isValid.isWireRecord (takeClientHello_inr.2 ⟨record, hrecord, rfl, rfl, ?_⟩)
        (ih (fun other hother => hrecords other (List.mem_cons_of_mem _ hother)) hmessage)
      -- the last fragment is still to come
      intro _
      rw [← hmessage] at hwhole
      apply isIncomplete_of_append hwhole
      rw [List.flatMap_append, List.flatMap_singleton, hlast.helloFragment_eq]
      exact List.append_ne_nil_of_right_ne_nil _ hlast.ne_nil

end TakeClientHello

/-- The reader of a ClientHello takes the records that carry it and no more. -/
theorem means_readClientHello (afterRetry : Bool) :
    Means (reading (readClientHello afterRetry)) fun message received sent =>
      (∃ records, CarriesClientHello afterRetry records message ∧ received = records.flatMap TlsPlaintextRecord.wire) ∧
        sent = [] := by
  apply Means.reading
  · intro input input' message h
    obtain ⟨wires, hbrings, hpending⟩ := readRecords_ok h
    obtain ⟨records, rfl, hwhole, hrecords, hmessage, hlast⟩ := brings_clientHello.1 hbrings
    exact ⟨_, ⟨records, ⟨hwhole, hrecords, hmessage, hlast⟩, rfl⟩, by rw [hpending, List.flatMap_def]⟩
  · rintro message _ ⟨records, ⟨hwhole, hrecords, hmessage, hlast⟩, rfl⟩ input rest hclean hpending
    rw [List.flatMap_def] at hpending
    exact readRecords_clean (brings_clientHello.2 ⟨records, rfl, hwhole, hrecords, hmessage, hlast⟩) hclean hpending

/-- The records up to the client's Finished: perhaps compatibility records, and then it. -/
def CarriesFinished (record : TlsCiphertextRecord) (received : Bytes) : Prop :=
  ∃ compatibility : List TlsPlaintextRecord, (∀ other ∈ compatibility, IsChangeCipherSpec other) ∧ record.IsValid ∧
    received = compatibility.flatMap TlsPlaintextRecord.wire ++ record.serialize

section TakeClientFinished

variable {wire : Bytes} {record : TlsCiphertextRecord}

theorem takeClientFinished_inl :
    takeClientFinished () wire = .ok (.inl record) ↔ record.IsValid ∧ wire = record.serialize := by
  have htypes : ContentType.applicationData.code ≠ ContentType.changeCipherSpec.code := by decide
  constructor
  · intro h
    rw [takeClientFinished] at h
    split at h
    · obtain ⟨_, -, h⟩ := bind_eq_ok.1 h
      cases h
    · split at h
      · cases h
      · obtain ⟨found, hdecode, h⟩ := bind_eq_ok.1 h
        cases h
        exact decodeCiphertextRecord_eq_ok.1 hdecode
  · rintro ⟨hvalid, rfl⟩
    have htype : record.serialize.getD 0 0 = ContentType.applicationData.code := rfl
    rw [takeClientFinished, htype, if_neg htypes, if_neg (not_not.2 rfl), bind_eq_ok]
    exact ⟨record, decodeCiphertextRecord_eq_ok.2 ⟨hvalid, rfl⟩, rfl⟩

theorem takeClientFinished_inr {state : Unit} :
    takeClientFinished () wire = .ok (.inr state) ↔ ∃ other, IsChangeCipherSpec other ∧ wire = other.wire := by
  constructor
  · intro h
    rw [takeClientFinished] at h
    split at h
    · obtain ⟨_, hdecode, -⟩ := bind_eq_ok.1 h
      exact decodeChangeCipherSpec_eq_ok.1 hdecode
    · split at h
      · cases h
      · obtain ⟨found, -, h⟩ := bind_eq_ok.1 h
        cases h
  · rintro ⟨other, hother, rfl⟩
    have htype : other.wire.getD 0 0 = ContentType.changeCipherSpec.code := by rw [getD_wire, hother.2]
    rw [takeClientFinished, if_pos htype, bind_eq_ok]
    exact ⟨(), decodeChangeCipherSpec_eq_ok.2 ⟨other, hother, rfl⟩, rfl⟩

theorem brings_clientFinished {state : Unit} {wires : List Bytes} :
    Brings takeClientFinished record state wires ↔
      ∃ compatibility : List TlsPlaintextRecord, (∀ other ∈ compatibility, IsChangeCipherSpec other) ∧ record.IsValid ∧
        wires = compatibility.map TlsPlaintextRecord.wire ++ [record.serialize] := by
  constructor
  · intro h
    induction h with
    | last hwire htake =>
      obtain ⟨hvalid, rfl⟩ := takeClientFinished_inl.1 htake
      exact ⟨[], by simp, hvalid, rfl⟩
    | next hwire htake hrest ih =>
      obtain ⟨other, hother, rfl⟩ := takeClientFinished_inr.1 htake
      obtain ⟨compatibility, hcompatibility, hvalid, rfl⟩ := ih
      exact ⟨other :: compatibility, List.forall_mem_cons.2 ⟨hother, hcompatibility⟩, hvalid, rfl⟩
  · rintro ⟨compatibility, hcompatibility, hvalid, rfl⟩
    induction compatibility with
    | nil => exact .last hvalid.isWireRecord (takeClientFinished_inl.2 ⟨hvalid, rfl⟩)
    | cons other compatibility ih =>
      obtain ⟨hother, hrest⟩ := List.forall_mem_cons.1 hcompatibility
      exact .next hother.1.isWireRecord (takeClientFinished_inr.2 ⟨other, hother, rfl⟩) (ih hrest)

end TakeClientFinished

theorem means_readClientFinishedRecord :
    Means (reading readClientFinishedRecord) fun record received sent => CarriesFinished record received ∧ sent = [] := by
  apply Means.reading
  · intro input input' record h
    obtain ⟨wires, hbrings, hpending⟩ := readRecords_ok h
    obtain ⟨compatibility, hcompatibility, hvalid, rfl⟩ := brings_clientFinished.1 hbrings
    refine ⟨_, ⟨compatibility, hcompatibility, hvalid, rfl⟩, ?_⟩
    rw [hpending, List.flatten_append, List.flatten_singleton, List.flatMap_def]
  · rintro record _ ⟨compatibility, hcompatibility, hvalid, rfl⟩ input rest hclean hpending
    refine readRecords_clean (brings_clientFinished.2 ⟨compatibility, hcompatibility, hvalid, rfl⟩) hclean ?_
    rw [hpending, List.flatten_append, List.flatten_singleton, List.flatMap_def]

end BareProxy.Tls
