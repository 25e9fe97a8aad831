import BareProxy.Base.Socket
import BareProxy.Tls.ErrorText
import BareProxy.Tls.RecordDecoders

/-!
# Records on a socket

What `tls_probe.rs` and `tls_client_probe.rs` do to read records from a socket. The two files have the same functions
with other texts, so the texts are a parameter here.
-/

namespace BareProxy.Tls

open Reader

def invalidData (message : String) : IoError := ⟨.invalidData, message⟩

/-- The texts in which the two probes differ. -/
structure ProbeTexts where
  oversizedRecord : Nat → String
  plaintextMismatch : String
  ciphertextMismatch : String

def tlsProbe : ProbeTexts where
  oversizedRecord fragmentLength :=
    "TLS probe received oversized record fragment of " ++ toString fragmentLength ++ " bytes"
  plaintextMismatch := "TLS probe expected exactly one complete plaintext record"
  ciphertextMismatch := "TLS probe expected exactly one complete ciphertext record"

def tlsClientProbe : ProbeTexts where
  oversizedRecord fragmentLength :=
    "TLS record fragment is " ++ toString fragmentLength ++ " bytes, exceeding the " ++
      toString tlsCiphertextFragmentLimit ++ "-byte transport limit"
  plaintextMismatch := "expected exactly one complete TLS plaintext record"
  ciphertextMismatch := "expected exactly one complete TLS ciphertext record"

namespace ProbeTexts

variable (texts : ProbeTexts) {ρ : Type} [Reader ρ] {σ α : Type}

def readWireRecord (stream : ρ) : Except IoError Bytes × ρ :=
  match readExact tlsRecordHeaderSize stream with
  | (.error error, stream) => (.error error, stream)
  | (.ok header, stream) =>
    let fragmentLength := ofBe ((header.drop 3).take 2)
    if fragmentLength > tlsCiphertextFragmentLimit then
      (.error (invalidData (texts.oversizedRecord fragmentLength)), stream)
    else match readExact fragmentLength stream with
      | (.error error, stream) => (.error error, stream)
      | (.ok fragment, stream) => (.ok (header ++ fragment), stream)

def decodePlaintextRecord (wire : Bytes) : Except IoError TlsPlaintextRecord :=
  match PlaintextRecordDecoder.push .new wire with
  | (.error error, _) => .error (invalidData error.text)
  | (.ok [record], []) => .ok record
  | (.ok _, _) => .error (invalidData texts.plaintextMismatch)

def decodeCiphertextRecord (wire : Bytes) : Except IoError TlsCiphertextRecord :=
  match CiphertextRecordDecoder.push .new wire with
  | (.error error, _) => .error (invalidData error.text)
  | (.ok [record], []) => .ok record
  | (.ok _, _) => .error (invalidData texts.ciphertextMismatch)

variable {texts}

/-! ### The bytes of one record -/

/-- A header and as many bytes as it announces, within the limit. -/
def IsWireRecord (wire : Bytes) : Prop :=
  wire.length = tlsRecordHeaderSize + ofBe ((wire.drop 3).take 2) ∧
    ofBe ((wire.drop 3).take 2) ≤ tlsCiphertextFragmentLimit

/-- What was read is one record off the front. -/
theorem readWireRecord_ok {stream stream' : ρ} {wire : Bytes} (h : texts.readWireRecord stream = (.ok wire, stream')) :
    IsWireRecord wire ∧ pending stream = wire ++ pending stream' ∧ size stream' < size stream := by
  rw [readWireRecord] at h
  split at h
  · cases h
  · rename_i header stream₁ hheader
    dsimp only at h
    split at h
    · cases h
    · rename_i hlimit
      split at h
      · cases h
      · rename_i fragment stream₂ hfragment
        cases h
        obtain ⟨hpending, hfive⟩ := readExact_ok hheader
        obtain ⟨hpending', hlength⟩ := readExact_ok hfragment
        have hfield : ((header ++ fragment).drop 3).take 2 = (header.drop 3).take 2 := (header_append hfive.ge _).2.2
        refine ⟨⟨?_, ?_⟩, ?_, ?_⟩
        · rw [hfield, List.length_append, hfive, hlength]
        · rw [hfield]
          exact Nat.not_lt.1 hlimit
        · rw [hpending, hpending', List.append_assoc]
        · have hfirst := readExact_ok_size hheader (by decide)
          by_cases hzero : ofBe ((header.drop 3).take 2) = 0
          · rw [hzero, readExact, if_pos rfl] at hfragment
            cases hfragment
            exact hfirst
          · exact Nat.lt_trans (readExact_ok_size hfragment (Nat.pos_of_ne_zero hzero)) hfirst

/-- A clean stream delivers the record at its front. -/
theorem readWireRecord_clean {stream : ρ} (hclean : Clean stream) {wire rest : Bytes} (hwire : IsWireRecord wire)
    (hpending : pending stream = wire ++ rest) :
    ∃ stream', texts.readWireRecord stream = (.ok wire, stream') ∧ Clean stream' ∧ pending stream' = rest := by
  obtain ⟨hlength, hlimit⟩ := hwire
  have hfive : tlsRecordHeaderSize ≤ wire.length := by omega
  have hheader : (wire.take tlsRecordHeaderSize).length = tlsRecordHeaderSize := List.length_take_of_le hfive
  have hfield : ((wire.take tlsRecordHeaderSize).drop 3).take 2 = (wire.drop 3).take 2 := by
    rw [← (header_append hheader.ge (wire.drop tlsRecordHeaderSize)).2.2, List.take_append_drop]
  have hbody : (wire.drop tlsRecordHeaderSize).length = ofBe ((wire.drop 3).take 2) := by
    rw [List.length_drop]
    omega
  rw [← List.take_append_drop tlsRecordHeaderSize wire, List.append_assoc] at hpending
  obtain ⟨stream₁, hclean₁, ⟨-, hread, hrest⟩ | ⟨hshort, -⟩⟩ := @readExact_clean ρ _ tlsRecordHeaderSize stream hclean
  · rw [hpending, List.take_left' hheader] at hread
    rw [hpending, List.drop_left' hheader] at hrest
    obtain ⟨stream₂, hclean₂, ⟨-, hread₂, hrest₂⟩ | ⟨hshort, -⟩⟩ :=
      @readExact_clean ρ _ (ofBe ((wire.drop 3).take 2)) stream₁ hclean₁
    · rw [hrest, List.take_left' hbody] at hread₂
      rw [hrest, List.drop_left' hbody] at hrest₂
      refine ⟨stream₂, ?_, hclean₂, hrest₂⟩
      rw [readWireRecord, hread]
      dsimp only
      rw [hfield, if_neg (Nat.not_lt.2 hlimit), hread₂]
      dsimp only
      rw [List.take_append_drop]
    · rw [hrest, List.length_append] at hshort
      omega
  · rw [hpending, List.length_append, hheader] at hshort
    omega

/-- At the end of a clean stream there is no record. -/
theorem readWireRecord_end {stream : ρ} (hclean : Clean stream) (hpending : pending stream = []) :
    ∃ stream', texts.readWireRecord stream = (.error failedToFill, stream') ∧ Clean stream' ∧ pending stream' = [] := by
  obtain ⟨stream', hclean', ⟨hle, -⟩ | ⟨-, hread, hrest⟩⟩ := @readExact_clean ρ _ tlsRecordHeaderSize stream hclean
  · rw [hpending] at hle
    exact absurd hle (by decide)
  · exact ⟨stream', by rw [readWireRecord, hread], hclean', hrest⟩

variable (texts) in
theorem readsPending_readWireRecord : Conversation.ReadsPending fun _ [Reader _] stream => texts.readWireRecord stream := by
  intro ρ _ stream hclean
  obtain ⟨stream₁, hclean₁, hread, hpending⟩ := Conversation.readsPending_readExact tlsRecordHeaderSize ρ stream hclean
  dsimp only at hread hpending ⊢
  rcases hslice : readExact tlsRecordHeaderSize (pending stream) with ⟨error | header, rest⟩
  · rw [hslice] at hread hpending
    refine ⟨stream₁, hclean₁, ?_, ?_⟩
    · rw [readWireRecord, hread, readWireRecord, hslice]
    · rw [hpending, readWireRecord, hslice]
  · rw [hslice] at hread hpending
    obtain ⟨stream₂, hclean₂, hread₂, hpending₂⟩ :=
      Conversation.readsPending_readExact (ofBe ((header.drop 3).take 2)) ρ stream₁ hclean₁
    dsimp only at hread₂ hpending₂ hpending
    rw [hpending] at hread₂ hpending₂
    by_cases hlimit : ofBe ((header.drop 3).take 2) > tlsCiphertextFragmentLimit
    · refine ⟨stream₁, hclean₁, ?_, ?_⟩
      · simp only [readWireRecord, hread, hslice, if_pos hlimit]
      · simp only [readWireRecord, hslice, if_pos hlimit, hpending]
    · rcases hslice₂ : readExact (ofBe ((header.drop 3).take 2)) rest with ⟨error | fragment, rest₂⟩
      · rw [hslice₂] at hread₂ hpending₂
        refine ⟨stream₂, hclean₂, ?_, ?_⟩
        · simp only [readWireRecord, hread, hslice, if_neg hlimit, hread₂, hslice₂]
        · simp only [readWireRecord, hslice, if_neg hlimit, hslice₂, hpending₂]
      · rw [hslice₂] at hread₂ hpending₂
        refine ⟨stream₂, hclean₂, ?_, ?_⟩
        · simp only [readWireRecord, hread, hslice, if_neg hlimit, hread₂, hslice₂]
        · simp only [readWireRecord, hslice, if_neg hlimit, hslice₂, hpending₂]

theorem readWireRecord_pending {stream stream' : ρ} (hclean : Clean stream) {result : Except IoError Bytes}
    (h : texts.readWireRecord stream = (result, stream')) :
    Clean stream' ∧ texts.readWireRecord (pending stream) = (result, pending stream') := by
  obtain ⟨stream₁, hclean₁, hread, hpending⟩ := texts.readsPending_readWireRecord ρ stream hclean
  dsimp only at hread hpending
  rw [h, Prod.mk.injEq] at hread
  obtain ⟨hresult, rfl⟩ := hread
  exact ⟨hclean₁, Prod.ext hresult.symm hpending.symm⟩

/-! ### Reading until a record brings a result -/

/-- The loops that read records: each record brings the result, or a state to go on with. -/
def readRecords (texts : ProbeTexts) (take : σ → Bytes → Except IoError (α ⊕ σ)) (state : σ) (stream : ρ) :
    Except IoError α × ρ :=
  match _h : texts.readWireRecord stream with
  | (.error error, stream') => (.error error, stream')
  | (.ok wire, stream') =>
    match take state wire with
    | .error error => (.error error, stream')
    | .ok (.inl value) => (.ok value, stream')
    | .ok (.inr state) => readRecords texts take state stream'
termination_by size stream
decreasing_by exact (readWireRecord_ok _h).2.2

variable {take : σ → Bytes → Except IoError (α ⊕ σ)} {state : σ}

theorem readRecords_eq (stream : ρ) :
    texts.readRecords take state stream = match texts.readWireRecord stream with
      | (.error error, stream') => (.error error, stream')
      | (.ok wire, stream') =>
        match take state wire with
        | .error error => (.error error, stream')
        | .ok (.inl value) => (.ok value, stream')
        | .ok (.inr state) => texts.readRecords take state stream' := by
  rw [readRecords]
  split
  · rename_i hread
    rw [hread]
  · rename_i hread
    rw [hread]

/-- Records of which the last one brings the result. -/
inductive Brings (take : σ → Bytes → Except IoError (α ⊕ σ)) (value : α) : σ → List Bytes → Prop
  | last {state : σ} {wire : Bytes} (hwire : IsWireRecord wire) (h : take state wire = .ok (.inl value)) :
      Brings take value state [wire]
  | next {state state' : σ} {wire : Bytes} {wires : List Bytes} (hwire : IsWireRecord wire)
      (h : take state wire = .ok (.inr state')) (hrest : Brings take value state' wires) :
      Brings take value state (wire :: wires)

/-- A loop that has a result took the records that bring it. -/
theorem readRecords_ok {stream stream' : ρ} {value : α}
    (h : texts.readRecords take state stream = (.ok value, stream')) :
    ∃ wires, Brings take value state wires ∧ pending stream = wires.flatten ++ pending stream' := by
  fun_induction readRecords texts take state stream with
  | case1 => cases h
  | case2 => cases h
  | case3 state stream wire stream₁ hread value' htake =>
    cases h
    obtain ⟨hwire, hpending, -⟩ := readWireRecord_ok hread
    exact ⟨[wire], .last hwire htake, by rw [hpending, List.flatten_singleton]⟩
  | case4 state stream wire stream₁ hread state' htake ih =>
    obtain ⟨wires, hbrings, hrest⟩ := ih h
    obtain ⟨hwire, hpending, -⟩ := readWireRecord_ok hread
    exact ⟨wire :: wires, .next hwire htake hbrings, by rw [hpending, hrest, List.flatten_cons, List.append_assoc]⟩

/-- On a clean stream the records at the front are enough. -/
theorem readRecords_clean {wires : List Bytes} {value : α} (h : Brings take value state wires) {stream : ρ}
    (hclean : Clean stream) {rest : Bytes} (hpending : pending stream = wires.flatten ++ rest) :
    ∃ stream', texts.readRecords take state stream = (.ok value, stream') ∧ Clean stream' ∧ pending stream' = rest := by
  induction h generalizing stream with
  | last hwire htake =>
    rw [List.flatten_singleton] at hpending
    obtain ⟨stream', hread, hclean', hrest⟩ := @readWireRecord_clean texts _ _ _ hclean _ _ hwire hpending
    exact ⟨stream', by rw [readRecords_eq, hread]; dsimp only; rw [htake], hclean', hrest⟩
  | next hwire htake hbrings ih =>
    rw [List.flatten_cons, List.append_assoc] at hpending
    obtain ⟨stream₁, hread, hclean₁, hrest⟩ := @readWireRecord_clean texts _ _ _ hclean _ _ hwire hpending
    obtain ⟨stream', hrun, hclean', hrest'⟩ := ih hclean₁ hrest
    exact ⟨stream', by rw [readRecords_eq, hread]; dsimp only; rw [htake]; exact hrun, hclean', hrest'⟩

variable (texts take state) in
theorem readsPending_readRecords :
    Conversation.ReadsPending fun _ [Reader _] stream => texts.readRecords take state stream := by
  intro ρ _ stream hclean
  dsimp only
  fun_induction readRecords texts take state stream with
  | case1 state stream error stream₁ hread =>
    obtain ⟨hclean₁, hslice⟩ := readWireRecord_pending hclean hread
    refine ⟨stream₁, hclean₁, ?_, ?_⟩
    all_goals rw [readRecords_eq, hslice]
  | case2 state stream wire stream₁ hread error htake =>
    obtain ⟨hclean₁, hslice⟩ := readWireRecord_pending hclean hread
    refine ⟨stream₁, hclean₁, ?_, ?_⟩
    all_goals simp only [readRecords_eq (pending stream), hslice, htake]
  | case3 state stream wire stream₁ hread value htake =>
    obtain ⟨hclean₁, hslice⟩ := readWireRecord_pending hclean hread
    refine ⟨stream₁, hclean₁, ?_, ?_⟩
    all_goals simp only [readRecords_eq (pending stream), hslice, htake]
  | case4 state stream wire stream₁ hread state' htake ih =>
    obtain ⟨hclean₁, hslice⟩ := readWireRecord_pending hclean hread
    obtain ⟨stream₂, hclean₂, hrun, hrest⟩ := ih hclean₁
    refine ⟨stream₂, hclean₂, ?_, ?_⟩
    · simp only [hrun, readRecords_eq (pending stream), hslice, htake]
    · simp only [hrest, readRecords_eq (pending stream), hslice, htake]

/-! ### Decoding one record -/

end ProbeTexts

/-- A plaintext record that the decoder accepts. -/
def TlsPlaintextRecord.IsValid (record : TlsPlaintextRecord) : Prop :=
  validatePlaintextFragment record.contentType record.fragment = .ok () ∧ record.legacyRecordVersion < 256 ^ 2

/-- A ciphertext record that the decoder accepts. -/
def TlsCiphertextRecord.IsValid (record : TlsCiphertextRecord) : Prop :=
  record.legacyRecordVersion = tlsLegacyRecordVersion ∧ record.encryptedRecord.length ≤ tlsCiphertextFragmentLimit

theorem length_fragment_of_valid {contentType : ContentType} {fragment : Bytes}
    (h : validatePlaintextFragment contentType fragment = .ok ()) : fragment.length ≤ tlsPlaintextFragmentLimit := by
  by_contra hlong
  rw [validatePlaintextFragment.eq_def, if_pos (Nat.not_le.1 hlong)] at h
  cases h

theorem header_wire (record : TlsPlaintextRecord) (more : Bytes) :
    (record.wire ++ more).getD 0 0 = record.contentType.code ∧
      ((record.wire ++ more).drop 1).take 2 = beBytes 2 record.legacyRecordVersion ∧
      ((record.wire ++ more).drop 3).take 2 = beBytes 2 record.fragment.length ∧
      (record.wire ++ more).drop tlsRecordHeaderSize = record.fragment ++ more := by
  obtain ⟨v0, v1, hversion⟩ := List.length_eq_two.1 (length_beBytes 2 record.legacyRecordVersion)
  obtain ⟨l0, l1, hlength⟩ := List.length_eq_two.1 (length_beBytes 2 record.fragment.length)
  rw [TlsPlaintextRecord.wire, hversion, hlength]
  exact ⟨rfl, rfl, rfl, rfl⟩

theorem length_wire (record : TlsPlaintextRecord) :
    record.wire.length = tlsRecordHeaderSize + record.fragment.length := by
  rw [TlsPlaintextRecord.wire, List.length_cons, List.length_append, List.length_append, length_beBytes, length_beBytes,
    tlsRecordHeaderSize]
  omega

namespace TlsPlaintextRecord.IsValid

variable {record : TlsPlaintextRecord}

theorem length_le (h : record.IsValid) : record.fragment.length ≤ tlsPlaintextFragmentLimit := length_fragment_of_valid h.1

theorem ofBe_length (h : record.IsValid) : ofBe (beBytes 2 record.fragment.length) = record.fragment.length := by
  rw [ofBe_beBytes, Nat.mod_eq_of_lt (Nat.lt_of_le_of_lt h.length_le (by decide))]

/-- A valid record is found where it was written. -/
theorem next_wire (h : record.IsValid) (more : Bytes) :
    plaintextFramer.next (record.wire ++ more) = .ok (some (record, more)) := by
  obtain ⟨htype, hversion, hlength, hrest⟩ := header_wire record more
  have hcount := length_wire record
  show nextPlaintextRecord (record.wire ++ more) = _
  apply nextPlaintextRecord_eq_some.2
  rw [htype, hversion, hlength, h.ofBe_length, ofBe_beBytes, Nat.mod_eq_of_lt h.2, List.drop_take, hrest,
    Nat.add_sub_cancel_left, List.take_left, List.length_append, hcount]
  refine ⟨by omega, ofCode_code _, h.length_le, by omega, h.1, rfl, rfl, ?_⟩
  rw [← List.drop_drop, hrest, List.drop_left]

theorem isWireRecord (h : record.IsValid) : ProbeTexts.IsWireRecord record.wire := by
  obtain ⟨-, -, hlength, -⟩ := header_wire record []
  rw [List.append_nil] at hlength
  rw [ProbeTexts.IsWireRecord, hlength, h.ofBe_length, length_wire]
  exact ⟨rfl, Nat.le_add_right_of_le h.length_le⟩

end TlsPlaintextRecord.IsValid

theorem TlsCiphertextRecord.IsValid.isWireRecord {record : TlsCiphertextRecord} (h : record.IsValid) :
    ProbeTexts.IsWireRecord record.serialize := by
  obtain ⟨l0, l1, hlength⟩ := List.length_eq_two.1 (length_beBytes 2 record.encryptedRecord.length)
  have hfield : (record.serialize.drop 3).take 2 = beBytes 2 record.encryptedRecord.length := by
    rw [serialize, header, ciphertextHeader, hlength]
    rfl
  have hcount : record.serialize.length = tlsRecordHeaderSize + record.encryptedRecord.length := by
    rw [serialize, header, ciphertextHeader, List.length_append, List.length_cons, List.length_append, length_beBytes,
      length_beBytes, tlsRecordHeaderSize]
  rw [ProbeTexts.IsWireRecord, hfield, ofBe_beBytes, Nat.mod_eq_of_lt (Nat.lt_of_le_of_lt h.2 (by decide))]
  exact ⟨hcount, h.2⟩

/-- One item, and nothing left. -/
theorem drain_eq_single {ε α : Type} {framer : Framer ε α} (hnew : framer.next [] = .ok none) {buffer : Bytes} {item : α} :
    framer.drain buffer = .ok ([item], []) ↔ framer.next buffer = .ok (some (item, [])) := by
  constructor
  · intro h
    rcases hnext : framer.next buffer with error | _ | ⟨first, rest⟩
    · rw [Framer.drain_of_error hnext] at h
      cases h
    · rw [Framer.drain_of_none hnext] at h
      cases h
    · rw [Framer.drain_of_some hnext] at h
      rcases hrest : framer.drain rest with error | ⟨more, left⟩
      · rw [hrest] at h
        cases h
      · rw [hrest] at h
        cases h
        -- whatever is left of a drained buffer without items is the buffer
        rcases hlast : framer.next rest with error | _ | ⟨second, rest'⟩
        · rw [Framer.drain_of_error hlast] at hrest
          cases hrest
        · rw [Framer.drain_of_none hlast] at hrest
          cases hrest
          rfl
        · rw [Framer.drain_of_some hlast] at hrest
          split at hrest
          · cases hrest
          · cases hrest
  · intro h
    rw [Framer.drain_of_some h, Framer.drain_of_none hnew]

namespace ProbeTexts

variable {texts : ProbeTexts} {wire : Bytes}

theorem decodePlaintextRecord_eq_ok {record : TlsPlaintextRecord} :
    texts.decodePlaintextRecord wire = .ok record ↔ record.IsValid ∧ wire = record.wire := by
  have hdecode : texts.decodePlaintextRecord wire = .ok record ↔ plaintextFramer.drain wire = .ok ([record], []) := by
    rw [decodePlaintextRecord, PlaintextRecordDecoder.push, PlaintextRecordDecoder.new, Framer.push, List.nil_append]
    rcases plaintextFramer.drain wire with error | ⟨records, rest⟩
    · simp
    · rcases records with _ | ⟨first, _ | ⟨second, more⟩⟩ <;> rcases rest with _ | ⟨b, rest⟩ <;> simp
  rw [hdecode, drain_eq_single rfl]
  constructor
  · intro h
    have hwire := nextPlaintextRecord_wire h
    obtain ⟨-, -, -, -, hvalid, hversion, -⟩ := nextPlaintextRecord_eq_some.1 h
    rw [List.append_nil] at hwire
    refine ⟨⟨hvalid, ?_⟩, hwire⟩
    rw [hversion]
    exact (ofBe_lt _).trans_le (Nat.pow_le_pow_right (by decide) (List.length_take_le _ _))
  · rintro ⟨hvalid, rfl⟩
    have hnext := hvalid.next_wire []
    rwa [List.append_nil] at hnext

theorem decodeCiphertextRecord_eq_ok {record : TlsCiphertextRecord} :
    texts.decodeCiphertextRecord wire = .ok record ↔ record.IsValid ∧ wire = record.serialize := by
  have hdecode : texts.decodeCiphertextRecord wire = .ok record ↔ ciphertextFramer.drain wire = .ok ([record], []) := by
    rw [decodeCiphertextRecord, CiphertextRecordDecoder.push, CiphertextRecordDecoder.new, Framer.push, List.nil_append]
    rcases ciphertextFramer.drain wire with error | ⟨records, rest⟩
    · simp
    · rcases records with _ | ⟨first, _ | ⟨second, more⟩⟩ <;> rcases rest with _ | ⟨b, rest⟩ <;> simp
  rw [hdecode, drain_eq_single rfl]
  constructor
  · intro h
    have hwire := nextCiphertextRecord_wire h
    rw [List.append_nil] at hwire
    refine ⟨?_, hwire⟩
    change nextCiphertextRecord wire = _ at h
    rw [nextCiphertextRecord] at h
    dsimp only at h
    split at h
    · cases h
    · split at h
      · cases h
      · split at h
        · cases h
        · rename_i hversion
          split at h
          · cases h
          · rename_i hlimit
            split at h
            · cases h
            · rename_i hrecord
              obtain ⟨rfl, -⟩ := Prod.mk.inj (Option.some.inj (Except.ok.inj h))
              refine ⟨not_not.1 hversion, ?_⟩
              dsimp only
              rw [List.length_drop, List.length_take, Nat.min_eq_left (Nat.not_lt.1 hrecord), Nat.add_sub_cancel_left]
              exact Nat.not_lt.1 hlimit
  · rintro ⟨hvalid, rfl⟩
    have hnext := nextCiphertextRecord_serialize hvalid.1 hvalid.2 []
    rwa [List.append_nil] at hnext

end ProbeTexts

end BareProxy.Tls
