import BareProxy.Base.Endian
import BareProxy.Tls.Record

/-!
# The two record decoders

`PlaintextRecordDecoder` and `CiphertextRecordDecoder` of `tls.rs` give the records of a stream however it is cut into
pushes, and a decoder that has failed fails the same way ever after.
-/

namespace BareProxy.Tls

/-! ### Plaintext records on the wire -/

/-- The header and the fragment. -/
def TlsPlaintextRecord.wire (record : TlsPlaintextRecord) : Bytes :=
  record.contentType.code :: (beBytes 2 record.legacyRecordVersion ++
    (beBytes 2 record.fragment.length ++ record.fragment))

def TlsPlaintextRecord.serialize (record : TlsPlaintextRecord) : Except TlsRecordError Bytes := do
  validatePlaintextFragment record.contentType record.fragment
  ensure (record.contentType ≠ .applicationData) .unprotectedApplicationData
  return record.wire

/-- One pass of the loop of `PlaintextRecordDecoder::push`. -/
def nextPlaintextRecord (available : Bytes) : Except TlsRecordError (Option (TlsPlaintextRecord × Bytes)) :=
  if available.length < tlsRecordHeaderSize then .ok none
  else
    match ContentType.ofCode (available.getD 0 0) with
    | none => .error (.unknownContentType (available.getD 0 0))
    | some contentType =>
      let legacyRecordVersion := ofBe ((available.drop 1).take 2)
      let fragmentLength := ofBe ((available.drop 3).take 2)
      if fragmentLength > tlsPlaintextFragmentLimit then
        .error (.recordOverflow fragmentLength tlsPlaintextFragmentLimit)
      else
        let recordLength := tlsRecordHeaderSize + fragmentLength
        if available.length < recordLength then .ok none
        else
          let fragment := (available.take recordLength).drop tlsRecordHeaderSize
          match validatePlaintextFragment contentType fragment with
          | .error error => .error error
          | .ok () => .ok (some ({ contentType, legacyRecordVersion, fragment }, available.drop recordLength))

theorem ContentType.code_of_ofCode {value : Byte} {contentType : ContentType} (h : ofCode value = some contentType) :
    contentType.code = value := by
  rw [ofCode] at h
  split at h
  · cases h
    exact Eq.symm ‹_›
  · split at h
    · cases h
      exact Eq.symm ‹_›
    · split at h
      · cases h
        exact Eq.symm ‹_›
      · split at h
        · cases h
          exact Eq.symm ‹_›
        · cases h

/-- What a record at the front of the buffer is made of. -/
theorem nextPlaintextRecord_eq_some {available rest : Bytes} {record : TlsPlaintextRecord} :
    nextPlaintextRecord available = .ok (some (record, rest)) ↔
      tlsRecordHeaderSize ≤ available.length ∧
      ContentType.ofCode (available.getD 0 0) = some record.contentType ∧
      ofBe ((available.drop 3).take 2) ≤ tlsPlaintextFragmentLimit ∧
      tlsRecordHeaderSize + ofBe ((available.drop 3).take 2) ≤ available.length ∧
      validatePlaintextFragment record.contentType record.fragment = .ok () ∧
      record.legacyRecordVersion = ofBe ((available.drop 1).take 2) ∧
      record.fragment =
        (available.take (tlsRecordHeaderSize + ofBe ((available.drop 3).take 2))).drop tlsRecordHeaderSize ∧
      rest = available.drop (tlsRecordHeaderSize + ofBe ((available.drop 3).take 2)) := by
  rw [nextPlaintextRecord]
  constructor
  · intro h
    split at h
    · cases h
    · rename_i hheader
      split at h
      · cases h
      · rename_i contentType htype
        dsimp only at h
        split at h
        · cases h
        · rename_i hlimit
          split at h
          · cases h
          · rename_i hlength
            split at h
            · cases h
            · rename_i hvalid
              cases h
              exact ⟨Nat.not_lt.1 hheader, htype, Nat.not_lt.1 hlimit, Nat.not_lt.1 hlength, hvalid, rfl, rfl, rfl⟩
  · obtain ⟨contentType, version, fragment⟩ := record
    intro hfacts
    obtain ⟨hheader, htype, hlimit, hlength, hvalid, hversion, hfragment, rfl⟩ := hfacts
    dsimp only at htype hvalid hversion hfragment
    subst hversion hfragment
    rw [if_neg (Nat.not_lt.2 hheader), htype]
    dsimp only
    rw [if_neg (Nat.not_lt.2 hlimit), if_neg (Nat.not_lt.2 hlength), hvalid]

theorem nextPlaintextRecord_shorter {buffer rest : Bytes} {record : TlsPlaintextRecord}
    (h : nextPlaintextRecord buffer = .ok (some (record, rest))) : rest.length < buffer.length := by
  obtain ⟨-, -, -, hlength, -, -, -, rfl⟩ := nextPlaintextRecord_eq_some.1 h
  rw [List.length_drop]
  simp only [tlsRecordHeaderSize] at *
  omega

theorem nextPlaintextRecord_more {buffer rest : Bytes} {record : TlsPlaintextRecord} (more : Bytes)
    (h : nextPlaintextRecord buffer = .ok (some (record, rest))) :
    nextPlaintextRecord (buffer ++ more) = .ok (some (record, rest ++ more)) := by
  obtain ⟨hheader, htype, hlimit, hlength, hvalid, hversion, hfragment, rfl⟩ := nextPlaintextRecord_eq_some.1 h
  obtain ⟨htype', hversion', hlength'⟩ := header_append hheader more
  apply nextPlaintextRecord_eq_some.2
  rw [htype', hversion', hlength', List.length_append, List.take_append_of_le_length hlength,
    List.drop_append_of_le_length hlength]
  exact ⟨Nat.le_add_right_of_le hheader, htype, hlimit, Nat.le_add_right_of_le hlength, hvalid, hversion, hfragment,
    rfl⟩

theorem nextPlaintextRecord_error {buffer : Bytes} {e : TlsRecordError} (more : Bytes)
    (h : nextPlaintextRecord buffer = .error e) : nextPlaintextRecord (buffer ++ more) = .error e := by
  rw [nextPlaintextRecord] at h ⊢
  split at h
  · cases h
  · rename_i hheader
    obtain ⟨htype, hversion, hlength⟩ := header_append (Nat.not_lt.1 hheader) more
    rw [htype, hversion, hlength, if_neg (by rw [List.length_append]; omega)]
    cases hcontent : ContentType.ofCode (buffer.getD 0 0) with
    | none =>
      rw [hcontent] at h
      exact h
    | some contentType =>
      rw [hcontent] at h
      dsimp only at h ⊢
      split at h
      · rw [if_pos ‹_›]
        exact h
      · split at h
        · cases h
        · rename_i hlimit hrecord
          have hle := Nat.not_lt.1 hrecord
          rw [if_neg hlimit, if_neg (by rw [List.length_append]; omega), List.take_append_of_le_length hle]
          cases hvalid : validatePlaintextFragment contentType
            ((buffer.take (tlsRecordHeaderSize + ofBe ((buffer.drop 3).take 2))).drop tlsRecordHeaderSize) with
          | error error =>
            rw [hvalid] at h
            exact h
          | ok =>
            rw [hvalid] at h
            cases h

def plaintextFramer : Framer TlsRecordError TlsPlaintextRecord where
  next := nextPlaintextRecord
  next_shorter := nextPlaintextRecord_shorter
  next_append := nextPlaintextRecord_more
  error_append := nextPlaintextRecord_error

/-- `PlaintextRecordDecoder` with its only field, the bytes that do not make a whole record yet. -/
abbrev PlaintextRecordDecoder := Bytes

namespace PlaintextRecordDecoder

def new : PlaintextRecordDecoder := []

def push (decoder : PlaintextRecordDecoder) (input : Bytes) :
    Except TlsRecordError (List TlsPlaintextRecord) × PlaintextRecordDecoder :=
  plaintextFramer.push decoder input

end PlaintextRecordDecoder

/-! ### What was found is what was there -/

/-- The header of a buffer, field by field, and what follows. -/
theorem eq_header {buffer : Bytes} (h : tlsRecordHeaderSize ≤ buffer.length) :
    buffer = buffer.getD 0 0 :: ((buffer.drop 1).take 2 ++ ((buffer.drop 3).take 2 ++
      buffer.drop tlsRecordHeaderSize)) := by
  match buffer with
  | _ :: _ :: _ :: _ :: _ :: _ => rfl

/-- A record of this length ends where the next one starts. -/
theorem eq_record {buffer : Bytes} {length : Nat} (h : tlsRecordHeaderSize + length ≤ buffer.length) :
    buffer = buffer.getD 0 0 :: ((buffer.drop 1).take 2 ++ ((buffer.drop 3).take 2 ++
      ((buffer.take (tlsRecordHeaderSize + length)).drop tlsRecordHeaderSize ++
        buffer.drop (tlsRecordHeaderSize + length)))) := by
  have hbody : buffer.drop tlsRecordHeaderSize =
      (buffer.take (tlsRecordHeaderSize + length)).drop tlsRecordHeaderSize ++
        buffer.drop (tlsRecordHeaderSize + length) := by
    rw [List.drop_take, Nat.add_sub_cancel_left, ← List.drop_drop, List.take_append_drop]
  rw [← hbody]
  exact eq_header (Nat.le_of_add_right_le h)

theorem beBytes_field {buffer : Bytes} {start : Nat} (h : start + 2 ≤ buffer.length) :
    beBytes 2 (ofBe ((buffer.drop start).take 2)) = (buffer.drop start).take 2 := by
  have hlength : ((buffer.drop start).take 2).length = 2 := by
    rw [List.length_take, List.length_drop]
    omega
  have hfield := beBytes_ofBe ((buffer.drop start).take 2)
  rwa [hlength] at hfield

theorem nextPlaintextRecord_wire {buffer rest : Bytes} {record : TlsPlaintextRecord}
    (h : plaintextFramer.next buffer = .ok (some (record, rest))) : buffer = record.wire ++ rest := by
  obtain ⟨hheader, htype, -, hlength, -, hversion, hfragment, rfl⟩ := nextPlaintextRecord_eq_some.1 h
  have hfive : 5 ≤ buffer.length := hheader
  have hlengthField : beBytes 2 record.fragment.length = (buffer.drop 3).take 2 := by
    have hcount : record.fragment.length = ofBe ((buffer.drop 3).take 2) := by
      rw [hfragment, List.length_drop, List.length_take, Nat.min_eq_left hlength, Nat.add_sub_cancel_left]
    rw [hcount, beBytes_field (by omega)]
  rw [TlsPlaintextRecord.wire, ContentType.code_of_ofCode htype, hlengthField, hversion, beBytes_field (by omega),
    hfragment]
  simp only [List.cons_append, List.append_assoc]
  exact eq_record hlength

theorem nextCiphertextRecord_wire {buffer rest : Bytes} {record : TlsCiphertextRecord}
    (h : ciphertextFramer.next buffer = .ok (some (record, rest))) : buffer = record.serialize ++ rest := by
  change nextCiphertextRecord buffer = _ at h
  rw [nextCiphertextRecord] at h
  split at h
  · cases h
  · rename_i hheader
    have hfive : 5 ≤ buffer.length := Nat.not_lt.1 hheader
    dsimp only at h
    split at h
    · cases h
    · rename_i htype
      split at h
      · cases h
      · split at h
        · cases h
        · split at h
          · cases h
          · rename_i hrecord
            cases h
            have hlength := Nat.not_lt.1 hrecord
            have hcount : ((buffer.take (tlsRecordHeaderSize + ofBe ((buffer.drop 3).take 2))).drop
                tlsRecordHeaderSize).length = ofBe ((buffer.drop 3).take 2) := by
              rw [List.length_drop, List.length_take, Nat.min_eq_left hlength, Nat.add_sub_cancel_left]
            rw [TlsCiphertextRecord.serialize, TlsCiphertextRecord.header, ciphertextHeader, hcount,
              beBytes_field (by omega), beBytes_field (by omega), ← not_not.1 htype]
            simp only [List.cons_append, List.append_assoc]
            exact eq_record hlength

/-- A record that the decoder gave serializes to its encoding, unless it is application data. -/
theorem TlsPlaintextRecord.serialize_of_next {buffer rest : Bytes} {record : TlsPlaintextRecord}
    (h : plaintextFramer.next buffer = .ok (some (record, rest))) (htype : record.contentType ≠ .applicationData) :
    record.serialize = .ok record.wire := by
  obtain ⟨-, -, -, -, hvalid, -⟩ := nextPlaintextRecord_eq_some.1 h
  rw [serialize, hvalid, ok_bind, ensure_of htype]
  rfl

/-- Both decoders give the records of a stream however it is cut, their encodings and what is buffered are the stream,
and the first error stays. The encoding of a plaintext record is what `serialize` gives, which refuses application
data. -/
theorem recordDecoders_decodeStream :
    DecodesStream PlaintextRecordDecoder.push PlaintextRecordDecoder.new TlsPlaintextRecord.wire ∧
    (∀ pieces batches decoder,
      runAll PlaintextRecordDecoder.push PlaintextRecordDecoder.new pieces = (.ok batches, decoder) →
        ∀ record ∈ batches.flatten, record.contentType ≠ .applicationData → record.serialize = .ok record.wire) ∧
    DecodesStream CiphertextRecordDecoder.push CiphertextRecordDecoder.new TlsCiphertextRecord.serialize := by
  refine ⟨Framer.decodesStream rfl nextPlaintextRecord_wire, ?_, Framer.decodesStream rfl nextCiphertextRecord_wire⟩
  intro pieces batches decoder h record hrecord htype
  have hdrain := Framer.drain_of_runAll_push (rfl : plaintextFramer.next [] = .ok none) h
  exact Framer.forall_of_drain
    (P := fun record => record.contentType ≠ .applicationData → record.serialize = .ok record.wire)
    (fun hnext => TlsPlaintextRecord.serialize_of_next hnext) hdrain record hrecord htype

end BareProxy.Tls
