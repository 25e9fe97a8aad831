import BareProxy.Tls.HandshakeWire

/-!
# Reassembly of handshake messages

`HandshakeDeframer` of `tls.rs` collects the fragments of handshake records and cuts them into messages. Its only
field is the bytes that do not make a whole message yet.
-/

namespace BareProxy.Tls

/-- One pass of the loop of `HandshakeDeframer::push_record`. -/
def nextHandshakeMessage (available : Bytes) : Except TlsRecordError (Option (Bytes × Bytes)) :=
  if available.length < handshakeHeaderSize then .ok none
  else
    let framedLength := handshakeHeaderSize + declaredLength available
    if available.length < framedLength then .ok none
    else .ok (some (available.take framedLength, available.drop framedLength))

/-- The length of a message does not change when more bytes follow. -/
theorem declaredLength_append {available : Bytes} (h : handshakeHeaderSize ≤ available.length) (more : Bytes) :
    declaredLength (available ++ more) = declaredLength available := by
  rw [handshakeHeaderSize] at h
  rw [declaredLength, declaredLength, List.drop_append_of_le_length (by omega),
    List.take_append_of_le_length (by rw [List.length_drop]; omega)]

theorem nextHandshakeMessage_shorter {buffer message rest : Bytes}
    (h : nextHandshakeMessage buffer = .ok (some (message, rest))) : rest.length < buffer.length := by
  rw [nextHandshakeMessage] at h
  split at h
  · cases h
  · dsimp only at h
    split at h
    · cases h
    · cases h
      rw [List.length_drop]
      simp only [handshakeHeaderSize] at *
      omega

theorem nextHandshakeMessage_more {buffer message rest : Bytes} (more : Bytes)
    (h : nextHandshakeMessage buffer = .ok (some (message, rest))) :
    nextHandshakeMessage (buffer ++ more) = .ok (some (message, rest ++ more)) := by
  rw [nextHandshakeMessage] at h ⊢
  split at h
  · cases h
  · rename_i hheader
    dsimp only at h ⊢
    split at h
    · cases h
    · rename_i hmessage
      cases h
      have hheader := Nat.not_lt.1 hheader
      have hmessage := Nat.not_lt.1 hmessage
      rw [declaredLength_append hheader, if_neg (by rw [List.length_append]; omega),
        if_neg (by rw [List.length_append]; omega), List.take_append_of_le_length hmessage,
        List.drop_append_of_le_length hmessage]

theorem nextHandshakeMessage_error {buffer : Bytes} {e : TlsRecordError} (more : Bytes)
    (h : nextHandshakeMessage buffer = .error e) : nextHandshakeMessage (buffer ++ more) = .error e := by
  rw [nextHandshakeMessage] at h
  split at h
  · cases h
  · dsimp only at h
    split at h
    · cases h
    · cases h

def handshakeFramer : Framer TlsRecordError Bytes where
  next := nextHandshakeMessage
  next_shorter := nextHandshakeMessage_shorter
  next_append := nextHandshakeMessage_more
  error_append := nextHandshakeMessage_error

abbrev HandshakeDeframer := Bytes

namespace HandshakeDeframer

def new : HandshakeDeframer := []

def pushRecord (deframer : HandshakeDeframer) (record : TlsPlaintextRecord) :
    Except TlsRecordError (List Bytes) × HandshakeDeframer :=
  if record.contentType ≠ .handshake then
    if deframer.isEmpty then (.ok [], deframer) else (.error (.interleavedHandshake record.contentType), deframer)
  else
    handshakeFramer.push deframer record.fragment

/-- Records with handshake data are fed to the framer. -/
theorem runAll_pushRecord {records : List TlsPlaintextRecord} (h : ∀ record ∈ records, record.contentType = .handshake)
    (deframer : HandshakeDeframer) :
    runAll pushRecord deframer records =
      runAll handshakeFramer.push deframer (records.map TlsPlaintextRecord.fragment) := by
  induction records generalizing deframer with
  | nil => rfl
  | cons record records ih =>
      have hpush : pushRecord deframer record = handshakeFramer.push deframer record.fragment :=
        if_neg (not_not.2 (h record List.mem_cons_self))
      have hrest := ih fun other hother => h other (List.mem_cons_of_mem _ hother)
      simp only [List.map_cons, runAll, hpush, hrest]

end HandshakeDeframer

/-- A message is found where it was encoded. -/
theorem nextHandshakeMessage_append {messageType : Byte} {body : Bytes} (h : body.length ≤ tlsUint24Max)
    (more : Bytes) :
    handshakeFramer.next (handshakeMessage messageType body ++ more) =
      .ok (some (handshakeMessage messageType body, more)) := by
  show nextHandshakeMessage (handshakeMessage messageType body ++ more) = _
  have hlength := length_handshakeMessage messageType body
  rw [nextHandshakeMessage, declaredLength_handshakeMessage h, if_neg (by rw [List.length_append, hlength]; omega)]
  dsimp only
  rw [if_neg (by rw [List.length_append, hlength]; omega), List.take_left' hlength, List.drop_left' hlength]

/-! ### Reassembly -/

/-- A header of four bytes whose length is that of the bytes after it. -/
def IsWholeMessage (message : Bytes) : Prop :=
  handshakeHeaderSize ≤ message.length ∧ message.length = handshakeHeaderSize + declaredLength message

/-- The beginning of a message: its header is not complete, or announces more bytes than there are. -/
def IsIncomplete (buffer : Bytes) : Prop :=
  buffer.length < handshakeHeaderSize ∨ buffer.length < handshakeHeaderSize + declaredLength buffer

theorem isWholeMessage_handshakeMessage {messageType : Byte} {body : Bytes} (h : body.length ≤ tlsUint24Max) :
    IsWholeMessage (handshakeMessage messageType body) := by
  have hlength := length_handshakeMessage messageType body
  have hdeclared := @declaredLength_alone messageType body h
  exact ⟨by omega, by omega⟩

theorem nextHandshakeMessage_eq_none {buffer : Bytes} :
    nextHandshakeMessage buffer = .ok none ↔ IsIncomplete buffer := by
  rw [nextHandshakeMessage, IsIncomplete]
  split
  · rename_i hheader
    exact ⟨fun _ => Or.inl hheader, fun _ => rfl⟩
  · rename_i hheader
    dsimp only
    split
    · rename_i hmessage
      exact ⟨fun _ => Or.inr hmessage, fun _ => rfl⟩
    · rename_i hmessage
      constructor
      · intro h
        cases h
      · rintro (h | h)
        · exact absurd h hheader
        · exact absurd h hmessage

theorem nextHandshakeMessage_of_isWholeMessage {message : Bytes} (h : IsWholeMessage message) (more : Bytes) :
    handshakeFramer.next (message ++ more) = .ok (some (message, more)) := by
  obtain ⟨hheader, hlength⟩ := h
  show nextHandshakeMessage (message ++ more) = _
  rw [nextHandshakeMessage, declaredLength_append hheader, ← hlength, if_neg (by rw [List.length_append]; omega)]
  dsimp only
  rw [if_neg (by rw [List.length_append]; omega), List.take_left, List.drop_left]

/-- The framer never rejects what it is fed. -/
theorem drain_handshakeFramer_isOk (buffer : Bytes) :
    ∃ messages rest, handshakeFramer.drain buffer = .ok (messages, rest) := by
  fun_induction Framer.drain handshakeFramer buffer with
  | case1 buffer e hnext =>
      replace hnext : nextHandshakeMessage buffer = .error e := hnext
      rw [nextHandshakeMessage] at hnext
      split at hnext
      · cases hnext
      · dsimp only at hnext
        split at hnext
        · cases hnext
        · cases hnext
  | case2 buffer hnext => exact ⟨[], buffer, rfl⟩
  | case3 buffer message rest hnext e hdrain ih =>
      obtain ⟨messages, rest', hrest⟩ := ih
      rw [hdrain] at hrest
      cases hrest
  | case4 buffer message rest hnext messages rest' hdrain ih => exact ⟨message :: messages, rest', rfl⟩

namespace HandshakeDeframer

/-- What one record does to the buffer: a record of another type finds it empty, or is rejected and leaves it alone. -/
theorem pushRecord_cases (deframer : HandshakeDeframer) (record : TlsPlaintextRecord) :
    (record.contentType ≠ .handshake ∧ deframer = [] ∧ pushRecord deframer record = (.ok [], deframer)) ∨
      (record.contentType ≠ .handshake ∧ deframer ≠ [] ∧
        pushRecord deframer record = (.error (.interleavedHandshake record.contentType), deframer)) ∨
      (record.contentType = .handshake ∧ ∃ messages rest,
        handshakeFramer.drain (deframer ++ record.fragment) = .ok (messages, rest) ∧
          pushRecord deframer record = (.ok messages, rest)) := by
  rw [pushRecord]
  split
  · rename_i htype
    split
    · rename_i hempty
      exact Or.inl ⟨htype, List.isEmpty_iff.1 hempty, rfl⟩
    · rename_i hbuffer
      exact Or.inr (Or.inl ⟨htype, fun h => hbuffer (List.isEmpty_iff.2 h), rfl⟩)
  · rename_i htype
    obtain ⟨messages, rest, hdrain⟩ := drain_handshakeFramer_isOk (deframer ++ record.fragment)
    exact Or.inr (Or.inr ⟨not_not.1 htype, messages, rest, hdrain, by rw [Framer.push, hdrain]⟩)

/-- Between two records the buffer holds the beginning of a message and no more. -/
theorem isIncomplete_stateAfter (records : List TlsPlaintextRecord) :
    IsIncomplete (stateAfter pushRecord new records) := by
  apply stateAfter_invariant
  · intro deframer record hdeframer
    obtain ⟨-, -, hpush⟩ | ⟨-, -, hpush⟩ | ⟨-, messages, rest, hdrain, hpush⟩ := pushRecord_cases deframer record
    · rw [hpush]
      exact hdeframer
    · rw [hpush]
      exact hdeframer
    · rw [hpush]
      exact nextHandshakeMessage_eq_none.1 (Framer.next_of_drain hdrain)
  · exact Or.inl (by decide)

/-- Messages come out as they were put in, however their bytes were cut into records; and in every run a record that
must not come in between is refused and changes nothing. -/
theorem pushRecord_reassembles :
    (∀ (messages : List Bytes) (tail : Bytes) (records : List TlsPlaintextRecord),
      (∀ message ∈ messages, IsWholeMessage message) → IsIncomplete tail →
      (∀ record ∈ records, record.contentType = .handshake ∧ record.fragment ≠ [] ∧
        record.fragment.length ≤ tlsPlaintextFragmentLimit) →
      (records.map TlsPlaintextRecord.fragment).flatten = messages.flatten ++ tail →
      ∃ batches, runAll pushRecord new records = (.ok batches, tail) ∧ batches.flatten = messages) ∧
    (∀ (records : List TlsPlaintextRecord) (record : TlsPlaintextRecord),
      let deframer := stateAfter pushRecord new records
      IsIncomplete deframer ∧
      ((pushRecord deframer record).1.isOk = true → record.contentType ≠ .handshake → deframer = []) ∧
      (∀ error, (pushRecord deframer record).1 = .error error → (pushRecord deframer record).2 = deframer)) := by
  constructor
  · intro messages tail records hmessages htail hrecords hstream
    have hnext : ∀ message ∈ messages, ∀ more, handshakeFramer.next (id message ++ more) = .ok (some (message, more)) :=
      fun message hmessage more => nextHandshakeMessage_of_isWholeMessage (hmessages message hmessage) more
    have hdrain := Framer.drain_flatMap hnext (nextHandshakeMessage_eq_none.2 htail)
    rw [List.flatMap_id, ← hstream, ← List.nil_append (List.flatten _)] at hdrain
    rw [runAll_pushRecord fun record hrecord => (hrecords record hrecord).1]
    have hnew : handshakeFramer.next [] = .ok none := rfl
    exact Framer.runAll_push hnew hdrain
  · intro records record deframer
    refine ⟨isIncomplete_stateAfter records, ?_⟩
    obtain ⟨-, hempty, hpush⟩ | ⟨-, -, hpush⟩ | ⟨htype, messages, rest, -, hpush⟩ := pushRecord_cases deframer record
    · rw [hpush]
      exact ⟨fun _ _ => hempty, fun error herror => rfl⟩
    · rw [hpush]
      exact ⟨fun hok => absurd hok (by simp [Except.isOk, Except.toBool]), fun error herror => rfl⟩
    · rw [hpush]
      exact ⟨fun _ hother => absurd htype hother, fun error herror => by cases herror⟩

/-- A message of seven bytes cut inside its header, and the first byte of the next one. -/
theorem pushRecord_reassembles_finished :
    ∃ batches, runAll pushRecord new [⟨.handshake, 0x0303, [20, 0]⟩, ⟨.handshake, 0x0303, [0, 3, 7, 8, 9, 11]⟩] =
        (.ok batches, [11]) ∧ batches.flatten = [handshakeMessage handshakeTypeFinished [7, 8, 9]] :=
  pushRecord_reassembles.1 [handshakeMessage handshakeTypeFinished [7, 8, 9]] [11]
    [⟨.handshake, 0x0303, [20, 0]⟩, ⟨.handshake, 0x0303, [0, 3, 7, 8, 9, 11]⟩]
    (by
      intro message hmessage
      rw [List.mem_singleton.1 hmessage]
      exact isWholeMessage_handshakeMessage (by decide))
    (Or.inl (by decide)) (by decide) (by decide)

end HandshakeDeframer

end BareProxy.Tls
