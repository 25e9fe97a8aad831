import BareProxy.Base.Stream

/-!
# Copying

`io::copy` from a source to a sink, cut at each call of `read` and `write_all`, so that several copies can take turns.
A source ends with its last event; one with an empty segment would seem to end before.
-/

namespace BareProxy

/-- What a copy does next. -/
inductive CopyPhase
  | reading
  | writing (bytes : Bytes)
  | ended (result : Except IoError Nat)
  deriving DecidableEq

structure Copy where
  reader : Source
  writer : Sink
  copied : Nat
  phase : CopyPhase
  deriving DecidableEq

namespace Copy

def bufferSize : Nat := 8 * 1024

def start (reader : Source) (writer : Sink) : Copy := ⟨reader, writer, 0, .reading⟩

def step (copy : Copy) : Copy :=
  match copy.phase with
  | .reading =>
      match Reader.read bufferSize copy.reader with
      | (.ok bytes, reader) =>
          if bytes = [] then { copy with reader, phase := .ended (.ok copy.copied) }
          else { copy with reader, phase := .writing bytes }
      | (.error error, reader) =>
          -- a read that was interrupted is started again
          if error.kind = .interrupted then { copy with reader, phase := .reading }
          else { copy with reader, phase := .ended (.error error) }
  | .writing bytes =>
      match copy.writer.writeAll bytes with
      | (.ok (), writer) => { copy with writer, copied := copy.copied + bytes.length, phase := .reading }
      | (.error error, writer) => { copy with writer, phase := .ended (.error error) }
  | .ended _ => copy

/-- What a step can do. -/
inductive Step : Copy → Copy → Prop
  | read {copy : Copy} {bytes : Bytes} {reader : Source} (hphase : copy.phase = .reading) (hne : bytes ≠ [])
      (h : Reader.read bufferSize copy.reader = (.ok bytes, reader)) :
      Step copy { copy with reader, phase := .writing bytes }
  | endOfInput {copy : Copy} {reader : Source} (hphase : copy.phase = .reading)
      (h : Reader.read bufferSize copy.reader = (.ok [], reader)) :
      Step copy { copy with reader, phase := .ended (.ok copy.copied) }
  | interrupted {copy : Copy} {error : IoError} {reader : Source} (hphase : copy.phase = .reading)
      (h : Reader.read bufferSize copy.reader = (.error error, reader)) :
      Step copy { copy with reader, phase := .reading }
  | readError {copy : Copy} {error : IoError} {reader : Source} (hphase : copy.phase = .reading)
      (h : Reader.read bufferSize copy.reader = (.error error, reader)) :
      Step copy { copy with reader, phase := .ended (.error error) }
  | write {copy : Copy} {bytes : Bytes} {writer : Sink} (hphase : copy.phase = .writing bytes)
      (h : copy.writer.writeAll bytes = (.ok (), writer)) :
      Step copy { copy with writer, copied := copy.copied + bytes.length, phase := .reading }
  | writeError {copy : Copy} {bytes : Bytes} {error : IoError} {writer : Sink} (hphase : copy.phase = .writing bytes)
      (h : copy.writer.writeAll bytes = (.error error, writer)) :
      Step copy { copy with writer, phase := .ended (.error error) }
  | ended {copy : Copy} {result : Except IoError Nat} (hphase : copy.phase = .ended result) : Step copy copy

theorem step_spec (copy : Copy) : Step copy copy.step := by
  rw [Copy.step]
  cases hphase : copy.phase with
  | reading =>
      rcases hread : Reader.read bufferSize copy.reader with ⟨error | bytes, reader⟩
      · dsimp only
        split
        · exact .interrupted hphase hread
        · exact .readError hphase hread
      · dsimp only
        split
        · rename_i hnil
          rw [hnil] at hread
          exact .endOfInput hphase hread
        · rename_i hne
          exact .read hphase hne hread
  | writing bytes =>
      dsimp only
      split
      · rename_i hwrite
        exact .write hphase hwrite
      · rename_i hwrite
        exact .writeError hphase hwrite
  | ended result => exact .ended hphase

def result? (copy : Copy) : Option (Except IoError Nat) :=
  match copy.phase with
  | .ended result => some result
  | _ => none

theorem result?_eq_some {copy : Copy} {result : Except IoError Nat} :
    copy.result? = some result ↔ copy.phase = .ended result := by
  rw [result?]
  split <;> simp_all

theorem step_of_ended {copy : Copy} {result : Except IoError Nat} (h : copy.result? = some result) :
    copy.step = copy := by
  rw [Copy.step, result?_eq_some.1 h]

theorem iterate_step_of_ended {copy : Copy} {result : Except IoError Nat} (h : copy.result? = some result) (n : Nat) :
    Copy.step^[n] copy = copy := Function.iterate_fixed (step_of_ended h) n

/-! ### What has been copied -/

section Invariant

variable {bytes : Bytes} {writer : Sink} {copy : Copy}

/-- The bytes that are copied are written, and the ones in flight are next. -/
structure Moved (bytes : Bytes) (writer : Sink) (copy : Copy) (inFlight : Bytes) : Prop where
  copied_le : copy.copied ≤ bytes.length
  written : copy.writer.written = writer.written ++ bytes.take copy.copied
  pending : bytes.drop copy.copied = inFlight ++ Reader.pending copy.reader

/-- How far a copy of these bytes to a sink has come. An error may lose the bytes in flight. -/
def Copies (bytes : Bytes) (writer : Sink) (copy : Copy) : Prop :=
  match copy.phase with
  | .reading => Moved bytes writer copy []
  | .writing inFlight => Moved bytes writer copy inFlight
  | .ended (.ok _) => Moved bytes writer copy []
  | .ended (.error _) => ∃ count, copy.writer.written = writer.written ++ bytes.take count

theorem copies_start (reader : Source) (writer : Sink) : Copies (Reader.pending reader) writer (start reader writer) :=
  ⟨Nat.zero_le _, by simp [start], rfl⟩

/-- A read puts bytes in flight. -/
theorem Moved.read {source : Source} {inFlight : Bytes} (h : Moved bytes writer copy [])
    (hread : Reader.pending copy.reader = inFlight ++ Reader.pending source) (phase : CopyPhase) :
    Moved bytes writer { copy with reader := source, phase } inFlight :=
  ⟨h.copied_le, h.written, by rw [h.pending, List.nil_append, hread]⟩

/-- A write lands them. -/
theorem Moved.write {sink : Sink} {inFlight : Bytes} (h : Moved bytes writer copy inFlight)
    (hwrite : sink.written = copy.writer.written ++ inFlight) :
    Moved bytes writer { copy with writer := sink, copied := copy.copied + inFlight.length, phase := .reading } [] where
  copied_le := by
    have hlength := congrArg List.length h.pending
    have := h.copied_le
    rw [List.length_drop, List.length_append] at hlength
    show copy.copied + inFlight.length ≤ bytes.length
    omega
  written := by
    have htake : (bytes.drop copy.copied).take inFlight.length = inFlight := by rw [h.pending, List.take_left]
    rw [hwrite, h.written, List.append_assoc, List.take_add, htake]
  pending := by rw [← List.drop_drop, h.pending, List.drop_left, List.nil_append]

theorem Copies.reading (h : Copies bytes writer copy) (hphase : copy.phase = .reading) :
    Moved bytes writer copy [] := by
  rwa [Copies, hphase] at h

theorem Copies.writing {inFlight : Bytes} (h : Copies bytes writer copy) (hphase : copy.phase = .writing inFlight) :
    Moved bytes writer copy inFlight := by
  rwa [Copies, hphase] at h

theorem Copies.step {next : Copy} (h : Copies bytes writer copy) (hstep : Step copy next) :
    Copies bytes writer next := by
  cases hstep with
  | read hphase hne hread => exact (h.reading hphase).read (Reader.read_ok hread).1 _
  | endOfInput hphase hread => exact (h.reading hphase).read (Reader.read_ok hread).1 _
  | interrupted hphase hread => exact (h.reading hphase).read (Reader.read_error hread).1 _
  | readError hphase hread => exact ⟨copy.copied, (h.reading hphase).written⟩
  | write hphase hwrite => exact (h.writing hphase).write (Sink.writeAll_ok hwrite)
  | @writeError inFlight _ _ hphase hwrite =>
      obtain ⟨count, hcount⟩ := Sink.writeAll_error hwrite
      obtain ⟨-, hwritten, hpending⟩ := h.writing hphase
      have htake : inFlight.take (min count inFlight.length) = inFlight.take count := List.take_eq_take_min.symm
      refine ⟨copy.copied + min count inFlight.length, ?_⟩
      rw [hcount, hwritten, List.append_assoc, List.take_add, hpending,
        List.take_append_of_le_length (Nat.min_le_right _ _), htake]
  | ended hphase => exact h

/-- What is written is what comes first. -/
theorem Copies.written (h : Copies bytes writer copy) :
    ∃ count, copy.writer.written = writer.written ++ bytes.take count := by
  rw [Copies] at h
  split at h
  · exact ⟨_, h.written⟩
  · exact ⟨_, h.written⟩
  · exact ⟨_, h.written⟩
  · exact h

/-- Where the source is cut off, the bytes are. -/
theorem Moved.cutOff {source : Source} {inFlight : Bytes} (h : Moved bytes writer copy inFlight)
    (hsource : Reader.pending source <+: Reader.pending copy.reader) :
    Moved (bytes.take copy.copied ++ (inFlight ++ Reader.pending source)) writer { copy with reader := source } inFlight ∧
      bytes.take copy.copied ++ (inFlight ++ Reader.pending source) <+: bytes := by
  have hlength : (bytes.take copy.copied).length = copy.copied := List.length_take_of_le h.copied_le
  refine ⟨⟨?_, ?_, ?_⟩, ?_⟩
  · rw [List.length_append, hlength]
    exact Nat.le_add_right _ _
  · rw [h.written, List.take_left' hlength]
  · rw [List.drop_left' hlength]
  · have hrest := List.take_append_drop copy.copied bytes
    rw [h.pending] at hrest
    obtain ⟨cut, hcut⟩ := hsource
    exact ⟨cut, by rw [List.append_assoc, List.append_assoc, hcut, hrest]⟩

theorem Copies.cutOff {source : Source} (h : Copies bytes writer copy)
    (hsource : Reader.pending source <+: Reader.pending copy.reader) :
    ∃ fewer, fewer <+: bytes ∧ Copies fewer writer { copy with reader := source } := by
  simp only [Copies] at h ⊢
  split at h
  · exact ⟨_, (h.cutOff hsource).2, (h.cutOff hsource).1⟩
  · exact ⟨_, (h.cutOff hsource).2, (h.cutOff hsource).1⟩
  · exact ⟨_, (h.cutOff hsource).2, (h.cutOff hsource).1⟩
  · exact ⟨bytes, List.prefix_rfl, h⟩

/-! ### The end -/

/-- A bound on the steps to come. -/
def remaining (copy : Copy) : Nat :=
  match copy.phase with
  | .reading => 2 * Reader.size copy.reader + 1
  | .writing _ => 2 * Reader.size copy.reader + 2
  | .ended _ => 0

theorem remaining_step {next : Copy} (h : Step copy next) (hcopy : copy.remaining ≠ 0) :
    next.remaining < copy.remaining := by
  cases h with
  | read hphase hne hread =>
      have := (Reader.read_ok hread).2.2 hne
      simp only [remaining, hphase]
      omega
  | endOfInput hphase => simp [remaining, hphase]
  | interrupted hphase hread =>
      have := (Reader.read_error hread).2
      simp only [remaining, hphase]
      omega
  | readError hphase => simp [remaining, hphase]
  | write hphase => simp [remaining, hphase]
  | writeError hphase => simp [remaining, hphase]
  | ended hphase => simp [remaining, hphase] at hcopy

theorem remaining_eq_zero : copy.remaining = 0 ↔ ∃ result, copy.result? = some result := by
  rw [remaining, result?]
  cases copy.phase <;> simp

theorem exists_result {n : Nat} (hn : copy.remaining ≤ n) : ∃ result, (Copy.step^[n] copy).result? = some result := by
  induction n generalizing copy with
  | zero => exact remaining_eq_zero.1 (Nat.le_zero.1 hn)
  | succ n ih =>
      apply ih
      by_cases hzero : copy.remaining = 0
      · obtain ⟨result, hresult⟩ := remaining_eq_zero.1 hzero
        rw [step_of_ended hresult, hzero]
        exact Nat.zero_le n
      · have := remaining_step (step_spec copy) hzero
        omega

/-- Once it has ended a copy stays as it is, so two ends are the same. -/
theorem iterate_eq_of_ended {m n : Nat} {result result' : Except IoError Nat}
    (hm : (Copy.step^[m] copy).result? = some result) (hn : (Copy.step^[n] copy).result? = some result') :
    Copy.step^[m] copy = Copy.step^[n] copy := by
  wlog hle : m ≤ n generalizing m n result result'
  · exact (this hn hm (Nat.le_of_not_le hle)).symm
  · obtain ⟨k, rfl⟩ := Nat.exists_eq_add_of_le' hle
    rw [Function.iterate_add_apply, iterate_step_of_ended hm]

/-- A copy until its end. -/
def all (reader : Source) (writer : Sink) : Copy := Copy.step^[2 * Reader.size reader + 1] (start reader writer)

theorem all_result (reader : Source) (writer : Sink) : ∃ result, (all reader writer).result? = some result :=
  exists_result (le_refl (start reader writer).remaining)

end Invariant

/-! ### Sources without empty segments -/

section Segmented

/-- No read of the source gives nothing before its end. -/
def Segmented (source : Source) : Prop := ∀ event ∈ source.events, event ≠ .data []

theorem segmented_read {n : Nat} {source source' : Source} {result : Except IoError Bytes} (h : Segmented source)
    (hread : Reader.read n source = (result, source')) :
    Segmented source' ∧ (result = .ok [] → n ≠ 0 → Reader.pending source' = []) := by
  obtain ⟨events⟩ := source
  have hread : Source.read n ⟨events⟩ = (result, source') := hread
  cases events with
  | nil =>
      cases hread
      exact ⟨h, fun _ _ => rfl⟩
  | cons event events =>
      obtain ⟨hevent, hevents⟩ := List.forall_mem_cons.1 h
      cases event with
      | error error =>
          cases hread
          exact ⟨hevents, fun hok => by cases hok⟩
      | data bytes =>
          rw [Source.read] at hread
          dsimp only at hread
          split at hread
          · cases hread
            exact ⟨hevents, fun hok _ => absurd (congrArg ReadEvent.data (Except.ok.inj hok)) hevent⟩
          · rename_i hlong
            cases hread
            refine ⟨List.forall_mem_cons.2 ⟨fun hdata => ?_, hevents⟩, fun hok hn => ?_⟩
            · exact hlong (List.drop_eq_nil_iff.1 (ReadEvent.data.inj hdata))
            · rcases List.take_eq_nil_iff.1 (Except.ok.inj hok) with hzero | hnil
              · exact absurd hzero hn
              · exact absurd (congrArg ReadEvent.data hnil) hevent

/-- Such a source is at its end when its copy ends without an error. -/
structure Intact (copy : Copy) : Prop where
  segmented : Segmented copy.reader
  drained : ∀ count, copy.phase = .ended (.ok count) → Reader.pending copy.reader = []

theorem intact_start {reader : Source} (h : Segmented reader) (writer : Sink) : Intact (start reader writer) :=
  ⟨h, fun _ hended => by cases hended⟩

theorem Intact.step {copy next : Copy} (h : Intact copy) (hstep : Step copy next) : Intact next := by
  cases hstep with
  | read hphase hne hread => exact ⟨(segmented_read h.segmented hread).1, fun _ hended => by cases hended⟩
  | endOfInput hphase hread =>
      obtain ⟨hsegmented, hend⟩ := segmented_read h.segmented hread
      exact ⟨hsegmented, fun _ _ => hend rfl (by decide)⟩
  | interrupted hphase hread => exact ⟨(segmented_read h.segmented hread).1, fun _ hended => by cases hended⟩
  | readError hphase hread => exact ⟨(segmented_read h.segmented hread).1, fun _ hended => by cases hended⟩
  | write hphase hwrite => exact ⟨h.segmented, fun _ hended => by cases hended⟩
  | writeError hphase hwrite => exact ⟨h.segmented, fun _ hended => by cases hended⟩
  | ended hphase => exact h

/-- A copy that ends without an error has written everything. -/
theorem written_of_ended {bytes : Bytes} {writer : Sink} {copy : Copy} {count : Nat} (h : Copies bytes writer copy)
    (hintact : Intact copy) (hended : copy.result? = some (.ok count)) :
    copy.writer.written = writer.written ++ bytes := by
  have hphase := result?_eq_some.1 hended
  rw [Copies, hphase] at h
  have hpending := h.pending
  rw [hintact.drained _ hphase, List.append_nil, List.drop_eq_nil_iff] at hpending
  rw [h.written, List.take_of_length_le hpending]

theorem iterate_written {reader : Source} {writer : Sink} {steps count : Nat} (h : Segmented reader)
    (hended : (Copy.step^[steps] (start reader writer)).result? = some (.ok count)) :
    (Copy.step^[steps] (start reader writer)).writer.written = writer.written ++ Reader.pending reader := by
  have hcopies := Function.Iterate.rec (Copies (Reader.pending reader) writer) (copies_start reader writer)
    (fun copy hcopy => hcopy.step (step_spec copy)) steps
  have hintact := Function.Iterate.rec Intact (intact_start h writer) (fun copy hcopy => hcopy.step (step_spec copy)) steps
  exact written_of_ended hcopies hintact hended

end Segmented

end Copy

end BareProxy
