import BareProxy.Http.Parse
import BareProxy.Server.KeepAlive

/-!
# Reading a request head from segments

`read_request_head` parses again after every read. Once the blank line is there the parser's answer no
longer changes, and before that it asks for more, with one exception: a request line of exactly the
largest accepted size is rejected when a read ends between its CR and its LF. So the answer is the same
for every segmentation of the stream exactly when that cannot happen to a request that would be accepted.
-/

namespace BareProxy.Server

open Http Proxy Reader

/-! ### The parser on a growing input -/

/-- Before the blank line is complete the parser asks for more, unless the input ends between the CR and
the LF of a request line of the largest size. -/
theorem parse_incomplete {buffer more : Bytes} {request : Request} {consumed requestLineEnd headerEnd : Nat}
    (hends : HeadEnds (buffer ++ more) request consumed requestLineEnd headerEnd)
    (hshort : buffer.length < consumed)
    (hcut : requestLineEnd ≠ maxRequestLineSize ∨ buffer.length ≠ maxRequestLineSize + 1) :
    parseRequestWithConsumed buffer = .error .incompleteHeaders := by
  have hconsumed := hends.consumed
  have hblank : findBytes buffer crlfCrlf = none := by
    cases hfound : findBytes buffer crlfCrlf with
    | none => rfl
    | some index =>
      have hindex : findBytes (buffer ++ more) crlfCrlf = some index := indexOfSub_append_left more hfound
      have hle : index + 4 ≤ buffer.length := add_length_le_of_indexOfSub hfound
      rw [hends.blankLine] at hindex
      cases hindex
      omega
  have hbound := hends.consumed_le
  have hline := hends.line_le
  cases hfound : findBytes buffer crlf with
  | none =>
    have hlt : buffer.length < requestLineEnd + 2 := lt_of_indexOfSub_append hfound hends.crlf
    have hle : ¬ buffer.length > maxRequestLineSize := by omega
    simp only [parseRequestWithConsumed, hfound, if_neg hle]
  | some index =>
    have hindex : findBytes (buffer ++ more) crlf = some index := indexOfSub_append_left more hfound
    rw [hends.crlf] at hindex
    cases hindex
    have hle : ¬ requestLineEnd > maxRequestLineSize := by omega
    have hlt : ¬ buffer.length ≥ maxRequestHeadSize := by omega
    simp only [parseRequestWithConsumed, hfound, hblank, if_neg hle, if_neg hlt]

/-- Once the blank line is there the parser gives its answer. -/
theorem parse_complete {buffer more : Bytes} {request : Request} {consumed requestLineEnd headerEnd : Nat}
    (hparse : parseRequestWithConsumed (buffer ++ more) = .ok (request, consumed))
    (hends : HeadEnds (buffer ++ more) request consumed requestLineEnd headerEnd)
    (hlong : consumed ≤ buffer.length) : parseRequestWithConsumed buffer = .ok (request, consumed) := by
  have hblank : findBytes ((buffer ++ more).take buffer.length) crlfCrlf = some headerEnd := by
    apply indexOfSub_take hends.blankLine
    have hconsumed : consumed = headerEnd + crlfCrlf.length := hends.consumed
    omega
  rw [List.take_left] at hblank
  rw [← hparse, parseRequestWithConsumed_append hblank]

/-- At that cut it gives up. -/
theorem parse_cut {buffer more : Bytes} (hline : findBytes (buffer ++ more) crlf = some maxRequestLineSize)
    (hcut : buffer.length = maxRequestLineSize + 1) :
    parseRequestWithConsumed buffer = .error .requestLineTooLong := by
  have hnone : findBytes buffer crlf = none := by
    cases hfound : findBytes buffer crlf with
    | none => rfl
    | some index =>
      have hindex : findBytes (buffer ++ more) crlf = some index := indexOfSub_append_left more hfound
      have hle : index + 2 ≤ buffer.length := add_length_le_of_indexOfSub hfound
      rw [hline] at hindex
      cases hindex
      omega
  have hlong : buffer.length > maxRequestLineSize := by omega
  simp only [parseRequestWithConsumed, hnone, if_pos hlong]

/-! ### The reader -/

/-- What a caller of `read_request_head` can tell apart: a failure, the end of the stream before a
request, or a request with the length of its head. -/
inductive HeadOutcome
  | failed
  | closed
  | received (request : Request) (headLength : Nat)
  deriving DecidableEq, Repr

def headOutcome : Except IoError (Option ReceivedRequest) → HeadOutcome
  | .error _ => .failed
  | .ok none => .closed
  | .ok (some received) => .received received.request (received.bytesRead - received.bufferedBody.length)

variable {ρ : Type} [Reader ρ]

/-- While the parser asks for more, a block that is read is added to the buffer. -/
theorem readRequestHead_step {reader reader' : ρ} {buffer bytes : Bytes}
    (hparse : parseRequestWithConsumed buffer = .error .incompleteHeaders)
    (hshort : buffer.length < maxRequestHeadSize)
    (hread : read (min (maxRequestHeadSize - buffer.length) readChunkSize) reader = (.ok bytes, reader'))
    (hne : bytes ≠ []) : readRequestHead reader buffer = readRequestHead reader' (buffer ++ bytes) := by
  rw [readRequestHead, hparse]
  simp only [ne_eq, not_true, if_false, if_neg (Nat.not_le.2 hshort)]
  split
  · rename_i e reader'' herror
    rw [hread] at herror
    cases herror
  · rename_i bytes' reader'' hok
    rw [hread] at hok
    cases hok
    rw [dif_neg hne]

theorem readLimit_pos {buffer : Bytes} (hshort : buffer.length < maxRequestHeadSize) :
    0 < min (maxRequestHeadSize - buffer.length) readChunkSize := by
  rw [readChunkSize]
  omega

/-- A request is received only as the parser reads it from the whole stream. -/
theorem headOutcome_received {reader : ρ} {buffer : Bytes} {request : Request} {headLength : Nat}
    (h : headOutcome (readRequestHead reader buffer).1 = .received request headLength) :
    parseRequestWithConsumed (buffer ++ pending reader) = .ok (request, headLength) := by
  cases hread : readRequestHead reader buffer with
  | mk result reader' =>
    rw [hread] at h
    rcases result with e | _ | received
    · cases h
    · cases h
    · cases h
      obtain ⟨head, hparse, hpending, hbytes, -⟩ := readRequestHead_ok hread
      obtain ⟨_, _, hends⟩ := parseRequestWithConsumed_ok hparse
      rw [hpending, parseRequestWithConsumed_append hends.blankLine, hparse, hbytes, List.length_append]
      simp

/-- The end of the stream is reported before a request exactly when there was nothing to read. -/
theorem headOutcome_closed {reader : ρ} (hclean : Clean reader) {buffer : Bytes} :
    headOutcome (readRequestHead reader buffer).1 = .closed ↔ buffer ++ pending reader = [] := by
  fun_induction readRequestHead reader buffer with
  | case1 reader buffer request consumed hparse =>
    obtain ⟨_, _, hends⟩ := parseRequestWithConsumed_ok hparse
    have hlength := hends.consumed_le_length
    have hconsumed := hends.consumed
    have hne : buffer ≠ [] := by
      intro hnil
      rw [hnil, List.length_nil] at hlength
      omega
    simp [headOutcome, hne]
  | case2 reader buffer error hparse hother =>
    have hne : buffer ≠ [] := by
      intro hnil
      rw [hnil] at hparse
      cases hparse
      exact hother rfl
    simp [headOutcome, hne]
  | case3 reader buffer error hparse hincomplete hlong =>
    have hne : buffer ≠ [] := by
      intro hnil
      rw [hnil] at hlong
      exact absurd hlong (by decide)
    simp [headOutcome, hne]
  | case4 reader buffer error hparse hincomplete hshort capacity limit e reader' hread =>
    obtain ⟨bytes, reader'', hok, -⟩ := read_clean (n := limit) hclean (readLimit_pos (Nat.not_le.1 hshort))
    rw [hread] at hok
    cases hok
  | case5 reader buffer error hparse hincomplete hshort capacity limit reader' hempty hread =>
    obtain ⟨bytes, reader'', hok, -, hend⟩ :=
      read_clean (n := limit) hclean (readLimit_pos (Nat.not_le.1 hshort))
    rw [hread] at hok
    cases hok
    have hnil : buffer = [] := by simpa using hempty
    simp [headOutcome, hnil, hend rfl]
  | case6 reader buffer error hparse hincomplete hshort capacity limit reader' hnonempty hread =>
    have hne : buffer ≠ [] := by simpa using hnonempty
    simp [headOutcome, hne]
  | case7 reader buffer error hparse hincomplete hshort capacity limit bytes reader' hread hbytes ih =>
    obtain ⟨bytes', reader'', hok, hclean', -⟩ :=
      read_clean (n := limit) hclean (readLimit_pos (Nat.not_le.1 hshort))
    rw [hread] at hok
    cases hok
    rw [ih hclean', (read_ok hread).1, List.append_assoc]

/-- A request that the whole stream holds is received, when the cut that rejects it can no longer
come. -/
theorem headOutcome_of_ok {reader : ρ} (hclean : Clean reader) {buffer : Bytes} {request : Request}
    {consumed requestLineEnd headerEnd : Nat}
    (hparse : parseRequestWithConsumed (buffer ++ pending reader) = .ok (request, consumed))
    (hends : HeadEnds (buffer ++ pending reader) request consumed requestLineEnd headerEnd)
    (hcut : requestLineEnd ≠ maxRequestLineSize ∨ maxRequestLineSize + 1 < buffer.length) :
    headOutcome (readRequestHead reader buffer).1 = .received request consumed := by
  induction hsize : (pending reader).length using Nat.strong_induction_on generalizing reader buffer with
  | _ n ih =>
    rcases Nat.lt_or_ge buffer.length consumed with hlt | hge
    · have hincomplete := parse_incomplete hends hlt (by omega)
      have hpending : pending reader ≠ [] := by
        intro hnil
        have hlength := hends.consumed_le_length
        rw [hnil, List.append_nil] at hlength
        omega
      have hbound := hends.consumed_le
      have hshort : buffer.length < maxRequestHeadSize := by omega
      obtain ⟨bytes, reader', hread, hclean', hend⟩ := read_clean hclean (readLimit_pos hshort)
      have hne : bytes ≠ [] := fun hnil => hpending (hend hnil)
      have hsplit := (read_ok hread).1
      have hpos : 0 < bytes.length := List.length_pos_iff.2 hne
      rw [hsplit, ← List.append_assoc] at hparse hends
      rw [readRequestHead_step hincomplete hshort hread hne]
      apply ih (pending reader').length ?_ hclean' hparse hends ?_ rfl
      · rw [← hsize, hsplit, List.length_append]
        omega
      · rw [List.length_append]
        omega
    · have hcomplete := parse_complete hparse hends hge
      rw [readRequestHead, hcomplete]
      simp only [headOutcome, List.length_drop]
      congr 1
      omega

/-- A read takes at least two bytes of a segment that has them. -/
theorem read_segment {segment : Bytes} {n : Nat} (hsegment : 4 ≤ segment.length) (hn : 2 ≤ n) :
    ∃ bytes reader', read n (Source.ofSegments [segment]) = (.ok bytes, reader') ∧ 2 ≤ bytes.length := by
  show ∃ bytes reader', Source.read n (Source.ofSegments [segment]) = (.ok bytes, reader') ∧ 2 ≤ bytes.length
  simp only [Source.read, Source.ofSegments, List.map_cons, List.map_nil]
  split
  · exact ⟨_, _, rfl, by omega⟩
  · refine ⟨_, _, rfl, ?_⟩
    rw [List.length_take]
    omega

/-! ### The cut -/

/-- The stream holds a request whose line has exactly the largest accepted size, and the LF of that line
is still to be read. -/
def CutCanReject (buffered stream : Bytes) : Prop :=
  findBytes (buffered ++ stream) crlf = some maxRequestLineSize ∧ buffered.length ≤ maxRequestLineSize ∧
    ∃ request headLength, parseRequestWithConsumed (buffered ++ stream) = .ok (request, headLength)

/-- Every byte in a segment of its own. -/
def singly (stream : Bytes) : List Bytes := stream.map fun b => [b]

@[simp] theorem flatten_singly (stream : Bytes) : (singly stream).flatten = stream := by
  induction stream with
  | nil => rfl
  | cons b stream ih => simpa [singly] using ih

/-- Byte by byte up to the end of `stream`, as long as the parser asks for more at each of them. -/
theorem readRequestHead_singly {buffer stream : Bytes} {segments : List Bytes}
    (hincomplete : ∀ k < stream.length,
      parseRequestWithConsumed (buffer ++ stream.take k) = .error .incompleteHeaders ∧
        buffer.length + k < maxRequestHeadSize) :
    readRequestHead (Source.ofSegments (singly stream ++ segments)) buffer =
      readRequestHead (Source.ofSegments segments) (buffer ++ stream) := by
  induction stream generalizing buffer with
  | nil => simp [singly]
  | cons b stream ih =>
    obtain ⟨hparse, hshort⟩ := hincomplete 0 (by simp)
    rw [List.take_zero, List.append_nil] at hparse
    have hlimit := readLimit_pos hshort
    have hread : read (min (maxRequestHeadSize - buffer.length) readChunkSize)
        (Source.ofSegments (singly (b :: stream) ++ segments)) =
          (.ok [b], Source.ofSegments (singly stream ++ segments)) := by
      show Source.read _ _ = _
      simp only [Source.read, Source.ofSegments, singly, List.map_cons, List.cons_append, List.length_singleton]
      rw [if_pos (by omega)]
    rw [readRequestHead_step hparse hshort hread (by simp), ih]
    · rw [List.append_assoc, List.singleton_append]
    · intro k hk
      have hnext := hincomplete (k + 1) (by simpa using hk)
      rw [List.take_succ_cons] at hnext
      rw [List.append_assoc, List.singleton_append, List.length_append, List.length_singleton]
      exact ⟨hnext.1, by omega⟩

/-- Up to the end of the request line the parser asks for more. -/
theorem CutCanReject.incomplete {buffered stream : Bytes} (h : CutCanReject buffered stream) {k : Nat}
    (hk : buffered.length + k ≤ maxRequestLineSize) :
    parseRequestWithConsumed (buffered ++ stream.take k) = .error .incompleteHeaders ∧
      buffered.length + k < maxRequestHeadSize := by
  obtain ⟨hline, -, request, consumed, hparse⟩ := h
  obtain ⟨requestLineEnd, headerEnd, hends⟩ := parseRequestWithConsumed_ok hparse
  have hlineEnd : requestLineEnd = maxRequestLineSize := by
    have heq := hends.crlf
    rw [hline] at heq
    exact (Option.some.inj heq).symm
  have hconsumed := hends.consumed
  have horder := hends.order
  have hlength : (buffered ++ stream.take k).length ≤ buffered.length + k := by
    rw [List.length_append, List.length_take]
    omega
  refine ⟨?_, by rw [maxRequestHeadSize]; omega⟩
  have hsplit : buffered ++ stream = (buffered ++ stream.take k) ++ stream.drop k := by
    rw [List.append_assoc, List.take_append_drop]
  rw [hsplit] at hends
  exact parse_incomplete hends (by omega) (Or.inr (by omega))

theorem CutCanReject.length_le {buffered stream : Bytes} (h : CutCanReject buffered stream) :
    maxRequestLineSize + 4 ≤ buffered.length + stream.length := by
  obtain ⟨hline, -, request, consumed, hparse⟩ := h
  obtain ⟨requestLineEnd, headerEnd, hends⟩ := parseRequestWithConsumed_ok hparse
  have heq := hends.crlf
  rw [hline] at heq
  cases heq
  have hlength := hends.consumed_le_length
  have hconsumed := hends.consumed
  have horder := hends.order
  rw [List.length_append] at hlength
  omega

/-- Byte by byte, the parser sees such a request cut off right after the CR, and rejects it. -/
theorem headOutcome_singly {buffered stream : Bytes} (h : CutCanReject buffered stream) :
    headOutcome (readRequestHead (Source.ofSegments (singly stream)) buffered).1 = .failed := by
  have hlength := h.length_le
  have hbuffered := h.2.1
  obtain ⟨first, hfirst⟩ : ∃ first, first = maxRequestLineSize + 1 - buffered.length := ⟨_, rfl⟩
  have hsingly : singly stream = singly (stream.take first) ++ singly (stream.drop first) := by
    simp only [singly, ← List.map_append, List.take_append_drop]
  have hcut : parseRequestWithConsumed (buffered ++ stream.take first) = .error .requestLineTooLong := by
    have hline := h.1
    rw [← List.take_append_drop first stream, ← List.append_assoc] at hline
    apply parse_cut hline
    rw [List.length_append, List.length_take]
    omega
  rw [hsingly, readRequestHead_singly, readRequestHead, hcut]
  · rfl
  · intro k hk
    rw [List.length_take] at hk
    rw [List.take_take, Nat.min_eq_left (by omega)]
    exact h.incomplete (by omega)

/-- Read in one block from the CR on, the request is accepted. -/
theorem headOutcome_jump {buffered stream : Bytes} (h : CutCanReject buffered stream) :
    ∃ segments request headLength, (∀ segment ∈ segments, segment ≠ []) ∧ segments.flatten = stream ∧
      headOutcome (readRequestHead (Source.ofSegments segments) buffered).1 = .received request headLength := by
  have hlength := h.length_le
  have hbuffered := h.2.1
  obtain ⟨request, consumed, hparse⟩ := h.2.2
  obtain ⟨requestLineEnd, headerEnd, hends⟩ := parseRequestWithConsumed_ok hparse
  obtain ⟨first, hfirst⟩ : ∃ first, first = maxRequestLineSize - buffered.length := ⟨_, rfl⟩
  obtain ⟨rest, hrest⟩ : ∃ rest, rest = stream.drop first := ⟨_, rfl⟩
  have hrestLength : 4 ≤ rest.length := by
    rw [hrest, List.length_drop]
    omega
  have hne : rest ≠ [] := by
    intro hnil
    rw [hnil] at hrestLength
    simp at hrestLength
  refine ⟨singly (stream.take first) ++ [rest], request, consumed, ?_, ?_, ?_⟩
  · intro segment hsegment
    rcases List.mem_append.1 hsegment with hsegment | hsegment
    · obtain ⟨b, -, rfl⟩ := List.mem_map.1 hsegment
      simp
    · rw [List.mem_singleton.1 hsegment]
      exact hne
  · rw [List.flatten_append, flatten_singly, hrest]
    simp
  · have hincomplete := h.incomplete (k := first) (by omega)
    have hlineLength : (buffered ++ stream.take first).length = maxRequestLineSize := by
      rw [List.length_append, List.length_take]
      omega
    rw [readRequestHead_singly]
    · have hclean : Clean (Source.ofSegments [rest]) := Source.clean_ofSegments (by simpa using hne)
      have hlimit : 2 ≤ min (maxRequestHeadSize - (buffered ++ stream.take first).length) readChunkSize := by
        rw [hlineLength]
        decide
      obtain ⟨bytes, reader', hread, htwo⟩ := read_segment hrestLength hlimit
      obtain ⟨bytes', reader'', hread', hclean', -⟩ := read_clean hclean (lt_of_lt_of_le (by decide) hlimit)
      rw [hread] at hread'
      cases hread'
      have hsplit : buffered ++ stream = (buffered ++ stream.take first ++ bytes) ++ pending reader' := by
        have hpending := (read_ok hread).1
        rw [Source.pending_ofSegments, List.flatten_singleton, hrest] at hpending
        rw [List.append_assoc, ← hpending, List.append_assoc, List.take_append_drop]
      rw [readRequestHead_step hincomplete.1 (by rw [hlineLength]; decide) hread
        (List.ne_nil_of_length_pos (by omega))]
      rw [hsplit] at hparse hends
      refine headOutcome_of_ok hclean' hparse hends (Or.inr ?_)
      rw [List.length_append, hlineLength]
      omega
    · intro k hk
      rw [List.length_take] at hk
      rw [List.take_take, Nat.min_eq_left (by omega)]
      exact h.incomplete (by omega)

/-- Whether `read_request_head` gives the same outcome however the stream is cut. -/
def SegmentationIrrelevant (buffered stream : Bytes) : Prop :=
  ∀ left right : List Bytes, (∀ segment ∈ left, segment ≠ []) → (∀ segment ∈ right, segment ≠ []) →
    left.flatten = stream → right.flatten = stream →
    headOutcome (readRequestHead (Source.ofSegments left) buffered).1 =
      headOutcome (readRequestHead (Source.ofSegments right) buffered).1

/-- Such a request is accepted or rejected as the stream is cut. -/
theorem CutCanReject.segmentationRelevant {buffered stream : Bytes} (h : CutCanReject buffered stream) :
    ¬ SegmentationIrrelevant buffered stream := by
  intro hsame
  obtain ⟨segments, request, headLength, hne, hflatten, hreceived⟩ := headOutcome_jump h
  have hsingly : ∀ segment ∈ singly stream, segment ≠ [] := by
    intro segment hsegment
    obtain ⟨b, -, rfl⟩ := List.mem_map.1 hsegment
    simp
  have heq := hsame segments (singly stream) hne hsingly hflatten (flatten_singly stream)
  rw [hreceived, headOutcome_singly h] at heq
  cases heq

/-- The outcome when such a request is not there: what the parser says of the whole stream. -/
theorem headOutcome_eq {reader : ρ} (hclean : Clean reader) {buffered stream : Bytes} (hpending : pending reader = stream)
    (h : ¬ CutCanReject buffered stream) :
    headOutcome (readRequestHead reader buffered).1 =
      if buffered ++ stream = [] then .closed
      else if findBytes (buffered ++ stream) crlf = some maxRequestLineSize ∧
          buffered.length = maxRequestLineSize + 1 then .failed
      else match parseRequestWithConsumed (buffered ++ stream) with
        | .ok (request, headLength) => .received request headLength
        | .error _ => .failed := by
  subst hpending
  split
  · rename_i hempty
    exact (headOutcome_closed hclean).2 hempty
  · rename_i hnonempty
    split
    · rename_i hcut
      rw [readRequestHead, parse_cut hcut.1 hcut.2]
      rfl
    · rename_i hcut
      split
      · rename_i request headLength hparse
        obtain ⟨requestLineEnd, headerEnd, hends⟩ := parseRequestWithConsumed_ok hparse
        refine headOutcome_of_ok hclean hparse hends ?_
        by_cases hline : requestLineEnd = maxRequestLineSize
        · right
          have hcrlf : findBytes (buffered ++ pending reader) crlf = some maxRequestLineSize := by
            rw [hends.crlf, hline]
          have hnotShort : ¬ buffered.length ≤ maxRequestLineSize := fun hle => h ⟨hcrlf, hle, _, _, hparse⟩
          have hnotCut : buffered.length ≠ maxRequestLineSize + 1 := fun heq => hcut ⟨hcrlf, heq⟩
          omega
        · exact Or.inl hline
      · rename_i error hparse
        cases houtcome : headOutcome (readRequestHead reader buffered).1 with
        | failed => rfl
        | closed => exact absurd ((headOutcome_closed hclean).1 houtcome) hnonempty
        | received request headLength =>
          rw [headOutcome_received houtcome] at hparse
          cases hparse

/-- The outcome of `read_request_head` is the same for every segmentation of the stream exactly when the
stream holds no request whose line has the largest accepted size and ends after the carried bytes. -/
theorem readRequestHead_segmentation (buffered stream : Bytes) :
    SegmentationIrrelevant buffered stream ↔ ¬ CutCanReject buffered stream := by
  constructor
  · intro hsame hcut
    exact hcut.segmentationRelevant hsame
  · intro hcut left right hleft hright hleftStream hrightStream
    rw [headOutcome_eq (Source.clean_ofSegments hleft) (by rw [Source.pending_ofSegments, hleftStream]) hcut,
      headOutcome_eq (Source.clean_ofSegments hright) (by rw [Source.pending_ofSegments, hrightStream]) hcut]

/-! ### A request line of 8192 bytes -/

/-- A target that fills a request line up to the limit. -/
def longTarget : Bytes := ascii "/" ++ List.replicate 8178 97

def longLine : Bytes := ascii "GET " ++ longTarget ++ ascii " HTTP/1.1"

def longStream : Bytes := longLine ++ crlf ++ crlf

theorem longLine_length : longLine.length = maxRequestLineSize := by
  simp only [longLine, longTarget, List.length_append, List.length_replicate]
  rfl

theorem longTarget_valid : ∀ b ∈ longTarget, b < 128 ∧ (!isAsciiControl b && b != 32) = true := by
  intro b hb
  rcases List.mem_append.1 hb with hb | hb
  · rw [List.mem_singleton.1 hb]
    decide
  · rw [(List.mem_replicate.1 hb).2]
    decide

theorem parseRequestLine_longLine : parseRequestLine longLine = .ok (ascii "GET", longTarget, .http11) := by
  have hascii : isAscii longLine = true := by
    have hget : isAscii (ascii "GET ") = true := by decide
    have htarget : isAscii longTarget = true :=
      List.all_eq_true.2 fun b hb => by simpa using (longTarget_valid b hb).1
    have hversion : isAscii (ascii " HTTP/1.1") = true := by decide
    simp only [isAscii] at hget htarget hversion ⊢
    rw [longLine, List.all_append, List.all_append, hget, htarget, hversion]
    rfl
  have hspace : (32 : Byte) ∉ longTarget := fun hmem => by simpa using (longTarget_valid 32 hmem).2
  have hsplit : longLine.splitOn 32 = [ascii "GET", longTarget, ascii "HTTP/1.1"] := by
    have hjoin : longLine = List.intercalate [32] [ascii "GET", longTarget, ascii "HTTP/1.1"] := by
      simp only [longLine, List.intercalate_cons_cons, List.intercalate_singleton, List.append_assoc]
      rfl
    rw [hjoin, List.splitOn_intercalate]
    · intro part hpart
      simp only [List.mem_cons, List.not_mem_nil, or_false] at hpart
      rcases hpart with rfl | rfl | rfl
      · decide
      · exact hspace
      · decide
    · simp
  have htarget : isValidTarget longTarget = true :=
    List.all_eq_true.2 fun b hb => (longTarget_valid b hb).2
  have hne : longTarget.isEmpty = false := rfl
  simp only [parseRequestLine, validUtf8_of_isAscii hascii, hsplit, htarget, hne]
  rfl

/-- A request line without headers is a request. -/
theorem parseRequestWithConsumed_line {line method target : Bytes} {version : HttpVersion}
    (hparse : parseRequestLine line = .ok (method, target, version)) (hlength : line.length ≤ maxRequestLineSize) :
    findBytes (line ++ crlf ++ crlf) crlf = some line.length ∧
      ∃ request headLength, parseRequestWithConsumed (line ++ crlf ++ crlf) = .ok (request, headLength) := by
  obtain ⟨hline, hisLine⟩ := parseRequestLine_ok hparse
  have hcrlf : findBytes (line ++ crlf ++ crlf) crlf = some line.length := indexOfSub_crlf_line hisLine crlf
  have hlines : line ++ crlf ++ crlf = unlines [line] ++ crlf := by simp
  have hblank : findBytes (line ++ crlf ++ crlf) crlfCrlf = some line.length := by
    have hend : (unlines [line] ++ crlf).length - 4 = line.length := by simp [crlf]
    rw [hlines, ← hend]
    refine indexOfSub_crlfCrlf_unlines (by simp) ?_
    intro line' hmem
    rw [List.mem_singleton.1 hmem]
    exact ⟨hisLine, by rw [hline]; simp [ascii]⟩
  have htake : (line ++ crlf ++ crlf).take line.length = line := by rw [List.append_assoc, List.take_left]
  refine ⟨hcrlf, ?_⟩
  simp only [parseRequestWithConsumed, hcrlf, hblank, if_neg (Nat.not_lt.2 hlength), lt_irrefl, gt_iff_lt, if_false,
    parseRequestHead, headerBlock, if_true, htake, hparse]
  exact ⟨_, _, rfl⟩

theorem cutCanReject_longStream : CutCanReject [] longStream := by
  obtain ⟨hcrlf, hrequest⟩ := parseRequestWithConsumed_line parseRequestLine_longLine longLine_length.le
  rw [longLine_length] at hcrlf
  exact ⟨hcrlf, Nat.zero_le _, hrequest⟩

/-- A request line of 8192 bytes is accepted or rejected as its bytes arrive. -/
theorem readRequestHead_longStream : ¬ SegmentationIrrelevant [] longStream :=
  cutCanReject_longStream.segmentationRelevant

end BareProxy.Server
