import BareProxy.Proxy.ResponseStarted

/-!
# Reading a stream that ends without an error

On a clean reader, however it cuts its stream into reads, the head search and the body streamers do what
the stream says. The streamers of known length and the copy to the end have a closed form; the chunked
streamer does what it does on the stream as one slice.
-/

namespace BareProxy.Proxy

open Http Reader

variable {ρ : Type} [Reader ρ]

/-! ### Heads -/

/-- The head at the front of a stream, as `read_response_head` finds it. -/
def responseHeadOf (stream : Bytes) : Except ProxyError Bytes :=
  match findBytes (stream.take maxResponseHeadSize) crlfCrlf with
  | some headerEnd =>
    match validateResponseHeadSyntax (stream.take (headerEnd + 4)) with
    | .error e => .error e
    | .ok () => .ok (stream.take (headerEnd + 4))
  | none => .error (if stream = [] then .emptyResponse else .incompleteResponse)

theorem responseHeadOf_found {buffer more : Bytes} {headerEnd : Nat} (hle : buffer.length ≤ maxResponseHeadSize)
    (h : findBytes buffer crlfCrlf = some headerEnd) :
    responseHeadOf (buffer ++ more) = match validateResponseHeadSyntax (buffer.take (headerEnd + 4)) with
      | .error e => .error e
      | .ok () => .ok (buffer.take (headerEnd + 4)) := by
  have hend : headerEnd + 4 ≤ buffer.length := add_length_le_of_indexOfSub h
  have hfind : findBytes ((buffer ++ more).take maxResponseHeadSize) crlfCrlf = some headerEnd := by
    rw [List.take_append, List.take_of_length_le hle]
    exact indexOfSub_append_left _ h
  rw [responseHeadOf, hfind]
  dsimp only
  rw [List.take_append_of_le_length hend]

theorem headReadLimit_pos {buffer : Bytes} (h : ¬buffer.length ≥ maxResponseHeadSize) :
    0 < min (maxResponseHeadSize - buffer.length) streamBufferSize := by
  have : streamBufferSize = 16384 := rfl
  omega

theorem readResponseHead_keepsClean {upstream upstream' : ρ} {buffer : Bytes}
    {result : Except ProxyError (Bytes × Bytes)} (hclean : Clean upstream)
    (h : readResponseHead upstream buffer = (result, upstream')) : Clean upstream' := by
  have hread := fun buffer hshort bytes upstream upstream' hclean =>
    @read_clean_ok ρ _ _ upstream upstream' bytes hclean (@headReadLimit_pos buffer hshort)
  have herror := fun buffer hshort e upstream upstream' hclean =>
    @read_clean_ne_error ρ _ _ upstream upstream' e hclean (@headReadLimit_pos buffer hshort)
  fun_induction readResponseHead upstream buffer <;> grind

/-- The search finds what the whole stream says, wherever the reads cut it. -/
theorem readResponseHead_clean {upstream : ρ} {buffer : Bytes} (hclean : Clean upstream)
    (hle : buffer.length ≤ maxResponseHeadSize) :
    ∃ upstream', Clean upstream' ∧
      match responseHeadOf (buffer ++ pending upstream) with
      | .error e => readResponseHead upstream buffer = (.error e, upstream')
      | .ok head => ∃ rest, readResponseHead upstream buffer = (.ok (head, rest), upstream') := by
  fun_induction readResponseHead upstream buffer with
  | case1 upstream buffer headerEnd hfound bodyStart e hvalid =>
    refine ⟨upstream, hclean, ?_⟩
    rw [responseHeadOf_found hle hfound, hvalid]
  | case2 upstream buffer headerEnd hfound bodyStart hvalid =>
    refine ⟨upstream, hclean, ?_⟩
    rw [responseHeadOf_found hle hfound, hvalid]
    exact ⟨_, rfl⟩
  | case3 upstream buffer hnone hfull =>
    have htake : (buffer ++ pending upstream).take maxResponseHeadSize = buffer := by
      rw [List.take_append_of_le_length hfull, List.take_of_length_le hle]
    have hne : buffer ++ pending upstream ≠ [] := by
      intro hnil
      rw [List.append_eq_nil_iff] at hnil
      rw [hnil.1] at hfull
      simp [maxResponseHeadSize] at hfull
    refine ⟨upstream, hclean, ?_⟩
    rw [responseHeadOf, htake, hnone, if_neg hne]
  | case4 upstream buffer hnone hshort capacity limit e upstream₁ hread =>
    exact absurd hread (read_clean_ne_error hclean (headReadLimit_pos hshort))
  | case5 upstream buffer hnone hshort capacity limit upstream₁ hempty hread =>
    obtain ⟨hclean₁, hend⟩ := read_clean_ok hclean (headReadLimit_pos hshort) hread
    refine ⟨upstream₁, hclean₁, ?_⟩
    rw [hend rfl, List.append_nil, responseHeadOf, List.take_of_length_le hle, hnone,
      if_pos (List.isEmpty_iff.1 hempty)]
  | case6 upstream buffer hnone hshort capacity limit upstream₁ hempty hread =>
    obtain ⟨hclean₁, hend⟩ := read_clean_ok hclean (headReadLimit_pos hshort) hread
    refine ⟨upstream₁, hclean₁, ?_⟩
    rw [hend rfl, List.append_nil, responseHeadOf, List.take_of_length_le hle, hnone,
      if_neg fun hnil => hempty (List.isEmpty_iff.2 hnil)]
  | case7 upstream buffer hnone hshort capacity limit bytes upstream₁ hread hbytes ih =>
    obtain ⟨hclean₁, -⟩ := read_clean_ok hclean (headReadLimit_pos hshort) hread
    obtain ⟨hpending, hlimit, -⟩ := read_ok hread
    rw [hpending, ← List.append_assoc]
    apply ih hclean₁
    rw [List.length_append]
    omega

/-! ### Blocks -/

theorem blockLimit_pos {remaining : Nat} (h : ¬remaining = 0) : 0 < min remaining streamBufferSize := by
  have : streamBufferSize = 16384 := rfl
  omega

theorem copyExact_clean {errors : StreamErrors} {eof : ProxyError} {remaining : Nat} {r : ρ} (hr : Clean r)
    (written : Bytes) :
    ∃ r', Clean r' ∧
      ((remaining ≤ (pending r).length ∧ pending r' = (pending r).drop remaining ∧
          copyExact errors eof remaining r (.accepting written) =
            (.ok (), r', .accepting (written ++ (pending r).take remaining))) ∨
        ((pending r).length < remaining ∧ pending r' = [] ∧
          copyExact errors eof remaining r (.accepting written) =
            (.error eof, r', .accepting (written ++ pending r)))) := by
  generalize hw : Sink.accepting written = w
  fun_induction copyExact errors eof remaining r w generalizing written with
  | case1 r w => exact ⟨r, hr, Or.inl (by simp [hw])⟩
  | case2 remaining r w hne e r₁ hread => exact absurd hread (read_clean_ne_error hr (blockLimit_pos hne))
  | case3 remaining r w hne r₁ hread =>
    obtain ⟨hclean, hend⟩ := read_clean_ok hr (blockLimit_pos hne) hread
    have hrest := (read_ok hread).1
    rw [hend rfl, List.nil_append] at hrest
    refine ⟨r₁, hclean, Or.inr ⟨?_, hrest.symm, ?_⟩⟩
    · rw [hend rfl]
      exact Nat.pos_of_ne_zero hne
    · rw [hend rfl, List.append_nil, hw]
  | case4 remaining r w hne bytes r₁ hread hbytes e w₁ hwrite =>
    subst hw
    cases hwrite
  | case5 remaining r w hne bytes r₁ hread hbytes w₁ hwrite ih =>
    subst hw
    cases hwrite
    obtain ⟨hclean, -⟩ := read_clean_ok hr (blockLimit_pos hne) hread
    obtain ⟨hpending, hlimit, -⟩ := read_ok hread
    have hle : bytes.length ≤ remaining := le_trans hlimit (Nat.min_le_left _ _)
    obtain ⟨r', hclean', hcases⟩ := ih hclean (written ++ bytes) rfl
    refine ⟨r', hclean', ?_⟩
    rw [hpending, List.length_append, List.take_append, List.take_of_length_le hle, List.drop_append,
      List.drop_of_length_le hle, List.nil_append, ← List.append_assoc, ← List.append_assoc]
    refine hcases.imp ?_ ?_
    · intro hfacts
      obtain ⟨hlen, hrest, hrun⟩ := hfacts
      exact ⟨by omega, hrest, hrun⟩
    · intro hfacts
      obtain ⟨hlen, hrest, hrun⟩ := hfacts
      exact ⟨by omega, hrest, hrun⟩

theorem copyToEnd_clean {errors : StreamErrors} {r : ρ} (hr : Clean r) (written : Bytes) :
    ∃ r', copyToEnd errors r (.accepting written) = (.ok (), r', .accepting (written ++ pending r)) := by
  have hpos : 0 < streamBufferSize := by decide
  generalize hw : Sink.accepting written = w
  fun_induction copyToEnd errors r w generalizing written with
  | case1 r w e r₁ hread => exact absurd hread (read_clean_ne_error hr hpos)
  | case2 r w r₁ hread =>
    obtain ⟨-, hend⟩ := read_clean_ok hr hpos hread
    exact ⟨r₁, by rw [hend rfl, List.append_nil, hw]⟩
  | case3 r w bytes r₁ hread hbytes e w₁ hwrite =>
    subst hw
    cases hwrite
  | case4 r w bytes r₁ hread hbytes w₁ hwrite ih =>
    subst hw
    cases hwrite
    obtain ⟨hclean, -⟩ := read_clean_ok hr hpos hread
    obtain ⟨r', hrun⟩ := ih hclean (written ++ bytes) rfl
    refine ⟨r', ?_⟩
    rw [(read_ok hread).1, ← List.append_assoc]
    exact hrun

/-! ### Chunks

Each loop on a clean reader is the same loop on the slice of its pending bytes. -/

theorem readExact_slice {n : Nat} {r r' : ρ} {result : Except IoError Bytes} (hr : Clean r)
    (h : readExact n r = (result, r')) : Clean r' ∧ readExact n (pending r) = (result, pending r') := by
  obtain ⟨r₁, hclean, hcases⟩ := readExact_clean (n := n) hr
  obtain ⟨s, -, hslice⟩ := readExact_clean (n := n) (r := pending r) trivial
  change (n ≤ (pending r).length ∧ _ ∧ s = (pending r).drop n) ∨
    ((pending r).length < n ∧ _ ∧ s = []) at hslice
  rcases hcases with ⟨hle, hrun, hrest⟩ | ⟨hlt, hrun, hrest⟩
  · rcases hslice with ⟨-, hrun', hrest'⟩ | ⟨hlt, -⟩
    · rw [h] at hrun
      cases hrun
      exact ⟨hclean, by rw [hrun', hrest', hrest]; rfl⟩
    · omega
  · rcases hslice with ⟨hle, -⟩ | ⟨-, hrun', hrest'⟩
    · omega
    · rw [h] at hrun
      cases hrun
      exact ⟨hclean, by rw [hrun', hrest', hrest]⟩

theorem copyExact_slice {errors : StreamErrors} {eof : ProxyError} {remaining : Nat} {r r' : ρ} {written : Bytes}
    {w' : Sink} {result : Except ProxyError Unit} (hr : Clean r)
    (h : copyExact errors eof remaining r (.accepting written) = (result, r', w')) :
    Clean r' ∧ (∃ written', w' = .accepting written') ∧
      copyExact errors eof remaining (pending r) (.accepting written) = (result, pending r', w') := by
  obtain ⟨r₁, hclean, hcases⟩ := @copyExact_clean ρ _ errors eof remaining r hr written
  obtain ⟨s, -, hslice⟩ := @copyExact_clean Bytes _ errors eof remaining (pending r) trivial written
  change (remaining ≤ (pending r).length ∧ s = (pending r).drop remaining ∧ _) ∨
    ((pending r).length < remaining ∧ s = [] ∧ _) at hslice
  rcases hcases with ⟨hle, hrest, hrun⟩ | ⟨hlt, hrest, hrun⟩
  · rcases hslice with ⟨-, hrest', hrun'⟩ | ⟨hlt, -⟩
    · rw [h] at hrun
      cases hrun
      exact ⟨hclean, ⟨_, rfl⟩, by rw [hrun', hrest', hrest]; rfl⟩
    · omega
  · rcases hslice with ⟨hle, -⟩ | ⟨-, hrest', hrun'⟩
    · omega
    · rw [h] at hrun
      cases hrun
      exact ⟨hclean, ⟨_, rfl⟩, by rw [hrun', hrest', hrest]; rfl⟩

theorem readChunkLineLoop_slice {maximumSize : Nat} {line : Bytes} {r r' : ρ} {result : Except ProxyError Bytes}
    (hr : Clean r) (h : readChunkLineLoop maximumSize line r = (result, r')) :
    Clean r' ∧ readChunkLineLoop maximumSize line (pending r) = (result, pending r') := by
  have hexact := fun n r result r' => @readExact_slice ρ _ n r r' result
  fun_induction readChunkLineLoop maximumSize line r <;> (rw [readChunkLineLoop]; grind)

theorem readChunkLine_slice {maximumSize : Nat} {r r' : ρ} {result : Except ProxyError Bytes}
    (hr : Clean r) (h : readChunkLine maximumSize r = (result, r')) :
    Clean r' ∧ readChunkLine maximumSize (pending r) = (result, pending r') := readChunkLineLoop_slice hr h

theorem writeLine_accepting (line written : Bytes) :
    writeLine line (.accepting written) = (.ok (), .accepting (written ++ line ++ crlf)) := rfl

theorem streamTrailers_slice {errors : ChunkedErrors} {count bytes : Nat} {r r' : ρ} {written : Bytes} {w' : Sink}
    {result : Except ProxyError Unit} (hr : Clean r)
    (h : streamTrailers errors count bytes r (.accepting written) = (result, r', w')) :
    Clean r' ∧ streamTrailers errors count bytes (pending r) (.accepting written) = (result, pending r', w') := by
  generalize hw : Sink.accepting written = w at h ⊢
  have hline := fun r result r' => @readChunkLine_slice ρ _ maxTrailerLineSize r r' result
  fun_induction streamTrailers errors count bytes r w generalizing written <;>
    (rw [streamTrailers]; grind [writeLine_accepting, Sink.writeAll_accepting])

theorem streamChunked_slice {errors : ChunkedErrors} {r r' : ρ} {written : Bytes} {w' : Sink}
    {result : Except ProxyError Unit} (hr : Clean r)
    (h : streamChunked errors r (.accepting written) = (result, r', w')) :
    Clean r' ∧ streamChunked errors (pending r) (.accepting written) = (result, pending r', w') := by
  generalize hw : Sink.accepting written = w at h ⊢
  fun_induction streamChunked errors r w generalizing written with
  | case1 r w e r₁ hread =>
    cases h
    obtain ⟨hclean, hslice⟩ := readChunkLine_slice hr hread
    exact ⟨hclean, by rw [streamChunked]; grind⟩
  | case2 r w line r₁ hread e hsize =>
    cases h
    obtain ⟨hclean, hslice⟩ := readChunkLine_slice hr hread
    exact ⟨hclean, by rw [streamChunked]; grind⟩
  | case3 r w line r₁ hread size hsize e w₁ hwrite =>
    subst hw
    rw [writeLine_accepting] at hwrite
    cases hwrite
  | case4 r w line r₁ hread w₁ hwrite hsize =>
    subst hw
    rw [writeLine_accepting] at hwrite
    cases hwrite
    obtain ⟨hclean, hslice⟩ := readChunkLine_slice hr hread
    obtain ⟨hclean', hslice'⟩ := streamTrailers_slice hclean h
    exact ⟨hclean', by rw [streamChunked]; grind [writeLine_accepting]⟩
  | case5 r w line r₁ hread size hsize w₁ hwrite hzero e r₂ w₂ hdata =>
    subst hw
    rw [writeLine_accepting] at hwrite
    cases hwrite
    cases h
    obtain ⟨hclean, hslice⟩ := readChunkLine_slice hr hread
    obtain ⟨hclean', -, hslice'⟩ := copyExact_slice hclean hdata
    exact ⟨hclean', by rw [streamChunked]; grind [writeLine_accepting]⟩
  | case6 r w line r₁ hread size hsize w₁ hwrite hzero r₂ w₂ hdata e r₃ hend =>
    subst hw
    rw [writeLine_accepting] at hwrite
    cases hwrite
    cases h
    obtain ⟨hclean, hslice⟩ := readChunkLine_slice hr hread
    obtain ⟨hclean', -, hslice'⟩ := copyExact_slice hclean hdata
    obtain ⟨hclean'', hslice''⟩ := readExact_slice hclean' hend
    exact ⟨hclean'', by rw [streamChunked]; grind [writeLine_accepting]⟩
  | case7 r w line r₁ hread size hsize w₁ hwrite hzero r₂ w₂ hdata ending r₃ hend hending =>
    subst hw
    rw [writeLine_accepting] at hwrite
    cases hwrite
    cases h
    obtain ⟨hclean, hslice⟩ := readChunkLine_slice hr hread
    obtain ⟨hclean', -, hslice'⟩ := copyExact_slice hclean hdata
    obtain ⟨hclean'', hslice''⟩ := readExact_slice hclean' hend
    exact ⟨hclean'', by rw [streamChunked]; grind [writeLine_accepting]⟩
  | case8 r w line r₁ hread size hsize w₁ hwrite hzero r₂ w₂ hdata ending r₃ hend hending e w₃ hcrlf =>
    subst hw
    rw [writeLine_accepting] at hwrite
    cases hwrite
    obtain ⟨hclean, -⟩ := readChunkLine_slice hr hread
    obtain ⟨-, ⟨written', rfl⟩, -⟩ := copyExact_slice hclean hdata
    rw [Sink.writeAll_accepting] at hcrlf
    cases hcrlf
  | case9 r w line r₁ hread size hsize w₁ hwrite hzero r₂ w₂ hdata ending r₃ hend hending w₃ hcrlf ih =>
    subst hw
    rw [writeLine_accepting] at hwrite
    cases hwrite
    obtain ⟨hclean, hslice⟩ := readChunkLine_slice hr hread
    obtain ⟨hclean', ⟨written', rfl⟩, hslice'⟩ := copyExact_slice hclean hdata
    obtain ⟨hclean'', hslice''⟩ := readExact_slice hclean' hend
    rw [Sink.writeAll_accepting] at hcrlf
    cases hcrlf
    obtain ⟨hclean₃, hslice₃⟩ := ih hclean'' rfl h
    exact ⟨hclean₃, by rw [streamChunked]; grind [writeLine_accepting, Sink.writeAll_accepting]⟩

/-! ### Bodies -/

/-- What streaming a chunked body comes to: the result, and what the client was sent. -/
def chunkedResult (stream written : Bytes) : Except ProxyError Unit × Sink :=
  let (result, _, client) := streamChunked responseChunkedErrors stream (.accepting written)
  (result, client)

def fixedResult (contentLength : Nat) (stream written : Bytes) : Except ProxyError Unit × Sink :=
  (if contentLength ≤ stream.length then .ok ()
    else .error (.responseStarted "upstream disconnected before completing response body"),
    .accepting (written ++ stream.take contentLength))

def bodyResult (final : FinalHead) (stream written : Bytes) : Except ProxyError Unit × Sink :=
  match final.transferFraming, final.contentLength with
  | .chunked, _ => chunkedResult stream written
  | _, some contentLength => fixedResult contentLength stream written
  | _, none => (.ok (), .accepting (written ++ stream))

theorem writeBuffered_accepting (errors : StreamErrors) (bytes written : Bytes) :
    writeBuffered errors bytes (.accepting written) = (.ok (), .accepting (written ++ bytes)) := by
  unfold writeBuffered
  split
  · rfl
  · rename_i hempty
    have hnil : bytes = [] := by simpa using hempty
    rw [hnil, List.append_nil]

section Bodies

variable {upstream : ρ} (hclean : Clean upstream) (written rest : Bytes)
include hclean

theorem streamChunkedResponseBody_clean :
    ∃ upstream', streamChunkedResponseBody upstream (.accepting written) rest =
      ((chunkedResult (rest ++ pending upstream) written).1, upstream',
        (chunkedResult (rest ++ pending upstream) written).2) := by
  unfold streamChunkedResponseBody chunkedResult
  cases hchunked : streamChunked responseChunkedErrors (PrefixedReader.mk rest upstream) (.accepting written) with
  | mk result state =>
    obtain ⟨reader, client⟩ := state
    have hprefixed : Clean (PrefixedReader.mk rest upstream) := hclean
    obtain ⟨-, hslice⟩ := streamChunked_slice hprefixed hchunked
    change streamChunked responseChunkedErrors (rest ++ pending upstream) (.accepting written) = _ at hslice
    rw [hslice]
    exact ⟨_, rfl⟩

theorem streamFixedResponseBody_clean (contentLength : Nat) :
    ∃ upstream', streamFixedResponseBody upstream (.accepting written) contentLength rest =
      ((fixedResult contentLength (rest ++ pending upstream) written).1, upstream',
        (fixedResult contentLength (rest ++ pending upstream) written).2) := by
  have htake : rest.take (min rest.length contentLength) = rest.take contentLength := by
    rw [List.take_eq_take_iff]
    omega
  unfold streamFixedResponseBody streamFixed fixedResult
  dsimp only
  rw [writeBuffered_accepting, htake]
  dsimp only
  obtain ⟨upstream', -, ⟨hle, -, hcopy⟩ | ⟨hlt, -, hcopy⟩⟩ := @copyExact_clean ρ _ responseErrors
    (.responseStarted "upstream disconnected before completing response body")
    (contentLength - min rest.length contentLength) upstream hclean (written ++ rest.take contentLength)
  · have hfits : contentLength ≤ (rest ++ pending upstream).length := by
      rw [List.length_append]
      omega
    have hremaining : contentLength - min rest.length contentLength = contentLength - rest.length := by omega
    refine ⟨upstream', ?_⟩
    rw [hcopy, if_pos hfits, List.take_append, List.append_assoc, hremaining]
  · have hshort : ¬contentLength ≤ (rest ++ pending upstream).length := by
      rw [List.length_append]
      omega
    have hall : (pending upstream).take (contentLength - rest.length) = pending upstream :=
      List.take_of_length_le (by omega)
    refine ⟨upstream', ?_⟩
    rw [hcopy, if_neg hshort, List.take_append, List.append_assoc, hall]

theorem streamCloseDelimitedResponseBody_clean :
    ∃ upstream', streamCloseDelimitedResponseBody upstream (.accepting written) rest =
      (.ok (), upstream', .accepting (written ++ (rest ++ pending upstream))) := by
  unfold streamCloseDelimitedResponseBody
  rw [writeBuffered_accepting, ← List.append_assoc]
  exact copyToEnd_clean hclean (written ++ rest)

/-- A body is streamed as the bytes buffered and still to come say, wherever the cut between them is. -/
theorem streamResponseBody_clean (final : FinalHead) :
    ∃ upstream', streamResponseBody final upstream (.accepting written) rest =
      ((bodyResult final (rest ++ pending upstream) written).1, upstream',
        (bodyResult final (rest ++ pending upstream) written).2) := by
  obtain ⟨transferFraming, contentLength, clientReusable, head⟩ := final
  cases transferFraming with
  | chunked => exact streamChunkedResponseBody_clean hclean written rest
  | none =>
    cases contentLength with
    | some contentLength => exact streamFixedResponseBody_clean hclean written rest contentLength
    | none => exact streamCloseDelimitedResponseBody_clean hclean written rest
  | closeDelimited =>
    cases contentLength with
    | some contentLength => exact streamFixedResponseBody_clean hclean written rest contentLength
    | none => exact streamCloseDelimitedResponseBody_clean hclean written rest

end Bodies

end BareProxy.Proxy
