import BareProxy.Proxy.ReceivedFields

/-!
# Relaying a trailer section

How far the trailer section of a chunked body is relayed. What the upstream reads of it are fields that the proxy has
accepted, behind chunks that it has accepted; and an upstream that takes everything gets all of these.
-/

namespace BareProxy.Proxy

open Http Reader

/-! ### The front of a chunked body -/

/-- Trailer fields that are accepted behind `count` fields of together `bytes` bytes. -/
structure AcceptedTrailers (count bytes : Nat) (lines : List Bytes) : Prop where
  fields : ∀ line ∈ lines, IsTrailerLine line
  count_le : count + lines.length ≤ maxTrailerCount
  length_le : bytes + (unlines lines).length ≤ maxTrailerBlockSize

/-- A chunked body up to some of its trailer fields: the chunks with their size lines, the chunk of size zero, and the
fields. -/
structure ChunkedFront where
  chunks : List (Bytes × Bytes)
  lastLine : Bytes
  trailers : List Bytes
  isChunk : ∀ chunk ∈ chunks, IsChunkSizeLine chunk.1 chunk.2.length ∧ chunk.2 ≠ []
  isLast : IsChunkSizeLine lastLine 0
  accepted : AcceptedTrailers 0 0 trailers

def ChunkedFront.text (front : ChunkedFront) : Bytes :=
  front.chunks.flatMap (fun chunk => chunk.1 ++ crlf ++ chunk.2 ++ crlf) ++
    (front.lastLine ++ crlf ++ unlines front.trailers)

theorem AcceptedTrailers.cons_iff {count bytes : Nat} {line : Bytes} {lines : List Bytes} :
    AcceptedTrailers count bytes (line :: lines) ↔
      IsTrailerLine line ∧ AcceptedTrailers (count + 1) (bytes + (line.length + 2)) lines := by
  have hcrlf : crlf.length = 2 := rfl
  constructor
  · intro h
    obtain ⟨hfields, hcount, hlength⟩ := h
    rw [List.length_cons] at hcount
    rw [unlines_cons, List.length_append, List.length_append, hcrlf] at hlength
    exact ⟨hfields line List.mem_cons_self, fun l hl => hfields l (List.mem_cons_of_mem _ hl), by omega, by omega⟩
  · intro h
    obtain ⟨hline, hfields, hcount, hlength⟩ := h
    refine ⟨fun l hl => ?_, ?_, ?_⟩
    · rcases List.mem_cons.1 hl with rfl | hl
      · exact hline
      · exact hfields l hl
    · rw [List.length_cons]
      omega
    · rw [unlines_cons, List.length_append, List.length_append, hcrlf]
      omega

/-- The trailer fields that are read back from the front are its own. -/
theorem ChunkedFront.readTrailers_text (front : ChunkedFront) : readTrailers front.text = front.trailers := by
  obtain ⟨chunks, lastLine, trailers, hchunks, hlast, haccepted⟩ := front
  have hlines : ∀ line ∈ trailers, IsLine line ∧ line ≠ [] := fun line hmem => (haccepted.fields line hmem).isLine
  unfold ChunkedFront.text
  dsimp only
  induction chunks with
  | nil =>
    obtain ⟨hisLine, -, hsize⟩ := isChunkSizeLine_iff.1 hlast
    have hsection := readSection_unlines hlines []
    rw [List.append_nil] at hsection
    rw [List.flatMap_nil, List.nil_append, readTrailers_line hisLine hsize, if_pos rfl, hsection, readSection_nil,
      List.append_nil]
  | cons chunk chunks ih =>
    obtain ⟨hline, hne⟩ := hchunks chunk List.mem_cons_self
    rw [List.flatMap_cons, List.append_assoc (chunk.1 ++ crlf ++ chunk.2 ++ crlf), readTrailers_chunk hline hne]
    exact ih fun c hc => hchunks c (List.mem_cons_of_mem _ hc)

/-! ### What is relayed

What the upstream has got of the trailer section are fields that the client sent and that were accepted. -/

section Relayed

variable {ρ : Type} [Reader ρ] {errors : ChunkedErrors}

/-- The trailer loop writes accepted fields, and at most the last of them in part. -/
theorem streamTrailers_accepted {count bytes : Nat} {r r' : ρ} {w w' : Sink} {result : Except ProxyError Unit}
    (hcount : count ≤ maxTrailerCount) (hbytes : bytes ≤ maxTrailerBlockSize)
    (h : streamTrailers errors count bytes r w = (result, r', w')) :
    ∃ lines sent, AcceptedTrailers count bytes lines ∧ unlines lines <+: pending r ∧
      w'.written = w.written ++ sent ∧ sent <+: unlines lines ++ crlf := by
  have hnone : ∀ {count bytes : Nat}, count ≤ maxTrailerCount → bytes ≤ maxTrailerBlockSize →
      AcceptedTrailers count bytes [] :=
    fun hcount hbytes => ⟨fun _ hmem => absurd hmem List.not_mem_nil, hcount, hbytes⟩
  fun_induction streamTrailers errors count bytes r w with
  | case1 =>
    cases h
    exact ⟨[], [], hnone hcount hbytes, List.nil_prefix, (List.append_nil _).symm, List.nil_prefix⟩
  | case2 =>
    cases h
    exact ⟨[], [], hnone hcount hbytes, List.nil_prefix, (List.append_nil _).symm, List.nil_prefix⟩
  | case3 count bytes r w line r₁ hread total hsize hempty source w₁ hwrite =>
    cases h
    obtain ⟨sent, hwritten, hfront⟩ := writeAll_wroteFront hwrite
    exact ⟨[], sent, hnone hcount hbytes, List.nil_prefix, hwritten, hfront⟩
  | case4 count bytes r w line r₁ hread total hsize hempty w₁ hwrite =>
    cases h
    exact ⟨[], crlf, hnone hcount hbytes, List.nil_prefix, Sink.writeAll_ok hwrite, List.prefix_rfl⟩
  | case5 =>
    cases h
    exact ⟨[], [], hnone hcount hbytes, List.nil_prefix, (List.append_nil _).symm, List.nil_prefix⟩
  | case6 =>
    cases h
    exact ⟨[], [], hnone hcount hbytes, List.nil_prefix, (List.append_nil _).symm, List.nil_prefix⟩
  | case7 count bytes r w line r₁ hread total hsize hempty hmore hvalid source w₁ hwrite =>
    cases h
    obtain ⟨hline, hlength, hpending⟩ := readChunkLine_ok hread
    obtain ⟨sent, hwritten, hfront⟩ := writeLine_wroteFront hwrite
    have haccepted : AcceptedTrailers count bytes [line] :=
      AcceptedTrailers.cons_iff.2 ⟨isTrailerLine_iff.2 ⟨hline, hlength, hvalid⟩, hnone (by omega) (by omega)⟩
    have hunlines : unlines [line] = line ++ crlf := by rw [unlines_cons, unlines_nil, List.append_nil]
    refine ⟨[line], sent, haccepted, ?_, hwritten, ?_⟩
    · rw [hunlines, hpending]
      exact List.prefix_append _ _
    · rw [hunlines]
      exact hfront.trans (List.prefix_append _ _)
  | case8 count bytes r w line r₁ hread total hsize hempty hmore hvalid w₁ hwrite ih =>
    obtain ⟨hline, hlength, hpending⟩ := readChunkLine_ok hread
    obtain ⟨lines, sent, haccepted, hlines, hwritten, hfront⟩ := ih (by omega) (by omega) h
    refine ⟨line :: lines, line ++ crlf ++ sent,
      AcceptedTrailers.cons_iff.2 ⟨isTrailerLine_iff.2 ⟨hline, hlength, hvalid⟩, haccepted⟩, ?_, ?_, ?_⟩
    · rw [unlines_cons, hpending]
      exact (List.prefix_append_right_inj _).2 hlines
    · rw [hwritten, writeLine_ok hwrite]
      simp only [List.append_assoc]
    · rw [unlines_cons, List.append_assoc (line ++ crlf)]
      exact (List.prefix_append_right_inj _).2 hfront

/-- A copy that fails has written no more than it was to copy. -/
theorem copyExact_error_length {errors : StreamErrors} {eof e : ProxyError} {remaining : Nat} {r r' : ρ} {w w' : Sink}
    (h : copyExact errors eof remaining r w = (.error e, r', w')) :
    ∃ sent, w'.written = w.written ++ sent ∧ sent.length ≤ remaining := by
  fun_induction copyExact errors eof remaining r w with
  | case1 => cases h
  | case2 =>
    cases h
    exact ⟨[], (List.append_nil _).symm, Nat.zero_le _⟩
  | case3 =>
    cases h
    exact ⟨[], (List.append_nil _).symm, Nat.zero_le _⟩
  | case4 remaining r w hremaining bytes r₁ hread hbytes source w₁ hwrite =>
    cases h
    obtain ⟨-, hle, -⟩ := read_ok hread
    obtain ⟨count, hwritten⟩ := Sink.writeAll_error hwrite
    refine ⟨bytes.take count, hwritten, ?_⟩
    rw [List.length_take]
    omega
  | case5 remaining r w hremaining bytes r₁ hread hbytes w₁ hwrite ih =>
    obtain ⟨-, hle, -⟩ := read_ok hread
    obtain ⟨sent, hwritten, hlength⟩ := ih h
    refine ⟨bytes ++ sent, by rw [hwritten, Sink.writeAll_ok hwrite, List.append_assoc], ?_⟩
    rw [List.length_append]
    omega

/-- The trailer fields in what is written are those of a front of the client's bytes. -/
def RelaysTrailers (sent bytes : Bytes) : Prop :=
  ∀ line ∈ readTrailers sent, ∃ front : ChunkedFront, front.text <+: bytes ∧ line ∈ front.trailers

theorem readTrailers_nil : readTrailers [] = [] := by
  rw [readTrailers]
  split
  · rfl
  · rename_i lineEnd hend
    cases hend

theorem RelaysTrailers.of_nil {sent bytes : Bytes} (h : readTrailers sent = []) : RelaysTrailers sent bytes := by
  intro line hline
  rw [h] at hline
  cases hline

/-- A chunk in front, as received and as sent. -/
theorem RelaysTrailers.chunk {sent bytes line data : Bytes} (h : RelaysTrailers sent bytes)
    (hline : IsChunkSizeLine line data.length) (hne : data ≠ []) :
    RelaysTrailers (line ++ crlf ++ data ++ crlf ++ sent) (line ++ crlf ++ data ++ crlf ++ bytes) := by
  intro trailer htrailer
  rw [readTrailers_chunk hline hne] at htrailer
  obtain ⟨front, hfront, hmem⟩ := h trailer htrailer
  refine ⟨{ front with
    chunks := (line, data) :: front.chunks
    isChunk := ?_ }, ?_, hmem⟩
  · intro chunk hchunk
    rcases List.mem_cons.1 hchunk with rfl | hchunk
    · exact ⟨hline, hne⟩
    · exact front.isChunk chunk hchunk
  · unfold ChunkedFront.text at hfront ⊢
    rw [List.flatMap_cons, List.append_assoc (line ++ crlf ++ data ++ crlf)]
    exact (List.prefix_append_right_inj _).2 hfront

theorem RelaysTrailers.front {sent all bytes : Bytes} (h : RelaysTrailers all bytes) (hfront : sent <+: all) :
    RelaysTrailers sent bytes :=
  fun line hline => h line ((readTrailers_front hfront).subset hline)

/-- The trailer section behind the last chunk. -/
theorem RelaysTrailers.last {sent bytes line : Bytes} {lines : List Bytes} (hline : IsChunkSizeLine line 0)
    (haccepted : AcceptedTrailers 0 0 lines) (hlines : unlines lines <+: bytes) (hsent : sent <+: unlines lines ++ crlf) :
    RelaysTrailers (line ++ crlf ++ sent) (line ++ crlf ++ bytes) := by
  obtain ⟨hisLine, -, hsize⟩ := isChunkSizeLine_iff.1 hline
  intro trailer htrailer
  rw [readTrailers_line hisLine hsize, if_pos rfl] at htrailer
  have hsection : (readSection (unlines lines ++ (crlf ++ []))).1 = lines := by
    rw [readSection_unlines fun l hl => (haccepted.fields l hl).isLine, readSection_blank, List.append_nil]
  rw [List.append_nil] at hsection
  have hmem := (readSection_front hsent).1.subset htrailer
  rw [hsection] at hmem
  refine ⟨⟨[], line, lines, fun _ hmem => absurd hmem List.not_mem_nil, hline, haccepted⟩, ?_, hmem⟩
  show line ++ crlf ++ unlines lines <+: line ++ crlf ++ bytes
  exact (List.prefix_append_right_inj (line ++ crlf)).2 hlines

/-- A size line and data behind it that is not a complete chunk. -/
theorem RelaysTrailers.short {line data bytes : Bytes} {size : Nat} {w w₁ w' : Sink} (hline : IsLine line)
    (hsize : parseChunkSize line = .ok size) (hzero : ¬size = 0) (hwrite : writeLine line w = (.ok (), w₁))
    (hwritten : w'.written = w₁.written ++ data) (hlength : data.length ≤ size + 2) :
    ∃ sent, w'.written = w.written ++ sent ∧ RelaysTrailers sent bytes := by
  refine ⟨line ++ crlf ++ data, ?_, .of_nil ?_⟩
  · rw [hwritten, writeLine_ok hwrite]
    simp only [List.append_assoc]
  · rw [readTrailers_line hline hsize, if_neg hzero, List.drop_of_length_le hlength, readTrailers_nil]

theorem streamChunked_relaysTrailers {r r' : ρ} {w w' : Sink} {result : Except ProxyError Unit}
    (h : streamChunked errors r w = (result, r', w')) :
    ∃ sent, w'.written = w.written ++ sent ∧ RelaysTrailers sent (pending r) := by
  fun_induction streamChunked errors r w with
  | case1 =>
    cases h
    exact ⟨[], (List.append_nil _).symm, .of_nil readTrailers_nil⟩
  | case2 =>
    cases h
    exact ⟨[], (List.append_nil _).symm, .of_nil readTrailers_nil⟩
  | case3 r w line r₁ hread size hsize source w₁ hwrite =>
    cases h
    obtain ⟨hline, -, -⟩ := readChunkLine_ok hread
    obtain ⟨sent, hwritten, hfront⟩ := writeLine_wroteFront hwrite
    have hnil : readTrailers (line ++ crlf ++ []) = [] := by
      rw [readTrailers_line hline hsize, List.drop_nil, readSection_nil, readTrailers_nil, ite_self]
    rw [List.append_nil] at hnil
    exact ⟨sent, hwritten, (RelaysTrailers.of_nil hnil).front hfront⟩
  | case4 r w line r₁ hread w₁ hwrite hsize =>
    obtain ⟨hline, hlength, hpending⟩ := readChunkLine_ok hread
    obtain ⟨lines, sent, haccepted, hlines, hwritten, hsent⟩ :=
      streamTrailers_accepted (Nat.zero_le _) (Nat.zero_le _) h
    refine ⟨line ++ crlf ++ sent, ?_, ?_⟩
    · rw [hwritten, writeLine_ok hwrite]
      simp only [List.append_assoc]
    · rw [hpending]
      exact .last (isChunkSizeLine_iff.2 ⟨hline, hlength, hsize⟩) haccepted hlines hsent
  | case5 r w line r₁ hread size hsize w₁ hwrite hzero source r₂ w₂ hdata =>
    cases h
    obtain ⟨hline, -, -⟩ := readChunkLine_ok hread
    obtain ⟨data, hwritten, hlength⟩ := copyExact_error_length hdata
    exact RelaysTrailers.short hline hsize hzero hwrite hwritten (by omega)
  | case6 r w line r₁ hread size hsize w₁ hwrite hzero r₂ w₂ hdata source r₃ hend =>
    cases h
    obtain ⟨hline, -, -⟩ := readChunkLine_ok hread
    obtain ⟨data, hlength, -, hwritten⟩ := copyExact_ok hdata
    exact RelaysTrailers.short hline hsize hzero hwrite hwritten (by omega)
  | case7 r w line r₁ hread size hsize w₁ hwrite hzero r₂ w₂ hdata ending r₃ hend hending =>
    cases h
    obtain ⟨hline, -, -⟩ := readChunkLine_ok hread
    obtain ⟨data, hlength, -, hwritten⟩ := copyExact_ok hdata
    exact RelaysTrailers.short hline hsize hzero hwrite hwritten (by omega)
  | case8 r w line r₁ hread size hsize w₁ hwrite hzero r₂ w₂ hdata ending r₃ hend hending source w₃ hcrlf =>
    cases h
    obtain ⟨hline, -, -⟩ := readChunkLine_ok hread
    obtain ⟨data, hlength, -, hwritten⟩ := copyExact_ok hdata
    obtain ⟨sent, hsent, hfront⟩ := writeAll_wroteFront hcrlf
    have hle : sent.length ≤ 2 := hfront.length_le
    have hshort : (data ++ sent).length ≤ size + 2 := by
      rw [List.length_append]
      omega
    rw [hwritten, List.append_assoc] at hsent
    exact RelaysTrailers.short hline hsize hzero hwrite hsent hshort
  | case9 r w line r₁ hread size hsize w₁ hwrite hzero r₂ w₂ hdata ending r₃ hend hending w₃ hcrlf ih =>
    obtain ⟨hline, hlineLength, hpending⟩ := readChunkLine_ok hread
    obtain ⟨data, hlength, hpending₁, hwritten⟩ := copyExact_ok hdata
    obtain ⟨hpending₂, -⟩ := readExact_ok hend
    obtain ⟨sent, hsent, hrelays⟩ := ih h
    subst hlength
    have hne : data ≠ [] := fun hnil => hzero (List.length_eq_zero_iff.2 hnil)
    refine ⟨line ++ crlf ++ data ++ crlf ++ sent, ?_, ?_⟩
    · rw [hsent, Sink.writeAll_ok hcrlf, hwritten, writeLine_ok hwrite]
      simp only [List.append_assoc]
    · rw [hpending, hpending₁, hpending₂, not_not.1 hending, ← List.append_assoc data, ← List.append_assoc (line ++ crlf),
        ← List.append_assoc (line ++ crlf)]
      exact hrelays.chunk (isChunkSizeLine_iff.2 ⟨hline, hlineLength, hsize⟩) hne

theorem streamChunkedRequestBody_relaysTrailers {client client' : ρ} {upstream upstream' : Sink} {bufferedBody : Bytes}
    {result : Except ProxyError Bytes}
    (h : streamChunkedRequestBody client upstream bufferedBody = (result, client', upstream')) :
    ∃ sent, upstream'.written = upstream.written ++ sent ∧ RelaysTrailers sent (bufferedBody ++ pending client) := by
  unfold streamChunkedRequestBody at h
  split at h
  · rename_i hchunked
    cases h
    exact streamChunked_relaysTrailers hchunked
  · rename_i hchunked
    cases h
    exact streamChunked_relaysTrailers hchunked

/-! ### What is relayed for sure

An upstream that takes everything gets every front of the body. -/

theorem streamTrailers_front_accepted {count bytes : Nat} {lines : List Bytes} (h : AcceptedTrailers count bytes lines)
    {rest rest' written : Bytes} {w' : Sink} {result : Except ProxyError Unit}
    (hrun : streamTrailers errors count bytes (unlines lines ++ rest) (.accepting written) = (result, rest', w')) :
    ∃ more, w'.written = written ++ unlines lines ++ more := by
  induction lines generalizing count bytes written with
  | nil =>
    obtain ⟨lines, sent, -, -, hwritten, -⟩ := streamTrailers_accepted h.count_le h.length_le hrun
    refine ⟨sent, ?_⟩
    rw [hwritten, unlines_nil, List.append_nil]
    rfl
  | cons line lines ih =>
    obtain ⟨hline, hlines⟩ := AcceptedTrailers.cons_iff.1 h
    obtain ⟨hisLine, hlength, hvalid⟩ := isTrailerLine_iff.1 hline
    have hcount : count + (lines.length + 1) ≤ maxTrailerCount := h.count_le
    have hsize : bytes + (line.length + 2) ≤ maxTrailerBlockSize := le_trans (Nat.le_add_right _ _) hlines.length_le
    rw [unlines_cons, List.append_assoc (line ++ crlf),
      streamTrailers_front_field hisLine hline.isLine.2 hlength hsize (by omega) hvalid] at hrun
    obtain ⟨more, hwritten⟩ := ih hlines hrun
    refine ⟨more, ?_⟩
    rw [hwritten, unlines_cons]
    simp only [List.append_assoc]

theorem streamChunked_front_text (front : ChunkedFront) {rest rest' written : Bytes} {w' : Sink}
    {result : Except ProxyError Unit}
    (hrun : streamChunked errors (front.text ++ rest) (.accepting written) = (result, rest', w')) :
    ∃ more, w'.written = written ++ front.text ++ more := by
  obtain ⟨chunks, lastLine, trailers, hchunks, hlast, haccepted⟩ := front
  unfold ChunkedFront.text at hrun ⊢
  dsimp only at hrun ⊢
  induction chunks generalizing written with
  | nil =>
    obtain ⟨hisLine, hlength, hsize⟩ := isChunkSizeLine_iff.1 hlast
    rw [List.flatMap_nil, List.nil_append, List.append_assoc (lastLine ++ crlf),
      streamChunked_front_last hisLine hlength hsize] at hrun
    obtain ⟨more, hwritten⟩ := streamTrailers_front_accepted haccepted hrun
    refine ⟨more, ?_⟩
    rw [hwritten, List.flatMap_nil, List.nil_append]
    simp only [List.append_assoc]
  | cons chunk chunks ih =>
    obtain ⟨hline, hne⟩ := hchunks chunk List.mem_cons_self
    obtain ⟨hisLine, hlength, hsize⟩ := isChunkSizeLine_iff.1 hline
    rw [List.flatMap_cons, List.append_assoc (chunk.1 ++ crlf ++ chunk.2 ++ crlf),
      List.append_assoc (chunk.1 ++ crlf ++ chunk.2 ++ crlf), streamChunked_front_chunk hisLine hlength hsize hne] at hrun
    obtain ⟨more, hwritten⟩ := ih (fun c hc => hchunks c (List.mem_cons_of_mem _ hc)) hrun
    refine ⟨more, ?_⟩
    rw [hwritten, List.flatMap_cons]
    simp only [List.append_assoc]

theorem streamChunkedRequestBody_front {client client' : ρ} (hclean : Clean client) {bufferedBody written : Bytes}
    {upstream' : Sink} {result : Except ProxyError Bytes} {front : ChunkedFront}
    (hfront : front.text <+: bufferedBody ++ pending client)
    (h : streamChunkedRequestBody client (.accepting written) bufferedBody = (result, client', upstream')) :
    ∃ more, upstream'.written = written ++ front.text ++ more := by
  have hprefixed : Clean (PrefixedReader.mk bufferedBody client) := hclean
  obtain ⟨rest, hrest⟩ := hfront
  have hpending : pending (PrefixedReader.mk bufferedBody client) = front.text ++ rest := hrest.symm
  unfold streamChunkedRequestBody at h
  cases hchunked : streamChunked requestChunkedErrors (PrefixedReader.mk bufferedBody client) (.accepting written) with
  | mk outcome state =>
    obtain ⟨reader, sink⟩ := state
    obtain ⟨-, hslice⟩ := streamChunked_slice hprefixed hchunked
    rw [hpending] at hslice
    obtain ⟨more, hwritten⟩ := streamChunked_front_text front hslice
    refine ⟨more, ?_⟩
    rw [← hwritten]
    rw [hchunked] at h
    cases outcome with
    | error e =>
      cases h
      rfl
    | ok u =>
      cases h
      rfl

end Relayed

end BareProxy.Proxy
