import BareProxy.Base.Lines
import BareProxy.Proxy.RequestHead

/-!
# Body streaming

The body streamers of `proxy.rs`. The request side and the response side run the same loops and differ
in the errors they report, so each loop is one definition over a record of errors; the functions of the
source are its instances.
-/

namespace BareProxy.Proxy

open Http Reader

def streamBufferSize : Nat := 16 * 1024

def maxChunkLineSize : Nat := 8192

def maxTrailerLineSize : Nat := 8192

def maxTrailerBlockSize : Nat := 32 * 1024

def maxTrailerCount : Nat := 100

/-! ### A reader with bytes already read -/

/-- `PrefixedReader`: the part of the prefix not read yet, and the reader behind it. -/
structure PrefixedReader (ρ : Type) where
  remainingPrefix : Bytes
  inner : ρ

variable {ρ : Type} [Reader ρ]

namespace PrefixedReader

def read (n : Nat) (r : PrefixedReader ρ) : Except IoError Bytes × PrefixedReader ρ :=
  if n = 0 then (.ok [], r)
  else if r.remainingPrefix ≠ [] then
    (.ok (r.remainingPrefix.take n), { r with remainingPrefix := r.remainingPrefix.drop n })
  else
    let (result, inner) := Reader.read n r.inner
    (result, { r with inner })

instance : Reader (PrefixedReader ρ) where
  read := read
  pending r := r.remainingPrefix ++ pending r.inner
  Clean r := Clean r.inner
  size r := r.remainingPrefix.length + size r.inner
  read_ok := by
    intro n r bs r' h
    obtain ⟨rest, inner⟩ := r
    unfold read at h
    split at h
    · cases h
      simp
    · rename_i hn
      split at h
      · rename_i hne
        cases h
        refine ⟨by simp [← List.append_assoc], by simp, fun _ => ?_⟩
        have : rest.length ≠ 0 := by simpa using hne
        simp only [List.length_drop]
        omega
      · rename_i hempty
        simp only [ne_eq, not_not] at hempty
        subst hempty
        cases hread : Reader.read n inner with
        | mk result inner' =>
          simp only [hread] at h
          cases h
          obtain ⟨hpending, hle, hsize⟩ := Reader.read_ok hread
          exact ⟨by simpa using hpending, hle, by simpa using hsize⟩
  read_error := by
    intro n r e r' h
    obtain ⟨rest, inner⟩ := r
    unfold read at h
    split at h
    · cases h
    · split at h
      · cases h
      · cases hread : Reader.read n inner with
        | mk result inner' =>
          simp only [hread] at h
          cases h
          obtain ⟨hpending, hsize⟩ := Reader.read_error hread
          exact ⟨by simpa using hpending, by simpa using hsize⟩
  read_clean := by
    intro n r hclean hn
    obtain ⟨rest, inner⟩ := r
    by_cases hempty : rest = []
    · subst hempty
      obtain ⟨bs, inner', hread, hclean', hend⟩ := Reader.read_clean (r := inner) hclean hn
      exact ⟨bs, ⟨[], inner'⟩, by simp [read, hread, Nat.ne_of_gt hn], hclean', by simpa using hend⟩
    · refine ⟨rest.take n, ⟨rest.drop n, inner⟩, by simp [read, hempty, Nat.ne_of_gt hn], hclean, fun hnil => ?_⟩
      rcases List.take_eq_nil_iff.1 hnil with hzero | hnil
      · omega
      · exact absurd hnil hempty

end PrefixedReader

/-! ### Errors of the two directions -/

/-- How a direction reports a failed read and a failed write. -/
structure StreamErrors where
  read : IoError → ProxyError
  write : IoError → ProxyError

/-- How a direction reports what can go wrong in a chunked body. -/
structure ChunkedErrors extends StreamErrors where
  line : ProxyError → ProxyError
  size : ProxyError → ProxyError
  trailer : ProxyError → ProxyError
  dataEof : ProxyError
  dataEnding : ProxyError
  trailersTooLarge : ProxyError
  tooManyTrailers : ProxyError

def clientReadError (source : IoError) : ProxyError := .clientRead source.kind source.message

def upstreamWriteError (source : IoError) : ProxyError := .write source.kind source.message

def responseStartedError (source : IoError) : ProxyError := .responseStarted source.message

def requestErrors : StreamErrors where
  read := clientReadError
  write := upstreamWriteError

def responseErrors : StreamErrors where
  read := responseStartedError
  write := responseStartedError

def invalidChunkedResponse : ProxyError → ProxyError
  | .clientRead _ message | .invalidClientBody message =>
    .responseStarted ("invalid chunked upstream response: " ++ message)
  | error => error

def invalidResponseChunkSize : ProxyError → ProxyError
  | .invalidClientBody message => .responseStarted ("invalid chunked upstream response: " ++ message)
  | error => error

def invalidResponseTrailer : ProxyError → ProxyError
  | .invalidClientBody message => .responseStarted ("invalid upstream trailer: " ++ message)
  | error => error

def requestChunkedErrors : ChunkedErrors where
  toStreamErrors := requestErrors
  line error := error
  size error := error
  trailer error := error
  dataEof := .clientRead .unexpectedEof "client disconnected during chunk data"
  dataEnding := .invalidClientBody "chunk data is not followed by CRLF"
  trailersTooLarge := .invalidClientBody "trailer section is too large"
  tooManyTrailers := .invalidClientBody "too many trailer fields"

def responseChunkedErrors : ChunkedErrors where
  toStreamErrors := responseErrors
  line := invalidChunkedResponse
  size := invalidResponseChunkSize
  trailer := invalidResponseTrailer
  dataEof := .responseStarted "upstream disconnected during chunk data"
  dataEnding := .responseStarted "chunk data is not followed by CRLF"
  trailersTooLarge := .responseStarted "upstream trailer section is too large"
  tooManyTrailers := .responseStarted "too many upstream trailer fields"

/-! ### Blocks -/

/-- The loop that copies exactly `remaining` bytes in blocks. -/
def copyExact (errors : StreamErrors) (eof : ProxyError) (remaining : Nat) (r : ρ) (w : Sink) :
    Except ProxyError Unit × ρ × Sink :=
  if remaining = 0 then (.ok (), r, w)
  else match _h : read (min remaining streamBufferSize) r with
    | (.error e, r) => (.error (errors.read e), r, w)
    | (.ok bytes, r) =>
      if _hbytes : bytes = [] then (.error eof, r, w)
      else match w.writeAll bytes with
        | (.error e, w) => (.error (errors.write e), r, w)
        | (.ok (), w) => copyExact errors eof (remaining - bytes.length) r w
termination_by remaining
decreasing_by
  have : bytes.length ≠ 0 := by simpa using _hbytes
  omega

/-- A completed copy has moved exactly the announced number of bytes. -/
theorem copyExact_ok {errors : StreamErrors} {eof : ProxyError} {remaining : Nat} {r r' : ρ} {w w' : Sink}
    (h : copyExact errors eof remaining r w = (.ok (), r', w')) :
    ∃ body, body.length = remaining ∧ pending r = body ++ pending r' ∧ w'.written = w.written ++ body := by
  fun_induction copyExact errors eof remaining r w with
  | case1 r w =>
    cases h
    exact ⟨[], rfl, rfl, by simp⟩
  | case2 => cases h
  | case3 => cases h
  | case4 => cases h
  | case5 remaining r w hremaining bytes r₁ hread hbytes w₁ hwrite ih =>
    obtain ⟨body, hlen, hpending, hwritten⟩ := ih h
    obtain ⟨hpending₁, hle, -⟩ := read_ok hread
    refine ⟨bytes ++ body, ?_, ?_, ?_⟩
    · rw [List.length_append, hlen]
      omega
    · rw [hpending₁, hpending, List.append_assoc]
    · rw [hwritten, Sink.writeAll_ok hwrite, List.append_assoc]

/-- The loop that copies everything up to the end. -/
def copyToEnd (errors : StreamErrors) (r : ρ) (w : Sink) : Except ProxyError Unit × ρ × Sink :=
  match _h : read streamBufferSize r with
  | (.error e, r) => (.error (errors.read e), r, w)
  | (.ok bytes, r') =>
    if _hbytes : bytes = [] then (.ok (), r', w)
    else match w.writeAll bytes with
      | (.error e, w) => (.error (errors.write e), r', w)
      | (.ok (), w) => copyToEnd errors r' w
termination_by size r
decreasing_by exact (read_ok _h).2.2 _hbytes

/-- What the copy has written, it has read, in order, and on a clean reader that is everything. -/
theorem copyToEnd_ok {errors : StreamErrors} {r r' : ρ} {w w' : Sink}
    (h : copyToEnd errors r w = (.ok (), r', w')) :
    ∃ body, pending r = body ++ pending r' ∧ w'.written = w.written ++ body ∧ (Clean r → pending r' = []) := by
  have hpos : 0 < streamBufferSize := by decide
  fun_induction copyToEnd errors r w with
  | case1 => cases h
  | case2 r w r₁ hread =>
    cases h
    refine ⟨[], (read_ok hread).1, by simp, fun hclean => ?_⟩
    obtain ⟨-, hend⟩ := read_clean_ok hclean hpos hread
    have hbytes := (read_ok hread).1
    rw [hend rfl] at hbytes
    simpa using hbytes.symm
  | case3 => cases h
  | case4 r w bytes r₁ hread hbytes w₁ hwrite ih =>
    obtain ⟨body, hpending, hwritten, hend⟩ := ih h
    refine ⟨bytes ++ body, ?_, ?_, fun hclean => hend (read_clean_ok hclean hpos hread).1⟩
    · rw [(read_ok hread).1, hpending, List.append_assoc]
    · rw [hwritten, Sink.writeAll_ok hwrite, List.append_assoc]

/-! ### Chunk framing -/

/-- The loop of `read_chunk_line`, with the bytes of the line read so far. -/
def readChunkLineLoop (maximumSize : Nat) (line : Bytes) (r : ρ) : Except ProxyError Bytes × ρ :=
  match _h : readExact 1 r with
  | (.error e, r) => (.error (clientReadError e), r)
  | (.ok byte, r') =>
    let byte := byte.headD 0
    if byte = cr then
      match readExact 1 r' with
      | (.error e, r) => (.error (clientReadError e), r)
      | (.ok byte, r) =>
        if byte.headD 0 ≠ lf then
          (.error (.invalidClientBody "CR in chunk framing is not followed by LF"), r)
        else (.ok line, r)
    else if byte = lf then (.error (.invalidClientBody "bare LF in chunk framing"), r')
    else if line.length ≥ maximumSize then (.error (.invalidClientBody "chunk framing line is too long"), r')
    else readChunkLineLoop maximumSize (line ++ [byte]) r'
termination_by (pending r).length
decreasing_by
  obtain ⟨hpending, hlen⟩ := readExact_ok _h
  rw [hpending, List.length_append, hlen]
  omega

def readChunkLine (maximumSize : Nat) (r : ρ) : Except ProxyError Bytes × ρ := readChunkLineLoop maximumSize [] r

theorem eq_singleton_headD {bytes : Bytes} (h : bytes.length = 1) : bytes = [bytes.headD 0] := by
  obtain ⟨b, rfl⟩ := List.length_eq_one_iff.1 h
  rfl

theorem readChunkLineLoop_ok {maximumSize : Nat} {line result : Bytes} {r r' : ρ}
    (h : readChunkLineLoop maximumSize line r = (.ok result, r')) :
    ∃ more, result = line ++ more ∧ IsLine more ∧ pending r = more ++ crlf ++ pending r' ∧
      (line.length ≤ maximumSize → result.length ≤ maximumSize) := by
  fun_induction readChunkLineLoop maximumSize line r with
  | case1 => cases h
  | case2 => cases h
  | case3 => cases h
  | case4 line r bytes r₁ hfirst byte hcr bytes' r₂ hsecond hlf =>
    cases h
    obtain ⟨hpending, hlen⟩ := readExact_ok hfirst
    obtain ⟨hpending', hlen'⟩ := readExact_ok hsecond
    refine ⟨[], by simp, isLine_nil, ?_, fun hle => hle⟩
    rw [hpending, hpending', eq_singleton_headD hlen, eq_singleton_headD hlen', not_not.1 hlf,
      show bytes.headD 0 = cr from hcr]
    rfl
  | case5 => cases h
  | case6 => cases h
  | case7 line r bytes r₁ hfirst byte hcr hlf hlen ih =>
    obtain ⟨more, hresult, hline, hpending, hbound⟩ := ih h
    obtain ⟨hfirstPending, hone⟩ := readExact_ok hfirst
    have hbytes : bytes = [byte] := eq_singleton_headD hone
    refine ⟨byte :: more, by rw [hresult, List.append_assoc, List.singleton_append], ?_, ?_, ?_⟩
    · simp only [IsLine, List.mem_cons, not_or]
      exact ⟨⟨Ne.symm hcr, hline.1⟩, ⟨Ne.symm hlf, hline.2⟩⟩
    · rw [hfirstPending, hpending, hbytes]
      rfl
    · intro _
      apply hbound
      rw [List.length_append, List.length_singleton]
      omega

/-- A chunk line is a line within the limit, and it and its CR LF are what was read. -/
theorem readChunkLine_ok {maximumSize : Nat} {line : Bytes} {r r' : ρ}
    (h : readChunkLine maximumSize r = (.ok line, r')) :
    IsLine line ∧ line.length ≤ maximumSize ∧ pending r = line ++ crlf ++ pending r' := by
  obtain ⟨more, hline, hisLine, hpending, hbound⟩ := readChunkLineLoop_ok h
  rw [List.nil_append] at hline
  subst hline
  exact ⟨hisLine, hbound (Nat.zero_le _), hpending⟩

def isValidChunkExtensionByte (b : Byte) : Bool := b == 9 || (32 ≤ b && b ≤ 126)

def isValidTrailerValueByte (b : Byte) : Bool := b == 9 || (32 ≤ b && b ≤ 126) || 128 ≤ b

def parseChunkSize (line : Bytes) : Except ProxyError Nat :=
  let (size, extension) : Bytes × Option Bytes :=
    match line.idxOf? 59 with
    | some index => (line.take index, some (line.drop (index + 1)))
    | none => (line, none)
  if size.isEmpty || !size.all isAsciiHexdigit then
    .error (.invalidClientBody "invalid hexadecimal chunk size")
  else if extension.any fun extension => extension.isEmpty || !extension.all isValidChunkExtensionByte then
    .error (.invalidClientBody "invalid chunk extension")
  else if !validUtf8 size then .error (.invalidClientBody "invalid hexadecimal chunk size")
  else match fromStrRadix 16 u64Max size with
    | some size => .ok size
    | none => .error (.invalidClientBody "chunk size is too large")

def validateTrailerLine (line : Bytes) : Except ProxyError Unit :=
  match line.idxOf? 58 with
  | none => .error (.invalidClientBody "invalid trailer field")
  | some separator =>
    let name := line.take separator
    let value := trimOptionalWhitespace (line.drop (separator + 1))
    if name.isEmpty || !name.all isTokenByte then .error (.invalidClientBody "invalid trailer field name")
    else if isForbiddenTrailerName name then .error (.invalidClientBody "forbidden trailer field")
    else if !value.all isValidTrailerValueByte then .error (.invalidClientBody "invalid trailer field value")
    else .ok ()

/-- A line and its CR LF, in two writes. -/
def writeLine (line : Bytes) (w : Sink) : Except IoError Unit × Sink :=
  match w.writeAll line with
  | (.error e, w) => (.error e, w)
  | (.ok (), w) => w.writeAll crlf

/-- The trailer loop, with the number of fields and of bytes so far. -/
def streamTrailers (errors : ChunkedErrors) (trailerCount trailerBytes : Nat) (r : ρ) (w : Sink) :
    Except ProxyError Unit × ρ × Sink :=
  match _h : readChunkLine maxTrailerLineSize r with
  | (.error e, r) => (.error (errors.line e), r, w)
  | (.ok line, r) =>
    let trailerBytes := trailerBytes + (line.length + 2)
    if trailerBytes > maxTrailerBlockSize then (.error errors.trailersTooLarge, r, w)
    else if line.isEmpty then
      match w.writeAll crlf with
      | (.error e, w) => (.error (errors.write e), r, w)
      | (.ok (), w) => (.ok (), r, w)
    else if trailerCount ≥ maxTrailerCount then (.error errors.tooManyTrailers, r, w)
    else match validateTrailerLine line with
      | .error e => (.error (errors.trailer e), r, w)
      | .ok () =>
        match writeLine line w with
        | (.error e, w) => (.error (errors.write e), r, w)
        | (.ok (), w) => streamTrailers errors (trailerCount + 1) trailerBytes r w
termination_by (pending r).length
decreasing_by
  obtain ⟨-, -, hpending⟩ := readChunkLine_ok _h
  rw [hpending]
  simp only [List.length_append, crlf, List.length_cons, List.length_nil]
  omega

theorem writeLine_ok {line : Bytes} {w w' : Sink} (h : writeLine line w = (.ok (), w')) :
    w'.written = w.written ++ line ++ crlf := by
  unfold writeLine at h
  split at h
  · cases h
  · rename_i w₁ hfirst
    rw [Sink.writeAll_ok h, Sink.writeAll_ok hfirst]

/-- A trailer section: validated fields within the limits, then an empty line. -/
inductive TrailerSection : Nat → Nat → Bytes → Prop
  | done {count bytes : Nat} (hsize : bytes + 2 ≤ maxTrailerBlockSize) : TrailerSection count bytes crlf
  | field {count bytes : Nat} {line rest : Bytes} (hline : IsLine line) (hne : line ≠ [])
      (hlength : line.length ≤ maxTrailerLineSize) (hsize : bytes + (line.length + 2) ≤ maxTrailerBlockSize)
      (hcount : count < maxTrailerCount) (hvalid : validateTrailerLine line = .ok ())
      (hrest : TrailerSection (count + 1) (bytes + (line.length + 2)) rest) :
      TrailerSection count bytes (line ++ crlf ++ rest)

theorem streamTrailers_ok {errors : ChunkedErrors} {count bytes : Nat} {r r' : ρ} {w w' : Sink}
    (h : streamTrailers errors count bytes r w = (.ok (), r', w')) :
    ∃ trailers, TrailerSection count bytes trailers ∧ pending r = trailers ++ pending r' ∧
      w'.written = w.written ++ trailers := by
  fun_induction streamTrailers errors count bytes r w with
  | case1 => cases h
  | case2 => cases h
  | case3 => cases h
  | case4 count bytes r w line r₁ hread total hsize hempty w₁ hwrite =>
    cases h
    have hnil : line = [] := by simpa using hempty
    subst hnil
    obtain ⟨-, -, hpending⟩ := readChunkLine_ok hread
    exact ⟨crlf, .done (by simpa [total] using hsize), by simpa using hpending, Sink.writeAll_ok hwrite⟩
  | case5 => cases h
  | case6 => cases h
  | case7 => cases h
  | case8 count bytes r w line r₁ hread total hsize hempty hcount hvalid w₁ hwrite ih =>
    obtain ⟨trailers, hsection, hpending, hwritten⟩ := ih h
    obtain ⟨hline, hlength, hpending₁⟩ := readChunkLine_ok hread
    refine ⟨line ++ crlf ++ trailers, ?_, ?_, ?_⟩
    · exact .field hline (by simpa using hempty) hlength (by simpa [total] using hsize) (by omega) hvalid hsection
    · rw [hpending₁, hpending]
      simp only [List.append_assoc]
    · rw [hwritten, writeLine_ok hwrite]
      simp only [List.append_assoc]

/-- The loop over the chunks of a body. -/
def streamChunked (errors : ChunkedErrors) (r : ρ) (w : Sink) : Except ProxyError Unit × ρ × Sink :=
  match _hline : readChunkLine maxChunkLineSize r with
  | (.error e, r) => (.error (errors.line e), r, w)
  | (.ok sizeLine, r₁) =>
    match parseChunkSize sizeLine with
    | .error e => (.error (errors.size e), r₁, w)
    | .ok chunkSize =>
      match writeLine sizeLine w with
      | (.error e, w) => (.error (errors.write e), r₁, w)
      | (.ok (), w) =>
        if chunkSize = 0 then streamTrailers errors 0 0 r₁ w
        else match _hdata : copyExact errors.toStreamErrors errors.dataEof chunkSize r₁ w with
          | (.error e, r, w) => (.error e, r, w)
          | (.ok (), r₂, w) =>
            match _hend : readExact 2 r₂ with
            | (.error e, r) => (.error (errors.read e), r, w)
            | (.ok ending, r₃) =>
              if ending ≠ crlf then (.error errors.dataEnding, r₃, w)
              else match w.writeAll crlf with
                | (.error e, w) => (.error (errors.write e), r₃, w)
                | (.ok (), w) => streamChunked errors r₃ w
termination_by (pending r).length
decreasing_by
  obtain ⟨-, -, hpending⟩ := readChunkLine_ok _hline
  obtain ⟨body, -, hpending₁, -⟩ := copyExact_ok _hdata
  obtain ⟨hpending₂, -⟩ := readExact_ok _hend
  rw [hpending, hpending₁, hpending₂]
  simp only [List.length_append, crlf, List.length_cons, List.length_nil]
  omega

/-- A complete chunked message: chunks with their size lines, the last one of size zero, and a trailer
section. -/
inductive ChunkedMessage : Bytes → Prop
  | last {line trailers : Bytes} (hline : IsLine line) (hlength : line.length ≤ maxChunkLineSize)
      (hsize : parseChunkSize line = .ok 0) (htrailers : TrailerSection 0 0 trailers) :
      ChunkedMessage (line ++ crlf ++ trailers)
  | chunk {line data rest : Bytes} (hline : IsLine line) (hlength : line.length ≤ maxChunkLineSize)
      (hsize : parseChunkSize line = .ok data.length) (hne : data ≠ []) (hrest : ChunkedMessage rest) :
      ChunkedMessage (line ++ crlf ++ data ++ crlf ++ rest)

/-- A completed chunked body has moved one complete chunked message, byte for byte. -/
theorem streamChunked_ok {errors : ChunkedErrors} {r r' : ρ} {w w' : Sink}
    (h : streamChunked errors r w = (.ok (), r', w')) :
    ∃ message, ChunkedMessage message ∧ pending r = message ++ pending r' ∧
      w'.written = w.written ++ message := by
  fun_induction streamChunked errors r w with
  | case1 => cases h
  | case2 => cases h
  | case3 => cases h
  | case4 r w line r₁ hread w₁ hwrite hsize =>
    obtain ⟨trailers, htrailers, hpending, hwritten⟩ := streamTrailers_ok h
    obtain ⟨hline, hlength, hpending₁⟩ := readChunkLine_ok hread
    refine ⟨line ++ crlf ++ trailers, .last hline hlength hsize htrailers, ?_, ?_⟩
    · rw [hpending₁, hpending]
      simp only [List.append_assoc]
    · rw [hwritten, writeLine_ok hwrite]
      simp only [List.append_assoc]
  | case5 => cases h
  | case6 => cases h
  | case7 => cases h
  | case8 => cases h
  | case9 r w line r₁ hread chunkSize hsize w₁ hwrite hzero r₂ w₂ hdata ending r₃ hend hending w₃ hcrlf ih =>
    obtain ⟨message, hmessage, hpending, hwritten⟩ := ih h
    obtain ⟨hline, hlength, hpending₁⟩ := readChunkLine_ok hread
    obtain ⟨data, hdataLength, hpending₂, hwritten₂⟩ := copyExact_ok hdata
    obtain ⟨hpending₃, -⟩ := readExact_ok hend
    rw [not_not.1 hending] at hpending₃
    subst hdataLength
    have hne : data ≠ [] := by
      intro hnil
      exact hzero (by rw [hnil]; rfl)
    refine ⟨line ++ crlf ++ data ++ crlf ++ message, .chunk hline hlength hsize hne hmessage, ?_, ?_⟩
    · rw [hpending₁, hpending₂, hpending₃, hpending]
      simp only [List.append_assoc]
    · rw [hwritten, Sink.writeAll_ok hcrlf, hwritten₂, writeLine_ok hwrite]
      simp only [List.append_assoc]

/-! ### What reads keep, the streamers keep -/

section Closed

variable {P : ρ → Prop} {r r' : ρ} {w w' : Sink}

theorem copyExact_closed (hP : Closed P) {errors : StreamErrors} {eof : ProxyError} {remaining : Nat}
    {result : Except ProxyError Unit} (hr : P r) (h : copyExact errors eof remaining r w = (result, r', w')) :
    P r' := by
  fun_induction copyExact errors eof remaining r w <;> grind [Reader.Closed]

theorem readChunkLineLoop_closed (hP : Closed P) {maximumSize : Nat} {line : Bytes}
    {result : Except ProxyError Bytes} (hr : P r) (h : readChunkLineLoop maximumSize line r = (result, r')) :
    P r' := by
  fun_induction readChunkLineLoop maximumSize line r <;> grind [Reader.readExact_closed]

theorem readChunkLine_closed (hP : Closed P) {maximumSize : Nat} {result : Except ProxyError Bytes}
    (hr : P r) (h : readChunkLine maximumSize r = (result, r')) : P r' := readChunkLineLoop_closed hP hr h

theorem streamTrailers_closed (hP : Closed P) {errors : ChunkedErrors} {count bytes : Nat}
    {result : Except ProxyError Unit} (hr : P r) (h : streamTrailers errors count bytes r w = (result, r', w')) :
    P r' := by
  fun_induction streamTrailers errors count bytes r w <;> grind [readChunkLine_closed]

theorem streamChunked_closed (hP : Closed P) {errors : ChunkedErrors} {result : Except ProxyError Unit}
    (hr : P r) (h : streamChunked errors r w = (result, r', w')) : P r' := by
  fun_induction streamChunked errors r w <;>
    grind [readChunkLine_closed, streamTrailers_closed, copyExact_closed, Reader.readExact_closed]

end Closed

/-- What is left of the buffered bytes is an end of them. -/
theorem PrefixedReader.closed_suffix (bufferedBody : Bytes) :
    Closed fun r : PrefixedReader ρ => r.remainingPrefix <:+ bufferedBody := by
  intro n r result r' hr h
  have hread : PrefixedReader.read n r = (result, r') := h
  unfold PrefixedReader.read at hread
  split at hread
  · cases hread
    exact hr
  · split at hread
    · cases hread
      exact (List.drop_suffix _ _).trans hr
    · cases hread
      exact hr

/-! ### The functions of the source -/

def streamChunkData (reader : ρ) (upstream : Sink) (remaining : Nat) : Except ProxyError Unit × ρ × Sink :=
  copyExact requestErrors requestChunkedErrors.dataEof remaining reader upstream

def streamRequestTrailers (reader : ρ) (upstream : Sink) : Except ProxyError Unit × ρ × Sink :=
  streamTrailers requestChunkedErrors 0 0 reader upstream

/-- The bytes of the buffered part that follow the body are handed back. -/
def streamChunkedRequestBody (client : ρ) (upstream : Sink) (bufferedBody : Bytes) :
    Except ProxyError Bytes × ρ × Sink :=
  match streamChunked requestChunkedErrors (PrefixedReader.mk bufferedBody client) upstream with
  | (.error e, reader, upstream) => (.error e, reader.inner, upstream)
  | (.ok (), reader, upstream) => (.ok reader.remainingPrefix, reader.inner, upstream)

def streamResponseChunkData (reader : ρ) (client : Sink) (remaining : Nat) : Except ProxyError Unit × ρ × Sink :=
  copyExact responseErrors responseChunkedErrors.dataEof remaining reader client

def streamResponseTrailers (reader : ρ) (client : Sink) : Except ProxyError Unit × ρ × Sink :=
  streamTrailers responseChunkedErrors 0 0 reader client

def streamChunkedResponseBody (upstream : ρ) (client : Sink) (bufferedBody : Bytes) :
    Except ProxyError Unit × ρ × Sink :=
  match streamChunked responseChunkedErrors (PrefixedReader.mk bufferedBody upstream) client with
  | (result, reader, client) => (result, reader.inner, client)

/-- Writes the buffered part of a body, unless it is empty. -/
def writeBuffered (errors : StreamErrors) (bytes : Bytes) (w : Sink) : Except ProxyError Unit × Sink :=
  if bytes.length > 0 then
    match w.writeAll bytes with
    | (.error e, w) => (.error (errors.write e), w)
    | (.ok (), w) => (.ok (), w)
  else (.ok (), w)

/-- A body of known length: first what is buffered of it, then the rest in blocks. -/
def streamFixed (errors : StreamErrors) (eof : ProxyError) (contentLength : Nat) (bufferedBody : Bytes)
    (r : ρ) (w : Sink) : Except ProxyError Unit × ρ × Sink :=
  let bufferedLength := min bufferedBody.length contentLength
  match writeBuffered errors (bufferedBody.take bufferedLength) w with
  | (.error e, w) => (.error e, r, w)
  | (.ok (), w) => copyExact errors eof (contentLength - bufferedLength) r w

def streamRequestBody (client : ρ) (upstream : Sink) (contentLength : Nat) (bufferedBody : Bytes) :
    Except ProxyError Bytes × ρ × Sink :=
  let bufferedLength := min bufferedBody.length contentLength
  let bufferedClientBytes := bufferedBody.drop bufferedLength
  match streamFixed requestErrors
      (.clientRead .unexpectedEof "client disconnected before completing request body")
      contentLength bufferedBody client upstream with
  | (.error e, client, upstream) => (.error e, client, upstream)
  | (.ok (), client, upstream) => (.ok bufferedClientBytes, client, upstream)

def streamFixedResponseBody (upstream : ρ) (client : Sink) (contentLength : Nat) (bufferedBody : Bytes) :
    Except ProxyError Unit × ρ × Sink :=
  streamFixed responseErrors (.responseStarted "upstream disconnected before completing response body")
    contentLength bufferedBody upstream client

def streamCloseDelimitedResponseBody (upstream : ρ) (client : Sink) (bufferedBody : Bytes) :
    Except ProxyError Unit × ρ × Sink :=
  match writeBuffered responseErrors bufferedBody client with
  | (.error e, client) => (.error e, upstream, client)
  | (.ok (), client) => copyToEnd responseErrors upstream client

/-! ### What a completed body has moved -/

theorem writeBuffered_ok {errors : StreamErrors} {bytes : Bytes} {w w' : Sink}
    (h : writeBuffered errors bytes w = (.ok (), w')) : w'.written = w.written ++ bytes := by
  unfold writeBuffered at h
  split at h
  · split at h
    · cases h
    · rename_i w₁ hwrite
      cases h
      exact Sink.writeAll_ok hwrite
  · rename_i hempty
    cases h
    have hnil : bytes = [] := by simpa using hempty
    rw [hnil, List.append_nil]

/-- A completed body of known length has exactly that length; what was buffered after it stays. -/
theorem streamFixed_ok {errors : StreamErrors} {eof : ProxyError} {contentLength : Nat} {bufferedBody : Bytes}
    {r r' : ρ} {w w' : Sink} (h : streamFixed errors eof contentLength bufferedBody r w = (.ok (), r', w')) :
    ∃ body, body.length = contentLength ∧
      bufferedBody ++ pending r = body ++ bufferedBody.drop (min bufferedBody.length contentLength) ++ pending r' ∧
      w'.written = w.written ++ body := by
  unfold streamFixed at h
  dsimp only at h
  split at h
  · cases h
  · rename_i w₁ hbuffered
    obtain ⟨body, hlen, hpending, hwritten⟩ := copyExact_ok h
    refine ⟨bufferedBody.take (min bufferedBody.length contentLength) ++ body, ?_, ?_, ?_⟩
    · rw [List.length_append, List.length_take, hlen]
      omega
    · rcases Nat.le_total bufferedBody.length contentLength with hle | hle
      · rw [Nat.min_eq_left hle, List.take_length, List.drop_length, hpending]
        simp
      · have hbody : body = [] := by
          rw [← List.length_eq_zero_iff, hlen, Nat.min_eq_right hle, Nat.sub_self]
        subst hbody
        rw [hpending, List.append_nil, List.take_append_drop, List.nil_append]
    · rw [hwritten, writeBuffered_ok hbuffered, List.append_assoc]

theorem streamRequestBody_ok {client client' : ρ} {upstream upstream' : Sink} {contentLength : Nat}
    {bufferedBody rest : Bytes}
    (h : streamRequestBody client upstream contentLength bufferedBody = (.ok rest, client', upstream')) :
    ∃ body, body.length = contentLength ∧ bufferedBody ++ pending client = body ++ rest ++ pending client' ∧
      upstream'.written = upstream.written ++ body ∧ rest <:+ bufferedBody := by
  unfold streamRequestBody at h
  dsimp only at h
  split at h
  · cases h
  · rename_i client₁ upstream₁ hfixed
    cases h
    obtain ⟨body, hlen, hpending, hwritten⟩ := streamFixed_ok hfixed
    exact ⟨body, hlen, hpending, hwritten, List.drop_suffix _ _⟩

theorem streamChunkedRequestBody_ok {client client' : ρ} {upstream upstream' : Sink} {bufferedBody rest : Bytes}
    (h : streamChunkedRequestBody client upstream bufferedBody = (.ok rest, client', upstream')) :
    ∃ message, ChunkedMessage message ∧ bufferedBody ++ pending client = message ++ rest ++ pending client' ∧
      upstream'.written = upstream.written ++ message ∧ rest <:+ bufferedBody := by
  unfold streamChunkedRequestBody at h
  split at h
  · cases h
  · rename_i reader upstream₁ hchunked
    cases h
    obtain ⟨message, hmessage, hpending, hwritten⟩ := streamChunked_ok hchunked
    refine ⟨message, hmessage, ?_, hwritten, ?_⟩
    · rw [List.append_assoc]
      exact hpending
    · exact streamChunked_closed (P := fun r => r.remainingPrefix <:+ bufferedBody)
        (PrefixedReader.closed_suffix bufferedBody) List.suffix_rfl hchunked

theorem streamCloseDelimitedResponseBody_ok {upstream upstream' : ρ} {client client' : Sink} {bufferedBody : Bytes}
    (h : streamCloseDelimitedResponseBody upstream client bufferedBody = (.ok (), upstream', client')) :
    ∃ body, bufferedBody ++ pending upstream = body ++ pending upstream' ∧
      client'.written = client.written ++ body ∧ (Clean upstream → pending upstream' = []) := by
  unfold streamCloseDelimitedResponseBody at h
  split at h
  · cases h
  · rename_i client₁ hbuffered
    obtain ⟨body, hpending, hwritten, hend⟩ := copyToEnd_ok h
    refine ⟨bufferedBody ++ body, by rw [hpending, List.append_assoc], ?_, hend⟩
    rw [hwritten, writeBuffered_ok hbuffered, List.append_assoc]

end BareProxy.Proxy
