import BareProxy.Http.Parse
import BareProxy.Proxy.CleanReads

/-!
# Relaying a chunked body

What a complete chunked message is, as text, and that the request side relays exactly such messages: it succeeds when the
bytes buffered and still to come begin with one, sends it on byte for byte, and leaves what follows it unread or hands it
back. When it fails, what it sent is still the front of what the client sends.
-/

namespace BareProxy.Proxy

open Http Reader

variable {ρ : Type} [Reader ρ]

/-! ### The grammar -/

/-- A size in hexadecimal digits, below 2^64, and at most one extension behind a semicolon. -/
structure IsChunkSizeLine (line : Bytes) (size : Nat) : Prop where
  parts : ∃ digits extension, line = digits ++ extension ∧
    digits ≠ [] ∧ (∀ b ∈ digits, isAsciiHexdigit b = true) ∧ radixValue 16 digits = size ∧
    (extension = [] ∨ ∃ text, extension = 59 :: text ∧ text ≠ [] ∧ ∀ b ∈ text, b = 9 ∨ 32 ≤ b ∧ b ≤ 126)
  size_lt : size < 2 ^ 64
  length_le : line.length ≤ maxChunkLineSize

/-- A field name that is not one of the forbidden ones, a colon, and a value. -/
structure IsTrailerLine (line : Bytes) : Prop where
  parts : ∃ name value, line = name ++ 58 :: value ∧
    name ≠ [] ∧ (∀ b ∈ name, isTokenByte b = true) ∧ isForbiddenTrailerName name = false ∧
    ∀ b ∈ value, b = 9 ∨ (32 ≤ b ∧ b ≤ 126) ∨ 128 ≤ b
  length_le : line.length ≤ maxTrailerLineSize

/-- Trailer fields and the empty line behind them, within the limits. -/
structure IsTrailerSection (trailers : Bytes) (lines : List Bytes) : Prop where
  text : trailers = unlines lines ++ crlf
  fields : ∀ line ∈ lines, IsTrailerLine line
  count_le : lines.length ≤ maxTrailerCount
  length_le : trailers.length ≤ maxTrailerBlockSize

/-- Chunks with their sizes, a chunk of size zero, and a trailer section. -/
inductive IsChunkedMessage : Bytes → Prop
  | last {line trailers : Bytes} {lines : List Bytes} (hline : IsChunkSizeLine line 0)
      (htrailers : IsTrailerSection trailers lines) : IsChunkedMessage (line ++ crlf ++ trailers)
  | chunk {line data rest : Bytes} (hline : IsChunkSizeLine line data.length) (hne : data ≠ [])
      (hrest : IsChunkedMessage rest) : IsChunkedMessage (line ++ crlf ++ data ++ crlf ++ rest)

/-! ### Lines -/

theorem isNumeral_sixteen {s : Bytes} (h : ∀ b ∈ s, isAsciiHexdigit b = true) (hne : s ≠ []) : IsNumeral 16 s := by
  have hdigit : ∀ b : Byte, isAsciiHexdigit b = true → ∃ digit ∈ digitValue b, digit < 16 := by
    intro b
    apply byte_forall (p := fun b => isAsciiHexdigit b = true → ∃ digit ∈ digitValue b, digit < 16)
    decide +kernel
  refine ⟨hne, fun b hb => ?_⟩
  obtain ⟨digit, hvalue, hlt⟩ := hdigit b (h b hb)
  exact ⟨digit, hvalue, hlt⟩

theorem isAsciiHexdigit_facts (b : Byte) : isAsciiHexdigit b = true → b ≠ 43 ∧ b ≠ 59 ∧ b ≠ cr ∧ b ≠ lf ∧ b < 128 := by
  apply byte_forall (p := fun b => isAsciiHexdigit b = true → b ≠ 43 ∧ b ≠ 59 ∧ b ≠ cr ∧ b ≠ lf ∧ b < 128)
  decide +kernel

theorem isValidChunkExtensionByte_iff (b : Byte) :
    isValidChunkExtensionByte b = true ↔ b = 9 ∨ 32 ≤ b ∧ b ≤ 126 := by
  simp [isValidChunkExtensionByte]

theorem isValidTrailerValueByte_iff (b : Byte) :
    isValidTrailerValueByte b = true ↔ b = 9 ∨ (32 ≤ b ∧ b ≤ 126) ∨ 128 ≤ b := by
  simp [isValidTrailerValueByte, or_assoc]

/-- The size of a chunk is read from the digits in front of the extension. -/
theorem parseChunkSize_digits {digits : Bytes} (hne : digits ≠ []) (hdigits : ∀ b ∈ digits, isAsciiHexdigit b = true)
    {size : Nat} : fromStrRadix 16 u64Max digits = some size ↔ radixValue 16 digits = size ∧ size < 2 ^ 64 := by
  have hsign : digits.head? ≠ some 43 := by
    intro hhead
    exact (isAsciiHexdigit_facts 43 (hdigits 43 (List.mem_of_mem_head? hhead))).1 rfl
  rw [fromStrRadix_iff (by decide) hsign]
  constructor
  · intro h
    exact ⟨h.2.1, Nat.lt_of_le_of_lt h.2.2 (by decide)⟩
  · intro h
    exact ⟨isNumeral_sixteen hdigits hne, h.1, Nat.le_of_lt_succ h.2⟩

/-- The checks of `parse_chunk_size` once the line is cut at its semicolon. -/
def checkChunkSize (size : Bytes) (extension : Option Bytes) : Except ProxyError Nat :=
  if size.isEmpty || !size.all isAsciiHexdigit then .error (.invalidClientBody "invalid hexadecimal chunk size")
  else if extension.any fun extension => extension.isEmpty || !extension.all isValidChunkExtensionByte then
    .error (.invalidClientBody "invalid chunk extension")
  else if !validUtf8 size then .error (.invalidClientBody "invalid hexadecimal chunk size")
  else match fromStrRadix 16 u64Max size with
    | some size => .ok size
    | none => .error (.invalidClientBody "chunk size is too large")

theorem parseChunkSize_cut {digits : Bytes} (hdigits : (59 : Byte) ∉ digits) (text : Bytes) :
    parseChunkSize (digits ++ 59 :: text) = checkChunkSize digits (some text) := by
  have hfind : (digits ++ 59 :: text).idxOf? 59 = some digits.length := idxOf?_append_of_notMem hdigits text
  have htext : (digits ++ 59 :: text).drop (digits.length + 1) = text := by
    rw [← List.drop_drop, List.drop_left, List.drop_succ_cons, List.drop_zero]
  simp only [parseChunkSize, hfind, List.take_left, htext]
  rfl

theorem parseChunkSize_uncut {digits : Bytes} (hdigits : (59 : Byte) ∉ digits) :
    parseChunkSize digits = checkChunkSize digits none := by
  have hfind : digits.idxOf? 59 = none := List.idxOf?_eq_none_iff.2 hdigits
  simp only [parseChunkSize, hfind]
  rfl

theorem checkChunkSize_ok {digits : Bytes} {extension : Option Bytes} {size : Nat} :
    checkChunkSize digits extension = .ok size ↔
      digits ≠ [] ∧ (∀ b ∈ digits, isAsciiHexdigit b = true) ∧ radixValue 16 digits = size ∧ size < 2 ^ 64 ∧
        ∀ text ∈ extension, text ≠ [] ∧ ∀ b ∈ text, isValidChunkExtensionByte b = true := by
  unfold checkChunkSize
  constructor
  · intro h
    split at h
    · cases h
    · rename_i hshape
      simp only [Bool.or_eq_true, not_or, List.isEmpty_iff, Bool.not_eq_true', Bool.not_eq_false, List.all_eq_true]
        at hshape
      obtain ⟨hne, hdigits⟩ := hshape
      split at h
      · cases h
      · rename_i hextension
        split at h
        · cases h
        · split at h
          · rename_i found hfound
            obtain ⟨hvalue, hlt⟩ := (parseChunkSize_digits hne hdigits).1 hfound
            rw [← Except.ok.inj h]
            refine ⟨hne, hdigits, hvalue, hlt, fun text htext => ?_⟩
            rw [htext] at hextension
            simpa [List.isEmpty_iff] using hextension
          · cases h
  · intro h
    obtain ⟨hne, hdigits, hvalue, hlt, htext⟩ := h
    have hutf8 : validUtf8 digits = true := by
      apply validUtf8_of_isAscii
      apply List.all_eq_true.2
      intro b hb
      exact decide_eq_true (isAsciiHexdigit_facts b (hdigits b hb)).2.2.2.2
    have hextension : (extension.any fun text => text.isEmpty || !text.all isValidChunkExtensionByte) = false := by
      cases extension with
      | none => rfl
      | some text =>
          obtain ⟨hfull, hbytes⟩ := htext text rfl
          rw [Option.any_some, List.isEmpty_eq_false_iff.2 hfull, List.all_eq_true.2 hbytes]
          rfl
    rw [List.isEmpty_eq_false_iff.2 hne, List.all_eq_true.2 hdigits, hextension, hutf8,
      (parseChunkSize_digits hne hdigits).2 ⟨hvalue, hlt⟩]
    rfl

theorem isChunkSizeLine_iff {line : Bytes} {size : Nat} :
    IsChunkSizeLine line size ↔ IsLine line ∧ line.length ≤ maxChunkLineSize ∧ parseChunkSize line = .ok size := by
  have hsemicolon : ∀ {digits : Bytes}, (∀ b ∈ digits, isAsciiHexdigit b = true) → (59 : Byte) ∉ digits :=
    fun hdigits hmem => (isAsciiHexdigit_facts 59 (hdigits 59 hmem)).2.1 rfl
  constructor
  · intro h
    obtain ⟨digits, extension, hline, hne, hdigits, hvalue, hextension⟩ := h.parts
    have hdigitsLine : IsLine digits :=
      ⟨fun hmem => (isAsciiHexdigit_facts cr (hdigits cr hmem)).2.2.1 rfl,
        fun hmem => (isAsciiHexdigit_facts lf (hdigits lf hmem)).2.2.2.1 rfl⟩
    refine ⟨?_, h.length_le, ?_⟩
    · rw [hline, isLine_append]
      refine ⟨hdigitsLine, ?_⟩
      obtain hnone | hsome := hextension
      · rw [hnone]
        exact isLine_nil
      · obtain ⟨text, htext, -, hbytes⟩ := hsome
        rw [htext, ← List.singleton_append, isLine_append]
        refine ⟨by decide, fun hmem => ?_, fun hmem => ?_⟩
        · exact absurd (hbytes cr hmem) (by decide)
        · exact absurd (hbytes lf hmem) (by decide)
    · obtain hnone | hsome := hextension
      · rw [hline, hnone, List.append_nil, parseChunkSize_uncut (hsemicolon hdigits), checkChunkSize_ok]
        exact ⟨hne, hdigits, hvalue, h.size_lt, fun text htext => by cases htext⟩
      · obtain ⟨text, htext, hfull, hbytes⟩ := hsome
        rw [hline, htext, parseChunkSize_cut (hsemicolon hdigits), checkChunkSize_ok]
        refine ⟨hne, hdigits, hvalue, h.size_lt, fun other hother => ?_⟩
        rw [← Option.some.inj hother]
        exact ⟨hfull, fun b hb => (isValidChunkExtensionByte_iff b).2 (hbytes b hb)⟩
  · intro h
    obtain ⟨-, hlength, hparse⟩ := h
    cases hcut : line.idxOf? 59 with
    | none =>
        rw [parseChunkSize_uncut (List.idxOf?_eq_none_iff.1 hcut), checkChunkSize_ok] at hparse
        obtain ⟨hne, hdigits, hvalue, hlt, -⟩ := hparse
        exact ⟨⟨line, [], by rw [List.append_nil], hne, hdigits, hvalue, Or.inl rfl⟩, hlt, hlength⟩
    | some index =>
        obtain ⟨hparts, hfront⟩ := eq_append_of_idxOf? hcut
        rw [hparts, parseChunkSize_cut hfront, checkChunkSize_ok] at hparse
        obtain ⟨hne, hdigits, hvalue, hlt, htext⟩ := hparse
        obtain ⟨hfull, hbytes⟩ := htext _ rfl
        refine ⟨⟨_, _, hparts, hne, hdigits, hvalue, Or.inr ⟨_, rfl, hfull, fun b hb => ?_⟩⟩, hlt, hlength⟩
        exact (isValidChunkExtensionByte_iff b).1 (hbytes b hb)

theorem isTrailerLine_iff {line : Bytes} :
    IsTrailerLine line ↔ IsLine line ∧ line.length ≤ maxTrailerLineSize ∧ validateTrailerLine line = .ok () := by
  constructor
  · intro h
    obtain ⟨name, value, hline, hne, htoken, hallowed, hvalue⟩ := h.parts
    have hcolon : (58 : Byte) ∉ name := fun hmem => (isTokenByte_facts 58 (htoken 58 hmem)).2.2.1 rfl
    have hfind : line.idxOf? 58 = some name.length := by
      rw [hline]
      exact idxOf?_append_of_notMem hcolon value
    have hname : line.take name.length = name := by
      rw [hline, List.take_left]
    have hrest : line.drop (name.length + 1) = value := by
      rw [hline, ← List.drop_drop, List.drop_left, List.drop_succ_cons, List.drop_zero]
    have hvalid : (trimOptionalWhitespace value).all isValidTrailerValueByte = true := by
      apply List.all_eq_true.2
      intro b hb
      exact (isValidTrailerValueByte_iff b).2 (hvalue b (mem_of_mem_trimOptionalWhitespace hb))
    refine ⟨?_, h.length_le, ?_⟩
    · rw [hline, ← List.singleton_append, isLine_append, isLine_append]
      refine ⟨isLine_of_token htoken, by decide, fun hmem => ?_, fun hmem => ?_⟩
      · exact absurd (hvalue cr hmem) (by decide)
      · exact absurd (hvalue lf hmem) (by decide)
    · simp only [validateTrailerLine, hfind, hname, hrest, hvalid, hallowed, List.isEmpty_eq_false_iff.2 hne,
        List.all_eq_true.2 htoken, Bool.not_true, Bool.or_self, Bool.false_eq_true, if_false]
  · intro h
    obtain ⟨-, hlength, hvalid⟩ := h
    unfold validateTrailerLine at hvalid
    split at hvalid
    · cases hvalid
    · rename_i separator hseparator
      obtain ⟨hparts, -⟩ := eq_append_of_idxOf? hseparator
      dsimp only at hvalid
      split at hvalid
      · cases hvalid
      · rename_i hname
        simp only [Bool.or_eq_true, not_or, List.isEmpty_iff, Bool.not_eq_true', Bool.not_eq_false, List.all_eq_true]
          at hname
        split at hvalid
        · cases hvalid
        · rename_i hallowed
          split at hvalid
          · cases hvalid
          · rename_i hvalue
            simp only [Bool.not_eq_true', Bool.not_eq_false, List.all_eq_true] at hvalue
            refine ⟨⟨_, _, hparts, hname.1, hname.2, Bool.eq_false_iff.2 hallowed, fun b hb => ?_⟩, hlength⟩
            apply (isValidTrailerValueByte_iff b).1
            obtain ⟨before, after, hmiddle, hbefore, hafter⟩ :=
              exists_trimOptionalWhitespace (line.drop (separator + 1))
            rw [hmiddle, List.mem_append, List.mem_append] at hb
            obtain (hb | hb) | hb := hb
            · exact (isOptionalWhitespace_facts b (hbefore b hb)).1
            · exact hvalue b hb
            · exact (isOptionalWhitespace_facts b (hafter b hb)).1

/-! ### The grammar of the streamers -/

theorem IsTrailerLine.isLine {line : Bytes} (h : IsTrailerLine line) : IsLine line ∧ line ≠ [] := by
  obtain ⟨hline, -, -⟩ := isTrailerLine_iff.1 h
  obtain ⟨name, value, hparts, -⟩ := h.parts
  exact ⟨hline, by simp [hparts]⟩

theorem trailerSection_iff {count bytes : Nat} {trailers : Bytes} (hstart : count ≤ maxTrailerCount) :
    TrailerSection count bytes trailers ↔
      ∃ lines, trailers = unlines lines ++ crlf ∧ (∀ line ∈ lines, IsTrailerLine line) ∧
        count + lines.length ≤ maxTrailerCount ∧ bytes + trailers.length ≤ maxTrailerBlockSize := by
  have hcrlf : crlf.length = 2 := rfl
  constructor
  · intro h
    induction h with
    | done hsize => exact ⟨[], rfl, fun _ hmem => absurd hmem List.not_mem_nil, hstart, hsize⟩
    | @field count bytes line rest hline hne hlength hsize hcount hvalid hrest ih =>
        obtain ⟨lines, hparts, hfields, htotal, hblock⟩ := ih hcount
        refine ⟨line :: lines, ?_, ?_, ?_, ?_⟩
        · rw [hparts, unlines_cons, List.append_assoc (line ++ crlf)]
        · intro other hmem
          obtain hhead | htail := List.mem_cons.1 hmem
          · rw [hhead]
            exact isTrailerLine_iff.2 ⟨hline, hlength, hvalid⟩
          · exact hfields other htail
        · rw [List.length_cons]
          omega
        · rw [List.length_append, List.length_append, hcrlf]
          omega
  · intro h
    obtain ⟨lines, hparts, hfields, htotal, hblock⟩ := h
    induction lines generalizing count bytes trailers with
    | nil =>
        rw [hparts] at hblock ⊢
        exact .done hblock
    | cons line lines ih =>
        rw [unlines_cons, List.append_assoc (line ++ crlf)] at hparts
        rw [hparts, List.length_append, List.length_append, hcrlf] at hblock
        rw [List.length_cons] at htotal
        obtain ⟨hline, hlength, hvalid⟩ := isTrailerLine_iff.1 (hfields line List.mem_cons_self)
        have hne : line ≠ [] := (hfields line List.mem_cons_self).isLine.2
        rw [hparts]
        apply TrailerSection.field hline hne hlength (by omega) (by omega) hvalid
        exact ih (by omega) rfl (fun other hmem => hfields other (List.mem_cons_of_mem line hmem)) (by omega) (by omega)

theorem isTrailerSection_iff {trailers : Bytes} :
    (∃ lines, IsTrailerSection trailers lines) ↔ TrailerSection 0 0 trailers := by
  rw [trailerSection_iff (Nat.zero_le _)]
  apply exists_congr
  intro lines
  rw [Nat.zero_add, Nat.zero_add]
  constructor
  · intro h
    exact ⟨h.text, h.fields, h.count_le, h.length_le⟩
  · intro h
    obtain ⟨htext, hfields, hcount, hlength⟩ := h
    exact ⟨htext, hfields, hcount, hlength⟩

theorem isChunkedMessage_iff {message : Bytes} : IsChunkedMessage message ↔ ChunkedMessage message := by
  constructor
  · intro h
    induction h with
    | last hline htrailers =>
        obtain ⟨hisLine, hlength, hsize⟩ := isChunkSizeLine_iff.1 hline
        exact .last hisLine hlength hsize (isTrailerSection_iff.1 ⟨_, htrailers⟩)
    | chunk hline hne _ ih =>
        obtain ⟨hisLine, hlength, hsize⟩ := isChunkSizeLine_iff.1 hline
        exact .chunk hisLine hlength hsize hne ih
  · intro h
    induction h with
    | last hline hlength hsize htrailers =>
        obtain ⟨lines, hlines⟩ := isTrailerSection_iff.2 htrailers
        exact .last (isChunkSizeLine_iff.2 ⟨hline, hlength, hsize⟩) hlines
    | chunk hline hlength hsize hne _ ih => exact .chunk (isChunkSizeLine_iff.2 ⟨hline, hlength, hsize⟩) hne ih

/-! ### Every message is taken

On the slice of the pending bytes first; a clean reader does the same. -/

theorem readExact_front (bytes rest : Bytes) : readExact bytes.length (bytes ++ rest) = (.ok bytes, rest) := by
  obtain ⟨r', -, hcases⟩ := @readExact_clean Bytes _ bytes.length (bytes ++ rest) trivial
  change (bytes.length ≤ (bytes ++ rest).length ∧ _ ∧ r' = (bytes ++ rest).drop bytes.length) ∨
    ((bytes ++ rest).length < bytes.length ∧ _ ∧ r' = []) at hcases
  obtain ⟨-, hrun, hrest⟩ | ⟨hshort, -⟩ := hcases
  · rw [hrun, hrest, List.drop_left]
    exact congrArg (fun taken => (Except.ok taken, rest)) List.take_left
  · rw [List.length_append] at hshort
    omega

theorem readChunkLineLoop_front {maximumSize : Nat} {line more : Bytes} (hmore : IsLine more)
    (hlength : (line ++ more).length ≤ maximumSize) (rest : Bytes) :
    readChunkLineLoop maximumSize line (more ++ crlf ++ rest) = (.ok (line ++ more), rest) := by
  induction more generalizing line with
  | nil =>
      have hfirst : readExact 1 ([] ++ crlf ++ rest) = (.ok [cr], [lf] ++ rest) := readExact_front [cr] ([lf] ++ rest)
      have hsecond : readExact 1 ([lf] ++ rest) = (.ok [lf], rest) := readExact_front [lf] rest
      rw [readChunkLineLoop, List.append_nil]
      grind
  | cons b more ih =>
      have hfirst : readExact 1 (b :: more ++ crlf ++ rest) = (.ok [b], more ++ crlf ++ rest) :=
        readExact_front [b] (more ++ crlf ++ rest)
      have hcr : b ≠ cr := fun hb => hmore.1 (List.mem_cons.2 (Or.inl hb.symm))
      have hlf : b ≠ lf := fun hb => hmore.2 (List.mem_cons.2 (Or.inl hb.symm))
      have hrest : IsLine more := hmore.of_sublist fun other hmem => List.mem_cons_of_mem b hmem
      have hshort : ¬ line.length ≥ maximumSize := by
        rw [List.length_append, List.length_cons] at hlength
        omega
      have hassoc : line ++ b :: more = line ++ [b] ++ more := by
        rw [List.append_assoc, List.singleton_append]
      rw [hassoc] at hlength ⊢
      have hnext := ih hrest hlength
      rw [readChunkLineLoop]
      grind

theorem readChunkLine_front {maximumSize : Nat} {line : Bytes} (hline : IsLine line) (hlength : line.length ≤ maximumSize)
    (rest : Bytes) : readChunkLine maximumSize (line ++ crlf ++ rest) = (.ok line, rest) :=
  readChunkLineLoop_front hline hlength rest

theorem copyExact_front (errors : StreamErrors) (eof : ProxyError) (data rest written : Bytes) :
    copyExact errors eof data.length (data ++ rest) (.accepting written) =
      (.ok (), rest, .accepting (written ++ data)) := by
  obtain ⟨r', -, hcases⟩ := @copyExact_clean Bytes _ errors eof data.length (data ++ rest) trivial written
  change (data.length ≤ (data ++ rest).length ∧ r' = (data ++ rest).drop data.length ∧
      copyExact errors eof data.length (data ++ rest) (.accepting written) =
        (.ok (), r', .accepting (written ++ (data ++ rest).take data.length))) ∨
    ((data ++ rest).length < data.length ∧ _ ∧ _) at hcases
  obtain ⟨-, hrest, hrun⟩ | ⟨hshort, -⟩ := hcases
  · rw [hrun, hrest, List.drop_left, List.take_left]
  · rw [List.length_append] at hshort
    omega

/-- One field of a trailer section. -/
theorem streamTrailers_front_field {errors : ChunkedErrors} {count bytes : Nat} {line : Bytes} (hline : IsLine line)
    (hne : line ≠ []) (hlength : line.length ≤ maxTrailerLineSize)
    (hsize : bytes + (line.length + 2) ≤ maxTrailerBlockSize) (hcount : count < maxTrailerCount)
    (hvalid : validateTrailerLine line = .ok ()) (rest written : Bytes) :
    streamTrailers errors count bytes (line ++ crlf ++ rest) (.accepting written) =
      streamTrailers errors (count + 1) (bytes + (line.length + 2)) rest (.accepting (written ++ line ++ crlf)) := by
  have hread := readChunkLine_front hline hlength rest
  rw [streamTrailers]
  grind [writeLine_accepting]

theorem streamTrailers_front {errors : ChunkedErrors} {count bytes : Nat} {trailers : Bytes}
    (h : TrailerSection count bytes trailers) (rest written : Bytes) :
    streamTrailers errors count bytes (trailers ++ rest) (.accepting written) =
      (.ok (), rest, .accepting (written ++ trailers)) := by
  induction h generalizing written with
  | @done count bytes hsize =>
      have hread : readChunkLine maxTrailerLineSize (crlf ++ rest) = (.ok [], rest) :=
        readChunkLine_front isLine_nil (Nat.zero_le _) rest
      rw [streamTrailers]
      grind [Sink.writeAll_accepting]
  | @field count bytes line more hline hne hlength hsize hcount hvalid _ ih =>
      rw [List.append_assoc (line ++ crlf), streamTrailers_front_field hline hne hlength hsize hcount hvalid, ih]
      simp only [List.append_assoc]

/-- The chunk of size zero. -/
theorem streamChunked_front_last {errors : ChunkedErrors} {line : Bytes} (hline : IsLine line)
    (hlength : line.length ≤ maxChunkLineSize) (hsize : parseChunkSize line = .ok 0) (rest written : Bytes) :
    streamChunked errors (line ++ crlf ++ rest) (.accepting written) =
      streamTrailers errors 0 0 rest (.accepting (written ++ line ++ crlf)) := by
  have hread := readChunkLine_front hline hlength rest
  rw [streamChunked]
  grind [writeLine_accepting]

/-- One chunk with data. -/
theorem streamChunked_front_chunk {errors : ChunkedErrors} {line data : Bytes} (hline : IsLine line)
    (hlength : line.length ≤ maxChunkLineSize) (hsize : parseChunkSize line = .ok data.length) (hne : data ≠ [])
    (rest written : Bytes) :
    streamChunked errors (line ++ crlf ++ data ++ crlf ++ rest) (.accepting written) =
      streamChunked errors rest (.accepting (written ++ line ++ crlf ++ data ++ crlf)) := by
  have hread := readChunkLine_front hline hlength (data ++ (crlf ++ rest))
  have hdata := copyExact_front errors.toStreamErrors errors.dataEof data (crlf ++ rest) (written ++ line ++ crlf)
  have hend : readExact 2 (crlf ++ rest) = (.ok crlf, rest) := readExact_front crlf rest
  have hzero : data.length ≠ 0 := fun hzero => hne (List.length_eq_zero_iff.1 hzero)
  have hparts : line ++ crlf ++ data ++ crlf ++ rest = line ++ crlf ++ (data ++ (crlf ++ rest)) := by
    simp only [List.append_assoc]
  rw [hparts]
  generalize line ++ crlf ++ (data ++ (crlf ++ rest)) = input at hread ⊢
  generalize data ++ (crlf ++ rest) = afterLine at hread hdata
  generalize crlf ++ rest = afterData at hdata hend
  rw [streamChunked]
  split
  · grind
  · grind [writeLine_accepting, Sink.writeAll_accepting]

theorem streamChunked_front {errors : ChunkedErrors} {message : Bytes} (h : ChunkedMessage message) (rest written : Bytes) :
    streamChunked errors (message ++ rest) (.accepting written) = (.ok (), rest, .accepting (written ++ message)) := by
  induction h generalizing written with
  | @last line trailers hline hlength hsize htrailers =>
      rw [List.append_assoc (line ++ crlf), streamChunked_front_last hline hlength hsize, streamTrailers_front htrailers]
      simp only [List.append_assoc]
  | @chunk line data more hline hlength hsize hne _ ih =>
      rw [List.append_assoc (line ++ crlf ++ data ++ crlf), streamChunked_front_chunk hline hlength hsize hne, ih]
      simp only [List.append_assoc]

/-! ### What is sent in any case -/

/-- What was written in between is the front of these bytes. -/
def WroteFront (before after : Sink) (bytes : Bytes) : Prop :=
  ∃ sent, after.written = before.written ++ sent ∧ sent <+: bytes

theorem WroteFront.nothing (w : Sink) (bytes : Bytes) : WroteFront w w bytes :=
  ⟨[], (List.append_nil _).symm, List.nil_prefix⟩

/-- All of the first part, and then a front of the second. -/
theorem WroteFront.after {before middle after : Sink} {first second bytes : Bytes}
    (hfirst : middle.written = before.written ++ first) (hsecond : WroteFront middle after second)
    (hbytes : bytes = first ++ second) : WroteFront before after bytes := by
  obtain ⟨sent, hwritten, hfront⟩ := hsecond
  refine ⟨first ++ sent, by rw [hwritten, hfirst, List.append_assoc], ?_⟩
  rw [hbytes]
  exact (List.prefix_append_right_inj first).2 hfront

theorem WroteFront.within {before after : Sink} {bytes more : Bytes} (h : WroteFront before after bytes)
    (hmore : bytes <+: more) : WroteFront before after more := by
  obtain ⟨sent, hwritten, hfront⟩ := h
  exact ⟨sent, hwritten, hfront.trans hmore⟩

theorem writeAll_wroteFront {bytes : Bytes} {e : IoError} {w w' : Sink} (h : w.writeAll bytes = (.error e, w')) :
    WroteFront w w' bytes := by
  obtain ⟨count, hwritten⟩ := Sink.writeAll_error h
  exact ⟨bytes.take count, hwritten, List.take_prefix count bytes⟩

theorem writeLine_wroteFront {line : Bytes} {e : IoError} {w w' : Sink} (h : writeLine line w = (.error e, w')) :
    WroteFront w w' (line ++ crlf) := by
  unfold writeLine at h
  split at h
  · rename_i hfirst
    cases h
    exact (writeAll_wroteFront hfirst).within (List.prefix_append line crlf)
  · rename_i hfirst
    exact (writeAll_wroteFront h).after (Sink.writeAll_ok hfirst) rfl

theorem copyExact_wroteFront {errors : StreamErrors} {eof e : ProxyError} {remaining : Nat} {r r' : ρ} {w w' : Sink}
    (h : copyExact errors eof remaining r w = (.error e, r', w')) : WroteFront w w' (pending r) := by
  fun_induction copyExact errors eof remaining r w with
  | case1 => cases h
  | case2 remaining r w =>
      cases h
      exact WroteFront.nothing _ _
  | case3 remaining r w =>
      cases h
      exact WroteFront.nothing _ _
  | case4 remaining r w _ bytes r₁ hread _ source w₁ hwrite =>
      cases h
      rw [(read_ok hread).1]
      exact (writeAll_wroteFront hwrite).within (List.prefix_append bytes _)
  | case5 remaining r w _ bytes r₁ hread _ w₁ hwrite ih => exact (ih h).after (Sink.writeAll_ok hwrite) (read_ok hread).1

theorem streamTrailers_wroteFront {errors : ChunkedErrors} {count bytes : Nat} {e : ProxyError} {r r' : ρ} {w w' : Sink}
    (h : streamTrailers errors count bytes r w = (.error e, r', w')) : WroteFront w w' (pending r) := by
  fun_induction streamTrailers errors count bytes r w with
  | case1 =>
      cases h
      exact WroteFront.nothing _ _
  | case2 =>
      cases h
      exact WroteFront.nothing _ _
  | case3 count bytes r w line r₁ hread total hsize hempty source w₁ hwrite =>
      cases h
      obtain ⟨-, -, hpending⟩ := readChunkLine_ok hread
      rw [hpending, List.isEmpty_iff.1 hempty]
      exact (writeAll_wroteFront hwrite).within (List.prefix_append crlf _)
  | case4 => cases h
  | case5 =>
      cases h
      exact WroteFront.nothing _ _
  | case6 =>
      cases h
      exact WroteFront.nothing _ _
  | case7 count bytes r w line r₁ hread total hsize hempty hcount hvalid source w₁ hwrite =>
      cases h
      obtain ⟨-, -, hpending⟩ := readChunkLine_ok hread
      rw [hpending]
      exact (writeLine_wroteFront hwrite).within (List.prefix_append _ _)
  | case8 count bytes r w line r₁ hread total hsize hempty hcount hvalid w₁ hwrite ih =>
      obtain ⟨-, -, hpending⟩ := readChunkLine_ok hread
      have hwritten := writeLine_ok hwrite
      rw [List.append_assoc] at hwritten
      exact (ih h).after hwritten hpending

/-- A size line and the data behind it are sent as they were read. -/
theorem chunkData_ok {errors : StreamErrors} {eof : ProxyError} {line : Bytes} {size : Nat} {r r₁ r₂ : ρ} {w w₁ w₂ : Sink}
    (hread : readChunkLine maxChunkLineSize r = (.ok line, r₁)) (hwrite : writeLine line w = (.ok (), w₁))
    (hdata : copyExact errors eof size r₁ w₁ = (.ok (), r₂, w₂)) :
    ∃ sent, w₂.written = w.written ++ sent ∧ pending r = sent ++ pending r₂ := by
  obtain ⟨data, -, hpending, hsent⟩ := copyExact_ok hdata
  refine ⟨line ++ crlf ++ data, ?_, ?_⟩
  · rw [hsent, writeLine_ok hwrite]
    simp only [List.append_assoc]
  · rw [(readChunkLine_ok hread).2.2, hpending]
    simp only [List.append_assoc]

theorem streamChunked_wroteFront {errors : ChunkedErrors} {e : ProxyError} {r r' : ρ} {w w' : Sink}
    (h : streamChunked errors r w = (.error e, r', w')) : WroteFront w w' (pending r) := by
  fun_induction streamChunked errors r w with
  | case1 =>
      cases h
      exact WroteFront.nothing _ _
  | case2 =>
      cases h
      exact WroteFront.nothing _ _
  | case3 r w line r₁ hread size hsize source w₁ hwrite =>
      cases h
      rw [(readChunkLine_ok hread).2.2]
      exact (writeLine_wroteFront hwrite).within (List.prefix_append _ _)
  | case4 r w line r₁ hread w₁ hwrite hsize =>
      have hwritten := writeLine_ok hwrite
      rw [List.append_assoc] at hwritten
      exact (streamTrailers_wroteFront h).after hwritten (readChunkLine_ok hread).2.2
  | case5 r w line r₁ hread size hsize w₁ hwrite hzero source r₂ w₂ hdata =>
      cases h
      have hwritten := writeLine_ok hwrite
      rw [List.append_assoc] at hwritten
      exact (copyExact_wroteFront hdata).after hwritten (readChunkLine_ok hread).2.2
  | case6 r w line r₁ hread size hsize w₁ hwrite hzero r₂ w₂ hdata source r₃ hend =>
      cases h
      obtain ⟨sent, hsent, hpending⟩ := chunkData_ok hread hwrite hdata
      exact (WroteFront.nothing _ _).after hsent hpending
  | case7 r w line r₁ hread size hsize w₁ hwrite hzero r₂ w₂ hdata ending r₃ hend hending =>
      cases h
      obtain ⟨sent, hsent, hpending⟩ := chunkData_ok hread hwrite hdata
      exact (WroteFront.nothing _ _).after hsent hpending
  | case8 r w line r₁ hread size hsize w₁ hwrite hzero r₂ w₂ hdata ending r₃ hend hending source w₃ hcrlf =>
      cases h
      obtain ⟨sent, hsent, hpending⟩ := chunkData_ok hread hwrite hdata
      have hrest := (readExact_ok hend).1
      rw [not_not.1 hending] at hrest
      exact ((writeAll_wroteFront hcrlf).within ⟨_, hrest.symm⟩).after hsent hpending
  | case9 r w line r₁ hread size hsize w₁ hwrite hzero r₂ w₂ hdata ending r₃ hend hending w₃ hcrlf ih =>
      obtain ⟨sent, hsent, hpending⟩ := chunkData_ok hread hwrite hdata
      have hrest := (readExact_ok hend).1
      rw [not_not.1 hending] at hrest
      exact ((ih h).after (Sink.writeAll_ok hcrlf) hrest).after hsent hpending

/-! ### The request side -/

/-- A chunked request body is relayed exactly: the relay succeeds when what is buffered and what the client sends begin
with a complete chunked message, which it sends on, and what follows is handed back or left unread. A relay that fails
has sent a front of the client's bytes. -/
theorem streamChunkedRequestBody_exact (client : ρ) (bufferedBody : Bytes) :
    (∀ written, Clean client →
      ((∃ rest client' upstream',
          streamChunkedRequestBody client (.accepting written) bufferedBody = (.ok rest, client', upstream')) ↔
        ∃ message after, IsChunkedMessage message ∧ bufferedBody ++ pending client = message ++ after) ∧
      ∀ message after, IsChunkedMessage message → bufferedBody ++ pending client = message ++ after →
        ∃ rest client', streamChunkedRequestBody client (.accepting written) bufferedBody =
          (.ok rest, client', .accepting (written ++ message)) ∧ rest ++ pending client' = after) ∧
    ∀ upstream error client' upstream',
      streamChunkedRequestBody client upstream bufferedBody = (.error error, client', upstream') →
        ∃ sent, upstream'.written = upstream.written ++ sent ∧ sent <+: bufferedBody ++ pending client := by
  constructor
  · intro written hclean
    have hrelays : ∀ message after, IsChunkedMessage message → bufferedBody ++ pending client = message ++ after →
        ∃ rest client', streamChunkedRequestBody client (.accepting written) bufferedBody =
          (.ok rest, client', .accepting (written ++ message)) ∧ rest ++ pending client' = after := by
      intro message after hmessage hbytes
      have hprefixed : Clean (PrefixedReader.mk bufferedBody client) := hclean
      have hfront := @streamChunked_front requestChunkedErrors message (isChunkedMessage_iff.1 hmessage) after written
      unfold streamChunkedRequestBody
      cases hchunked : streamChunked requestChunkedErrors (PrefixedReader.mk bufferedBody client) (.accepting written) with
      | mk result state =>
          obtain ⟨reader, upstream⟩ := state
          obtain ⟨-, hslice⟩ := streamChunked_slice hprefixed hchunked
          have hpending : pending (PrefixedReader.mk bufferedBody client) = message ++ after := hbytes
          rw [hpending, hfront] at hslice
          cases hslice
          exact ⟨reader.remainingPrefix, reader.inner, rfl, rfl⟩
    refine ⟨⟨?_, ?_⟩, hrelays⟩
    · intro h
      obtain ⟨rest, client', upstream', hrun⟩ := h
      obtain ⟨message, hmessage, hbytes, -⟩ := streamChunkedRequestBody_ok hrun
      rw [List.append_assoc] at hbytes
      exact ⟨message, _, isChunkedMessage_iff.2 hmessage, hbytes⟩
    · intro h
      obtain ⟨message, after, hmessage, hbytes⟩ := h
      obtain ⟨rest, client', hrun, -⟩ := hrelays message after hmessage hbytes
      exact ⟨rest, client', _, hrun⟩
  · intro upstream error client' upstream' hrun
    unfold streamChunkedRequestBody at hrun
    split at hrun
    · rename_i hchunked
      cases hrun
      exact streamChunked_wroteFront hchunked
    · cases hrun

theorem isChunkSizeLine_digit {digit : Byte} (h : isAsciiHexdigit digit = true) :
    IsChunkSizeLine [digit] ((digitValue digit).getD 0) := by
  have hlt : (digitValue digit).getD 0 < 2 ^ 64 := by
    revert h
    apply byte_forall (p := fun digit => isAsciiHexdigit digit = true → (digitValue digit).getD 0 < 2 ^ 64)
    decide +kernel
  refine ⟨⟨[digit], [], rfl, by simp, ?_, by simp [radixValue], Or.inl rfl⟩, hlt, by simp [maxChunkLineSize]⟩
  intro b hb
  rwa [List.mem_singleton.1 hb]

theorem streamChunkedRequestBody_exact_hello :
    ∃ rest client', streamChunkedRequestBody (Source.ofSegments [ascii "lo\r\n0\r", ascii "\n\r\nGET"]) (.accepting [])
      (ascii "5\r\nhel") = (.ok rest, client', .accepting (ascii "5\r\nhello\r\n0\r\n\r\n")) ∧
        rest ++ pending client' = ascii "GET" := by
  have hnone : IsTrailerSection crlf [] :=
    ⟨rfl, fun _ hmem => absurd hmem List.not_mem_nil, Nat.zero_le _, by decide⟩
  have hlast : IsChunkedMessage (ascii "0" ++ crlf ++ crlf) := .last (isChunkSizeLine_digit (by decide)) hnone
  have hmessage : IsChunkedMessage (ascii "5" ++ crlf ++ ascii "hello" ++ crlf ++ (ascii "0" ++ crlf ++ crlf)) :=
    .chunk (isChunkSizeLine_digit (by decide)) (by decide) hlast
  exact ((streamChunkedRequestBody_exact _ _).1 [] (Source.clean_ofSegments (by decide))).2 _ (ascii "GET") hmessage
    (by decide)

end BareProxy.Proxy
