import BareProxy.Http.Request

/-!
# What the request parser accepts and reads back

A header that `parse_header` returns is well formed, and a well-formed header written as a line is read
back as itself. The header loop over lines ended by CR LF is a fold over the lines, so a whole head
written from a request line and well-formed headers parses to exactly those, unless one of the size
limits rejects it.
-/

namespace BareProxy.Http

theorem isTokenByte_facts (b : Byte) : isTokenByte b = true →
    b ≠ cr ∧ b ≠ lf ∧ b ≠ 58 ∧ b ≠ 32 ∧ b < 128 := by
  apply byte_forall (p := fun b => isTokenByte b = true → b ≠ cr ∧ b ≠ lf ∧ b ≠ 58 ∧ b ≠ 32 ∧ b < 128)
  decide +kernel

theorem isValidHeaderValueByte_facts (b : Byte) : isValidHeaderValueByte b = true → b ≠ cr ∧ b ≠ lf := by
  apply byte_forall (p := fun b => isValidHeaderValueByte b = true → b ≠ cr ∧ b ≠ lf)
  decide +kernel

theorem isTokenByte_valid (b : Byte) : isTokenByte b = true → isValidHeaderValueByte b = true := by
  apply byte_forall (p := fun b => isTokenByte b = true → isValidHeaderValueByte b = true)
  decide +kernel

theorem isAsciiDigit_facts (b : Byte) : isAsciiDigit b = true →
    isTokenByte b = true ∧ isOptionalWhitespace b = false ∧ b ≠ 44 := by
  apply byte_forall (p := fun b =>
    isAsciiDigit b = true → isTokenByte b = true ∧ isOptionalWhitespace b = false ∧ b ≠ 44)
  decide +kernel

theorem isTokenByte_not_whitespace (b : Byte) : isTokenByte b = true → isOptionalWhitespace b = false := by
  apply byte_forall (p := fun b => isTokenByte b = true → isOptionalWhitespace b = false)
  decide +kernel

theorem isOptionalWhitespace_facts (b : Byte) : isOptionalWhitespace b = true →
    isValidHeaderValueByte b = true ∧ b < 128 := by
  apply byte_forall (p := fun b => isOptionalWhitespace b = true → isValidHeaderValueByte b = true ∧ b < 128)
  decide +kernel

/-! ### Trimming -/

theorem mem_of_mem_trimOptionalWhitespace {b : Byte} {s : Bytes} (h : b ∈ trimOptionalWhitespace s) : b ∈ s := by
  have hmid : b ∈ s.dropWhile isOptionalWhitespace := (List.rdropWhile_prefix _ _).subset h
  exact (List.dropWhile_suffix _).subset hmid

theorem exists_trimOptionalWhitespace (raw : Bytes) :
    ∃ before after, raw = before ++ trimOptionalWhitespace raw ++ after ∧
      (∀ b ∈ before, isOptionalWhitespace b = true) ∧ ∀ b ∈ after, isOptionalWhitespace b = true := by
  refine ⟨raw.takeWhile isOptionalWhitespace, (raw.dropWhile isOptionalWhitespace).rtakeWhile isOptionalWhitespace, ?_,
    fun b hb => List.mem_takeWhile_imp hb, fun b hb => List.mem_rtakeWhile_imp hb⟩
  rw [trimOptionalWhitespace, List.append_assoc, List.rdropWhile_append_rtakeWhile, List.takeWhile_append_dropWhile]

theorem trimOptionalWhitespace_cons {b : Byte} (hb : isOptionalWhitespace b = true) (s : Bytes) :
    trimOptionalWhitespace (b :: s) = trimOptionalWhitespace s := by
  simp only [trimOptionalWhitespace, List.dropWhile_cons, hb, if_true]

/-- A value with no blank at either end is left alone. -/
theorem trimOptionalWhitespace_eq_self {s : Bytes}
    (hfirst : ∀ b ∈ s.head?, isOptionalWhitespace b = false)
    (hlast : ∀ b ∈ s.getLast?, isOptionalWhitespace b = false) : trimOptionalWhitespace s = s := by
  cases s with
  | nil => rfl
  | cons a rest =>
    have ha : isOptionalWhitespace a = false := hfirst a rfl
    have hdrop : (a :: rest).dropWhile isOptionalWhitespace = a :: rest := by
      simp [ha]
    rw [trimOptionalWhitespace, hdrop, List.rdropWhile_eq_self_iff]
    intro hne
    have := hlast _ (List.getLast?_eq_some_getLast hne)
    simp [this]

theorem trimOptionalWhitespace_eq_self_of_forall {s : Bytes}
    (h : ∀ b ∈ s, isOptionalWhitespace b = false) : trimOptionalWhitespace s = s := by
  apply trimOptionalWhitespace_eq_self
  · intro b hb
    exact h b (List.mem_of_mem_head? hb)
  · intro b hb
    exact h b (List.mem_of_mem_getLast? hb)

private theorem head?_rdropWhile {s : Bytes} {p : Byte → Bool} {b : Byte}
    (h : (s.rdropWhile p).head? = some b) : s.head? = some b := by
  obtain ⟨t, ht⟩ := List.rdropWhile_prefix p s
  rw [← ht]
  cases hcase : s.rdropWhile p with
  | nil => simp [hcase] at h
  | cons a rest => simpa [hcase] using h

theorem trimOptionalWhitespace_idem (s : Bytes) :
    trimOptionalWhitespace (trimOptionalWhitespace s) = trimOptionalWhitespace s := by
  apply trimOptionalWhitespace_eq_self
  · intro b hb
    have hhead := head?_rdropWhile hb
    have := List.head?_dropWhile_not isOptionalWhitespace s
    rw [hhead] at this
    simpa using this
  · intro b hb
    have hne : trimOptionalWhitespace s ≠ [] := by
      intro hnil
      rw [hnil] at hb
      cases hb
    have hlast := List.rdropWhile_last_not isOptionalWhitespace _ hne
    rw [List.getLast?_eq_some_getLast hne] at hb
    cases hb
    simpa [trimOptionalWhitespace] using hlast

theorem trimOptionalWhitespace_append {before value after : Bytes}
    (hbefore : ∀ b ∈ before, isOptionalWhitespace b = true) (hafter : ∀ b ∈ after, isOptionalWhitespace b = true)
    (hvalue : trimOptionalWhitespace value = value) : trimOptionalWhitespace (before ++ value ++ after) = value := by
  have hfront : ∀ s, (before ++ s).dropWhile isOptionalWhitespace = s.dropWhile isOptionalWhitespace :=
    fun s => List.dropWhile_append_of_pos hbefore
  have hback : ∀ s : Bytes, (s ++ after).rdropWhile isOptionalWhitespace = s.rdropWhile isOptionalWhitespace := by
    intro s
    rw [List.rdropWhile, List.reverse_append, List.dropWhile_append_of_pos, ← List.rdropWhile]
    intro b hb
    exact hafter b (List.mem_reverse.1 hb)
  rw [trimOptionalWhitespace, List.append_assoc, hfront]
  cases value with
  | nil =>
      rw [List.nil_append, List.dropWhile_eq_nil_iff.2 hafter]
      rfl
  | cons first value =>
      have hdrop : (first :: value).dropWhile isOptionalWhitespace = first :: value := by
        apply (List.dropWhile_suffix _).eq_of_length_le
        have hlength := congrArg List.length hvalue
        have hprefix := (List.rdropWhile_prefix isOptionalWhitespace
          ((first :: value).dropWhile isOptionalWhitespace)).length_le
        rw [trimOptionalWhitespace] at hlength
        omega
      have hfirst : isOptionalWhitespace first = false := by
        have hhead := List.head?_dropWhile_not isOptionalWhitespace (first :: value)
        rw [hdrop] at hhead
        simpa using hhead
      have hall : ((first :: value) ++ after).dropWhile isOptionalWhitespace = (first :: value) ++ after := by
        rw [List.cons_append, List.dropWhile_cons, hfirst]
        rfl
      rw [hall, hback]
      rw [trimOptionalWhitespace, hdrop] at hvalue
      exact hvalue

/-! ### One header -/

/-- What `parse_header` guarantees of the header it returns. -/
structure Header.WellFormed (header : Header) : Prop where
  name_ne_nil : header.name ≠ []
  name_token : ∀ b ∈ header.name, isTokenByte b = true
  value_valid : ∀ b ∈ header.value, isValidHeaderValueByte b = true
  value_trimmed : trimOptionalWhitespace header.value = header.value

/-- A name, a colon right behind it, and the value with blanks around it. -/
structure IsHeaderLine (line : Bytes) (header : Header) : Prop where
  parts : ∃ before after, line = header.name ++ 58 :: (before ++ header.value ++ after) ∧
    (∀ b ∈ before, isOptionalWhitespace b = true) ∧ ∀ b ∈ after, isOptionalWhitespace b = true
  wellFormed : header.WellFormed

/-- The line `name: value`. -/
def Header.line (header : Header) : Bytes := header.name ++ ascii ": " ++ header.value

theorem isLine_of_token {s : Bytes} (h : ∀ b ∈ s, isTokenByte b = true) : IsLine s :=
  ⟨fun hcr => (isTokenByte_facts _ (h _ hcr)).1 rfl, fun hlf => (isTokenByte_facts _ (h _ hlf)).2.1 rfl⟩

theorem isLine_of_valid {s : Bytes} (h : ∀ b ∈ s, isValidHeaderValueByte b = true) : IsLine s :=
  ⟨fun hcr => (isValidHeaderValueByte_facts _ (h _ hcr)).1 rfl,
    fun hlf => (isValidHeaderValueByte_facts _ (h _ hlf)).2 rfl⟩

theorem Header.WellFormed.isLine_line {header : Header} (h : header.WellFormed) : IsLine header.line := by
  rw [Header.line, isLine_append, isLine_append]
  exact ⟨⟨isLine_of_token h.name_token, by decide⟩, isLine_of_valid h.value_valid⟩

theorem Header.WellFormed.line_ne_nil {header : Header} (h : header.WellFormed) : header.line ≠ [] := by
  simp [Header.line, h.name_ne_nil]

theorem idxOf?_append_of_notMem {b : Byte} {s : Bytes} (hs : b ∉ s) (t : Bytes) :
    (s ++ b :: t).idxOf? b = some s.length := by
  induction s with
  | nil => simp [List.idxOf?_cons]
  | cons a rest ih =>
    simp only [List.mem_cons, not_or] at hs
    have hne : (a == b) = false := beq_false_of_ne (Ne.symm hs.1)
    simp [List.idxOf?_cons, hne, ih hs.2]

theorem eq_append_of_idxOf? {b : Byte} {s : Bytes} {i : Nat} (h : s.idxOf? b = some i) :
    s = s.take i ++ b :: s.drop (i + 1) ∧ b ∉ s.take i := by
  obtain ⟨hlt, hfound, hfirst⟩ := List.idxOf?_eq_some_iff.1 h
  constructor
  · rw [← hfound, ← List.drop_eq_getElem_cons hlt, List.take_append_drop]
  · intro hmem
    obtain ⟨j, hj, hother⟩ := List.mem_take_iff_getElem.1 hmem
    exact hfirst j (by omega) hother

theorem isAscii_append_of_token {s t : Bytes} (hs : ∀ b ∈ s, isTokenByte b = true) (ht : isAscii t = true) :
    isAscii (s ++ t) = true := by
  rw [isAscii, List.all_append, Bool.and_eq_true, List.all_eq_true]
  exact ⟨fun b hb => decide_eq_true (isTokenByte_facts b (hs b hb)).2.2.2.2, ht⟩

theorem validUtf8_of_token {s : Bytes} (h : ∀ b ∈ s, isTokenByte b = true) : validUtf8 s = true := by
  apply validUtf8_of_isAscii
  have hascii := isAscii_append_of_token (t := []) h rfl
  rwa [List.append_nil] at hascii

theorem parseHeader_iff {line : Bytes} {header : Header} : parseHeader line = .ok header ↔ IsHeaderLine line header := by
  constructor
  · intro h
    unfold parseHeader at h
    split at h
    · cases h
    · rename_i separator hseparator
      obtain ⟨hsplit, -⟩ := eq_append_of_idxOf? hseparator
      obtain ⟨before, after, hraw, hbefore, hafter⟩ := exists_trimOptionalWhitespace (line.drop (separator + 1))
      dsimp only at h
      split at h
      · cases h
      · rename_i hname
        split at h
        · cases h
        · rename_i hvalue
          split at h
          · cases h
          · cases h
            simp only [Bool.or_eq_true, not_or, List.isEmpty_iff, Bool.not_eq_true', Bool.not_eq_false] at hname
            simp only [Bool.not_eq_true', Bool.not_eq_false, List.all_eq_true] at hvalue
            refine ⟨⟨before, after, ?_, hbefore, hafter⟩, ?_⟩
            · rw [← hraw]
              exact hsplit
            · exact ⟨hname.1, List.all_eq_true.1 hname.2, hvalue, trimOptionalWhitespace_idem _⟩
  · intro h
    obtain ⟨before, after, hparts, hbefore, hafter⟩ := h.parts
    have hwellFormed := h.wellFormed
    have hcolon : (58 : Byte) ∉ header.name :=
      fun hmem => (isTokenByte_facts _ (hwellFormed.name_token _ hmem)).2.2.1 rfl
    have hfind : line.idxOf? 58 = some header.name.length := by
      rw [hparts]
      exact idxOf?_append_of_notMem hcolon _
    have hname : line.take header.name.length = header.name := by
      rw [hparts, List.take_left]
    have hrest : line.drop (header.name.length + 1) = before ++ header.value ++ after := by
      rw [hparts, ← List.drop_drop, List.drop_left, List.drop_succ_cons, List.drop_zero]
    have hvalue := trimOptionalWhitespace_append hbefore hafter hwellFormed.value_trimmed
    have htoken : header.name.all isTokenByte = true := List.all_eq_true.2 hwellFormed.name_token
    have hvalid : header.value.all isValidHeaderValueByte = true := List.all_eq_true.2 hwellFormed.value_valid
    simp only [parseHeader, hfind, hname, hrest, hvalue, htoken, hvalid, validUtf8_of_token hwellFormed.name_token,
      List.isEmpty_eq_false_iff.2 hwellFormed.name_ne_nil, Bool.not_true, Bool.or_self, Bool.false_eq_true, if_false]

theorem IsHeaderLine.isLine {line : Bytes} {header : Header} (h : IsHeaderLine line header) : IsLine line := by
  obtain ⟨before, after, hparts, hbefore, hafter⟩ := h.parts
  rw [hparts, isLine_append]
  refine ⟨isLine_of_token h.wellFormed.name_token, isLine_of_valid fun b hb => ?_⟩
  simp only [List.mem_cons, List.mem_append] at hb
  rcases hb with rfl | (hb | hb) | hb
  · decide
  · exact (isOptionalWhitespace_facts b (hbefore b hb)).1
  · exact h.wellFormed.value_valid b hb
  · exact (isOptionalWhitespace_facts b (hafter b hb)).1

theorem IsHeaderLine.ne_nil {line : Bytes} {header : Header} (h : IsHeaderLine line header) : line ≠ [] := by
  obtain ⟨before, after, hparts, -⟩ := h.parts
  simp [hparts]

/-- A well-formed header written as a line reads back as itself. -/
theorem parseHeader_line {header : Header} (h : header.WellFormed) : parseHeader header.line = .ok header := by
  apply parseHeader_iff.2
  refine ⟨⟨[32], [], ?_, by decide, fun _ hmem => absurd hmem List.not_mem_nil⟩, h⟩
  rw [Header.line, List.append_nil, List.append_assoc]
  rfl

theorem parseHeader_wellFormed {line : Bytes} {header : Header} (h : parseHeader line = .ok header) :
    header.WellFormed := (parseHeader_iff.1 h).wellFormed

/-! ### The header loop -/

/-- The header loop over a block already cut into lines. -/
def parseLines (headers : List Header) : List Bytes → Except ParseError (List Header)
  | [] => .ok headers
  | line :: lines =>
    if line.length > maxHeaderSize then .error .headerTooLong
    else if headers.length ≥ maxHeaderCount then .error .tooManyHeaders
    else match parseHeader line with
      | .error error => .error error
      | .ok header => parseLines (headers ++ [header]) lines

/-- On lines joined by CR LF the loop of `parse_headers` is the fold over the lines. -/
theorem parseHeadersLoop_intercalate {lines : List Bytes} (hne : lines ≠ []) (hlines : ∀ line ∈ lines, IsLine line)
    (headers : List Header) : parseHeadersLoop headers (crlf.intercalate lines) = parseLines headers lines := by
  induction lines generalizing headers with
  | nil => exact absurd rfl hne
  | cons line lines ih =>
    have hline := hlines line List.mem_cons_self
    rw [parseHeadersLoop, parseLines]
    cases lines with
    | nil =>
      have hfind : findBytes line crlf = none := indexOfSub_crlf_eq_none hline
      cases hheader : parseHeader line <;>
        simp only [List.intercalate_singleton, hfind, Option.getD_none, List.take_length, if_true, parseLines, hheader]
    | cons next more =>
      have hjoin : crlf.intercalate (line :: next :: more) = line ++ crlf ++ crlf.intercalate (next :: more) := by
        rw [List.intercalate_cons_cons, List.append_assoc]
      have hfind : findBytes (crlf.intercalate (line :: next :: more)) crlf = some line.length := by
        rw [hjoin]
        exact indexOfSub_crlf_line hline _
      have htake : (crlf.intercalate (line :: next :: more)).take line.length = line := by
        rw [hjoin, List.append_assoc, List.take_left]
      have hdrop : (crlf.intercalate (line :: next :: more)).drop (line.length + 2) =
          crlf.intercalate (next :: more) := by
        rw [hjoin, show line.length + 2 = (line ++ crlf).length by simp [crlf], List.drop_left]
      have hlen : line.length ≠ (crlf.intercalate (line :: next :: more)).length := by
        rw [hjoin]
        simp [crlf]
      have hrec := ih (by simp) (fun l hl => hlines l (List.mem_cons_of_mem _ hl))
      cases hheader : parseHeader line <;>
        simp only [hfind, Option.getD_some, htake, hdrop, hlen, if_false, hrec, hheader]

/-- The errors that only say a size or count limit was passed. -/
def ParseError.IsLimit (error : ParseError) : Prop :=
  error = .requestLineTooLong ∨ error = .headerTooLong ∨ error = .headersTooLarge ∨ error = .tooManyHeaders

/-- Well-formed headers written as lines are read back in order, or a limit rejects them. -/
theorem parseLines_line {fields : List Header} (hfields : ∀ field ∈ fields, field.WellFormed)
    (headers : List Header) :
    parseLines headers (fields.map Header.line) = .ok (headers ++ fields) ∨
      ∃ error, error.IsLimit ∧ parseLines headers (fields.map Header.line) = .error error := by
  induction fields generalizing headers with
  | nil =>
    left
    simp [parseLines]
  | cons field fields ih =>
    rw [List.map_cons, parseLines]
    split
    · right
      exact ⟨_, Or.inr (Or.inl rfl), rfl⟩
    · split
      · right
        exact ⟨_, Or.inr (Or.inr (Or.inr rfl)), rfl⟩
      · rw [parseHeader_line (hfields field List.mem_cons_self)]
        have hrec := ih (fun f hf => hfields f (List.mem_cons_of_mem _ hf)) (headers ++ [field])
        rwa [List.append_assoc, List.singleton_append] at hrec


/-! ### The request line -/

/-- A method, a target and the version, with one space between them. -/
structure IsRequestLine (line method target : Bytes) : Prop where
  parts : line = method ++ [32] ++ target ++ ascii " HTTP/1.1"
  method_ne_nil : method ≠ []
  method_token : ∀ b ∈ method, isTokenByte b = true
  target_ne_nil : target ≠ []
  target_utf8 : validUtf8 target = true
  target_valid : ∀ b ∈ target, isAsciiControl b = false ∧ b ≠ 32

theorem parseRequestLine_iff {line method target : Bytes} {version : HttpVersion} :
    parseRequestLine line = .ok (method, target, version) ↔ IsRequestLine line method target := by
  have hspace : (32 : Byte) ∉ ascii "HTTP/1.1" := by decide
  have htext : ascii " HTTP/1.1" = 32 :: ascii "HTTP/1.1" := rfl
  constructor
  · intro h
    unfold parseRequestLine at h
    split at h
    · cases h
    · rename_i hutf8
      split at h
      · rename_i method' target' version' more hsplit
        split at h
        · cases h
        · rename_i hvalid
          simp only [Bool.or_eq_true, not_or, List.isEmpty_iff, Bool.not_eq_true', Bool.not_eq_false] at hvalid
          obtain ⟨⟨⟨⟨hmore, hmethod⟩, htarget⟩, htoken⟩, hcontrol⟩ := hvalid
          split at h
          · rename_i hversion
            cases h
            have htoken := List.all_eq_true.1 htoken
            have hparts : line = method ++ [32] ++ target ++ ascii " HTTP/1.1" := by
              have hjoin : List.intercalate [32] (line.splitOn 32) = line := List.intercalate_splitOn 32
              rw [hsplit, hmore, hversion] at hjoin
              rw [← hjoin, htext]
              simp [List.intercalate_cons_cons]
            refine ⟨hparts, hmethod, htoken, htarget, ?_, ?_⟩
            · rw [Bool.not_eq_true', Bool.not_eq_false, hparts, validUtf8_append_ascii (by decide),
                validUtf8_ascii_append (isAscii_append_of_token htoken (by decide))] at hutf8
              exact hutf8
            · intro b hb
              simpa using List.all_eq_true.1 hcontrol b hb
          · split at h <;> cases h
      · cases h
  · intro h
    have hmethod : (32 : Byte) ∉ method := fun hmem => (isTokenByte_facts _ (h.method_token _ hmem)).2.2.2.1 rfl
    have htarget : (32 : Byte) ∉ target := fun hmem => (h.target_valid _ hmem).2 rfl
    have hsplit : line.splitOn 32 = [method, target, ascii "HTTP/1.1"] := by
      rw [h.parts, htext, List.append_assoc, List.append_assoc, List.singleton_append,
        List.splitOn_append_cons_self_of_not_mem hmethod, List.splitOn_append_cons_self_of_not_mem htarget,
        List.splitOn_eq_singleton hspace]
    have hutf8 : validUtf8 line = true := by
      rw [h.parts, validUtf8_append_ascii (by decide),
        validUtf8_ascii_append (isAscii_append_of_token h.method_token (by decide)), h.target_utf8]
    have hmethodValid : isValidMethod method = true := List.all_eq_true.2 h.method_token
    have htargetValid : isValidTarget target = true := by
      apply List.all_eq_true.2
      intro b hb
      simp [h.target_valid b hb]
    cases version
    simp only [parseRequestLine, hutf8, hsplit, hmethodValid, htargetValid, List.isEmpty_eq_false_iff.2 h.method_ne_nil,
      List.isEmpty_eq_false_iff.2 h.target_ne_nil, List.isEmpty_nil, Bool.not_true, Bool.or_self, Bool.false_eq_true,
      if_false, if_true]

/-- The request line is the method, the target and the version with one space between them. -/
theorem parseRequestLine_ok {line method target : Bytes} {version : HttpVersion}
    (h : parseRequestLine line = .ok (method, target, version)) :
    line = method ++ [32] ++ target ++ ascii " HTTP/1.1" ∧ IsLine line := by
  have hline := parseRequestLine_iff.1 h
  refine ⟨hline.parts, ?_⟩
  rw [hline.parts, isLine_append, isLine_append, isLine_append]
  have htarget : IsLine target := by
    constructor
    · intro hmem
      exact absurd (hline.target_valid cr hmem).1 (by decide)
    · intro hmem
      exact absurd (hline.target_valid lf hmem).1 (by decide)
  exact ⟨⟨⟨isLine_of_token hline.method_token, by decide⟩, htarget⟩, by decide⟩

/-! ### The whole head -/

theorem parseHeadersLoop_wellFormed {headers result : List Header} {remaining : Bytes}
    (hheaders : ∀ header ∈ headers, header.WellFormed)
    (h : parseHeadersLoop headers remaining = .ok result) : ∀ header ∈ result, header.WellFormed := by
  have hpush : ∀ {headers : List Header} {header : Header}, (∀ h ∈ headers, h.WellFormed) →
      header.WellFormed → ∀ h ∈ headers ++ [header], h.WellFormed := by
    intro headers header hheaders hheader h hmem
    rcases List.mem_append.1 hmem with hmem | hmem
    · exact hheaders h hmem
    · rw [List.mem_singleton.1 hmem]
      exact hheader
  fun_induction parseHeadersLoop headers remaining with
  | case1 => cases h
  | case2 => cases h
  | case3 => cases h
  | case4 headers remaining lineEnd line _ _ header hheader =>
    cases h
    exact hpush hheaders (parseHeader_wellFormed hheader)
  | case5 headers remaining lineEnd line _ _ header hheader _ ih =>
    exact ih (hpush hheaders (parseHeader_wellFormed hheader)) h

theorem parseHeaders_wellFormed {input : Bytes} {headers : List Header} (h : parseHeaders input = .ok headers) :
    ∀ header ∈ headers, header.WellFormed := by
  unfold parseHeaders at h
  split at h
  · cases h
    simp
  · exact parseHeadersLoop_wellFormed (by simp) h

theorem parseContentLengthMember_le {before after : Option Nat} {member : Bytes}
    (hbefore : ∀ n ∈ before, n ≤ u64Max) (h : parseContentLengthMember before member = .ok after) :
    ∀ n ∈ after, n ≤ u64Max := by
  unfold parseContentLengthMember at h
  dsimp only at h
  split at h
  · cases h
  · split at h
    · cases h
    · rename_i parsed hparsed
      split at h
      · split at h
        · cases h
        · cases h
          exact hbefore
      · cases h
        intro n hn
        cases hn
        exact fromStrRadix_le hparsed

/-- A `Content-Length` fits in 64 bits. -/
theorem parseContentLength_le {headers : List Header} {contentLength : Option Nat}
    (h : parseContentLength headers = .ok contentLength) : ∀ n ∈ contentLength, n ≤ u64Max := by
  refine foldlM_invariant (p := fun value => ∀ n ∈ value, n ≤ u64Max) ?_ (by simp) h
  intro header _ before after hbefore hheader
  unfold parseContentLengthHeader at hheader
  split at hheader
  · cases hheader
  · refine foldlM_invariant (p := fun value => ∀ n ∈ value, n ≤ u64Max) ?_ hbefore hheader
    intro member _ before after hbefore hmember
    exact parseContentLengthMember_le hbefore hmember

/-- What an accepted request says: its request line reads as its method and target, its headers are well
formed, and its framing is what the headers say. -/
structure Request.Accepted (request : Request) (requestLine : Bytes) : Prop where
  line : parseRequestLine requestLine = .ok (request.method, request.target, request.version)
  wellFormed : ∀ header ∈ request.headers, header.WellFormed
  contentLength : parseContentLength request.headers = .ok request.contentLength
  transferEncoding : parseTransferEncoding request.headers = .ok request.hasTransferEncoding
  unambiguous : request.contentLength = none ∨ request.hasTransferEncoding = false

theorem parseRequestHead_ok {input : Bytes} {requestLineEnd headerEnd consumed : Nat} {request : Request}
    (h : parseRequestHead input requestLineEnd headerEnd = .ok (request, consumed)) :
    request.Accepted (input.take requestLineEnd) ∧ consumed = headerEnd + 4 ∧
      (headerBlock input requestLineEnd headerEnd).length ≤ maxHeaderBlockSize := by
  unfold parseRequestHead at h
  dsimp only at h
  split at h
  · cases h
  · rename_i hblock
    simp only [bind_eq_ok] at h
    obtain ⟨⟨method, target, version⟩, hline, headers, hheaders, contentLength, hlength, te, hte, h⟩ := h
    split at h
    · cases h
    · rename_i hframing
      cases h
      refine ⟨⟨hline, parseHeaders_wellFormed hheaders, hlength, hte, ?_⟩, rfl, by omega⟩
      cases contentLength with
      | none => exact Or.inl rfl
      | some n => exact Or.inr (by simpa using hframing)

/-- Where the parts of an accepted input end. -/
structure HeadEnds (input : Bytes) (request : Request) (consumed requestLineEnd headerEnd : Nat) : Prop where
  crlf : findBytes input crlf = some requestLineEnd
  blankLine : findBytes input crlfCrlf = some headerEnd
  order : requestLineEnd ≤ headerEnd
  line_le : requestLineEnd ≤ maxRequestLineSize
  block_le : (headerBlock input requestLineEnd headerEnd).length ≤ maxHeaderBlockSize
  consumed : consumed = headerEnd + 4
  request : request.Accepted (input.take requestLineEnd)

theorem parseRequestWithConsumed_ok {input : Bytes} {request : Request} {consumed : Nat}
    (h : parseRequestWithConsumed input = .ok (request, consumed)) :
    ∃ requestLineEnd headerEnd, HeadEnds input request consumed requestLineEnd headerEnd := by
  unfold parseRequestWithConsumed at h
  split at h
  · split at h <;> cases h
  · rename_i requestLineEnd hline
    split at h
    · cases h
    · rename_i hshort
      split at h
      · split at h <;> cases h
      · rename_i headerEnd hend
        split at h
        · cases h
        · rename_i horder
          obtain ⟨haccepted, hconsumed, hblock⟩ := parseRequestHead_ok h
          exact ⟨requestLineEnd, headerEnd, hline, hend, by omega, by omega, hblock, hconsumed, haccepted⟩

theorem HeadEnds.consumed_le_length {input : Bytes} {request : Request} {consumed requestLineEnd headerEnd : Nat}
    (h : HeadEnds input request consumed requestLineEnd headerEnd) : consumed ≤ input.length := by
  have hle : headerEnd + 4 ≤ input.length := add_length_le_of_indexOfSub h.blankLine
  rw [h.consumed]
  exact hle

/-- An accepted head is within the largest head. -/
theorem HeadEnds.consumed_le {input : Bytes} {request : Request} {consumed requestLineEnd headerEnd : Nat}
    (h : HeadEnds input request consumed requestLineEnd headerEnd) : consumed ≤ maxRequestHeadSize := by
  have hlength := h.consumed_le_length
  have hconsumed := h.consumed
  have hline := h.line_le
  have hblock := h.block_le
  unfold headerBlock at hblock
  simp only [maxRequestHeadSize]
  split at hblock
  · omega
  · simp only [List.length_drop, List.length_take] at hblock
    omega

/-- The lines of a head are lines, none of them empty. -/
theorem headLines_isLine {requestLine : Bytes} (hline : IsLine requestLine) (hne : requestLine ≠ [])
    {fields : List Header} (hfields : ∀ field ∈ fields, field.WellFormed) :
    ∀ line ∈ requestLine :: fields.map Header.line, IsLine line ∧ line ≠ [] := by
  intro line hmem
  rcases List.mem_cons.1 hmem with rfl | hmem
  · exact ⟨hline, hne⟩
  · obtain ⟨field, hfield, rfl⟩ := List.mem_map.1 hmem
    exact ⟨(hfields field hfield).isLine_line, (hfields field hfield).line_ne_nil⟩

/-- The header block of a written head is its fields' lines joined by CR LF. -/
theorem headerBlock_unlines (requestLine : Bytes) (lines : List Bytes) :
    headerBlock (unlines (requestLine :: lines) ++ crlf) requestLine.length
      ((unlines (requestLine :: lines) ++ crlf).length - 4) = crlf.intercalate lines := by
  cases lines with
  | nil => simp [headerBlock, crlf]
  | cons line more =>
    have hsplit : unlines (requestLine :: line :: more) ++ crlf =
        (requestLine ++ crlf) ++ crlf.intercalate (line :: more) ++ (crlf ++ crlf) := by
      rw [unlines_cons, unlines_eq_intercalate (by simp)]
      simp only [List.append_assoc]
    have hstart : (requestLine ++ crlf).length = requestLine.length + 2 := by simp [crlf]
    have hend : (unlines (requestLine :: line :: more) ++ crlf).length - 4 =
        ((requestLine ++ crlf) ++ crlf.intercalate (line :: more)).length := by
      rw [hsplit]
      simp only [List.length_append, crlf, List.length_cons, List.length_nil]
      omega
    have hne : requestLine.length ≠ ((requestLine ++ crlf) ++ crlf.intercalate (line :: more)).length := by
      rw [List.length_append, hstart]
      omega
    rw [headerBlock, hend, if_neg hne, hsplit, List.take_left, ← hstart, List.drop_left]

theorem parseHeaders_intercalate {fields : List Header} (hfields : ∀ field ∈ fields, field.WellFormed) :
    parseHeaders (crlf.intercalate (fields.map Header.line)) = parseLines [] (fields.map Header.line) := by
  cases fields with
  | nil => rfl
  | cons field fields =>
    have hlines : ∀ line ∈ (field :: fields).map Header.line, IsLine line := by
      intro line hmem
      obtain ⟨f, hf, rfl⟩ := List.mem_map.1 hmem
      exact (hfields f hf).isLine_line
    have hne : crlf.intercalate ((field :: fields).map Header.line) ≠ [] := by
      have hfield := (hfields field List.mem_cons_self).line_ne_nil
      cases fields with
      | nil => simpa using hfield
      | cons next more => simp [hfield]
    rw [parseHeaders, if_neg (by simpa using hne)]
    exact parseHeadersLoop_intercalate (by simp) hlines []

/-- A head written from a request line and well-formed headers whose framing is consistent is read back
as those, in full, unless a limit rejects it. -/
theorem parseRequestWithConsumed_unlines {requestLine method target : Bytes} {version : HttpVersion}
    {fields : List Header} {contentLength : Option Nat} {hasTransferEncoding : Bool}
    (hline : parseRequestLine requestLine = .ok (method, target, version))
    (hfields : ∀ field ∈ fields, field.WellFormed)
    (hlength : parseContentLength fields = .ok contentLength)
    (hte : parseTransferEncoding fields = .ok hasTransferEncoding)
    (hframing : contentLength = none ∨ hasTransferEncoding = false) {output : Bytes}
    (houtput : output = unlines (requestLine :: fields.map Header.line) ++ crlf) :
    (∃ error, error.IsLimit ∧ parseRequestWithConsumed output = .error error) ∨
      ∃ keepAlive, parseRequestWithConsumed output =
        .ok ({ method, target, version, headers := fields, contentLength, hasTransferEncoding, keepAlive },
          output.length) := by
  obtain ⟨hline', hisLine⟩ := parseRequestLine_ok hline
  have hne : requestLine ≠ [] := by
    rw [hline']
    simp
  have hlines := headLines_isLine hisLine hne hfields
  have hcrlf : findBytes output crlf = some requestLine.length := by
    rw [houtput, unlines_cons, List.append_assoc _ (unlines _)]
    exact indexOfSub_crlf_line hisLine _
  have hblank : findBytes output crlfCrlf = some (output.length - 4) := by
    rw [houtput]
    exact indexOfSub_crlfCrlf_unlines (by simp) hlines
  have hlen : requestLine.length + 4 ≤ output.length := by
    rw [houtput, unlines_cons]
    simp only [List.length_append, crlf, List.length_cons, List.length_nil]
    omega
  have hblock : headerBlock output requestLine.length (output.length - 4) =
      crlf.intercalate (fields.map Header.line) := by
    rw [houtput]
    exact headerBlock_unlines requestLine _
  have htake : output.take requestLine.length = requestLine := by
    rw [houtput, unlines_cons, List.append_assoc, List.append_assoc, List.take_left]
  simp only [parseRequestWithConsumed, hcrlf, hblank]
  split
  · left
    exact ⟨_, Or.inl rfl, rfl⟩
  · rw [if_neg (by omega)]
    simp only [parseRequestHead, hblock, htake, hline]
    split
    · left
      exact ⟨_, Or.inr (Or.inr (Or.inl rfl)), rfl⟩
    · rw [parseHeaders_intercalate hfields]
      rcases parseLines_line hfields [] with hok | ⟨error, hlimit, herror⟩
      · right
        have hunambiguous : (contentLength.isSome && hasTransferEncoding) = false := by
          rcases hframing with h | h <;> simp [h]
        simp only [hok, List.nil_append, ok_bind, hlength, hte, hunambiguous, Bool.false_eq_true, if_false]
        rw [show output.length - 4 + 4 = output.length by omega]
        exact ⟨_, rfl⟩
      · left
        exact ⟨error, hlimit, by rw [herror]; rfl⟩

/-! ### Bytes after the head -/

theorem parseRequestHead_append {input : Bytes} {requestLineEnd headerEnd : Nat} (hline : requestLineEnd ≤ input.length)
    (hend : headerEnd ≤ input.length) (more : Bytes) :
    parseRequestHead (input ++ more) requestLineEnd headerEnd = parseRequestHead input requestLineEnd headerEnd := by
  have hblock : headerBlock (input ++ more) requestLineEnd headerEnd = headerBlock input requestLineEnd headerEnd := by
    simp only [headerBlock, List.take_append_of_le_length hend]
  simp only [parseRequestHead, hblock, List.take_append_of_le_length hline]

/-- An input with a blank line has a first line. -/
theorem exists_crlf {input : Bytes} {headerEnd : Nat} (h : findBytes input crlfCrlf = some headerEnd) :
    ∃ requestLineEnd, findBytes input crlf = some requestLineEnd ∧ requestLineEnd ≤ headerEnd := by
  obtain ⟨hle, hocc, -⟩ := indexOfSub_eq_some_iff.1 h
  have hcrlf : crlf <+: input.drop headerEnd := List.IsPrefix.trans (by decide) hocc
  cases hfound : findBytes input crlf with
  | none => exact absurd hcrlf (indexOfSub_eq_none_iff.1 hfound headerEnd hle)
  | some requestLineEnd =>
    refine ⟨requestLineEnd, rfl, ?_⟩
    by_contra hlt
    exact (indexOfSub_eq_some_iff.1 hfound).2.2 headerEnd (by omega) hcrlf

/-- Bytes after the blank line change nothing. -/
theorem parseRequestWithConsumed_append {input : Bytes} {headerEnd : Nat}
    (h : findBytes input crlfCrlf = some headerEnd) (more : Bytes) :
    parseRequestWithConsumed (input ++ more) = parseRequestWithConsumed input := by
  obtain ⟨requestLineEnd, hline, horder⟩ := exists_crlf h
  have hline' : findBytes (input ++ more) crlf = some requestLineEnd := indexOfSub_append_left more hline
  have hend' : findBytes (input ++ more) crlfCrlf = some headerEnd := indexOfSub_append_left more h
  have hle : headerEnd + 4 ≤ input.length := add_length_le_of_indexOfSub h
  simp only [parseRequestWithConsumed, hline, hline', h, hend']
  rw [parseRequestHead_append (by omega) (by omega)]

end BareProxy.Http
