import BareProxy.Base.Hostname
import BareProxy.Http.Parse

/-!
# The grammar of a request head

What a request head is, as text: a request line, header lines and an empty line, each closed by CR LF, within the limits
and with framing headers that agree. The parser accepts exactly such heads and returns their parts.
-/

namespace BareProxy.Http

/-! ### The grammar -/

/-- The members of the comma-separated values of all headers of one name. -/
def listMembers (headers : List Header) (name : String) : List Bytes :=
  (headersNamed headers name).flatMap fun header => (header.value.splitOn 44).map trimOptionalWhitespace

/-- All members are one number that fits in 64 bits; without a header there is no number. -/
def HasContentLength (headers : List Header) : Option Nat → Prop
  | none => headersNamed headers "content-length" = []
  | some length => headersNamed headers "content-length" ≠ [] ∧ length ≤ u64Max ∧
      ∀ member ∈ listMembers headers "content-length",
        member ≠ [] ∧ (∀ b ∈ member, isAsciiDigit b = true) ∧ radixValue 10 member = length

/-- At most one coding, which is `chunked`. -/
structure HasTransferEncoding (headers : List Header) (hasTransferEncoding : Bool) : Prop where
  once : (listMembers headers "transfer-encoding").length ≤ 1
  chunked : ∀ coding ∈ listMembers headers "transfer-encoding", eqIgnoreAsciiCase coding (ascii "chunked") = true
  seen : hasTransferEncoding = true ↔ listMembers headers "transfer-encoding" ≠ []

/-- A head with these lines says this request. -/
structure IsRequestHead (head requestLine : Bytes) (lines : List Bytes) (request : Request) : Prop where
  text : head = unlines (requestLine :: lines) ++ crlf
  firstLine : IsRequestLine requestLine request.method request.target
  version : request.version = .http11
  headers : List.Forall₂ IsHeaderLine lines request.headers
  requestLine_le : requestLine.length ≤ maxRequestLineSize
  lines_le : ∀ line ∈ lines, line.length ≤ maxHeaderSize
  block_le : (crlf.intercalate lines).length ≤ maxHeaderBlockSize
  count_le : request.headers.length ≤ maxHeaderCount
  contentLength : HasContentLength request.headers request.contentLength
  transferEncoding : HasTransferEncoding request.headers request.hasTransferEncoding
  unambiguous : request.contentLength = none ∨ request.hasTransferEncoding = false
  keepAlive : request.keepAlive = !headerContainsToken request.headers "connection" (ascii "close")

/-! ### The header block -/

theorem isLine_of_forall₂ {lines : List Bytes} {headers : List Header} (h : List.Forall₂ IsHeaderLine lines headers) :
    ∀ line ∈ lines, IsLine line ∧ line ≠ [] := by
  have hboth : List.Forall₂ (fun line header => (IsLine line ∧ line ≠ []) ∧ IsHeaderLine line header) lines headers :=
    h.imp fun line header hline => ⟨⟨hline.isLine, hline.ne_nil⟩, hline⟩
  exact ((List.forall₂_and_left lines headers).1 hboth).1

/-- An accepted block is header lines joined by CR LF, one for each header, within the limits. -/
theorem parseHeadersLoop_ok {headers result : List Header} {remaining : Bytes}
    (h : parseHeadersLoop headers remaining = .ok result) :
    ∃ lines fields, lines ≠ [] ∧ remaining = crlf.intercalate lines ∧ result = headers ++ fields ∧
      List.Forall₂ IsHeaderLine lines fields ∧ (∀ line ∈ lines, line.length ≤ maxHeaderSize) ∧
      result.length ≤ maxHeaderCount := by
  fun_induction parseHeadersLoop headers remaining with
  | case1 => cases h
  | case2 => cases h
  | case3 => cases h
  | case4 headers remaining lineEnd line hline hcount header hheader hend =>
      cases h
      have hwhole : line = remaining := by
        rw [show line = remaining.take lineEnd from rfl, hend, List.take_length]
      refine ⟨[line], [header], by simp, ?_, rfl, .cons (parseHeader_iff.1 hheader) .nil, ?_, ?_⟩
      · rw [List.intercalate_singleton, hwhole]
      · intro other hmem
        rw [List.mem_singleton.1 hmem]
        omega
      · rw [List.length_append, List.length_singleton]
        omega
  | case5 headers remaining lineEnd line hline hcount header hheader hend ih =>
      obtain ⟨lines, fields, hne, hrest, hresult, hfields, hlimits, htotal⟩ := ih h
      have hfound : findBytes remaining crlf = some lineEnd := by
        have hdefault : lineEnd = (findBytes remaining crlf).getD remaining.length := rfl
        cases hfind : findBytes remaining crlf with
        | none =>
            rw [hfind, Option.getD_none] at hdefault
            exact absurd hdefault hend
        | some found =>
            rw [hfind, Option.getD_some] at hdefault
            rw [hdefault]
      have hcut : remaining = line ++ crlf ++ remaining.drop (lineEnd + 2) := indexOfSub_split hfound
      refine ⟨line :: lines, header :: fields, by simp, ?_, ?_, .cons (parseHeader_iff.1 hheader) hfields, ?_, htotal⟩
      · obtain ⟨next, more, rfl⟩ := List.exists_cons_of_ne_nil hne
        rw [List.intercalate_cons_cons, ← hrest]
        exact hcut
      · rw [hresult, List.append_assoc, List.singleton_append]
      · intro other hmem
        rcases List.mem_cons.1 hmem with rfl | hmem
        · omega
        · exact hlimits other hmem

theorem parseLines_of_forall₂ {lines : List Bytes} {fields headers : List Header}
    (hfields : List.Forall₂ IsHeaderLine lines fields) (hlimits : ∀ line ∈ lines, line.length ≤ maxHeaderSize)
    (hcount : (headers ++ fields).length ≤ maxHeaderCount) : parseLines headers lines = .ok (headers ++ fields) := by
  induction hfields generalizing headers with
  | nil => rw [parseLines, List.append_nil]
  | @cons line field lines fields hline hrest ih =>
      have hlength := hlimits line List.mem_cons_self
      have hroom : headers.length < maxHeaderCount := by
        rw [List.length_append, List.length_cons] at hcount
        omega
      have hassoc : headers ++ field :: fields = headers ++ [field] ++ fields := by
        rw [List.append_assoc, List.singleton_append]
      rw [parseLines, if_neg (by omega), if_neg (by omega), parseHeader_iff.2 hline, hassoc]
      rw [hassoc] at hcount
      exact ih (fun other hmem => hlimits other (List.mem_cons_of_mem _ hmem)) hcount

theorem parseHeaders_ok {block : Bytes} {headers : List Header} :
    parseHeaders block = .ok headers ↔
      ∃ lines, block = crlf.intercalate lines ∧ List.Forall₂ IsHeaderLine lines headers ∧
        (∀ line ∈ lines, line.length ≤ maxHeaderSize) ∧ headers.length ≤ maxHeaderCount := by
  constructor
  · intro h
    unfold parseHeaders at h
    split at h
    · rename_i hempty
      cases h
      exact ⟨[], by rw [List.isEmpty_iff.1 hempty]; rfl, .nil, by simp, by simp⟩
    · obtain ⟨lines, fields, -, hblock, hresult, hfields, hlimits, hcount⟩ := parseHeadersLoop_ok h
      rw [List.nil_append] at hresult
      subst hresult
      exact ⟨lines, hblock, hfields, hlimits, hcount⟩
  · intro hfacts
    obtain ⟨lines, rfl, hfields, hlimits, hcount⟩ := hfacts
    have hlines := isLine_of_forall₂ hfields
    cases lines with
    | nil =>
        cases hfields
        rfl
    | cons line more =>
        have hne : crlf.intercalate (line :: more) ≠ [] := by
          have hline := (hlines line List.mem_cons_self).2
          cases more with
          | nil => rwa [List.intercalate_singleton]
          | cons next more =>
              rw [List.intercalate_cons_cons]
              simp [hline]
        rw [parseHeaders, List.isEmpty_eq_false_iff.2 hne, if_neg Bool.false_ne_true,
          parseHeadersLoop_intercalate (by simp) (fun other hmem => (hlines other hmem).1)]
        exact parseLines_of_forall₂ hfields hlimits hcount

/-! ### The framing headers -/

/-- One member of a `Content-Length` list says this number. -/
def MemberSays (member : Bytes) (length : Nat) : Prop :=
  trimOptionalWhitespace member ≠ [] ∧ (∀ b ∈ trimOptionalWhitespace member, isAsciiDigit b = true) ∧
    radixValue 10 (trimOptionalWhitespace member) = length ∧ length ≤ u64Max

theorem isNumeral_ten {s : Bytes} : IsNumeral 10 s ↔ s ≠ [] ∧ ∀ b ∈ s, isAsciiDigit b = true := by
  have hdigit : ∀ b : Byte, isAsciiDigit b = true ↔ ∃ digit ∈ digitValue b, digit < 10 := by
    intro b
    apply byte_forall (p := fun b => isAsciiDigit b = true ↔ ∃ digit ∈ digitValue b, digit < 10)
    decide +kernel
  constructor
  · intro h
    refine ⟨h.ne_nil, fun b hb => (hdigit b).2 ?_⟩
    obtain ⟨digit, hvalue, hlt⟩ := h.digits b hb
    exact ⟨digit, hvalue, hlt⟩
  · intro hfacts
    obtain ⟨hne, hall⟩ := hfacts
    refine ⟨hne, fun b hb => ?_⟩
    obtain ⟨digit, hvalue, hlt⟩ := (hdigit b).1 (hall b hb)
    exact ⟨digit, hvalue, hlt⟩

theorem parseU64_iff {s : Bytes} (hdigits : ∀ b ∈ s, isAsciiDigit b = true) (hne : s ≠ []) {value : Nat} :
    parseU64 s = some value ↔ radixValue 10 s = value ∧ value ≤ u64Max := by
  have hsign : s.head? ≠ some 43 := by
    intro hhead
    exact absurd (hdigits 43 (List.mem_of_mem_head? hhead)) (by decide)
  rw [parseU64, fromStrRadix_iff (by decide) hsign, isNumeral_ten]
  tauto

theorem parseContentLengthMember_iff {before after : Option Nat} {member : Bytes} :
    parseContentLengthMember before member = .ok after ↔
      ∃ length, MemberSays member length ∧ after = some length ∧ (before = none ∨ before = some length) := by
  unfold parseContentLengthMember MemberSays
  generalize trimOptionalWhitespace member = value
  dsimp only
  split
  · rename_i hinvalid
    constructor
    · intro h
      cases h
    · intro hfacts
      obtain ⟨length, ⟨hne, hdigits, -⟩, -⟩ := hfacts
      rw [List.isEmpty_eq_false_iff.2 hne, List.all_eq_true.2 hdigits] at hinvalid
      exact absurd hinvalid (by decide)
  · rename_i hvalid
    simp only [Bool.or_eq_true, not_or, List.isEmpty_iff, Bool.not_eq_true', Bool.not_eq_false, List.all_eq_true]
      at hvalid
    obtain ⟨hne, hdigits⟩ := hvalid
    cases hparsed : parseU64 value with
    | none =>
        constructor
        · intro h
          cases h
        · intro hfacts
          obtain ⟨length, ⟨-, -, hlength⟩, -⟩ := hfacts
          rw [(parseU64_iff hdigits hne).2 hlength] at hparsed
          cases hparsed
    | some parsed =>
        have hnumber := (parseU64_iff hdigits hne).1 hparsed
        cases before with
        | none =>
            constructor
            · intro h
              cases h
              exact ⟨parsed, ⟨hne, hdigits, hnumber⟩, rfl, Or.inl rfl⟩
            · intro hfacts
              obtain ⟨length, ⟨-, -, hlength, -⟩, rfl, -⟩ := hfacts
              rw [← hlength, hnumber.1]
        | some existing =>
            dsimp only
            split
            · rename_i hconflict
              constructor
              · intro h
                cases h
              · intro hfacts
                obtain ⟨length, ⟨-, -, hlength, -⟩, -, hbefore⟩ := hfacts
                have hexisting : existing = length := by simpa using hbefore
                exact absurd (hexisting.trans (hlength.symm.trans hnumber.1)) hconflict
            · rename_i hsame
              have hsame : existing = parsed := Decidable.not_not.1 hsame
              subst hsame
              constructor
              · intro h
                cases h
                exact ⟨existing, ⟨hne, hdigits, hnumber⟩, rfl, Or.inr rfl⟩
              · intro hfacts
                obtain ⟨length, -, rfl, hbefore⟩ := hfacts
                have hexisting : existing = length := by simpa using hbefore
                rw [hexisting]

/-- A byte of a value is a comma, a blank, or a byte of one of its members. -/
theorem isAscii_of_members {value : Bytes}
    (h : ∀ member ∈ value.splitOn 44, ∀ b ∈ trimOptionalWhitespace member, isAsciiDigit b = true) :
    isAscii value = true := by
  apply List.all_eq_true.2
  intro b hb
  apply decide_eq_true
  rcases @mem_splitOn _ _ _ _ 44 _ hb with rfl | ⟨member, hmember, hb⟩
  · decide
  · obtain ⟨before, after, hmiddle, hbefore, hafter⟩ := exists_trimOptionalWhitespace member
    rw [hmiddle, List.mem_append, List.mem_append] at hb
    rcases hb with (hb | hb) | hb
    · exact (isOptionalWhitespace_facts b (hbefore b hb)).2
    · exact (isTokenByte_facts b (isAsciiDigit_facts b (h member hmember b hb)).1).2.2.2.2
    · exact (isOptionalWhitespace_facts b (hafter b hb)).2

theorem parseContentLengthHeader_iff {before after : Option Nat} {header : Header} :
    parseContentLengthHeader before header = .ok after ↔
      ∃ length, (∀ member ∈ header.value.splitOn 44, MemberSays member length) ∧ after = some length ∧
        (before = none ∨ before = some length) := by
  unfold parseContentLengthHeader
  have hmembers := @foldlM_agree _ _ _ parseContentLengthMember MemberSays
    (fun before member after => parseContentLengthMember_iff) (header.value.splitOn 44) before after
  split
  · rename_i hinvalid
    constructor
    · intro h
      cases h
    · intro hfacts
      obtain ⟨length, hnumber, -⟩ := hfacts
      have hascii := isAscii_of_members fun member hmember => (hnumber member hmember).2.1
      rw [validUtf8_of_isAscii hascii] at hinvalid
      exact absurd hinvalid (by decide)
  · rw [hmembers]
    constructor
    · rintro (⟨hnil, -⟩ | ⟨length, -, hafter, hbefore, hnumber⟩)
      · exact absurd hnil (List.splitOn_ne_nil 44 header.value)
      · exact ⟨length, hnumber, hafter, hbefore⟩
    · intro hfacts
      obtain ⟨length, hnumber, hafter, hbefore⟩ := hfacts
      exact Or.inr ⟨length, List.splitOn_ne_nil 44 header.value, hafter, hbefore, hnumber⟩

/-- Every value has a member. -/
theorem listMembers_ne_nil {headers : List Header} {name : String} :
    listMembers headers name ≠ [] ↔ headersNamed headers name ≠ [] := by
  unfold listMembers
  cases headersNamed headers name with
  | nil => simp
  | cons header more =>
      obtain ⟨part, parts, hparts⟩ := List.exists_cons_of_ne_nil (List.splitOn_ne_nil 44 header.value)
      simp [hparts]

theorem parseContentLength_iff {headers : List Header} {contentLength : Option Nat} :
    parseContentLength headers = .ok contentLength ↔ HasContentLength headers contentLength := by
  have hfold := @foldlM_agree _ _ _ parseContentLengthHeader
    (fun header length => ∀ member ∈ header.value.splitOn 44, MemberSays member length)
    (fun before header after => parseContentLengthHeader_iff) (headersNamed headers "content-length") none contentLength
  have hmembers : ∀ length, (∀ header ∈ headersNamed headers "content-length",
      ∀ member ∈ header.value.splitOn 44, MemberSays member length) ↔
        ∀ member ∈ listMembers headers "content-length",
          member ≠ [] ∧ (∀ b ∈ member, isAsciiDigit b = true) ∧ radixValue 10 member = length ∧ length ≤ u64Max := by
    intro length
    simp only [listMembers, List.mem_flatMap, List.mem_map, MemberSays]
    constructor
    · rintro h member ⟨header, hheader, raw, hraw, rfl⟩
      exact h header hheader raw hraw
    · intro h header hheader raw hraw
      exact h _ ⟨header, hheader, raw, hraw, rfl⟩
  rw [parseContentLength, hfold]
  cases contentLength with
  | none => simp [HasContentLength]
  | some length =>
      constructor
      · rintro (⟨-, hnone⟩ | ⟨found, hne, hfound, -, hnumber⟩)
        · cases hnone
        · cases hfound
          have hlist := (hmembers length).1 hnumber
          obtain ⟨member, hmember⟩ := List.exists_mem_of_ne_nil _ (listMembers_ne_nil.2 hne)
          refine ⟨hne, (hlist member hmember).2.2.2, fun other hother => ?_⟩
          obtain ⟨hfull, hdigits, hvalue, -⟩ := hlist other hother
          exact ⟨hfull, hdigits, hvalue⟩
      · intro hfacts
        obtain ⟨hne, hle, hlist⟩ := hfacts
        refine Or.inr ⟨length, hne, rfl, Or.inl rfl, (hmembers length).2 fun member hmember => ?_⟩
        obtain ⟨hfull, hdigits, hvalue⟩ := hlist member hmember
        exact ⟨hfull, hdigits, hvalue, hle⟩

/-- The loop over all members of `Transfer-Encoding`: nothing, or one `chunked` and nothing before it. -/
theorem parseTransferCodings_ok {members : List Bytes} {before after : Bool} :
    members.foldlM parseTransferCoding before = .ok after ↔
      (members = [] ∧ after = before) ∨
        ∃ member, members = [member] ∧ before = false ∧ after = true ∧
          eqIgnoreAsciiCase (trimOptionalWhitespace member) (ascii "chunked") = true := by
  have hstep : ∀ saw member after, parseTransferCoding saw member = .ok after ↔
      saw = false ∧ after = true ∧ eqIgnoreAsciiCase (trimOptionalWhitespace member) (ascii "chunked") = true := by
    intro saw member after
    have hempty : eqIgnoreAsciiCase [] (ascii "chunked") = false := by decide
    unfold parseTransferCoding
    generalize trimOptionalWhitespace member = coding
    dsimp only
    cases coding with
    | nil => simp [hempty]
    | cons first more =>
        generalize eqIgnoreAsciiCase (first :: more) (ascii "chunked") = chunked
        cases chunked <;> cases saw <;> cases after <;> simp
  cases members with
  | nil => cases before <;> cases after <;> simp [pure_eq_ok]
  | cons member more =>
      rw [List.foldlM_cons, bind_eq_ok]
      constructor
      · intro hfacts
        obtain ⟨between, hfirst, hrest⟩ := hfacts
        obtain ⟨hbefore, hbetween, hchunked⟩ := (hstep before member between).1 hfirst
        subst hbetween
        cases more with
        | nil =>
            cases hrest
            exact Or.inr ⟨member, rfl, hbefore, rfl, hchunked⟩
        | cons next more =>
            rw [List.foldlM_cons, bind_eq_ok] at hrest
            obtain ⟨_, hnext, -⟩ := hrest
            cases ((hstep true next _).1 hnext).1
      · rintro (⟨hnil, -⟩ | ⟨only, honly, hbefore, hafter, hchunked⟩)
        · cases hnil
        · obtain ⟨rfl, rfl⟩ := List.cons_eq_cons.1 honly
          exact ⟨true, (hstep before member true).2 ⟨hbefore, rfl, hchunked⟩, by rw [hafter]; rfl⟩

theorem parseTransferEncoding_iff {headers : List Header} {hasTransferEncoding : Bool} :
    parseTransferEncoding headers = .ok hasTransferEncoding ↔ HasTransferEncoding headers hasTransferEncoding := by
  have hlist : listMembers headers "transfer-encoding" =
      ((headersNamed headers "transfer-encoding").flatMap fun header => header.value.splitOn 44).map
        trimOptionalWhitespace := by
    rw [listMembers, List.map_flatMap]
  rw [parseTransferEncoding, foldlM_flatMap, parseTransferCodings_ok]
  generalize ((headersNamed headers "transfer-encoding").flatMap fun header => header.value.splitOn 44) = members at hlist
  constructor
  · rintro (⟨rfl, rfl⟩ | ⟨member, rfl, -, rfl, hchunked⟩)
    · exact ⟨by simp [hlist], by simp [hlist], by simp [hlist]⟩
    · exact ⟨by simp [hlist], by simpa [hlist] using hchunked, by simp [hlist]⟩
  · intro hfacts
    obtain ⟨honce, hchunked, hseen⟩ := hfacts
    rw [hlist] at honce hchunked hseen
    match members with
    | [] => exact Or.inl ⟨rfl, by simpa using hseen⟩
    | [member] => exact Or.inr ⟨member, rfl, rfl, by simpa using hseen, by simpa using hchunked⟩
    | first :: second :: more => simp at honce

/-! ### The whole head -/

private theorem take_add_of_prefix {input sub : Bytes} {i : Nat} (h : sub <+: input.drop i) :
    input.take (i + sub.length) = input.take i ++ sub := by
  rw [List.take_add, ← List.prefix_iff_eq_take.1 h]

/-- The bytes up to the blank line are the request line and the lines of the header block. -/
theorem take_eq_unlines {input : Bytes} {requestLineEnd headerEnd : Nat} {lines : List Bytes}
    (hcrlf : findBytes input crlf = some requestLineEnd) (hblank : findBytes input crlfCrlf = some headerEnd)
    (horder : requestLineEnd ≤ headerEnd) (hlines : ∀ line ∈ lines, line ≠ [])
    (hblock : headerBlock input requestLineEnd headerEnd = crlf.intercalate lines) :
    input.take (headerEnd + 4) = unlines (input.take requestLineEnd :: lines) ++ crlf := by
  obtain ⟨-, hline, -⟩ := indexOfSub_eq_some_iff.1 hcrlf
  obtain ⟨hle, hend, hfirst⟩ := indexOfSub_eq_some_iff.1 hblank
  have htotal : input.take (headerEnd + 4) = input.take headerEnd ++ crlf ++ crlf := by
    rw [List.append_assoc]
    exact take_add_of_prefix hend
  have hrequest : input.take (requestLineEnd + 2) = input.take requestLineEnd ++ crlf := take_add_of_prefix hline
  unfold headerBlock at hblock
  dsimp only at hblock
  rw [htotal, unlines_cons]
  split at hblock
  · rename_i hsame
    cases lines with
    | nil => rw [hsame, unlines_nil, List.append_nil]
    | cons line more =>
        have hne := hlines line List.mem_cons_self
        cases more <;> simp [hne] at hblock
  · rename_i hdifferent
    have hapart : requestLineEnd + 2 < headerEnd := by
      have hlf : input[requestLineEnd + 1]? = some lf := by
        obtain ⟨tail, htail⟩ := hline
        rw [← List.getElem?_drop, ← htail]
        rfl
      have hcr : input[headerEnd]? = some cr := by
        obtain ⟨tail, htail⟩ := hend
        rw [← Nat.add_zero headerEnd, ← List.getElem?_drop, ← htail]
        rfl
      have hnext : headerEnd ≠ requestLineEnd + 1 := by
        rintro rfl
        rw [hlf] at hcr
        exact absurd hcr (by decide)
      have hsecond : headerEnd ≠ requestLineEnd + 2 := by
        rintro rfl
        apply hfirst requestLineEnd (by omega)
        have hstart : input.drop requestLineEnd = crlf ++ input.drop (requestLineEnd + 2) := by
          obtain ⟨tail, htail⟩ := hline
          rw [← List.drop_drop, ← htail]
          rfl
        rw [hstart]
        exact (List.prefix_append_right_inj crlf).2 (List.IsPrefix.trans (by decide) hend)
      omega
    have hne : lines ≠ [] := by
      rintro rfl
      have hlength := congrArg List.length hblock
      simp only [List.length_drop, List.length_take, List.intercalate_nil, List.length_nil] at hlength
      omega
    have hcut : input.take headerEnd = input.take requestLineEnd ++ crlf ++ crlf.intercalate lines := by
      have hparts := List.take_append_drop (requestLineEnd + 2) (input.take headerEnd)
      rw [List.take_take, Nat.min_eq_left (by omega)] at hparts
      rw [← hblock, ← hrequest, hparts]
    rw [hcut, unlines_eq_intercalate hne]
    simp only [List.append_assoc]

theorem parseRequestHead_iff {input : Bytes} {requestLineEnd headerEnd consumed : Nat} {request : Request} :
    parseRequestHead input requestLineEnd headerEnd = .ok (request, consumed) ↔
      consumed = headerEnd + 4 ∧ (headerBlock input requestLineEnd headerEnd).length ≤ maxHeaderBlockSize ∧
        parseRequestLine (input.take requestLineEnd) = .ok (request.method, request.target, request.version) ∧
        parseHeaders (headerBlock input requestLineEnd headerEnd) = .ok request.headers ∧
        parseContentLength request.headers = .ok request.contentLength ∧
        parseTransferEncoding request.headers = .ok request.hasTransferEncoding ∧
        (request.contentLength = none ∨ request.hasTransferEncoding = false) ∧
        request.keepAlive = !headerContainsToken request.headers "connection" (ascii "close") := by
  unfold parseRequestHead
  dsimp only
  constructor
  · intro h
    split at h
    · cases h
    · rename_i hblock
      simp only [bind_eq_ok] at h
      obtain ⟨⟨method, target, version⟩, hline, headers, hheaders, contentLength, hlength, coding, hcoding, h⟩ := h
      split at h
      · cases h
      · rename_i hframing
        cases h
        refine ⟨rfl, by omega, hline, hheaders, hlength, hcoding, ?_, rfl⟩
        cases contentLength with
        | none => exact Or.inl rfl
        | some length => exact Or.inr (by simpa using hframing)
  · intro hfacts
    obtain ⟨rfl, hblock, hline, hheaders, hlength, hcoding, hunambiguous, hkeepAlive⟩ := hfacts
    have hframing : (request.contentLength.isSome && request.hasTransferEncoding) = false := by
      rcases hunambiguous with hnone | hfalse
      · rw [hnone]
        rfl
      · rw [hfalse, Bool.and_false]
    rw [if_neg (by omega), hline]
    simp only [ok_bind, hheaders, hlength, hcoding, hframing, Bool.false_eq_true, if_false, ← hkeepAlive]

/-- A request head, with nothing behind it, is read in full. -/
theorem IsRequestHead.parse {head requestLine : Bytes} {lines : List Bytes} {request : Request}
    (h : IsRequestHead head requestLine lines request) : parseRequestWithConsumed head = .ok (request, head.length) := by
  have hrequestLine : parseRequestLine requestLine = .ok (request.method, request.target, request.version) :=
    parseRequestLine_iff.2 h.firstLine
  obtain ⟨hparts, hisLine⟩ := parseRequestLine_ok hrequestLine
  have hne : requestLine ≠ [] := by
    rw [hparts]
    simp
  have hlines : ∀ line ∈ requestLine :: lines, IsLine line ∧ line ≠ [] := by
    intro line hmem
    rcases List.mem_cons.1 hmem with rfl | hmem
    · exact ⟨hisLine, hne⟩
    · exact isLine_of_forall₂ h.headers line hmem
  have hcrlf : findBytes head crlf = some requestLine.length := by
    rw [h.text, unlines_cons, List.append_assoc _ (unlines _)]
    exact indexOfSub_crlf_line hisLine _
  have hblank : findBytes head crlfCrlf = some (head.length - 4) := by
    rw [h.text]
    exact indexOfSub_crlfCrlf_unlines (by simp) hlines
  have hroom : requestLine.length + 4 ≤ head.length := by
    rw [h.text, unlines_cons]
    simp only [List.length_append, crlf, List.length_cons, List.length_nil]
    omega
  have hblock : headerBlock head requestLine.length (head.length - 4) = crlf.intercalate lines := by
    rw [h.text]
    exact headerBlock_unlines requestLine lines
  have htake : head.take requestLine.length = requestLine := by
    rw [h.text, unlines_cons, List.append_assoc, List.append_assoc, List.take_left]
  have hlimit := h.requestLine_le
  simp only [parseRequestWithConsumed, hcrlf, hblank]
  rw [if_neg (by omega), if_neg (by omega), parseRequestHead_iff, hblock, htake]
  exact ⟨by omega, h.block_le, hrequestLine, parseHeaders_ok.2 ⟨lines, rfl, h.headers, h.lines_le, h.count_le⟩,
    parseContentLength_iff.2 h.contentLength, parseTransferEncoding_iff.2 h.transferEncoding, h.unambiguous, h.keepAlive⟩

/-- The parser accepts exactly the inputs that begin with a request head which ends at the first blank line, returns what
the head says, and bytes after the head change nothing. -/
theorem parseRequestWithConsumed_iff (input : Bytes) (request : Request) (n : Nat) :
    (parseRequestWithConsumed input = .ok (request, n) ↔
      ∃ headerEnd, findBytes input crlfCrlf = some headerEnd ∧ n = headerEnd + 4 ∧
        ∃ requestLine lines, IsRequestHead (input.take n) requestLine lines request) ∧
    (parseRequestWithConsumed input = .ok (request, n) →
      ∀ after, parseRequestWithConsumed (input.take n ++ after) = .ok (request, n)) := by
  have hsame : ∀ {headerEnd}, findBytes input crlfCrlf = some headerEnd → n = headerEnd + 4 →
      n ≤ input.length ∧ ∀ after, parseRequestWithConsumed (input.take n ++ after) = parseRequestWithConsumed input := by
    intro headerEnd hblank hn
    have hle : headerEnd + 4 ≤ input.length := add_length_le_of_indexOfSub hblank
    have htake : findBytes (input.take n) crlfCrlf = some headerEnd := indexOfSub_take hblank (by rw [hn]; rfl)
    refine ⟨by omega, fun after => ?_⟩
    have hwhole := parseRequestWithConsumed_append htake (input.drop n)
    rw [List.take_append_drop] at hwhole
    rw [parseRequestWithConsumed_append htake, hwhole]
  constructor
  · constructor
    · intro h
      obtain ⟨requestLineEnd, headerEnd, hends⟩ := parseRequestWithConsumed_ok h
      refine ⟨headerEnd, hends.blankLine, hends.consumed, input.take requestLineEnd, ?_⟩
      have horder := hends.order
      have hlimit := hends.line_le
      simp only [parseRequestWithConsumed, hends.crlf, hends.blankLine] at h
      rw [if_neg (by omega), if_neg (by omega), parseRequestHead_iff] at h
      obtain ⟨hconsumed, hblock, hline, hheaders, hlength, hcoding, hunambiguous, hkeepAlive⟩ := h
      obtain ⟨lines, hlines, hfields, hlimits, hcount⟩ := parseHeaders_ok.1 hheaders
      rw [hlines] at hblock
      have htext := take_eq_unlines hends.crlf hends.blankLine horder
        (fun line hmem => (isLine_of_forall₂ hfields line hmem).2) hlines
      refine ⟨lines, ?_⟩
      rw [hconsumed]
      exact {
        text := htext
        firstLine := parseRequestLine_iff.1 hline
        version := rfl
        headers := hfields
        requestLine_le := by rw [List.length_take]; omega
        lines_le := hlimits
        block_le := hblock
        count_le := hcount
        contentLength := parseContentLength_iff.1 hlength
        transferEncoding := parseTransferEncoding_iff.1 hcoding
        unambiguous := hunambiguous
        keepAlive := hkeepAlive }
    · intro hfacts
      obtain ⟨headerEnd, hblank, hn, requestLine, lines, hhead⟩ := hfacts
      obtain ⟨hle, heq⟩ := hsame hblank hn
      have hparsed := hhead.parse
      rw [List.length_take, Nat.min_eq_left hle] at hparsed
      rw [← heq [], List.append_nil, hparsed]
  · intro h after
    obtain ⟨requestLineEnd, headerEnd, hends⟩ := parseRequestWithConsumed_ok h
    rw [(hsame hends.blankLine hends.consumed).2 after, h]

theorem parseRequestWithConsumed_iff_get :
    ∃ request, parseRequestWithConsumed (ascii "GET / HTTP/1.1\r\n\r\n") = .ok (request, 18) ∧
      ∀ after, parseRequestWithConsumed (ascii "GET / HTTP/1.1\r\n\r\n" ++ after) = .ok (request, 18) := by
  have hparse : parseRequestWithConsumed (ascii "GET / HTTP/1.1\r\n\r\n") =
      .ok ({ method := ascii "GET", target := ascii "/", version := .http11, headers := [], contentLength := none,
             hasTransferEncoding := false, keepAlive := true }, 18) := by
    decide +kernel
  have hwhole : (ascii "GET / HTTP/1.1\r\n\r\n").take 18 = ascii "GET / HTTP/1.1\r\n\r\n" := by decide
  refine ⟨_, hparse, fun after => ?_⟩
  have hafter := (parseRequestWithConsumed_iff _ _ _).2 hparse after
  rwa [hwhole] at hafter

end BareProxy.Http
