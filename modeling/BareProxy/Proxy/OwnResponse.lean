import BareProxy.Http.Response
import BareProxy.Proxy.RequestFraming
import BareProxy.Proxy.Sanitized

/-!
# BareProxy reads its own responses

A response that was built with `with_header` is written as a head and a body. The reader of upstream responses finds the
head where the writer ended it, whatever the body holds, and in it the status, the headers and the length of the body.
-/

namespace BareProxy.Proxy

open Http Reader

/-! ### What is written -/

def ownStatusLine (status : StatusCode) : Bytes :=
  ascii "HTTP/1.1 " ++ decimal status.code ++ ascii " " ++ ascii status.reasonPhrase

def ownFieldLines (headers : List Header) (body : Bytes) : List Bytes :=
  headers.map Header.line ++ [ascii "Content-Length: " ++ decimal body.length]

/-- A header that `with_header` accepts. -/
structure IsResponseHeader (header : Header) : Prop where
  name_ne_nil : header.name ≠ []
  name_token : ∀ b ∈ header.name, isTokenByte b = true
  value_valid : ∀ b ∈ header.value, isValidHeaderValueByte b = true
  unmanaged : ∀ name ∈ ["content-length", "transfer-encoding"], eqIgnoreAsciiCase header.name (ascii name) = false

theorem validateResponseHeader_iff {header : Header} :
    validateResponseHeader header.name header.value = .ok () ↔ IsResponseHeader header := by
  unfold validateResponseHeader
  constructor
  · intro h
    split at h
    · cases h
    · rename_i hmanaged
      split at h
      · cases h
      · rename_i hname
        split at h
        · cases h
        · rename_i hvalue
          simp only [Bool.or_eq_true, not_or, List.isEmpty_iff, Bool.not_eq_true', Bool.not_eq_false,
            List.all_eq_true, Bool.not_eq_true] at hmanaged hname hvalue
          refine ⟨hname.1, hname.2, hvalue, ?_⟩
          intro name hmem
          simp only [List.mem_cons, List.not_mem_nil, or_false] at hmem
          rcases hmem with rfl | rfl
          · exact hmanaged.1
          · exact hmanaged.2
  · intro h
    rw [h.unmanaged "content-length" (by simp), h.unmanaged "transfer-encoding" (by simp),
      List.isEmpty_eq_false_iff.2 h.name_ne_nil, List.all_eq_true.2 h.name_token, List.all_eq_true.2 h.value_valid]
    rfl

/-- The headers that were given, one `with_header` after the other. -/
theorem foldlM_withHeader_ok {headers : List Header} {response built : Response}
    (h : headers.foldlM (fun response header => response.withHeader header.name header.value) response = .ok built) :
    built = { response with headers := response.headers ++ headers } ∧ ∀ header ∈ headers, IsResponseHeader header := by
  induction headers generalizing response with
  | nil =>
    cases h
    simp
  | cons header headers ih =>
    rw [List.foldlM_cons, bind_eq_ok] at h
    obtain ⟨next, hnext, hrest⟩ := h
    rw [Response.withHeader, bind_eq_ok] at hnext
    obtain ⟨⟨⟩, hvalid, hnext⟩ := hnext
    cases hnext
    obtain ⟨hbuilt, hall⟩ := ih hrest
    refine ⟨?_, List.forall_mem_cons.2 ⟨validateResponseHeader_iff.1 hvalid, hall⟩⟩
    rw [hbuilt, List.append_assoc, List.singleton_append]

theorem serialize_eq {response : Response} (hheaders : ∀ header ∈ response.headers, IsResponseHeader header) :
    response.serialize =
      .ok (unlines (ownStatusLine response.status :: ownFieldLines response.headers response.body) ++ crlf ++
        response.body) := by
  have hvalid : (response.headers.forM fun header => validateResponseHeader header.name header.value) = .ok () :=
    forM_eq_ok.2 fun header hmem => validateResponseHeader_iff.2 (hheaders header hmem)
  have hlines : response.headers.flatMap (fun header => header.name ++ ascii ": " ++ header.value ++ crlf) =
      unlines (response.headers.map Header.line) := flatMap_fieldLine response.headers
  rw [Response.serialize, hvalid, ok_bind, hlines, ownFieldLines, unlines_cons, unlines_append, unlines_cons,
    unlines_nil, ownStatusLine, pure_eq_ok]
  simp only [List.append_assoc, List.nil_append]

/-! ### What is read -/

/-- A line as the serializer writes it. The value is not trimmed, so it may start or end with blanks. -/
theorem isFieldLine_line {header : Header} (hne : header.name ≠ []) (htoken : ∀ b ∈ header.name, isTokenByte b = true)
    (hvalue : ∀ b ∈ header.value, isValidHeaderValueByte b = true) :
    IsFieldLine header.line ∧ fieldName header.line = header.name ∧ IsLine header.line := by
  have hcolon : (58 : Byte) ∉ header.name := fun hmem => (isTokenByte_facts 58 (htoken 58 hmem)).2.2.1 rfl
  have hline : header.line = header.name ++ 58 :: (ascii " " ++ header.value) := by
    rw [Header.line, List.append_assoc]
    rfl
  have hname : fieldName header.line = header.name := by rw [hline, fieldName_line hcolon]
  refine ⟨⟨⟨header.name.length, ?_⟩, ?_, ?_, ?_⟩, hname, ?_⟩
  · rw [hline, idxOf?_append_of_notMem hcolon]
  · rw [hname]
    exact hne
  · rw [hname]
    exact htoken
  · intro b hb
    rw [hline, fieldValue_line hcolon] at hb
    rcases List.mem_append.1 (mem_of_mem_trimOptionalWhitespace hb) with hb | hb
    · rw [List.mem_singleton.1 hb]
      decide
    · exact hvalue b hb
  · exact isLine_append.2 ⟨isLine_append.2 ⟨isLine_of_token htoken, by decide⟩, isLine_of_valid hvalue⟩

/-- The length that is written is a length that is read. -/
theorem parseResponseContentLength_decimal {n : Nat} (hn : n ≤ u64Max) :
    parseResponseContentLength none (ascii "Content-Length: " ++ decimal n) = .ok (some n) := by
  have hdigits : ∀ b ∈ decimal n, isAsciiDigit b = true := fun b hb => isAsciiDigit_of_mem_decimal hb
  have hcolon : (58 : Byte) ∉ ascii "Content-Length" := by decide
  have hseparator : (ascii "Content-Length: " ++ decimal n).idxOf? 58 = some 14 :=
    idxOf?_append_of_notMem hcolon (32 :: decimal n)
  have htrim : trimOptionalWhitespace ((ascii "Content-Length: " ++ decimal n).drop (14 + 1)) = decimal n := by
    have hdrop : (ascii "Content-Length: " ++ decimal n).drop (14 + 1) = 32 :: decimal n := rfl
    rw [hdrop, trimOptionalWhitespace_cons (by decide)]
    exact trimOptionalWhitespace_eq_self_of_forall fun b hb => (isAsciiDigit_facts b (hdigits b hb)).2.1
  have hname : eqIgnoreAsciiCase ((ascii "Content-Length: " ++ decimal n).take 14) (ascii "content-length") = true := by
    have htake : (ascii "Content-Length: " ++ decimal n).take 14 = ascii "Content-Length" := rfl
    rw [htake]
    decide
  have hcomma : (decimal n).contains 44 = false := by
    rw [← Bool.not_eq_true, List.contains_iff_mem]
    exact fun hmem => (isAsciiDigit_facts _ (hdigits _ hmem)).2.2 rfl
  have hutf8 : validUtf8 (decimal n) = true :=
    validUtf8_of_token fun b hb => (isAsciiDigit_facts b (hdigits b hb)).1
  have hparse : parseU64 (decimal n) = some n := fromStrRadix_decimal hn
  rw [parseResponseContentLength, hseparator]
  simp only [hname, htrim, hcomma, hutf8, hparse, List.all_eq_true.2 hdigits,
    List.isEmpty_eq_false_iff.2 (decimal_ne_nil n)]
  rfl

/-- Every status line is one that the reader takes, with the status it was written for. -/
theorem ownStatusLine_facts (status : StatusCode) :
    IsLine (ownStatusLine status) ∧ (∀ b ∈ ownStatusLine status, isValidResponseFieldValueByte b = true) ∧
      responseStatusCode (unlines [ownStatusLine status] ++ crlf) = .ok status.code := by
  cases status <;> decide +kernel

/-- A response of its own is one head and then the body, byte for byte: the head holds the status, the headers in their
order and one `Content-Length`. The length of a body in memory fits in 64 bits. -/
theorem serialize_readResponseHead {ρ : Type} [Reader ρ] (upstream : ρ) {status : StatusCode} {headers : List Header}
    {body : Bytes} {response : Response}
    (hbuilt : headers.foldlM (fun response header => response.withHeader header.name header.value)
      (Response.new status body) = .ok response) (hbody : body.length ≤ u64Max) :
    ∃ bytes head, response.serialize = .ok bytes ∧ readResponseHead upstream bytes = (.ok (head, body), upstream) ∧
      responseStatusCode head = .ok status.code ∧
      fieldLines (headerBytes head) = headers.map Header.line ++ [ascii "Content-Length: " ++ decimal body.length] ∧
      responseContentLength (headerBytes head) = .ok (some body.length) ∧
      responseTransferFraming (headerBytes head) = .ok .none := by
  obtain ⟨hresponse, hheaders⟩ := foldlM_withHeader_ok hbuilt
  obtain rfl : response = ⟨status, headers, body⟩ := hresponse
  obtain ⟨hstatusLine, hstatusBytes, hstatusCode⟩ := ownStatusLine_facts status
  have hlengthHeader : ∀ b ∈ decimal body.length, isValidHeaderValueByte b = true := fun b hb =>
    isTokenByte_valid b (isAsciiDigit_facts b (isAsciiDigit_of_mem_decimal hb)).1
  have hlengthToken : ascii "Content-Length" ≠ [] ∧ ∀ b ∈ ascii "Content-Length", isTokenByte b = true := by decide
  obtain ⟨hlengthField, hlengthName, hlengthLine⟩ :
      IsFieldLine (ascii "Content-Length: " ++ decimal body.length) ∧
        fieldName (ascii "Content-Length: " ++ decimal body.length) = ascii "Content-Length" ∧
        IsLine (ascii "Content-Length: " ++ decimal body.length) :=
    @isFieldLine_line ⟨ascii "Content-Length", decimal body.length⟩ hlengthToken.1 hlengthToken.2 hlengthHeader
  have hgiven : ∀ header ∈ headers,
      IsFieldLine header.line ∧ fieldName header.line = header.name ∧ IsLine header.line := fun header hmem =>
    isFieldLine_line (hheaders header hmem).name_ne_nil (hheaders header hmem).name_token
      (hheaders header hmem).value_valid
  have hfields : ∀ line ∈ ownFieldLines headers body, IsFieldLine line ∧ IsLine line := by
    intro line hline
    rcases List.mem_append.1 hline with hline | hline
    · obtain ⟨header, hmem, rfl⟩ := List.mem_map.1 hline
      exact ⟨(hgiven header hmem).1, (hgiven header hmem).2.2⟩
    · rw [List.mem_singleton.1 hline]
      exact ⟨hlengthField, hlengthLine⟩
  set head := unlines (ownStatusLine status :: ownFieldLines headers body) ++ crlf with hhead
  have hlines : IsHeadOf head (ownStatusLine status) (ownFieldLines headers body) :=
    ⟨hhead, hstatusLine, fun line hline => ⟨(hfields line hline).2, (hfields line hline).1.ne_nil⟩⟩
  have hcode : responseStatusCode head = .ok status.code := by
    rw [← hstatusCode]
    exact responseStatusCode_congr hlines ⟨rfl, hstatusLine, by simp⟩
  have hvalid : validateResponseHeadSyntax head = .ok () :=
    hlines.validateResponseHeadSyntax_iff.2 ⟨⟨_, hcode⟩, hstatusBytes, fun line hline => (hfields line hline).1⟩
  have hblank : findBytes (head ++ body) crlfCrlf = some (head.length - 4) := by
    apply indexOfSub_append_left
    rw [hhead]
    apply indexOfSub_crlfCrlf_unlines (List.cons_ne_nil _ _)
    intro line hline
    rcases List.mem_cons.1 hline with rfl | hline
    · exact ⟨hstatusLine, statusLine_ne_nil hlines hcode⟩
    · exact hlines.fields line hline
  have hfour : head.length - 4 + 4 = head.length := by
    have hle : 4 ≤ head.length := hlines.suffix.length_le
    omega
  have hread : readResponseHead upstream (head ++ body) = (.ok (head, body), upstream) := by
    rw [readResponseHead, hblank]
    simp only [hfour, List.take_left, List.drop_left, hvalid]
  have hheaderLines : fieldLines (headerBytes head) = ownFieldLines headers body := hlines.fieldLines_headerBytes
  refine ⟨head ++ body, head, serialize_eq hheaders, hread, hcode, hheaderLines, ?_, ?_⟩
  · have hskip : (headers.map Header.line).foldlM parseResponseContentLength none = .ok none := by
      apply foldlM_of_skip
      intro line hline
      obtain ⟨header, hmem, rfl⟩ := List.mem_map.1 hline
      apply parseResponseContentLength_skip (hgiven header hmem).1
      rw [(hgiven header hmem).2.1]
      exact (hheaders header hmem).unmanaged "content-length" (by simp)
    rw [responseContentLength, hheaderLines, ownFieldLines, List.foldlM_append, hskip, ok_bind, List.foldlM_cons,
      parseResponseContentLength_decimal hbody]
    rfl
  · have hskip : (ownFieldLines headers body).foldlM pushCodings [] = .ok [] := by
      apply foldlM_of_skip
      intro line hline
      apply pushCodings_skip (hfields line hline).1
      rcases List.mem_append.1 hline with hline | hline
      · obtain ⟨header, hmem, rfl⟩ := List.mem_map.1 hline
        rw [(hgiven header hmem).2.1]
        exact (hheaders header hmem).unmanaged "transfer-encoding" (by simp)
      · rw [List.mem_singleton.1 hline, hlengthName]
        decide
    rw [responseTransferFraming, hheaderLines, hskip]
    rfl

/-- A header whose value starts and ends with blanks and holds a colon, and a body with an empty line. -/
theorem serialize_readResponseHead_blankLine :
    ∃ bytes head, Response.serialize ⟨.notFound, [⟨ascii "X-Note", ascii " a: b\t"⟩], ascii "\r\n\r\nx"⟩ = .ok bytes ∧
      readResponseHead (Source.ofSegments []) bytes = (.ok (head, ascii "\r\n\r\nx"), Source.ofSegments []) := by
  have hbuilt : [Header.mk (ascii "X-Note") (ascii " a: b\t")].foldlM
      (fun response header => Response.withHeader response header.name header.value)
      (Response.new .notFound (ascii "\r\n\r\nx")) =
      .ok ⟨.notFound, [⟨ascii "X-Note", ascii " a: b\t"⟩], ascii "\r\n\r\nx"⟩ := by decide +kernel
  obtain ⟨bytes, head, hserialize, hread, -⟩ := serialize_readResponseHead (Source.ofSegments []) hbuilt (by decide)
  exact ⟨bytes, head, hserialize, hread⟩

end BareProxy.Proxy
