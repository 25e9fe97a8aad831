import BareProxy.Proxy.Pooling
import BareProxy.Proxy.RequestFields
import BareProxy.Proxy.ResponseSegmentation

/-!
# What the client is told about its connection

The client takes the first head that is not interim for the final one. A forwarded response tells it to close the
connection exactly when the response does not let the connection go on. The exchange decides the same, except after a
final response that came in place of 100 Continue: then it always closes.
-/

namespace BareProxy.Proxy

open Http Config Reader

/-! ### The heads of a stream -/

/-- The first head of a stream of heads whose status is not skipped, with its status. -/
def firstHead (skip : Nat → Bool) (stream : Bytes) : Option (Nat × Bytes) :=
  match _hend : findBytes stream crlfCrlf with
  | none => none
  | some headerEnd =>
    match responseStatusCode (stream.take (headerEnd + 4)) with
    | .error _ => none
    | .ok status =>
      if skip status then firstHead skip (stream.drop (headerEnd + 4))
      else some (status, stream.take (headerEnd + 4))
termination_by stream.length
decreasing_by
  have hle : headerEnd + 4 ≤ stream.length := add_length_le_of_indexOfSub _hend
  rw [List.length_drop]
  omega

/-- Bytes whose only blank line is at their end. -/
structure EndsAtBlankLine (head : Bytes) : Prop where
  four_le : 4 ≤ head.length
  blankLine : findBytes head crlfCrlf = some (head.length - 4)

theorem IsResponseHead.endsAtBlankLine {head : Bytes} (h : IsResponseHead head) : EndsAtBlankLine head :=
  ⟨h.four_le, h.blankLine⟩

theorem IsHeadOf.endsAtBlankLine {head statusLine : Bytes} {fields : List Bytes} (h : IsHeadOf head statusLine fields)
    (hne : statusLine ≠ []) : EndsAtBlankLine head := by
  refine ⟨h.suffix.length_le, ?_⟩
  rw [h.head]
  apply indexOfSub_crlfCrlf_unlines (List.cons_ne_nil _ _)
  intro line hline
  rcases List.mem_cons.1 hline with rfl | hline
  · exact ⟨h.statusLine, hne⟩
  · exact h.fields line hline

theorem firstHead_append {skip : Nat → Bool} {head : Bytes} (hhead : EndsAtBlankLine head) {status : Nat}
    (hstatus : responseStatusCode head = .ok status) (rest : Bytes) :
    firstHead skip (head ++ rest) = if skip status then firstHead skip rest else some (status, head) := by
  have hend : findBytes (head ++ rest) crlfCrlf = some (head.length - 4) := indexOfSub_append_left rest hhead.blankLine
  have hlength : head.length - 4 + 4 = head.length := Nat.sub_add_cancel hhead.four_le
  rw [firstHead]
  split
  · rename_i hnone
    rw [hend] at hnone
    cases hnone
  · rename_i headerEnd hsome
    rw [hend] at hsome
    cases hsome
    rw [hlength, List.take_left, List.drop_left, hstatus]

/-- A sanitized head is again such bytes, with the same status. -/
theorem sanitizeResponseHead_endsAtBlankLine {head output : Bytes} (h : IsResponseHead head) {status : Nat}
    (hstatus : responseStatusCode head = .ok status) {connectionHeader : Option Bytes}
    (hconnection : ∀ value ∈ connectionHeader, IsLine value) {preserveTrailer preserveUpgrade : Bool}
    (hsanitize : sanitizeResponseHead head connectionHeader preserveTrailer preserveUpgrade = .ok output) :
    EndsAtBlankLine output ∧ responseStatusCode output = .ok status := by
  obtain ⟨statusLine, fields, hlines⟩ := h.exists_lines
  obtain ⟨tokens, -, houtput⟩ := sanitizeResponseHead_ok hlines hconnection hsanitize
  exact ⟨houtput.endsAtBlankLine (statusLine_ne_nil hlines hstatus),
    by rw [← hstatus, responseStatusCode_congr houtput hlines]⟩

/-! ### The `Connection` field of a sanitized head -/

/-- The `Connection` fields that a response without upgrade is given. -/
def httpConnectionHeaders : List (Option Bytes) := [none, some (ascii "close"), some (ascii "keep-alive")]

theorem isLine_connectionHeader {connectionHeader : Option Bytes} (h : connectionHeader ∈ httpConnectionHeaders) :
    ∀ value ∈ connectionHeader, IsLine value := by
  have hvalues : ∀ connectionHeader ∈ httpConnectionHeaders, ∀ value ∈ connectionHeader, IsLine value := by decide
  exact hvalues connectionHeader h

def isCloseField (line : Bytes) : Bool :=
  eqIgnoreAsciiCase (fieldName line) (ascii "connection") &&
    eqIgnoreAsciiCase (trimOptionalWhitespace (fieldValue line)) (ascii "close")

/-- The head contains a `Connection` field with value `close`. -/
def closesConnection (head : Bytes) : Bool := (fieldLines head).any isCloseField

/-- The only `Connection` field of a sanitized head is the one that is added. -/
theorem closesConnection_sanitized {head output : Bytes} (hhead : IsResponseHead head) {connectionHeader : Option Bytes}
    (hconnection : connectionHeader ∈ httpConnectionHeaders) {preserveTrailer : Bool}
    (hsanitize : sanitizeResponseHead head connectionHeader preserveTrailer false = .ok output) :
    closesConnection output = decide (connectionHeader = some (ascii "close")) := by
  have hadded : ∀ connectionHeader ∈ httpConnectionHeaders,
      (connectionFieldLines connectionHeader).any isCloseField = decide (connectionHeader = some (ascii "close")) := by
    decide
  obtain ⟨statusLine, fields, hlines⟩ := hhead.exists_lines
  obtain ⟨tokens, -, houtput⟩ := sanitizeResponseHead_ok hlines (isLine_connectionHeader hconnection) hsanitize
  have hkept : (fields.filter fun line =>
      !shouldRemoveResponseHeader (fieldName line) tokens preserveTrailer false).any isCloseField = false := by
    rw [List.any_eq_false]
    intro line hmem
    have hstays := (List.mem_filter.1 hmem).2
    rw [shouldRemoveResponseHeader] at hstays
    rw [isCloseField]
    cases hname : eqIgnoreAsciiCase (fieldName line) (ascii "connection") with
    | true =>
      rw [hname] at hstays
      simp at hstays
    | false => simp
  rw [closesConnection, fieldLines_head houtput, List.any_append, List.any_append, hkept, hadded connectionHeader hconnection]
  exact Bool.or_false _

theorem downstreamConnectionHeader_close (head : Bytes) (clientReusable : Bool) :
    downstreamConnectionHeader head clientReusable ∈ httpConnectionHeaders ∧
      decide (downstreamConnectionHeader head clientReusable = some (ascii "close")) = !clientReusable := by
  unfold downstreamConnectionHeader httpConnectionHeaders
  cases clientReusable with
  | false => simp
  | true =>
    by_cases hversion : ascii "HTTP/1.0 " <+: head
    · simp [hversion]
      decide
    · simp [hversion]

/-! ### Reuse after a final head -/

/-- The response lets the client connection go on. -/
def finalHeadAllowsReuse (requestMethod : Bytes) (status : Nat) (head : Bytes) : Bool :=
  responseAllowsClientReuse head (!responseHasNoBody requestMethod status && isCloseDelimited head)

/-- The head that is sent for a final head. -/
theorem IsFinalResponse.sanitized {requestMethod head sent body : Bytes} {atEnd : Prop}
    (h : IsFinalResponse requestMethod atEnd head sent body) {status : Nat} (hstatus : responseStatusCode head = .ok status) :
    ∃ preserveTrailer, sanitizeResponseHead head
      (downstreamConnectionHeader head (finalHeadAllowsReuse requestMethod status head)) preserveTrailer false =
        .ok sent := by
  have hwithBody : ∀ {code : Nat} {final : FinalHead}, responseStatusCode head = .ok code →
      responseHasNoBody requestMethod code = false → finalHead head = .ok final →
      ∃ preserveTrailer, sanitizeResponseHead head
        (downstreamConnectionHeader head (finalHeadAllowsReuse requestMethod status head)) preserveTrailer false =
          .ok final.head := by
    intro code final hcode hbody hfinal
    rw [hstatus] at hcode
    cases hcode
    obtain ⟨hreusable, hsanitize⟩ := finalHead_ok hfinal
    rw [finalHeadAllowsReuse, hbody, Bool.not_false, Bool.true_and, ← hreusable]
    exact hsanitize
  cases h with
  | bodiless hcode hbody hsent =>
    rw [hstatus] at hcode
    cases hcode
    refine ⟨false, ?_⟩
    rw [finalHeadAllowsReuse, hbody, Bool.not_true, Bool.false_and]
    exact hsent
  | chunked hcode hbody hfinal => exact hwithBody hcode hbody hfinal
  | fixed hcode hbody hfinal => exact hwithBody hcode hbody hfinal
  | toEnd hcode hbody hfinal => exact hwithBody hcode hbody hfinal

/-- What was sent for a stream of responses: the head that the client takes for the final one is made from the final
head of the stream, and it tells the client to close when that head does not let the connection go on. -/
def TellsReuse (requestMethod stream sent : Bytes) (allows : Bool) : Prop :=
  ∃ status head sentHead, firstHead isInterimResponse stream = some (status, head) ∧
    firstHead isInterimResponse sent = some (status, sentHead) ∧
    allows = finalHeadAllowsReuse requestMethod status head ∧ closesConnection sentHead = !allows

theorem IsFinalResponse.tellsReuse {requestMethod head sent body : Bytes} {atEnd : Prop}
    (h : IsFinalResponse requestMethod atEnd head sent body) (hhead : IsResponseHead head) {status : Nat}
    (hstatus : responseStatusCode head = .ok status) (hfinal : isInterimResponse status = false) (rest more : Bytes) :
    TellsReuse requestMethod (head ++ rest) (sent ++ more) (finalHeadAllowsReuse requestMethod status head) := by
  obtain ⟨preserveTrailer, hsanitize⟩ := h.sanitized hstatus
  obtain ⟨hmem, hclose⟩ :=
    downstreamConnectionHeader_close head (finalHeadAllowsReuse requestMethod status head)
  obtain ⟨hends, hcode⟩ :=
    sanitizeResponseHead_endsAtBlankLine hhead hstatus (isLine_connectionHeader hmem) hsanitize
  refine ⟨status, head, sent, ?_, ?_, rfl, ?_⟩
  · rw [firstHead_append hhead.endsAtBlankLine hstatus, hfinal, if_neg Bool.false_ne_true]
  · rw [firstHead_append hends hcode, hfinal, if_neg Bool.false_ne_true]
  · rw [closesConnection_sanitized hhead hmem hsanitize, hclose]

/-- An interim head in front, as received and as sent. -/
theorem TellsReuse.interim {requestMethod stream sent head sentHead : Bytes} {allows : Bool}
    (h : TellsReuse requestMethod stream sent allows) (hinterim : IsInterim head sentHead) :
    TellsReuse requestMethod (head ++ stream) (sentHead ++ sent) allows := by
  obtain ⟨status, final, sentFinal, hfinal, hsent, hallows, hcloses⟩ := h
  obtain ⟨hhead, ⟨code, hcode, hskip⟩, hsanitize⟩ := hinterim
  obtain ⟨hends, hsentCode⟩ := sanitizeResponseHead_endsAtBlankLine hhead hcode (by simp) hsanitize
  refine ⟨status, final, sentFinal, ?_, ?_, hallows, hcloses⟩
  · rw [firstHead_append hhead.endsAtBlankLine hcode, hskip, if_pos rfl, hfinal]
  · rw [firstHead_append hends hsentCode, hskip, if_pos rfl, hsent]

/-! ### Forwarding -/

section Forwarding

variable {ρ : Type} [Reader ρ]

/-- The head of the next response, when it is interim. -/
theorem TellsReuse.read {requestMethod buffered head rest sent : Bytes} {upstream upstream' : ρ} {allows : Bool}
    {status : Nat} (hread : readResponseHead upstream buffered = (.ok (head, rest), upstream'))
    (hstatus : responseStatusCode head = .ok status) (hinterim : isInterimResponse status = true)
    {client client₁ client' : Sink} (hforward : forwardInterimHead head client = (.ok (), client₁))
    (h : client'.written = client₁.written ++ sent ∧ TellsReuse requestMethod (rest ++ pending upstream') sent allows) :
    ∃ sent, client'.written = client.written ++ sent ∧
      TellsReuse requestMethod (buffered ++ pending upstream) sent allows := by
  obtain ⟨hhead, hbytes, -⟩ := readResponseHead_ok hread
  obtain ⟨sentHead, hsanitize, hwritten⟩ := forwardInterimHead_ok hforward
  refine ⟨sentHead ++ sent, ?_, ?_⟩
  · rw [h.1, hwritten, List.append_assoc]
  · rw [hbytes, List.append_assoc]
    exact h.2.interim ⟨hhead, ⟨status, hstatus, hinterim⟩, hsanitize⟩

/-- A forwarding that ends with `Http` has told the client what it returns. -/
theorem forwardResponse_tellsReuse {upstream upstream' : ρ} {client client' : Sink} {requestMethod buffered : Bytes}
    {requested : Option (List Bytes)} {reusable : Bool}
    (h : forwardResponse upstream client requestMethod buffered requested =
      (.ok (.http reusable), upstream', client')) :
    ∃ sent, client'.written = client.written ++ sent ∧
      TellsReuse requestMethod (buffered ++ pending upstream) sent reusable := by
  fun_induction forwardResponse upstream client requestMethod buffered requested with
  | case1 => cases h
  | case2 => cases h
  | case3 =>
    rename_i hswitch _
    cases h
    obtain ⟨hupgraded, -⟩ := forwardSwitchingProtocols_ok hswitch
    cases hupgraded
  | case4 => cases h
  | case5 upstream client buffered head rest upstream₁ hread status hstatus _ hinterim client₁ hforward ih =>
    obtain ⟨sent, hsent⟩ := ih h
    exact TellsReuse.read hread hstatus hinterim hforward hsent
  | case6 upstream client buffered head rest upstream₁ hread status hstatus _ hinterim hbody outcome client₁ hforward =>
    cases h
    obtain ⟨hhead, hbytes, -⟩ := readResponseHead_ok hread
    obtain ⟨sent, hfinal, hwritten⟩ :
        ∃ sent, IsFinalResponse requestMethod False head sent [] ∧ client'.written = client.written ++ sent :=
      forwardBodiless_ok hstatus hbody hforward
    refine ⟨sent, hwritten, ?_⟩
    have htells := hfinal.tellsReuse hhead hstatus (by simpa using hinterim) (rest ++ pending upstream') []
    rw [List.append_nil, ← List.append_assoc, ← hbytes, finalHeadAllowsReuse, hbody, Bool.not_true, Bool.false_and,
      ← ForwardResponseOutcome.http.inj (forwardBodiless_outcome hforward)] at htells
    exact htells
  | case7 upstream client buffered head rest upstream₁ hread status hstatus _ hinterim hbody =>
    obtain ⟨hhead, hbytes, -⟩ := readResponseHead_ok hread
    rw [Bool.not_eq_true] at hbody
    obtain ⟨sent, body, surplus, hfinal, -, hwritten, -⟩ := forwardWithBody_ok hstatus hbody h
    refine ⟨sent ++ body, by rw [hwritten, List.append_assoc], ?_⟩
    have htells := hfinal.tellsReuse hhead hstatus (by simpa using hinterim) (rest ++ pending upstream₁) body
    rw [← List.append_assoc, ← hbytes, finalHeadAllowsReuse, hbody, Bool.not_false, Bool.true_and,
      ← ForwardResponseOutcome.http.inj (forwardWithBody_outcome h)] at htells
    exact htells

/-! ### Waiting for 100 Continue -/

/-- The interim heads that the wait forwards and goes on. -/
def passesContinue (status : Nat) : Bool := status ≠ 100 && isInterimResponse status

theorem readResponseHead_complete {head : Bytes} (hhead : IsResponseHead head) (upstream : ρ) (rest : Bytes) :
    readResponseHead upstream (head ++ rest) = (.ok (head, rest), upstream) := by
  have hend : findBytes (head ++ rest) crlfCrlf = some (head.length - 4) := indexOfSub_append_left rest hhead.blankLine
  have hlength : head.length - 4 + 4 = head.length := Nat.sub_add_cancel hhead.four_le
  rw [readResponseHead]
  split
  · rename_i headerEnd hsome
    rw [hend] at hsome
    cases hsome
    dsimp only
    rw [hlength, List.take_left, List.drop_left, hhead.valid]
  · rename_i hnone
    rw [hend] at hnone
    cases hnone

/-- A forwarding that has a final head at the front of its buffer ends with `Http`. -/
theorem forwardResponse_ne_upgraded {head rest requestMethod : Bytes} (hhead : IsResponseHead head) {status : Nat}
    (hstatus : responseStatusCode head = .ok status) (hswitch : ¬status = 101)
    (hfinal : isInterimResponse status = false) {upstream upstream' : ρ} {client client' : Sink}
    {requested : Option (List Bytes)} {outcome : ForwardResponseOutcome}
    (h : forwardResponse upstream client requestMethod (head ++ rest) requested = (.ok outcome, upstream', client')) :
    ∃ reusable, outcome = .http reusable := by
  rw [forwardResponse_head (readResponseHead_complete hhead upstream rest), hstatus] at h
  dsimp only at h
  rw [if_neg hswitch, hfinal, if_neg Bool.false_ne_true] at h
  split at h
  · cases hbodiless : forwardBodiless head client with
    | mk result client₁ =>
      rw [hbodiless] at h
      cases h
      exact ⟨_, forwardBodiless_outcome hbodiless⟩
  · exact ⟨_, forwardWithBody_outcome h⟩

/-- The wait ends when a head is 100, and what was forwarded until then comes in front. -/
theorem awaitContinueLoop_continue {upstream upstream₁ : ρ} {client client₁ client' : Sink}
    {requestMethod buffered rest sent : Bytes} {requested : Option (List Bytes)} {allows : Bool}
    (h : awaitContinueLoop upstream client requestMethod buffered requested = (.ok (.continue rest), upstream₁, client₁))
    (htells : client'.written = client₁.written ++ sent ∧
      TellsReuse requestMethod (rest ++ pending upstream₁) sent allows) :
    (∃ head, firstHead passesContinue (buffered ++ pending upstream) = some (100, head)) ∧
      ∃ sent, client'.written = client.written ++ sent ∧
        TellsReuse requestMethod (buffered ++ pending upstream) sent allows := by
  fun_induction awaitContinueLoop upstream client requestMethod buffered requested with
  | case1 => cases h
  | case2 => cases h
  | case3 => cases h
  | case4 => cases h
  | case5 upstream client buffered head rest upstream₁ hread =>
    cases h
    have hstatus : responseStatusCode head = .ok 100 := ‹responseStatusCode head = _›
    obtain ⟨hhead, hbytes, -⟩ := readResponseHead_ok hread
    refine ⟨⟨head, ?_⟩, TellsReuse.read hread hstatus (by decide) ‹forwardInterimHead _ _ = _› htells⟩
    rw [hbytes, List.append_assoc, firstHead_append hhead.endsAtBlankLine hstatus]
    rfl
  | case6 => cases h
  | case7 upstream client buffered head rest upstream₁ hread status hstatus hswitch hcontinue hinterim client₁ hforward ih =>
    obtain ⟨hhead, hbytes, -⟩ := readResponseHead_ok hread
    obtain ⟨⟨answer, hanswer⟩, sent, hsent⟩ := ih h
    refine ⟨⟨answer, ?_⟩, TellsReuse.read hread hstatus hinterim hforward hsent⟩
    have hpasses : passesContinue status = true := by simp [passesContinue, hcontinue, hinterim]
    rw [hbytes, List.append_assoc, firstHead_append hhead.endsAtBlankLine hstatus, hpasses, if_pos rfl, hanswer]
  | case8 => cases h
  | case9 => cases h

/-- The wait ends with a final response: the client has been told about it. -/
theorem awaitContinueLoop_finalResponse {upstream upstream' : ρ} {client client' : Sink}
    {requestMethod buffered : Bytes} {requested : Option (List Bytes)}
    (h : awaitContinueLoop upstream client requestMethod buffered requested =
      (.ok .finalResponseForwarded, upstream', client')) :
    ∃ status head, status ≠ 100 ∧ firstHead passesContinue (buffered ++ pending upstream) = some (status, head) ∧
      ∃ sent, client'.written = client.written ++ sent ∧
        TellsReuse requestMethod (buffered ++ pending upstream) sent (finalHeadAllowsReuse requestMethod status head) := by
  fun_induction awaitContinueLoop upstream client requestMethod buffered requested with
  | case1 => cases h
  | case2 => cases h
  | case3 => cases h
  | case4 => cases h
  | case5 => cases h
  | case6 => cases h
  | case7 upstream client buffered head rest upstream₁ hread status hstatus hswitch hcontinue hinterim client₁ hforward ih =>
    obtain ⟨hhead, hbytes, -⟩ := readResponseHead_ok hread
    obtain ⟨code, answer, hne, hanswer, sent, hsent⟩ := ih h
    refine ⟨code, answer, hne, ?_, TellsReuse.read hread hstatus hinterim hforward hsent⟩
    have hpasses : passesContinue status = true := by simp [passesContinue, hcontinue, hinterim]
    rw [hbytes, List.append_assoc, firstHead_append hhead.endsAtBlankLine hstatus, hpasses, if_pos rfl, hanswer]
  | case8 => cases h
  | case9 upstream client buffered head rest upstream₁ hread status hstatus hswitch hcontinue hfinal finalResponse outcome =>
    rename_i hforward
    cases h
    rw [Bool.not_eq_true] at hfinal
    obtain ⟨hhead, hbytes, -⟩ := readResponseHead_ok hread
    obtain ⟨reusable, rfl⟩ := forwardResponse_ne_upgraded hhead hstatus hswitch hfinal hforward
    obtain ⟨sent, hwritten, htells⟩ := forwardResponse_tellsReuse hforward
    have hpasses : passesContinue status = false := by simp [passesContinue, hfinal]
    have hstream : ∀ skip : Nat → Bool, skip status = false →
        firstHead skip (buffered ++ pending upstream) = some (status, head) := by
      intro skip hskip
      rw [hbytes, List.append_assoc, firstHead_append hhead.endsAtBlankLine hstatus, hskip, if_neg Bool.false_ne_true]
    refine ⟨status, head, hcontinue, hstream _ hpasses, sent, hwritten, ?_⟩
    rw [← hbytes] at htells
    obtain ⟨code, final, sentHead, hcode, hsent, hallows, hcloses⟩ := htells
    rw [hstream _ hfinal] at hcode
    cases hcode
    rw [← hallows]
    exact ⟨status, head, sentHead, hstream _ hfinal, hsent, hallows, hcloses⟩

end Forwarding

/-! ### Exchanges -/

/-- A final response comes in place of 100 Continue, and it lets the client connection go on. -/
def endsEarly (request : Request) (stream : Bytes) : Bool :=
  requestExpectsContinue request && requestHasBody request &&
    (firstHead passesContinue stream).any fun (status, head) =>
      status ≠ 100 && finalHeadAllowsReuse request.method status head

theorem awaitContinue_continue {request : Request} {requested : Option (List Bytes)} {buffered sent : Bytes}
    {client client₁ upstream upstream₁ : Endpoint} {output : Sink} {allows : Bool}
    (h : awaitContinue request requested client upstream = (.ok (.continue buffered), client₁, upstream₁))
    (htells : output.written = client₁.output.written ++ sent ∧
      TellsReuse request.method (buffered ++ pending upstream₁.input) sent allows) :
    endsEarly request (pending upstream.input) = false ∧
      ∃ sent, output.written = client.output.written ++ sent ∧
        TellsReuse request.method (pending upstream.input) sent allows := by
  unfold awaitContinue at h
  split at h
  · split at h
    · cases h
    · rename_i upstream₂ hflush
      cases hloop : awaitContinueOrFinalResponse upstream₂.input client.output request.method requested with
      | mk outcome state =>
        rw [hloop] at h
        cases h
        obtain ⟨⟨head, hhead⟩, hsent⟩ := awaitContinueLoop_continue hloop htells
        rw [← (flushUpstream_written hflush).2]
        refine ⟨?_, hsent⟩
        rw [List.nil_append] at hhead
        rw [endsEarly, hhead]
        simp
  · rename_i hwaits
    cases h
    rw [Bool.not_eq_true] at hwaits
    rw [endsEarly, hwaits]
    exact ⟨rfl, _, htells⟩

theorem awaitContinue_finalResponse {request : Request} {requested : Option (List Bytes)}
    {client client' upstream upstream' : Endpoint}
    (h : awaitContinue request requested client upstream = (.ok .finalResponseForwarded, client', upstream')) :
    ∃ sent, client'.output.written = client.output.written ++ sent ∧
      TellsReuse request.method (pending upstream.input) sent (endsEarly request (pending upstream.input)) := by
  unfold awaitContinue at h
  split at h
  · rename_i hwaits
    split at h
    · cases h
    · rename_i upstream₁ hflush
      cases hloop : awaitContinueOrFinalResponse upstream₁.input client.output request.method requested with
      | mk outcome state =>
        rw [hloop] at h
        cases h
        obtain ⟨status, head, hne, hhead, sent, hwritten, htells⟩ := awaitContinueLoop_finalResponse hloop
        rw [← (flushUpstream_written hflush).2]
        refine ⟨sent, hwritten, ?_⟩
        rw [List.nil_append] at hhead htells
        have hearly : endsEarly request (pending upstream₁.input) = finalHeadAllowsReuse request.method status head := by
          rw [endsEarly, hwaits, hhead]
          simp [hne]
        rw [hearly]
        exact htells
  · cases h

section Exchange

variable {net : StdNet} {request : Request} {requested : Option (List Bytes)} {bufferedBody : Bytes}
  {clientIp : IpAddr} {proto : ForwardedProto} {client client' upstream upstream' : Endpoint}

theorem exchangeOn_tellsReuse {rest : Bytes} {reusable : Bool}
    (h : exchangeOn net request requested bufferedBody clientIp proto client upstream =
      (.ok (.response rest (.http reusable)), client', upstream')) :
    endsEarly request (pending upstream.input) = false ∧
      ∃ sent, client'.output.written = client.output.written ++ sent ∧
        TellsReuse request.method (pending upstream.input) sent reusable := by
  obtain ⟨head, output, buffered, client₁, upstream₁, client₂, upstream₂, upstream₃, -, -, hawait, hsend, hflush, hforward,
    -, -⟩ := exchangeOn_response_cases h
  obtain ⟨sent, htells⟩ := forwardResponse_tellsReuse hforward
  rw [(flushUpstream_written hflush).2, sendBody_input hsend, sendBody_output hsend] at htells
  have hexchange := awaitContinue_continue hawait htells
  exact hexchange

theorem exchangeOn_finalResponse
    (h : exchangeOn net request requested bufferedBody clientIp proto client upstream =
      (.ok .finalResponseForwarded, client', upstream')) :
    ∃ sent, client'.output.written = client.output.written ++ sent ∧
      TellsReuse request.method (pending upstream.input) sent (endsEarly request (pending upstream.input)) := by
  unfold exchangeOn at h
  split at h
  · cases h
  · split at h
    · cases h
    · split at h
      · cases h
      · rename_i hawait
        cases h
        have hfinal := awaitContinue_finalResponse hawait
        exact hfinal
      · split at h
        · cases h
        · split at h
          · cases h
          · split at h <;> cases h

end Exchange

/-- The final head that the client reads says `Connection: close` exactly when the exchange does not let the client
connection go on, but for one case: the response came in place of 100 Continue and lets the connection go on. -/
theorem exchangeWithProto_closesConnection {net : StdNet} {route : Route} {request : Request} {bufferedBody : Bytes}
    {clientIp : IpAddr} {proto : ForwardedProto} {state state' : ExchangeState} {result : ExchangeResult}
    (h : exchangeWithProto net route request bufferedBody clientIp proto state = (.ok result, state'))
    (hhttp : result.upgraded = false) :
    ∃ taken sent status head,
      (takeUpstream route.upstream.address state.session state.network).1 = .ok taken ∧
      state'.client.output.written = state.client.output.written ++ sent ∧
      firstHead isInterimResponse sent = some (status, head) ∧
      ((closesConnection head = true ↔ result.clientReusable = false) ↔
        endsEarly request (pending taken.input) = false) := by
  obtain ⟨requested, taken, network, exchanged, stream, -, htake, hexchange, hcases⟩ := exchangeWithProto_ok h
  rcases hcases with ⟨rfl, rfl⟩ | ⟨rest, reusable, rfl, rfl, -⟩ | ⟨rest, rfl, rfl, -⟩
  · obtain ⟨sent, hwritten, status, head, sentHead, -, hsent, -, hcloses⟩ := exchangeOn_finalResponse hexchange
    refine ⟨taken, sent, status, sentHead, by rw [htake], hwritten, hsent, ?_⟩
    rw [hcloses, Bool.not_eq_true']
    simp
  · obtain ⟨hearly, sent, hwritten, status, head, sentHead, -, hsent, -, hcloses⟩ := exchangeOn_tellsReuse hexchange
    refine ⟨taken, sent, status, sentHead, by rw [htake], hwritten, hsent, ?_⟩
    rw [hcloses, Bool.not_eq_true', hearly]
    simp
  · cases hhttp

/-- A kept connection, and a head that does not say otherwise. -/
theorem exchangeWithProto_closesConnection_hello :
    ∃ status head, firstHead isInterimResponse
        ((helloCall (answering noContent)).run ipv4Net (Session.new 10)).2.client.output.written = some (status, head) ∧
      closesConnection head = false := by
  have hresult : ((helloCall (answering noContent)).run ipv4Net (Session.new 10)).1 = .ok ⟨[], true, false⟩ := by
    decide +kernel
  have hrun : (helloCall (answering noContent)).run ipv4Net (Session.new 10) =
      (.ok ⟨[], true, false⟩, ((helloCall (answering noContent)).run ipv4Net (Session.new 10)).2) :=
    Prod.ext hresult rfl
  obtain ⟨taken, sent, status, head, -, hwritten, hhead, hiff⟩ := exchangeWithProto_closesConnection hrun rfl
  have hearly : endsEarly helloRequest (pending taken.input) = false := rfl
  have hcloses : ¬closesConnection head = true := fun hclose => absurd ((hiff.2 hearly).1 hclose) (by decide)
  refine ⟨status, head, ?_, Bool.eq_false_iff.2 hcloses⟩
  rw [← hhead, hwritten]
  rfl

def askingCall : ExchangeCall :=
  { helloCall (answering noContent) with request := askingRequest }

/-- The response in place of 100 Continue is sent without `Connection: close`, and the connection is closed. -/
theorem exchangeWithProto_closesConnection_asking :
    parseRequestWithConsumed askingInput = .ok (askingRequest, askingInput.length) ∧
      (askingCall.run ipv4Net (Session.new 10)).1 =
        .ok { bufferedClientBytes := [], clientReusable := false, upgraded := false } ∧
      ∃ head, firstHead isInterimResponse (askingCall.run ipv4Net (Session.new 10)).2.client.output.written =
        some (204, head) ∧ closesConnection head = false := by
  refine ⟨by decide +kernel, by decide +kernel, noContent, by decide +kernel, by decide +kernel⟩

end BareProxy.Proxy
