import BareProxy.Proxy.RequestFraming
import BareProxy.Proxy.Sanitized
import BareProxy.Proxy.Session

/-!
# The fields sent upstream

Which fields of a request pass is decided by a fixed list of names and by the tokens of its `Connection` fields. The
fields that pass come first, as they were; the others that the head has are written by the proxy. So two requests that
differ in nothing but fields that never pass, and in the tokens that name such fields, get the same head.

`Expect` is on no list. A client that names it in `Connection` takes it out of the head, but not out of the decision to
wait for 100 Continue.
-/

namespace BareProxy.Proxy

open Http

/-! ### Reading a head back -/

/-- The fields of a head, each line read as the request parser reads it. -/
def headFields (head : Bytes) : Except ParseError (List Header) := (fieldLines (headerBytes head)).mapM parseHeader

theorem mapM_parseHeader_line {fields : List Header} (hfields : ∀ field ∈ fields, field.WellFormed) :
    (fields.map Header.line).mapM parseHeader = .ok fields := by
  induction fields with
  | nil => rfl
  | cons field fields ih =>
    rw [List.map_cons, List.mapM_cons, parseHeader_line (hfields field List.mem_cons_self), ok_bind,
      ih fun f hf => hfields f (List.mem_cons_of_mem _ hf), ok_bind, pure_eq_ok]

section Serialized

variable {net : StdNet} {input output : Bytes} {request : Request} {consumed : Nat} {clientIp : IpAddr}
  {proto : ForwardedProto}

/-- The head sent upstream is the request line and the lines of well-formed fields. -/
theorem isHeadOf_serializeRequestHead (hparse : parseRequestWithConsumed input = .ok (request, consumed))
    (hserialize : serializeRequestHead net request clientIp proto = .ok output) :
    ∃ host upgrade, request.host net = some host ∧ requestUpgradeProtocols request = .ok upgrade ∧
      (∀ field ∈ upstreamFields net request upgrade host clientIp proto, field.WellFormed) ∧
      IsHeadOf output (requestLine request)
        ((upstreamFields net request upgrade host clientIp proto).map Header.line) := by
  obtain ⟨_, _, hends⟩ := parseRequestWithConsumed_ok hparse
  have hrequest := hends.request
  obtain ⟨host, upgrade, hhost, hupgrade, houtput⟩ := serializeRequestHead_ok hserialize
  have hfields := upstreamFields_wellFormed hrequest hhost hupgrade clientIp proto
  obtain ⟨hline, hisLine⟩ := parseRequestLine_ok hrequest.line
  refine ⟨host, upgrade, hhost, hupgrade, hfields, houtput, ?_, ?_⟩
  · have heq : requestLine request = _ := hline.symm
    rw [heq]
    exact hisLine
  · intro line hmem
    obtain ⟨field, hfield, rfl⟩ := List.mem_map.1 hmem
    exact ⟨(hfields field hfield).isLine_line, (hfields field hfield).line_ne_nil⟩

/-- The head sent upstream reads back as the fields that were put into it. -/
theorem headFields_serializeRequestHead (hparse : parseRequestWithConsumed input = .ok (request, consumed))
    (hserialize : serializeRequestHead net request clientIp proto = .ok output) :
    ∃ host upgrade, request.host net = some host ∧ requestUpgradeProtocols request = .ok upgrade ∧
      headFields output = .ok (upstreamFields net request upgrade host clientIp proto) := by
  obtain ⟨host, upgrade, hhost, hupgrade, hfields, hlines⟩ := isHeadOf_serializeRequestHead hparse hserialize
  refine ⟨host, upgrade, hhost, hupgrade, ?_⟩
  rw [headFields, headerBytes, hlines.fieldLines_headerBytes, mapM_parseHeader_line hfields]

end Serialized

/-! ### Two requests -/

/-- The names of the fixed list. -/
def isReplacedName (name : Bytes) : Bool := replacedHeaders.any fun replaced => eqIgnoreAsciiCase name (ascii replaced)

/-- The names whose fields the proxy drops and never reads. Of `Connection` it reads what is named there. -/
def droppedHeaders : List String :=
  ["connection", "proxy-connection", "keep-alive", "x-forwarded-for", "x-forwarded-host", "x-forwarded-proto"]

/-- A field of a dropped name, or an extension field that the request names in `Connection`. -/
def isDropped (request : Request) (header : Header) : Bool :=
  droppedHeaders.any (fun dropped => eqIgnoreAsciiCase header.name (ascii dropped)) ||
    (!isReplacedName header.name && namedByConnectionHeader request header.name)

/-- Two requests that differ in dropped fields only, and in the tokens of `Connection` that name no field the proxy
writes itself. -/
structure SameEndToEnd (left right : Request) : Prop where
  method : left.method = right.method
  target : left.target = right.target
  headers : (left.headers.filter fun header => !isDropped left header) =
    right.headers.filter fun header => !isDropped right header
  named : ∀ name ∈ ["te", "trailer", "upgrade"],
    namedByConnectionHeader left (ascii name) = namedByConnectionHeader right (ascii name)

theorem filter_filter_of_imp {α : Type} {p q : α → Bool} {l : List α} (h : ∀ a ∈ l, q a = true → p a = true) :
    (l.filter p).filter q = l.filter q := by
  rw [List.filter_filter]
  apply List.filter_congr
  intro a ha
  cases hq : q a with
  | true => rw [h a ha hq, Bool.and_self]
  | false => rw [Bool.false_and]

/-- The fields that pass are among the fields that are not dropped. -/
theorem forwardedFields_eq (request : Request) :
    forwardedFields request =
      (request.headers.filter fun header => !isDropped request header).filter fun header =>
        !isReplacedName header.name := by
  rw [List.filter_filter]
  apply List.filter_congr
  intro header _
  have hdropped : isReplacedName header.name = false →
      droppedHeaders.any (fun dropped => eqIgnoreAsciiCase header.name (ascii dropped)) = false := by
    intro h
    have hsubset : ∀ dropped ∈ droppedHeaders, dropped ∈ replacedHeaders := by decide
    rw [List.any_eq_false]
    exact fun dropped hmem => List.any_eq_false.1 h dropped (hsubset dropped hmem)
  have hreplace : shouldReplaceHeader request header.name =
      (isReplacedName header.name || namedByConnectionHeader request header.name) := rfl
  rw [hreplace, isDropped]
  cases hreplaced : isReplacedName header.name with
  | true => rfl
  | false => simp [hdropped hreplaced]

/-- What the proxy reads from the fields of a replaced name is not dropped. -/
theorem headersNamed_notDropped (request : Request) {name : String}
    (hname : name ∈ ["host", "content-length", "transfer-encoding", "te", "trailer", "upgrade"]) :
    headersNamed (request.headers.filter fun header => !isDropped request header) name =
      headersNamed request.headers name := by
  have hreplaced : ∀ name ∈ ["host", "content-length", "transfer-encoding", "te", "trailer", "upgrade"],
      isReplacedName (ascii name) = true ∧
        droppedHeaders.any (fun dropped => eqIgnoreAsciiCase (ascii name) (ascii dropped)) = false := by decide
  obtain ⟨hmem, hkept⟩ := hreplaced name hname
  apply filter_filter_of_imp
  intro header _ heq
  have hcongr : ∀ other : String, eqIgnoreAsciiCase header.name (ascii other) =
      eqIgnoreAsciiCase (ascii name) (ascii other) := fun other => eqIgnoreAsciiCase_congr heq (ascii other)
  rw [isReplacedName] at hmem
  simp only [isDropped, isReplacedName, hcongr, hkept, hmem]
  rfl

namespace SameEndToEnd

variable {left right : Request} (h : SameEndToEnd left right)

include h

theorem headersNamed {name : String}
    (hname : name ∈ ["host", "content-length", "transfer-encoding", "te", "trailer", "upgrade"]) :
    Http.headersNamed left.headers name = Http.headersNamed right.headers name := by
  rw [← headersNamed_notDropped left hname, h.headers, headersNamed_notDropped right hname]

theorem forwardedFields : Proxy.forwardedFields left = Proxy.forwardedFields right := by
  rw [forwardedFields_eq, h.headers, ← forwardedFields_eq]

/-- The two requests get the same head, or the same error. -/
theorem serializeRequestHead {net : StdNet} {clientIp : IpAddr} {proto : ForwardedProto}
    (hlength : left.contentLength = right.contentLength)
    (hchunked : left.hasTransferEncoding = right.hasTransferEncoding) :
    Proxy.serializeRequestHead net left clientIp proto = Proxy.serializeRequestHead net right clientIp proto := by
  have hhost : left.host net = right.host net := by
    rw [Request.host, Request.host, h.headersNamed (by simp)]
  have hupgrade : requestUpgradeProtocols left = requestUpgradeProtocols right := by
    rw [requestUpgradeProtocols, requestUpgradeProtocols, h.headersNamed (by simp), h.named "upgrade" (by simp)]
  have haccepts : requestAcceptsTrailers left = requestAcceptsTrailers right := by
    rw [requestAcceptsTrailers, requestAcceptsTrailers, headerContainsToken, headerContainsToken,
      h.headersNamed (by simp), h.named "te" (by simp)]
  have htrailers : transferEncodingLines left = transferEncodingLines right := by
    rw [transferEncodingLines, transferEncodingLines, trailerLines, trailerLines, hchunked, h.headersNamed (by simp),
      h.named "trailer" (by simp)]
  have hforwarded : (left.headers.filter fun header => !shouldReplaceHeader left header.name) =
      right.headers.filter fun header => !shouldReplaceHeader right header.name := h.forwardedFields
  rw [Proxy.serializeRequestHead, Proxy.serializeRequestHead, hhost, hupgrade, haccepts, htrailers, hforwarded,
    h.method, h.target, hlength]

end SameEndToEnd

/-! ### What passes -/

theorem framingFields_name (request : Request) (host : Bytes) : ∀ field ∈ framingFields request host,
    ∃ name ∈ ["Host", "Content-Length", "Transfer-Encoding"], field.name = ascii name := by
  intro field hfield
  simp only [framingFields, List.mem_append, List.mem_singleton] at hfield
  rcases hfield with (rfl | hfield) | hfield
  · exact ⟨"Host", by simp, rfl⟩
  · cases hlength : request.contentLength with
    | none => simp [contentLengthFields, hlength] at hfield
    | some n =>
      simp only [contentLengthFields, hlength, List.mem_singleton] at hfield
      exact ⟨"Content-Length", by simp, by rw [hfield]⟩
  · cases hchunked : request.hasTransferEncoding with
    | false => simp [transferEncodingFields, hchunked] at hfield
    | true =>
      simp only [transferEncodingFields, hchunked, List.mem_singleton] at hfield
      exact ⟨"Transfer-Encoding", by simp, by rw [hfield]⟩

/-- The forwarding fields of the head are the proxy's own, each once. -/
theorem headersNamed_upstreamFields_forwarded (net : StdNet) (request : Request) (upgrade : Option (List Bytes))
    (host : Bytes) (clientIp : IpAddr) (proto : ForwardedProto) {name : String}
    (hname : name ∈ ["x-forwarded-for", "x-forwarded-host", "x-forwarded-proto"]) :
    headersNamed (upstreamFields net request upgrade host clientIp proto) name =
      headersNamed [⟨ascii "X-Forwarded-For", net.displayIp clientIp⟩, ⟨ascii "X-Forwarded-Host", host⟩,
        ⟨ascii "X-Forwarded-Proto", proto.asBytes⟩] name := by
  have hreplaced : ∀ name ∈ ["x-forwarded-for", "x-forwarded-host", "x-forwarded-proto"], name ∈ replacedHeaders := by
    decide
  have hclosed : ∀ name ∈ ["x-forwarded-for", "x-forwarded-host", "x-forwarded-proto"],
      (∀ other ∈ ["Host", "Content-Length", "Transfer-Encoding"],
        eqIgnoreAsciiCase (ascii other) (ascii name) = false) ∧
      ∀ other ∈ ["Trailer", "TE", "Upgrade", "Connection"],
        eqIgnoreAsciiCase (ascii other) (ascii name) = false := by decide
  obtain ⟨between, hfields, hbetween⟩ := hopFields_eq net request upgrade host clientIp proto
  obtain ⟨hframingName, hbetweenName⟩ := hclosed name hname
  rw [upstreamFields, hfields, headersNamed_append, headersNamed_append, headersNamed_append,
    headersNamed_forwardedFields request (hreplaced name hname), headersNamed_eq_nil (framingFields_name request host) hframingName,
    headersNamed_eq_nil hbetween hbetweenName, List.nil_append, List.nil_append, List.nil_append]

/-- The fields of the head are those of the request that are neither on the fixed list nor named in `Connection`, as
they were, and then the fields of the proxy, the forwarding fields among them once each. A request that differs only in
fields that are dropped gets the same head. -/
theorem serializeRequestHead_endToEnd (net : StdNet) {input : Bytes} {request : Request} {consumed : Nat}
    (hparse : parseRequestWithConsumed input = .ok (request, consumed)) (clientIp : IpAddr) (proto : ForwardedProto)
    {output : Bytes} (hserialize : serializeRequestHead net request clientIp proto = .ok output) :
    (∃ host upgrade fields, request.host net = some host ∧ requestUpgradeProtocols request = .ok upgrade ∧
      headFields output = .ok fields ∧
      fields = (request.headers.filter fun header =>
          !(isReplacedName header.name || namedByConnectionHeader request header.name)) ++
        framingFields request host ++ hopFields net request upgrade host clientIp proto ∧
      headersNamed fields "x-forwarded-for" = [⟨ascii "X-Forwarded-For", net.displayIp clientIp⟩] ∧
      headersNamed fields "x-forwarded-host" = [⟨ascii "X-Forwarded-Host", host⟩] ∧
      headersNamed fields "x-forwarded-proto" = [⟨ascii "X-Forwarded-Proto", proto.asBytes⟩]) ∧
    ∀ {otherInput : Bytes} {other : Request} {otherConsumed : Nat},
      parseRequestWithConsumed otherInput = .ok (other, otherConsumed) → SameEndToEnd request other →
        serializeRequestHead net other clientIp proto = .ok output := by
  constructor
  · obtain ⟨host, upgrade, hhost, hupgrade, hfields⟩ := headFields_serializeRequestHead hparse hserialize
    refine ⟨host, upgrade, _, hhost, hupgrade, hfields, rfl, ?_, ?_, ?_⟩
    · rw [headersNamed_upstreamFields_forwarded _ _ _ _ _ _ (by simp)]
      rfl
    · rw [headersNamed_upstreamFields_forwarded _ _ _ _ _ _ (by simp)]
      rfl
    · rw [headersNamed_upstreamFields_forwarded _ _ _ _ _ _ (by simp)]
      rfl
  · intro otherInput other otherConsumed hother hsame
    obtain ⟨_, _, hends⟩ := parseRequestWithConsumed_ok hparse
    obtain ⟨_, _, hotherEnds⟩ := parseRequestWithConsumed_ok hother
    rw [← hserialize]
    symm
    apply hsame.serializeRequestHead
    · apply Except.ok.inj (ε := ParseError)
      rw [← hends.request.contentLength, ← hotherEnds.request.contentLength, parseContentLength, parseContentLength,
        hsame.headersNamed (by simp)]
    · apply Except.ok.inj (ε := ParseError)
      rw [← hends.request.transferEncoding, ← hotherEnds.request.transferEncoding, parseTransferEncoding,
        parseTransferEncoding, hsame.headersNamed (by simp)]

/-- The request of `helloInput` with a forged forwarding field and a field for this hop. -/
def forgedInput : Bytes :=
  ascii "GET / HTTP/1.1\r\nx-forwarded-for: 6.6.6.6\r\nHost: a\r\nX-Hop: 1\r\nConnection: close , x-HOP\r\n\r\n"

def forgedRequest : Request where
  method := ascii "GET"
  target := ascii "/"
  version := .http11
  headers := [⟨ascii "x-forwarded-for", ascii "6.6.6.6"⟩, ⟨ascii "Host", ascii "a"⟩, ⟨ascii "X-Hop", ascii "1"⟩,
    ⟨ascii "Connection", ascii "close , x-HOP"⟩]
  contentLength := none
  hasTransferEncoding := false
  keepAlive := false

theorem serializeRequestHead_endToEnd_forged :
    serializeRequestHead ipv4Net forgedRequest (.v4 #v[127, 0, 0, 1]) .http = .ok helloHead := by
  have hparse : parseRequestWithConsumed helloInput = .ok (helloRequest, 27) := by decide +kernel
  have hserialize : serializeRequestHead ipv4Net helloRequest (.v4 #v[127, 0, 0, 1]) .http = .ok helloHead := by
    decide +kernel
  have hforged : parseRequestWithConsumed forgedInput = .ok (forgedRequest, 90) := by decide +kernel
  have hsame : SameEndToEnd helloRequest forgedRequest := ⟨rfl, rfl, by decide +kernel, by decide +kernel⟩
  exact (serializeRequestHead_endToEnd ipv4Net hparse _ _ hserialize).2 hforged hsame

/-! ### Whether the upstream is asked for 100 Continue -/

theorem namedByConnectionHeader_congr (request : Request) {left right : Bytes}
    (h : eqIgnoreAsciiCase left right = true) :
    namedByConnectionHeader request left = namedByConnectionHeader request right := by
  have hmember : ∀ member, eqIgnoreAsciiCase member left = eqIgnoreAsciiCase member right := by
    intro member
    rw [eqIgnoreAsciiCase_comm member left, eqIgnoreAsciiCase_comm member right, eqIgnoreAsciiCase_congr h]
  simp only [namedByConnectionHeader, headerContainsToken, listContainsToken, hmember]

/-- `Expect` passes unless `Connection` names it. -/
theorem headersNamed_upstreamFields_expect (net : StdNet) (request : Request) (upgrade : Option (List Bytes))
    (host : Bytes) (clientIp : IpAddr) (proto : ForwardedProto) :
    headersNamed (upstreamFields net request upgrade host clientIp proto) "expect" =
      if namedByConnectionHeader request (ascii "expect") then [] else headersNamed request.headers "expect" := by
  have hclosed : (∀ other ∈ ["Host", "Content-Length", "Transfer-Encoding"],
      eqIgnoreAsciiCase (ascii other) (ascii "expect") = false) ∧
      (∀ other ∈ ["Trailer", "TE", "Upgrade", "Connection"],
        eqIgnoreAsciiCase (ascii other) (ascii "expect") = false) := by decide
  have hforwarding : ∀ value value' value'' : Bytes, headersNamed [⟨ascii "X-Forwarded-For", value⟩,
      ⟨ascii "X-Forwarded-Host", value'⟩, ⟨ascii "X-Forwarded-Proto", value''⟩] "expect" = [] := fun _ _ _ => rfl
  have hreplace : ∀ header ∈ headersNamed request.headers "expect",
      shouldReplaceHeader request header.name = namedByConnectionHeader request (ascii "expect") := by
    intro header hheader
    have hname : eqIgnoreAsciiCase header.name (ascii "expect") = true := (List.mem_filter.1 hheader).2
    have hfixed : isReplacedName (ascii "expect") = false := by decide
    rw [isReplacedName] at hfixed
    simp only [shouldReplaceHeader, eqIgnoreAsciiCase_congr hname, hfixed, Bool.false_or]
    exact namedByConnectionHeader_congr request hname
  obtain ⟨between, hfields, hbetween⟩ := hopFields_eq net request upgrade host clientIp proto
  rw [upstreamFields, hfields, headersNamed_append, headersNamed_append, headersNamed_append,
    headersNamed_eq_nil (framingFields_name request host) hclosed.1, headersNamed_eq_nil hbetween hclosed.2,
    hforwarding, List.append_nil, List.append_nil, List.append_nil, forwardedFields, headersNamed, List.filter_comm,
    ← headersNamed]
  cases hnamed : namedByConnectionHeader request (ascii "expect") with
  | true =>
    rw [if_pos rfl, List.filter_eq_nil_iff]
    intro header hheader
    rw [hreplace header hheader, hnamed]
    exact Bool.false_ne_true
  | false =>
    rw [if_neg Bool.false_ne_true, List.filter_eq_self]
    intro header hheader
    rw [hreplace header hheader, hnamed]
    rfl

/-- A proxy that waits for 100 Continue before it sends a body has asked the upstream for it unless the client named
`Expect` in `Connection`. -/
theorem serializeRequestHead_expect (net : StdNet) {input : Bytes} {request : Request} {consumed : Nat}
    (hparse : parseRequestWithConsumed input = .ok (request, consumed)) (clientIp : IpAddr) (proto : ForwardedProto)
    {output : Bytes} (hserialize : serializeRequestHead net request clientIp proto = .ok output)
    (hwaits : (requestExpectsContinue request && requestHasBody request) = true) :
    (∃ fields, headFields output = .ok fields ∧ headerContainsToken fields "expect" (ascii "100-continue") = true) ↔
      namedByConnectionHeader request (ascii "expect") = false := by
  obtain ⟨host, upgrade, -, -, hfields⟩ := headFields_serializeRequestHead hparse hserialize
  have hexpect := headersNamed_upstreamFields_expect net request upgrade host clientIp proto
  have hexpects : requestExpectsContinue request = true := (Bool.and_eq_true_iff.1 hwaits).1
  rw [requestExpectsContinue, headerContainsToken] at hexpects
  constructor
  · intro h
    obtain ⟨fields, hread, hasked⟩ := h
    rw [hfields] at hread
    cases hread
    rw [← Bool.not_eq_true]
    intro hnamed
    rw [headerContainsToken, hexpect, if_pos hnamed] at hasked
    cases hasked
  · intro hnamed
    refine ⟨_, hfields, ?_⟩
    rw [headerContainsToken, hexpect, hnamed, if_neg Bool.false_ne_true]
    exact hexpects

def askingInput : Bytes := ascii "POST / HTTP/1.1\r\nHost: a\r\nExpect: 100-continue\r\nContent-Length: 1\r\n\r\n"

def askingRequest : Request where
  method := ascii "POST"
  target := ascii "/"
  version := .http11
  headers := [⟨ascii "Host", ascii "a"⟩, ⟨ascii "Expect", ascii "100-continue"⟩, ⟨ascii "Content-Length", ascii "1"⟩]
  contentLength := some 1
  hasTransferEncoding := false
  keepAlive := true

def askingHead : Bytes :=
  ascii "POST / HTTP/1.1\r\nExpect: 100-continue\r\nHost: a\r\nContent-Length: 1\r\n" ++
    ascii "X-Forwarded-For: 127.0.0.1\r\nX-Forwarded-Host: a\r\nX-Forwarded-Proto: http\r\n\r\n"

theorem serializeRequestHead_expect_asking :
    ∃ fields, headFields askingHead = .ok fields ∧
      headerContainsToken fields "expect" (ascii "100-continue") = true := by
  have hparse : parseRequestWithConsumed askingInput = .ok (askingRequest, askingInput.length) := by decide +kernel
  have hserialize : serializeRequestHead ipv4Net askingRequest (.v4 #v[127, 0, 0, 1]) .http = .ok askingHead := by
    decide +kernel
  exact (serializeRequestHead_expect ipv4Net hparse _ _ hserialize (by decide +kernel)).2 (by decide +kernel)

def silentInput : Bytes :=
  ascii "POST / HTTP/1.1\r\nHost: a\r\nConnection: expect\r\nExpect: 100-continue\r\nContent-Length: 1\r\n\r\n"

/-- The request of `askingInput`, but for `Connection: expect`. -/
def silentRequest : Request :=
  { askingRequest with
    headers := [⟨ascii "Host", ascii "a"⟩, ⟨ascii "Connection", ascii "expect"⟩, ⟨ascii "Expect", ascii "100-continue"⟩,
      ⟨ascii "Content-Length", ascii "1"⟩] }

def silentHead : Bytes :=
  ascii "POST / HTTP/1.1\r\nHost: a\r\nContent-Length: 1\r\n" ++
    ascii "X-Forwarded-For: 127.0.0.1\r\nX-Forwarded-Host: a\r\nX-Forwarded-Proto: http\r\n\r\n"

/-- The proxy waits for 100 Continue, and the head it sent says nothing of it. -/
theorem serializeRequestHead_expect_silent :
    parseRequestWithConsumed silentInput = .ok (silentRequest, silentInput.length) ∧
      (requestExpectsContinue silentRequest && requestHasBody silentRequest) = true ∧
      serializeRequestHead ipv4Net silentRequest (.v4 #v[127, 0, 0, 1]) .http = .ok silentHead ∧
      ¬∃ fields, headFields silentHead = .ok fields ∧
        headerContainsToken fields "expect" (ascii "100-continue") = true := by
  refine ⟨by decide +kernel, by decide +kernel, by decide +kernel, ?_⟩
  have hfields : ∀ fields ∈ (headFields silentHead).toOption,
      headerContainsToken fields "expect" (ascii "100-continue") = false := by decide +kernel
  intro h
  obtain ⟨fields, hread, hasked⟩ := h
  rw [hfields fields (by rw [hread]; rfl)] at hasked
  cases hasked

end BareProxy.Proxy
