import BareProxy.Proxy.Pooling
import BareProxy.Proxy.RequestFields
import BareProxy.Proxy.TrailerRelay

/-!
# Forwarding fields in trailers

The head that is sent upstream has the forwarding fields of the proxy and no other. The trailer section is relayed as
the client sent it, and the check of its names does not know the forwarding fields: a client adds its own behind the
body.
-/

namespace BareProxy.Proxy

open Http Config Reader

/-! ### The forwarding fields of the head -/

def forwardingNames : List String := ["x-forwarded-for", "x-forwarded-host", "x-forwarded-proto"]

def isForwardingName (name : Bytes) : Bool := forwardingNames.any fun forwarding => eqIgnoreAsciiCase name (ascii forwarding)

def isForwardingField (line : Bytes) : Bool := isForwardingName (fieldName line)

/-- The three fields that the proxy generates, for a request with a host. -/
def ownForwardingFields (net : StdNet) (request : Request) (clientIp : IpAddr) (proto : ForwardedProto) : List Header :=
  match request.host net with
  | none => []
  | some host =>
    [⟨ascii "X-Forwarded-For", net.displayIp clientIp⟩, ⟨ascii "X-Forwarded-Host", host⟩,
      ⟨ascii "X-Forwarded-Proto", proto.asBytes⟩]

theorem isForwardingField_line {header : Header} (h : header.WellFormed) :
    isForwardingField header.line = isForwardingName header.name := by
  have hcolon : (58 : Byte) ∉ header.name := fun hmem => (isTokenByte_facts 58 (h.name_token 58 hmem)).2.2.1 rfl
  have hline : header.line = header.name ++ 58 :: (32 :: header.value) := by
    rw [Header.line, List.append_assoc]
    rfl
  rw [isForwardingField, hline, fieldName_line hcolon]

/-- The forwarding fields among all that are sent are the proxy's own. -/
theorem filter_upstreamFields_forwarding {net : StdNet} {request : Request} {host : Bytes}
    (hhost : request.host net = some host) (upgrade : Option (List Bytes)) (clientIp : IpAddr) (proto : ForwardedProto) :
    (upstreamFields net request upgrade host clientIp proto).filter (fun header => isForwardingName header.name) =
      ownForwardingFields net request clientIp proto := by
  have hnames : ∀ {fields : List Header} {names : List String},
      (∀ field ∈ fields, ∃ other ∈ names, field.name = ascii other) →
      (∀ other ∈ names, isForwardingName (ascii other) = false) →
      fields.filter (fun header => isForwardingName header.name) = [] := by
    intro fields names hfields hother
    rw [List.filter_eq_nil_iff]
    intro field hfield
    obtain ⟨other, hmem, hname⟩ := hfields field hfield
    rw [hname, hother other hmem]
    exact Bool.false_ne_true
  have hforwarded : (forwardedFields request).filter (fun header => isForwardingName header.name) = [] := by
    rw [List.filter_eq_nil_iff]
    intro header hheader hname
    obtain ⟨name, hmem, heq⟩ := List.any_eq_true.1 hname
    have hsubset : ∀ name ∈ forwardingNames, name ∈ replacedHeaders := by decide
    have hnone := headersNamed_forwardedFields request (hsubset name hmem)
    rw [headersNamed, List.filter_eq_nil_iff] at hnone
    exact hnone header hheader heq
  obtain ⟨between, hfields, hbetween⟩ := hopFields_eq net request upgrade host clientIp proto
  rw [upstreamFields, hfields, List.filter_append, List.filter_append, List.filter_append, hforwarded,
    hnames (framingFields_name request host) (by decide), hnames hbetween (by decide), ownForwardingFields, hhost]
  rfl

section Head

variable {net : StdNet} {input : Bytes} {request : Request} {consumed : Nat} {clientIp : IpAddr} {proto : ForwardedProto}
  {head : Bytes}

/-- What the upstream reads behind the head adds to the proxy's own forwarding fields. -/
theorem forwardingFields_head (hparse : parseRequestWithConsumed input = .ok (request, consumed))
    (hserialize : serializeRequestHead net request clientIp proto = .ok head) (body : Bytes) :
    (receivedFields (head ++ body)).filter isForwardingField =
      (ownForwardingFields net request clientIp proto).map Header.line ++ (readTrailers body).filter isForwardingField := by
  obtain ⟨host, upgrade, hhost, hupgrade, hfields, hlines⟩ := isHeadOf_serializeRequestHead hparse hserialize
  have hforwarding : ((upstreamFields net request upgrade host clientIp proto).map Header.line).filter isForwardingField =
      (ownForwardingFields net request clientIp proto).map Header.line := by
    rw [← filter_upstreamFields_forwarding hhost upgrade, List.filter_map]
    apply congrArg
    apply List.filter_congr
    intro field hfield
    exact isForwardingField_line (hfields field hfield)
  rw [hlines.head, receivedFields_head hlines.statusLine hlines.fields, List.filter_append, hforwarding]

end Head

/-! ### What an exchange sends -/

/-- What a call writes to the upstream connection that it uses. -/
def ExchangeCall.sent (net : StdNet) (call : ExchangeCall) (session : Session) : Bytes :=
  match requestUpgradeProtocols call.request, (takeUpstream call.route.upstream.address session call.network).1 with
  | .ok requested, .ok stream =>
    (exchangeOn net call.request requested call.bufferedBody call.clientIp call.forwardedProto call.client
      stream).2.2.output.written.drop stream.output.written.length
  | _, _ => []

theorem ExchangeCall.sent_eq (net : StdNet) {call : ExchangeCall} {session : Session} {requested : Option (List Bytes)}
    (hupgrade : requestUpgradeProtocols call.request = .ok requested) {stream : Endpoint}
    (htake : (takeUpstream call.route.upstream.address session call.network).1 = .ok stream) :
    call.sent net session = (exchangeOn net call.request requested call.bufferedBody call.clientIp call.forwardedProto
      call.client stream).2.2.output.written.drop stream.output.written.length := by
  rw [ExchangeCall.sent, hupgrade, htake]

section Exchange

variable {net : StdNet} {request : Request} {requested : Option (List Bytes)} {bufferedBody : Bytes}
  {clientIp : IpAddr} {proto : ForwardedProto} {client client' upstream upstream' : Endpoint}

/-- An exchange sends nothing, or a front of the head, or the head and what is relayed of the body. -/
theorem exchangeOn_sent {result : Except ProxyError Exchanged} (hchunked : request.hasTransferEncoding = true)
    (h : exchangeOn net request requested bufferedBody clientIp proto client upstream = (result, client', upstream')) :
    ∃ sent, upstream'.output.written = upstream.output.written ++ sent ∧
      (sent = [] ∨ ∃ head body, serializeRequestHead net request clientIp proto = .ok head ∧ sent <+: head ++ body ∧
        RelaysTrailers body (bufferedBody ++ pending client.input)) := by
  unfold exchangeOn at h
  split at h
  · cases h
    exact ⟨[], (List.append_nil _).symm, Or.inl rfl⟩
  · rename_i head hserialize
    have hhead : ∀ {sent : Bytes}, sent <+: head → ∃ head body,
        serializeRequestHead net request clientIp proto = .ok head ∧ sent <+: head ++ body ∧
          RelaysTrailers body (bufferedBody ++ pending client.input) := by
      intro sent hsent
      refine ⟨head, [], hserialize, ?_, .of_nil readTrailers_nil⟩
      rw [List.append_nil]
      exact hsent
    split at h
    · rename_i e output hwrite
      cases h
      obtain ⟨sent, hwritten, hfront⟩ := writeAll_wroteFront hwrite
      exact ⟨sent, hwritten, Or.inr (hhead hfront)⟩
    · rename_i output hwrite
      have hwritten := Sink.writeAll_ok hwrite
      split at h
      · rename_i hawait
        cases h
        exact ⟨head, (awaitContinue_frame hawait).1.trans hwritten, Or.inr (hhead List.prefix_rfl)⟩
      · rename_i hawait
        cases h
        exact ⟨head, (awaitContinue_frame hawait).1.trans hwritten, Or.inr (hhead List.prefix_rfl)⟩
      · rename_i buffered client₁ upstream₁ hawait
        obtain ⟨hwritten₁, hinput₁⟩ := awaitContinue_frame hawait
        have hbody : ∀ {bodyResult : Except ProxyError Bytes} {client₂ upstream₂ : Endpoint},
            sendBody request bufferedBody client₁ upstream₁ = (bodyResult, client₂, upstream₂) →
            ∃ body, upstream₂.output.written = upstream.output.written ++ (head ++ body) ∧
              RelaysTrailers body (bufferedBody ++ pending client.input) := by
          intro bodyResult client₂ upstream₂ hsend
          rw [sendBody, if_pos hchunked] at hsend
          cases hstream : streamChunkedRequestBody client₁.input upstream₁.output bufferedBody with
          | mk streamed state =>
            obtain ⟨body, hsent, hrelays⟩ := streamChunkedRequestBody_relaysTrailers hstream
            rw [hstream] at hsend
            cases hsend
            rw [hinput₁] at hrelays
            refine ⟨body, ?_, hrelays⟩
            rw [hsent, hwritten₁, hwritten, List.append_assoc]
        split at h
        · rename_i hsend
          cases h
          obtain ⟨body, hsent, hrelays⟩ := hbody hsend
          exact ⟨head ++ body, hsent, Or.inr ⟨head, body, hserialize, List.prefix_rfl, hrelays⟩⟩
        · rename_i rest client₂ upstream₂ hsend
          obtain ⟨body, hsent, hrelays⟩ := hbody hsend
          refine ⟨head ++ body, ?_, Or.inr ⟨head, body, hserialize, List.prefix_rfl, hrelays⟩⟩
          -- what follows only flushes the connection and reads from it
          rw [← hsent]
          split at h
          · rename_i hflush
            cases h
            exact (flushUpstream_written hflush).1
          · rename_i hflush
            split at h
            · cases h
              exact (flushUpstream_written hflush).1
            · cases h
              exact (flushUpstream_written hflush).1

/-- An exchange that goes on to the body sends it behind the head. -/
theorem exchangeOn_body {head buffered : Bytes} {output output₁ : Sink} {client₁ : Endpoint} {input₁ : Source}
    (hchunked : request.hasTransferEncoding = true)
    (hserialize : serializeRequestHead net request clientIp proto = .ok head)
    (hwrite : upstream.output.writeAll head = (.ok (), output))
    (hawait : awaitContinue request requested client { upstream with output } =
      (.ok (.continue buffered), client₁, ⟨input₁, output₁⟩)) :
    (exchangeOn net request requested bufferedBody clientIp proto client upstream).2.2.output.written =
      (streamChunkedRequestBody client₁.input output₁ bufferedBody).2.2.written := by
  rw [exchangeOn, hserialize]
  dsimp only
  rw [hwrite]
  dsimp only
  rw [hawait]
  dsimp only
  rw [sendBody, if_pos hchunked]
  cases hstream : streamChunkedRequestBody client₁.input output₁ bufferedBody with
  | mk result state =>
    obtain ⟨input, sink⟩ := state
    cases result with
    | error e => rfl
    | ok rest =>
      dsimp only
      cases hflush : flushUpstream ⟨input₁, sink⟩ with
      | mk flushed upstream₂ =>
        obtain ⟨hwritten, -⟩ := flushUpstream_written hflush
        cases flushed with
        | error e => exact hwritten
        | ok u =>
          dsimp only
          split
          · exact hwritten
          · exact hwritten

end Exchange

theorem ExchangeCall.sent_chunked (net : StdNet) (call : ExchangeCall) (session : Session)
    (hchunked : call.request.hasTransferEncoding = true) :
    call.sent net session = [] ∨ ∃ head body,
      serializeRequestHead net call.request call.clientIp call.forwardedProto = .ok head ∧
        call.sent net session <+: head ++ body ∧
        RelaysTrailers body (call.bufferedBody ++ pending call.client.input) := by
  unfold ExchangeCall.sent
  split
  · rename_i requested stream _ _
    rcases hexchange : exchangeOn net call.request requested call.bufferedBody call.clientIp call.forwardedProto
      call.client stream with ⟨result, client, upstream⟩
    obtain ⟨sent, hwritten, hsent⟩ := exchangeOn_sent hchunked hexchange
    dsimp only
    rw [hwritten, List.drop_left]
    exact hsent
  · exact Or.inl rfl

/-! ### An upstream that takes everything -/

def continueHead : Bytes := ascii "HTTP/1.1 100 C\r\n\r\n"

/-- The client has sent these bytes, and the upstream asks for them at once. -/
def promptCall (request : Request) (clientIp : IpAddr) (forwardedProto : ForwardedProto) (bytes : Bytes) :
    ExchangeCall where
  route := ⟨ascii "a", ⟨ascii "b", 80⟩⟩
  request := request
  bufferedBody := bytes
  clientIp := clientIp
  forwardedProto := forwardedProto
  client := ⟨⟨[]⟩, Sink.accepting []⟩
  network := answering continueHead

theorem awaitContinueLoop_prompt (requestMethod : Bytes) (requested : Option (List Bytes)) :
    awaitContinueLoop (Source.ofSegments [continueHead]) (Sink.accepting []) requestMethod [] requested =
      (.ok (.continue []), ⟨[]⟩, Sink.accepting continueHead) := by
  have hread : readResponseHead (Source.ofSegments [continueHead]) [] = (.ok (continueHead, []), ⟨[]⟩) := by
    decide +kernel
  have hstatus : responseStatusCode continueHead = .ok 100 := by decide +kernel
  have hforward : forwardInterimHead continueHead (Sink.accepting []) = (.ok (), Sink.accepting continueHead) := by
    decide +kernel
  rw [awaitContinueLoop]
  grind

theorem awaitContinue_prompt (request : Request) (requested : Option (List Bytes)) (written : Bytes) :
    ∃ client input, awaitContinue request requested ⟨⟨[]⟩, Sink.accepting []⟩
        ⟨Source.ofSegments [continueHead], Sink.accepting written⟩ =
      (.ok (.continue []), client, ⟨input, Sink.accepting written⟩) ∧ client.input = ⟨[]⟩ := by
  cases hwaits : requestExpectsContinue request && requestHasBody request with
  | false =>
    refine ⟨⟨⟨[]⟩, Sink.accepting []⟩, Source.ofSegments [continueHead], ?_, rfl⟩
    rw [awaitContinue, hwaits, if_neg Bool.false_ne_true]
  | true =>
    refine ⟨⟨⟨[]⟩, Sink.accepting continueHead⟩, ⟨[]⟩, ?_, rfl⟩
    have hflush : flushUpstream ⟨Source.ofSegments [continueHead], Sink.accepting written⟩ =
        (.ok (), ⟨Source.ofSegments [continueHead], Sink.accepting written⟩) := rfl
    rw [awaitContinue, hwaits, if_pos rfl, hflush]
    dsimp only
    rw [awaitContinueOrFinalResponse, awaitContinueLoop_prompt]

/-- The prompt call sends the head, and every front of the body. -/
theorem promptCall_sent {net : StdNet} {request : Request} {clientIp : IpAddr} {proto : ForwardedProto} {head : Bytes}
    (hchunked : request.hasTransferEncoding = true)
    (hserialize : serializeRequestHead net request clientIp proto = .ok head) {bytes : Bytes} {front : ChunkedFront}
    (hfront : front.text <+: bytes) :
    ∃ more, (promptCall request clientIp proto bytes).sent net (Session.new 10) = head ++ (front.text ++ more) := by
  obtain ⟨host, requested, -, hupgrade, -⟩ := serializeRequestHead_ok hserialize
  obtain ⟨client, input, hawait, hinput⟩ := awaitContinue_prompt request requested head
  have hclean : Clean client.input := by
    rw [hinput]
    intro event hmem
    cases hmem
  have hfront' : front.text <+: bytes ++ pending client.input := hfront.trans (List.prefix_append _ _)
  rcases hstream : streamChunkedRequestBody client.input (Sink.accepting head) bytes with ⟨result, input', sink⟩
  obtain ⟨more, hwritten⟩ := streamChunkedRequestBody_front hclean hfront' hstream
  have hbody : (exchangeOn net request requested bytes clientIp proto ⟨⟨[]⟩, Sink.accepting []⟩
      ⟨Source.ofSegments [continueHead], Sink.accepting []⟩).2.2.output.written =
        (streamChunkedRequestBody client.input (Sink.accepting head) bytes).2.2.written :=
    exchangeOn_body hchunked hserialize rfl hawait
  have hcall : requestUpgradeProtocols (promptCall request clientIp proto bytes).request = .ok requested := hupgrade
  have htake : (takeUpstream (promptCall request clientIp proto bytes).route.upstream.address (Session.new 10)
      (promptCall request clientIp proto bytes).network).1 =
        .ok ⟨Source.ofSegments [continueHead], Sink.accepting []⟩ := rfl
  refine ⟨more, ?_⟩
  rw [ExchangeCall.sent_eq net hcall htake]
  show (exchangeOn net request requested bytes clientIp proto ⟨⟨[]⟩, Sink.accepting []⟩
    ⟨Source.ofSegments [continueHead], Sink.accepting []⟩).2.2.output.written.drop 0 = _
  rw [List.drop_zero, hbody, hstream, hwritten, List.append_assoc]

/-! ### The result -/

/-- Whatever the upstream and the network do, the upstream reads no forwarding fields but the proxy's own exactly when
the request is refused or no trailer field that is relayed is a forwarding field. -/
theorem exchangeWithProto_forwardingFields (net : StdNet) {input : Bytes} {request : Request} {consumed : Nat}
    (hparse : parseRequestWithConsumed input = .ok (request, consumed)) (hchunked : request.hasTransferEncoding = true)
    (clientIp : IpAddr) (proto : ForwardedProto) (bytes : Bytes) :
    (∀ (call : ExchangeCall) (session : Session), call.request = request → call.clientIp = clientIp → call.forwardedProto = proto →
      call.bufferedBody ++ pending call.client.input = bytes →
        (receivedFields (call.sent net session)).filter isForwardingField <+:
          (ownForwardingFields net request clientIp proto).map Header.line) ↔
      (∃ e, serializeRequestHead net request clientIp proto = .error e) ∨
        ∀ front : ChunkedFront, front.text <+: bytes → ∀ line ∈ front.trailers, isForwardingField line = false := by
  constructor
  · intro h
    cases hserialize : serializeRequestHead net request clientIp proto with
    | error e => exact Or.inl ⟨e, rfl⟩
    | ok head =>
      refine Or.inr fun front hfront line hline => ?_
      obtain ⟨more, hsent⟩ := promptCall_sent hchunked hserialize hfront
      have hown := h (promptCall request clientIp proto bytes) (Session.new 10) rfl rfl rfl (List.append_nil bytes)
      rw [hsent, forwardingFields_head hparse hserialize] at hown
      have hnil : (readTrailers (front.text ++ more)).filter isForwardingField = [] := by
        have hlength := hown.length_le
        rw [List.length_append] at hlength
        exact List.length_eq_zero_iff.1 (by omega)
      have hmem : line ∈ readTrailers (front.text ++ more) := by
        apply (readTrailers_front (List.prefix_append front.text more)).subset
        rw [front.readTrailers_text]
        exact hline
      exact Bool.eq_false_iff.2 (List.filter_eq_nil_iff.1 hnil line hmem)
  · intro h call session hrequest hip hproto hbytes
    subst hrequest hip hproto hbytes
    rcases call.sent_chunked net session hchunked with hnone | ⟨head, body, hserialize, hfront, hrelays⟩
    · rw [hnone]
      exact List.nil_prefix
    · rcases h with ⟨e, herror⟩ | hclean
      · rw [hserialize] at herror
        cases herror
      · have hnil : (readTrailers body).filter isForwardingField = [] := by
          rw [List.filter_eq_nil_iff]
          intro line hline
          obtain ⟨front, htext, hmem⟩ := hrelays line hline
          rw [hclean front htext line hmem]
          exact Bool.false_ne_true
        have hread := (receivedFields_front hfront).filter isForwardingField
        rw [forwardingFields_head hparse hserialize, hnil, List.append_nil] at hread
        exact hread

def chunkedInput : Bytes := ascii "POST / HTTP/1.1\r\nHost: a\r\nTransfer-Encoding: chunked\r\n\r\n"

def chunkedRequest : Request where
  method := ascii "POST"
  target := ascii "/"
  version := .http11
  headers := [⟨ascii "Host", ascii "a"⟩, ⟨ascii "Transfer-Encoding", ascii "chunked"⟩]
  contentLength := none
  hasTransferEncoding := true
  keepAlive := true

/-- The three lines of the proxy for `chunkedRequest`. -/
def chunkedForwardingLines : List Bytes :=
  [ascii "X-Forwarded-For: 127.0.0.1", ascii "X-Forwarded-Host: a", ascii "X-Forwarded-Proto: http"]

/-- A trailer field of another name. -/
theorem exchangeWithProto_forwardingFields_digest :
    (receivedFields ((promptCall chunkedRequest (.v4 #v[127, 0, 0, 1]) .http
      (ascii "0\r\nDigest: 1\r\n\r\n")).sent ipv4Net (Session.new 10))).filter isForwardingField <+:
        chunkedForwardingLines := by
  have hparse : parseRequestWithConsumed chunkedInput = .ok (chunkedRequest, chunkedInput.length) := by decide +kernel
  have hclean : ∀ front : ChunkedFront, front.text <+: ascii "0\r\nDigest: 1\r\n\r\n" →
      ∀ line ∈ front.trailers, isForwardingField line = false := by
    intro front hfront line hline
    have hlines : ∀ line ∈ readTrailers (ascii "0\r\nDigest: 1\r\n\r\n"), isForwardingField line = false := by
      decide +kernel
    apply hlines
    apply (readTrailers_front hfront).subset
    rw [front.readTrailers_text]
    exact hline
  have hown : (ownForwardingFields ipv4Net chunkedRequest (.v4 #v[127, 0, 0, 1]) .http).map Header.line =
      chunkedForwardingLines := by decide +kernel
  rw [← hown]
  exact (exchangeWithProto_forwardingFields ipv4Net hparse rfl (.v4 #v[127, 0, 0, 1]) .http _).2 (Or.inr hclean) _ _ rfl
    rfl rfl (List.append_nil _)

/-- A forged field in the trailer section is sent behind those of the proxy. -/
theorem exchangeWithProto_forwardingFields_forged :
    parseRequestWithConsumed chunkedInput = .ok (chunkedRequest, chunkedInput.length) ∧
      (receivedFields ((promptCall chunkedRequest (.v4 #v[127, 0, 0, 1]) .http
        (ascii "0\r\nX-Forwarded-For: 1.2.3.4\r\n\r\n")).sent ipv4Net (Session.new 10))).filter isForwardingField =
          chunkedForwardingLines ++ [ascii "X-Forwarded-For: 1.2.3.4"] ∧
      ¬chunkedForwardingLines ++ [ascii "X-Forwarded-For: 1.2.3.4"] <+: chunkedForwardingLines :=
  ⟨by decide +kernel, by decide +kernel, by decide⟩

end BareProxy.Proxy
