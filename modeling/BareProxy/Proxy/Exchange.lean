import BareProxy.Proxy.Session

/-!
# What an exchange moves from the client to the upstream

An exchange that ends with a response has sent the whole request: the serialized head and then the body,
byte for byte as the client sent it. What it hands back are the bytes that were buffered after the body.
-/

namespace BareProxy.Proxy

open Http Config Reader

/-- A body as the framing of the request announces it. -/
def IsRequestBody (request : Request) (body : Bytes) : Prop :=
  if request.hasTransferEncoding then ChunkedMessage body
  else match request.contentLength with
    | some contentLength => body.length = contentLength
    | none => body = []

theorem sendBody_ok {request : Request} {bufferedBody rest : Bytes} {client client' upstream upstream' : Endpoint}
    (h : sendBody request bufferedBody client upstream = (.ok rest, client', upstream')) :
    ∃ body, IsRequestBody request body ∧
      bufferedBody ++ pending client.input = body ++ rest ++ pending client'.input ∧
      upstream'.output.written = upstream.output.written ++ body ∧ rest <:+ bufferedBody := by
  unfold sendBody at h
  split at h
  · rename_i hte
    cases hstream : streamChunkedRequestBody client.input upstream.output bufferedBody with
    | mk result state =>
      obtain ⟨input, output⟩ := state
      rw [hstream] at h
      cases h
      obtain ⟨message, hmessage, hbytes, hwritten, hrest⟩ := streamChunkedRequestBody_ok hstream
      exact ⟨message, by simpa [IsRequestBody, hte] using hmessage, hbytes, hwritten, hrest⟩
  · rename_i hte
    split at h
    · rename_i contentLength hlength
      cases hstream : streamRequestBody client.input upstream.output contentLength bufferedBody with
      | mk result state =>
        obtain ⟨input, output⟩ := state
        rw [hstream] at h
        cases h
        obtain ⟨body, hbody, hbytes, hwritten, hrest⟩ := streamRequestBody_ok hstream
        exact ⟨body, by simpa [IsRequestBody, hte, hlength] using hbody, hbytes, hwritten, hrest⟩
    · rename_i hlength
      cases h
      exact ⟨[], by simp [IsRequestBody, hte, hlength], rfl, by simp, List.suffix_rfl⟩

theorem flushUpstream_written {upstream upstream' : Endpoint} {result : Except ProxyError Unit}
    (h : flushUpstream upstream = (result, upstream')) :
    upstream'.output.written = upstream.output.written ∧ upstream'.input = upstream.input := by
  have hflush := Sink.flush_written upstream.output
  unfold flushUpstream at h
  split at h
  · rename_i e output heq
    cases h
    rw [heq] at hflush
    exact ⟨hflush, rfl⟩
  · rename_i output heq
    cases h
    rw [heq] at hflush
    exact ⟨hflush, rfl⟩

/-- The wait for 100 Continue sends nothing upstream and reads nothing from the client. -/
theorem awaitContinue_frame {request : Request} {requested : Option (List Bytes)}
    {client client' upstream upstream' : Endpoint} {result : Except ProxyError ContinueOutcome}
    (h : awaitContinue request requested client upstream = (result, client', upstream')) :
    upstream'.output.written = upstream.output.written ∧ client'.input = client.input := by
  unfold awaitContinue at h
  split at h
  · split at h
    · rename_i e upstream₁ hflush
      cases h
      exact ⟨(flushUpstream_written hflush).1, rfl⟩
    · rename_i upstream₁ hflush
      cases h
      exact ⟨(flushUpstream_written hflush).1, rfl⟩
  · cases h
    exact ⟨rfl, rfl⟩

/-- The steps of an exchange that ends with a response. -/
theorem exchangeOn_response_cases {net : StdNet} {request : Request} {requested : Option (List Bytes)}
    {bufferedBody rest : Bytes} {clientIp : IpAddr} {proto : ForwardedProto} {outcome : ForwardResponseOutcome}
    {client client' upstream upstream' : Endpoint}
    (h : exchangeOn net request requested bufferedBody clientIp proto client upstream =
      (.ok (.response rest outcome), client', upstream')) :
    ∃ head output buffered client₁ upstream₁ client₂ upstream₂ upstream₃,
      serializeRequestHead net request clientIp proto = .ok head ∧
      upstream.output.writeAll head = (.ok (), output) ∧
      awaitContinue request requested client { upstream with output } = (.ok (.continue buffered), client₁, upstream₁) ∧
      sendBody request bufferedBody client₁ upstream₁ = (.ok rest, client₂, upstream₂) ∧
      flushUpstream upstream₂ = (.ok (), upstream₃) ∧
      forwardResponse upstream₃.input client₂.output request.method buffered requested =
        (.ok outcome, upstream'.input, client'.output) ∧
      client'.input = client₂.input ∧ upstream'.output = upstream₃.output := by
  unfold exchangeOn at h
  split at h
  · cases h
  · rename_i head hhead
    split at h
    · cases h
    · rename_i output hwrite
      split at h
      · cases h
      · cases h
      · rename_i buffered client₁ upstream₁ hawait
        split at h
        · cases h
        · rename_i rest' client₂ upstream₂ hbody
          split at h
          · cases h
          · rename_i upstream₃ hflush
            split at h
            · cases h
            · rename_i outcome' input output' hforward
              cases h
              exact ⟨head, output, buffered, client₁, upstream₁, client₂, upstream₂, upstream₃, hhead, hwrite, hawait,
                hbody, hflush, hforward, rfl, rfl⟩

/-- An exchange that ends with a response has sent the serialized head and the whole body. -/
theorem exchangeOn_response {net : StdNet} {request : Request} {requested : Option (List Bytes)}
    {bufferedBody rest : Bytes} {clientIp : IpAddr} {proto : ForwardedProto} {outcome : ForwardResponseOutcome}
    {client client' upstream upstream' : Endpoint}
    (h : exchangeOn net request requested bufferedBody clientIp proto client upstream =
      (.ok (.response rest outcome), client', upstream')) :
    ∃ head body, serializeRequestHead net request clientIp proto = .ok head ∧ IsRequestBody request body ∧
      bufferedBody ++ pending client.input = body ++ rest ++ pending client'.input ∧
      upstream'.output.written = upstream.output.written ++ head ++ body ∧ rest <:+ bufferedBody := by
  obtain ⟨head, output, buffered, client₁, upstream₁, client₂, upstream₂, upstream₃, hhead, hwrite, hawait, hsend, hflush,
    -, hclient, hupstream⟩ := exchangeOn_response_cases h
  obtain ⟨hwritten₁, hinput₁⟩ := awaitContinue_frame hawait
  obtain ⟨body, hisBody, hbytes, hwritten₂, hsuffix⟩ := sendBody_ok hsend
  obtain ⟨hwritten₃, -⟩ := flushUpstream_written hflush
  refine ⟨head, body, hhead, hisBody, ?_, ?_, hsuffix⟩
  · rw [hclient, ← hbytes, hinput₁]
  · rw [hupstream, hwritten₃, hwritten₂, hwritten₁, Sink.writeAll_ok hwrite]

/-- Where an exchange leaves the connection it used when the client connection goes on. -/
def keptUpstream (session : Session) (address : Bytes) (upgraded : Bool) (stream : Endpoint) : Prop :=
  if upgraded then session.upgradedUpstream = some stream
  else session.upstream = some { address, stream }

/-- The steps of a call that does not fail. -/
theorem exchangeWithProto_ok {net : StdNet} {route : Route} {request : Request} {bufferedBody : Bytes}
    {clientIp : IpAddr} {proto : ForwardedProto} {state state' : ExchangeState} {result : ExchangeResult}
    (h : exchangeWithProto net route request bufferedBody clientIp proto state = (.ok result, state')) :
    ∃ requested taken network exchanged stream, requestUpgradeProtocols request = .ok requested ∧
      takeUpstream route.upstream.address state.session state.network = (.ok taken, network) ∧
      exchangeOn net request requested bufferedBody clientIp proto state.client taken =
        (.ok exchanged, state'.client, stream) ∧
      ((exchanged = .finalResponseForwarded ∧ result = ⟨[], false, false⟩) ∨
        (∃ rest reusable, exchanged = .response rest (.http reusable) ∧ result = ⟨rest, reusable, false⟩ ∧
          (reusable = true → state'.session.upstream = some ⟨route.upstream.address, stream⟩)) ∨
        ∃ rest, exchanged = .response rest .upgraded ∧ result = ⟨rest, false, true⟩ ∧
          state'.session.upgradedUpstream = some stream) := by
  unfold exchangeWithProto at h
  split at h
  · cases h
  · rename_i requested hupgrade
    dsimp only at h
    split at h
    · cases h
    · rename_i taken network htake
      split at h
      · cases h
      · rename_i client stream hexchange
        cases h
        exact ⟨requested, taken, network, _, stream, hupgrade, htake, hexchange, Or.inl ⟨rfl, rfl⟩⟩
      · rename_i rest reusable client stream hexchange
        cases h
        refine ⟨requested, taken, network, _, stream, hupgrade, htake, hexchange,
          Or.inr (Or.inl ⟨rest, reusable, rfl, rfl, fun hreusable => ?_⟩)⟩
        simp [hreusable]
      · rename_i rest client stream hexchange
        cases h
        exact ⟨requested, taken, network, _, stream, hupgrade, htake, hexchange, Or.inr (Or.inr ⟨rest, rfl, rfl, rfl⟩)⟩

/-- An exchange after which the client connection goes on, or is upgraded. -/
theorem exchangeWithProto_relays {net : StdNet} {route : Route} {request : Request} {bufferedBody : Bytes}
    {clientIp : IpAddr} {proto : ForwardedProto} {state state' : ExchangeState} {result : ExchangeResult}
    (h : exchangeWithProto net route request bufferedBody clientIp proto state = (.ok result, state'))
    (hgoes : result.clientReusable = true ∨ result.upgraded = true) :
    ∃ head body taken stream, serializeRequestHead net request clientIp proto = .ok head ∧
      IsRequestBody request body ∧
      bufferedBody ++ pending state.client.input =
        body ++ result.bufferedClientBytes ++ pending state'.client.input ∧
      (takeUpstream route.upstream.address state.session state.network).1 = .ok taken ∧
      stream.output.written = taken.output.written ++ head ++ body ∧
      keptUpstream state'.session route.upstream.address result.upgraded stream ∧
      result.bufferedClientBytes <:+ bufferedBody := by
  obtain ⟨requested, taken, network, exchanged, stream, -, htake, hexchange, hcases⟩ := exchangeWithProto_ok h
  obtain ⟨rest, outcome, rfl, hrest, hkept⟩ : ∃ rest outcome, exchanged = .response rest outcome ∧
      result.bufferedClientBytes = rest ∧ keptUpstream state'.session route.upstream.address result.upgraded stream := by
    rcases hcases with ⟨-, rfl⟩ | ⟨rest, reusable, rfl, rfl, hupstream⟩ | ⟨rest, rfl, rfl, hupstream⟩
    · simp at hgoes
    · have hreusable : reusable = true := by simpa using hgoes
      exact ⟨rest, _, rfl, rfl, by simp [keptUpstream, hupstream hreusable]⟩
    · exact ⟨rest, _, rfl, rfl, by simp [keptUpstream, hupstream]⟩
  obtain ⟨head, body, hhead, hbody, hbytes, hwritten, hsuffix⟩ := exchangeOn_response hexchange
  rw [hrest]
  exact ⟨head, body, taken, stream, hhead, hbody, hbytes, by rw [htake], hwritten, hkept, hsuffix⟩

end BareProxy.Proxy
