import BareProxy.Proxy.ResponseHead

/-!
# Forwarding a response

`read_response_head`, `forward_response` and `await_continue_or_final_response`. The reader is generic;
the client is only written to. The loop over interim responses hands the bytes read past one head to the
search for the next.
-/

namespace BareProxy.Proxy

open Http Reader

def maxResponseHeadSize : Nat := 64 * 1024

inductive ForwardResponseOutcome
  | http (clientReusable : Bool)
  | upgraded
  deriving DecidableEq, Repr

inductive ContinueOutcome
  | continue (buffered : Bytes)
  | finalResponseForwarded
  deriving DecidableEq, Repr

variable {ρ : Type} [Reader ρ]

/-- The loop of `read_response_head`, with the bytes read so far. -/
def readResponseHead (upstream : ρ) (buffer : Bytes) : Except ProxyError (Bytes × Bytes) × ρ :=
  match findBytes buffer crlfCrlf with
  | some headerEnd =>
    let bodyStart := headerEnd + 4
    match validateResponseHeadSyntax (buffer.take bodyStart) with
    | .error e => (.error e, upstream)
    | .ok () => (.ok (buffer.take bodyStart, buffer.drop bodyStart), upstream)
  | none =>
    if buffer.length ≥ maxResponseHeadSize then (.error .incompleteResponse, upstream)
    else
      let remainingCapacity := maxResponseHeadSize - buffer.length
      let readLimit := min remainingCapacity streamBufferSize
      match _h : read readLimit upstream with
      | (.error e, upstream) => (.error (.read e.kind e.message), upstream)
      | (.ok bytes, upstream') =>
        if _hbytes : bytes = [] then
          if buffer.isEmpty then (.error .emptyResponse, upstream') else (.error .incompleteResponse, upstream')
        else readResponseHead upstream' (buffer ++ bytes)
termination_by size upstream
decreasing_by exact (read_ok _h).2.2 _hbytes

/-- A head as `read_response_head` returns it: it ends with its only blank line and its syntax was
checked. -/
structure IsResponseHead (head : Bytes) : Prop where
  four_le : 4 ≤ head.length
  blankLine : findBytes head crlfCrlf = some (head.length - 4)
  valid : validateResponseHeadSyntax head = .ok ()

/-- The head, what was read past it and what is still unread are the bytes there were. -/
theorem readResponseHead_ok {upstream upstream' : ρ} {buffer head rest : Bytes}
    (h : readResponseHead upstream buffer = (.ok (head, rest), upstream')) :
    IsResponseHead head ∧ buffer ++ pending upstream = head ++ rest ++ pending upstream' ∧
      (buffer.length ≤ maxResponseHeadSize → head.length + rest.length ≤ maxResponseHeadSize) := by
  fun_induction readResponseHead upstream buffer with
  | case1 => cases h
  | case2 upstream buffer headerEnd hend bodyStart hvalid =>
    cases h
    have hle : headerEnd + 4 ≤ buffer.length := add_length_le_of_indexOfSub hend
    have hlen : (buffer.take bodyStart).length = headerEnd + 4 := by
      rw [List.length_take]
      omega
    refine ⟨⟨by omega, ?_, hvalid⟩, by rw [List.take_append_drop], fun hbuffer => ?_⟩
    · rw [hlen]
      exact indexOfSub_take hend (le_refl _)
    · rw [hlen, List.length_drop]
      omega
  | case3 => cases h
  | case4 => cases h
  | case5 => cases h
  | case6 => cases h
  | case7 upstream buffer hnone hshort capacity limit bytes upstream₁ hread hbytes ih =>
    obtain ⟨hhead, hpending, hbound⟩ := ih h
    obtain ⟨hpending₁, hle, -⟩ := read_ok hread
    refine ⟨hhead, ?_, fun _ => hbound ?_⟩
    · rw [hpending₁, ← hpending, List.append_assoc]
    · rw [List.length_append]
      omega

/-- A write to the client once a response is under way. -/
def writeClient (bytes : Bytes) (client : Sink) : Except ProxyError Unit × Sink :=
  match client.writeAll bytes with
  | (.error e, client) => (.error (responseStartedError e), client)
  | (.ok (), client) => (.ok (), client)

def flushClient (client : Sink) : Except ProxyError Unit × Sink :=
  match client.flush with
  | (.error e, client) => (.error (responseStartedError e), client)
  | (.ok (), client) => (.ok (), client)

/-- A head on its own: written and flushed. -/
def sendHead (head : Bytes) (client : Sink) : Except ProxyError Unit × Sink :=
  match writeClient head client with
  | (.error e, client) => (.error e, client)
  | (.ok (), client) => flushClient client

def forwardInterimHead (responseHead : Bytes) (client : Sink) : Except ProxyError Unit × Sink :=
  match sanitizeResponseHead responseHead none false false with
  | .error e => (.error e, client)
  | .ok head => sendHead head client

/-- The branch of a 101 response. -/
def forwardSwitchingProtocols (responseHead bufferedResponseBody : Bytes)
    (requestedUpgradeProtocols : Option (List Bytes)) (client : Sink) :
    Except ProxyError ForwardResponseOutcome × Sink :=
  match requestedUpgradeProtocols with
  | none =>
    (.error (.invalidUpstreamResponse "upstream switched protocols without a client Upgrade request"), client)
  | some requestedUpgradeProtocols =>
    match validateSwitchingProtocolsResponse responseHead requestedUpgradeProtocols with
    | .error e => (.error e, client)
    | .ok () =>
      match sanitizeResponseHead responseHead (some (ascii "Upgrade")) false true with
      | .error e => (.error e, client)
      | .ok head =>
        match writeClient head client with
        | (.error e, client) => (.error e, client)
        | (.ok (), client) =>
          match writeClient bufferedResponseBody client with
          | (.error e, client) => (.error e, client)
          | (.ok (), client) =>
            match flushClient client with
            | (.error e, client) => (.error e, client)
            | (.ok (), client) => (.ok .upgraded, client)

/-- The branch of a response that has no body by its method or status. -/
def forwardBodiless (responseHead : Bytes) (client : Sink) : Except ProxyError ForwardResponseOutcome × Sink :=
  let clientReusable := responseAllowsClientReuse responseHead false
  let connectionHeader := downstreamConnectionHeader responseHead clientReusable
  match sanitizeResponseHead responseHead connectionHeader false false with
  | .error e => (.error e, client)
  | .ok head =>
    match sendHead head client with
    | (.error e, client) => (.error e, client)
    | (.ok (), client) => (.ok (.http clientReusable), client)

/-- What a final head says about its body, and the head to send for it. -/
structure FinalHead where
  transferFraming : ResponseTransferFraming
  contentLength : Option Nat
  clientReusable : Bool
  head : Bytes
  deriving DecidableEq, Repr

def finalHead (responseHead : Bytes) : Except ProxyError FinalHead := do
  let headerBytes := responseHead.take (responseHead.length - 4)
  let transferFraming ← responseTransferFraming headerBytes
  let contentLength ← responseContentLength headerBytes
  if transferFraming ≠ .none ∧ contentLength.isSome then
    invalidResponse "response contains both Content-Length and Transfer-Encoding"
  else
    let closeDelimited := contentLength.isNone && transferFraming ≠ .chunked
    let clientReusable := responseAllowsClientReuse responseHead closeDelimited
    let connectionHeader := downstreamConnectionHeader responseHead clientReusable
    let head ← sanitizeResponseHead responseHead connectionHeader (transferFraming = .chunked) false
    return { transferFraming, contentLength, clientReusable, head }

/-- The body streamer a final head selects. -/
def streamResponseBody (final : FinalHead) (upstream : ρ) (client : Sink) (bufferedResponseBody : Bytes) :
    Except ProxyError Unit × ρ × Sink :=
  match final.transferFraming, final.contentLength with
  | .chunked, _ => streamChunkedResponseBody upstream client bufferedResponseBody
  | _, some contentLength => streamFixedResponseBody upstream client contentLength bufferedResponseBody
  | _, none => streamCloseDelimitedResponseBody upstream client bufferedResponseBody

/-- The branch of a response with a body. -/
def forwardWithBody (responseHead bufferedResponseBody : Bytes) (upstream : ρ) (client : Sink) :
    Except ProxyError ForwardResponseOutcome × ρ × Sink :=
  match finalHead responseHead with
  | .error e => (.error e, upstream, client)
  | .ok final =>
    match writeClient final.head client with
    | (.error e, client) => (.error e, upstream, client)
    | (.ok (), client) =>
      match streamResponseBody final upstream client bufferedResponseBody with
      | (.error e, upstream, client) => (.error e, upstream, client)
      | (.ok (), upstream, client) =>
        match flushClient client with
        | (.error e, client) => (.error e, upstream, client)
        | (.ok (), client) => (.ok (.http final.clientReusable), upstream, client)

def forwardResponse (upstream : ρ) (client : Sink) (requestMethod buffered : Bytes)
    (requestedUpgradeProtocols : Option (List Bytes)) :
    Except ProxyError ForwardResponseOutcome × ρ × Sink :=
  match _h : readResponseHead upstream buffered with
  | (.error e, upstream) => (.error e, upstream, client)
  | (.ok (responseHead, bufferedResponseBody), upstream') =>
    match responseStatusCode responseHead with
    | .error e => (.error e, upstream', client)
    | .ok status =>
      if status = 101 then
        let (outcome, client) :=
          forwardSwitchingProtocols responseHead bufferedResponseBody requestedUpgradeProtocols client
        (outcome, upstream', client)
      else if isInterimResponse status then
        match forwardInterimHead responseHead client with
        | (.error e, client) => (.error e, upstream', client)
        | (.ok (), client) =>
          forwardResponse upstream' client requestMethod bufferedResponseBody requestedUpgradeProtocols
      else if responseHasNoBody requestMethod status then
        let (outcome, client) := forwardBodiless responseHead client
        (outcome, upstream', client)
      else forwardWithBody responseHead bufferedResponseBody upstream' client
termination_by buffered.length + (pending upstream).length
decreasing_by
  obtain ⟨hhead, hpending, -⟩ := readResponseHead_ok _h
  have hlen := congrArg List.length hpending
  have hfour := hhead.four_le
  simp only [List.length_append] at hlen
  omega

/-- The loop of `await_continue_or_final_response`. -/
def awaitContinueLoop (upstream : ρ) (client : Sink) (requestMethod buffered : Bytes)
    (requestedUpgradeProtocols : Option (List Bytes)) : Except ProxyError ContinueOutcome × ρ × Sink :=
  match _h : readResponseHead upstream buffered with
  | (.error e, upstream) => (.error e, upstream, client)
  | (.ok (responseHead, bufferedResponse), upstream') =>
    match responseStatusCode responseHead with
    | .error e => (.error e, upstream', client)
    | .ok status =>
      if status = 101 then
        (.error (.invalidUpstreamResponse "101 Switching Protocols requires upgrade tunnelling"), upstream', client)
      else if status = 100 then
        match forwardInterimHead responseHead client with
        | (.error e, client) => (.error e, upstream', client)
        | (.ok (), client) => (.ok (.continue bufferedResponse), upstream', client)
      else if isInterimResponse status then
        match forwardInterimHead responseHead client with
        | (.error e, client) => (.error e, upstream', client)
        | (.ok (), client) =>
          awaitContinueLoop upstream' client requestMethod bufferedResponse requestedUpgradeProtocols
      else
        let finalResponse := responseHead ++ bufferedResponse
        match forwardResponse upstream' client requestMethod finalResponse requestedUpgradeProtocols with
        | (.error e, upstream, client) => (.error e, upstream, client)
        | (.ok _, upstream, client) => (.ok .finalResponseForwarded, upstream, client)
termination_by buffered.length + (pending upstream).length
decreasing_by
  obtain ⟨hhead, hpending, -⟩ := readResponseHead_ok _h
  have hlen := congrArg List.length hpending
  have hfour := hhead.four_le
  simp only [List.length_append] at hlen
  omega

def awaitContinueOrFinalResponse (upstream : ρ) (client : Sink) (requestMethod : Bytes)
    (requestedUpgradeProtocols : Option (List Bytes)) : Except ProxyError ContinueOutcome × ρ × Sink :=
  awaitContinueLoop upstream client requestMethod [] requestedUpgradeProtocols

end BareProxy.Proxy
