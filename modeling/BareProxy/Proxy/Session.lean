import BareProxy.Config.Route
import BareProxy.Proxy.Forward

/-!
# A session with the upstreams

`Session` keeps at most one upstream connection for reuse. What the network does when the proxy opens
a connection is an input: for each open, the outcome of the name lookup and of each connection attempt.
-/

namespace BareProxy.Proxy

open Http Config

/-! ### Connecting -/

/-- One address of an upstream: whether the time is already used up when it is tried, what connecting
gives, and whether the timeouts can be set. -/
structure ConnectAttempt where
  expired : Bool
  connect : Except IoError Endpoint
  setTimeouts : Except IoError Unit
  deriving DecidableEq

/-- `to_socket_addrs`, with what happens at each address. -/
abbrev Resolution := Except IoError (List ConnectAttempt)

/-- What each connection to come meets. -/
abbrev Network := List Resolution

/-- The loop of `connect_upstream`, with the last error. -/
def tryAddresses (address : Bytes) (lastError : Option (ErrorKind × String)) :
    List ConnectAttempt → Except ProxyError Endpoint
  | [] =>
    let (kind, message) := lastError.getD (.other, "failed to connect to upstream")
    .error (.connect address kind message)
  | attempt :: attempts =>
    if attempt.expired then .error (.connect address .timedOut "upstream connection timed out")
    else match attempt.connect with
      | .ok stream =>
        match attempt.setTimeouts with
        | .ok () => .ok stream
        | .error source => .error (.connect address source.kind source.message)
      | .error source =>
        if isTimeoutKind source.kind then .error (.connect address .timedOut source.message)
        else tryAddresses address (some (source.kind, source.message)) attempts

def connectUpstream (address : Bytes) : Resolution → Except ProxyError Endpoint
  | .error source => .error (.connect address source.kind source.message)
  | .ok [] => .error (.connect address .addrNotAvailable "upstream address resolved to no endpoints")
  | .ok attempts => tryAddresses address none attempts

/-- The next connection the network is asked for. A network with nothing left refuses. -/
def Network.openConnection (address : Bytes) : Network → Except ProxyError Endpoint × Network
  | [] => (.error (.connect address .other "failed to connect to upstream"), [])
  | resolution :: network => (connectUpstream address resolution, network)

/-! ### One exchange -/

structure UpstreamConnection where
  address : Bytes
  stream : Endpoint
  deriving DecidableEq, Repr

structure Session where
  upstream : Option UpstreamConnection
  upgradedUpstream : Option Endpoint
  upstreamTimeout : Nat
  deriving DecidableEq, Repr

def Session.new (upstreamTimeoutSeconds : Nat) : Session :=
  { upstream := none, upgradedUpstream := none, upstreamTimeout := upstreamTimeoutSeconds }

structure ExchangeResult where
  bufferedClientBytes : Bytes
  clientReusable : Bool
  upgraded : Bool
  deriving DecidableEq, Repr

def requestExpectsContinue (request : Request) : Bool :=
  headerContainsToken request.headers "expect" (ascii "100-continue")

def requestHasBody (request : Request) : Bool :=
  request.hasTransferEncoding || request.contentLength.any fun contentLength => contentLength > 0

def flushUpstream (upstream : Endpoint) : Except ProxyError Unit × Endpoint :=
  match upstream.output.flush with
  | (.error e, output) => (.error (upstreamWriteError e), { upstream with output })
  | (.ok (), output) => (.ok (), { upstream with output })

/-- The wait for 100 Continue, when the request asks for it. -/
def awaitContinue (request : Request) (requested : Option (List Bytes)) (client upstream : Endpoint) :
    Except ProxyError ContinueOutcome × Endpoint × Endpoint :=
  if requestExpectsContinue request && requestHasBody request then
    match flushUpstream upstream with
    | (.error e, upstream) => (.error e, client, upstream)
    | (.ok (), upstream) =>
      match awaitContinueOrFinalResponse upstream.input client.output request.method requested with
      | (outcome, input, output) => (outcome, { client with output }, { upstream with input })
  else (.ok (.continue []), client, upstream)

/-- The request body, as its framing headers say. -/
def sendBody (request : Request) (bufferedBody : Bytes) (client upstream : Endpoint) :
    Except ProxyError Bytes × Endpoint × Endpoint :=
  if request.hasTransferEncoding then
    match streamChunkedRequestBody client.input upstream.output bufferedBody with
    | (result, input, output) => (result, { client with input }, { upstream with output })
  else match request.contentLength with
    | some contentLength =>
      match streamRequestBody client.input upstream.output contentLength bufferedBody with
      | (result, input, output) => (result, { client with input }, { upstream with output })
    | none => (.ok bufferedBody, client, upstream)

/-- How an exchange that did not fail ended. -/
inductive Exchanged
  | finalResponseForwarded
  | response (bufferedClientBytes : Bytes) (outcome : ForwardResponseOutcome)
  deriving DecidableEq, Repr

/-- An exchange on an open connection. -/
def exchangeOn (net : StdNet) (request : Request) (requested : Option (List Bytes)) (bufferedBody : Bytes)
    (clientIp : IpAddr) (forwardedProto : ForwardedProto) (client upstream : Endpoint) :
    Except ProxyError Exchanged × Endpoint × Endpoint :=
  match serializeRequestHead net request clientIp forwardedProto with
  | .error e => (.error e, client, upstream)
  | .ok requestHead =>
    match upstream.output.writeAll requestHead with
    | (.error e, output) => (.error (upstreamWriteError e), client, { upstream with output })
    | (.ok (), output) =>
      match awaitContinue request requested client { upstream with output } with
      | (.error e, client, upstream) => (.error e, client, upstream)
      | (.ok .finalResponseForwarded, client, upstream) => (.ok .finalResponseForwarded, client, upstream)
      | (.ok (.continue bufferedResponse), client, upstream) =>
        match sendBody request bufferedBody client upstream with
        | (.error e, client, upstream) => (.error e, client, upstream)
        | (.ok bufferedClientBytes, client, upstream) =>
          match flushUpstream upstream with
          | (.error e, upstream) => (.error e, client, upstream)
          | (.ok (), upstream) =>
            match forwardResponse upstream.input client.output request.method bufferedResponse requested with
            | (.error e, input, output) => (.error e, { client with output }, { upstream with input })
            | (.ok outcome, input, output) =>
              (.ok (.response bufferedClientBytes outcome), { client with output }, { upstream with input })

/-- What an exchange reads and changes. -/
structure ExchangeState where
  session : Session
  network : Network
  client : Endpoint
  deriving DecidableEq

/-- The pooled connection when it has the right address, else a new one. -/
def takeUpstream (address : Bytes) (session : Session) (network : Network) :
    Except ProxyError Endpoint × Network :=
  match session.upstream with
  | some connection =>
    if connection.address = address then (.ok connection.stream, network) else network.openConnection address
  | none => network.openConnection address

def exchangeWithProto (net : StdNet) (route : Route) (request : Request) (bufferedBody : Bytes)
    (clientIp : IpAddr) (forwardedProto : ForwardedProto) (state : ExchangeState) :
    Except ProxyError ExchangeResult × ExchangeState :=
  match requestUpgradeProtocols request with
  | .error e => (.error e, state)
  | .ok requested =>
    let address := route.upstream.address
    let session := { state.session with upstream := none }
    match takeUpstream address state.session state.network with
    | (.error e, network) => (.error e, { state with session, network })
    | (.ok stream, network) =>
      match exchangeOn net request requested bufferedBody clientIp forwardedProto state.client stream with
      | (.error e, client, _) => (.error e, { session, network, client })
      | (.ok .finalResponseForwarded, client, _) =>
        (.ok { bufferedClientBytes := [], clientReusable := false, upgraded := false }, { session, network, client })
      | (.ok (.response bufferedClientBytes (.http clientReusable)), client, stream) =>
        let upstream := if clientReusable then some { address, stream } else none
        (.ok { bufferedClientBytes, clientReusable, upgraded := false },
          { session := { session with upstream }, network, client })
      | (.ok (.response bufferedClientBytes .upgraded), client, stream) =>
        (.ok { bufferedClientBytes, clientReusable := false, upgraded := true },
          { session := { session with upgradedUpstream := some stream }, network, client })

end BareProxy.Proxy
