import BareProxy.Http.Response
import BareProxy.Proxy.Session

/-!
# A client connection

`handle_connection_io` of `server.rs`: it reads a request head, selects the route, exchanges the request
with the upstream, and either goes on with the bytes left over or ends. One pass of its loop is
`handleRequest`; the loop itself is `handleConnectionIo`. Logging and the counters that are only logged
are left out.
-/

namespace BareProxy.Server

open Http Proxy Reader

def readChunkSize : Nat := 4096

structure ReceivedRequest where
  request : Request
  bufferedBody : Bytes
  bytesRead : Nat
  deriving DecidableEq, Repr

variable {ρ : Type} [Reader ρ]

/-- The loop of `read_request_head`, with the bytes read so far. -/
def readRequestHead (reader : ρ) (buffer : Bytes) : Except IoError (Option ReceivedRequest) × ρ :=
  match parseRequestWithConsumed buffer with
  | .ok (request, bytesConsumed) =>
    (.ok (some { request, bufferedBody := buffer.drop bytesConsumed, bytesRead := buffer.length }), reader)
  | .error error =>
    if error ≠ .incompleteHeaders then (.error ⟨.invalidData, error.message⟩, reader)
    else if buffer.length ≥ maxRequestHeadSize then
      (.error ⟨.invalidData, "HTTP request headers exceed maximum size"⟩, reader)
    else
      let remainingCapacity := maxRequestHeadSize - buffer.length
      let readLimit := min remainingCapacity readChunkSize
      match _h : read readLimit reader with
      | (.error e, reader) => (.error e, reader)
      | (.ok bytes, reader') =>
        if _hbytes : bytes = [] then
          if buffer.isEmpty then (.ok none, reader')
          else
            (.error ⟨.unexpectedEof, "client disconnected before completing HTTP request headers"⟩, reader')
        else readRequestHead reader' (buffer ++ bytes)
termination_by size reader
decreasing_by exact (read_ok _h).2.2 _hbytes

def selectRoute (net : StdNet) (request : Request) (configuration : Config) : Except StatusCode Config.Route :=
  match request.host net with
  | none => .error .badRequest
  | some host =>
    match configuration.routeForHost host with
    | .ok route => .ok route
    | .error .invalidHost => .error .badRequest
    | .error (.notFound _) => .error .notFound

/-! ### Error pages -/

def packageVersion : String := "0.1.0"

def buildTextResponse (status : StatusCode) (body : String) : Except ResponseError Bytes := do
  let response ← (Response.new status (ascii body)).withHeader (ascii "Content-Type") (ascii "text/plain; charset=utf-8")
  let response ← response.withHeader (ascii "Server") (ascii ("BareProxy/" ++ packageVersion))
  let response ← response.withHeader (ascii "Connection") (ascii "close")
  response.serialize

def writeTextResponse (status : StatusCode) (body : String) (stream : Sink) : Except IoError Unit × Sink :=
  match buildTextResponse status body with
  | .error e => (.error ⟨.invalidData, e.message⟩, stream)
  | .ok response =>
    match stream.writeAll response with
    | (.error e, stream) => (.error e, stream)
    | (.ok (), stream) => stream.flush

/-! ### The connection loop -/

inductive ConnectionOutcome
  | complete
  | upgraded (session : Session) (bufferedClientBytes : Bytes)
  deriving DecidableEq, Repr

/-- What is fixed for a connection. -/
structure Environment where
  net : StdNet
  configuration : Config
  clientIp : IpAddr
  forwardedProto : ForwardedProto

/-- What the loop carries from one request to the next. -/
structure Connection where
  client : Endpoint
  buffered : Bytes
  session : Session
  network : Network
  deriving DecidableEq

def Connection.start (environment : Environment) (client : Endpoint) (network : Network) : Connection :=
  { client, buffered := [], session := Session.new environment.configuration.upstreamTimeoutSeconds, network }

/-- How a pass of the loop ends. -/
inductive Pass
  | next (connection : Connection)
  | done (result : Except IoError ConnectionOutcome) (connection : Connection)
  deriving DecidableEq

/-- Ends the connection with an error page. -/
def errorPage (status : StatusCode) (body : String) (connection : Connection) : Pass :=
  match writeTextResponse status body connection.client.output with
  | (.error e, output) => .done (.error e) { connection with client := { connection.client with output } }
  | (.ok (), output) => .done (.ok .complete) { connection with client := { connection.client with output } }

/-- What the loop does with the result of an exchange. -/
def afterExchange (request : Request) (result : Except ProxyError ExchangeResult) (connection : Connection) : Pass :=
  match result with
  | .ok result =>
    if result.upgraded then
      .done (.ok (.upgraded connection.session result.bufferedClientBytes)) connection
    else if request.keepAlive && result.clientReusable then
      .next { connection with buffered := result.bufferedClientBytes }
    else .done (.ok .complete) connection
  | .error (.invalidClientBody _) => errorPage .badRequest "Bad Request\n" connection
  | .error (.clientRead kind message) => .done (.error ⟨kind, message⟩) connection
  | .error (.responseStarted _) => .done (.ok .complete) connection
  | .error error =>
    if error.isUpstreamTimeout then errorPage .gatewayTimeout "Gateway Timeout\n" connection
    else errorPage .badGateway "Bad Gateway\n" connection

/-- One pass of the loop of `handle_connection_io`. -/
def handleRequest (environment : Environment) (connection : Connection) : Pass :=
  match readRequestHead connection.client.input connection.buffered with
  | (.error e, input) => .done (.error e) { connection with client := { connection.client with input } }
  | (.ok none, input) => .done (.ok .complete) { connection with client := { connection.client with input } }
  | (.ok (some received), input) =>
    let connection := { connection with client := { connection.client with input } }
    match selectRoute environment.net received.request environment.configuration with
    | .error status => errorPage status (status.reasonPhrase ++ "\n") connection
    | .ok route =>
      match exchangeWithProto environment.net route received.request received.bufferedBody environment.clientIp
          environment.forwardedProto
          { session := connection.session, network := connection.network, client := connection.client } with
      | (result, state) =>
        afterExchange received.request result
          { connection with client := state.client, session := state.session, network := state.network }

end BareProxy.Server
