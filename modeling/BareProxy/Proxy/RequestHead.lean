import BareProxy.Base.Stream
import BareProxy.Http.Request

/-!
# The request head sent upstream

`serialize_request_head` of `proxy.rs` and what it calls: the request line as it came, the end-to-end
headers in order, and then the headers the proxy writes itself. Its own trimming and token functions
repeat those of `http.rs` and are the same definitions here.
-/

namespace BareProxy.Proxy

open Http

inductive ProxyError
  | missingHost
  | connect (address : Bytes) (kind : ErrorKind) (message : String)
  | write (kind : ErrorKind) (message : String)
  | read (kind : ErrorKind) (message : String)
  | clientRead (kind : ErrorKind) (message : String)
  | invalidClientBody (message : String)
  | emptyResponse
  | incompleteResponse
  | invalidUpstreamResponse (message : String)
  | responseStarted (message : String)
  | tunnel (message : String)
  deriving DecidableEq, Repr

def isTimeoutKind (kind : ErrorKind) : Bool := kind = .timedOut || kind = .wouldBlock

def ProxyError.isUpstreamTimeout : ProxyError → Bool
  | .connect _ kind _ | .write kind _ | .read kind _ => isTimeoutKind kind
  | _ => false

inductive ForwardedProto
  | http
  | https
  deriving DecidableEq, Repr

def ForwardedProto.asBytes : ForwardedProto → Bytes
  | .http => ascii "http"
  | .https => ascii "https"

/-! ### Which headers are replaced -/

def namedByConnectionHeader (request : Request) (name : Bytes) : Bool :=
  headerContainsToken request.headers "connection" name

/-- The headers that never pass, whatever the request says. -/
def replacedHeaders : List String :=
  ["host", "content-length", "connection", "proxy-connection", "keep-alive", "transfer-encoding", "te",
    "trailer", "upgrade", "x-forwarded-for", "x-forwarded-host", "x-forwarded-proto"]

def shouldReplaceHeader (request : Request) (name : Bytes) : Bool :=
  replacedHeaders.any (fun replaced => eqIgnoreAsciiCase name (ascii replaced)) ||
    namedByConnectionHeader request name

def requestAcceptsTrailers (request : Request) : Bool :=
  namedByConnectionHeader request (ascii "te") &&
    headerContainsToken request.headers "te" (ascii "trailers")

/-! ### `Upgrade` and `Trailer` -/

/-- One member of an `Upgrade` list: a name, and possibly a version after a slash. -/
def isValidUpgradeProtocol (protocol : Bytes) : Bool :=
  match protocol.idxOf? 47 with
  | some index =>
    let name := protocol.take index
    let version := protocol.drop (index + 1)
    !(name.isEmpty || version.isEmpty || version.contains 47 || !name.all isTokenByte ||
      !version.all isTokenByte)
  | none => protocol.all isTokenByte

/-- One step of the loop of `parse_upgrade_protocols`. -/
def parseUpgradeProtocol (protocols : List Bytes) (member : Bytes) : Except String (List Bytes) :=
  let protocol := trimOptionalWhitespace member
  if protocol.isEmpty then .error "Upgrade header contains an empty protocol"
  else if !isValidUpgradeProtocol protocol then .error "Upgrade header contains an invalid protocol"
  else .ok (protocols ++ [protocol])

def parseUpgradeProtocols (value : Bytes) : Except String (List Bytes) :=
  match (value.splitOn 44).foldlM parseUpgradeProtocol [] with
  | .error message => .error message
  | .ok protocols =>
    if protocols.isEmpty then .error "Upgrade header contains no protocols" else .ok protocols

/-- One step of the loop of `request_upgrade_protocols`. -/
def collectUpgradeProtocols (protocols : List Bytes) (header : Header) : Except ProxyError (List Bytes) :=
  match parseUpgradeProtocols header.value with
  | .error message => .error (.invalidClientBody message)
  | .ok more => .ok (protocols ++ more)

def requestUpgradeProtocols (request : Request) : Except ProxyError (Option (List Bytes)) :=
  let connectionNamesUpgrade := namedByConnectionHeader request (ascii "upgrade")
  match (headersNamed request.headers "upgrade").foldlM collectUpgradeProtocols [] with
  | .error error => .error error
  | .ok protocols =>
    if protocols.isEmpty then
      if connectionNamesUpgrade then
        .error (.invalidClientBody "Connection names Upgrade without an Upgrade header")
      else .ok none
    else if !connectionNamesUpgrade then
      .error (.invalidClientBody "Upgrade header requires Connection: Upgrade")
    else .ok (some protocols)

def forbiddenTrailerNames : List String :=
  ["content-length", "transfer-encoding", "host", "connection", "keep-alive", "proxy-connection", "te",
    "trailer", "upgrade"]

def isForbiddenTrailerName (name : Bytes) : Bool :=
  forbiddenTrailerNames.any fun forbidden => eqIgnoreAsciiCase name (ascii forbidden)

/-- One step of the loop of `validate_trailer_header_value`, with the count of fields so far. -/
def validateTrailerFieldName (fieldCount : Nat) (member : Bytes) : Except String Nat :=
  let fieldName := trimOptionalWhitespace member
  if fieldName.isEmpty || !fieldName.all isTokenByte then
    .error "Trailer header contains invalid field name"
  else if isForbiddenTrailerName fieldName then .error "Trailer header contains forbidden field name"
  else .ok (fieldCount + 1)

def validateTrailerHeaderValue (value : Bytes) : Except String Unit :=
  match (value.splitOn 44).foldlM validateTrailerFieldName 0 with
  | .error message => .error message
  | .ok fieldCount => if fieldCount = 0 then .error "Trailer header contains no field names" else .ok ()

/-! ### The serializer -/

/-- A header line: the name, a colon and a space, the value, CR LF. -/
def fieldLine (name value : Bytes) : Bytes := name ++ ascii ": " ++ value ++ crlf

/-- One `Trailer` header of a chunked request, validated before it is copied. -/
def pushTrailerLine (output : Bytes) (header : Header) : Except ProxyError Bytes :=
  match validateTrailerHeaderValue header.value with
  | .error message => .error (.invalidClientBody message)
  | .ok () => .ok (output ++ fieldLine (ascii "Trailer") header.value)

def trailerLines (headers : List Header) : Except ProxyError Bytes :=
  (headersNamed headers "trailer").foldlM pushTrailerLine []

/-- The `Transfer-Encoding` line and the trailer declarations of a chunked request. -/
def transferEncodingLines (request : Request) : Except ProxyError Bytes :=
  if request.hasTransferEncoding then
    if !namedByConnectionHeader request (ascii "trailer") then
      match trailerLines request.headers with
      | .error error => .error error
      | .ok trailers => .ok (fieldLine (ascii "Transfer-Encoding") (ascii "chunked") ++ trailers)
    else .ok (fieldLine (ascii "Transfer-Encoding") (ascii "chunked"))
  else .ok []

def contentLengthLine : Option Nat → Bytes
  | some contentLength => fieldLine (ascii "Content-Length") (decimal contentLength)
  | none => []

def upgradeLine : Option (List Bytes) → Bytes
  | some protocols => fieldLine (ascii "Upgrade") (List.intercalate (ascii ", ") protocols)
  | none => []

def connectionLine (acceptsTrailers upgrades : Bool) : Bytes :=
  match acceptsTrailers, upgrades with
  | true, true => fieldLine (ascii "Connection") (ascii "TE, Upgrade")
  | true, false => fieldLine (ascii "Connection") (ascii "TE")
  | false, true => fieldLine (ascii "Connection") (ascii "Upgrade")
  | false, false => []

def serializeRequestHead (net : StdNet) (request : Request) (clientIp : IpAddr)
    (forwardedProto : ForwardedProto) : Except ProxyError Bytes := do
  let originalHost ← okOr .missingHost (request.host net)
  let upgradeProtocols ← requestUpgradeProtocols request
  let acceptsTrailers := requestAcceptsTrailers request
  let transferEncoding ← transferEncodingLines request
  return request.method ++ ascii " " ++ request.target ++ ascii " HTTP/1.1" ++ crlf
    ++ (request.headers.filter fun header => !shouldReplaceHeader request header.name).flatMap
        (fun header => fieldLine header.name header.value)
    ++ fieldLine (ascii "Host") originalHost
    ++ contentLengthLine request.contentLength
    ++ transferEncoding
    ++ (if acceptsTrailers then fieldLine (ascii "TE") (ascii "trailers") else [])
    ++ upgradeLine upgradeProtocols
    ++ connectionLine acceptsTrailers upgradeProtocols.isSome
    ++ fieldLine (ascii "X-Forwarded-For") (net.displayIp clientIp)
    ++ fieldLine (ascii "X-Forwarded-Host") originalHost
    ++ fieldLine (ascii "X-Forwarded-Proto") forwardedProto.asBytes
    ++ crlf

end BareProxy.Proxy
