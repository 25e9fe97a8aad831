import BareProxy.Base.Lines
import BareProxy.Base.Result
import BareProxy.Base.Text

/-!
# Requests and their parser

The request side of `http.rs`: the parsed request, the size limits, and the parser from the first byte
of the request line to the framing headers. Slices and strings are byte lists, `usize` is a natural
number, and a `Result` is an `Except`. The parsers and printers of addresses belong to `std::net` and
are parameters.
-/

namespace BareProxy

/-- `IpAddr`. -/
inductive IpAddr
  | v4 (octets : Vector UInt8 4)
  | v6 (segments : Vector UInt16 8)
  deriving DecidableEq, Repr

/-- What the program uses of `std::net`, with what it relies on. -/
structure StdNet where
  /-- `str::parse::<Ipv6Addr>` succeeds. -/
  parsesIpv6 : Bytes → Bool
  /-- The text `Display` prints for an address. -/
  displayIp : IpAddr → Bytes
  /-- An address is printed with hexadecimal digits, dots and colons only. -/
  displayIp_chars : ∀ address, ∀ b ∈ displayIp address, isAsciiHexdigit b = true ∨ b = 46 ∨ b = 58

namespace Http

inductive HttpVersion
  | http11
  deriving DecidableEq, Repr

def maxRequestLineSize : Nat := 8192

def maxHeaderSize : Nat := 8192

def maxHeaderBlockSize : Nat := 32768

def maxHeaderCount : Nat := 100

def maxRequestHeadSize : Nat := maxRequestLineSize + 2 + maxHeaderBlockSize + 4

structure Header where
  name : Bytes
  value : Bytes
  deriving DecidableEq, Repr

structure Request where
  method : Bytes
  target : Bytes
  version : HttpVersion
  headers : List Header
  contentLength : Option Nat
  hasTransferEncoding : Bool
  keepAlive : Bool
  deriving DecidableEq, Repr

inductive ParseError
  | incompleteHeaders
  | invalidRequestLine
  | invalidHeader
  | invalidContentLength
  | conflictingContentLength
  | invalidTransferEncoding
  | ambiguousBodyFraming
  | requestLineTooLong
  | headerTooLong
  | headersTooLarge
  | tooManyHeaders
  | unsupportedVersion (version : Bytes)
  deriving DecidableEq, Repr

/-- `Display`. -/
def ParseError.message : ParseError → String
  | .incompleteHeaders => "incomplete HTTP request headers"
  | .invalidRequestLine => "invalid HTTP request line"
  | .invalidHeader => "invalid HTTP header"
  | .invalidContentLength => "invalid Content-Length"
  | .conflictingContentLength => "conflicting Content-Length values"
  | .invalidTransferEncoding => "invalid or unsupported Transfer-Encoding"
  | .ambiguousBodyFraming => "request contains both Content-Length and Transfer-Encoding"
  | .requestLineTooLong => "HTTP request line is too long"
  | .headerTooLong => "HTTP header is too long"
  | .headersTooLarge => "HTTP header block is too large"
  | .tooManyHeaders => "too many HTTP headers"
  | .unsupportedVersion version =>
    "unsupported HTTP version: " ++ (String.fromUTF8? ⟨version.toArray⟩).getD ""

/-! ### Bytes -/

def isTokenByte (b : Byte) : Bool :=
  b ∈ ascii "!#$%&'*+-.^_`|~" || isAsciiAlphanumeric b

def isValidHeaderValueByte (b : Byte) : Bool := b == 9 || (32 ≤ b && b ≤ 126) || 128 ≤ b

def isOptionalWhitespace (b : Byte) : Bool := b == 32 || b == 9

def trimOptionalWhitespace (value : Bytes) : Bytes :=
  (value.dropWhile isOptionalWhitespace).rdropWhile isOptionalWhitespace

def isValidMethod (method : Bytes) : Bool := method.all isTokenByte

def isValidTarget (target : Bytes) : Bool := target.all fun b => !isAsciiControl b && b != 32

def findBytes (haystack needle : Bytes) : Option Nat := indexOfSub needle haystack

/-! ### The `Host` header -/

def isValidAuthorityPort (port : Bytes) : Bool :=
  !port.isEmpty && port.all isAsciiDigit && (parseU16 port).isSome

def isValidAuthorityHostnameLabel (label : Bytes) : Bool :=
  if label.isEmpty || label.length > 63 then false
  else if !(label.head?.any isAsciiAlphanumeric) || !(label.getLast?.any isAsciiAlphanumeric) then false
  else label.all fun b => isAsciiAlphanumeric b || b == 45

def isValidAuthorityHostname (hostname : Bytes) : Bool :=
  let hostname := if hostname.getLast? = some 46 then hostname.dropLast else hostname
  if hostname.isEmpty || hostname.length > 253 then false
  else (hostname.splitOn 46).all isValidAuthorityHostnameLabel

def isValidHostAuthority (net : StdNet) (authority : Bytes) : Bool :=
  if authority.isEmpty || !isAscii authority then false
  else match authority with
    | 91 :: rest =>
      -- `[address]`, then nothing or a port
      match rest.idxOf? 93 with
      | none => false
      | some closing =>
        let address := rest.take closing
        let remainder := rest.drop (closing + 1)
        if !net.parsesIpv6 address then false
        else match remainder with
          | [] => true
          | 58 :: port => isValidAuthorityPort port
          | _ => false
    | authority =>
      if authority.any fun b => b ∈ ascii "[]@/?#" then false
      else match rsplitOnce 58 authority with
        | some (hostname, port) =>
          if 58 ∈ hostname then false
          else if !isValidAuthorityHostname hostname then false
          else isValidAuthorityPort port
        | none => isValidAuthorityHostname authority

/-- The headers of one name, compared without case. -/
def headersNamed (headers : List Header) (name : String) : List Header :=
  headers.filter fun header => eqIgnoreAsciiCase header.name (ascii name)

/-- The value of the only `Host` header, when there is exactly one and it is a valid authority. -/
def Request.host (net : StdNet) (request : Request) : Option Bytes :=
  match headersNamed request.headers "host" with
  | [host] =>
    if validUtf8 host.value && isValidHostAuthority net host.value then some host.value else none
  | _ => none

/-! ### The parser -/

def parseRequestLine (input : Bytes) : Except ParseError (Bytes × Bytes × HttpVersion) :=
  if !validUtf8 input then .error .invalidRequestLine
  else match input.splitOn 32 with
    | method :: target :: version :: more =>
      if !more.isEmpty || method.isEmpty || target.isEmpty || !isValidMethod method ||
          !isValidTarget target then
        .error .invalidRequestLine
      else if version = ascii "HTTP/1.1" then .ok (method, target, .http11)
      else if ascii "HTTP/" <+: version then .error (.unsupportedVersion version)
      else .error .invalidRequestLine
    | _ => .error .invalidRequestLine

def parseHeader (input : Bytes) : Except ParseError Header :=
  match input.idxOf? 58 with
  | none => .error .invalidHeader
  | some separator =>
    let name := input.take separator
    let value := trimOptionalWhitespace (input.drop (separator + 1))
    if name.isEmpty || !name.all isTokenByte then .error .invalidHeader
    else if !value.all isValidHeaderValueByte then .error .invalidHeader
    else if !validUtf8 name then .error .invalidHeader
    else .ok { name, value }

/-- The loop of `parse_headers`, with the headers read so far. -/
def parseHeadersLoop (headers : List Header) (remaining : Bytes) : Except ParseError (List Header) :=
  let lineEnd := (findBytes remaining crlf).getD remaining.length
  let line := remaining.take lineEnd
  if line.length > maxHeaderSize then .error .headerTooLong
  else if headers.length ≥ maxHeaderCount then .error .tooManyHeaders
  else match parseHeader line with
    | .error error => .error error
    | .ok header =>
      if lineEnd = remaining.length then .ok (headers ++ [header])
      else parseHeadersLoop (headers ++ [header]) (remaining.drop (lineEnd + 2))
termination_by remaining.length
decreasing_by
  rename_i hend
  have : remaining.length ≠ 0 := by
    intro hzero
    rw [List.length_eq_zero_iff] at hzero
    subst hzero
    exact hend rfl
  rw [List.length_drop]
  omega

def parseHeaders (input : Bytes) : Except ParseError (List Header) :=
  if input.isEmpty then .ok [] else parseHeadersLoop [] input

/-- One member of a `Content-Length` list, against the value found so far. -/
def parseContentLengthMember (contentLength : Option Nat) (member : Bytes) :
    Except ParseError (Option Nat) :=
  let value := trimOptionalWhitespace member
  if value.isEmpty || !value.all isAsciiDigit then .error .invalidContentLength
  else match parseU64 value with
    | none => .error .invalidContentLength
    | some parsed =>
      match contentLength with
      | some existing =>
        if existing ≠ parsed then .error .conflictingContentLength else .ok (some existing)
      | none => .ok (some parsed)

def parseContentLengthHeader (contentLength : Option Nat) (header : Header) :
    Except ParseError (Option Nat) :=
  if !validUtf8 header.value then .error .invalidContentLength
  else (header.value.splitOn 44).foldlM parseContentLengthMember contentLength

def parseContentLength (headers : List Header) : Except ParseError (Option Nat) :=
  (headersNamed headers "content-length").foldlM parseContentLengthHeader none

def parseTransferCoding (sawChunked : Bool) (member : Bytes) : Except ParseError Bool :=
  let coding := trimOptionalWhitespace member
  if coding.isEmpty || !eqIgnoreAsciiCase coding (ascii "chunked") || sawChunked then
    .error .invalidTransferEncoding
  else .ok true

def parseTransferEncoding (headers : List Header) : Except ParseError Bool :=
  (headersNamed headers "transfer-encoding").foldlM
    (fun sawChunked header => (header.value.splitOn 44).foldlM parseTransferCoding sawChunked) false

/-- Whether a comma-separated list names the token, without case. -/
def listContainsToken (value token : Bytes) : Bool :=
  ((value.splitOn 44).map trimOptionalWhitespace).any fun member => eqIgnoreAsciiCase member token

def headerContainsToken (headers : List Header) (name : String) (token : Bytes) : Bool :=
  (headersNamed headers name).any fun header => listContainsToken header.value token

/-- The bytes between the request line and the blank line, without their last CR LF. -/
def headerBlock (input : Bytes) (requestLineEnd headerEnd : Nat) : Bytes :=
  if requestLineEnd = headerEnd then []
  else
    let headersStart := requestLineEnd + 2
    (input.take headerEnd).drop headersStart

/-- The parser once both ends are found: the request line ends at `requestLineEnd` and the header block
at `headerEnd`. -/
def parseRequestHead (input : Bytes) (requestLineEnd headerEnd : Nat) :
    Except ParseError (Request × Nat) :=
  let headerBlock := headerBlock input requestLineEnd headerEnd
  if headerBlock.length > maxHeaderBlockSize then .error .headersTooLarge
  else do
    let (method, target, version) ← parseRequestLine (input.take requestLineEnd)
    let headers ← parseHeaders headerBlock
    let contentLength ← parseContentLength headers
    let hasTransferEncoding ← parseTransferEncoding headers
    if contentLength.isSome && hasTransferEncoding then .error .ambiguousBodyFraming
    else
      let keepAlive := !headerContainsToken headers "connection" (ascii "close")
      .ok ({ method, target, version, headers, contentLength, hasTransferEncoding, keepAlive }, headerEnd + 4)

def parseRequestWithConsumed (input : Bytes) : Except ParseError (Request × Nat) :=
  match findBytes input crlf with
  | none =>
    if input.length > maxRequestLineSize then .error .requestLineTooLong else .error .incompleteHeaders
  | some requestLineEnd =>
    if requestLineEnd > maxRequestLineSize then .error .requestLineTooLong
    else match findBytes input crlfCrlf with
      | none =>
        if input.length ≥ maxRequestHeadSize then .error .headersTooLarge else .error .incompleteHeaders
      | some headerEnd =>
        if requestLineEnd > headerEnd then .error .invalidRequestLine
        else parseRequestHead input requestLineEnd headerEnd

end Http

end BareProxy
