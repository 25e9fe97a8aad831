import BareProxy.Proxy.Body

/-!
# Response heads

What `proxy.rs` reads from an upstream's response head and how it rewrites the head for the client. The
functions here work on the bytes of the head, as the source does; a head is cut at LF and a line loses
the CR that ends it.
-/

namespace BareProxy.Proxy

open Http

inductive ResponseTransferFraming
  | none
  | closeDelimited
  | chunked
  deriving DecidableEq, Repr

/-- `strip_suffix(b"\r").unwrap_or(line)`. -/
def stripCr (line : Bytes) : Bytes := if line.getLast? = some cr then line.dropLast else line

/-- The lines after the first. -/
def fieldLines (head : Bytes) : List Bytes := (head.splitOn lf).tail.map stripCr

def invalidResponse {α : Type} (message : String) : Except ProxyError α := .error (.invalidUpstreamResponse message)

/-! ### Status line -/

def responseStatusCode (responseHead : Bytes) : Except ProxyError Nat :=
  match findBytes responseHead crlf with
  | none => invalidResponse "response has no complete status line"
  | some lineEnd =>
    let statusLine := responseHead.take lineEnd
    match statusLine.idxOf? 32 with
    | none => invalidResponse "malformed response status line"
    | some firstSpace =>
      match ((statusLine.drop (firstSpace + 1)).idxOf? 32).map (firstSpace + 1 + ·) with
      | none => invalidResponse "malformed response status line"
      | some secondSpace =>
        let version := statusLine.take firstSpace
        let code := (statusLine.take secondSpace).drop (firstSpace + 1)
        if version ≠ ascii "HTTP/1.0" ∧ version ≠ ascii "HTTP/1.1" then
          invalidResponse "unsupported upstream HTTP version"
        else if code.length ≠ 3 ∨ !code.all isAsciiDigit then invalidResponse "invalid response status code"
        else
          let digit := fun index => (code.getD index 48).toNat - 48
          let status := digit 0 * 100 + digit 1 * 10 + digit 2
          if !(100 ≤ status && status ≤ 599) then
            invalidResponse "response status code is outside the valid range"
          else .ok status

def isInterimResponse (status : Nat) : Bool := 100 ≤ status && status < 200 && status ≠ 101

def responseHasNoBody (requestMethod : Bytes) (status : Nat) : Bool :=
  eqIgnoreAsciiCase requestMethod (ascii "HEAD") || status = 204 || status = 304

/-! ### Syntax -/

def isValidResponseFieldValueByte (b : Byte) : Bool := b == 9 || (32 ≤ b && b ≤ 126) || 128 ≤ b

/-- The scan for CR and LF outside CR LF, with the byte before. -/
def checkLineEnds (previous : Option Byte) : Bytes → Except ProxyError Unit
  | [] => .ok ()
  | b :: rest =>
    if b = lf ∧ previous ≠ some cr then invalidResponse "response contains bare LF"
    else if b = cr ∧ rest.head? ≠ some lf then invalidResponse "response contains bare CR"
    else checkLineEnds (some b) rest

/-- One line of the loop of `validate_response_head_syntax`. -/
def validateFieldLine (line : Bytes) : Except ProxyError Unit :=
  if line.isEmpty then .ok ()
  else if line.head?.any isOptionalWhitespace then
    invalidResponse "obsolete folded response header is not accepted"
  else match line.idxOf? 58 with
    | none => invalidResponse "malformed response header"
    | some separator =>
      let name := line.take separator
      let value := trimOptionalWhitespace (line.drop (separator + 1))
      if name.isEmpty || !name.all isTokenByte then invalidResponse "invalid response header name"
      else if !value.all isValidResponseFieldValueByte then invalidResponse "invalid response header value"
      else .ok ()

def validateResponseHeadSyntax (responseHead : Bytes) : Except ProxyError Unit := do
  if !(crlfCrlf.isSuffixOf responseHead) then
    invalidResponse "response head does not end with CRLF CRLF"
  else
    checkLineEnds none responseHead
    let _ ← responseStatusCode responseHead
    let statusLine := stripCr ((responseHead.splitOn lf).headD [])
    if !statusLine.all isValidResponseFieldValueByte then
      invalidResponse "response status line contains invalid bytes"
    else (fieldLines responseHead).forM validateFieldLine

/-! ### `Connection` -/

/-- One token of a `Connection` header of the response. -/
def pushConnectionToken (tokens : List Bytes) (member : Bytes) : Except ProxyError (List Bytes) :=
  let token := trimOptionalWhitespace member
  if token.isEmpty || !token.all isTokenByte then invalidResponse "invalid Connection header token"
  else if eqIgnoreAsciiCase token (ascii "content-length") || eqIgnoreAsciiCase token (ascii "transfer-encoding") then
    invalidResponse "Connection header names a response framing field"
  else .ok (tokens ++ [toAsciiLowercase token])

def pushConnectionTokens (tokens : List Bytes) (line : Bytes) : Except ProxyError (List Bytes) :=
  if line.isEmpty then .ok tokens
  else match line.idxOf? 58 with
    | none => invalidResponse "malformed response header"
    | some separator =>
      if !eqIgnoreAsciiCase (line.take separator) (ascii "connection") then .ok tokens
      else ((line.drop (separator + 1)).splitOn 44).foldlM pushConnectionToken tokens

def responseConnectionTokens (responseHead : Bytes) : Except ProxyError (List Bytes) :=
  (fieldLines responseHead).foldlM pushConnectionTokens []

def responseHeaderContainsToken (responseHead name token : Bytes) : Bool :=
  (fieldLines responseHead).any fun line =>
    match line.idxOf? 58 with
    | none => false
    | some separator =>
      eqIgnoreAsciiCase (line.take separator) name && listContainsToken (line.drop (separator + 1)) token

def responseAllowsClientReuse (responseHead : Bytes) (closeDelimited : Bool) : Bool :=
  if closeDelimited || responseHeaderContainsToken responseHead (ascii "connection") (ascii "close") then false
  else if ascii "HTTP/1.1 " <+: responseHead then true
  else responseHeaderContainsToken responseHead (ascii "connection") (ascii "keep-alive")

def downstreamConnectionHeader (responseHead : Bytes) (clientReusable : Bool) : Option Bytes :=
  if !clientReusable then some (ascii "close")
  else if ascii "HTTP/1.0 " <+: responseHead then some (ascii "keep-alive")
  else none

/-! ### The head sent to the client -/

def shouldRemoveResponseHeader (name : Bytes) (connectionTokens : List Bytes)
    (preserveTrailerHeader preserveUpgradeHeader : Bool) : Bool :=
  eqIgnoreAsciiCase name (ascii "connection") || eqIgnoreAsciiCase name (ascii "keep-alive") ||
    eqIgnoreAsciiCase name (ascii "proxy-connection") || eqIgnoreAsciiCase name (ascii "te") ||
    (eqIgnoreAsciiCase name (ascii "trailer") && !preserveTrailerHeader) ||
    (eqIgnoreAsciiCase name (ascii "upgrade") && !preserveUpgradeHeader) ||
    connectionTokens.any fun token =>
      eqIgnoreAsciiCase name token &&
        !(preserveUpgradeHeader && eqIgnoreAsciiCase name (ascii "upgrade") &&
          eqIgnoreAsciiCase token (ascii "upgrade"))

/-- One line of the loop of `sanitize_response_head`. -/
def pushSanitizedLine (connectionTokens : List Bytes) (preserveTrailerHeader preserveUpgradeHeader : Bool)
    (output line : Bytes) : Except ProxyError Bytes :=
  if line.isEmpty then .ok output
  else match line.idxOf? 58 with
    | none => invalidResponse "malformed response header"
    | some separator =>
      let name := line.take separator
      if shouldRemoveResponseHeader name connectionTokens preserveTrailerHeader preserveUpgradeHeader then
        .ok output
      else if eqIgnoreAsciiCase name (ascii "trailer") then
        match validateTrailerHeaderValue (line.drop (separator + 1)) with
        | .error message => invalidResponse message
        | .ok () => .ok (output ++ line ++ crlf)
      else .ok (output ++ line ++ crlf)

def connectionHeaderLine : Option Bytes → Bytes
  | some connectionHeader => fieldLine (ascii "Connection") connectionHeader
  | none => []

def sanitizeResponseHead (responseHead : Bytes) (connectionHeader : Option Bytes)
    (preserveTrailerHeader preserveUpgradeHeader : Bool) : Except ProxyError Bytes := do
  let connectionTokens ← responseConnectionTokens responseHead
  let statusLine := stripCr ((responseHead.splitOn lf).headD [])
  let output ← (fieldLines responseHead).foldlM
    (pushSanitizedLine connectionTokens preserveTrailerHeader preserveUpgradeHeader) (statusLine ++ crlf)
  return output ++ connectionHeaderLine connectionHeader ++ crlf

/-! ### Framing -/

/-- One member of a `Transfer-Encoding` list: its name is kept. -/
def pushCoding (codings : List Bytes) (member : Bytes) : Except ProxyError (List Bytes) :=
  let coding := trimOptionalWhitespace member
  if coding.isEmpty then invalidResponse "empty Transfer-Encoding value"
  else
    let codingName := (coding.splitOn 59).headD coding
    if eqIgnoreAsciiCase codingName (ascii "chunked") ∧ coding.length ≠ codingName.length then
      invalidResponse "chunked transfer coding cannot have parameters"
    else .ok (codings ++ [codingName])

def pushCodings (codings : List Bytes) (line : Bytes) : Except ProxyError (List Bytes) :=
  match line.idxOf? 58 with
  | none => invalidResponse "malformed response header"
  | some separator =>
    if !eqIgnoreAsciiCase (line.take separator) (ascii "transfer-encoding") then .ok codings
    else ((line.drop (separator + 1)).splitOn 44).foldlM pushCoding codings

/-- The scan of the codings for `chunked` at any place but the last. -/
def checkCodings (total index chunkedCount : Nat) : List Bytes → Except ProxyError Unit
  | [] => .ok ()
  | coding :: codings =>
    if eqIgnoreAsciiCase coding (ascii "chunked") then
      if chunkedCount + 1 > 1 ∨ index + 1 ≠ total then
        invalidResponse "chunked must appear exactly once and as the final transfer coding"
      else checkCodings total (index + 1) (chunkedCount + 1) codings
    else checkCodings total (index + 1) chunkedCount codings

def responseTransferFraming (headers : Bytes) : Except ProxyError ResponseTransferFraming := do
  let codings ← (fieldLines headers).foldlM pushCodings []
  if codings.isEmpty then .ok .none
  else
    checkCodings codings.length 0 0 codings
    if codings.getLast?.any fun coding => eqIgnoreAsciiCase coding (ascii "chunked") then .ok .chunked
    else .ok .closeDelimited

def parseResponseContentLength (contentLength : Option Nat) (line : Bytes) : Except ProxyError (Option Nat) :=
  match line.idxOf? 58 with
  | none => invalidResponse "malformed response header"
  | some separator =>
    if !eqIgnoreAsciiCase (line.take separator) (ascii "content-length") then .ok contentLength
    else if contentLength.isSome then invalidResponse "response contains multiple Content-Length fields"
    else
      let value := trimOptionalWhitespace (line.drop (separator + 1))
      if value.isEmpty || value.contains 44 || !value.all isAsciiDigit then
        invalidResponse "response contains invalid Content-Length"
      else if !validUtf8 value then invalidResponse "response contains invalid Content-Length"
      else match parseU64 value with
        | none => invalidResponse "response contains invalid Content-Length"
        | some parsed => .ok (some parsed)

def responseContentLength (headers : Bytes) : Except ProxyError (Option Nat) :=
  (fieldLines headers).foldlM parseResponseContentLength none

/-! ### Upgrades -/

def splitUpgradeProtocol (protocol : Bytes) : Bytes × Option Bytes :=
  match protocol.idxOf? 47 with
  | some index => (protocol.take index, some (protocol.drop (index + 1)))
  | none => (protocol, none)

def upgradeProtocolsMatch (left right : Bytes) : Bool :=
  let (leftName, leftVersion) := splitUpgradeProtocol left
  let (rightName, rightVersion) := splitUpgradeProtocol right
  eqIgnoreAsciiCase leftName rightName && leftVersion = rightVersion

def pushResponseUpgradeProtocols (protocols : List Bytes) (line : Bytes) : Except ProxyError (List Bytes) :=
  if line.isEmpty then .ok protocols
  else match line.idxOf? 58 with
    | none => invalidResponse "malformed response header"
    | some separator =>
      if !eqIgnoreAsciiCase (line.take separator) (ascii "upgrade") then .ok protocols
      else match parseUpgradeProtocols (line.drop (separator + 1)) with
        | .error message => invalidResponse message
        | .ok more => .ok (protocols ++ more)

def responseUpgradeProtocols (responseHead : Bytes) : Except ProxyError (List Bytes) :=
  (fieldLines responseHead).foldlM pushResponseUpgradeProtocols []

def validateSwitchingProtocolsResponse (responseHead : Bytes) (requestedProtocols : List Bytes) :
    Except ProxyError Unit :=
  if !responseHeaderContainsToken responseHead (ascii "connection") (ascii "upgrade") then
    invalidResponse "101 response is missing Connection: Upgrade"
  else do
    let selectedProtocols ← responseUpgradeProtocols responseHead
    if selectedProtocols.isEmpty then invalidResponse "101 response is missing an Upgrade protocol"
    else if !(selectedProtocols.all fun selected =>
        requestedProtocols.any fun requested => upgradeProtocolsMatch requested selected) then
      invalidResponse "101 response selected an unrequested Upgrade protocol"
    else .ok ()

end BareProxy.Proxy
