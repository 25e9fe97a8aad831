import BareProxy.Base.IpAddr
import BareProxy.Config.Route

/-!
# Reading the configuration

The configuration is read line by line into the settings, the routes and the pairs of TLS identity files. Each setting
may stand once, a hostname may have one route, and a pair of files may be named once; everything else about a line is
decided by the line alone. Messages are texts with the values they quote.
-/

namespace BareProxy

namespace Config

def defaultMaxConnections : Nat := 128

def defaultClientIdleTimeoutSeconds : Nat := 30

def defaultUpstreamTimeoutSeconds : Nat := 10

def defaultHttpsListenAddr : Bytes := ascii "127.0.0.1:8443"

/-- `ConfigError::Line`. -/
structure LineError where
  line : Nat
  message : Bytes
  deriving DecidableEq, Repr

/-! ### TLS identity files -/

/-- `Path::components` on Unix: empty parts are left out, and so is a dot that is not the first part. -/
def pathComponents (path : Bytes) : List Bytes :=
  let parts := path.splitOn 47
  (if path.head? = some 47 then [ascii "/"] else if parts.head? = some (ascii ".") then [ascii "."] else []) ++
    parts.filter fun part => part ≠ [] ∧ part ≠ ascii "."

structure TlsIdentityFiles where
  certificatePath : Bytes
  privateKeyPath : Bytes
  deriving DecidableEq, Repr

/-- `==`: paths are equal when their components are. -/
def TlsIdentityFiles.sameFiles (left right : TlsIdentityFiles) : Bool :=
  pathComponents left.certificatePath == pathComponents right.certificatePath &&
    pathComponents left.privateKeyPath == pathComponents right.privateKeyPath

def parseTlsIdentityFiles (input : Bytes) : Except Bytes TlsIdentityFiles := do
  let syntaxError := ascii "tls_identity must use `certificate.pem | private-key.pem`"
  let (certificatePath, privateKeyPath) ← okOr syntaxError (splitOnce (ascii "|") input)
  if privateKeyPath.contains 124 then .error syntaxError
  else
    let certificatePath := trim certificatePath
    let privateKeyPath := trim privateKeyPath
    if certificatePath.isEmpty || privateKeyPath.isEmpty then .error syntaxError
    else .ok { certificatePath, privateKeyPath }

/-! ### Settings -/

def parseHttpsListenAddr (input : Bytes) : Except Bytes Bytes :=
  let error := ascii "https_listen must be an IP address and port"
  if input.isEmpty then .error error else okOr error (normalizeSocketAddr input)

/-- A positive decimal number of 64 bits. -/
def parsePositive (name : String) (value : Bytes) : Except Bytes Nat :=
  let error := ascii name ++ ascii " must be a positive integer"
  if value.isEmpty || !value.all isAsciiDigit then .error error
  else do
    let value ← okOr error (parseU64 value)
    if value = 0 then .error error else .ok value

def parseMaxConnections (value : Bytes) : Except Bytes Nat := parsePositive "max_connections" value

def parseClientIdleTimeoutSeconds (value : Bytes) : Except Bytes Nat :=
  parsePositive "client_idle_timeout_seconds" value

def parseUpstreamTimeoutSeconds (value : Bytes) : Except Bytes Nat := parsePositive "upstream_timeout_seconds" value

/-! ### Upstreams -/

def normalizeUpstreamHost (host : Bytes) : Option Bytes :=
  let host := trim host
  if host.isEmpty then none
  else match parseIpAddr host with
    | some address => some (displayIpAddr address)
    | none => normalizeHostname host

def parsePort (port : Bytes) : Except Bytes Nat :=
  if port.isEmpty || !port.all isAsciiDigit then .error (ascii "invalid upstream port")
  else do
    let port ← okOr (ascii "upstream port must be between 1 and 65535") (parseU16 port)
    if port = 0 then .error (ascii "upstream port must be between 1 and 65535") else .ok port

/-- `[address]:port`, behind its first bracket. -/
def parseBracketedUpstream (rest : Bytes) : Except Bytes (Bytes × Bytes) := do
  let closing ← okOr (ascii "invalid bracketed upstream address") (rest.idxOf? 93)
  let host := rest.take closing
  match rest.drop (closing + 1) with
  | 58 :: port => do
      let address ← okOr (ascii "invalid bracketed IP address") (parseIpAddr host)
      if address.length = 4 then .error (ascii "bracketed upstream address must be IPv6") else .ok (host, port)
  | _ => .error (ascii "upstream port is required after `]`")

def parseUpstream (input : Bytes) : Except Bytes Upstream := do
  if input.isEmpty then .error (ascii "missing upstream")
  else
    let (host, port) ← match input with
      | 91 :: rest => parseBracketedUpstream rest
      | _ => do
          let (host, port) ← okOr (ascii "upstream must include a port") (rsplitOnce 58 input)
          if host.contains 58 then .error (ascii "IPv6 upstreams must use `[address]:port` syntax")
          else do
            let host ← okOr (ascii "invalid upstream host") (normalizeUpstreamHost host)
            .ok (host, port)
    let port ← parsePort port
    .ok { host, port }

/-! ### Lines -/

def stripComment (line : Bytes) : Bytes := ((splitOnce (ascii "#") line).map Prod.fst).getD line

/-- What `parse_with_tls` has read so far. -/
structure ParseState where
  routes : List Route
  tlsIdentityFiles : List TlsIdentityFiles
  /-- The set of hostnames with a route. -/
  hostnames : List Bytes
  maxConnections : Nat
  maxConnectionsSet : Bool
  clientIdleTimeoutSeconds : Nat
  clientIdleTimeoutSet : Bool
  upstreamTimeoutSeconds : Nat
  upstreamTimeoutSet : Bool
  httpsListenAddr : Bytes
  httpsListenSet : Bool
  deriving DecidableEq, Repr

def ParseState.new : ParseState where
  routes := []
  tlsIdentityFiles := []
  hostnames := []
  maxConnections := defaultMaxConnections
  maxConnectionsSet := false
  clientIdleTimeoutSeconds := defaultClientIdleTimeoutSeconds
  clientIdleTimeoutSet := false
  upstreamTimeoutSeconds := defaultUpstreamTimeoutSeconds
  upstreamTimeoutSet := false
  httpsListenAddr := defaultHttpsListenAddr
  httpsListenSet := false

/-- The value of a line `directive = value` with this directive. -/
def directiveValue (directive : String) (line : Bytes) : Option Bytes :=
  match splitOnce (ascii "=") line with
  | some (name, value) => if trim name = ascii directive then some (trim value) else none
  | none => none

/-- A setting that was read before is not read again. -/
def setOnce {α : Type} (directive : String) (alreadySet : Bool) (parsed : Except Bytes α) : Except Bytes α :=
  if alreadySet then .error (ascii "duplicate " ++ ascii directive ++ ascii " setting") else parsed

namespace ParseState

def addTlsIdentity (state : ParseState) (value : Bytes) : Except Bytes ParseState := do
  let identityFiles ← parseTlsIdentityFiles value
  if state.tlsIdentityFiles.any (identityFiles.sameFiles ·) then
    .error (ascii "duplicate tls_identity certificate/key pair")
  else .ok { state with tlsIdentityFiles := state.tlsIdentityFiles ++ [identityFiles] }

def addHttpsListen (state : ParseState) (value : Bytes) : Except Bytes ParseState := do
  let httpsListenAddr ← setOnce "https_listen" state.httpsListenSet (parseHttpsListenAddr value)
  .ok { state with httpsListenAddr, httpsListenSet := true }

def addMaxConnections (state : ParseState) (value : Bytes) : Except Bytes ParseState := do
  let maxConnections ← setOnce "max_connections" state.maxConnectionsSet (parseMaxConnections value)
  .ok { state with maxConnections, maxConnectionsSet := true }

def addClientIdleTimeout (state : ParseState) (value : Bytes) : Except Bytes ParseState := do
  let clientIdleTimeoutSeconds ←
    setOnce "client_idle_timeout_seconds" state.clientIdleTimeoutSet (parseClientIdleTimeoutSeconds value)
  .ok { state with clientIdleTimeoutSeconds, clientIdleTimeoutSet := true }

def addUpstreamTimeout (state : ParseState) (value : Bytes) : Except Bytes ParseState := do
  let upstreamTimeoutSeconds ←
    setOnce "upstream_timeout_seconds" state.upstreamTimeoutSet (parseUpstreamTimeoutSeconds value)
  .ok { state with upstreamTimeoutSeconds, upstreamTimeoutSet := true }

def addRoute (state : ParseState) (line : Bytes) : Except Bytes ParseState := do
  let (hostname, upstream) ← okOr (ascii "expected `hostname -> upstream:port`") (splitOnce (ascii "->") line)
  if (indexOfSub (ascii "->") upstream).isSome then .error (ascii "route contains more than one `->` separator")
  else do
    let hostname ← okOr (ascii "invalid route hostname") (normalizeHostname (trim hostname))
    if state.hostnames.contains hostname then .error (ascii "duplicate route for " ++ hostname)
    else do
      let upstream ← parseUpstream (trim upstream)
      .ok { state with
        routes := state.routes ++ [{ hostname, upstream }]
        hostnames := state.hostnames ++ [hostname] }

/-- One turn of the loop of `parse_with_tls`. -/
def addLine (state : ParseState) (rawLine : Bytes) : Except Bytes ParseState :=
  let line := trim (stripComment rawLine)
  if line.isEmpty then .ok state
  else match directiveValue "tls_identity" line with
  | some value => state.addTlsIdentity value
  | none => match directiveValue "https_listen" line with
  | some value => state.addHttpsListen value
  | none => match directiveValue "max_connections" line with
  | some value => state.addMaxConnections value
  | none => match directiveValue "client_idle_timeout_seconds" line with
  | some value => state.addClientIdleTimeout value
  | none => match directiveValue "upstream_timeout_seconds" line with
  | some value => state.addUpstreamTimeout value
  | none => state.addRoute line

def config (state : ParseState) : Config where
  routes := state.routes
  maxConnections := state.maxConnections
  clientIdleTimeoutSeconds := state.clientIdleTimeoutSeconds
  upstreamTimeoutSeconds := state.upstreamTimeoutSeconds
  httpsListenAddr := state.httpsListenAddr

end ParseState

def parseWithTls (input : Bytes) : Except LineError (Config × List TlsIdentityFiles) := do
  let state ← (textLines input).zipIdx.foldlM (fun state (rawLine, index) =>
    mapErr (fun message => ⟨index + 1, message⟩) (state.addLine rawLine)) ParseState.new
  .ok (state.config, state.tlsIdentityFiles)

end Config

end BareProxy
