import BareProxy.Http.Request

/-!
# Routes

The configuration as a running connection uses it: the routes, and the lookup of a request's host.
-/

namespace BareProxy

namespace Config

structure Upstream where
  host : Bytes
  port : Nat
  deriving DecidableEq, Repr

/-- `Display`: an IPv6 host is put in brackets. -/
def Upstream.address (upstream : Upstream) : Bytes :=
  if 58 ∈ upstream.host then ascii "[" ++ upstream.host ++ ascii "]:" ++ decimal upstream.port
  else upstream.host ++ ascii ":" ++ decimal upstream.port

structure Route where
  hostname : Bytes
  upstream : Upstream
  deriving DecidableEq, Repr

end Config

structure Config where
  routes : List Config.Route
  maxConnections : Nat
  clientIdleTimeoutSeconds : Nat
  upstreamTimeoutSeconds : Nat
  httpsListenAddr : Bytes
  deriving DecidableEq, Repr

namespace Config

inductive RouteLookupError
  | invalidHost
  | notFound (hostname : Bytes)
  deriving DecidableEq, Repr

def isValidHostnameLabel (label : Bytes) : Bool :=
  if label.isEmpty || label.length > 63 then false
  else if !(label.head?.any isAsciiAlphanumeric) || !(label.getLast?.any isAsciiAlphanumeric) then false
  else label.all fun b => isAsciiAlphanumeric b || b == 45

def isValidHostname (hostname : Bytes) : Bool :=
  if hostname.isEmpty || hostname.length > 253 || !isAscii hostname then false
  else (hostname.splitOn 46).all isValidHostnameLabel

def normalizeHostname (hostname : Bytes) : Option Bytes :=
  let hostname := hostname.rdropWhile (· == 46)
  if !isValidHostname hostname then none else some (toAsciiLowercase hostname)

def normalizeRequestHost (host : Bytes) : Option Bytes :=
  let host := trim host
  if host.isEmpty then none
  else match rsplitOnce 58 host with
    | some (hostname, port) =>
      if hostname.contains 58 || port.isEmpty || !port.all isAsciiDigit || (parseU16 port).isNone then none
      else normalizeHostname hostname
    | none => normalizeHostname host

def routeForHost (config : Config) (host : Bytes) : Except RouteLookupError Route :=
  match normalizeRequestHost host with
  | none => .error .invalidHost
  | some hostname => okOr (.notFound hostname) (config.routes.find? fun route => route.hostname = hostname)

end Config

end BareProxy
