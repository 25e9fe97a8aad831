import BareProxy.Http.Request

/-!
# BareProxy's own responses

The response side of `http.rs`, used for the error pages.
-/

namespace BareProxy.Http

inductive StatusCode
  | ok
  | badRequest
  | notFound
  | methodNotAllowed
  | contentTooLarge
  | requestHeaderFieldsTooLarge
  | internalServerError
  | badGateway
  | serviceUnavailable
  | gatewayTimeout
  deriving DecidableEq, Repr

def StatusCode.code : StatusCode → Nat
  | .ok => 200
  | .badRequest => 400
  | .notFound => 404
  | .methodNotAllowed => 405
  | .contentTooLarge => 413
  | .requestHeaderFieldsTooLarge => 431
  | .internalServerError => 500
  | .badGateway => 502
  | .serviceUnavailable => 503
  | .gatewayTimeout => 504

def StatusCode.reasonPhrase : StatusCode → String
  | .ok => "OK"
  | .badRequest => "Bad Request"
  | .notFound => "Not Found"
  | .methodNotAllowed => "Method Not Allowed"
  | .contentTooLarge => "Content Too Large"
  | .requestHeaderFieldsTooLarge => "Request Header Fields Too Large"
  | .internalServerError => "Internal Server Error"
  | .badGateway => "Bad Gateway"
  | .serviceUnavailable => "Service Unavailable"
  | .gatewayTimeout => "Gateway Timeout"

inductive ResponseError
  | invalidHeaderName
  | invalidHeaderValue
  | managedHeader (name : Bytes)
  deriving DecidableEq, Repr

/-- `Display`. -/
def ResponseError.message : ResponseError → String
  | .invalidHeaderName => "invalid HTTP response header name"
  | .invalidHeaderValue => "invalid HTTP response header value"
  | .managedHeader name =>
    "BareProxy manages response header: " ++ (String.fromUTF8? ⟨name.toArray⟩).getD ""

structure Response where
  status : StatusCode
  headers : List Header
  body : Bytes
  deriving DecidableEq, Repr

def validateResponseHeader (name value : Bytes) : Except ResponseError Unit :=
  if eqIgnoreAsciiCase name (ascii "content-length") || eqIgnoreAsciiCase name (ascii "transfer-encoding") then
    .error (.managedHeader name)
  else if name.isEmpty || !name.all isTokenByte then .error .invalidHeaderName
  else if !value.all isValidHeaderValueByte then .error .invalidHeaderValue
  else .ok ()

def Response.new (status : StatusCode) (body : Bytes) : Response := { status, headers := [], body }

def Response.withHeader (response : Response) (name value : Bytes) : Except ResponseError Response := do
  validateResponseHeader name value
  return { response with headers := response.headers ++ [{ name, value }] }

def Response.serialize (response : Response) : Except ResponseError Bytes := do
  response.headers.forM fun header => validateResponseHeader header.name header.value
  return ascii "HTTP/1.1 " ++ decimal response.status.code ++ ascii " " ++ ascii response.status.reasonPhrase ++ crlf
    ++ response.headers.flatMap (fun header => header.name ++ ascii ": " ++ header.value ++ crlf)
    ++ ascii "Content-Length: " ++ decimal response.body.length ++ crlf
    ++ crlf
    ++ response.body

end BareProxy.Http
