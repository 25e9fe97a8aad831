import BareProxy.Tls.ErrorText
import BareProxy.Tls.ServerHello

/-!
# Texts of handshake errors

`Display` of the errors of a handshake and of the errors inside them, as `to_string` prints them into an `io::Error`.
-/

namespace BareProxy.Tls

open P256 Crypto

/-- `{:02x}`. -/
def hexTwo (n : Nat) : String :=
  let digits := Nat.toDigits 16 n
  String.ofList (List.replicate (2 - digits.length) '0' ++ digits)

def p256PointErrorText : P256PointError → String
  | .invalidEncodingLength length =>
    "P-256 uncompressed point must contain 65 bytes, got " ++ toString length
  | .unsupportedEncoding firstByte => "unsupported P-256 point encoding prefix 0x" ++ hexTwo firstByte.toNat
  | .coordinateOutOfRange => "P-256 point coordinate is outside the field"
  | .pointNotOnCurve => "P-256 point is not on the curve"
  | .identityCannotBeEncoded => "P-256 identity point has no uncompressed public-key encoding"

def p256EcdhErrorText : P256EcdhError → String
  | .zeroPrivateScalar => "P-256 ECDH private scalar cannot be zero"
  | .identityPeerPublicKey => "P-256 ECDH peer public key cannot be the identity"
  | .sharedPointAtInfinity => "P-256 ECDH produced the identity point"

def p256EcdsaErrorText : P256EcdsaError → String
  | .zeroPrivateScalar => "P-256 ECDSA private scalar cannot be zero"
  | .invalidR => "P-256 ECDSA r must be in the range [1, n-1]"
  | .invalidS => "P-256 ECDSA s must be in the range [1, n-1]"

def hkdfErrorText : HkdfError → String
  | .prkTooShort length =>
    "HKDF-SHA256 PRK must be at least " ++ toString sha256DigestSize ++ " bytes, got " ++ toString length
  | .outputTooLong length =>
    "HKDF-SHA256 output cannot exceed " ++ toString hkdfMaxOutputSize ++ " bytes, got " ++ toString length
  | .tlsLabelEmpty => "TLS 1.3 HKDF label cannot be empty"
  | .tlsLabelTooLong length =>
    "TLS 1.3 HKDF label cannot exceed " ++ toString tls13MaxLabelSize ++ " bytes, got " ++ toString length
  | .tlsContextTooLong length =>
    "TLS 1.3 HKDF context cannot exceed " ++ toString tls13MaxContextSize ++ " bytes, got " ++ toString length

def TlsHandshakeError.text : TlsHandshakeError → String
  | .truncated => "truncated TLS handshake structure"
  | .unexpectedHandshakeType messageType =>
    "expected TLS ClientHello handshake type 1, got " ++ toString messageType
  | .handshakeLengthMismatch declared actual =>
    "TLS handshake declares " ++ toString declared ++ " body bytes but contains " ++ toString actual
  | .invalidLegacyVersion version =>
    "TLS 1.3 ClientHello legacy_version must be 0x0303, got 0x" ++ hexFour version
  | .invalidSessionIdLength length =>
    "TLS ClientHello legacy_session_id is " ++ toString length ++ " bytes, exceeding 32"
  | .invalidCipherSuiteVector length =>
    "TLS ClientHello cipher suite vector has invalid length " ++ toString length
  | .invalidCompressionMethods =>
    "TLS 1.3 ClientHello legacy_compression_methods must contain exactly the null method"
  | .missingExtensions => "TLS 1.3 ClientHello contains no extension block"
  | .malformedVector field => "malformed TLS ClientHello " ++ field ++ " vector"
  | .duplicateExtension extensionType => "TLS ClientHello repeats extension type " ++ toString extensionType
  | .tls13Required => "BareProxy requires TLS 1.3 but ClientHello does not offer version 0x0304"
  | .missingRequiredExtension extensionType =>
    "TLS 1.3 ClientHello is missing required extension type " ++ toString extensionType
  | .preSharedKeyNotLast => "TLS ClientHello pre_shared_key extension must be the final extension"
  | .invalidServerName => "invalid TLS server_name host_name value"
  | .duplicateServerName => "TLS server_name list repeats a name type"
  | .duplicateKeyShareGroup group =>
    "TLS ClientHello contains multiple key shares for group 0x" ++ hexFour group
  | .keyShareGroupNotOffered group =>
    "TLS ClientHello key share group 0x" ++ hexFour group ++ " is absent from supported_groups"
  | .keyShareOrderMismatch => "TLS ClientHello key shares do not preserve supported_groups ordering"
  | .invalidAlpn => "invalid application_layer_protocol_negotiation extension"

def TlsServerHandshakeError.text : TlsServerHandshakeError → String
  | .clientHello error => "invalid ClientHello: " ++ error.text
  | .unsupportedCipherSuite => "client does not offer TLS_CHACHA20_POLY1305_SHA256"
  | .unsupportedGroup => "client does not support the P-256 key exchange group"
  | .unsupportedSignatureAlgorithm => "client does not support ecdsa_secp256r1_sha256"
  | .noApplicationProtocol => "client ALPN list contains no protocol supported by BareProxy"
  | .helloRetryRequired group =>
    "client supports group 0x" ++ hexFour group ++
      " but did not provide a usable key share; HelloRetryRequest is required"
  | .invalidRetryClientHello => "retried TLS ClientHello changed fields not permitted after HelloRetryRequest"
  | .invalidRetryKeyShare => "retried TLS ClientHello does not contain exactly one P-256 key share"
  | .invalidP256KeyShare error => "invalid client P-256 key share: " ++ p256PointErrorText error
  | .serverPublicKey error => "failed to encode server P-256 key share: " ++ p256PointErrorText error
  | .random error => "failed to generate TLS handshake randomness: " ++ error.message
  | .ecdh error => "P-256 ECDH failed: " ++ p256EcdhErrorText error
  | .signing error => "TLS CertificateVerify signing failed: " ++ p256EcdsaErrorText error
  | .keySchedule error => "TLS 1.3 key schedule failed: " ++ hkdfErrorText error
  | .recordProtection error => "TLS handshake record protection failed: " ++ error.text
  | .emptyCertificateChain => "TLS server certificate chain cannot be empty"
  | .emptyCertificate index =>
    "TLS certificate chain entry " ++ toString index ++ " contains no DER certificate bytes"
  | .certificateTooLong index length =>
    "TLS certificate chain entry " ++ toString index ++ " is " ++ toString length ++ " bytes and exceeds uint24"
  | .certificateListTooLong length =>
    "TLS Certificate certificate_list is " ++ toString length ++ " bytes and exceeds uint24"
  | .authenticationAlreadyStarted => "TLS server authentication flight was already started"
  | .serverAuthenticationRequired => "TLS server authentication must finish before client Finished"
  | .unexpectedClientFinishedContentType contentType =>
    "expected encrypted client Finished handshake data, got " ++ contentType.debug
  | .invalidClientFinished => "malformed TLS client Finished message"
  | .clientFinishedMismatch => "TLS client Finished verification failed"
  | .handshakeMessageTooLong length =>
    "TLS handshake message body is " ++ toString length ++ " bytes and exceeds uint24"

def tlsClientHelloBuildErrorText : TlsClientHelloBuildError → String
  | .invalidServerName => "invalid TLS client SNI server name"
  | .zeroPrivateKey => "TLS client P-256 private key cannot be zero"
  | .publicKey error => "failed to encode TLS client P-256 key share: " ++ p256PointErrorText error

def TlsClientHandshakeError.text : TlsClientHandshakeError → String
  | .clientHello error => "failed to build ClientHello: " ++ tlsClientHelloBuildErrorText error
  | .random error => "failed to generate TLS client randomness: " ++ error.message
  | .serverHello error => "invalid ServerHello: " ++ error.text
  | .unexpectedServerHelloType messageType =>
    "expected TLS ServerHello handshake type 2, got " ++ toString messageType
  | .serverHelloLengthMismatch declared actual =>
    "TLS ServerHello declares " ++ toString declared ++ " body bytes but contains " ++ toString actual
  | .invalidServerHelloLegacyVersion version =>
    "TLS 1.3 ServerHello legacy_version must be 0x0303, got 0x" ++ hexFour version
  | .invalidServerHelloSessionIdLength length =>
    "TLS ServerHello legacy_session_id_echo is " ++ toString length ++ " bytes, exceeding 32"
  | .helloRetryRequestUnsupported => "TLS client HelloRetryRequest handling is not implemented yet"
  | .legacySessionIdMismatch => "TLS ServerHello legacy_session_id_echo does not match ClientHello"
  | .unsupportedCipherSuite cipherSuite =>
    "TLS server selected unsupported cipher suite 0x" ++ hexFour cipherSuite
  | .invalidCompressionMethod method =>
    "TLS 1.3 ServerHello legacy_compression_method must be zero, got " ++ toString method
  | .duplicateServerHelloExtension extensionType =>
    "TLS ServerHello repeats extension type " ++ toString extensionType
  | .unexpectedServerHelloExtension extensionType =>
    "TLS ServerHello contains unexpected extension type " ++ toString extensionType
  | .missingServerHelloExtension extensionType =>
    "TLS ServerHello is missing required extension type " ++ toString extensionType
  | .invalidSelectedVersion version =>
    "TLS server selected unsupported protocol version 0x" ++ hexFour version
  | .invalidServerKeyShareGroup group => "TLS server selected unsupported key-share group 0x" ++ hexFour group
  | .invalidServerKeyShare error => "invalid TLS server P-256 key share: " ++ p256PointErrorText error
  | .ecdh error => "TLS client P-256 ECDH failed: " ++ p256EcdhErrorText error
  | .keySchedule error => "TLS client handshake key schedule failed: " ++ hkdfErrorText error
  | .recordProtection error => "TLS client handshake record protection failed: " ++ error.text
  | .unexpectedProtectedContentType contentType =>
    "expected protected TLS handshake content, got " ++ contentType.debug

end BareProxy.Tls
