import BareProxy.Tls.Record

/-!
# Texts of record errors

`Display` of `TlsRecordError` and of the errors inside it, as `to_string` prints them into an `io::Error`.
-/

namespace BareProxy.Tls

open Crypto

/-- `{:04x}`. -/
def hexFour (n : Nat) : String :=
  let digits := Nat.toDigits 16 n
  String.ofList (List.replicate (4 - digits.length) '0' ++ digits)

/-- `{:?}`. -/
def ContentType.debug : ContentType → String
  | .changeCipherSpec => "ChangeCipherSpec"
  | .alert => "Alert"
  | .handshake => "Handshake"
  | .applicationData => "ApplicationData"

/-- `{:?}`. -/
def TlsAlertDescription.debug : TlsAlertDescription → String
  | .closeNotify => "CloseNotify"
  | .unexpectedMessage => "UnexpectedMessage"
  | .badRecordMac => "BadRecordMac"
  | .recordOverflow => "RecordOverflow"
  | .handshakeFailure => "HandshakeFailure"
  | .badCertificate => "BadCertificate"
  | .unsupportedCertificate => "UnsupportedCertificate"
  | .certificateRevoked => "CertificateRevoked"
  | .certificateExpired => "CertificateExpired"
  | .certificateUnknown => "CertificateUnknown"
  | .illegalParameter => "IllegalParameter"
  | .unknownCa => "UnknownCa"
  | .accessDenied => "AccessDenied"
  | .decodeError => "DecodeError"
  | .decryptError => "DecryptError"
  | .protocolVersion => "ProtocolVersion"
  | .insufficientSecurity => "InsufficientSecurity"
  | .internalError => "InternalError"
  | .inappropriateFallback => "InappropriateFallback"
  | .userCanceled => "UserCanceled"
  | .missingExtension => "MissingExtension"
  | .unsupportedExtension => "UnsupportedExtension"
  | .unrecognizedName => "UnrecognizedName"
  | .badCertificateStatusResponse => "BadCertificateStatusResponse"
  | .unknownPskIdentity => "UnknownPskIdentity"
  | .certificateRequired => "CertificateRequired"
  | .generalError => "GeneralError"
  | .noApplicationProtocol => "NoApplicationProtocol"
  | .unknown value => "Unknown(" ++ toString value ++ ")"

def chaCha20ErrorText : ChaCha20Error → String
  | .counterExhausted counter blocks =>
    "ChaCha20 counter " ++ toString counter ++ " cannot cover " ++ toString blocks ++ " block(s)"

def chaCha20Poly1305ErrorText : ChaCha20Poly1305Error → String
  | .chaCha20 error => "ChaCha20-Poly1305 cipher failure: " ++ chaCha20ErrorText error
  | .authenticationFailed => "ChaCha20-Poly1305 authentication failed"

def TlsRecordError.text : TlsRecordError → String
  | .unknownContentType contentType => "unsupported TLS content type " ++ toString contentType
  | .recordOverflow length maximum =>
    "TLS plaintext fragment is " ++ toString length ++ " bytes, exceeding the " ++ toString maximum ++ "-byte limit"
  | .emptyHandshakeFragment => "TLS handshake records cannot contain an empty fragment"
  | .invalidAlertLength length =>
    "TLS alert record must contain exactly one 2-byte alert message, got " ++ toString length ++ " bytes"
  | .invalidChangeCipherSpec => "TLS change_cipher_spec compatibility record must contain the single byte 0x01"
  | .unprotectedApplicationData => "TLS 1.3 application data cannot be serialized unprotected"
  | .interleavedHandshake nextType => "fragmented TLS handshake message was interrupted by " ++ nextType.debug
  | .handshakeNotAligned bufferedBytes =>
    "TLS handshake has " ++ toString bufferedBytes ++ " buffered byte(s) that do not end on a message boundary"
  | .invalidCiphertextContentType contentType =>
    "TLS 1.3 ciphertext outer content type must be application_data (23), got " ++ toString contentType
  | .invalidCiphertextVersion version =>
    "TLS 1.3 ciphertext legacy record version must be 0x0303, got 0x" ++ hexFour version
  | .ciphertextOverflow length maximum =>
    "TLS ciphertext fragment is " ++ toString length ++ " bytes, exceeding the " ++ toString maximum ++ "-byte limit"
  | .ciphertextTooShort length minimum =>
    "TLS ciphertext fragment is " ++ toString length ++ " bytes, below the " ++ toString minimum ++ "-byte minimum"
  | .innerPlaintextOverflow length maximum =>
    "TLSInnerPlaintext is " ++ toString length ++ " bytes, exceeding the " ++ toString maximum ++ "-byte limit"
  | .missingInnerContentType => "TLSInnerPlaintext contains no non-zero content type"
  | .invalidInnerContentType contentType => "invalid TLSInnerPlaintext content type " ++ toString contentType
  | .sequenceNumberExhausted direction =>
    "TLS " ++ (match direction with | .read => "read" | .write => "write") ++ " record sequence number is exhausted"
  | .aead error => "TLS record AEAD failure: " ++ chaCha20Poly1305ErrorText error
  | .invalidFatalAlertDescription description =>
    "TLS closure alert " ++ description.debug ++ " cannot be sent as a fatal error alert"
  | .writeAfterCloseNotify => "TLS write side is closed after close_notify"
  | .closeNotifyAlreadySent => "TLS close_notify was already sent"
  | .connectionFailed => "TLS connection is closed after a fatal alert"
  | .unexpectedProtectedContentType contentType =>
    "unexpected protected TLS content type " ++ contentType.debug ++ " in application state"

end BareProxy.Tls
