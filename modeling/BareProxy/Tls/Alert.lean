import BareProxy.Base.Bytes

/-!
# Alert descriptions

`TlsAlertDescription` of `tls.rs` with its codes.
-/

namespace BareProxy.Tls

inductive TlsAlertDescription
  | closeNotify
  | unexpectedMessage
  | badRecordMac
  | recordOverflow
  | handshakeFailure
  | badCertificate
  | unsupportedCertificate
  | certificateRevoked
  | certificateExpired
  | certificateUnknown
  | illegalParameter
  | unknownCa
  | accessDenied
  | decodeError
  | decryptError
  | protocolVersion
  | insufficientSecurity
  | internalError
  | inappropriateFallback
  | userCanceled
  | missingExtension
  | unsupportedExtension
  | unrecognizedName
  | badCertificateStatusResponse
  | unknownPskIdentity
  | certificateRequired
  | generalError
  | noApplicationProtocol
  | unknown (value : Byte)
  deriving DecidableEq, Repr

namespace TlsAlertDescription

/-- The descriptions that have a code of their own. -/
def codes : List (Byte × TlsAlertDescription) :=
  [(0, closeNotify), (10, unexpectedMessage), (20, badRecordMac), (22, recordOverflow), (40, handshakeFailure),
    (42, badCertificate), (43, unsupportedCertificate), (44, certificateRevoked), (45, certificateExpired),
    (46, certificateUnknown), (47, illegalParameter), (48, unknownCa), (49, accessDenied), (50, decodeError),
    (51, decryptError), (70, protocolVersion), (71, insufficientSecurity), (80, internalError),
    (86, inappropriateFallback), (90, userCanceled), (109, missingExtension), (110, unsupportedExtension),
    (112, unrecognizedName), (113, badCertificateStatusResponse), (115, unknownPskIdentity),
    (116, certificateRequired), (117, generalError), (120, noApplicationProtocol)]

def fromCode (value : Byte) : TlsAlertDescription := (codes.lookup value).getD (.unknown value)

def code : TlsAlertDescription → Byte
  | .closeNotify => 0
  | .unexpectedMessage => 10
  | .badRecordMac => 20
  | .recordOverflow => 22
  | .handshakeFailure => 40
  | .badCertificate => 42
  | .unsupportedCertificate => 43
  | .certificateRevoked => 44
  | .certificateExpired => 45
  | .certificateUnknown => 46
  | .illegalParameter => 47
  | .unknownCa => 48
  | .accessDenied => 49
  | .decodeError => 50
  | .decryptError => 51
  | .protocolVersion => 70
  | .insufficientSecurity => 71
  | .internalError => 80
  | .inappropriateFallback => 86
  | .userCanceled => 90
  | .missingExtension => 109
  | .unsupportedExtension => 110
  | .unrecognizedName => 112
  | .badCertificateStatusResponse => 113
  | .unknownPskIdentity => 115
  | .certificateRequired => 116
  | .generalError => 117
  | .noApplicationProtocol => 120
  | .unknown value => value

def isClosure : TlsAlertDescription → Bool
  | .closeNotify | .userCanceled => true
  | _ => false

end TlsAlertDescription

end BareProxy.Tls
