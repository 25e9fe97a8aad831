import BareProxy.Der.CertificateRequest
import BareProxy.Der.Time

/-!
# Certificates

`parse_x509_certificate_der` of `asn1.rs`: the validity, the DNS names and the public key of a certificate.
-/

namespace BareProxy.Der

def derTagBoolean : Byte := 0x01

structure X509Validity where
  notBefore : X509Time
  notAfter : X509Time
deriving DecidableEq, Repr

structure X509CertificateInfo where
  validity : X509Validity
  dnsNames : List Bytes
  publicKey : X509PublicKeyInfo
deriving DecidableEq, Repr

def parseX509Validity (validity : DerValue) : Except DerError X509Validity := do
  let (notBefore, reader) ← validity.reader.readTlv
  let notBefore ← parseX509Time notBefore
  let (notAfter, reader) ← reader.readTlv
  let notAfter ← parseX509Time notAfter
  reader.finish
  return ⟨notBefore, notAfter⟩

/-- Whether the names were met already, and the names. -/
structure NamesState where
  seen : Bool
  dnsNames : List Bytes
deriving DecidableEq, Repr

/-- The value of an extension, with or without the flag in front of it. -/
def readExtensionValue (extension : DerReader) : Except DerError (DerValue × DerReader) := do
  let (next, extension) ← extension.readTlv
  if next.tag = derTagBoolean then do
    ensure (next.content = [0x00] ∨ next.content = [0xff]) .invalidCertificate
    extension.readExpected derTagOctetString
  else do
    ensure (next.tag = derTagOctetString) .invalidCertificate
    return (next, extension)

/-- One turn of the loop over the extensions. -/
def readExtension (state : NamesState) (extension : DerValue) : Except DerError NamesState := do
  ensure (extension.tag = derTagSequence) (.unexpectedTag derTagSequence extension.tag)
  let (oid, reader) ← extension.reader.readExpected derTagObjectIdentifier
  let (extensionValue, reader) ← readExtensionValue reader
  reader.finish
  if oid.content = oidSubjectAltNameContent then do
    ensure (¬state.seen) .invalidCertificate
    let dnsNames ← parseX509SubjectAltName extensionValue.content
    return ⟨true, dnsNames⟩
  else return state

def parseX509Extensions (content : Bytes) : Except DerError (List Bytes) := do
  let (extensions, explicit) ← (DerReader.new content).readExpected derTagSequence
  explicit.finish
  let state ← extensions.reader.readAll readExtension ⟨false, []⟩
  return state.dnsNames

/-- The version and the serial number. A certificate that names no version has version 1, which is written 0. -/
def readVersion (tbs : DerReader) : Except DerError (Byte × DerReader) := do
  let (first, tbs) ← tbs.readTlv
  if first.tag = 0xa0 then do
    let (versionValue, version) ← first.reader.readIntegerUnsigned
    version.finish
    ensure (versionValue.length = 1 ∧ versionValue.headD 0 ≤ 2) .invalidCertificate
    let (serialNumber, tbs) ← tbs.readExpected derTagInteger
    ensure (serialNumber.content ≠ []) .invalidCertificate
    return (versionValue.headD 0, tbs)
  else do
    ensure (first.tag = derTagInteger ∧ first.content ≠ []) .invalidCertificate
    return (0, tbs)

/-- One turn of the loop over what may follow the public key. -/
def readOptionalField (version : Byte) (state : NamesState) (optional : DerValue) : Except DerError NamesState :=
  if optional.tag = 0x81 ∨ optional.tag = 0x82 then .ok state
  else if optional.tag = 0xa3 then do
    ensure (¬state.seen ∧ version = 2) .invalidCertificate
    let dnsNames ← parseX509Extensions optional.content
    return ⟨true, dnsNames⟩
  else .error .invalidCertificate

def parseTbsCertificate (tbs : DerReader) : Except DerError X509CertificateInfo := do
  let (version, tbs) ← readVersion tbs
  let (_, tbs) ← tbs.readExpected derTagSequence
  let (_, tbs) ← tbs.readExpected derTagSequence
  let (validity, tbs) ← tbs.readExpected derTagSequence
  let validity ← parseX509Validity validity
  let (_, tbs) ← tbs.readExpected derTagSequence
  let (publicKey, tbs) ← tbs.readExpected derTagSequence
  let publicKey ← parseX509PublicKeyInfo publicKey
  let state ← tbs.readAll (readOptionalField version) ⟨false, []⟩
  return ⟨validity, state.dnsNames, publicKey⟩

def parseX509CertificateDer (der : Bytes) : Except DerError X509CertificateInfo := do
  let (certificate, outer) ← (DerReader.new der).readExpected derTagSequence
  outer.finish
  let (tbsCertificate, certificate) ← certificate.reader.readExpected derTagSequence
  let (_, certificate) ← certificate.readExpected derTagSequence
  let (signature, certificate) ← certificate.readExpected derTagBitString
  ensure (signature.content.head? = some 0) .invalidCertificate
  certificate.finish
  parseTbsCertificate tbsCertificate.reader

/-! ### Certificates as they are written -/

/-- An extension. The names are GeneralNames, of which those with the tag 0x82 are DNS names. -/
inductive CertificateExtension where
  | subjectAltName (critical : Option Bool) (names : List DerValue)
  | other (oid : List Nat) (critical : Option Bool) (value : Bytes)
deriving DecidableEq, Repr

namespace CertificateExtension

def oid : CertificateExtension → List Nat
  | subjectAltName _ _ => oidSubjectAltName
  | other oid _ _ => oid

def critical : CertificateExtension → Option Bool
  | subjectAltName critical _ => critical
  | other _ critical _ => critical

def value : CertificateExtension → Bytes
  | subjectAltName _ names => derSequence (names.map DerValue.encode)
  | other _ _ value => value

def dnsNames : CertificateExtension → List Bytes
  | subjectAltName _ names => (names.filter (·.tag = 0x82)).map DerValue.content
  | other _ _ _ => []

/-- The flag, where there is one. -/
def flag (extension : CertificateExtension) : List Bytes :=
  extension.critical.toList.map fun critical => derWrap derTagBoolean [if critical then 0xff else 0x00]

def der (extension : CertificateExtension) : Except DerError Bytes := do
  let identifier ← derObjectIdentifier extension.oid
  return derSequence ([identifier] ++ extension.flag ++ [derOctetString extension.value])

/-- Names have low tags, those of hosts are valid ones, and only the names go by the name of SubjectAltName. -/
def WellFormed : CertificateExtension → Prop
  | subjectAltName _ names => ∀ name ∈ names, name.tag &&& derHighTagNumber ≠ derHighTagNumber ∧
      (name.tag = 0x82 → validateDnsName name.content = .ok ())
  | other oid _ _ => oid ≠ oidSubjectAltName ∧ ∀ arc ∈ oid, arc ≤ u64Max

end CertificateExtension

/-- What a certificate of version 3 is assembled from. Of a sequence that nobody reads there is the content. -/
structure X509Certificate where
  serialNumber : Bytes
  signatureAlgorithm : Bytes
  issuer : Bytes
  notBefore : X509Time
  notBeforeForm : TimeForm
  notAfter : X509Time
  notAfterForm : TimeForm
  subject : Bytes
  publicKey : P256.P256Point
  issuerUniqueId : Option Bytes
  subjectUniqueId : Option Bytes
  extensions : Option (List CertificateExtension)
  algorithm : Bytes
  signature : Bytes

namespace X509Certificate

structure WellFormed (certificate : X509Certificate) : Prop where
  serialNumber : certificate.serialNumber ≠ []
  notBefore : certificate.notBefore.Valid
  notBeforeForm : certificate.notBeforeForm.Covers certificate.notBefore
  notAfter : certificate.notAfter.Valid
  notAfterForm : certificate.notAfterForm.Covers certificate.notAfter
  publicKey : certificate.publicKey.isOnCurve = true
  publicKeyIdentity : certificate.publicKey.isIdentity = false
  extensions : ∀ extension ∈ certificate.extensions.getD [], extension.WellFormed
  distinct : ((certificate.extensions.getD []).map CertificateExtension.oid).Nodup

def dnsNames (certificate : X509Certificate) : List Bytes :=
  (certificate.extensions.getD []).flatMap CertificateExtension.dnsNames

/-- The fields behind the public key. -/
def optionalFields (certificate : X509Certificate) : Except DerError (List Bytes) := do
  let extensions ← certificate.extensions.toList.mapM fun extensions => do
    let elements ← extensions.mapM CertificateExtension.der
    derContextSpecific 3 true (derSequence elements)
  return certificate.issuerUniqueId.toList.map (derWrap 0x81) ++ certificate.subjectUniqueId.toList.map (derWrap 0x82) ++
    extensions

def der (certificate : X509Certificate) : Except DerError Bytes := do
  let version ← derContextSpecific 0 true (derIntegerUnsigned [2])
  let publicKey ← encodeP256SpkiDer certificate.publicKey
  let optionalFields ← certificate.optionalFields
  let validity := derSequence [(certificate.notBefore.value certificate.notBeforeForm).encode,
    (certificate.notAfter.value certificate.notAfterForm).encode]
  let tbsCertificate := derSequence ([version, derWrap derTagInteger certificate.serialNumber,
    derWrap derTagSequence certificate.signatureAlgorithm, derWrap derTagSequence certificate.issuer, validity,
    derWrap derTagSequence certificate.subject, publicKey] ++ optionalFields)
  return derSequence [tbsCertificate, derWrap derTagSequence certificate.algorithm, derBitString certificate.signature]

end X509Certificate

end BareProxy.Der
