import BareProxy.Der.DnsName
import BareProxy.Der.Signature
import BareProxy.Der.Values
import BareProxy.P256.Nonces

/-!
# Certificate requests

The signed request of `asn1.rs` for a key and a list of DNS names, the parsers of its public key and its names, and the
reader that the tests check a request with. An assertion of that test that fails is an error here. The nonce loops of
the signer take the number of turns they may make.
-/

namespace BareProxy.Der

open P256

/-! ### Encoding -/

def p256AlgorithmIdentifier : Bytes :=
  derSequence [expectOk (derObjectIdentifier oidEcPublicKey) (by decide),
    expectOk (derObjectIdentifier oidSecp256r1) derObjectIdentifier_oidSecp256r1_isOk]

def ecdsaSha256AlgorithmIdentifier : Bytes :=
  derSequence [expectOk (derObjectIdentifier oidEcdsaWithSha256) (by decide)]

def encodeP256SpkiDer (publicKey : P256Point) : Except DerError Bytes := do
  let encodedPoint ← mapErr (fun _ => .invalidP256PublicKey) publicKey.toSec1Uncompressed
  return derSequence [p256AlgorithmIdentifier, derBitString encodedPoint.toList]

/-- The GeneralName of a DNS name. -/
def derDnsName (dnsName : Bytes) : Bytes :=
  expectOk (derContextSpecific 2 false dnsName) (derContextSpecific_isOk (by decide) _ _)

def encodeSubjectAltNameDns (dnsNames : List Bytes) : Except DerError Bytes :=
  if dnsNames.isEmpty then .error .invalidDnsName
  else do
    let generalNames ← dnsNames.mapM fun dnsName => do
      validateDnsName dnsName
      return derDnsName dnsName
    return derSequence generalNames

def subjectAltNameIdentifier : Bytes := expectOk (derObjectIdentifier oidSubjectAltName) (by decide)

def extensionRequestIdentifier : Bytes := expectOk (derObjectIdentifier oidExtensionRequest) (by decide)

/-- The part of a request that is signed. -/
def certificationRequestInfo (privateKey : Scalar) (dnsNames : List Bytes) : Except DerError Bytes := do
  let subjectPublicKeyInfo ← encodeP256SpkiDer (p256GeneratorMultiply privateKey)
  let subjectAltName ← encodeSubjectAltNameDns dnsNames
  let subjectAltNameExtension := derSequence [subjectAltNameIdentifier, derOctetString subjectAltName]
  let extensions := derSequence [subjectAltNameExtension]
  let extensionRequest := derSequence [extensionRequestIdentifier, derSet [extensions]]
  let attributes := expectOk (derContextSpecific 0 true (derSetContent [extensionRequest]))
    (derContextSpecific_isOk (by decide) _ _)
  return derSequence [derIntegerUnsigned [0], derSequence [], subjectPublicKeyInfo, attributes]

def encodeP256CsrDer (turns : Nat) (privateKey : Scalar) (dnsNames : List Bytes) : Option (Except DerError Bytes) :=
  if privateKey = .zero then some (.error .invalidP256PrivateKey)
  else
    match certificationRequestInfo privateKey dnsNames with
    | .error error => some (.error error)
    | .ok info =>
        match p256EcdsaSignSha256 turns privateKey info with
        | none => none
        | some (.error _) => some (.error .invalidP256PrivateKey)
        | some (.ok signature) =>
            some (.ok (derSequence [info, ecdsaSha256AlgorithmIdentifier,
              derBitString (encodeP256SignatureDer signature)]))

/-! ### Parsing -/

structure X509PublicKeyInfo where
  algorithmOid : Bytes
  subjectPublicKey : Bytes
  p256PublicKey : Option P256Point
deriving DecidableEq, Repr

/-- The parameters of an algorithm, if any. -/
def readAlgorithmParameters (algorithm : DerReader) : Except DerError (Option DerValue × DerReader) :=
  if algorithm.isEmpty then .ok (none, algorithm)
  else do
    let (parameters, algorithm) ← algorithm.readTlv
    return (some parameters, algorithm)

def parseX509PublicKeyInfo (spki : DerValue) : Except DerError X509PublicKeyInfo := do
  let (algorithm, spki) ← spki.reader.readExpected derTagSequence
  let (subjectPublicKey, spki) ← spki.readExpected derTagBitString
  spki.finish
  ensure (subjectPublicKey.content.head? = some 0) .invalidCertificate
  let (algorithmOid, algorithm) ← algorithm.reader.readExpected derTagObjectIdentifier
  let (parameters, algorithm) ← readAlgorithmParameters algorithm
  algorithm.finish
  let encodedKey := subjectPublicKey.content.drop 1
  let isP256 := algorithmOid.content = oidEcPublicKeyContent ∧
    parameters = some ⟨derTagObjectIdentifier, oidSecp256r1Content⟩
  let p256PublicKey ←
    if isP256 then do
      let publicKey ← mapErr (fun _ => .invalidP256PublicKey) (P256Point.fromSec1Uncompressed encodedKey)
      pure (some publicKey)
    else pure none
  return ⟨algorithmOid.content, encodedKey, p256PublicKey⟩

/-- One turn of the loop over the general names. Names of another kind are passed over. -/
def readGeneralName (dnsNames : List Bytes) (name : DerValue) : Except DerError (List Bytes) :=
  if name.tag ≠ 0x82 then .ok dnsNames
  else do
    ensure (isAscii name.content) .invalidDnsName
    ensure (validUtf8 name.content) .invalidDnsName
    validateDnsName name.content
    return dnsNames ++ [name.content]

def parseX509SubjectAltName (encoded : Bytes) : Except DerError (List Bytes) := do
  let (names, outer) ← (DerReader.new encoded).readExpected derTagSequence
  outer.finish
  names.reader.readAll readGeneralName []

/-! ### Reading a request -/

def oidExtensionRequestContent : Bytes := [0x2a, 0x86, 0x48, 0x86, 0xf7, 0x0d, 0x01, 0x09, 0x0e]

def oidEcdsaWithSha256Content : Bytes := [0x2a, 0x86, 0x48, 0xce, 0x3d, 0x04, 0x03, 0x02]

/-- The only value of a region. -/
def readOnly (tag : Byte) (reader : DerReader) : Except DerError DerValue := do
  let (value, reader) ← reader.readExpected tag
  reader.finish
  return value

/-- The two values of a region, an object identifier and a value with this tag. -/
def readIdentified (content : Bytes) (tag : Byte) (reader : DerReader) : Except DerError DerValue := do
  let (identifier, reader) ← reader.readExpected derTagObjectIdentifier
  ensure (identifier.content = content) .invalidCertificate
  readOnly tag reader

structure CsrReading where
  info : DerValue
  subjectPublicKeyInfo : DerValue
  subjectAltName : Bytes
  signature : Bytes
deriving DecidableEq, Repr

/-- The public key and the attributes of the signed part. -/
def readCsrInfo (info : DerReader) : Except DerError (DerValue × DerValue) := do
  let (version, info) ← info.readIntegerUnsigned
  ensure (version = [0]) .invalidCertificate
  let (subject, info) ← info.readExpected derTagSequence
  ensure (subject.content.isEmpty) .invalidCertificate
  let (subjectPublicKeyInfo, info) ← info.readExpected derTagSequence
  let attributes ← readOnly 0xa0 info
  return (subjectPublicKeyInfo, attributes)

def readCsrSubjectAltName (attributes : DerReader) : Except DerError Bytes := do
  let extensionRequest ← readOnly derTagSequence attributes
  let values ← readIdentified oidExtensionRequestContent derTagSet extensionRequest.reader
  let extensions ← readOnly derTagSequence values.reader
  let extension ← readOnly derTagSequence extensions.reader
  let extensionValue ← readIdentified oidSubjectAltNameContent derTagOctetString extension.reader
  return extensionValue.content

def readCsr (der : Bytes) : Except DerError CsrReading := do
  let request ← readOnly derTagSequence (.new der)
  let (info, request) ← request.reader.readExpected derTagSequence
  let (subjectPublicKeyInfo, attributes) ← readCsrInfo info.reader
  let subjectAltName ← readCsrSubjectAltName attributes.reader
  let (signatureAlgorithm, request) ← request.readExpected derTagSequence
  let algorithm ← readOnly derTagObjectIdentifier signatureAlgorithm.reader
  ensure (algorithm.content = oidEcdsaWithSha256Content) .invalidCertificate
  let signature ← readOnly derTagBitString request
  ensure (signature.content.head? = some 0) .invalidCertificate
  return ⟨info, subjectPublicKeyInfo, subjectAltName, signature.content.drop 1⟩

/-! ### What was written is read back -/

section Reading

variable {reader : DerReader} {tag : Byte} {content : Bytes}

theorem readOnly_derWrap (h : reader.HasRest (derWrap tag content))
    (htag : tag &&& derHighTagNumber ≠ derHighTagNumber) :
    readOnly tag reader = .ok ⟨tag, content⟩ ∧ (DerReader.new content).HasRest content := by
  obtain ⟨reader', hread, hfinish, hcontent⟩ := h.readLast htag
  refine ⟨?_, hcontent⟩
  rw [readOnly, hread, ok_bind]
  dsimp only
  rw [hfinish]
  rfl

theorem readIdentified_derWrap {identifier : Bytes}
    (h : reader.HasRest (derWrap derTagObjectIdentifier identifier ++ derWrap tag content))
    (htag : tag &&& derHighTagNumber ≠ derHighTagNumber) :
    readIdentified identifier tag reader = .ok ⟨tag, content⟩ ∧ (DerReader.new content).HasRest content := by
  obtain ⟨reader', hread, hmore, -⟩ := h.readExpected (by decide)
  obtain ⟨hvalue, hcontent⟩ := readOnly_derWrap hmore htag
  refine ⟨?_, hcontent⟩
  rw [readIdentified, hread, ok_bind]
  dsimp only
  rw [ensure_of rfl, ok_bind, hvalue]

end Reading

/-! ### Names -/

theorem isAscii_of_validateDnsName {name : Bytes} (h : validateDnsName name = .ok ()) : isAscii name = true := by
  obtain ⟨_, hshape, -⟩ := bind_eq_ok.1 h
  rw [ensure_eq_ok] at hshape
  simp only [Bool.not_eq_true', Bool.or_eq_false_iff, Bool.not_eq_false'] at hshape
  exact hshape.1.1.2

theorem derDnsName_eq (name : Bytes) : derDnsName name = DerValue.encode ⟨0x82, name⟩ :=
  expectOk_derContextSpecific 2 (by decide) false name _

theorem encodeSubjectAltNameDns_ok {dnsNames : List Bytes} (hne : dnsNames ≠ [])
    (h : ∀ name ∈ dnsNames, validateDnsName name = .ok ()) :
    encodeSubjectAltNameDns dnsNames = .ok (derSequence (dnsNames.map derDnsName)) := by
  have hmap : (dnsNames.mapM fun dnsName => do
      validateDnsName dnsName
      return derDnsName dnsName) = (.ok (dnsNames.map derDnsName) : Except DerError (List Bytes)) := by
    clear hne
    induction dnsNames with
    | nil => rfl
    | cons name names ih =>
        rw [List.mapM_cons, h name List.mem_cons_self, ok_bind, ih fun name hname => h name (List.mem_cons_of_mem _ hname)]
        rfl
  rw [encodeSubjectAltNameDns, if_neg (by simpa using hne), hmap, ok_bind, pure_eq_ok]

/-- Names of hosts are collected, and names of another kind passed over. -/
theorem foldlM_readGeneralName {names : List DerValue}
    (h : ∀ name ∈ names, name.tag = 0x82 → validateDnsName name.content = .ok ()) (read : List Bytes) :
    names.foldlM readGeneralName read = .ok (read ++ (names.filter (·.tag = 0x82)).map DerValue.content) := by
  induction names generalizing read with
  | nil => rw [List.filter_nil, List.map_nil, List.append_nil]; rfl
  | cons name names ih =>
      have hmore := ih fun name hname => h name (List.mem_cons_of_mem _ hname)
      rw [List.foldlM_cons, readGeneralName]
      by_cases htag : name.tag = 0x82
      · have hname := h name List.mem_cons_self htag
        have hascii := isAscii_of_validateDnsName hname
        rw [if_neg (not_not.2 htag), ensure_of hascii, ok_bind, ensure_of (validUtf8_of_isAscii hascii), ok_bind, hname,
          ok_bind, pure_eq_ok, ok_bind, hmore, List.filter_cons_of_pos (by simpa using htag), List.map_cons,
          List.append_assoc, List.singleton_append]
      · rw [if_pos htag, ok_bind, hmore, List.filter_cons_of_neg (by simpa using htag)]

/-- The DNS names among any names come out in the order they went in. -/
theorem parseX509SubjectAltName_generalNames {names : List DerValue}
    (hlow : ∀ name ∈ names, name.tag &&& derHighTagNumber ≠ derHighTagNumber)
    (h : ∀ name ∈ names, name.tag = 0x82 → validateDnsName name.content = .ok ())
    (hfits : (derSequence (names.map DerValue.encode)).length ≤ usizeMax) :
    parseX509SubjectAltName (derSequence (names.map DerValue.encode)) =
      .ok ((names.filter (·.tag = 0x82)).map DerValue.content) := by
  rw [derSequence, ← List.flatMap_def] at hfits ⊢
  obtain ⟨outer, hread, hfinish, hnames⟩ := DerReader.readExpected_encode (by decide) hfits
  rw [parseX509SubjectAltName, hread, ok_bind]
  dsimp only
  rw [hfinish, ok_bind, DerValue.reader, DerReader.readAll_encode hlow hnames, foldlM_readGeneralName h, List.nil_append]

theorem parseX509SubjectAltName_names {dnsNames : List Bytes} (h : ∀ name ∈ dnsNames, validateDnsName name = .ok ())
    (hfits : (derSequence (dnsNames.map derDnsName)).length ≤ usizeMax) :
    parseX509SubjectAltName (derSequence (dnsNames.map derDnsName)) = .ok dnsNames := by
  have hmap : dnsNames.map derDnsName = (dnsNames.map (DerValue.mk 0x82)).map DerValue.encode := by
    rw [List.map_map]
    exact List.map_congr_left fun name _ => derDnsName_eq name
  have hnames : ∀ value ∈ dnsNames.map (DerValue.mk 0x82),
      value.tag = 0x82 ∧ validateDnsName value.content = .ok () := by
    intro value hvalue
    obtain ⟨name, hname, rfl⟩ := List.mem_map.1 hvalue
    exact ⟨rfl, h name hname⟩
  have hfilter : (dnsNames.map (DerValue.mk 0x82)).filter (·.tag = 0x82) = dnsNames.map (DerValue.mk 0x82) :=
    List.filter_eq_self.2 fun value hvalue => decide_eq_true (hnames value hvalue).1
  rw [hmap] at hfits ⊢
  rw [parseX509SubjectAltName_generalNames (fun value hvalue => by rw [(hnames value hvalue).1]; decide)
    (fun value hvalue _ => (hnames value hvalue).2) hfits, hfilter, List.map_map]
  exact congrArg Except.ok (List.map_id _)

/-! ### The public key -/

/-- What the subject public key info is made of. -/
def spkiContent (publicKey : Bytes) : Bytes :=
  derWrap derTagSequence (derWrap derTagObjectIdentifier oidEcPublicKeyContent ++
    derWrap derTagObjectIdentifier oidSecp256r1Content) ++ derBitString publicKey

theorem p256AlgorithmIdentifier_eq : p256AlgorithmIdentifier =
    derWrap derTagSequence (derWrap derTagObjectIdentifier oidEcPublicKeyContent ++
      derWrap derTagObjectIdentifier oidSecp256r1Content) := by
  rw [p256AlgorithmIdentifier, expectOk_eq derObjectIdentifier_contents.1, expectOk_eq derObjectIdentifier_contents.2.1,
    derSequence, List.flatten_cons, List.flatten_singleton]

theorem encodeP256SpkiDer_ok {publicKey : P256Point} {encoded : ByteArrayN 65}
    (h : publicKey.toSec1Uncompressed = .ok encoded) :
    encodeP256SpkiDer publicKey = .ok (derWrap derTagSequence (spkiContent encoded.toList)) := by
  rw [encodeP256SpkiDer, h, mapErr_ok, ok_bind, derSequence, List.flatten_cons, List.flatten_singleton,
    p256AlgorithmIdentifier_eq]
  rfl

theorem parseX509PublicKeyInfo_spki {publicKey : P256Point} {encoded : ByteArrayN 65}
    (h : P256Point.fromSec1Uncompressed encoded.toList = .ok publicKey)
    (hcontent : (DerReader.new (spkiContent encoded.toList)).HasRest (spkiContent encoded.toList)) :
    parseX509PublicKeyInfo ⟨derTagSequence, spkiContent encoded.toList⟩ =
      .ok ⟨oidEcPublicKeyContent, encoded.toList, some publicKey⟩ := by
  obtain ⟨spki, halgorithm, hkey, hidentifiers⟩ := hcontent.readExpected (by decide)
  obtain ⟨spki', hbits, hend, -⟩ := hkey.readLast (by decide)
  obtain ⟨algorithm, hidentifier, hcurve, -⟩ := hidentifiers.readExpected (by decide)
  obtain ⟨algorithm', hparameter, hend', -⟩ := hcurve.readLast (by decide)
  have hparameters : readAlgorithmParameters algorithm =
      .ok (some ⟨derTagObjectIdentifier, oidSecp256r1Content⟩, algorithm') := by
    have hmore : ¬algorithm.isEmpty = true := by
      rw [DerReader.isEmpty_iff hcurve.position, hcurve.rest, derWrap]
      exact List.cons_ne_nil _ _
    rw [readAlgorithmParameters, if_neg hmore, (DerReader.readExpected_ok hparameter).2]
    rfl
  simp only [parseX509PublicKeyInfo, DerValue.reader, halgorithm, hbits, hend, hidentifier, hparameters, hend', ok_bind,
    List.head?_cons, ensure_of, List.drop_succ_cons, List.drop_zero, and_self, if_true, h, mapErr_ok, pure_eq_ok]

/-! ### The whole request -/

/-- What the attributes of a request are made of. -/
def attributesContent (subjectAltName : Bytes) : Bytes :=
  derWrap derTagSequence (derWrap derTagObjectIdentifier oidExtensionRequestContent ++
    derWrap derTagSet (derWrap derTagSequence (derWrap derTagSequence
      (derWrap derTagObjectIdentifier oidSubjectAltNameContent ++ derWrap derTagOctetString subjectAltName))))

/-- What the signed part is made of. -/
def infoContent (publicKey subjectAltName : Bytes) : Bytes :=
  derIntegerUnsigned [0] ++ (derWrap derTagSequence [] ++ (derWrap derTagSequence (spkiContent publicKey) ++
    derWrap 0xa0 (attributesContent subjectAltName)))

theorem derSetContent_singleton (element : Bytes) : derSetContent [element] = element := by
  rw [derSetContent, List.mergeSort_singleton, List.flatten_singleton]

theorem certificationRequestInfo_ok {privateKey : Scalar} {publicKey : ByteArrayN 65} {dnsNames : List Bytes}
    (hkey : (p256GeneratorMultiply privateKey).toSec1Uncompressed = .ok publicKey) (hne : dnsNames ≠ [])
    (h : ∀ name ∈ dnsNames, validateDnsName name = .ok ()) :
    certificationRequestInfo privateKey dnsNames = .ok (derWrap derTagSequence
      (infoContent publicKey.toList (derSequence (dnsNames.map derDnsName)))) := by
  have hsubjectAltName : subjectAltNameIdentifier = derWrap derTagObjectIdentifier oidSubjectAltNameContent := by decide
  have hextensionRequest : extensionRequestIdentifier = derWrap derTagObjectIdentifier oidExtensionRequestContent := by
    decide
  rw [certificationRequestInfo, encodeP256SpkiDer_ok hkey, ok_bind, encodeSubjectAltNameDns_ok hne h, ok_bind]
  dsimp only
  rw [expectOk_derContextSpecific 0 (by decide), derSet, derSetContent_singleton, derSetContent_singleton,
    hsubjectAltName, hextensionRequest, pure_eq_ok]
  simp only [derSequence, List.flatten_cons, List.flatten_nil, List.append_nil]
  rfl

theorem readCsrSubjectAltName_attributes {reader : DerReader} {subjectAltName : Bytes}
    (h : reader.HasRest (attributesContent subjectAltName)) :
    readCsrSubjectAltName reader = .ok subjectAltName ∧ (DerReader.new subjectAltName).HasRest subjectAltName := by
  obtain ⟨hrequest, hrequestContent⟩ := readOnly_derWrap h (by decide)
  obtain ⟨hvalues, hvaluesContent⟩ := readIdentified_derWrap hrequestContent (by decide)
  obtain ⟨hextensions, hextensionsContent⟩ := readOnly_derWrap hvaluesContent (by decide)
  obtain ⟨hextension, hextensionContent⟩ := readOnly_derWrap hextensionsContent (by decide)
  obtain ⟨hvalue, hsubjectAltName⟩ := readIdentified_derWrap hextensionContent (by decide)
  refine ⟨?_, hsubjectAltName⟩
  rw [readCsrSubjectAltName, hrequest, ok_bind, DerValue.reader, hvalues, ok_bind, DerValue.reader, hextensions, ok_bind,
    DerValue.reader, hextension, ok_bind, DerValue.reader, hvalue]
  rfl

theorem readCsrInfo_infoContent {reader : DerReader} {publicKey subjectAltName : Bytes}
    (h : reader.HasRest (infoContent publicKey subjectAltName)) :
    readCsrInfo reader =
        .ok (⟨derTagSequence, spkiContent publicKey⟩, ⟨0xa0, attributesContent subjectAltName⟩) ∧
      (DerReader.new (spkiContent publicKey)).HasRest (spkiContent publicKey) ∧
      (DerReader.new (attributesContent subjectAltName)).HasRest (attributesContent subjectAltName) := by
  obtain ⟨reader₁, hversion, hmore₁⟩ := h.readIntegerUnsigned
  obtain ⟨reader₂, hsubject, hmore₂, -⟩ := hmore₁.readExpected (by decide)
  obtain ⟨reader₃, hspki, hmore₃, hspkiContent⟩ := hmore₂.readExpected (by decide)
  obtain ⟨hattributes, hattributesContent⟩ := readOnly_derWrap hmore₃ (by decide)
  refine ⟨?_, hspkiContent, hattributesContent⟩
  rw [readCsrInfo, hversion, ok_bind]
  dsimp only
  rw [ensure_of (by decide), ok_bind, hsubject, ok_bind]
  dsimp only
  rw [ensure_of (by decide), ok_bind, hspki, ok_bind]
  dsimp only
  rw [hattributes]
  rfl

/-- A request in three parts is read back. -/
theorem readCsr_request {publicKey subjectAltName signature : Bytes}
    (hfits : (derSequence [derWrap derTagSequence (infoContent publicKey subjectAltName), ecdsaSha256AlgorithmIdentifier,
      derBitString signature]).length ≤ usizeMax) :
    readCsr (derSequence [derWrap derTagSequence (infoContent publicKey subjectAltName), ecdsaSha256AlgorithmIdentifier,
        derBitString signature]) =
        .ok ⟨⟨derTagSequence, infoContent publicKey subjectAltName⟩, ⟨derTagSequence, spkiContent publicKey⟩,
          subjectAltName, signature⟩ ∧
      (DerReader.new (spkiContent publicKey)).HasRest (spkiContent publicKey) ∧
      (DerReader.new subjectAltName).HasRest subjectAltName := by
  have halgorithm : ecdsaSha256AlgorithmIdentifier =
      derWrap derTagSequence (derWrap derTagObjectIdentifier oidEcdsaWithSha256Content) := by decide
  rw [halgorithm] at hfits ⊢
  simp only [derSequence, List.flatten_cons, List.flatten_nil, List.append_nil] at hfits ⊢
  obtain ⟨hrequest, hrequestContent⟩ := readOnly_derWrap (DerReader.HasRest.new hfits) (by decide)
  obtain ⟨request₁, hinfo, hmore₁, hinfoContent⟩ := hrequestContent.readExpected (by decide)
  obtain ⟨hparts, hspkiContent, hattributesContent⟩ := readCsrInfo_infoContent hinfoContent
  obtain ⟨request₂, hsignatureAlgorithm, hmore₂, hidentifier⟩ := hmore₁.readExpected (by decide)
  obtain ⟨hoid, -⟩ := readOnly_derWrap hidentifier (by decide)
  obtain ⟨hsignature, -⟩ := readOnly_derWrap hmore₂ (by decide)
  obtain ⟨hnames, hsubjectAltName⟩ := readCsrSubjectAltName_attributes hattributesContent
  refine ⟨?_, hspkiContent, hsubjectAltName⟩
  rw [readCsr, hrequest, ok_bind, DerValue.reader, hinfo, ok_bind]
  dsimp only
  rw [DerValue.reader, hparts, ok_bind]
  dsimp only
  rw [DerValue.reader, hnames, ok_bind, hsignatureAlgorithm, ok_bind]
  dsimp only
  rw [DerValue.reader, hoid, ok_bind, ensure_of rfl, ok_bind, hsignature, ok_bind, List.head?_cons, ensure_of rfl]
  rfl

/-- A request is returned exactly when the signer returns, and it returns with more turns than there are candidates
before the first signature of RFC 6979. It is never an error, and all of it reads back: the key, the names in their
order, and a signature over the bytes of the signed part. A request that fits into memory is no longer than a `usize`
can say. -/
theorem encodeP256CsrDer_readsBack (turns : Nat) (privateKey : Scalar) (dnsNames : List Bytes)
    (hkey : privateKey ≠ .zero) (hne : dnsNames ≠ []) (hnames : ∀ name ∈ dnsNames, validateDnsName name = .ok ()) :
    ∃ publicKey info, (p256GeneratorMultiply privateKey).toSec1Uncompressed = .ok publicKey ∧
      certificationRequestInfo privateKey dnsNames = .ok info ∧
      (encodeP256CsrDer turns privateKey dnsNames = none ↔ p256EcdsaSignSha256 turns privateKey info = none) ∧
      (∀ k signature, IsFirstSignature privateKey info k signature → k < turns →
        ∃ der, encodeP256CsrDer turns privateKey dnsNames = some (.ok der)) ∧
      ∀ result, encodeP256CsrDer turns privateKey dnsNames = some result → ∃ der, result = .ok der ∧
        (der.length ≤ usizeMax → ∃ reading signature, readCsr der = .ok reading ∧ reading.info.encode = info ∧
          parseX509PublicKeyInfo reading.subjectPublicKeyInfo =
            .ok ⟨oidEcPublicKeyContent, publicKey.toList, some (p256GeneratorMultiply privateKey)⟩ ∧
          parseX509SubjectAltName reading.subjectAltName = .ok dnsNames ∧
          readP256Signature reading.signature = some signature ∧
          p256EcdsaVerifySha256 (p256GeneratorMultiply privateKey) info signature = true) := by
  obtain ⟨publicKey, hpublicKey, hdecoded⟩ := fromSec1Uncompressed_generatorMultiply hkey
  have hinfo := certificationRequestInfo_ok hpublicKey hne hnames
  refine ⟨publicKey, _, hpublicKey, hinfo, ?_⟩
  rw [encodeP256CsrDer, if_neg hkey, hinfo]
  dsimp only
  cases hsign : p256EcdsaSignSha256 turns privateKey
      (derWrap derTagSequence (infoContent publicKey.toList (derSequence (dnsNames.map derDnsName)))) with
  | none =>
      refine ⟨⟨fun _ => rfl, fun _ => rfl⟩, ?_, ?_⟩
      · intro k signature hfirst hturns
        rw [p256EcdsaSignSha256_of_isFirst hkey hfirst hturns] at hsign
        cases hsign
      · intro result hresult
        cases hresult
  | some signed =>
      obtain ⟨signature, hsignature, hverify⟩ := p256EcdsaSignSha256_isSome hkey (by rw [hsign]; rfl)
      obtain rfl := Option.some.inj (hsign.symm.trans hsignature)
      refine ⟨by simp, fun _ _ _ _ => ⟨_, rfl⟩, fun result hresult => ⟨_, (Option.some.inj hresult).symm, fun hfits => ?_⟩⟩
      obtain ⟨hread, hspki, hsubjectAltName⟩ := readCsr_request hfits
      exact ⟨_, signature, hread, rfl, parseX509PublicKeyInfo_spki hdecoded hspki,
        parseX509SubjectAltName_names hnames hsubjectAltName.fits, readP256Signature_encodeP256SignatureDer signature,
        hverify⟩

theorem encodeP256CsrDer_readsBack_one :
    ∃ info, certificationRequestInfo .one [ascii "example.com", ascii "*.example.com"] = .ok info ∧
      (encodeP256CsrDer 1 .one [ascii "example.com", ascii "*.example.com"] = none ↔
        p256EcdsaSignSha256 1 .one info = none) ∧
      ∀ signature, IsFirstSignature .one info 0 signature →
        ∃ der, encodeP256CsrDer 1 .one [ascii "example.com", ascii "*.example.com"] = some (.ok der) := by
  obtain ⟨-, info, -, hinfo, hreturns, hproduces, -⟩ := encodeP256CsrDer_readsBack 1 .one
    [ascii "example.com", ascii "*.example.com"] (by decide) (by decide) (by
      intro name hname
      rcases List.mem_cons.1 hname with rfl | hname
      · decide
      · rw [List.mem_singleton.1 hname]
        decide)
  exact ⟨info, hinfo, hreturns, fun signature hfirst => hproduces 0 signature hfirst Nat.one_pos⟩

end BareProxy.Der
