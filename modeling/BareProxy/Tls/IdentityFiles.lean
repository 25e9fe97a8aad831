import BareProxy.Config.Load
import BareProxy.Der.CertificateInspection
import BareProxy.Der.PemChain
import BareProxy.Der.PrivateKey
import BareProxy.Tls.HandshakeAgreement

/-!
# Identities from files

`TlsIdentity::load_pem_files` and `TlsIdentityStore::load_files`. An identity that is loaded is certified: the first
certificate of its chain is for the key that it signs with and for the names that it is chosen by. So a client finds in
the certificate it is sent the name it asked for, and the key that the signature checks with.
-/

namespace BareProxy.Tls

open P256 Crypto Der Conversation

def derErrorText : DerError → String
  | .truncated => "truncated DER value"
  | .indefiniteLength => "indefinite ASN.1 length is not permitted in DER"
  | .nonCanonicalLength => "ASN.1 length is not minimally encoded for DER"
  | .lengthOverflow => "ASN.1 length exceeds the supported address space"
  | .highTagNumberUnsupported tag =>
    "ASN.1 high-tag-number form is unsupported for tag 0x" ++ hexTwo tag.toNat
  | .unexpectedTag expected actual =>
    "unexpected ASN.1 tag 0x" ++ hexTwo actual.toNat ++ "; expected 0x" ++ hexTwo expected.toNat
  | .invalidInteger => "ASN.1 INTEGER is invalid or non-canonical"
  | .invalidObjectIdentifier => "ASN.1 OBJECT IDENTIFIER is invalid"
  | .invalidContextTag tagNumber =>
    "ASN.1 context-specific tag " ++ toString tagNumber.toNat ++ " requires unsupported high-tag-number encoding"
  | .trailingData length => toString length ++ " trailing byte(s) remain after DER parsing"
  | .invalidPemLabel => "invalid RFC 7468 textual encoding label"
  | .pemBeginMissing => "RFC 7468 begin boundary was not found"
  | .pemEndMissing => "RFC 7468 end boundary was not found"
  | .pemLabelMismatch => "RFC 7468 begin and end labels do not match"
  | .invalidPemBase64 => "invalid Base64 inside RFC 7468 textual encoding"
  | .invalidP256PrivateKey => "P-256 private key cannot be zero"
  | .invalidP256PublicKey => "P-256 public key cannot be the identity point"
  | .invalidDnsName => "invalid DNS name for subjectAltName"
  | .invalidCertificate => "invalid or unsupported X.509 certificate structure"
  | .invalidTime => "invalid X.509 certificate validity time"

def derError (error : DerError) : IoError := invalidData (derErrorText error)

def inspectCertificate (certificate : Bytes) : Except IoError X509CertificateInfo :=
  mapErr derError (parseX509CertificateDer certificate)

/-- The chain that was read is never empty, so that its first certificate is there. -/
def TlsIdentity.loadPemFiles (disk : Disk) (certificatePath privateKeyPath : Bytes) : Except IoError TlsIdentity := do
  let certificatePem ← disk.readToString certificatePath
  let certificateChain ← mapErr derError (decodeX509CertificateChainPem certificatePem)
  let leaf ← inspectCertificate (certificateChain.headD [])
  let _ ← certificateChain.tail.mapM inspectCertificate
  ensure (leaf.dnsNames ≠ []) (invalidData "TLS leaf certificate contains no DNS subjectAltName identities")
  let privateKeyPem ← disk privateKeyPath
  ensure (validUtf8 privateKeyPem) (invalidData "TLS private key PEM is not valid UTF-8")
  let signingKey ← mapErr derError (decodeP256Sec1PrivateKeyPem privateKeyPem)
  ensure (leaf.publicKey.p256PublicKey = some (p256GeneratorMultiply signingKey))
    (invalidData "TLS leaf certificate public key does not match the supplied private key")
  return { certificateChain, signingKey, dnsNames := leaf.dnsNames }

/-- No store for no files. -/
def TlsIdentityStore.loadFiles (disk : Disk) (identityFiles : List Config.TlsIdentityFiles) :
    Except IoError (Option TlsIdentityStore) :=
  if identityFiles = [] then .ok none
  else do
    let identities ← identityFiles.mapM fun files =>
      TlsIdentity.loadPemFiles disk files.certificatePath files.privateKeyPath
    let store ← TlsIdentityStore.new identities
    return some store

/-! ### What is loaded -/

/-- The chain is of certificates, the first of which is for the key and for the names. -/
structure TlsIdentity.Certified (identity : TlsIdentity) (leaf : X509CertificateInfo) : Prop where
  chain : ∃ first rest, identity.certificateChain = first :: rest ∧ parseX509CertificateDer first = .ok leaf ∧
    ∀ certificate ∈ rest, ∃ info, parseX509CertificateDer certificate = .ok info
  dnsNames_eq : identity.dnsNames = leaf.dnsNames
  dnsNames_ne_nil : identity.dnsNames ≠ []
  signingKey_ne_zero : identity.signingKey ≠ .zero
  publicKey_eq : leaf.publicKey.p256PublicKey = some (p256GeneratorMultiply identity.signingKey)

/-- The two files hold this identity. -/
structure HoldsIdentity (disk : Disk) (files : Config.TlsIdentityFiles) (identity : TlsIdentity) : Prop where
  certificates : ∃ pem, disk files.certificatePath = .ok pem ∧ validUtf8 pem = true ∧
    decodeX509CertificateChainPem pem = .ok identity.certificateChain
  privateKey : ∃ pem, disk files.privateKeyPath = .ok pem ∧ validUtf8 pem = true ∧
    decodeP256Sec1PrivateKeyPem pem = .ok identity.signingKey
  certified : ∃ leaf, identity.Certified leaf

theorem decodeP256Sec1PrivateKeyPem_ne_zero {pem : Bytes} {signingKey : Scalar}
    (h : decodeP256Sec1PrivateKeyPem pem = .ok signingKey) : signingKey ≠ .zero := by
  obtain ⟨der, -, hder⟩ := bind_eq_ok.1 h
  obtain ⟨_, _, hkey⟩ := isSec1PrivateKey_of_decode hder
  exact hkey.nonzero

theorem mapM_inspectCertificate {certificates : List Bytes} :
    (∃ infos, certificates.mapM inspectCertificate = .ok infos) ↔
      ∀ certificate ∈ certificates, ∃ info, parseX509CertificateDer certificate = .ok info := by
  induction certificates with
  | nil => exact ⟨fun _ _ h => absurd h List.not_mem_nil, fun _ => ⟨[], rfl⟩⟩
  | cons certificate certificates ih =>
    rw [List.forall_mem_cons, ← ih]
    constructor
    · intro h
      obtain ⟨infos, h⟩ := h
      obtain ⟨info, infos', hinfo, hrest, rfl⟩ := List.forall₂_cons_left_iff.1 (mapM_eq_ok.1 h)
      exact ⟨⟨info, mapErr_eq_ok.1 hinfo⟩, infos', mapM_eq_ok.2 hrest⟩
    · intro h
      obtain ⟨⟨info, hinfo⟩, infos, hrest⟩ := h
      exact ⟨info :: infos, mapM_eq_ok.2 (.cons (mapErr_eq_ok.2 hinfo) (mapM_eq_ok.1 hrest))⟩

theorem TlsIdentity.loadPemFiles_holds {disk : Disk} {files : Config.TlsIdentityFiles} {identity : TlsIdentity}
    (h : loadPemFiles disk files.certificatePath files.privateKeyPath = .ok identity) : HoldsIdentity disk files identity := by
  obtain ⟨certificatePem, hread, h⟩ := bind_eq_ok.1 h
  obtain ⟨chain, hchain, h⟩ := bind_eq_ok.1 h
  obtain ⟨leaf, hleaf, h⟩ := bind_eq_ok.1 h
  obtain ⟨infos, hrest, h⟩ := bind_eq_ok.1 h
  obtain ⟨_, hnames, h⟩ := bind_eq_ok.1 h
  obtain ⟨privateKeyPem, hkeyRead, h⟩ := bind_eq_ok.1 h
  obtain ⟨_, hvalid, h⟩ := bind_eq_ok.1 h
  obtain ⟨signingKey, hkey, h⟩ := bind_eq_ok.1 h
  obtain ⟨_, hpublic, h⟩ := bind_eq_ok.1 h
  cases h
  rw [mapErr_eq_ok] at hchain hkey
  rw [Disk.readToString_eq_ok] at hread
  obtain ⟨first, rest, rfl, -⟩ := pemDecode_of_chain hchain
  refine ⟨⟨_, hread.1, hread.2, hchain⟩, ⟨_, hkeyRead, ensure_eq_ok.1 hvalid, hkey⟩, leaf, ?_, rfl,
    ensure_eq_ok.1 hnames, decodeP256Sec1PrivateKeyPem_ne_zero hkey, ensure_eq_ok.1 hpublic⟩
  exact ⟨first, rest, rfl, mapErr_eq_ok.1 hleaf, mapM_inspectCertificate.1 ⟨infos, hrest⟩⟩

theorem TlsIdentity.loadPemFiles_of_holds {disk : Disk} {files : Config.TlsIdentityFiles} {identity : TlsIdentity}
    (h : HoldsIdentity disk files identity) : loadPemFiles disk files.certificatePath files.privateKeyPath = .ok identity := by
  obtain ⟨⟨certificatePem, hread, hvalid, hchain⟩, ⟨privateKeyPem, hkeyRead, hkeyValid, hkey⟩, leaf, hcertified⟩ := h
  obtain ⟨⟨first, rest, hsplit, hleaf, hrest⟩, hnames, hne, -, hpublic⟩ := hcertified
  obtain ⟨infos, hinfos⟩ := mapM_inspectCertificate.2 hrest
  have hinspect : inspectCertificate first = .ok leaf := mapErr_eq_ok.2 hleaf
  rw [hnames] at hne
  rw [loadPemFiles, Disk.readToString_eq_ok.2 ⟨hread, hvalid⟩, ok_bind, hchain, mapErr_ok, ok_bind, hsplit,
    List.headD_cons, List.tail_cons, hinspect, ok_bind, hinfos, ok_bind, ensure_of hne, ok_bind, hkeyRead, ok_bind,
    ensure_of hkeyValid, ok_bind, hkey, mapErr_ok, ok_bind, ensure_of hpublic, ok_bind, ← hnames, ← hsplit]
  rfl

theorem TlsIdentityStore.loadFiles_eq_some {disk : Disk} {identityFiles : List Config.TlsIdentityFiles}
    {store : TlsIdentityStore} :
    loadFiles disk identityFiles = .ok (some store) ↔ List.Forall₂ (HoldsIdentity disk) identityFiles store.identities := by
  rw [loadFiles]
  constructor
  · intro h
    split at h
    · cases h
    · obtain ⟨identities, hidentities, h⟩ := bind_eq_ok.1 h
      obtain ⟨made, hmade, h⟩ := bind_eq_ok.1 h
      cases h
      rw [TlsIdentityStore.new_iff.1 hmade]
      exact (mapM_eq_ok.1 hidentities).imp fun _ _ hload => TlsIdentity.loadPemFiles_holds hload
  · intro h
    have hne : identityFiles ≠ [] := by
      rintro rfl
      exact store.ne_nil (List.forall₂_nil_left_iff.1 h)
    rw [if_neg hne, mapM_eq_ok.2 (h.imp fun _ _ hholds => TlsIdentity.loadPemFiles_of_holds hholds), ok_bind,
      TlsIdentityStore.new_iff.2 rfl]
    rfl

theorem TlsIdentityStore.loadFiles_eq_none {disk : Disk} {identityFiles : List Config.TlsIdentityFiles} :
    loadFiles disk identityFiles = .ok none ↔ identityFiles = [] := by
  rw [loadFiles]
  constructor
  · intro h
    split at h
    · assumption
    · obtain ⟨_, -, h⟩ := bind_eq_ok.1 h
      obtain ⟨_, -, h⟩ := bind_eq_ok.1 h
      cases h
  · intro h
    exact if_pos h

/-! ### What is written is loaded -/

/-- The bytes of a certificate that fits into memory. -/
structure IsCertificate (certificate : X509Certificate) (der : Bytes) : Prop where
  wellFormed : certificate.WellFormed
  der_eq : certificate.der = .ok der
  fits : der.length ≤ usizeMax

theorem IsCertificate.parse {certificate : X509Certificate} {der : Bytes} (h : IsCertificate certificate der) :
    ∃ publicKey, parseX509CertificateDer der = .ok (certificate.info publicKey) := by
  obtain ⟨publicKey, fields, hkey, hfields, rfl⟩ := X509Certificate.der_ok h.wellFormed h.der_eq
  obtain ⟨outer, hread, hend, hcontent⟩ := DerReader.readExpected_encode (by decide) h.fits
  obtain ⟨reader, htbs, hmore, htbsContent⟩ := hcontent.readExpected (by decide)
  obtain ⟨_, halgorithm, hmore', -⟩ := hmore.readExpected (by decide)
  obtain ⟨_, hsignature, hend', -⟩ := hmore'.readLast (by decide)
  have hinfo := X509Certificate.parseTbsCertificate_tbsContent h.wellFormed hkey hfields htbsContent
  refine ⟨publicKey.toList, bind_eq_ok.2 ⟨_, hread, bind_eq_ok.2 ⟨_, hend, bind_eq_ok.2 ⟨_, htbs, ?_⟩⟩⟩⟩
  refine bind_eq_ok.2 ⟨_, halgorithm, bind_eq_ok.2 ⟨_, hsignature, bind_eq_ok.2 ⟨_, ensure_of rfl _, ?_⟩⟩⟩
  exact bind_eq_ok.2 ⟨_, hend', hinfo⟩

/-- An identity as it is issued: a certificate for its names and its key, and the certificates above it. -/
structure TlsIdentity.Issued (identity : TlsIdentity) (leaf : X509Certificate) (issuers : List X509Certificate) : Prop where
  chain : List.Forall₂ IsCertificate (leaf :: issuers) identity.certificateChain
  dnsNames_eq : identity.dnsNames = leaf.dnsNames
  dnsNames_ne_nil : identity.dnsNames ≠ []
  signingKey_ne_zero : identity.signingKey ≠ .zero
  publicKey_eq : leaf.publicKey = p256GeneratorMultiply identity.signingKey

theorem TlsIdentity.Issued.certified {identity : TlsIdentity} {leaf : X509Certificate} {issuers : List X509Certificate}
    (h : identity.Issued leaf issuers) : ∃ info, identity.Certified info := by
  obtain ⟨first, rest, hfirst, hrest, hchain⟩ := List.forall₂_cons_left_iff.1 h.chain
  obtain ⟨publicKey, hinfo⟩ := hfirst.parse
  refine ⟨leaf.info publicKey, ⟨first, rest, hchain, hinfo, fun certificate hmem => ?_⟩, h.dnsNames_eq, h.dnsNames_ne_nil,
    h.signingKey_ne_zero, congrArg some h.publicKey_eq⟩
  obtain ⟨_, -, hissuer⟩ := exists_of_forall₂ hrest hmem
  obtain ⟨_, hinfo'⟩ := hissuer.parse
  exact ⟨_, hinfo'⟩

/-- The two files as the encoders write them, with other lines around the blocks. -/
structure StoresIdentity (disk : Disk) (files : Config.TlsIdentityFiles) (identity : TlsIdentity) : Prop where
  certificates : ∃ front blocks, IsForeign (pemBegin certificateLabel) front ∧
    (∀ block ∈ blocks, IsForeign (pemBegin certificateLabel) block.2) ∧
    blocks.map Prod.fst = identity.certificateChain ∧
    disk files.certificatePath = .ok (front ++ certificateBlocks blocks) ∧
    validUtf8 (front ++ certificateBlocks blocks) = true
  privateKey : ∃ front pem back, IsForeign (pemBegin ecPrivateKeyLabel) front ∧
    encodeP256Sec1PrivateKeyPem identity.signingKey = .ok pem ∧
    disk files.privateKeyPath = .ok (front ++ pem ++ back) ∧ validUtf8 (front ++ pem ++ back) = true

theorem decodeP256Sec1PrivateKeyPem_foreign {signingKey : Scalar} {front pem : Bytes} (back : Bytes)
    (hfront : IsForeign (pemBegin ecPrivateKeyLabel) front) (hpem : encodeP256Sec1PrivateKeyPem signingKey = .ok pem) :
    decodeP256Sec1PrivateKeyPem (front ++ pem ++ back) = .ok signingKey := by
  obtain ⟨der, hder, hencode⟩ := bind_eq_ok.1 hpem
  have hne : signingKey ≠ .zero := by
    rintro rfl
    cases hder
  obtain ⟨_, _, hder', hkey⟩ := encodeP256Sec1PrivateKeyDer_ok hne
  obtain rfl := Except.ok.inj (hder.symm.trans hder')
  rw [decodeP256Sec1PrivateKeyPem, pemDecode_foreign (by decide) der back hfront hencode, ok_bind,
    decode_of_isSec1PrivateKey hkey]

theorem StoresIdentity.holds {disk : Disk} {files : Config.TlsIdentityFiles} {identity : TlsIdentity}
    (h : StoresIdentity disk files identity) (hcertified : ∃ leaf, identity.Certified leaf) : HoldsIdentity disk files identity := by
  obtain ⟨front, blocks, hfront, hblocks, hchain, hread, hvalid⟩ := h.certificates
  obtain ⟨keyFront, pem, back, hkeyFront, hpem, hkeyRead, hkeyValid⟩ := h.privateKey
  have hne : blocks ≠ [] := by
    rintro rfl
    obtain ⟨_, ⟨first, rest, hsplit, -⟩, -⟩ := hcertified
    rw [hsplit] at hchain
    cases hchain
  refine ⟨⟨_, hread, hvalid, ?_⟩, ⟨_, hkeyRead, hkeyValid, decodeP256Sec1PrivateKeyPem_foreign back hkeyFront hpem⟩,
    hcertified⟩
  rw [decodeX509CertificateChainPem_blocks hne hfront hblocks, hchain]

/-- The loader gives no store exactly for no files, and a store exactly when each pair of files holds the identity in its
place: a chain of certificates of which the first is for the key and the names. Identities that were issued and are
written in PEM, whatever other lines are around, are loaded as they were. -/
theorem TlsIdentityStore.loadFiles_exact (disk : Disk) (identityFiles : List Config.TlsIdentityFiles) :
    (loadFiles disk identityFiles = .ok none ↔ identityFiles = []) ∧
    (∀ store, loadFiles disk identityFiles = .ok (some store) ↔
      List.Forall₂ (HoldsIdentity disk) identityFiles store.identities) ∧
    ∀ store : TlsIdentityStore, List.Forall₂ (StoresIdentity disk) identityFiles store.identities →
      (∀ identity ∈ store.identities, ∃ leaf issuers, identity.Issued leaf issuers) →
      loadFiles disk identityFiles = .ok (some store) := by
  refine ⟨loadFiles_eq_none, fun store => loadFiles_eq_some, fun store hstores hissued => loadFiles_eq_some.2 ?_⟩
  apply List.forall₂_iff_get.2
  obtain ⟨hlength, hget⟩ := List.forall₂_iff_get.1 hstores
  refine ⟨hlength, fun i h₁ h₂ => ?_⟩
  obtain ⟨leaf, issuers, hidentity⟩ := hissued _ (List.get_mem _ _)
  exact (hget i h₁ h₂).holds hidentity.certified

/-! ### What is shown -/

/-- An entry of the list, without extensions. -/
def certificateEntry (certificate : Bytes) : Bytes := uint24 certificate.length ++ (certificate ++ [0, 0])

/-- A Certificate with an empty context. -/
def certificateMessage (chain : List Bytes) : Bytes :=
  handshakeMessage handshakeTypeCertificate
    (0 :: (uint24 (chain.flatMap certificateEntry).length ++ chain.flatMap certificateEntry))

theorem foldlM_appendCertificate {chain : List Bytes} {before after : Bytes × Nat}
    (h : chain.foldlM appendCertificate before = .ok after) : after.1 = before.1 ++ chain.flatMap certificateEntry := by
  induction chain generalizing before with
  | nil =>
    cases h
    rw [List.flatMap_nil, List.append_nil]
  | cons certificate chain ih =>
    rw [List.foldlM_cons] at h
    obtain ⟨next, hnext, hrest⟩ := bind_eq_ok.1 h
    obtain ⟨_, -, hnext⟩ := bind_eq_ok.1 hnext
    obtain ⟨_, -, hnext⟩ := bind_eq_ok.1 hnext
    obtain ⟨_, -, hnext⟩ := bind_eq_ok.1 hnext
    cases hnext
    rw [ih hrest, List.flatMap_cons, List.append_assoc]
    rfl

theorem buildTls13Certificate_ok {chain : List Bytes} {certificate : Bytes}
    (h : buildTls13Certificate chain = .ok certificate) : certificate = certificateMessage chain := by
  obtain ⟨_, -, h⟩ := bind_eq_ok.1 h
  obtain ⟨⟨certificateList, _⟩, hlist, h⟩ := bind_eq_ok.1 h
  obtain rfl : certificateList = chain.flatMap certificateEntry := foldlM_appendCertificate hlist
  exact (encodeHandshakeMessage_ok.1 h).2

/-- What a client checks in a flight: the first certificate it is sent has the name it asked for, and the signature over
the conversation is under the key of that certificate. -/
def Proves (serverName hellos : Bytes) (flight : Tls13ServerHelloFlight)
    (authentication : Tls13ServerAuthenticationFlight) : Prop :=
  ∃ first rest leaf publicKey der signature,
    authentication.certificate = certificateMessage (first :: rest) ∧
    parseX509CertificateDer first = .ok leaf ∧ (∃ dnsName ∈ leaf.dnsNames, Presents dnsName serverName) ∧
    leaf.publicKey.p256PublicKey = some publicKey ∧
    authentication.certificateVerify = handshakeMessage handshakeTypeCertificateVerify
      (beBytes 2 tlsSignatureEcdsaSecp256r1Sha256 ++ (beBytes 2 der.length ++ der)) ∧
    readP256Signature der = some signature ∧
    p256EcdsaVerifySha256 publicKey (tls13ServerCertificateVerifyContent
      (sha256 (hellos ++ flight.serverHello ++ flight.encryptedExtensions ++ authentication.certificate)))
      signature = true

/-- A certified identity proves the names that it is chosen by. -/
theorem Shows.proves {turns : Nat} {identity : TlsIdentity} {leaf : X509CertificateInfo} {flight : Tls13ServerHelloFlight}
    {hellos serverName : Bytes} {authentication : Tls13ServerAuthenticationFlight} {record : TlsCiphertextRecord}
    {state : Tls13ApplicationState} (h : Shows turns identity flight hellos authentication record state)
    (hcertified : identity.Certified leaf) (hname : ∃ dnsName ∈ identity.dnsNames, Presents dnsName serverName) :
    Proves serverName hellos flight authentication := by
  obtain ⟨flight', hauthenticated⟩ := h.authenticated
  obtain ⟨first, rest, hchain, hleaf, -⟩ := hcertified.chain
  have htranscript : flight.transcript.updateHandshakeMessage authentication.certificate =
      .ofBytes (hellos ++ flight.serverHello ++ flight.encryptedExtensions ++ authentication.certificate) := by
    rw [transcript_of_negotiated h.negotiated, TlsTranscript.updateHandshakeMessage_ofBytes]
  obtain ⟨der, signature, _, hverify, hread, hsignature, -⟩ :=
    authenticated_checks htranscript hcertified.signingKey_ne_zero hauthenticated
  have hmessage := buildTls13Certificate_ok hauthenticated.certificate
  rw [hchain] at hmessage
  rw [hcertified.dnsNames_eq] at hname
  exact ⟨first, rest, leaf, _, der, signature, hmessage, hleaf, hname, hcertified.publicKey_eq, hverify, hread,
    hsignature⟩

end BareProxy.Tls
