import BareProxy.Tls.Negotiation

/-!
# The client side

The ClientHello that `tls.rs` sends as a client and the handshake keys that it derives from the answer.
-/

namespace BareProxy.Tls

open P256 Crypto

/-! ### Building a ClientHello -/

/-- The extensions in the order in which they are appended. -/
def clientHelloExtensions (serverName : Bytes) (publicKey : ByteArrayN 65) : List (Nat × Bytes) :=
  [(extensionServerName,
      beBytes 2 (serverName.length + 3) ++ 0 :: (beBytes 2 serverName.length ++ serverName)),
    (extensionSupportedGroups, [0x00, 0x02, 0x00, 0x17]),
    (extensionSignatureAlgorithms, [0x00, 0x02, 0x04, 0x03]),
    (extensionApplicationLayerProtocolNegotiation, beBytes 2 9 ++ 8 :: alpnHttp11),
    (extensionSupportedVersions, [0x02, 0x03, 0x04]),
    (extensionKeyShare,
      beBytes 2 (2 + 2 + 65) ++ (beBytes 2 tlsGroupSecp256r1 ++ (beBytes 2 65 ++ publicKey.toList)))]

def clientHelloBody (random : ByteArrayN 32) (extensions : Bytes) : Bytes :=
  beBytes 2 tlsLegacyRecordVersion ++ (random.toList ++
    0 :: (beBytes 2 2 ++ (beBytes 2 tlsChacha20Poly1305Sha256 ++
      1 :: 0 :: (beBytes 2 extensions.length ++ extensions))))

def buildTls13ClientHello (serverName : Bytes) (random : ByteArrayN 32) (privateKey : Scalar) :
    Except TlsClientHelloBuildError Bytes := do
  ensure (isValidServerName serverName) .invalidServerName
  ensure (privateKey ≠ .zero) .zeroPrivateKey
  let publicKey ← mapErr .publicKey (p256GeneratorMultiply privateKey).toSec1Uncompressed
  let extensions := tlsExtensions (clientHelloExtensions serverName publicKey)
  return handshakeMessage handshakeTypeClientHello (clientHelloBody random extensions)

/-! ### The flight -/

structure Tls13ClientHelloFlight where
  clientHello : Bytes
  privateKey : Scalar
  transcript : TlsTranscript

structure Tls13ClientHandshakeState where
  clientHandshakeTrafficSecret : ByteArrayN 32
  serverHandshakeTrafficSecret : ByteArrayN 32
  mainSecret : ByteArrayN 32
  transcript : TlsTranscript
  handshakeRecordProtection : Tls13RecordProtection

namespace Tls13ClientHelloFlight

/-- The flight for a random value and a key that were drawn. -/
def ofRandom (serverName : Bytes) (random : ByteArrayN 32) (privateKey : Scalar) :
    Except TlsClientHandshakeError Tls13ClientHelloFlight := do
  let clientHello ← mapErr .clientHello (buildTls13ClientHello serverName random privateKey)
  let transcript := TlsTranscript.new.updateHandshakeMessage clientHello
  return { clientHello, privateKey, transcript }

def new (draws : List RandomDraw) (serverName : Bytes) :
    Option (Except TlsClientHandshakeError Tls13ClientHelloFlight) :=
  if !isValidServerName serverName then
    some (.error (.clientHello .invalidServerName))
  else
    match draws with
    | [] => none
    | .error error :: _ => some (.error (.random error))
    | .ok random :: draws =>
        match generateEphemeralP256PrivateKey draws with
        | none => none
        | some (.error error, _) => some (.error (.random error))
        | some (.ok privateKey, _) => some (ofRandom serverName random privateKey.1)

def receiveServerHello (flight : Tls13ClientHelloFlight) (serverHelloMessage : Bytes) :
    Except TlsClientHandshakeError Tls13ClientHandshakeState := do
  let serverHello ← parseTls13ServerHello serverHelloMessage
  ensure (serverHello.legacySessionIdEcho = []) .legacySessionIdMismatch
  let serverPublicKey ←
    mapErr .invalidServerKeyShare (P256Point.fromSec1Uncompressed serverHello.serverKeyShare)
  let sharedSecret ← mapErr .ecdh (p256Ecdh flight.privateKey serverPublicKey)
  let transcript := flight.transcript.updateHandshakeMessage serverHelloMessage
  let helloTranscriptHash := transcript.hash
  let keySchedule ← mapErr .keySchedule (deriveTls13HandshakeKeySchedule sharedSecret helloTranscriptHash)
  let handshakeRecordProtection := Tls13RecordProtection.new keySchedule.clientKey keySchedule.clientIv
    keySchedule.serverKey keySchedule.serverIv
  return ⟨keySchedule.clientHandshakeTrafficSecret, keySchedule.serverHandshakeTrafficSecret,
    keySchedule.mainSecret, transcript, handshakeRecordProtection⟩

end Tls13ClientHelloFlight

def Tls13ClientHandshakeState.decryptServerHandshakeRecord (state : Tls13ClientHandshakeState)
    (record : TlsCiphertextRecord) :
    Except TlsClientHandshakeError TlsPlaintextRecord × Tls13ClientHandshakeState :=
  match state.handshakeRecordProtection.decryptRecord record with
  | (.error error, handshakeRecordProtection) =>
      (.error (.recordProtection error), { state with handshakeRecordProtection })
  | (.ok plaintext, handshakeRecordProtection) =>
      let state := { state with handshakeRecordProtection }
      if plaintext.contentType ≠ .handshake then
        (.error (.unexpectedProtectedContentType plaintext.contentType), state)
      else
        (.ok plaintext, state)

/-! ### The server reads what the client built -/

open HandshakeReader

theorem isValidServerName_isAscii {name : Bytes} (h : isValidServerName name = true) :
    validUtf8 name = true ∧ name.length ≤ 253 := by
  rw [isValidServerName] at h
  split at h
  · cases h
  · split at h
    · cases h
    · rename_i hutf8
      split at h
      · cases h
      · rename_i hlimit
        simp only [Bool.or_eq_true, decide_eq_true_iff, not_or] at hlimit
        exact ⟨by simpa using hutf8, Nat.not_lt.1 hlimit.1.1⟩

theorem parseServerName_build {name : Bytes} (h : isValidServerName name = true) :
    parseServerName (beBytes 2 (name.length + 3) ++ 0 :: (beBytes 2 name.length ++ name)) =
      .ok (some (toAsciiLowercase name)) := by
  obtain ⟨hutf8, hlength⟩ := isValidServerName_isAscii h
  have hlist : (0 :: (beBytes 2 name.length ++ name)).length = name.length + 3 := by
    rw [List.length_cons, List.length_append, length_beBytes]
    omega
  have houter := @readVectorU16_append "server_name_list" (0 :: (beBytes 2 name.length ++ name)) (by omega) []
  rw [List.append_nil, hlist] at houter
  have hname := @readVectorU16_append "server_name" name (by omega) []
  rw [List.append_nil] at hname
  have hstep : serverNameLoop.step ([], none) (0 :: (beBytes 2 name.length ++ name)) =
      .ok (([0], some (toAsciiLowercase name)), []) := by
    show readServerName ([], none) (0 :: (beBytes 2 name.length ++ name)) = _
    simp [readServerName, readU8_eq_ok.2 rfl, hname, h, hutf8, ensure]
  rw [parseServerName, houter, ok_bind]
  simp [ReadLoop.run_of_step hstep, ensure]

theorem parseAlpnProtocols_build : parseAlpnProtocols (beBytes 2 9 ++ 8 :: alpnHttp11) = .ok [alpnHttp11] := by
  have hlength : alpnHttp11.length = 8 := by decide
  have hne : alpnHttp11 ≠ [] := by decide
  generalize alpnHttp11 = protocol at hlength hne
  have houter := @readVectorU16_append "application_layer_protocol_negotiation" (8 :: protocol)
    (by rw [List.length_cons, hlength]; decide) []
  rw [List.append_nil, List.length_cons, hlength] at houter
  have hprotocol : readVectorU8 "alpn_protocol_name" (8 :: protocol) = .ok (protocol, []) := by
    apply readVectorU8_eq_ok.2
    rw [hlength, List.append_nil]
    exact ⟨by decide, rfl⟩
  have hstep : alpnProtocolLoop.step [] (8 :: protocol) = .ok ([protocol], []) := by
    show readAlpnProtocol [] (8 :: protocol) = _
    simp [readAlpnProtocol, hprotocol, hne, ensure]
  rw [parseAlpnProtocols, houter, ok_bind]
  simp [ReadLoop.run_of_step hstep, ensure]

theorem parseClientKeyShares_build (publicKey : ByteArrayN 65) :
    parseClientKeyShares
        (beBytes 2 (2 + 2 + 65) ++ (beBytes 2 tlsGroupSecp256r1 ++ (beBytes 2 65 ++ publicKey.toList))) =
      .ok [⟨tlsGroupSecp256r1, publicKey.toList⟩] := by
  have hlength : publicKey.toList.length = 65 := publicKey.length_toList
  have hentry : (beBytes 2 tlsGroupSecp256r1 ++ (beBytes 2 65 ++ publicKey.toList)).length = 2 + 2 + 65 := by
    simp [hlength]
  have houter := @readVectorU16_append "key_share"
    (beBytes 2 tlsGroupSecp256r1 ++ (beBytes 2 65 ++ publicKey.toList)) (by rw [hentry]; decide) []
  rw [List.append_nil, hentry] at houter
  have hkey := @readVectorU16_append "key_exchange" publicKey.toList (by rw [hlength]; decide) []
  rw [List.append_nil, hlength] at hkey
  have hne : publicKey.toList ≠ [] := by
    rw [← List.length_pos_iff, hlength]
    decide
  have hgroup := @readU16_append tlsGroupSecp256r1 (by decide) (beBytes 2 65 ++ publicKey.toList)
  have hstep : clientKeyShareLoop.step [] (beBytes 2 tlsGroupSecp256r1 ++ (beBytes 2 65 ++ publicKey.toList)) =
      .ok ([⟨tlsGroupSecp256r1, publicKey.toList⟩], []) := by
    show readClientKeyShare _ _ = _
    simp [readClientKeyShare, hgroup, hkey, hne, ensure]
  rw [parseClientKeyShares, houter, ok_bind]
  simp [ReadLoop.run_of_step hstep]

/-- A list of one value. -/
theorem parseU16Values_beBytes {n : Nat} (h : n < 256 ^ 2) (field : String) :
    parseU16Values (beBytes 2 n) field = .ok [n] := by
  obtain ⟨high, low, hbytes⟩ := List.length_eq_two.1 (length_beBytes 2 n)
  have hvalue : ofBe [high, low] = n := by rw [← hbytes, ofBe_beBytes, Nat.mod_eq_of_lt h]
  rw [hbytes, parseU16Values, if_neg (by simp), u16Values, u16Values, hvalue]
  simp

theorem parseU16VectorU16_single {n : Nat} (h : n < 256 ^ 2) (field : String) :
    parseU16VectorU16 (beBytes 2 2 ++ beBytes 2 n) field = .ok [n] := by
  have hread := @readVectorU16_append field (beBytes 2 n) (by rw [length_beBytes]; decide) []
  rw [List.append_nil, length_beBytes] at hread
  rw [parseU16VectorU16, hread, ok_bind]
  exact parseU16Values_beBytes h field

theorem parseU16VectorU8_single {n : Nat} (h : n < 256 ^ 2) (field : String) :
    parseU16VectorU8 (UInt8.ofNat 2 :: beBytes 2 n) field = .ok [n] := by
  have hread := @readVectorU8_cons field (beBytes 2 n) (by rw [length_beBytes]; decide) []
  rw [List.append_nil, length_beBytes] at hread
  rw [parseU16VectorU8, hread, ok_bind]
  exact parseU16Values_beBytes h field

/-- Keeps the data of an extension and adds it to what was parsed. -/
def addClientHelloExtension (parsed : ParsedClientHelloExtensions) :
    Nat × Bytes → Except TlsHandshakeError ParsedClientHelloExtensions
  | (extensionType, data) =>
      ({ parsed with rawExtensions := parsed.rawExtensions ++ [(extensionType, data)] } :
        ParsedClientHelloExtensions).addExtension extensionType data false

/-- Where an extension stands matters only for a pre-shared key. -/
theorem addExtension_isLast {extensionType : Nat} (h : extensionType ≠ extensionPreSharedKey)
    (parsed : ParsedClientHelloExtensions) (data : Bytes) (isLastExtension : Bool) :
    parsed.addExtension extensionType data isLastExtension = parsed.addExtension extensionType data false := by
  simp only [ParsedClientHelloExtensions.addExtension, if_neg h]

/-- A block of different extensions without a pre-shared key is read one by one. -/
theorem clientHelloExtensionLoop_run {extensions : List (Nat × Bytes)} {parsed parsed' : ParsedClientHelloExtensions}
    {seenExtensions : List Nat}
    (hsmall : ∀ extension ∈ extensions, extension.1 < 256 ^ 2 ∧ extension.2.length < 256 ^ 2 ∧
      extension.1 ≠ extensionPreSharedKey)
    (hdistinct : (extensions.map Prod.fst).Nodup) (hnew : ∀ extension ∈ extensions, extension.1 ∉ seenExtensions)
    (h : extensions.foldlM addClientHelloExtension parsed = .ok parsed') :
    clientHelloExtensionLoop.run (parsed, seenExtensions) (tlsExtensions extensions) =
      .ok (parsed', seenExtensions ++ extensions.map Prod.fst) := by
  induction extensions generalizing parsed seenExtensions with
  | nil =>
      cases h
      rw [List.map_nil, List.append_nil]
      exact ReadLoop.run_nil _
  | cons extension extensions ih =>
      obtain ⟨extensionType, data⟩ := extension
      rw [List.foldlM_cons, bind_eq_ok] at h
      obtain ⟨parsed₁, hadd, h⟩ := h
      rw [List.map_cons, List.nodup_cons] at hdistinct
      obtain ⟨htype, hdata, hlast⟩ := hsmall _ List.mem_cons_self
      have hstep : clientHelloExtensionLoop.step (parsed, seenExtensions)
          (tlsExtension extensionType data ++ tlsExtensions extensions) =
            .ok ((parsed₁, seenExtensions ++ [extensionType]), tlsExtensions extensions) := by
        show readClientHelloExtension (parsed, seenExtensions) _ = _
        rw [tlsExtension, List.append_assoc, List.append_assoc, readClientHelloExtension]
        simp only [readU16_append htype, readVectorU16_append hdata, ok_bind, ensure_of (hnew _ List.mem_cons_self),
          addExtension_isLast hlast]
        rw [addClientHelloExtension] at hadd
        rw [hadd, ok_bind, pure_eq_ok]
      have hrest : ∀ other ∈ extensions, other.1 ∉ seenExtensions ++ [extensionType] := by
        intro other hother hseen
        rcases List.mem_append.1 hseen with hseen | hseen
        · exact hnew other (List.mem_cons_of_mem _ hother) hseen
        · rw [List.mem_singleton] at hseen
          exact hdistinct.1 (List.mem_map.2 ⟨other, hother, hseen⟩)
      show clientHelloExtensionLoop.run _ (tlsExtension extensionType data ++ tlsExtensions extensions) = _
      rw [ReadLoop.run_of_step hstep, ih (fun other hother => hsmall other (List.mem_cons_of_mem _ hother))
        hdistinct.2 hrest h, List.append_assoc, List.map_cons, List.singleton_append]

/-! What each of the extensions of the client adds. -/

section AddExtension

variable (parsed : ParsedClientHelloExtensions) {data : Bytes}

theorem addClientHelloExtension_serverName {serverName : Option Bytes} (h : parseServerName data = .ok serverName) :
    addClientHelloExtension parsed (extensionServerName, data) = .ok { parsed with
      serverName, rawExtensions := parsed.rawExtensions ++ [(extensionServerName, data)] } := by
  rw [addClientHelloExtension, ParsedClientHelloExtensions.addExtension, if_pos rfl, h, ok_bind, pure_eq_ok]

theorem addClientHelloExtension_supportedGroups {groups : List Nat}
    (h : parseU16VectorU16 data "supported_groups" = .ok groups) :
    addClientHelloExtension parsed (extensionSupportedGroups, data) = .ok { parsed with
      supportedGroups := some groups
      rawExtensions := parsed.rawExtensions ++ [(extensionSupportedGroups, data)] } := by
  rw [addClientHelloExtension, ParsedClientHelloExtensions.addExtension, if_neg (by decide), if_pos rfl, h, ok_bind,
    pure_eq_ok]

theorem addClientHelloExtension_signatureAlgorithms {algorithms : List Nat}
    (h : parseU16VectorU16 data "signature_algorithms" = .ok algorithms) :
    addClientHelloExtension parsed (extensionSignatureAlgorithms, data) = .ok { parsed with
      signatureAlgorithms := some algorithms
      rawExtensions := parsed.rawExtensions ++ [(extensionSignatureAlgorithms, data)] } := by
  rw [addClientHelloExtension, ParsedClientHelloExtensions.addExtension, if_neg (by decide), if_neg (by decide),
    if_pos rfl, h, ok_bind, pure_eq_ok]

theorem addClientHelloExtension_alpn {protocols : List Bytes} (h : parseAlpnProtocols data = .ok protocols) :
    addClientHelloExtension parsed (extensionApplicationLayerProtocolNegotiation, data) = .ok { parsed with
      alpnProtocols := some protocols
      rawExtensions := parsed.rawExtensions ++ [(extensionApplicationLayerProtocolNegotiation, data)] } := by
  rw [addClientHelloExtension, ParsedClientHelloExtensions.addExtension, if_neg (by decide), if_neg (by decide),
    if_neg (by decide), if_pos rfl, h, ok_bind, pure_eq_ok]

theorem addClientHelloExtension_supportedVersions {versions : List Nat}
    (h : parseU16VectorU8 data "supported_versions" = .ok versions) :
    addClientHelloExtension parsed (extensionSupportedVersions, data) = .ok { parsed with
      supportedVersions := some versions
      rawExtensions := parsed.rawExtensions ++ [(extensionSupportedVersions, data)] } := by
  rw [addClientHelloExtension, ParsedClientHelloExtensions.addExtension, if_neg (by decide), if_neg (by decide),
    if_neg (by decide), if_neg (by decide), if_neg (by decide), if_pos rfl, h, ok_bind, pure_eq_ok]

theorem addClientHelloExtension_keyShare {shares : List TlsKeyShareEntry} (h : parseClientKeyShares data = .ok shares) :
    addClientHelloExtension parsed (extensionKeyShare, data) = .ok { parsed with
      keyShares := some shares
      rawExtensions := parsed.rawExtensions ++ [(extensionKeyShare, data)] } := by
  rw [addClientHelloExtension, ParsedClientHelloExtensions.addExtension, if_neg (by decide), if_neg (by decide),
    if_neg (by decide), if_neg (by decide), if_neg (by decide), if_neg (by decide), if_pos rfl, h, ok_bind, pure_eq_ok]

end AddExtension

/-- The extensions of the client with some list of key shares. -/
def offeredExtensions (serverName keyShares : Bytes) : List (Nat × Bytes) :=
  [(extensionServerName,
      beBytes 2 (serverName.length + 3) ++ 0 :: (beBytes 2 serverName.length ++ serverName)),
    (extensionSupportedGroups, [0x00, 0x02, 0x00, 0x17]),
    (extensionSignatureAlgorithms, [0x00, 0x02, 0x04, 0x03]),
    (extensionApplicationLayerProtocolNegotiation, beBytes 2 9 ++ 8 :: alpnHttp11),
    (extensionSupportedVersions, [0x02, 0x03, 0x04]),
    (extensionKeyShare, keyShares)]

/-- What these extensions say. -/
def offered (serverName keyShares : Bytes) (entries : List TlsKeyShareEntry) : ParsedClientHelloExtensions where
  serverName := some (toAsciiLowercase serverName)
  supportedVersions := some [tlsVersion13]
  supportedGroups := some [tlsGroupSecp256r1]
  keyShares := some entries
  signatureAlgorithms := some [tlsSignatureEcdsaSecp256r1Sha256]
  alpnProtocols := some [alpnHttp11]
  rawExtensions := offeredExtensions serverName keyShares
  preSharedKeyPresent := false

theorem foldlM_offeredExtensions {serverName keyShares : Bytes} {entries : List TlsKeyShareEntry}
    (h : isValidServerName serverName = true) (hentries : parseClientKeyShares keyShares = .ok entries) :
    (offeredExtensions serverName keyShares).foldlM addClientHelloExtension {} =
      .ok (offered serverName keyShares entries) := by
  have hgroups : parseU16VectorU16 [0x00, 0x02, 0x00, 0x17] "supported_groups" = .ok [tlsGroupSecp256r1] := by
    rw [show ([0x00, 0x02, 0x00, 0x17] : Bytes) = beBytes 2 2 ++ beBytes 2 tlsGroupSecp256r1 by decide]
    exact parseU16VectorU16_single (by decide) _
  have halgorithms : parseU16VectorU16 [0x00, 0x02, 0x04, 0x03] "signature_algorithms" =
      .ok [tlsSignatureEcdsaSecp256r1Sha256] := by
    rw [show ([0x00, 0x02, 0x04, 0x03] : Bytes) = beBytes 2 2 ++ beBytes 2 tlsSignatureEcdsaSecp256r1Sha256 by decide]
    exact parseU16VectorU16_single (by decide) _
  have hversions : parseU16VectorU8 [0x02, 0x03, 0x04] "supported_versions" = .ok [tlsVersion13] := by
    rw [show ([0x02, 0x03, 0x04] : Bytes) = UInt8.ofNat 2 :: beBytes 2 tlsVersion13 by decide]
    exact parseU16VectorU8_single (by decide) _
  rw [offeredExtensions, List.foldlM_cons, addClientHelloExtension_serverName _ (parseServerName_build h), ok_bind,
    List.foldlM_cons, addClientHelloExtension_supportedGroups _ hgroups, ok_bind,
    List.foldlM_cons, addClientHelloExtension_signatureAlgorithms _ halgorithms, ok_bind,
    List.foldlM_cons, addClientHelloExtension_alpn _ parseAlpnProtocols_build, ok_bind,
    List.foldlM_cons, addClientHelloExtension_supportedVersions _ hversions, ok_bind,
    List.foldlM_cons, addClientHelloExtension_keyShare _ hentries, ok_bind,
    List.foldlM_nil, pure_eq_ok]
  rfl

theorem length_offeredExtensions (serverName keyShares : Bytes) :
    (tlsExtensions (offeredExtensions serverName keyShares)).length = serverName.length + keyShares.length + 51 := by
  have halpn : alpnHttp11.length = 8 := by decide
  simp only [tlsExtensions, offeredExtensions, List.flatMap_cons, List.flatMap_nil, tlsExtension,
    List.length_append, List.length_cons, List.length_nil, length_beBytes, halpn]
  omega

theorem length_le_tlsExtensions {extension : Nat × Bytes} {extensions : List (Nat × Bytes)}
    (h : extension ∈ extensions) : extension.2.length ≤ (tlsExtensions extensions).length := by
  obtain ⟨before, after, rfl⟩ := List.append_of_mem h
  simp only [tlsExtensions, List.flatMap_append, List.flatMap_cons, tlsExtension, List.length_append]
  omega

theorem parseClientHelloExtensions_offered {serverName keyShares : Bytes} {entries : List TlsKeyShareEntry}
    (h : isValidServerName serverName = true) (hshares : keyShares.length ≤ 1000)
    (hentries : parseClientKeyShares keyShares = .ok entries) :
    parseClientHelloExtensions (tlsExtensions (offeredExtensions serverName keyShares)) =
      .ok (offered serverName keyShares entries) := by
  have hname := (isValidServerName_isAscii h).2
  have htypes : (offeredExtensions serverName keyShares).map Prod.fst =
      [extensionServerName, extensionSupportedGroups, extensionSignatureAlgorithms,
        extensionApplicationLayerProtocolNegotiation, extensionSupportedVersions, extensionKeyShare] := rfl
  have hsmall : ∀ extension ∈ offeredExtensions serverName keyShares,
      extension.1 < 256 ^ 2 ∧ extension.2.length < 256 ^ 2 ∧ extension.1 ≠ extensionPreSharedKey := by
    intro extension hextension
    have htype : extension.1 < 256 ^ 2 ∧ extension.1 ≠ extensionPreSharedKey := by
      have hmem : extension.1 ∈ (offeredExtensions serverName keyShares).map Prod.fst :=
        List.mem_map_of_mem hextension
      rw [htypes] at hmem
      revert hmem
      generalize extension.1 = extensionType
      simp only [List.mem_cons, List.not_mem_nil, or_false]
      rintro (rfl | rfl | rfl | rfl | rfl | rfl) <;> decide
    have hle := length_le_tlsExtensions hextension
    rw [length_offeredExtensions] at hle
    exact ⟨htype.1, by omega, htype.2⟩
  have hdistinct : ((offeredExtensions serverName keyShares).map Prod.fst).Nodup := by
    rw [htypes]
    decide
  have hrun := clientHelloExtensionLoop_run hsmall hdistinct (fun _ _ => List.not_mem_nil)
    (foldlM_offeredExtensions h hentries)
  rw [parseClientHelloExtensions, hrun, ok_bind]
  rfl

theorem validateClientHelloExtensions_offered (serverName keyShares : Bytes) {entries : List TlsKeyShareEntry}
    (hgroups : validateKeyShareGroups [tlsGroupSecp256r1] entries = .ok ()) :
    validateClientHelloExtensions (offered serverName keyShares entries) = .ok [tlsVersion13] := by
  simp only [validateClientHelloExtensions, offered, okOr, ok_bind, ensure_of List.mem_cons_self,
    Option.isSome_some, or_true, ensure_of, hgroups, pure_eq_ok]

/-- What the server reads from a ClientHello with some list of key shares. -/
def offeredClientHello (serverName keyShares : Bytes) (random : ByteArrayN 32) (entries : List TlsKeyShareEntry) :
    ClientHello where
  random
  legacySessionId := []
  cipherSuites := [tlsChacha20Poly1305Sha256]
  serverName := some (toAsciiLowercase serverName)
  supportedVersions := [tlsVersion13]
  supportedGroups := [tlsGroupSecp256r1]
  keyShares := entries
  signatureAlgorithms := [tlsSignatureEcdsaSecp256r1Sha256]
  alpnProtocols := [alpnHttp11]
  rawExtensions := offeredExtensions serverName keyShares
  preSharedKeyPresent := false

/-- The message of the client side, read by the server side. -/
def builtClientHello (serverName : Bytes) (random : ByteArrayN 32) (publicKey : ByteArrayN 65) : ClientHello where
  random
  legacySessionId := []
  cipherSuites := [tlsChacha20Poly1305Sha256]
  serverName := some (toAsciiLowercase serverName)
  supportedVersions := [tlsVersion13]
  supportedGroups := [tlsGroupSecp256r1]
  keyShares := [⟨tlsGroupSecp256r1, publicKey.toList⟩]
  signatureAlgorithms := [tlsSignatureEcdsaSecp256r1Sha256]
  alpnProtocols := [alpnHttp11]
  rawExtensions := clientHelloExtensions serverName publicKey
  preSharedKeyPresent := false

/-- A message with these extensions is read by the server side. -/
theorem parseClientHello_body {extensions : Bytes} {parsed : ParsedClientHelloExtensions} {versions : List Nat}
    (random : ByteArrayN 32) (hextensions : extensions.length < 256 ^ 2)
    (hparsed : parseClientHelloExtensions extensions = .ok parsed)
    (hvalid : validateClientHelloExtensions parsed = .ok versions) :
    parseClientHello (handshakeMessage handshakeTypeClientHello (clientHelloBody random extensions)) =
      .ok {
        random
        legacySessionId := []
        cipherSuites := [tlsChacha20Poly1305Sha256]
        serverName := parsed.serverName
        supportedVersions := versions
        supportedGroups := parsed.supportedGroups.getD []
        keyShares := parsed.keyShares.getD []
        signatureAlgorithms := parsed.signatureAlgorithms.getD []
        alpnProtocols := parsed.alpnProtocols.getD []
        rawExtensions := parsed.rawExtensions
        preSharedKeyPresent := parsed.preSharedKeyPresent } := by
  have hlength : (clientHelloBody random extensions).length ≤ tlsUint24Max := by
    simp only [clientHelloBody, List.length_append, List.length_cons, length_beBytes, Vector.length_toList, tlsUint24Max]
    omega
  have hdeclared := @declaredLength_alone handshakeTypeClientHello _ hlength
  have hsession (rest : Bytes) : readVectorU8 "legacy_session_id" (0 :: rest) = .ok ([], rest) :=
    readVectorU8_eq_ok.2 ⟨by decide, rfl⟩
  have hsuites (rest : Bytes) : readVectorU16 "cipher_suites"
      (beBytes 2 2 ++ (beBytes 2 tlsChacha20Poly1305Sha256 ++ rest)) =
        .ok (beBytes 2 tlsChacha20Poly1305Sha256, rest) :=
    readVectorU16_eq_ok.2 ⟨by decide, rfl⟩
  have hcompression (rest : Bytes) : readVectorU8 "legacy_compression_methods" (1 :: 0 :: rest) = .ok ([0], rest) :=
    readVectorU8_eq_ok.2 ⟨by decide, rfl⟩
  have hblock : readVectorU16 "extensions" (beBytes 2 extensions.length ++ extensions) = .ok (extensions, []) :=
    readVectorU16_eq_ok.2 ⟨by omega, by rw [List.append_nil]⟩
  rw [parseClientHello, ensure_of (by rw [length_handshakeMessage]; omega), ok_bind]
  simp only [headD_handshakeMessage, ensure_of, ok_bind, hdeclared, drop_handshakeMessage]
  rw [clientHelloBody]
  simp only [readU16_append (show tlsLegacyRecordVersion < 256 ^ 2 by decide), ok_bind,
    readExact_append random.length_toList, hsession, hsuites, hcompression, hblock, hparsed,
    hvalid, finish_nil]
  have hvalues : u16Values (beBytes 2 tlsChacha20Poly1305Sha256) = [tlsChacha20Poly1305Sha256] := by decide
  have hmore : (beBytes 2 extensions.length ++ extensions).length ≠ 0 := by
    rw [List.length_append, length_beBytes]
    omega
  rw [ensure_of trivial, ok_bind, ensure_of (by decide), ok_bind, ensure_of (by decide), ok_bind, ensure_of trivial,
    ok_bind, ensure_of hmore, ok_bind, copyFromSlice_toList, hvalues, pure_eq_ok]

theorem parseClientHello_offered {serverName keyShares : Bytes} {entries : List TlsKeyShareEntry}
    (h : isValidServerName serverName = true) (hshares : keyShares.length ≤ 1000)
    (hentries : parseClientKeyShares keyShares = .ok entries)
    (hgroups : validateKeyShareGroups [tlsGroupSecp256r1] entries = .ok ()) (random : ByteArrayN 32) :
    parseClientHello (handshakeMessage handshakeTypeClientHello
        (clientHelloBody random (tlsExtensions (offeredExtensions serverName keyShares)))) =
      .ok (offeredClientHello serverName keyShares random entries) := by
  have hname := (isValidServerName_isAscii h).2
  refine parseClientHello_body random ?_ (parseClientHelloExtensions_offered h hshares hentries)
    (validateClientHelloExtensions_offered serverName keyShares hgroups)
  rw [length_offeredExtensions]
  omega

theorem acceptClientHello_offered {serverName keyShares : Bytes} {entries : List TlsKeyShareEntry}
    (h : isValidServerName serverName = true) (hshares : keyShares.length ≤ 1000)
    (hentries : parseClientKeyShares keyShares = .ok entries)
    (hgroups : validateKeyShareGroups [tlsGroupSecp256r1] entries = .ok ()) (random : ByteArrayN 32) :
    acceptClientHello (handshakeMessage handshakeTypeClientHello
        (clientHelloBody random (tlsExtensions (offeredExtensions serverName keyShares)))) =
      .ok (offeredClientHello serverName keyShares random entries) := by
  have hvalid : validateTls13ServerClientHello (offeredClientHello serverName keyShares random entries) = .ok () := rfl
  rw [acceptClientHello, parseClientHello_offered h hshares hentries hgroups, mapErr_ok, ok_bind, hvalid, ok_bind,
    pure_eq_ok]

theorem parseClientHello_build {serverName : Bytes} (h : isValidServerName serverName = true)
    (random : ByteArrayN 32) (publicKey : ByteArrayN 65) :
    parseClientHello (handshakeMessage handshakeTypeClientHello
        (clientHelloBody random (tlsExtensions (clientHelloExtensions serverName publicKey)))) =
      .ok (builtClientHello serverName random publicKey) := by
  refine parseClientHello_offered h ?_ (parseClientKeyShares_build publicKey) rfl random
  simp only [List.length_append, length_beBytes, Vector.length_toList]
  decide

/-- The server takes the ClientHello and finds the key share in it. -/
theorem acceptClientHello_build {serverName : Bytes} (h : isValidServerName serverName = true)
    (random : ByteArrayN 32) (publicKey : ByteArrayN 65) :
    acceptClientHello (handshakeMessage handshakeTypeClientHello
        (clientHelloBody random (tlsExtensions (clientHelloExtensions serverName publicKey)))) =
      .ok (builtClientHello serverName random publicKey) := by
  have hvalid : validateTls13ServerClientHello (builtClientHello serverName random publicKey) = .ok () := rfl
  rw [acceptClientHello, parseClientHello_build h, mapErr_ok, ok_bind, hvalid, ok_bind, pure_eq_ok]

end BareProxy.Tls
