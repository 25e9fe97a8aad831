import BareProxy.Base.IpAddr
import BareProxy.Base.ReadLoop
import BareProxy.Tls.HandshakeWire

/-!
# ClientHello

The message that opens a handshake, as `parse_client_hello` reads it. Each list inside it is a loop over
what is left of its vector.
-/

namespace BareProxy.Tls

structure TlsKeyShareEntry where
  group : Nat
  keyExchange : Bytes
  deriving DecidableEq, Repr

structure ClientHello where
  random : ByteArrayN 32
  legacySessionId : Bytes
  cipherSuites : List Nat
  serverName : Option Bytes
  supportedVersions : List Nat
  supportedGroups : List Nat
  keyShares : List TlsKeyShareEntry
  signatureAlgorithms : List Nat
  alpnProtocols : List Bytes
  rawExtensions : List (Nat × Bytes)
  preSharedKeyPresent : Bool
  deriving DecidableEq, Repr

namespace ClientHello

def hasExtension (clientHello : ClientHello) (extensionType : Nat) : Bool :=
  clientHello.rawExtensions.any fun candidate => candidate.1 = extensionType

def offersHttp11 (clientHello : ClientHello) : Bool := clientHello.alpnProtocols.any (· = alpnHttp11)

def offersChacha20Poly1305Sha256 (clientHello : ClientHello) : Bool :=
  clientHello.cipherSuites.contains tlsChacha20Poly1305Sha256

def supportsSecp256r1 (clientHello : ClientHello) : Bool := clientHello.supportedGroups.contains tlsGroupSecp256r1

def supportsEcdsaSecp256r1Sha256 (clientHello : ClientHello) : Bool :=
  clientHello.signatureAlgorithms.contains tlsSignatureEcdsaSecp256r1Sha256

def secp256r1KeyShare (clientHello : ClientHello) : Option Bytes :=
  (clientHello.keyShares.find? fun share => share.group = tlsGroupSecp256r1).map TlsKeyShareEntry.keyExchange

end ClientHello

/-! ### Server names -/

def isValidServerName (name : Bytes) : Bool :=
  if name.isEmpty || !isAscii name then false
  else if !validUtf8 name then false
  else if name.length > 253 || name.getLast? == some 46 || parsesAsIpAddr name then false
  else (name.splitOn 46).all fun label =>
    !label.isEmpty && label.length ≤ 63 && label.head? != some 45 && label.getLast? != some 45 &&
      label.all fun b => isAsciiAlphanumeric b || b == 45

/-- The name types seen and the host name. -/
def readServerName (state : List Byte × Option Bytes) (reader : HandshakeReader) :
    Except TlsHandshakeError ((List Byte × Option Bytes) × HandshakeReader) := do
  let (seenNameTypes, serverName) := state
  let (nameType, reader) ← reader.readU8
  let (name, reader) ← reader.readVectorU16 "server_name"
  ensure (nameType ∉ seenNameTypes) .duplicateServerName
  let seenNameTypes := seenNameTypes ++ [nameType]
  if nameType = 0 then
    ensure (isValidServerName name) .invalidServerName
    ensure (validUtf8 name) .invalidServerName
    return ((seenNameTypes, some (toAsciiLowercase name)), reader)
  else
    return ((seenNameTypes, serverName), reader)

/-! ### Values of two bytes -/

/-- `chunks_exact(2)` as big-endian numbers. -/
def u16Values : Bytes → List Nat
  | high :: low :: rest => ofBe [high, low] :: u16Values rest
  | _ => []

def parseU16Values (input : Bytes) (field : String) : Except TlsHandshakeError (List Nat) :=
  if input.length < 2 ∨ input.length % 2 ≠ 0 then .error (.malformedVector field) else .ok (u16Values input)

def parseU16VectorU8 (input : Bytes) (field : String) : Except TlsHandshakeError (List Nat) := do
  let (values, reader) ← HandshakeReader.readVectorU8 field input
  reader.finish field
  parseU16Values values field

def parseU16VectorU16 (input : Bytes) (field : String) : Except TlsHandshakeError (List Nat) := do
  let (values, reader) ← HandshakeReader.readVectorU16 field input
  reader.finish field
  parseU16Values values field

/-! ### The lists -/

def readAlpnProtocol (protocols : List Bytes) (reader : HandshakeReader) :
    Except TlsHandshakeError (List Bytes × HandshakeReader) := do
  let (protocol, reader) ← reader.readVectorU8 "alpn_protocol_name"
  ensure (protocol ≠ []) .invalidAlpn
  return (protocols ++ [protocol], reader)

def readClientKeyShare (shares : List TlsKeyShareEntry) (reader : HandshakeReader) :
    Except TlsHandshakeError (List TlsKeyShareEntry × HandshakeReader) := do
  let (group, reader) ← reader.readU16
  let (keyExchange, reader) ← reader.readVectorU16 "key_exchange"
  ensure (keyExchange ≠ []) (.malformedVector "key_exchange")
  ensure (¬shares.any fun share => share.group = group) (.duplicateKeyShareGroup group)
  return (shares ++ [{ group, keyExchange }], reader)

theorem readU8_shorter {reader rest : Bytes} {byte : Byte} (h : HandshakeReader.readU8 reader = .ok (byte, rest)) :
    rest.length < reader.length := by
  rw [HandshakeReader.readU8_eq_ok.mp h, List.length_cons]
  omega

theorem readU16_shorter {reader rest : Bytes} {n : Nat} (h : HandshakeReader.readU16 reader = .ok (n, rest)) :
    rest.length < reader.length := by
  rw [(HandshakeReader.readU16_eq_ok.mp h).2, List.length_append, length_beBytes]
  omega

theorem readVectorU8_shorter {field : String} {reader bytes rest : Bytes}
    (h : HandshakeReader.readVectorU8 field reader = .ok (bytes, rest)) : rest.length < reader.length := by
  rw [(HandshakeReader.readVectorU8_eq_ok.mp h).2, List.length_cons, List.length_append]
  omega

theorem readVectorU16_shorter {field : String} {reader bytes rest : Bytes}
    (h : HandshakeReader.readVectorU16 field reader = .ok (bytes, rest)) : rest.length < reader.length := by
  rw [(HandshakeReader.readVectorU16_eq_ok.mp h).2, List.length_append, List.length_append, length_beBytes]
  omega

def serverNameLoop : ReadLoop TlsHandshakeError (List Byte × Option Bytes) where
  step := readServerName
  step_shorter := by
    rintro ⟨seenNameTypes, serverName⟩ s' reader rest h
    obtain ⟨⟨nameType, reader₁⟩, htype, h⟩ := bind_eq_ok.mp h
    obtain ⟨⟨name, reader₂⟩, hname, h⟩ := bind_eq_ok.mp h
    obtain ⟨-, -, h⟩ := bind_eq_ok.mp h
    have hrest : rest = reader₂ := by
      dsimp only at h
      split at h
      · obtain ⟨-, -, h⟩ := bind_eq_ok.mp h
        obtain ⟨-, -, h⟩ := bind_eq_ok.mp h
        cases h
        rfl
      · cases h
        rfl
    have := readU8_shorter htype
    have := readVectorU16_shorter hname
    rw [hrest]
    omega

def alpnProtocolLoop : ReadLoop TlsHandshakeError (List Bytes) where
  step := readAlpnProtocol
  step_shorter := by
    intro protocols protocols' reader rest h
    obtain ⟨⟨protocol, reader₁⟩, hprotocol, h⟩ := bind_eq_ok.mp h
    obtain ⟨-, -, h⟩ := bind_eq_ok.mp h
    cases h
    exact readVectorU8_shorter hprotocol

def clientKeyShareLoop : ReadLoop TlsHandshakeError (List TlsKeyShareEntry) where
  step := readClientKeyShare
  step_shorter := by
    intro shares shares' reader rest h
    obtain ⟨⟨group, reader₁⟩, hgroup, h⟩ := bind_eq_ok.mp h
    obtain ⟨⟨keyExchange, reader₂⟩, hkey, h⟩ := bind_eq_ok.mp h
    obtain ⟨-, -, h⟩ := bind_eq_ok.mp h
    obtain ⟨-, -, h⟩ := bind_eq_ok.mp h
    cases h
    have := readU16_shorter hgroup
    have := readVectorU16_shorter hkey
    omega

def parseServerName (input : Bytes) : Except TlsHandshakeError (Option Bytes) := do
  let (serverNameList, outer) ← HandshakeReader.readVectorU16 "server_name_list" input
  outer.finish "server_name"
  ensure (serverNameList ≠ []) (.malformedVector "server_name_list")
  let (_, serverName) ← serverNameLoop.run ([], none) serverNameList
  return serverName

def parseAlpnProtocols (input : Bytes) : Except TlsHandshakeError (List Bytes) := do
  let (encodedProtocols, outer) ←
    HandshakeReader.readVectorU16 "application_layer_protocol_negotiation" input
  outer.finish "application_layer_protocol_negotiation"
  ensure (encodedProtocols ≠ []) .invalidAlpn
  alpnProtocolLoop.run [] encodedProtocols

def parseClientKeyShares (input : Bytes) : Except TlsHandshakeError (List TlsKeyShareEntry) := do
  let (encodedShares, outer) ← HandshakeReader.readVectorU16 "key_share" input
  outer.finish "key_share"
  clientKeyShareLoop.run [] encodedShares

/-- One share of the loop of `validate_key_share_groups`; the state is the index of the share before. -/
def validateKeyShareGroup (supportedGroups : List Nat) (previousGroupIndex : Option Nat) (keyShare : TlsKeyShareEntry) :
    Except TlsHandshakeError (Option Nat) := do
  let groupIndex ← okOr (.keyShareGroupNotOffered keyShare.group)
    (supportedGroups.findIdx? fun group => group = keyShare.group)
  ensure (¬previousGroupIndex.any fun previous => groupIndex ≤ previous) .keyShareOrderMismatch
  return some groupIndex

def validateKeyShareGroups (supportedGroups : List Nat) (keyShares : List TlsKeyShareEntry) :
    Except TlsHandshakeError Unit := do
  let _ ← keyShares.foldlM (validateKeyShareGroup supportedGroups) none
  return ()

/-! ### The extensions -/

structure ParsedClientHelloExtensions where
  serverName : Option Bytes := none
  supportedVersions : Option (List Nat) := none
  supportedGroups : Option (List Nat) := none
  keyShares : Option (List TlsKeyShareEntry) := none
  signatureAlgorithms : Option (List Nat) := none
  alpnProtocols : Option (List Bytes) := none
  rawExtensions : List (Nat × Bytes) := []
  preSharedKeyPresent : Bool := false
  deriving DecidableEq, Repr

/-- The `match` on the type of one extension. -/
def ParsedClientHelloExtensions.addExtension (parsed : ParsedClientHelloExtensions) (extensionType : Nat)
    (extensionData : Bytes) (isLastExtension : Bool) : Except TlsHandshakeError ParsedClientHelloExtensions :=
  if extensionType = extensionServerName then do
    let serverName ← parseServerName extensionData
    return { parsed with serverName }
  else if extensionType = extensionSupportedGroups then do
    let supportedGroups ← parseU16VectorU16 extensionData "supported_groups"
    return { parsed with supportedGroups := some supportedGroups }
  else if extensionType = extensionSignatureAlgorithms then do
    let signatureAlgorithms ← parseU16VectorU16 extensionData "signature_algorithms"
    return { parsed with signatureAlgorithms := some signatureAlgorithms }
  else if extensionType = extensionApplicationLayerProtocolNegotiation then do
    let alpnProtocols ← parseAlpnProtocols extensionData
    return { parsed with alpnProtocols := some alpnProtocols }
  else if extensionType = extensionPreSharedKey then
    if isLastExtension then .ok { parsed with preSharedKeyPresent := true } else .error .preSharedKeyNotLast
  else if extensionType = extensionSupportedVersions then do
    let supportedVersions ← parseU16VectorU8 extensionData "supported_versions"
    return { parsed with supportedVersions := some supportedVersions }
  else if extensionType = extensionKeyShare then do
    let keyShares ← parseClientKeyShares extensionData
    return { parsed with keyShares := some keyShares }
  else .ok parsed

/-- What was parsed so far and the types of the extensions. -/
def readClientHelloExtension (state : ParsedClientHelloExtensions × List Nat) (reader : HandshakeReader) :
    Except TlsHandshakeError ((ParsedClientHelloExtensions × List Nat) × HandshakeReader) := do
  let (parsed, seenExtensions) := state
  let (extensionType, reader) ← reader.readU16
  let (extensionData, reader) ← reader.readVectorU16 "extension_data"
  ensure (extensionType ∉ seenExtensions) (.duplicateExtension extensionType)
  let parsed := { parsed with rawExtensions := parsed.rawExtensions ++ [(extensionType, extensionData)] }
  let parsed ← parsed.addExtension extensionType extensionData (reader.length = 0)
  return ((parsed, seenExtensions ++ [extensionType]), reader)

def clientHelloExtensionLoop : ReadLoop TlsHandshakeError (ParsedClientHelloExtensions × List Nat) where
  step := readClientHelloExtension
  step_shorter := by
    rintro ⟨parsed, seenExtensions⟩ s' reader rest h
    obtain ⟨⟨extensionType, reader₁⟩, htype, h⟩ := bind_eq_ok.mp h
    obtain ⟨⟨extensionData, reader₂⟩, hdata, h⟩ := bind_eq_ok.mp h
    obtain ⟨-, -, h⟩ := bind_eq_ok.mp h
    obtain ⟨parsed', -, h⟩ := bind_eq_ok.mp h
    cases h
    have := readU16_shorter htype
    have := readVectorU16_shorter hdata
    omega

def parseClientHelloExtensions (input : Bytes) : Except TlsHandshakeError ParsedClientHelloExtensions := do
  let (parsed, _) ← clientHelloExtensionLoop.run ({}, []) input
  return parsed

/-! ### The message -/

/-- The checks between the extensions of one message. -/
def validateClientHelloExtensions (parsed : ParsedClientHelloExtensions) : Except TlsHandshakeError (List Nat) := do
  let supportedVersions ← okOr (.missingRequiredExtension extensionSupportedVersions) parsed.supportedVersions
  ensure (tlsVersion13 ∈ supportedVersions) .tls13Required
  ensure (parsed.preSharedKeyPresent ∨ parsed.signatureAlgorithms.isSome)
    (.missingRequiredExtension extensionSignatureAlgorithms)
  ensure (parsed.preSharedKeyPresent ∨ parsed.supportedGroups.isSome)
    (.missingRequiredExtension extensionSupportedGroups)
  match parsed.supportedGroups, parsed.keyShares with
  | some _, none => .error (.missingRequiredExtension extensionKeyShare)
  | none, some _ => .error (.missingRequiredExtension extensionSupportedGroups)
  | some groups, some shares => do
    validateKeyShareGroups groups shares
    return supportedVersions
  | none, none => .ok supportedVersions

def parseClientHello (message : Bytes) : Except TlsHandshakeError ClientHello := do
  ensure (handshakeHeaderSize ≤ message.length) .truncated
  let messageType := message.headD 0
  ensure (messageType = handshakeTypeClientHello) (.unexpectedHandshakeType messageType)
  let actualLength := message.length - handshakeHeaderSize
  ensure (declaredLength message = actualLength) (.handshakeLengthMismatch (declaredLength message) actualLength)
  let reader : HandshakeReader := message.drop handshakeHeaderSize
  let (legacyVersion, reader) ← reader.readU16
  ensure (legacyVersion = tlsLegacyRecordVersion) (.invalidLegacyVersion legacyVersion)
  let (randomBytes, reader) ← reader.readExact 32
  let (legacySessionId, reader) ← reader.readVectorU8 "legacy_session_id"
  ensure (legacySessionId.length ≤ 32) (.invalidSessionIdLength legacySessionId.length)
  let (cipherSuiteBytes, reader) ← reader.readVectorU16 "cipher_suites"
  ensure (2 ≤ cipherSuiteBytes.length ∧ cipherSuiteBytes.length % 2 = 0)
    (.invalidCipherSuiteVector cipherSuiteBytes.length)
  let (compressionMethods, reader) ← reader.readVectorU8 "legacy_compression_methods"
  ensure (compressionMethods = [0]) .invalidCompressionMethods
  ensure (reader.length ≠ 0) .missingExtensions
  let (extensionBlock, reader) ← reader.readVectorU16 "extensions"
  reader.finish "ClientHello"
  let parsed ← parseClientHelloExtensions extensionBlock
  let supportedVersions ← validateClientHelloExtensions parsed
  return {
    random := copyFromSlice 32 randomBytes
    legacySessionId
    cipherSuites := u16Values cipherSuiteBytes
    serverName := parsed.serverName
    supportedVersions
    supportedGroups := parsed.supportedGroups.getD []
    keyShares := parsed.keyShares.getD []
    signatureAlgorithms := parsed.signatureAlgorithms.getD []
    alpnProtocols := parsed.alpnProtocols.getD []
    rawExtensions := parsed.rawExtensions
    preSharedKeyPresent := parsed.preSharedKeyPresent }

/-! ### The bytes of a message that is read -/

/-- What an extension leaves alone, and the one flag that is about its type. -/
theorem addExtension_frame {parsed parsed' : ParsedClientHelloExtensions} {extensionType : Nat} {data : Bytes}
    {isLastExtension : Bool} (h : parsed.addExtension extensionType data isLastExtension = .ok parsed') :
    parsed'.rawExtensions = parsed.rawExtensions ∧
      parsed'.preSharedKeyPresent = (parsed.preSharedKeyPresent || decide (extensionType = extensionPreSharedKey)) := by
  have hparse {α : Type} {parse : Except TlsHandshakeError α} {set : α → ParsedClientHelloExtensions}
      (htype : extensionType ≠ extensionPreSharedKey) (h : (parse >>= fun value => pure (set value)) = .ok parsed')
      (hraw : ∀ value, (set value).rawExtensions = parsed.rawExtensions)
      (hpresent : ∀ value, (set value).preSharedKeyPresent = parsed.preSharedKeyPresent) :
      parsed'.rawExtensions = parsed.rawExtensions ∧
        parsed'.preSharedKeyPresent =
          (parsed.preSharedKeyPresent || decide (extensionType = extensionPreSharedKey)) := by
    obtain ⟨value, -, h⟩ := bind_eq_ok.mp h
    rw [decide_eq_false htype, Bool.or_false, ← Except.ok.inj h]
    exact ⟨hraw value, hpresent value⟩
  rw [ParsedClientHelloExtensions.addExtension] at h
  split at h
  · rename_i htype
    exact hparse (by rw [htype]; decide) h (fun _ => rfl) fun _ => rfl
  split at h
  · rename_i htype
    exact hparse (by rw [htype]; decide) h (fun _ => rfl) fun _ => rfl
  split at h
  · rename_i htype
    exact hparse (by rw [htype]; decide) h (fun _ => rfl) fun _ => rfl
  split at h
  · rename_i htype
    exact hparse (by rw [htype]; decide) h (fun _ => rfl) fun _ => rfl
  split at h
  · rename_i htype
    split at h
    · cases h
      rw [decide_eq_true htype, Bool.or_true]
      exact ⟨rfl, rfl⟩
    · cases h
  rename_i hother
  split at h
  · exact hparse hother h (fun _ => rfl) fun _ => rfl
  split at h
  · exact hparse hother h (fun _ => rfl) fun _ => rfl
  exact @hparse Unit (.ok ()) (fun _ => parsed) hother h (fun _ => rfl) fun _ => rfl

/-- What the checks between the extensions leave. -/
theorem validateClientHelloExtensions_ok {parsed : ParsedClientHelloExtensions} {versions : List Nat}
    (h : validateClientHelloExtensions parsed = .ok versions) :
    parsed.supportedVersions = some versions ∧ tlsVersion13 ∈ versions ∧
      validateKeyShareGroups (parsed.supportedGroups.getD []) (parsed.keyShares.getD []) = .ok () := by
  obtain ⟨found, hfound, h⟩ := bind_eq_ok.mp h
  obtain ⟨_, htls13, h⟩ := bind_eq_ok.mp h
  obtain ⟨-, -, h⟩ := bind_eq_ok.mp h
  obtain ⟨-, -, h⟩ := bind_eq_ok.mp h
  have hshares : found = versions ∧
      validateKeyShareGroups (parsed.supportedGroups.getD []) (parsed.keyShares.getD []) = .ok () := by
    split at h
    · cases h
    · cases h
    · rename_i groups shares hgroups hshares
      obtain ⟨_, hvalid, h⟩ := bind_eq_ok.mp h
      rw [hgroups, hshares]
      exact ⟨Except.ok.inj h, hvalid⟩
    · rename_i hgroups hshares
      rw [hgroups, hshares]
      exact ⟨Except.ok.inj h, rfl⟩
  obtain ⟨rfl, hvalid⟩ := hshares
  exact ⟨okOr_eq_ok.mp hfound, ensure_eq_ok.mp htls13, hvalid⟩

/-- The fields of the body, with the only compression method that there is. -/
def clientHelloFields (random legacySessionId cipherSuites extensions : Bytes) : Bytes :=
  beBytes 2 tlsLegacyRecordVersion ++ (random ++
    UInt8.ofNat legacySessionId.length :: (legacySessionId ++ (beBytes 2 cipherSuites.length ++ (cipherSuites ++
      1 :: 0 :: (beBytes 2 extensions.length ++ extensions)))))

theorem parseClientHello_ok {message : Bytes} {clientHello : ClientHello}
    (h : parseClientHello message = .ok clientHello) :
    ∃ cipherSuites extensions parsed,
      message = handshakeMessage handshakeTypeClientHello
        (clientHelloFields clientHello.random.toList clientHello.legacySessionId cipherSuites extensions) ∧
      cipherSuites.length % 2 = 0 ∧ parseClientHelloExtensions extensions = .ok parsed ∧
      validateClientHelloExtensions parsed = .ok clientHello.supportedVersions ∧
      clientHello = {
        random := clientHello.random
        legacySessionId := clientHello.legacySessionId
        cipherSuites := u16Values cipherSuites
        serverName := parsed.serverName
        supportedVersions := clientHello.supportedVersions
        supportedGroups := parsed.supportedGroups.getD []
        keyShares := parsed.keyShares.getD []
        signatureAlgorithms := parsed.signatureAlgorithms.getD []
        alpnProtocols := parsed.alpnProtocols.getD []
        rawExtensions := parsed.rawExtensions
        preSharedKeyPresent := parsed.preSharedKeyPresent } := by
  rw [parseClientHello] at h
  obtain ⟨_, hsize, h⟩ := bind_eq_ok.mp h
  obtain ⟨_, htype, h⟩ := bind_eq_ok.mp h
  obtain ⟨_, hdeclared, h⟩ := bind_eq_ok.mp h
  have hmessage := eq_handshakeMessage (ensure_eq_ok.mp hsize) (ensure_eq_ok.mp htype) (ensure_eq_ok.mp hdeclared)
  obtain ⟨⟨version, afterVersion⟩, hversion, h⟩ := bind_eq_ok.mp h
  obtain ⟨_, hlegacy, h⟩ := bind_eq_ok.mp h
  obtain ⟨⟨randomBytes, afterRandom⟩, hrandom, h⟩ := bind_eq_ok.mp h
  obtain ⟨⟨sessionId, afterSession⟩, hsession, h⟩ := bind_eq_ok.mp h
  obtain ⟨-, -, h⟩ := bind_eq_ok.mp h
  obtain ⟨⟨suites, afterSuites⟩, hsuites, h⟩ := bind_eq_ok.mp h
  obtain ⟨_, heven, h⟩ := bind_eq_ok.mp h
  obtain ⟨⟨methods, afterMethods⟩, hmethods, h⟩ := bind_eq_ok.mp h
  obtain ⟨_, hnull, h⟩ := bind_eq_ok.mp h
  obtain ⟨-, -, h⟩ := bind_eq_ok.mp h
  obtain ⟨⟨extensions, rest⟩, hextensions, h⟩ := bind_eq_ok.mp h
  obtain ⟨_, hfinish, h⟩ := bind_eq_ok.mp h
  obtain ⟨parsed, hparsed, h⟩ := bind_eq_ok.mp h
  obtain ⟨versions, hvalid, h⟩ := bind_eq_ok.mp h
  have hclientHello := Except.ok.inj h
  subst hclientHello
  refine ⟨suites, extensions, parsed, ?_, (ensure_eq_ok.mp heven).2, hparsed, hvalid, rfl⟩
  obtain ⟨hlength, hrandom⟩ := HandshakeReader.readExact_eq_ok.mp hrandom
  have hrest : rest = [] := by
    rw [HandshakeReader.finish] at hfinish
    split at hfinish
    · rename_i hempty
      exact List.eq_nil_of_length_eq_zero hempty
    · cases hfinish
  rw [hmessage, (HandshakeReader.readU16_eq_ok.mp hversion).2, ensure_eq_ok.mp hlegacy, hrandom,
    (HandshakeReader.readVectorU8_eq_ok.mp hsession).2, (HandshakeReader.readVectorU16_eq_ok.mp hsuites).2,
    (HandshakeReader.readVectorU8_eq_ok.mp hmethods).2, ensure_eq_ok.mp hnull,
    (HandshakeReader.readVectorU16_eq_ok.mp hextensions).2, hrest, List.append_nil, toList_copyFromSlice hlength]
  rfl

end BareProxy.Tls
