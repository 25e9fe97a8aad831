import BareProxy.Base.Chunks
import BareProxy.Base.Indexing
import BareProxy.Tls.ClientHello

/-!
# A ClientHello read by index

`parse_client_hello` once more with the readers, indices, slices and differences of the source, each of which panics
outside its bounds. It does what the parser over the bytes that are left does, so none of them is ever outside.
-/

namespace BareProxy.Tls.Indexed

open BareProxy.Indexed

/-! ### The reader -/

def readExact (length : Nat) (reader : OffsetReader) : Except (Stop TlsHandshakeError) (Bytes × OffsetReader) :=
  reader.readExact .truncated length

def readU8 (reader : OffsetReader) : Except (Stop TlsHandshakeError) (Byte × OffsetReader) := do
  let (bytes, reader) ← readExact 1 reader
  let byte ← index bytes 0
  return (byte, reader)

/-- `u16::from_be_bytes([bytes[0], bytes[1]])`. -/
def u16FromBeBytes (bytes : Bytes) : Except (Stop TlsHandshakeError) Nat := do
  let high ← index bytes 0
  let low ← index bytes 1
  return ofBe [high, low]

def readU16 (reader : OffsetReader) : Except (Stop TlsHandshakeError) (Nat × OffsetReader) := do
  let (bytes, reader) ← readExact 2 reader
  let value ← u16FromBeBytes bytes
  return (value, reader)

def readVectorU8 (field : String) (reader : OffsetReader) : Except (Stop TlsHandshakeError) (Bytes × OffsetReader) := do
  let (length, reader) ← readU8 reader
  mapErr (Stop.map fun _ => .malformedVector field) (readExact length.toNat reader)

def readVectorU16 (field : String) (reader : OffsetReader) :
    Except (Stop TlsHandshakeError) (Bytes × OffsetReader) := do
  let (length, reader) ← readU16 reader
  mapErr (Stop.map fun _ => .malformedVector field) (readExact length reader)

def finish (field : String) (reader : OffsetReader) : Except (Stop TlsHandshakeError) Unit := do
  let remaining ← reader.remaining
  lift (if remaining = 0 then .ok () else .error (.malformedVector field))

theorem readU8_advances {reader reader' : OffsetReader} {byte : Byte} (h : readU8 reader = .ok (byte, reader')) :
    reader'.input.length - reader'.offset < reader.input.length - reader.offset := by
  obtain ⟨⟨bytes, reader₁⟩, hread, h⟩ := bind_eq_ok.mp h
  obtain ⟨_, -, h⟩ := bind_eq_ok.mp h
  cases h
  have := OffsetReader.readExact_advances hread
  omega

theorem readU16_advances {reader reader' : OffsetReader} {n : Nat} (h : readU16 reader = .ok (n, reader')) :
    reader'.input.length - reader'.offset < reader.input.length - reader.offset := by
  obtain ⟨⟨bytes, reader₁⟩, hread, h⟩ := bind_eq_ok.mp h
  obtain ⟨_, -, h⟩ := bind_eq_ok.mp h
  cases h
  have := OffsetReader.readExact_advances hread
  omega

theorem mapErr_readExact_advances {field : String} {length : Nat} {reader reader' : OffsetReader} {bytes : Bytes}
    (h : mapErr (Stop.map fun _ => TlsHandshakeError.malformedVector field) (readExact length reader) =
      .ok (bytes, reader')) :
    reader'.input.length - reader'.offset ≤ reader.input.length - reader.offset := by
  have := OffsetReader.readExact_advances (mapErr_eq_ok.mp h)
  omega

theorem readVectorU8_advances {field : String} {reader reader' : OffsetReader} {bytes : Bytes}
    (h : readVectorU8 field reader = .ok (bytes, reader')) :
    reader'.input.length - reader'.offset < reader.input.length - reader.offset := by
  obtain ⟨⟨length, reader₁⟩, hlength, h⟩ := bind_eq_ok.mp h
  exact (mapErr_readExact_advances h).trans_lt (readU8_advances hlength)

theorem readVectorU16_advances {field : String} {reader reader' : OffsetReader} {bytes : Bytes}
    (h : readVectorU16 field reader = .ok (bytes, reader')) :
    reader'.input.length - reader'.offset < reader.input.length - reader.offset := by
  obtain ⟨⟨length, reader₁⟩, hlength, h⟩ := bind_eq_ok.mp h
  exact (mapErr_readExact_advances h).trans_lt (readU16_advances hlength)

/-! ### The lists -/

/-- `chunks_exact(2)` leaves a shorter last chunk out. -/
def u16Values (input : Bytes) : Except (Stop TlsHandshakeError) (List Nat) :=
  ((chunks 2 input).filter fun chunk => chunk.length = 2).mapM u16FromBeBytes

def parseU16Values (input : Bytes) (field : String) : Except (Stop TlsHandshakeError) (List Nat) :=
  if input.length < 2 ∨ input.length % 2 ≠ 0 then .error (.error (.malformedVector field)) else u16Values input

def parseU16VectorU8 (input : Bytes) (field : String) : Except (Stop TlsHandshakeError) (List Nat) := do
  let (values, reader) ← readVectorU8 field (.new input)
  finish field reader
  parseU16Values values field

def parseU16VectorU16 (input : Bytes) (field : String) : Except (Stop TlsHandshakeError) (List Nat) := do
  let (values, reader) ← readVectorU16 field (.new input)
  finish field reader
  parseU16Values values field

def readServerName (state : List Byte × Option Bytes) (reader : OffsetReader) :
    Except (Stop TlsHandshakeError) ((List Byte × Option Bytes) × OffsetReader) := do
  let (seenNameTypes, serverName) := state
  let (nameType, reader) ← readU8 reader
  let (name, reader) ← readVectorU16 "server_name" reader
  lift (ensure (nameType ∉ seenNameTypes) .duplicateServerName)
  let seenNameTypes := seenNameTypes ++ [nameType]
  if nameType = 0 then
    lift (ensure (isValidServerName name) .invalidServerName)
    lift (ensure (validUtf8 name) .invalidServerName)
    return ((seenNameTypes, some (toAsciiLowercase name)), reader)
  else
    return ((seenNameTypes, serverName), reader)

def readAlpnProtocol (protocols : List Bytes) (reader : OffsetReader) :
    Except (Stop TlsHandshakeError) (List Bytes × OffsetReader) := do
  let (protocol, reader) ← readVectorU8 "alpn_protocol_name" reader
  lift (ensure (protocol ≠ []) .invalidAlpn)
  return (protocols ++ [protocol], reader)

def readClientKeyShare (shares : List TlsKeyShareEntry) (reader : OffsetReader) :
    Except (Stop TlsHandshakeError) (List TlsKeyShareEntry × OffsetReader) := do
  let (group, reader) ← readU16 reader
  let (keyExchange, reader) ← readVectorU16 "key_exchange" reader
  lift (ensure (keyExchange ≠ []) (.malformedVector "key_exchange"))
  lift (ensure (¬shares.any fun share => share.group = group) (.duplicateKeyShareGroup group))
  return (shares ++ [{ group, keyExchange }], reader)

def serverNameLoop : OffsetLoop TlsHandshakeError (List Byte × Option Bytes) where
  step := readServerName
  step_advances := by
    rintro ⟨seenNameTypes, serverName⟩ s' reader reader' h
    obtain ⟨⟨nameType, reader₁⟩, htype, h⟩ := bind_eq_ok.mp h
    obtain ⟨⟨name, reader₂⟩, hname, h⟩ := bind_eq_ok.mp h
    obtain ⟨-, -, h⟩ := bind_eq_ok.mp h
    have hreader : reader' = reader₂ := by
      dsimp only at h
      split at h
      · obtain ⟨-, -, h⟩ := bind_eq_ok.mp h
        obtain ⟨-, -, h⟩ := bind_eq_ok.mp h
        cases h
        rfl
      · cases h
        rfl
    rw [hreader]
    exact (readVectorU16_advances hname).trans (readU8_advances htype)

def alpnProtocolLoop : OffsetLoop TlsHandshakeError (List Bytes) where
  step := readAlpnProtocol
  step_advances := by
    intro protocols protocols' reader reader' h
    obtain ⟨⟨protocol, reader₁⟩, hprotocol, h⟩ := bind_eq_ok.mp h
    obtain ⟨-, -, h⟩ := bind_eq_ok.mp h
    cases h
    exact readVectorU8_advances hprotocol

def clientKeyShareLoop : OffsetLoop TlsHandshakeError (List TlsKeyShareEntry) where
  step := readClientKeyShare
  step_advances := by
    intro shares shares' reader reader' h
    obtain ⟨⟨group, reader₁⟩, hgroup, h⟩ := bind_eq_ok.mp h
    obtain ⟨⟨keyExchange, reader₂⟩, hkey, h⟩ := bind_eq_ok.mp h
    obtain ⟨-, -, h⟩ := bind_eq_ok.mp h
    obtain ⟨-, -, h⟩ := bind_eq_ok.mp h
    cases h
    exact (readVectorU16_advances hkey).trans (readU16_advances hgroup)

def parseServerName (input : Bytes) : Except (Stop TlsHandshakeError) (Option Bytes) := do
  let (serverNameList, outer) ← readVectorU16 "server_name_list" (.new input)
  finish "server_name" outer
  lift (ensure (serverNameList ≠ []) (.malformedVector "server_name_list"))
  let (_, serverName) ← serverNameLoop.run ([], none) (.new serverNameList)
  return serverName

def parseAlpnProtocols (input : Bytes) : Except (Stop TlsHandshakeError) (List Bytes) := do
  let (encodedProtocols, outer) ← readVectorU16 "application_layer_protocol_negotiation" (.new input)
  finish "application_layer_protocol_negotiation" outer
  lift (ensure (encodedProtocols ≠ []) .invalidAlpn)
  alpnProtocolLoop.run [] (.new encodedProtocols)

def parseClientKeyShares (input : Bytes) : Except (Stop TlsHandshakeError) (List TlsKeyShareEntry) := do
  let (encodedShares, outer) ← readVectorU16 "key_share" (.new input)
  finish "key_share" outer
  clientKeyShareLoop.run [] (.new encodedShares)

/-! ### The extensions -/

def addExtension (parsed : ParsedClientHelloExtensions) (extensionType : Nat) (extensionData : Bytes)
    (isLastExtension : Bool) : Except (Stop TlsHandshakeError) ParsedClientHelloExtensions :=
  if extensionType = extensionServerName then do
    let serverName ← parseServerName extensionData
    return { parsed with serverName }
  else if extensionType = extensionSupportedGroups then do
    let supportedGroups ← parseU16VectorU16 extensionData "supported_groups"
    return { parsed with supportedGroups := some supportedGroups }
  else if extensionType = extensionSignatureAlgorithms then do
    let signatureAlgorithms ← parseU16VectorU16 extensionData "signature_algorithms"
    return { parsed with signatureAlgorithms := some signatureAlgorithms }
  else if extensionType = extensionApplicationLayerProtocolNegotiation then do
    let alpnProtocols ← parseAlpnProtocols extensionData
    return { parsed with alpnProtocols := some alpnProtocols }
  else if extensionType = extensionPreSharedKey then
    if isLastExtension then .ok { parsed with preSharedKeyPresent := true } else .error (.error .preSharedKeyNotLast)
  else if extensionType = extensionSupportedVersions then do
    let supportedVersions ← parseU16VectorU8 extensionData "supported_versions"
    return { parsed with supportedVersions := some supportedVersions }
  else if extensionType = extensionKeyShare then do
    let keyShares ← parseClientKeyShares extensionData
    return { parsed with keyShares := some keyShares }
  else .ok parsed

def readClientHelloExtension (state : ParsedClientHelloExtensions × List Nat) (reader : OffsetReader) :
    Except (Stop TlsHandshakeError) ((ParsedClientHelloExtensions × List Nat) × OffsetReader) := do
  let (parsed, seenExtensions) := state
  let (extensionType, reader) ← readU16 reader
  let (extensionData, reader) ← readVectorU16 "extension_data" reader
  lift (ensure (extensionType ∉ seenExtensions) (.duplicateExtension extensionType))
  let parsed := { parsed with rawExtensions := parsed.rawExtensions ++ [(extensionType, extensionData)] }
  let remaining ← reader.remaining
  let parsed ← addExtension parsed extensionType extensionData (remaining = 0)
  return ((parsed, seenExtensions ++ [extensionType]), reader)

def clientHelloExtensionLoop : OffsetLoop TlsHandshakeError (ParsedClientHelloExtensions × List Nat) where
  step := readClientHelloExtension
  step_advances := by
    rintro ⟨parsed, seenExtensions⟩ s' reader reader' h
    obtain ⟨⟨extensionType, reader₁⟩, htype, h⟩ := bind_eq_ok.mp h
    obtain ⟨⟨extensionData, reader₂⟩, hdata, h⟩ := bind_eq_ok.mp h
    obtain ⟨-, -, h⟩ := bind_eq_ok.mp h
    obtain ⟨_, -, h⟩ := bind_eq_ok.mp h
    obtain ⟨parsed', -, h⟩ := bind_eq_ok.mp h
    cases h
    exact (readVectorU16_advances hdata).trans (readU16_advances htype)

def parseClientHelloExtensions (input : Bytes) : Except (Stop TlsHandshakeError) ParsedClientHelloExtensions := do
  let (parsed, _) ← clientHelloExtensionLoop.run ({}, []) (.new input)
  return parsed

/-! ### The message -/

/-- `copy_from_slice` panics when the lengths differ. -/
def copyFromSlice (n : Nat) (bytes : Bytes) : Except (Stop TlsHandshakeError) (ByteArrayN n) :=
  if h : bytes.length = n then .ok (arrayOf bytes h) else .error .outOfBounds

def parseClientHello (message : Bytes) : Except (Stop TlsHandshakeError) ClientHello := do
  lift (ensure (handshakeHeaderSize ≤ message.length) .truncated)
  let messageType ← index message 0
  lift (ensure (messageType = handshakeTypeClientHello) (.unexpectedHandshakeType messageType))
  let high ← index message 1
  let middle ← index message 2
  let low ← index message 3
  let declaredLength := high.toNat <<< 16 ||| middle.toNat <<< 8 ||| low.toNat
  let actualLength ← subtract message.length handshakeHeaderSize
  lift (ensure (declaredLength = actualLength) (.handshakeLengthMismatch declaredLength actualLength))
  let body ← slice message handshakeHeaderSize message.length
  let (legacyVersion, reader) ← readU16 (.new body)
  lift (ensure (legacyVersion = tlsLegacyRecordVersion) (.invalidLegacyVersion legacyVersion))
  let (randomBytes, reader) ← readExact 32 reader
  let random ← copyFromSlice 32 randomBytes
  let (legacySessionId, reader) ← readVectorU8 "legacy_session_id" reader
  lift (ensure (legacySessionId.length ≤ 32) (.invalidSessionIdLength legacySessionId.length))
  let (cipherSuiteBytes, reader) ← readVectorU16 "cipher_suites" reader
  lift (ensure (2 ≤ cipherSuiteBytes.length ∧ cipherSuiteBytes.length % 2 = 0)
    (.invalidCipherSuiteVector cipherSuiteBytes.length))
  let cipherSuites ← u16Values cipherSuiteBytes
  let (compressionMethods, reader) ← readVectorU8 "legacy_compression_methods" reader
  lift (ensure (compressionMethods = [0]) .invalidCompressionMethods)
  let remaining ← reader.remaining
  lift (ensure (remaining ≠ 0) .missingExtensions)
  let (extensionBlock, reader) ← readVectorU16 "extensions" reader
  finish "ClientHello" reader
  let parsed ← parseClientHelloExtensions extensionBlock
  let supportedVersions ← lift (validateClientHelloExtensions parsed)
  return {
    random
    legacySessionId
    cipherSuites
    serverName := parsed.serverName
    supportedVersions
    supportedGroups := parsed.supportedGroups.getD []
    keyShares := parsed.keyShares.getD []
    signatureAlgorithms := parsed.signatureAlgorithms.getD []
    alpnProtocols := parsed.alpnProtocols.getD []
    rawExtensions := parsed.rawExtensions
    preSharedKeyPresent := parsed.preSharedKeyPresent }

/-! ### Refinement -/

open OffsetReader (Follows Reads)

section Readers

variable {reader : OffsetReader} {rest : Bytes}

theorem readExact_refines (h : reader.HasRest rest) (length : Nat) :
    Refines Reads (readExact length reader) (HandshakeReader.readExact length rest) :=
  h.readExact TlsHandshakeError.truncated length

theorem readU8_refines (h : reader.HasRest rest) : Refines Follows (readU8 reader) (HandshakeReader.readU8 rest) := by
  refine (readExact_refines h 1).bind fun (bytes, reader₁) (bytes', rest₁) hread hok => ?_
  obtain ⟨⟨rfl, hrest⟩, -⟩ := hread
  obtain ⟨byte, rfl⟩ := List.length_eq_one_iff.mp (HandshakeReader.readExact_eq_ok.mp hok).1
  exact .of_ok ⟨rfl, hrest⟩

theorem readU16_refines (h : reader.HasRest rest) :
    Refines Follows (readU16 reader) (HandshakeReader.readU16 rest) := by
  refine (readExact_refines h 2).bind fun (bytes, reader₁) (bytes', rest₁) hread hok => ?_
  obtain ⟨⟨rfl, hrest⟩, -⟩ := hread
  obtain ⟨high, low, rfl⟩ := List.length_eq_two.mp (HandshakeReader.readExact_eq_ok.mp hok).1
  exact .of_ok ⟨rfl, hrest⟩

theorem readVectorU8_refines (h : reader.HasRest rest) (field : String) :
    Refines Reads (readVectorU8 field reader) (HandshakeReader.readVectorU8 field rest) := by
  refine (readU8_refines h).bind fun (length, reader₁) (length', rest₁) hread _ => ?_
  obtain ⟨rfl, hrest⟩ := hread
  exact (readExact_refines hrest _).mapErr

theorem readVectorU16_refines (h : reader.HasRest rest) (field : String) :
    Refines Reads (readVectorU16 field reader) (HandshakeReader.readVectorU16 field rest) := by
  refine (readU16_refines h).bind fun (length, reader₁) (length', rest₁) hread _ => ?_
  obtain ⟨rfl, hrest⟩ := hread
  exact (readExact_refines hrest _).mapErr

theorem finish_refines (h : reader.HasRest rest) (field : String) :
    Refines Eq (finish field reader) (HandshakeReader.finish field rest) := by
  rw [finish, h.remaining, ok_bind]
  exact .lift _

theorem readServerName_refines (state : List Byte × Option Bytes) (h : reader.HasRest rest) :
    Refines Follows (readServerName state reader) (Tls.readServerName state rest) := by
  refine (readU8_refines h).bind fun (nameType, reader₁) (nameType', rest₁) hread _ => ?_
  obtain ⟨rfl, hrest⟩ := hread
  refine (readVectorU16_refines hrest _).bind fun (name, reader₂) (name', rest₂) hread _ => ?_
  obtain ⟨⟨rfl, hrest⟩, -⟩ := hread
  refine .bind_lift fun _ _ => ?_
  by_cases htype : nameType = 0
  · simp only [htype, if_true]
    exact .bind_lift fun _ _ => .bind_lift fun _ _ => .of_ok ⟨rfl, hrest⟩
  · simp only [htype, if_false]
    exact .of_ok ⟨rfl, hrest⟩

theorem readAlpnProtocol_refines (protocols : List Bytes) (h : reader.HasRest rest) :
    Refines Follows (readAlpnProtocol protocols reader) (Tls.readAlpnProtocol protocols rest) := by
  refine (readVectorU8_refines h _).bind fun (protocol, reader₁) (protocol', rest₁) hread _ => ?_
  obtain ⟨⟨rfl, hrest⟩, -⟩ := hread
  exact .bind_lift fun _ _ => .of_ok ⟨rfl, hrest⟩

theorem readClientKeyShare_refines (shares : List TlsKeyShareEntry) (h : reader.HasRest rest) :
    Refines Follows (readClientKeyShare shares reader) (Tls.readClientKeyShare shares rest) := by
  refine (readU16_refines h).bind fun (group, reader₁) (group', rest₁) hread _ => ?_
  obtain ⟨rfl, hrest⟩ := hread
  refine (readVectorU16_refines hrest _).bind fun (keyExchange, reader₂) (keyExchange', rest₂) hread _ => ?_
  obtain ⟨⟨rfl, hrest⟩, -⟩ := hread
  exact .bind_lift fun _ _ => .bind_lift fun _ _ => .of_ok ⟨rfl, hrest⟩

end Readers

section Lists

variable {input : Bytes}

theorem u16Values_eq (input : Bytes) : u16Values input = .ok (Tls.u16Values input) := by
  fun_induction Tls.u16Values input with
  | case1 high low rest ih =>
    rw [u16Values] at ih
    rw [u16Values, chunks_of_ne_nil (by decide) (List.cons_ne_nil _ _), List.filter_cons_of_pos (by rfl),
      List.mapM_cons, List.drop_succ_cons, List.drop_succ_cons, List.drop_zero, ih]
    rfl
  | case2 input hshort =>
    match input with
    | [] => rw [u16Values, chunks_nil]; rfl
    | [byte] => rw [u16Values, chunks_of_ne_nil (by decide) (List.cons_ne_nil _ _)]; simp
    | high :: low :: rest => exact absurd rfl (hshort high low rest)

theorem parseU16Values_refines (input : Bytes) (field : String) :
    Refines Eq (parseU16Values input field) (Tls.parseU16Values input field) := by
  rw [parseU16Values, Tls.parseU16Values, u16Values_eq]
  split
  · rfl
  · exact .of_ok rfl

theorem parseU16VectorU8_refines (h : input.length ≤ u64Max) (field : String) :
    Refines Eq (parseU16VectorU8 input field) (Tls.parseU16VectorU8 input field) := by
  refine (readVectorU8_refines (.new h) field).bind fun (values, reader) (values', rest) hread _ => ?_
  obtain ⟨⟨rfl, hrest⟩, -⟩ := hread
  exact (finish_refines hrest field).bind_eq fun _ _ => parseU16Values_refines _ field

theorem parseU16VectorU16_refines (h : input.length ≤ u64Max) (field : String) :
    Refines Eq (parseU16VectorU16 input field) (Tls.parseU16VectorU16 input field) := by
  refine (readVectorU16_refines (.new h) field).bind fun (values, reader) (values', rest) hread _ => ?_
  obtain ⟨⟨rfl, hrest⟩, -⟩ := hread
  exact (finish_refines hrest field).bind_eq fun _ _ => parseU16Values_refines _ field

theorem parseServerName_refines (h : input.length ≤ u64Max) :
    Refines Eq (parseServerName input) (Tls.parseServerName input) := by
  refine (readVectorU16_refines (.new h) _).bind fun (names, reader) (names', rest) hread _ => ?_
  obtain ⟨⟨rfl, hrest⟩, hfits⟩ := hread
  refine (finish_refines hrest _).bind_eq fun _ _ => .bind_lift fun _ _ => ?_
  have hloop := serverNameLoop.run_refines Tls.serverNameLoop (fun s => readServerName_refines s) ([], none) (.new hfits)
  exact hloop.bind_eq fun _ _ => .of_ok rfl

theorem parseAlpnProtocols_refines (h : input.length ≤ u64Max) :
    Refines Eq (parseAlpnProtocols input) (Tls.parseAlpnProtocols input) := by
  refine (readVectorU16_refines (.new h) _).bind fun (protocols, reader) (protocols', rest) hread _ => ?_
  obtain ⟨⟨rfl, hrest⟩, hfits⟩ := hread
  refine (finish_refines hrest _).bind_eq fun _ _ => .bind_lift fun _ _ => ?_
  exact alpnProtocolLoop.run_refines Tls.alpnProtocolLoop (fun s => readAlpnProtocol_refines s) _ (.new hfits)

theorem parseClientKeyShares_refines (h : input.length ≤ u64Max) :
    Refines Eq (parseClientKeyShares input) (Tls.parseClientKeyShares input) := by
  refine (readVectorU16_refines (.new h) _).bind fun (shares, reader) (shares', rest) hread _ => ?_
  obtain ⟨⟨rfl, hrest⟩, hfits⟩ := hread
  refine (finish_refines hrest _).bind_eq fun _ _ => ?_
  exact clientKeyShareLoop.run_refines Tls.clientKeyShareLoop (fun s => readClientKeyShare_refines s) _ (.new hfits)

end Lists

theorem addExtension_refines (parsed : ParsedClientHelloExtensions) (extensionType : Nat) {data : Bytes}
    (isLastExtension : Bool) (h : data.length ≤ u64Max) :
    Refines Eq (addExtension parsed extensionType data isLastExtension)
      (parsed.addExtension extensionType data isLastExtension) := by
  have hset {α : Type} {code : Except (Stop TlsHandshakeError) α} {model : Except TlsHandshakeError α}
      (hparse : Refines Eq code model) (set : α → ParsedClientHelloExtensions) :
      Refines Eq (code >>= fun value => pure (set value)) (model >>= fun value => pure (set value)) :=
    hparse.bind_eq fun _ _ => .of_ok rfl
  rw [addExtension, ParsedClientHelloExtensions.addExtension]
  split
  · exact hset (parseServerName_refines h) _
  split
  · exact hset (parseU16VectorU16_refines h _) _
  split
  · exact hset (parseU16VectorU16_refines h _) _
  split
  · exact hset (parseAlpnProtocols_refines h) _
  split
  · split
    · exact .of_ok rfl
    · rfl
  split
  · exact hset (parseU16VectorU8_refines h _) _
  split
  · exact hset (parseClientKeyShares_refines h) _
  exact .of_ok rfl

theorem readClientHelloExtension_refines (state : ParsedClientHelloExtensions × List Nat) {reader : OffsetReader}
    {rest : Bytes} (h : reader.HasRest rest) :
    Refines Follows (readClientHelloExtension state reader) (Tls.readClientHelloExtension state rest) := by
  refine (readU16_refines h).bind fun (extensionType, reader₁) (extensionType', rest₁) hread _ => ?_
  obtain ⟨rfl, hrest⟩ := hread
  refine (readVectorU16_refines hrest _).bind fun (data, reader₂) (data', rest₂) hread _ => ?_
  obtain ⟨⟨rfl, hrest⟩, hfits⟩ := hread
  refine .bind_lift fun _ _ => ?_
  rw [hrest.remaining, ok_bind]
  exact (addExtension_refines _ _ _ hfits).bind_eq fun _ _ => .of_ok ⟨rfl, hrest⟩

theorem parseClientHelloExtensions_refines {input : Bytes} (h : input.length ≤ u64Max) :
    Refines Eq (parseClientHelloExtensions input) (Tls.parseClientHelloExtensions input) := by
  have hloop := clientHelloExtensionLoop.run_refines Tls.clientHelloExtensionLoop
    (fun s => readClientHelloExtension_refines s) ({}, []) (.new h)
  exact hloop.bind_eq fun _ _ => .of_ok rfl

/-! ### The message again -/

/-- The length of a header, put together from its bytes. -/
theorem or_shiftLeft_eq_ofBe (high middle low : Byte) :
    high.toNat <<< 16 ||| middle.toNat <<< 8 ||| low.toNat = ofBe [high, middle, low] := by
  have hlow : low.toNat < 2 ^ 8 := low.toNat_lt
  have hmiddle : middle.toNat <<< 8 ||| low.toNat = middle.toNat <<< 8 + low.toNat :=
    (Nat.shiftLeft_add_eq_or_of_lt hlow _).symm
  have hsum : middle.toNat <<< 8 + low.toNat < 2 ^ 16 := by
    have := middle.toNat_lt
    rw [Nat.shiftLeft_eq]
    omega
  rw [Nat.or_assoc, hmiddle, ← Nat.shiftLeft_add_eq_or_of_lt hsum, Nat.shiftLeft_eq, Nat.shiftLeft_eq]
  simp only [ofBe, List.foldl_cons, List.foldl_nil]
  omega

theorem copyFromSlice_eq {n : Nat} {bytes : Bytes} (h : bytes.length = n) :
    copyFromSlice n bytes = .ok (BareProxy.copyFromSlice n bytes) := by
  have harray : arrayOf bytes h = BareProxy.copyFromSlice n bytes := arrayOf_eq (toList_copyFromSlice h).symm
  rw [copyFromSlice, dif_pos h, harray]

theorem parseClientHello_refines (message : Bytes) :
    Refines Eq (parseClientHello message) (Tls.parseClientHello message) := by
  refine .bind_lift fun _ hsize => ?_
  have hheader : handshakeHeaderSize ≤ message.length := ensure_eq_ok.mp hsize
  match message, hheader with
  | first :: high :: middle :: low :: body, hheader =>
    refine .bind_lift fun _ _ => ?_
    simp only [index, List.getElem?_cons_succ, List.getElem?_cons_zero, okOr_some, ok_bind, or_shiftLeft_eq_ofBe]
    rw [subtract_eq hheader, ok_bind]
    refine .bind_lift fun _ hdeclared => ?_
    have hbody : body.length ≤ u64Max := by
      have hlength : ofBe [high, middle, low] = body.length := ensure_eq_ok.mp hdeclared
      have hbound : ofBe [high, middle, low] < 256 ^ 3 := ofBe_lt _
      rw [u64Max]
      omega
    rw [slice_eq hheader le_rfl, ok_bind, List.take_of_length_le (by rw [List.length_drop])]
    refine (readU16_refines (.new hbody)).bind fun (version, reader) (version', rest) hread _ => ?_
    obtain ⟨rfl, hrest⟩ := hread
    refine .bind_lift fun _ _ => ?_
    refine (readExact_refines hrest 32).bind fun (random, reader) (random', rest) hread hrandom => ?_
    obtain ⟨⟨rfl, hrest⟩, -⟩ := hread
    rw [copyFromSlice_eq (HandshakeReader.readExact_eq_ok.mp hrandom).1, ok_bind]
    refine (readVectorU8_refines hrest _).bind fun (sessionId, reader) (sessionId', rest) hread _ => ?_
    obtain ⟨⟨rfl, hrest⟩, -⟩ := hread
    refine .bind_lift fun _ _ => ?_
    refine (readVectorU16_refines hrest _).bind fun (suites, reader) (suites', rest) hread _ => ?_
    obtain ⟨⟨rfl, hrest⟩, -⟩ := hread
    refine .bind_lift fun _ _ => ?_
    rw [u16Values_eq, ok_bind]
    refine (readVectorU8_refines hrest _).bind fun (methods, reader) (methods', rest) hread _ => ?_
    obtain ⟨⟨rfl, hrest⟩, -⟩ := hread
    refine .bind_lift fun _ _ => ?_
    rw [hrest.remaining, ok_bind]
    refine .bind_lift fun _ _ => ?_
    refine (readVectorU16_refines hrest _).bind fun (extensions, reader) (extensions', rest) hread _ => ?_
    obtain ⟨⟨rfl, hrest⟩, hextensions⟩ := hread
    refine (finish_refines hrest _).bind_eq fun _ _ => ?_
    refine (parseClientHelloExtensions_refines hextensions).bind_eq fun parsed _ => ?_
    exact .bind_lift fun _ _ => .of_ok rfl

end BareProxy.Tls.Indexed
