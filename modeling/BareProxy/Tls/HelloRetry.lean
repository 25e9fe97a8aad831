import BareProxy.Tls.KeyAgreement

/-!
# The second ClientHello

After a HelloRetryRequest the server compares raw extensions, but acts on parsed fields. Here the parsed fields are a
function of the raw extensions that are compared, so the second ClientHello stands for the same client, the same name
and the same parameters as the first.
-/

namespace BareProxy.Tls

open P256 Crypto

/-! ### Parsed fields as a function of the raw extensions -/

/-- The fields that only compared extensions set. -/
def ParsedClientHelloExtensions.retained (parsed : ParsedClientHelloExtensions) : ParsedClientHelloExtensions :=
  { parsed with keyShares := none, rawExtensions := [], preSharedKeyPresent := false }

/-- What an extension adds to the fields. -/
def ParsedClientHelloExtensions.retain (parsed : ParsedClientHelloExtensions) (extension : Nat × Bytes) :
    ParsedClientHelloExtensions :=
  match parsed.addExtension extension.1 extension.2 false with
  | .error _ => parsed
  | .ok parsed => parsed

/-- Whether an extension is compared. -/
def isRetryInvariant (extension : Nat × Bytes) : Bool :=
  extension.1 ∉ [extensionKeyShare, extensionPadding, extensionPreSharedKey, extensionEarlyData]

theorem retain_of_addExtension {parsed parsed' : ParsedClientHelloExtensions} {extension : Nat × Bytes}
    (h : parsed.addExtension extension.1 extension.2 false = .ok parsed') : parsed.retain extension = parsed' := by
  rw [ParsedClientHelloExtensions.retain, h]

/-- A compared extension sets a field from its data alone. -/
theorem addExtension_retained {parsed parsed' : ParsedClientHelloExtensions} {extensionType : Nat} {data : Bytes}
    (hretained : isRetryInvariant (extensionType, data) = true)
    (h : parsed.addExtension extensionType data false = .ok parsed') :
    parsed.retained.addExtension extensionType data false = .ok parsed'.retained := by
  have hset {α : Type} {parse : Except TlsHandshakeError α} {set setRetained : α → ParsedClientHelloExtensions}
      (h : (parse >>= fun value => pure (set value)) = .ok parsed')
      (hsame : ∀ value, setRetained value = (set value).retained) :
      (parse >>= fun value => pure (setRetained value)) = .ok parsed'.retained := by
    obtain ⟨value, hparse, h⟩ := bind_eq_ok.1 h
    rw [hparse, ok_bind, hsame value, Except.ok.inj h, pure_eq_ok]
  rw [ParsedClientHelloExtensions.addExtension] at h ⊢
  by_cases hname : extensionType = extensionServerName
  · rw [if_pos hname] at h ⊢
    exact hset h fun _ => rfl
  rw [if_neg hname] at h ⊢
  by_cases hgroups : extensionType = extensionSupportedGroups
  · rw [if_pos hgroups] at h ⊢
    exact hset h fun _ => rfl
  rw [if_neg hgroups] at h ⊢
  by_cases halgorithms : extensionType = extensionSignatureAlgorithms
  · rw [if_pos halgorithms] at h ⊢
    exact hset h fun _ => rfl
  rw [if_neg halgorithms] at h ⊢
  by_cases halpn : extensionType = extensionApplicationLayerProtocolNegotiation
  · rw [if_pos halpn] at h ⊢
    exact hset h fun _ => rfl
  rw [if_neg halpn] at h ⊢
  by_cases hpsk : extensionType = extensionPreSharedKey
  · rw [if_pos hpsk] at h
    cases h
  rw [if_neg hpsk] at h ⊢
  by_cases hversions : extensionType = extensionSupportedVersions
  · rw [if_pos hversions] at h ⊢
    exact hset h fun _ => rfl
  rw [if_neg hversions] at h ⊢
  by_cases hshare : extensionType = extensionKeyShare
  · rw [hshare] at hretained
    cases hretained
  rw [if_neg hshare] at h ⊢
  cases h
  rfl

/-- An extension that is not compared leaves the fields alone. -/
theorem retained_addExtension {parsed parsed' : ParsedClientHelloExtensions} {extensionType : Nat} {data : Bytes}
    {isLastExtension : Bool} (hvariant : isRetryInvariant (extensionType, data) = false)
    (h : parsed.addExtension extensionType data isLastExtension = .ok parsed') : parsed'.retained = parsed.retained := by
  have htypes : extensionType ∈ [extensionKeyShare, extensionPadding, extensionPreSharedKey, extensionEarlyData] := by
    simpa only [isRetryInvariant, decide_eq_false_iff_not, not_not] using hvariant
  simp only [List.mem_cons, List.not_mem_nil, or_false] at htypes
  rw [ParsedClientHelloExtensions.addExtension] at h
  obtain rfl | rfl | rfl | rfl := htypes
  · rw [if_neg (by decide), if_neg (by decide), if_neg (by decide), if_neg (by decide), if_neg (by decide),
      if_neg (by decide), if_pos rfl] at h
    obtain ⟨shares, -, h⟩ := bind_eq_ok.1 h
    cases h
    rfl
  · rw [if_neg (by decide), if_neg (by decide), if_neg (by decide), if_neg (by decide), if_neg (by decide),
      if_neg (by decide), if_neg (by decide)] at h
    cases h
    rfl
  · rw [if_neg (by decide), if_neg (by decide), if_neg (by decide), if_neg (by decide), if_pos rfl] at h
    split at h
    · cases h
      rfl
    · cases h
  · rw [if_neg (by decide), if_neg (by decide), if_neg (by decide), if_neg (by decide), if_neg (by decide),
      if_neg (by decide), if_neg (by decide)] at h
    cases h
    rfl

/-- The fields are what the compared extensions make of them, one after the other. -/
def RetainedByExtensions (state : ParsedClientHelloExtensions × List Nat) : Prop :=
  state.1.retained = (state.1.rawExtensions.filter isRetryInvariant).foldl ParsedClientHelloExtensions.retain {}

theorem readClientHelloExtension_retained {state state' : ParsedClientHelloExtensions × List Nat} {reader rest : Bytes}
    (hstate : RetainedByExtensions state) (h : readClientHelloExtension state reader = .ok (state', rest)) :
    RetainedByExtensions state' := by
  obtain ⟨parsed, seenExtensions⟩ := state
  obtain ⟨⟨extensionType, reader₁⟩, -, h⟩ := bind_eq_ok.1 h
  obtain ⟨⟨data, reader₂⟩, -, h⟩ := bind_eq_ok.1 h
  obtain ⟨-, -, h⟩ := bind_eq_ok.1 h
  obtain ⟨parsed', hadd, h⟩ := bind_eq_ok.1 h
  cases h
  have hraw := (addExtension_frame hadd).1
  dsimp only at hraw
  rw [RetainedByExtensions] at hstate ⊢
  dsimp only at hstate ⊢
  rw [hraw, List.filter_append, List.foldl_append, ← hstate]
  cases hretained : isRetryInvariant (extensionType, data) with
  | true =>
      have htype : extensionType ≠ extensionPreSharedKey := by
        rintro rfl
        cases hretained
      rw [addExtension_isLast htype] at hadd
      rw [List.filter_singleton, hretained]
      have hset := addExtension_retained hretained hadd
      exact (@retain_of_addExtension parsed.retained _ (extensionType, data) hset).symm
  | false =>
      have hkept := retained_addExtension hretained hadd
      rw [List.filter_singleton, hretained]
      exact hkept

theorem parseClientHelloExtensions_retained {input : Bytes} {parsed : ParsedClientHelloExtensions}
    (h : parseClientHelloExtensions input = .ok parsed) :
    parsed.retained = (parsed.rawExtensions.filter isRetryInvariant).foldl ParsedClientHelloExtensions.retain {} := by
  obtain ⟨⟨parsed, seenExtensions⟩, hrun, h⟩ := bind_eq_ok.1 h
  cases h
  exact ReadLoop.run_invariant (P := RetainedByExtensions) readClientHelloExtension_retained
    (show RetainedByExtensions ({}, []) from rfl) hrun

/-- The fields of a ClientHello that its compared extensions decide. -/
theorem parseClientHello_retained {message : Bytes} {clientHello : ClientHello}
    (h : parseClientHello message = .ok clientHello) :
    ∃ parsed : ParsedClientHelloExtensions,
      parsed.retained = (retryInvariantExtensions clientHello).foldl ParsedClientHelloExtensions.retain {} ∧
      clientHello.serverName = parsed.serverName ∧
      some clientHello.supportedVersions = parsed.supportedVersions ∧
      clientHello.supportedGroups = parsed.supportedGroups.getD [] ∧
      clientHello.signatureAlgorithms = parsed.signatureAlgorithms.getD [] ∧
      clientHello.alpnProtocols = parsed.alpnProtocols.getD [] := by
  obtain ⟨cipherSuites, extensions, parsed, -, -, hparsed, hversions, hclientHello⟩ := parseClientHello_ok h
  rw [hclientHello]
  exact ⟨parsed, parseClientHelloExtensions_retained hparsed, rfl, (validateClientHelloExtensions_ok hversions).1.symm,
    rfl, rfl, rfl⟩

/-- Messages whose compared extensions are equal say the same. -/
theorem parsedFields_eq {message message' : Bytes} {original retry : ClientHello}
    (horiginal : parseClientHello message = .ok original) (hretry : parseClientHello message' = .ok retry)
    (h : retryInvariantExtensions original = retryInvariantExtensions retry) :
    original.serverName = retry.serverName ∧ original.supportedVersions = retry.supportedVersions ∧
      original.supportedGroups = retry.supportedGroups ∧ original.signatureAlgorithms = retry.signatureAlgorithms ∧
      original.alpnProtocols = retry.alpnProtocols := by
  obtain ⟨parsed, hretained, hname, hversions, hgroups, halgorithms, halpn⟩ := parseClientHello_retained horiginal
  obtain ⟨parsed', hretained', hname', hversions', hgroups', halgorithms', halpn'⟩ := parseClientHello_retained hretry
  have hsame : parsed.retained = parsed'.retained := by rw [hretained, hretained', h]
  have hfield {α : Type} (field : ParsedClientHelloExtensions → α)
      (hfield : ∀ parsed : ParsedClientHelloExtensions, field parsed.retained = field parsed) :
      field parsed = field parsed' := by
    rw [← hfield parsed, hsame, hfield parsed']
  refine ⟨?_, ?_, ?_, ?_, ?_⟩
  · rw [hname, hname', hfield ParsedClientHelloExtensions.serverName fun _ => rfl]
  · apply Option.some.inj
    rw [hversions, hversions', hfield ParsedClientHelloExtensions.supportedVersions fun _ => rfl]
  · rw [hgroups, hgroups', hfield ParsedClientHelloExtensions.supportedGroups fun _ => rfl]
  · rw [halgorithms, halgorithms', hfield ParsedClientHelloExtensions.signatureAlgorithms fun _ => rfl]
  · rw [halpn, halpn', hfield ParsedClientHelloExtensions.alpnProtocols fun _ => rfl]

/-! ### The second ClientHello -/

theorem acceptClientHello_ok {message : Bytes} {clientHello : ClientHello}
    (h : acceptClientHello message = .ok clientHello) : parseClientHello message = .ok clientHello := by
  obtain ⟨parsed, hparse, h⟩ := bind_eq_ok.1 h
  obtain ⟨-, -, h⟩ := bind_eq_ok.1 h
  cases h
  exact mapErr_eq_ok.1 hparse

theorem validateRetryClientHello_ok {original retry : ClientHello}
    (h : validateRetryClientHello original retry = .ok ()) :
    (original.random = retry.random ∧ original.legacySessionId = retry.legacySessionId ∧
      original.cipherSuites = retry.cipherSuites) ∧
    retry.keyShares.map TlsKeyShareEntry.group = [tlsGroupSecp256r1] ∧
    retryInvariantExtensions original = retryInvariantExtensions retry := by
  obtain ⟨_, hsame, h⟩ := bind_eq_ok.1 h
  obtain ⟨-, -, h⟩ := bind_eq_ok.1 h
  obtain ⟨-, -, h⟩ := bind_eq_ok.1 h
  obtain ⟨_, hshares, h⟩ := bind_eq_ok.1 h
  exact ⟨ensure_eq_ok.1 hsame, ensure_eq_ok.1 hshares, ensure_eq_ok.1 h⟩

/-- A message with a P-256 key share is answered, not retried. -/
theorem negotiateTls13ServerFirstFlight_ne_helloRetry {message : Bytes} {clientHello : ClientHello}
    (haccept : acceptClientHello message = .ok clientHello) (hshare : clientHello.secp256r1KeyShare.isSome = true)
    (draws : List RandomDraw) (retry : Tls13HelloRetryFlight) :
    negotiateTls13ServerFirstFlight draws message ≠ some (.ok (.helloRetry retry)) := by
  intro h
  obtain ⟨found, hfound, ⟨flight, hflight, -⟩ | ⟨other, -, hnone, -⟩⟩ := negotiateTls13ServerFirstFlight_ok h
  · cases hflight
  · rw [haccept] at hfound
    cases hfound
    rw [hnone] at hshare
    cases hshare

/-- When the second ClientHello after a HelloRetryRequest is answered, it names the same client, server and parameters
as the first, with one key share for P-256; it cannot lead to another HelloRetryRequest; and the transcript is that of
both messages. -/
theorem helloRetry_keepsClientHello {draws draws' : List RandomDraw} {clientHelloMessage clientHelloMessage' : Bytes}
    {retry : Tls13HelloRetryFlight} {flight : Tls13ServerHelloFlight}
    (hretry : negotiateTls13ServerFirstFlight draws clientHelloMessage = some (.ok (.helloRetry retry)))
    (hcontinue : retry.continueWithClientHello draws' clientHelloMessage' = some (.ok flight)) :
    ∃ original second, parseClientHello clientHelloMessage = .ok original ∧
      parseClientHello clientHelloMessage' = .ok second ∧
      original.random = second.random ∧ original.legacySessionId = second.legacySessionId ∧
      original.cipherSuites = second.cipherSuites ∧ original.serverName = second.serverName ∧
      original.supportedVersions = second.supportedVersions ∧ original.supportedGroups = second.supportedGroups ∧
      original.signatureAlgorithms = second.signatureAlgorithms ∧ original.alpnProtocols = second.alpnProtocols ∧
      (∃ keyExchange, second.keyShares = [⟨tlsGroupSecp256r1, keyExchange⟩]) ∧
      (∀ draws'' retry',
        negotiateTls13ServerFirstFlight draws'' clientHelloMessage' ≠ some (.ok (.helloRetry retry'))) ∧
      flight.transcript.hash =
        sha256 (handshakeMessage handshakeTypeMessageHash (sha256 clientHelloMessage).toList ++
          retry.helloRetryRequest ++ clientHelloMessage' ++ flight.serverHello ++ flight.encryptedExtensions) := by
  obtain ⟨original, horiginal, ⟨_, hfirst, -⟩ | ⟨found, hfound, -, hflight⟩⟩ := negotiateTls13ServerFirstFlight_ok hretry
  · cases hfirst
  · cases hfound
    obtain ⟨hclientHello, -, -⟩ := helloRetryFlight_ok hflight
    obtain ⟨second, hsecond, hvalid, -⟩ := continueWithClientHello_ok hcontinue
    rw [hclientHello] at hvalid
    obtain ⟨⟨hrandom, hsession, hsuites⟩, hshares, hinvariant⟩ := validateRetryClientHello_ok hvalid
    obtain ⟨hname, hversions, hgroups, halgorithms, halpn⟩ :=
      parsedFields_eq (acceptClientHello_ok horiginal) (acceptClientHello_ok hsecond) hinvariant
    obtain ⟨⟨group, keyExchange⟩, hone, hgroup⟩ := List.map_eq_singleton_iff.1 hshares
    obtain rfl : group = tlsGroupSecp256r1 := hgroup
    have hshare : second.secp256r1KeyShare.isSome = true := by
      rw [ClientHello.secp256r1KeyShare, hone]
      rfl
    refine ⟨original, second, acceptClientHello_ok horiginal, acceptClientHello_ok hsecond, hrandom, hsession, hsuites,
      hname, hversions, hgroups, halgorithms, halpn, ⟨keyExchange, hone⟩,
      negotiateTls13ServerFirstFlight_ne_helloRetry hsecond hshare, ?_⟩
    rw [transcript_of_negotiated (.helloRetry hretry hcontinue), TlsTranscript.hash_ofBytes]

/-! A client that first sends no key share. -/

theorem parseClientKeyShares_empty : parseClientKeyShares [0, 0] = .ok [] := by
  have houter : HandshakeReader.readVectorU16 "key_share" [0, 0] = .ok ([], []) :=
    HandshakeReader.readVectorU16_eq_ok.2 ⟨by decide, rfl⟩
  rw [parseClientKeyShares, houter, ok_bind]
  exact ReadLoop.run_nil _

theorem helloRetryFlight_isOk {clientHello : ClientHello} (h : clientHello.legacySessionId.length ≤ 32)
    (clientHelloMessage : Bytes) :
    ∃ retry, helloRetryFlight clientHelloMessage clientHello = .ok retry := by
  obtain ⟨helloRetryRequest, hbuild⟩ := buildTls13HelloRetryRequest_isOk h
  rw [helloRetryFlight, hbuild, ok_bind, TlsTranscript.afterHelloRetry_eq, ok_bind]
  exact ⟨_, rfl⟩

theorem negotiateTls13ServerFirstFlight_helloRetry {message : Bytes} {clientHello : ClientHello}
    {retry : Tls13HelloRetryFlight} (haccept : acceptClientHello message = .ok clientHello)
    (hnone : clientHello.secp256r1KeyShare = none) (hretry : helloRetryFlight message clientHello = .ok retry)
    (draws : List RandomDraw) :
    negotiateTls13ServerFirstFlight draws message = some (.ok (.helloRetry retry)) := by
  simp only [negotiateTls13ServerFirstFlight, haccept, hnone, hretry, Option.isSome_none, Bool.false_eq_true, if_false]
  rfl

theorem continueWithClientHello_eq {retry : Tls13HelloRetryFlight} {draws : List RandomDraw} {message : Bytes}
    {clientHello : ClientHello} {flight : Tls13ServerHelloFlight}
    (haccept : acceptClientHello message = .ok clientHello)
    (hvalid : validateRetryClientHello retry.clientHello clientHello = .ok ())
    (hflight : negotiateTls13ServerHelloFromClientHello draws message clientHello retry.transcript =
      some (.ok flight)) : retry.continueWithClientHello draws message = some (.ok flight) := by
  simp only [Tls13HelloRetryFlight.continueWithClientHello, haccept, hvalid, hflight]

/-- The client sends its share after the HelloRetryRequest and keeps the name. -/
theorem helloRetry_keepsClientHello_example :
    ∃ message message' draws retry flight original second,
      negotiateTls13ServerFirstFlight [] message = some (.ok (.helloRetry retry)) ∧
      retry.continueWithClientHello draws message' = some (.ok flight) ∧
      parseClientHello message = .ok original ∧ parseClientHello message' = .ok second ∧
      original.serverName = second.serverName := by
  obtain ⟨publicKey, -, hdecoded⟩ := fromSec1Uncompressed_generatorMultiply (show (.one : Scalar) ≠ .zero by decide)
  have hfirst := acceptClientHello_offered isValidServerName_example (by decide) parseClientKeyShares_empty rfl
    (Vector.replicate 32 5)
  have hsecond := acceptClientHello_build isValidServerName_example (Vector.replicate 32 5) publicKey
  obtain ⟨retry, hretry⟩ := @helloRetryFlight_isOk
    (offeredClientHello (ascii "Example.com") [0, 0] (Vector.replicate 32 5) []) (Nat.zero_le _) _
  have hnegotiate := negotiateTls13ServerFirstFlight_helloRetry hfirst rfl hretry []
  have hvalid : validateRetryClientHello retry.clientHello
      (builtClientHello (ascii "Example.com") (Vector.replicate 32 5) publicKey) = .ok () := by
    rw [(helloRetryFlight_ok hretry).1]
    rfl
  obtain ⟨flight, _, _, _, -, -, hflight, -⟩ := @negotiateFromClientHello_build (ascii "Example.com") _ _ _ (Vector.replicate 32 5)
    (Vector.replicate 32 7) _ [] (by decide) hdecoded
    (generateEphemeralP256PrivateKey_toBeBytes _ two_ne_zero_scalar [.ok (Vector.replicate 32 7)]) _ retry.transcript
  have hcontinue := continueWithClientHello_eq hsecond hvalid hflight
  obtain ⟨original, second, horiginal, hsecond', -, -, -, hname, -⟩ := helloRetry_keepsClientHello hnegotiate hcontinue
  exact ⟨_, _, _, retry, flight, original, second, hnegotiate, hcontinue, horiginal, hsecond', hname⟩

end BareProxy.Tls
