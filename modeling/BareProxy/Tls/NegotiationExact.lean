import BareProxy.P256.Order
import BareProxy.Tls.HelloRetry

/-!
# When negotiation succeeds

Which ClientHellos the server answers, which it sends a HelloRetryRequest for, and which it turns down and why. What
its own computations may fail with never comes up: the server has a public key and a shared secret for every key
share that it takes, and its messages and records are short enough.
-/

namespace BareProxy.Tls

open P256 Crypto

/-! ### Random draws -/

/-- No private key. -/
def OutOfRange (candidate : ByteArrayN 32) : Prop :=
  ofBe candidate.toList = 0 ∨ p256GroupOrder.toNat ≤ ofBe candidate.toList

/-- These draws come first, and each is turned down. -/
def DrawsAfter (draws rest : List RandomDraw) : Prop :=
  ∃ rejected : List (ByteArrayN 32), (∀ candidate ∈ rejected, OutOfRange candidate) ∧
    draws = rejected.map .ok ++ rest

theorem drawsAfter_cons {candidate : ByteArrayN 32} {draw : RandomDraw} {draws rest : List RandomDraw}
    (h : OutOfRange candidate) (hdraw : draw ≠ .ok candidate) :
    DrawsAfter (.ok candidate :: draws) (draw :: rest) ↔ DrawsAfter draws (draw :: rest) := by
  constructor
  · rintro ⟨_ | ⟨first, rejected⟩, hrejected, hdraws⟩
    · exact absurd (List.cons.inj hdraws).1.symm hdraw
    · exact ⟨rejected, fun c hc => hrejected c (List.mem_cons_of_mem _ hc), (List.cons.inj hdraws).2⟩
  · rintro ⟨rejected, hrejected, rfl⟩
    exact ⟨candidate :: rejected, List.forall_mem_cons.2 ⟨h, hrejected⟩, rfl⟩

/-- A draw that is not turned down is the one that the others come before. -/
theorem drawsAfter_cons_of_not {first draw : RandomDraw} {draws rest : List RandomDraw}
    (h : ∀ candidate, first = .ok candidate → ¬OutOfRange candidate) :
    DrawsAfter (first :: draws) (draw :: rest) ↔ draw = first ∧ rest = draws := by
  constructor
  · rintro ⟨_ | ⟨candidate, rejected⟩, hrejected, hdraws⟩
    · obtain ⟨hfirst, hrest⟩ := List.cons.inj hdraws
      exact ⟨hfirst.symm, hrest.symm⟩
    · exact absurd (hrejected _ List.mem_cons_self) (h candidate (List.cons.inj hdraws).1)
  · rintro ⟨rfl, rfl⟩
    exact ⟨[], fun _ hc => absurd hc List.not_mem_nil, rfl⟩

theorem not_drawsAfter_nil {draw : RandomDraw} {rest : List RandomDraw} : ¬DrawsAfter [] (draw :: rest) := by
  rintro ⟨rejected, -, h⟩
  exact absurd h.symm (List.append_ne_nil_of_right_ne_nil _ (List.cons_ne_nil _ _))

theorem outOfRange_iff {candidate : ByteArrayN 32} :
    OutOfRange candidate ↔
      ¬(Uint256.fromBeBytes candidate ≠ .zero ∧ (Uint256.fromBeBytes candidate).cmp p256GroupOrder = .lt) := by
  rw [OutOfRange, Uint256.cmp_eq_lt, ← Uint256.toNat_fromBeBytes, ← Uint256.toNat_zero, Uint256.toNat_inj, ← not_lt]
  tauto

/-- The draws give this private key, and these are left. -/
def DrawsKey (draws : List RandomDraw) (key : Scalar) (rest : List RandomDraw) : Prop :=
  key ≠ .zero ∧ DrawsAfter draws (.ok key.value.toBeBytes :: rest)

theorem generateEphemeralP256PrivateKey_eq_error_iff {draws rest : List RandomDraw} {error : IoError} :
    generateEphemeralP256PrivateKey draws = some (.error error, rest) ↔ DrawsAfter draws (.error error :: rest) := by
  induction draws with
  | nil => exact iff_of_false (fun h => by cases h) not_drawsAfter_nil
  | cons draw draws ih =>
      cases draw with
      | error first =>
          rw [drawsAfter_cons_of_not (fun _ h => by cases h), generateEphemeralP256PrivateKey]
          simp only [Option.some.injEq, Prod.mk.injEq, Except.error.injEq, eq_comm]
      | ok candidate =>
          rw [generateEphemeralP256PrivateKey]
          by_cases hrange : OutOfRange candidate
          · rw [drawsAfter_cons hrange (fun h => by cases h), ← ih, dif_neg (outOfRange_iff.1 hrange)]
          · rw [drawsAfter_cons_of_not (fun _ h => Except.ok.inj h ▸ hrange),
              dif_pos (not_not.1 (outOfRange_iff.not.1 hrange))]
            exact iff_of_false (fun h => by cases h) fun h => by cases h.1

theorem generateEphemeralP256PrivateKey_eq_ok_iff {draws rest : List RandomDraw} {key : { key : Scalar // key ≠ .zero }} :
    generateEphemeralP256PrivateKey draws = some (.ok key, rest) ↔ DrawsKey draws key.1 rest := by
  constructor
  · intro h
    refine ⟨key.2, ?_⟩
    induction draws with
    | nil => cases h
    | cons draw draws ih =>
        cases draw with
        | error first => cases h
        | ok candidate =>
            rw [generateEphemeralP256PrivateKey] at h
            by_cases hrange : OutOfRange candidate
            · rw [dif_neg (outOfRange_iff.1 hrange)] at h
              obtain ⟨rejected, hrejected, rfl⟩ := ih h
              exact ⟨candidate :: rejected, List.forall_mem_cons.2 ⟨hrange, hrejected⟩, rfl⟩
            · rw [dif_pos (not_not.1 (outOfRange_iff.not.1 hrange))] at h
              cases h
              rw [drawsAfter_cons_of_not (fun _ h => Except.ok.inj h ▸ hrange), Uint256.toBeBytes_fromBeBytes]
              exact ⟨rfl, rfl⟩
  · rintro ⟨hkey, rejected, hrejected, rfl⟩
    induction rejected with
    | nil => exact generateEphemeralP256PrivateKey_toBeBytes key.1 hkey rest
    | cons candidate rejected ih =>
        obtain ⟨hcandidate, hrejected⟩ := List.forall_mem_cons.1 hrejected
        rw [List.map_cons, List.cons_append, generateEphemeralP256PrivateKey,
          dif_neg (outOfRange_iff.1 hcandidate)]
        exact ih hrejected

/-- The draws give a private key and the random bytes of the server. -/
def DrawsKeyAndRandom (draws : List RandomDraw) : Prop :=
  ∃ key random rest, DrawsKey draws key (.ok random :: rest)

/-- The random source fails before it has given both. -/
def DrawsFail (draws : List RandomDraw) (error : IoError) : Prop :=
  (∃ rest, DrawsAfter draws (.error error :: rest)) ∨ ∃ key rest, DrawsKey draws key (.error error :: rest)

theorem drawsKeyAndRandom_iff {draws : List RandomDraw} :
    DrawsKeyAndRandom draws ↔
      ∃ key random rest, generateEphemeralP256PrivateKey draws = some (.ok key, .ok random :: rest) := by
  simp only [generateEphemeralP256PrivateKey_eq_ok_iff]
  constructor
  · rintro ⟨key, random, rest, h⟩
    exact ⟨⟨key, h.1⟩, random, rest, h⟩
  · rintro ⟨key, random, rest, h⟩
    exact ⟨key.1, random, rest, h⟩

theorem drawsFail_iff {draws : List RandomDraw} {error : IoError} :
    DrawsFail draws error ↔
      (∃ rest, generateEphemeralP256PrivateKey draws = some (.error error, rest)) ∨
        ∃ key rest, generateEphemeralP256PrivateKey draws = some (.ok key, .error error :: rest) := by
  simp only [generateEphemeralP256PrivateKey_eq_error_iff, generateEphemeralP256PrivateKey_eq_ok_iff]
  refine or_congr_right ⟨?_, ?_⟩
  · rintro ⟨key, rest, h⟩
    exact ⟨⟨key, h.1⟩, rest, h⟩
  · rintro ⟨key, rest, h⟩
    exact ⟨key.1, rest, h⟩

/-! ### ClientHellos -/

/-- A ClientHello with everything that the server needs but a key share. -/
structure Acceptable (clientHelloMessage : Bytes) (clientHello : ClientHello) : Prop where
  parse_eq : parseClientHello clientHelloMessage = .ok clientHello
  cipherSuite_mem : tlsChacha20Poly1305Sha256 ∈ clientHello.cipherSuites
  group_mem : tlsGroupSecp256r1 ∈ clientHello.supportedGroups
  signatureAlgorithm_mem : tlsSignatureEcdsaSecp256r1Sha256 ∈ clientHello.signatureAlgorithms

/-- The key share is the public key of this private key. -/
def ClientHello.SharesKey (clientHello : ClientHello) (privateKey : Scalar) : Prop :=
  privateKey ≠ .zero ∧ ∃ encoded, (p256GeneratorMultiply privateKey).toSec1Uncompressed = .ok encoded ∧
    clientHello.secp256r1KeyShare = some encoded.toList

/-- The client speaks HTTP/1.1, or it does not say what it speaks. -/
def ClientHello.SpeaksHttp11 (clientHello : ClientHello) : Prop :=
  alpnHttp11 ∈ clientHello.alpnProtocols ∨ clientHello.alpnProtocols = []

/-- Why the first ClientHello is turned down. -/
inductive Refused (draws : List RandomDraw) (clientHelloMessage : Bytes) : TlsServerHandshakeError → Prop
  | clientHello {error : TlsHandshakeError} (h : parseClientHello clientHelloMessage = .error error) :
      Refused draws clientHelloMessage (.clientHello error)
  | cipherSuite {clientHello : ClientHello} (h : parseClientHello clientHelloMessage = .ok clientHello)
      (hsuite : tlsChacha20Poly1305Sha256 ∉ clientHello.cipherSuites) :
      Refused draws clientHelloMessage .unsupportedCipherSuite
  | group {clientHello : ClientHello} (h : parseClientHello clientHelloMessage = .ok clientHello)
      (hsuite : tlsChacha20Poly1305Sha256 ∈ clientHello.cipherSuites)
      (hgroup : tlsGroupSecp256r1 ∉ clientHello.supportedGroups) :
      Refused draws clientHelloMessage .unsupportedGroup
  | signatureAlgorithm {clientHello : ClientHello} (h : parseClientHello clientHelloMessage = .ok clientHello)
      (hsuite : tlsChacha20Poly1305Sha256 ∈ clientHello.cipherSuites)
      (hgroup : tlsGroupSecp256r1 ∈ clientHello.supportedGroups)
      (halgorithm : tlsSignatureEcdsaSecp256r1Sha256 ∉ clientHello.signatureAlgorithms) :
      Refused draws clientHelloMessage .unsupportedSignatureAlgorithm
  | keyShare {clientHello : ClientHello} {encoded : Bytes} {error : P256PointError}
      (h : Acceptable clientHelloMessage clientHello) (hshare : clientHello.secp256r1KeyShare = some encoded)
      (hencoded : P256Point.fromSec1Uncompressed encoded = .error error) :
      Refused draws clientHelloMessage (.invalidP256KeyShare error)
  | random {clientHello : ClientHello} {privateKey : Scalar} {error : IoError}
      (h : Acceptable clientHelloMessage clientHello) (hshare : clientHello.SharesKey privateKey)
      (hdraws : DrawsFail draws error) :
      Refused draws clientHelloMessage (.random error)
  | applicationProtocol {clientHello : ClientHello} {privateKey : Scalar}
      (h : Acceptable clientHelloMessage clientHello) (hshare : clientHello.SharesKey privateKey)
      (hdraws : DrawsKeyAndRandom draws) (hprotocol : ¬clientHello.SpeaksHttp11) :
      Refused draws clientHelloMessage .noApplicationProtocol

theorem acceptClientHello_eq_ok_iff {clientHelloMessage : Bytes} {clientHello : ClientHello} :
    acceptClientHello clientHelloMessage = .ok clientHello ↔ Acceptable clientHelloMessage clientHello := by
  constructor
  · intro h
    obtain ⟨parsed, hparse, h⟩ := bind_eq_ok.1 h
    obtain ⟨_, hvalid, h⟩ := bind_eq_ok.1 h
    obtain rfl := Except.ok.inj h
    obtain ⟨_, hsuite, hvalid⟩ := bind_eq_ok.1 hvalid
    obtain ⟨_, hgroup, halgorithm⟩ := bind_eq_ok.1 hvalid
    exact ⟨mapErr_eq_ok.1 hparse, List.contains_iff_mem.1 (ensure_eq_ok.1 hsuite),
      List.contains_iff_mem.1 (ensure_eq_ok.1 hgroup), List.contains_iff_mem.1 (ensure_eq_ok.1 halgorithm)⟩
  · rintro ⟨hparse, hsuite, hgroup, halgorithm⟩
    have hsuite : clientHello.offersChacha20Poly1305Sha256 = true := List.contains_iff_mem.2 hsuite
    have hgroup : clientHello.supportsSecp256r1 = true := List.contains_iff_mem.2 hgroup
    have halgorithm : clientHello.supportsEcdsaSecp256r1Sha256 = true := List.contains_iff_mem.2 halgorithm
    rw [acceptClientHello, hparse, mapErr_ok, ok_bind, validateTls13ServerClientHello, ensure_of hsuite, ok_bind,
      ensure_of hgroup, ok_bind, ensure_of halgorithm, ok_bind, pure_eq_ok]

/-- Session IDs are short enough to be sent back. -/
theorem length_legacySessionId {clientHelloMessage : Bytes} {clientHello : ClientHello}
    (h : parseClientHello clientHelloMessage = .ok clientHello) : clientHello.legacySessionId.length ≤ 32 := by
  obtain ⟨-, -, h⟩ := bind_eq_ok.1 h
  obtain ⟨-, -, h⟩ := bind_eq_ok.1 h
  obtain ⟨-, -, h⟩ := bind_eq_ok.1 h
  obtain ⟨⟨_, _⟩, -, h⟩ := bind_eq_ok.1 h
  obtain ⟨-, -, h⟩ := bind_eq_ok.1 h
  obtain ⟨⟨_, _⟩, -, h⟩ := bind_eq_ok.1 h
  obtain ⟨⟨_, _⟩, -, h⟩ := bind_eq_ok.1 h
  obtain ⟨_, hlength, h⟩ := bind_eq_ok.1 h
  obtain ⟨⟨_, _⟩, -, h⟩ := bind_eq_ok.1 h
  obtain ⟨-, -, h⟩ := bind_eq_ok.1 h
  obtain ⟨⟨_, _⟩, -, h⟩ := bind_eq_ok.1 h
  obtain ⟨-, -, h⟩ := bind_eq_ok.1 h
  obtain ⟨-, -, h⟩ := bind_eq_ok.1 h
  obtain ⟨⟨_, _⟩, -, h⟩ := bind_eq_ok.1 h
  obtain ⟨-, -, h⟩ := bind_eq_ok.1 h
  obtain ⟨_, -, h⟩ := bind_eq_ok.1 h
  obtain ⟨_, -, h⟩ := bind_eq_ok.1 h
  obtain rfl := Except.ok.inj h
  exact ensure_eq_ok.1 hlength

/-! ### Keys -/

section KeyShare

variable {clientHello : ClientHello}

theorem clientKeyShare_sharesKey {privateKey : Scalar} (h : clientHello.SharesKey privateKey) :
    clientKeyShare clientHello = .ok (p256GeneratorMultiply privateKey) := by
  obtain ⟨hkey, encoded, hencoded, hshare⟩ := h
  obtain ⟨array, harray, hdecoded⟩ := fromSec1Uncompressed_generatorMultiply hkey
  obtain rfl : encoded = array := Except.ok.inj (hencoded.symm.trans harray)
  rw [clientKeyShare, hshare, okOr, ok_bind, hdecoded, mapErr_ok]

/-- A key share is missing, or it is no point, or it is the public key of some private key. -/
theorem keyShare_cases (clientHello : ClientHello) :
    clientHello.secp256r1KeyShare = none ∨
    (∃ encoded error, clientHello.secp256r1KeyShare = some encoded ∧
      P256Point.fromSec1Uncompressed encoded = .error error) ∨
    ∃ privateKey, clientHello.SharesKey privateKey := by
  cases hshare : clientHello.secp256r1KeyShare with
  | none => exact .inl rfl
  | some encoded =>
      cases hpoint : P256Point.fromSec1Uncompressed encoded with
      | error error => exact .inr (.inl ⟨encoded, error, rfl, hpoint⟩)
      | ok point =>
          obtain ⟨privateKey, hkey, rfl⟩ := exists_privateKey hpoint
          obtain ⟨array, harray, rfl⟩ := P256Point.toSec1Uncompressed_of_fromSec1Uncompressed hpoint
          exact .inr (.inr ⟨privateKey, hkey, array, harray, hshare⟩)

/-- Two private keys have public keys and a secret. -/
theorem serverKeyExchange_isOk {serverKey privateKey : Scalar} (hserver : serverKey ≠ .zero)
    (hprivate : privateKey ≠ .zero) :
    ∃ serverKeyShare sharedSecret, serverKeyExchange serverKey (p256GeneratorMultiply privateKey) =
      .ok (serverKeyShare, sharedSecret) := by
  obtain ⟨serverKeyShare, hshare, -⟩ := fromSec1Uncompressed_generatorMultiply hserver
  obtain ⟨sharedSecret, hsecret, -⟩ := p256Ecdh_comm hserver hprivate
  refine ⟨serverKeyShare, sharedSecret, ?_⟩
  rw [serverKeyExchange]
  simp only [hshare, hsecret, mapErr_ok, ok_bind, pure_eq_ok]

theorem speaksHttp11_iff :
    clientHello.SpeaksHttp11 ↔ ∃ result, negotiateAlpn clientHello = .ok result := by
  have hoffers : alpnHttp11 ∈ clientHello.alpnProtocols ↔ clientHello.offersHttp11 = true := by
    rw [ClientHello.offersHttp11, List.any_eq_true]
    simp only [decide_eq_true_iff, exists_eq_right]
  rw [ClientHello.SpeaksHttp11, negotiateAlpn, hoffers, ← List.isEmpty_iff]
  by_cases hhttp : clientHello.offersHttp11 = true
  · rw [if_pos hhttp]
    exact iff_of_true (.inl hhttp) ⟨_, rfl⟩
  rw [if_neg hhttp]
  by_cases hempty : clientHello.alpnProtocols.isEmpty = true
  · rw [if_pos hempty]
    exact iff_of_true (.inr hempty) ⟨_, rfl⟩
  · rw [if_neg hempty]
    refine iff_of_false (not_or.2 ⟨hhttp, hempty⟩) ?_
    rintro ⟨_, h⟩
    cases h

end KeyShare

/-! ### The answer -/

section Answer

variable {clientHello : ClientHello} (hsession : clientHello.legacySessionId.length ≤ 32) (clientHelloMessage : Bytes)
  (transcript : TlsTranscript) (serverKeyShare : ByteArrayN 65) (sharedSecret : ByteArrayN 32)
include hsession

theorem answerClientHello_speaksHttp11 (h : clientHello.SpeaksHttp11) (serverRandom : ByteArrayN 32) :
    ∃ flight, answerClientHello clientHelloMessage clientHello transcript serverKeyShare sharedSecret
      (.ok serverRandom) = .ok flight := by
  obtain ⟨⟨extensions, negotiatedAlpn⟩, halpn⟩ := speaksHttp11_iff.1 h
  have hextensions := buildTls13EncryptedExtensions_eq_ok.2 ⟨extensions, halpn, rfl⟩
  exact answerClientHello_isOk hsession hextensions clientHelloMessage transcript serverKeyShare sharedSecret serverRandom

/-- The protocols of the client come last, after everything that cannot fail. -/
theorem answerClientHello_not_speaksHttp11 (h : ¬clientHello.SpeaksHttp11) (serverRandom : ByteArrayN 32) :
    answerClientHello clientHelloMessage clientHello transcript serverKeyShare sharedSecret (.ok serverRandom) =
      .error .noApplicationProtocol := by
  obtain ⟨serverHello, hserverHello⟩ := buildTls13ServerHello_isOk hsession serverRandom serverKeyShare
  obtain ⟨keySchedule, hkeySchedule⟩ := deriveTls13HandshakeKeySchedule_isOk sharedSecret
    ((transcript.updateHandshakeMessage clientHelloMessage).updateHandshakeMessage serverHello).hash
  have halpn : negotiateAlpn clientHello = .error .noApplicationProtocol := by
    rw [speaksHttp11_iff] at h
    rw [negotiateAlpn] at h ⊢
    split at h
    · exact absurd ⟨_, rfl⟩ h
    · split at h
      · exact absurd ⟨_, rfl⟩ h
      · rename_i hhttp hempty
        rw [if_neg hhttp, if_neg hempty]
  rw [answerClientHello]
  simp only [mapErr_ok, ok_bind, hserverHello, hkeySchedule, buildTls13EncryptedExtensions, halpn, error_bind]

end Answer

section Negotiate

variable {clientHello : ClientHello} {privateKey : Scalar} {draws : List RandomDraw} {clientHelloMessage : Bytes}
  {transcript : TlsTranscript}

/-- What becomes of a ClientHello with a usable key share, draw by draw. -/
theorem negotiateFromClientHello_sharesKey (hsession : clientHello.legacySessionId.length ≤ 32)
    (hshare : clientHello.SharesKey privateKey) :
    (∀ error, negotiateTls13ServerHelloFromClientHello draws clientHelloMessage clientHello transcript =
        some (.error error) ↔
      (∃ ioError, error = .random ioError ∧ DrawsFail draws ioError) ∨
        (error = .noApplicationProtocol ∧ DrawsKeyAndRandom draws ∧ ¬clientHello.SpeaksHttp11)) ∧
    ((∃ flight, negotiateTls13ServerHelloFromClientHello draws clientHelloMessage clientHello transcript =
        some (.ok flight)) ↔ DrawsKeyAndRandom draws ∧ clientHello.SpeaksHttp11) := by
  simp only [negotiateTls13ServerHelloFromClientHello, clientKeyShare_sharesKey hshare, drawsFail_iff,
    drawsKeyAndRandom_iff]
  cases generateEphemeralP256PrivateKey draws with
  | none => simp
  | some drawn =>
      obtain ⟨drawError | serverKey, draws⟩ := drawn
      · simp
        exact fun _ => eq_comm
      obtain ⟨serverKeyShare, sharedSecret, hexchange⟩ := serverKeyExchange_isOk serverKey.2 hshare.1
      simp only [hexchange]
      cases draws with
      | nil => simp
      | cons draw draws =>
          cases draw with
          | error error => simp [answerClientHello, eq_comm]
          | ok random =>
              by_cases hspeaks : clientHello.SpeaksHttp11
              · obtain ⟨flight, hflight⟩ := answerClientHello_speaksHttp11 hsession clientHelloMessage transcript
                  serverKeyShare sharedSecret hspeaks random
                simp [hflight, hspeaks]
              · have hrefuse := answerClientHello_not_speaksHttp11 hsession clientHelloMessage transcript
                  serverKeyShare sharedSecret hspeaks random
                simp [hrefuse, hspeaks, eq_comm]

end Negotiate

/-! ### The first flight -/

theorem ensure_bind_eq_error {ε α : Type} {p : Prop} [Decidable p] {error error' : ε} {f : Unit → Except ε α} :
    (ensure p error >>= f) = .error error' ↔ (¬p ∧ error' = error) ∨ (p ∧ f () = .error error') := by
  rw [ensure]
  split <;> simp_all [eq_comm]

section FirstFlight

variable {draws : List RandomDraw} {clientHelloMessage : Bytes} {clientHello : ClientHello}

theorem refused_of_acceptClientHello {error : TlsServerHandshakeError}
    (h : acceptClientHello clientHelloMessage = .error error) : Refused draws clientHelloMessage error := by
  rw [acceptClientHello] at h
  cases hparse : parseClientHello clientHelloMessage with
  | error parseError =>
      rw [hparse] at h
      cases h
      exact .clientHello hparse
  | ok clientHello =>
      have hsuite := @List.contains_iff_mem _ _ _ tlsChacha20Poly1305Sha256 clientHello.cipherSuites
      have hgroup := @List.contains_iff_mem _ _ _ tlsGroupSecp256r1 clientHello.supportedGroups
      have halgorithm := @List.contains_iff_mem _ _ _ tlsSignatureEcdsaSecp256r1Sha256 clientHello.signatureAlgorithms
      rw [hparse, mapErr_ok, ok_bind, validateTls13ServerClientHello, bind_assoc, ensure_bind_eq_error] at h
      obtain ⟨hnot, rfl⟩ | ⟨hoffers, h⟩ := h
      · exact .cipherSuite hparse (hsuite.not.1 hnot)
      rw [bind_assoc, ensure_bind_eq_error] at h
      obtain ⟨hnot, rfl⟩ | ⟨hsupports, h⟩ := h
      · exact .group hparse (hsuite.1 hoffers) (hgroup.not.1 hnot)
      rw [ensure_bind_eq_error] at h
      obtain ⟨hnot, rfl⟩ | ⟨-, h⟩ := h
      · exact .signatureAlgorithm hparse (hsuite.1 hoffers) (hgroup.1 hsupports) (halgorithm.not.1 hnot)
      · cases h

theorem firstFlight_sharesKey {privateKey : Scalar} (h : Acceptable clientHelloMessage clientHello)
    (hshare : clientHello.SharesKey privateKey) :
    negotiateTls13ServerFirstFlight draws clientHelloMessage =
      (negotiateTls13ServerHelloFromClientHello draws clientHelloMessage clientHello .new).map
        (Except.map .serverHello) := by
  obtain ⟨-, encoded, -, hshare⟩ := hshare
  rw [negotiateTls13ServerFirstFlight, acceptClientHello_eq_ok_iff.2 h]
  dsimp only
  rw [hshare, if_pos Option.isSome_some]

theorem firstFlight_noKeyShare (h : Acceptable clientHelloMessage clientHello)
    (hshare : clientHello.secp256r1KeyShare = none) :
    ∃ retry, negotiateTls13ServerFirstFlight draws clientHelloMessage = some (.ok (.helloRetry retry)) := by
  obtain ⟨retry, hretry⟩ := helloRetryFlight_isOk (length_legacySessionId h.parse_eq) clientHelloMessage
  exact ⟨retry, negotiateTls13ServerFirstFlight_helloRetry (acceptClientHello_eq_ok_iff.2 h) hshare hretry draws⟩

theorem firstFlight_badKeyShare {encoded : Bytes} {error : P256PointError}
    (h : Acceptable clientHelloMessage clientHello) (hshare : clientHello.secp256r1KeyShare = some encoded)
    (hencoded : P256Point.fromSec1Uncompressed encoded = .error error) :
    negotiateTls13ServerFirstFlight draws clientHelloMessage = some (.error (.invalidP256KeyShare error)) := by
  have hkey : clientKeyShare clientHello = .error (.invalidP256KeyShare error) := by
    rw [clientKeyShare, hshare, okOr, ok_bind, hencoded, mapErr_error]
  rw [negotiateTls13ServerFirstFlight, acceptClientHello_eq_ok_iff.2 h]
  dsimp only
  rw [hshare, if_pos Option.isSome_some, negotiateTls13ServerHelloFromClientHello, hkey]
  rfl

theorem map_serverHello_eq_error {result : Option (Except TlsServerHandshakeError Tls13ServerHelloFlight)}
    {error : TlsServerHandshakeError} :
    result.map (Except.map Tls13ServerFirstFlight.serverHello) = some (.error error) ↔ result = some (.error error) := by
  rcases result with _ | error | flight <;> simp [Except.map]

theorem map_serverHello_eq_ok {result : Option (Except TlsServerHandshakeError Tls13ServerHelloFlight)}
    {flight : Tls13ServerHelloFlight} :
    result.map (Except.map Tls13ServerFirstFlight.serverHello) = some (.ok (.serverHello flight)) ↔
      result = some (.ok flight) := by
  rcases result with _ | error | flight <;> simp [Except.map]

theorem firstFlight_of_refused {error : TlsServerHandshakeError} (h : Refused draws clientHelloMessage error) :
    negotiateTls13ServerFirstFlight draws clientHelloMessage = some (.error error) := by
  have hturnedDown {clientHello : ClientHello} (hparse : parseClientHello clientHelloMessage = .ok clientHello)
      (hvalid : validateTls13ServerClientHello clientHello = .error error) :
      negotiateTls13ServerFirstFlight draws clientHelloMessage = some (.error error) := by
    rw [negotiateTls13ServerFirstFlight, acceptClientHello, hparse, mapErr_ok, ok_bind, hvalid, error_bind]
  cases h with
  | clientHello hparse => rw [negotiateTls13ServerFirstFlight, acceptClientHello, hparse, mapErr_error, error_bind]
  | cipherSuite hparse hsuite =>
      apply hturnedDown hparse
      rw [validateTls13ServerClientHello, ensure_bind_eq_error]
      exact .inl ⟨List.contains_iff_mem.not.2 hsuite, rfl⟩
  | group hparse hsuite hgroup =>
      apply hturnedDown hparse
      rw [validateTls13ServerClientHello, ensure_bind_eq_error, ensure_bind_eq_error]
      exact .inr ⟨List.contains_iff_mem.2 hsuite, .inl ⟨List.contains_iff_mem.not.2 hgroup, rfl⟩⟩
  | signatureAlgorithm hparse hsuite hgroup halgorithm =>
      apply hturnedDown hparse
      rw [validateTls13ServerClientHello, ensure_bind_eq_error, ensure_bind_eq_error]
      exact .inr ⟨List.contains_iff_mem.2 hsuite, .inr ⟨List.contains_iff_mem.2 hgroup,
        if_neg (List.contains_iff_mem.not.2 halgorithm)⟩⟩
  | keyShare h hshare hencoded => exact firstFlight_badKeyShare h hshare hencoded
  | random h hshare hdraws =>
      rw [firstFlight_sharesKey h hshare, map_serverHello_eq_error,
        (negotiateFromClientHello_sharesKey (length_legacySessionId h.parse_eq) hshare).1]
      exact .inl ⟨_, rfl, hdraws⟩
  | applicationProtocol h hshare hdraws hprotocol =>
      rw [firstFlight_sharesKey h hshare, map_serverHello_eq_error,
        (negotiateFromClientHello_sharesKey (length_legacySessionId h.parse_eq) hshare).1]
      exact .inr ⟨rfl, hdraws, hprotocol⟩

theorem refused_of_firstFlight {error : TlsServerHandshakeError}
    (h : negotiateTls13ServerFirstFlight draws clientHelloMessage = some (.error error)) :
    Refused draws clientHelloMessage error := by
  cases haccept : acceptClientHello clientHelloMessage with
  | error refusal =>
      rw [negotiateTls13ServerFirstFlight, haccept] at h
      cases h
      exact refused_of_acceptClientHello haccept
  | ok clientHello =>
      have haccepted := acceptClientHello_eq_ok_iff.1 haccept
      obtain hnone | ⟨encoded, pointError, hshare, hencoded⟩ | ⟨privateKey, hshare⟩ := keyShare_cases clientHello
      · obtain ⟨retry, hretry⟩ := firstFlight_noKeyShare haccepted hnone
        rw [hretry] at h
        cases h
      · rw [firstFlight_badKeyShare haccepted hshare hencoded] at h
        cases h
        exact .keyShare haccepted hshare hencoded
      · rw [firstFlight_sharesKey haccepted hshare, map_serverHello_eq_error,
          (negotiateFromClientHello_sharesKey (length_legacySessionId haccepted.parse_eq) hshare).1] at h
        obtain ⟨ioError, rfl, hdraws⟩ | ⟨rfl, hdraws, hprotocol⟩ := h
        · exact .random haccepted hshare hdraws
        · exact .applicationProtocol haccepted hshare hdraws hprotocol

/-- An answer goes out only to a key share that is a public key. -/
theorem negotiateFromClientHello_isOk_iff {transcript : TlsTranscript} (h : Acceptable clientHelloMessage clientHello) :
    (∃ flight, negotiateTls13ServerHelloFromClientHello draws clientHelloMessage clientHello transcript =
        some (.ok flight)) ↔
      ∃ privateKey, clientHello.SharesKey privateKey ∧ DrawsKeyAndRandom draws ∧ clientHello.SpeaksHttp11 := by
  have hsession := length_legacySessionId h.parse_eq
  constructor
  · intro hflight
    obtain hnone | ⟨encoded, error, hshare, hencoded⟩ | ⟨privateKey, hshare⟩ := keyShare_cases clientHello
    · obtain ⟨flight, hflight⟩ := hflight
      rw [negotiateTls13ServerHelloFromClientHello, clientKeyShare, hnone] at hflight
      cases hflight
    · obtain ⟨flight, hflight⟩ := hflight
      rw [negotiateTls13ServerHelloFromClientHello, clientKeyShare, hshare, okOr, ok_bind, hencoded] at hflight
      cases hflight
    · exact ⟨privateKey, hshare, (negotiateFromClientHello_sharesKey hsession hshare).2.1 hflight⟩
  · rintro ⟨privateKey, hshare, hfacts⟩
    exact (negotiateFromClientHello_sharesKey hsession hshare).2.2 hfacts

end FirstFlight

/-- The first flight is turned down for one of these reasons and for no other, it asks for a key share exactly when an
acceptable ClientHello brings none, and it goes out exactly when there are a key share, which is then the public key of
some private key, enough random bytes and a common protocol. The second ClientHello is answered in the same cases. -/
theorem negotiateTls13ServerFirstFlight_exact (draws : List RandomDraw) (clientHelloMessage : Bytes) :
    (∀ error, negotiateTls13ServerFirstFlight draws clientHelloMessage = some (.error error) ↔
      Refused draws clientHelloMessage error) ∧
    ((∃ retry, negotiateTls13ServerFirstFlight draws clientHelloMessage = some (.ok (.helloRetry retry))) ↔
      ∃ clientHello, Acceptable clientHelloMessage clientHello ∧ clientHello.secp256r1KeyShare = none) ∧
    ((∃ flight, negotiateTls13ServerFirstFlight draws clientHelloMessage = some (.ok (.serverHello flight))) ↔
      ∃ clientHello privateKey, Acceptable clientHelloMessage clientHello ∧ clientHello.SharesKey privateKey ∧
        DrawsKeyAndRandom draws ∧ clientHello.SpeaksHttp11) ∧
    ∀ retry : Tls13HelloRetryFlight,
      (∃ flight, retry.continueWithClientHello draws clientHelloMessage = some (.ok flight)) ↔
        ∃ clientHello privateKey, Acceptable clientHelloMessage clientHello ∧
          validateRetryClientHello retry.clientHello clientHello = .ok () ∧ clientHello.SharesKey privateKey ∧
          DrawsKeyAndRandom draws ∧ clientHello.SpeaksHttp11 := by
  refine ⟨fun error => ⟨refused_of_firstFlight, firstFlight_of_refused⟩, ⟨?_, ?_⟩, ⟨?_, ?_⟩, fun retry => ⟨?_, ?_⟩⟩
  · rintro ⟨retry, hretry⟩
    obtain ⟨clientHello, haccept, ⟨flight, hflight, -⟩ | ⟨found, -, hshare, -⟩⟩ := negotiateTls13ServerFirstFlight_ok hretry
    · cases hflight
    · exact ⟨clientHello, acceptClientHello_eq_ok_iff.1 haccept, hshare⟩
  · rintro ⟨clientHello, haccepted, hshare⟩
    exact firstFlight_noKeyShare haccepted hshare
  · rintro ⟨flight, hflight⟩
    obtain ⟨clientHello, haccept, ⟨found, -, hnegotiate⟩ | ⟨retry, hretry, -⟩⟩ := negotiateTls13ServerFirstFlight_ok hflight
    · have haccepted := acceptClientHello_eq_ok_iff.1 haccept
      obtain ⟨privateKey, hfacts⟩ := (negotiateFromClientHello_isOk_iff haccepted).1 ⟨found, hnegotiate⟩
      exact ⟨clientHello, privateKey, haccepted, hfacts⟩
    · cases hretry
  · rintro ⟨clientHello, privateKey, haccepted, hshare, hfacts⟩
    obtain ⟨flight, hflight⟩ := (negotiateFromClientHello_isOk_iff haccepted).2 ⟨privateKey, hshare, hfacts⟩
    exact ⟨flight, by rw [firstFlight_sharesKey haccepted hshare, map_serverHello_eq_ok, hflight]⟩
  · rintro ⟨flight, hflight⟩
    obtain ⟨clientHello, haccept, hvalid, hnegotiate⟩ := continueWithClientHello_ok hflight
    have haccepted := acceptClientHello_eq_ok_iff.1 haccept
    obtain ⟨privateKey, hfacts⟩ := (negotiateFromClientHello_isOk_iff haccepted).1 ⟨flight, hnegotiate⟩
    exact ⟨clientHello, privateKey, haccepted, hvalid, hfacts⟩
  · rintro ⟨clientHello, privateKey, haccepted, hvalid, hfacts⟩
    obtain ⟨flight, hflight⟩ := (negotiateFromClientHello_isOk_iff haccepted).2 ⟨privateKey, hfacts⟩
    exact ⟨flight, continueWithClientHello_eq (acceptClientHello_eq_ok_iff.2 haccepted) hvalid hflight⟩

end BareProxy.Tls
