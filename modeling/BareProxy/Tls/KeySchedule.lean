import BareProxy.Tls.HandshakeWire

/-!
# Transcript and key schedule

The running hash over the handshake messages and the secrets that `tls.rs` derives from it. A transcript is
determined by the bytes it was given, and none of the derivations can fail: their labels are fixed and their
secrets and contexts are digests.
-/

namespace BareProxy.Tls

open Crypto

structure TlsTranscript where
  sha256 : Sha256

namespace TlsTranscript

def new : TlsTranscript := ⟨.new⟩

def updateHandshakeMessage (transcript : TlsTranscript) (message : Bytes) : TlsTranscript :=
  ⟨transcript.sha256.update message⟩

def hash (transcript : TlsTranscript) : ByteArrayN 32 := transcript.sha256.finalize

def afterHelloRetry (clientHelloMessage helloRetryRequest : Bytes) :
    Except TlsServerHandshakeError TlsTranscript := do
  let clientHelloHash := Crypto.sha256 clientHelloMessage
  let messageHash ← encodeHandshakeMessage handshakeTypeMessageHash clientHelloHash.toList
  return (new.updateHandshakeMessage messageHash).updateHandshakeMessage helloRetryRequest

/-- The transcript that has seen these bytes. -/
def ofBytes (bytes : Bytes) : TlsTranscript := ⟨.ofBytes bytes⟩

@[simp] theorem updateHandshakeMessage_new (message : Bytes) :
    new.updateHandshakeMessage message = ofBytes message := congrArg mk (Sha256.new_update message)

@[simp] theorem updateHandshakeMessage_ofBytes (seen message : Bytes) :
    (ofBytes seen).updateHandshakeMessage message = ofBytes (seen ++ message) :=
  congrArg mk (Sha256.update_ofBytes seen message)

@[simp] theorem hash_ofBytes (bytes : Bytes) : (ofBytes bytes).hash = Crypto.sha256 bytes :=
  Sha256.finalize_ofBytes bytes

theorem afterHelloRetry_eq (clientHelloMessage helloRetryRequest : Bytes) :
    afterHelloRetry clientHelloMessage helloRetryRequest =
      .ok (ofBytes (handshakeMessage handshakeTypeMessageHash (Crypto.sha256 clientHelloMessage).toList ++
        helloRetryRequest)) := by
  have hlength : (Crypto.sha256 clientHelloMessage).toList.length ≤ tlsUint24Max := by
    rw [Vector.length_toList]
    decide
  rw [afterHelloRetry, encodeHandshakeMessage_eq hlength, ok_bind, updateHandshakeMessage_new,
    updateHandshakeMessage_ofBytes, pure_eq_ok]

end TlsTranscript

/-! ### Derivations -/

/-- The `expect` on the length is `length_tls13HkdfExpandLabelSha256`. -/
def tls13ExpandLabelArray (n : Nat) (secret : Bytes) (label : String) (context : Bytes) :
    Except HkdfError (ByteArrayN n) :=
  match h : tls13HkdfExpandLabelSha256 secret (ascii label) context n with
  | .error error => .error error
  | .ok expanded => .ok (arrayOf expanded (length_tls13HkdfExpandLabelSha256 h))

def deriveTls13TrafficKeyIv (trafficSecret : ByteArrayN 32) : Except HkdfError (ByteArrayN 32 × ByteArrayN 12) := do
  let key ← tls13ExpandLabelArray 32 trafficSecret.toList "key" []
  let iv ← tls13ExpandLabelArray 12 trafficSecret.toList "iv" []
  return (key, iv)

structure Tls13HandshakeKeySchedule where
  clientHandshakeTrafficSecret : ByteArrayN 32
  serverHandshakeTrafficSecret : ByteArrayN 32
  mainSecret : ByteArrayN 32
  clientKey : ByteArrayN 32
  clientIv : ByteArrayN 12
  serverKey : ByteArrayN 32
  serverIv : ByteArrayN 12

structure Tls13ApplicationKeySchedule where
  clientApplicationTrafficSecret : ByteArrayN 32
  serverApplicationTrafficSecret : ByteArrayN 32
  clientKey : ByteArrayN 32
  clientIv : ByteArrayN 12
  serverKey : ByteArrayN 32
  serverIv : ByteArrayN 12

def deriveTls13HandshakeKeySchedule (sharedSecret helloTranscriptHash : ByteArrayN 32) :
    Except HkdfError Tls13HandshakeKeySchedule := do
  let zeroSecret : Bytes := List.replicate 32 0
  let emptyHash := sha256 []
  let earlySecret := hkdfExtractSha256 zeroSecret zeroSecret
  let derivedEarlySecret ← tls13ExpandLabelArray 32 earlySecret.toList "derived" emptyHash.toList
  let handshakeSecret := hkdfExtractSha256 derivedEarlySecret.toList sharedSecret.toList
  let clientHandshakeTrafficSecret ←
    tls13ExpandLabelArray 32 handshakeSecret.toList "c hs traffic" helloTranscriptHash.toList
  let serverHandshakeTrafficSecret ←
    tls13ExpandLabelArray 32 handshakeSecret.toList "s hs traffic" helloTranscriptHash.toList
  let derivedHandshakeSecret ← tls13ExpandLabelArray 32 handshakeSecret.toList "derived" emptyHash.toList
  let mainSecret := hkdfExtractSha256 derivedHandshakeSecret.toList zeroSecret
  let (clientKey, clientIv) ← deriveTls13TrafficKeyIv clientHandshakeTrafficSecret
  let (serverKey, serverIv) ← deriveTls13TrafficKeyIv serverHandshakeTrafficSecret
  return ⟨clientHandshakeTrafficSecret, serverHandshakeTrafficSecret, mainSecret, clientKey, clientIv, serverKey,
    serverIv⟩

def deriveTls13ApplicationKeySchedule (mainSecret serverFinishedTranscriptHash : ByteArrayN 32) :
    Except HkdfError Tls13ApplicationKeySchedule := do
  let clientApplicationTrafficSecret ←
    tls13ExpandLabelArray 32 mainSecret.toList "c ap traffic" serverFinishedTranscriptHash.toList
  let serverApplicationTrafficSecret ←
    tls13ExpandLabelArray 32 mainSecret.toList "s ap traffic" serverFinishedTranscriptHash.toList
  let (clientKey, clientIv) ← deriveTls13TrafficKeyIv clientApplicationTrafficSecret
  let (serverKey, serverIv) ← deriveTls13TrafficKeyIv serverApplicationTrafficSecret
  return ⟨clientApplicationTrafficSecret, serverApplicationTrafficSecret, clientKey, clientIv, serverKey, serverIv⟩

def tls13FinishedVerifyData (handshakeTrafficSecret transcriptHash : ByteArrayN 32) :
    Except HkdfError (ByteArrayN 32) := do
  let finishedKey ← tls13ExpandLabelArray 32 handshakeTrafficSecret.toList "finished" []
  return hmacSha256 finishedKey.toList transcriptHash.toList

/-! ### None of them fails -/

/-- The labels that the handshake uses. -/
def tls13Labels : List String :=
  ["derived", "c hs traffic", "s hs traffic", "c ap traffic", "s ap traffic", "key", "iv", "finished"]

theorem length_tls13Labels : ∀ label ∈ tls13Labels, ascii label ≠ [] ∧ (ascii label).length ≤ tls13MaxLabelSize := by
  decide

theorem tls13ExpandLabelArray_isOk {n : Nat} {label : String} {context : Bytes} (secret : ByteArrayN 32)
    (hn : n ≤ hkdfMaxOutputSize) (hlabel : label ∈ tls13Labels) (hcontext : context.length ≤ tls13MaxContextSize) :
    ∃ output, tls13ExpandLabelArray n secret.toList label context = .ok output := by
  obtain ⟨hne, hle⟩ := length_tls13Labels label hlabel
  obtain ⟨expanded, hexpanded⟩ :=
    tls13HkdfExpandLabelSha256_isOk (by simp [sha256DigestSize] : sha256DigestSize ≤ secret.toList.length)
      hne hle hcontext hn
  rw [tls13ExpandLabelArray]
  split
  · rename_i error herror
    rw [hexpanded] at herror
    cases herror
  · exact ⟨_, rfl⟩

/-- A digest is short enough for a context. -/
theorem length_digest_le (digest : ByteArrayN 32) : digest.toList.length ≤ tls13MaxContextSize := by
  rw [Vector.length_toList]
  decide

theorem deriveTls13TrafficKeyIv_isOk (trafficSecret : ByteArrayN 32) :
    ∃ keyIv, deriveTls13TrafficKeyIv trafficSecret = .ok keyIv := by
  obtain ⟨key, hkey⟩ := @tls13ExpandLabelArray_isOk 32 "key" [] trafficSecret (by decide) (by decide) (by decide)
  obtain ⟨iv, hiv⟩ := @tls13ExpandLabelArray_isOk 12 "iv" [] trafficSecret (by decide) (by decide) (by decide)
  exact ⟨(key, iv), by rw [deriveTls13TrafficKeyIv, hkey, ok_bind, hiv, ok_bind, pure_eq_ok]⟩

theorem deriveTls13HandshakeKeySchedule_isOk (sharedSecret helloTranscriptHash : ByteArrayN 32) :
    ∃ keySchedule, deriveTls13HandshakeKeySchedule sharedSecret helloTranscriptHash = .ok keySchedule := by
  have hexpand (secret : ByteArrayN 32) (label : String) (hlabel : label ∈ tls13Labels) (context : ByteArrayN 32) :
      ∃ output, tls13ExpandLabelArray 32 secret.toList label context.toList = .ok output :=
    tls13ExpandLabelArray_isOk secret (by decide) hlabel (length_digest_le context)
  rw [deriveTls13HandshakeKeySchedule]
  obtain ⟨derivedEarlySecret, hearly⟩ := hexpand
    (hkdfExtractSha256 (List.replicate 32 0) (List.replicate 32 0)) "derived" (by decide) (sha256 [])
  simp only [hearly, ok_bind]
  generalize hkdfExtractSha256 derivedEarlySecret.toList sharedSecret.toList = handshakeSecret
  obtain ⟨clientSecret, hclient⟩ := hexpand handshakeSecret "c hs traffic" (by decide) helloTranscriptHash
  obtain ⟨serverSecret, hserver⟩ := hexpand handshakeSecret "s hs traffic" (by decide) helloTranscriptHash
  obtain ⟨derivedSecret, hderived⟩ := hexpand handshakeSecret "derived" (by decide) (sha256 [])
  obtain ⟨⟨clientKey, clientIv⟩, hclientKey⟩ := deriveTls13TrafficKeyIv_isOk clientSecret
  obtain ⟨⟨serverKey, serverIv⟩, hserverKey⟩ := deriveTls13TrafficKeyIv_isOk serverSecret
  simp only [hclient, hserver, hderived, hclientKey, hserverKey, ok_bind, pure_eq_ok]
  exact ⟨_, rfl⟩

theorem deriveTls13ApplicationKeySchedule_isOk (mainSecret serverFinishedTranscriptHash : ByteArrayN 32) :
    ∃ keySchedule, deriveTls13ApplicationKeySchedule mainSecret serverFinishedTranscriptHash = .ok keySchedule := by
  have hcontext := length_digest_le serverFinishedTranscriptHash
  obtain ⟨clientSecret, hclient⟩ :=
    @tls13ExpandLabelArray_isOk 32 "c ap traffic" _ mainSecret (by decide) (by decide) hcontext
  obtain ⟨serverSecret, hserver⟩ :=
    @tls13ExpandLabelArray_isOk 32 "s ap traffic" _ mainSecret (by decide) (by decide) hcontext
  obtain ⟨⟨clientKey, clientIv⟩, hclientKey⟩ := deriveTls13TrafficKeyIv_isOk clientSecret
  obtain ⟨⟨serverKey, serverIv⟩, hserverKey⟩ := deriveTls13TrafficKeyIv_isOk serverSecret
  rw [deriveTls13ApplicationKeySchedule]
  simp only [hclient, hserver, hclientKey, hserverKey, ok_bind, pure_eq_ok]
  exact ⟨_, rfl⟩

/-- The verify data is the HMAC of the transcript hash under the finished key. -/
theorem tls13FinishedVerifyData_eq (handshakeTrafficSecret : ByteArrayN 32) :
    ∃ finishedKey, tls13ExpandLabelArray 32 handshakeTrafficSecret.toList "finished" [] = .ok finishedKey ∧
      ∀ transcriptHash, tls13FinishedVerifyData handshakeTrafficSecret transcriptHash =
        .ok (hmacSha256 finishedKey.toList transcriptHash.toList) := by
  obtain ⟨finishedKey, hkey⟩ :=
    @tls13ExpandLabelArray_isOk 32 "finished" [] handshakeTrafficSecret (by decide) (by decide) (by decide)
  refine ⟨finishedKey, hkey, fun transcriptHash => ?_⟩
  rw [tls13FinishedVerifyData, hkey, ok_bind, pure_eq_ok]

/-- The keys of both directions come from the traffic secrets. -/
theorem deriveTls13HandshakeKeySchedule_keys {sharedSecret helloTranscriptHash : ByteArrayN 32}
    {keySchedule : Tls13HandshakeKeySchedule}
    (h : deriveTls13HandshakeKeySchedule sharedSecret helloTranscriptHash = .ok keySchedule) :
    deriveTls13TrafficKeyIv keySchedule.clientHandshakeTrafficSecret =
        .ok (keySchedule.clientKey, keySchedule.clientIv) ∧
      deriveTls13TrafficKeyIv keySchedule.serverHandshakeTrafficSecret =
        .ok (keySchedule.serverKey, keySchedule.serverIv) := by
  obtain ⟨derivedEarlySecret, -, h⟩ := bind_eq_ok.mp h
  obtain ⟨clientSecret, -, h⟩ := bind_eq_ok.mp h
  obtain ⟨serverSecret, -, h⟩ := bind_eq_ok.mp h
  obtain ⟨derivedSecret, -, h⟩ := bind_eq_ok.mp h
  obtain ⟨⟨clientKey, clientIv⟩, hclient, h⟩ := bind_eq_ok.mp h
  obtain ⟨⟨serverKey, serverIv⟩, hserver, h⟩ := bind_eq_ok.mp h
  cases h
  exact ⟨hclient, hserver⟩

end BareProxy.Tls
