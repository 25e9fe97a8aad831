import BareProxy.Tls.RecordProtection

/-!
# Runs of a record protection

Any calls of `encrypt_record` and `decrypt_record`, in any order, on one protection. The sequence number of
a direction counts the calls of that direction that succeeded, so that no two encryptions share a nonce, and
a call that fails changes nothing.
-/

namespace BareProxy.Tls

open Crypto

inductive RecordCall
  | encrypt (record : TlsPlaintextRecord) (paddingLength : Nat)
  | decrypt (record : TlsCiphertextRecord)

inductive RecordResult
  | encrypted (result : Except TlsRecordError TlsCiphertextRecord)
  | decrypted (result : Except TlsRecordError TlsPlaintextRecord)

namespace RecordResult

def isEncryption : RecordResult → Bool
  | .encrypted (.ok _) => true
  | _ => false

def isDecryption : RecordResult → Bool
  | .decrypted (.ok _) => true
  | _ => false

end RecordResult

namespace RecordCall

def run (protection : Tls13RecordProtection) : RecordCall → RecordResult × Tls13RecordProtection
  | .encrypt record paddingLength =>
    let (result, protection) := protection.encryptRecord record paddingLength
    (.encrypted result, protection)
  | .decrypt record =>
    let (result, protection) := protection.decryptRecord record
    (.decrypted result, protection)

/-- The nonce of an encryption that succeeds, as `encryptRecord_ok` has it. -/
def encryptionNonce (protection : Tls13RecordProtection) (call : RecordCall) : Option (ByteArrayN 12) :=
  if (call.run protection).1.isEncryption then
    protection.writeSequenceNumber.map (tls13RecordNonce protection.writeIv)
  else none

end RecordCall

/-- The results of calls, and the state after them. -/
def runCalls (protection : Tls13RecordProtection) : List RecordCall → List RecordResult × Tls13RecordProtection
  | [] => ([], protection)
  | call :: calls =>
    let (result, protection) := call.run protection
    let (results, protection) := runCalls protection calls
    (result :: results, protection)

/-- The nonces of the encryptions that succeed, in order. -/
def encryptionNonces (protection : Tls13RecordProtection) : List RecordCall → List (ByteArrayN 12)
  | [] => []
  | call :: calls => (call.encryptionNonce protection).toList ++ encryptionNonces (call.run protection).2 calls

def encryptionCount (results : List RecordResult) : Nat := results.countP RecordResult.isEncryption

def decryptionCount (results : List RecordResult) : Nat := results.countP RecordResult.isDecryption

/-- The state of a protection after this many encryptions and decryptions. -/
def protectionAt (writeKey : ByteArrayN 32) (writeIv : ByteArrayN 12) (readKey : ByteArrayN 32)
    (readIv : ByteArrayN 12) (encryptions decryptions : Nat) : Tls13RecordProtection :=
  ⟨writeKey, writeIv, readKey, readIv, sequenceAt encryptions, sequenceAt decryptions⟩

/-- An encryption only succeeds while there is a sequence number. -/
theorem isEncryption_run {protection : Tls13RecordProtection} {call : RecordCall} {result : RecordResult}
    (h : (call.run protection).1 = result) (hsuccess : result.isEncryption = true) :
    ∃ sequenceNumber, protection.writeSequenceNumber = some sequenceNumber := by
  subst h
  cases call with
  | encrypt record paddingLength =>
    rcases hcall : protection.encryptRecord record paddingLength with ⟨result, next⟩
    rw [RecordCall.run, hcall] at hsuccess
    cases result with
    | error e => cases hsuccess
    | ok encrypted =>
      obtain ⟨sequenceNumber, -, -, -, hsequence, -⟩ := Tls13RecordProtection.encryptRecord_ok hcall
      exact ⟨sequenceNumber, hsequence⟩
  | decrypt record => cases hsuccess

section Run

variable {writeKey readKey : ByteArrayN 32} {writeIv readIv : ByteArrayN 12} {encryptions decryptions : Nat}

/-- One call counts itself when it succeeds, and changes nothing else. -/
theorem run_protectionAt (call : RecordCall) :
    (call.run (protectionAt writeKey writeIv readKey readIv encryptions decryptions)).2 =
      protectionAt writeKey writeIv readKey readIv
        (encryptions + encryptionCount
          [(call.run (protectionAt writeKey writeIv readKey readIv encryptions decryptions)).1])
        (decryptions + decryptionCount
          [(call.run (protectionAt writeKey writeIv readKey readIv encryptions decryptions)).1]) := by
  generalize hstart : protectionAt writeKey writeIv readKey readIv encryptions decryptions = start
  cases call with
  | encrypt record paddingLength =>
    rcases hcall : start.encryptRecord record paddingLength with ⟨result, next⟩
    rw [RecordCall.run, hcall]
    cases result with
    | error e =>
      rw [Tls13RecordProtection.encryptRecord_error hcall]
      exact hstart.symm
    | ok encrypted =>
      obtain ⟨sequenceNumber, -, -, -, hsequence, -, -, -, rfl⟩ := Tls13RecordProtection.encryptRecord_ok hcall
      subst hstart
      rw [(sequenceAt_eq_some hsequence).2.2]
      rfl
  | decrypt record =>
    rcases hcall : start.decryptRecord record with ⟨result, next⟩
    rw [RecordCall.run, hcall]
    cases result with
    | error e =>
      rw [Tls13RecordProtection.decryptRecord_error hcall]
      exact hstart.symm
    | ok decrypted =>
      obtain ⟨sequenceNumber, -, -, -, hsequence, -, -, -, rfl⟩ := Tls13RecordProtection.decryptRecord_ok hcall
      subst hstart
      rw [(sequenceAt_eq_some hsequence).2.2]
      rfl

theorem runCalls_protectionAt (calls : List RecordCall) :
    (runCalls (protectionAt writeKey writeIv readKey readIv encryptions decryptions) calls).2 =
      protectionAt writeKey writeIv readKey readIv
        (encryptions + encryptionCount
          (runCalls (protectionAt writeKey writeIv readKey readIv encryptions decryptions) calls).1)
        (decryptions + decryptionCount
          (runCalls (protectionAt writeKey writeIv readKey readIv encryptions decryptions) calls).1) := by
  induction calls generalizing encryptions decryptions with
  | nil => rfl
  | cons call calls ih =>
    rw [runCalls]
    dsimp only
    rw [run_protectionAt call, ih]
    simp only [encryptionCount, decryptionCount, List.countP_cons, List.countP_nil, Nat.zero_add, Nat.add_assoc,
      Nat.add_comm]

/-- The nonces run through the sequence numbers without a gap. -/
theorem encryptionNonces_protectionAt (calls : List RecordCall) :
    encryptionNonces (protectionAt writeKey writeIv readKey readIv encryptions decryptions) calls =
      (List.range' encryptions (encryptionCount
        (runCalls (protectionAt writeKey writeIv readKey readIv encryptions decryptions) calls).1)).map
          fun count => tls13RecordNonce writeIv (UInt64.ofNat count) := by
  induction calls generalizing encryptions decryptions with
  | nil => rfl
  | cons call calls ih =>
    rw [encryptionNonces, runCalls]
    dsimp only
    rw [run_protectionAt call, ih, RecordCall.encryptionNonce]
    generalize hresult : (call.run (protectionAt writeKey writeIv readKey readIv encryptions decryptions)).1 = result
    by_cases hsuccess : result.isEncryption = true
    · obtain ⟨sequenceNumber, hsequence⟩ := isEncryption_run hresult hsuccess
      obtain ⟨-, rfl, -⟩ := sequenceAt_eq_some hsequence
      rw [if_pos hsuccess, hsequence]
      simp [encryptionCount, hsuccess, protectionAt, List.range'_succ]
    · simp [encryptionCount, hsuccess]

theorem encryptionCount_le (h : encryptions ≤ 2 ^ 64) (calls : List RecordCall) :
    encryptions + encryptionCount
      (runCalls (protectionAt writeKey writeIv readKey readIv encryptions decryptions) calls).1 ≤ 2 ^ 64 := by
  induction calls generalizing encryptions decryptions with
  | nil => exact h
  | cons call calls ih =>
    rw [runCalls]
    dsimp only
    rw [run_protectionAt call]
    generalize hresult : (call.run (protectionAt writeKey writeIv readKey readIv encryptions decryptions)).1 = result
    have hstep : encryptions + encryptionCount [result] ≤ 2 ^ 64 := by
      by_cases hsuccess : result.isEncryption = true
      · obtain ⟨sequenceNumber, hsequence⟩ := isEncryption_run hresult hsuccess
        obtain ⟨hlt, -⟩ := sequenceAt_eq_some hsequence
        simpa [encryptionCount, hsuccess] using hlt
      · simpa [encryptionCount, hsuccess] using h
    have hrest := @ih _ (decryptions + decryptionCount [result]) hstep
    rw [encryptionCount, List.countP_cons]
    simp only [encryptionCount, List.countP_cons, List.countP_nil] at hrest ⊢
    omega

/-- No two encryptions share a nonce. -/
theorem nodup_nonces {count : Nat} (h : count ≤ 2 ^ 64) :
    ((List.range count).map fun count => tls13RecordNonce writeIv (UInt64.ofNat count)).Nodup := by
  refine (List.nodup_map_iff_inj_on List.nodup_range).2 ?_
  intro left hleft right hright hnonce
  rw [List.mem_range] at hleft hright
  have hnumber := congrArg UInt64.toNat (tls13RecordNonce_injective hnonce)
  rw [UInt64.toNat_ofNat', UInt64.toNat_ofNat', Nat.mod_eq_of_lt (by omega), Nat.mod_eq_of_lt (by omega)] at hnumber
  exact hnumber

end Run

/-- After any calls on a new protection, `encryptions` and `decryptions` of which succeeded: the keys and the IVs
are as at the start and the sequence numbers are these counts; the nonces of the encryptions were those of the
numbers below, no two alike; the next success runs the AEAD under the count of its direction; a failure changes
nothing; and without a number left encryption fails for that, decryption for that or for the check of the record
that comes first. -/
theorem runCalls_new (writeKey : ByteArrayN 32) (writeIv : ByteArrayN 12) (readKey : ByteArrayN 32)
    (readIv : ByteArrayN 12) (calls : List RecordCall) :
    let start := Tls13RecordProtection.new writeKey writeIv readKey readIv
    let encryptions := encryptionCount (runCalls start calls).1
    let decryptions := decryptionCount (runCalls start calls).1
    let state := (runCalls start calls).2
    state = ⟨writeKey, writeIv, readKey, readIv, sequenceAt encryptions, sequenceAt decryptions⟩ ∧
    encryptionNonces start calls =
      (List.range encryptions).map (fun count => tls13RecordNonce writeIv (UInt64.ofNat count)) ∧
    (encryptionNonces start calls).Nodup ∧
    (∀ record paddingLength encrypted next, state.encryptRecord record paddingLength = (.ok encrypted, next) →
      encryptions < 2 ^ 64 ∧ ∃ innerPlaintext ciphertext tag,
        encodeTlsInnerPlaintext record paddingLength = .ok innerPlaintext ∧
        chacha20Poly1305Encrypt writeKey (tls13RecordNonce writeIv (UInt64.ofNat encryptions))
          (ciphertextHeader tlsLegacyRecordVersion (innerPlaintext.length + chacha20Poly1305TagSize)) innerPlaintext =
            .ok (ciphertext, tag) ∧
        encrypted = ⟨tlsLegacyRecordVersion, ciphertext ++ tag.toList⟩) ∧
    (∀ record plaintextRecord next, state.decryptRecord record = (.ok plaintextRecord, next) →
      decryptions < 2 ^ 64 ∧ ∃ ciphertext tag innerPlaintext,
        record.encryptedRecord = ciphertext ++ Vector.toList tag ∧
        chacha20Poly1305Decrypt readKey (tls13RecordNonce readIv (UInt64.ofNat decryptions)) record.header ciphertext tag =
          .ok innerPlaintext ∧
        decodeTlsInnerPlaintext innerPlaintext = .ok plaintextRecord) ∧
    (∀ record paddingLength e next, state.encryptRecord record paddingLength = (.error e, next) → next = state) ∧
    (∀ record e next, state.decryptRecord record = (.error e, next) → next = state) ∧
    (2 ^ 64 ≤ encryptions → ∀ record paddingLength,
      (state.encryptRecord record paddingLength).1 = .error (.sequenceNumberExhausted .write)) ∧
    (2 ^ 64 ≤ decryptions → ∀ record, (state.decryptRecord record).1 =
      match validateChacha20Poly1305Ciphertext record with
      | .error e => .error e
      | .ok () => .error (.sequenceNumberExhausted .read)) := by
  intro start encryptions decryptions state
  have hstate : state = ⟨writeKey, writeIv, readKey, readIv, sequenceAt encryptions, sequenceAt decryptions⟩ := by
    have hrun := @runCalls_protectionAt writeKey readKey writeIv readIv 0 0 calls
    rw [Nat.zero_add, Nat.zero_add] at hrun
    exact hrun
  have hnonces : encryptionNonces start calls =
      (List.range encryptions).map fun count => tls13RecordNonce writeIv (UInt64.ofNat count) := by
    rw [List.range_eq_range']
    exact @encryptionNonces_protectionAt writeKey readKey writeIv readIv 0 0 calls
  have hcount : encryptions ≤ 2 ^ 64 := by
    have hle := @encryptionCount_le writeKey readKey writeIv readIv 0 0 (Nat.zero_le _) calls
    rwa [Nat.zero_add] at hle
  refine ⟨hstate, hnonces, ?_, ?_, ?_, ?_, ?_, ?_, ?_⟩
  · rw [hnonces]
    exact nodup_nonces hcount
  · intro record paddingLength encrypted next hcall
    obtain ⟨sequenceNumber, innerPlaintext, ciphertext, tag, hsequence, hinner, hencrypt, rfl, -⟩ :=
      Tls13RecordProtection.encryptRecord_ok hcall
    rw [hstate] at hsequence hencrypt
    obtain ⟨hlt, rfl, -⟩ := sequenceAt_eq_some hsequence
    exact ⟨hlt, innerPlaintext, ciphertext, tag, hinner, hencrypt, rfl⟩
  · intro record plaintextRecord next hcall
    obtain ⟨sequenceNumber, ciphertext, tag, innerPlaintext, hsequence, hrecord, hdecrypt, hinner, -⟩ :=
      Tls13RecordProtection.decryptRecord_ok hcall
    rw [hstate] at hsequence hdecrypt
    obtain ⟨hlt, rfl, -⟩ := sequenceAt_eq_some hsequence
    exact ⟨hlt, ciphertext, tag, innerPlaintext, hrecord, hdecrypt, hinner⟩
  · intro record paddingLength e next hcall
    exact Tls13RecordProtection.encryptRecord_error hcall
  · intro record e next hcall
    exact Tls13RecordProtection.decryptRecord_error hcall
  · intro hexhausted record paddingLength
    rw [hstate, Tls13RecordProtection.encryptRecord]
    simp only [sequenceAt, if_neg (Nat.not_lt.2 hexhausted)]
  · intro hexhausted record
    rw [hstate, Tls13RecordProtection.decryptRecord]
    simp only [sequenceAt, if_neg (Nat.not_lt.2 hexhausted)]
    cases validateChacha20Poly1305Ciphertext record with
    | error e => rfl
    | ok valid => rfl

/-- There are calls that use the sequence numbers of the read direction up to any point. -/
theorem exists_decryptions (key : ByteArrayN 32) (iv : ByteArrayN 12) (count : Nat) :
    ∀ decryptions, decryptions + count ≤ 2 ^ 64 →
      ∃ calls, decryptionCount (runCalls (protectionAt key iv key iv 0 decryptions) calls).1 = count := by
  induction count with
  | zero =>
    intro decryptions _
    exact ⟨[], rfl⟩
  | succ count ih =>
    intro decryptions hcount
    obtain ⟨calls, hcalls⟩ := ih (decryptions + 1) (by omega)
    -- the peer, that has encrypted as many records, encrypts an empty one
    have hsequence : sequenceAt decryptions = some (UInt64.ofNat decryptions) := if_pos (by omega)
    obtain ⟨encrypted, hencrypt⟩ := @Tls13RecordProtection.encryptRecord_isOk
      (protectionAt key iv key iv decryptions 0) ⟨.applicationData, tlsLegacyRecordVersion, []⟩ 0 _ hsequence rfl
      (by decide) (by decide)
    have hdecrypt := @Tls13RecordProtection.decryptRecord_encryptRecord _ _
      (protectionAt key iv key iv 0 decryptions) _ _ _ rfl rfl rfl hencrypt
    rw [(sequenceAt_eq_some hsequence).2.2] at hdecrypt
    refine ⟨.decrypt encrypted :: calls, ?_⟩
    rw [runCalls, RecordCall.run, hdecrypt]
    show decryptionCount (_ :: (runCalls (protectionAt key iv key iv 0 (decryptions + 1)) calls).1) = count + 1
    rw [decryptionCount, List.countP_cons, ← decryptionCount, hcalls]
    rfl

/-- With the numbers of the read direction used up, a record too short to hold a tag is still refused as such. -/
theorem decryptRecord_tooShort_of_exhausted :
    ∃ calls, 2 ^ 64 ≤ decryptionCount (runCalls (Tls13RecordProtection.new (Vector.replicate 32 0)
        (Vector.replicate 12 0) (Vector.replicate 32 0) (Vector.replicate 12 0)) calls).1 ∧
      ((runCalls (Tls13RecordProtection.new (Vector.replicate 32 0) (Vector.replicate 12 0) (Vector.replicate 32 0)
        (Vector.replicate 12 0)) calls).2.decryptRecord ⟨tlsLegacyRecordVersion, []⟩).1 =
          .error (.ciphertextTooShort 0 chacha20Poly1305TagSize) ∧
      (.error (.ciphertextTooShort 0 chacha20Poly1305TagSize) : Except TlsRecordError TlsPlaintextRecord) ≠
        .error (.sequenceNumberExhausted .read) := by
  obtain ⟨calls, hcalls⟩ := exists_decryptions (Vector.replicate 32 0) (Vector.replicate 12 0) (2 ^ 64) 0 (by simp)
  refine ⟨calls, Nat.le_of_eq hcalls.symm, rfl, ?_⟩
  intro h
  cases h

end BareProxy.Tls
