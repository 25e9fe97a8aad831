import BareProxy.Base.Rfc6979
import BareProxy.P256.Ecdsa

/-!
# Signatures are those of RFC 6979

The two loops behind a signature, one that skips candidates out of range and one that skips nonces without a
signature, walk along one sequence of candidates. A signature is made from the first candidate that passes both.
-/

namespace BareProxy.P256

open Crypto

namespace Rfc6979P256Sha256

/-- The generator with the next candidate as its value. -/
def generate (generator : Rfc6979P256Sha256) : Rfc6979P256Sha256 :=
  { generator with v := hmacSha256 generator.k.toList generator.v.toList }

/-- The generator after a candidate that is turned down. -/
def skip (generator : Rfc6979P256Sha256) : Rfc6979P256Sha256 := generator.generate.rejectCandidate

/-- The generator before the candidate with this number. -/
def skipTimes (generator : Rfc6979P256Sha256) : Nat → Rfc6979P256Sha256
  | 0 => generator
  | count + 1 => (generator.skipTimes count).skip

theorem skipTimes_skipTimes (generator : Rfc6979P256Sha256) (count i : Nat) :
    (generator.skipTimes count).skipTimes i = generator.skipTimes (i + count) := by
  induction i with
  | zero => rw [Nat.zero_add, skipTimes]
  | succ i ih => rw [skipTimes, ih, Nat.succ_add, skipTimes]

/-- A candidate as a nonce. -/
def nonceOf (candidate : ByteArrayN 32) : Option { nonce : Scalar // nonce ≠ .zero } :=
  if hlt : (Uint256.fromBeBytes candidate).toNat < p256GroupOrder.toNat then
    if hne : (⟨Uint256.fromBeBytes candidate, hlt⟩ : Scalar) ≠ .zero then some ⟨⟨_, hlt⟩, hne⟩ else none
  else none

theorem nonceOf_of_inRange {candidate : ByteArrayN 32} (hne : Uint256.fromBeBytes candidate ≠ .zero)
    (hlt : (Uint256.fromBeBytes candidate).toNat < p256GroupOrder.toNat) :
    nonceOf candidate = some ⟨⟨_, hlt⟩, P256Signature.scalar_ne_zero hne⟩ := by
  rw [nonceOf, dif_pos hlt, dif_pos (P256Signature.scalar_ne_zero hne)]

theorem nonceOf_of_not_inRange {candidate : ByteArrayN 32}
    (h : ¬(Uint256.fromBeBytes candidate ≠ .zero ∧ (Uint256.fromBeBytes candidate).cmp p256GroupOrder = .lt)) :
    nonceOf candidate = none := by
  by_cases hlt : (Uint256.fromBeBytes candidate).toNat < p256GroupOrder.toNat
  · rw [nonceOf, dif_pos hlt]
    apply dif_neg
    intro hne
    exact h ⟨fun hzero => hne ((Residue.mk.injEq ..).mpr hzero), Uint256.cmp_eq_lt.2 hlt⟩
  · rw [nonceOf, dif_neg hlt]

theorem nextScalar_succ (turns : Nat) (generator : Rfc6979P256Sha256) :
    nextScalar (turns + 1) generator =
      match nonceOf generator.generate.v with
      | some nonce => some (nonce, generator.generate)
      | none => nextScalar turns generator.skip := by
  rw [nextScalar]
  by_cases h : Uint256.fromBeBytes generator.generate.v ≠ .zero ∧
      (Uint256.fromBeBytes generator.generate.v).cmp p256GroupOrder = .lt
  · rw [nonceOf_of_inRange h.1 (Uint256.cmp_eq_lt.1 h.2)]
    exact dif_pos h
  · rw [nonceOf_of_not_inRange h]
    exact dif_neg h

/-- The inner loop stops at the first candidate in range. -/
theorem nextScalar_eq_some_iff {turns : Nat} {generator generator' : Rfc6979P256Sha256}
    {nonce : { nonce : Scalar // nonce ≠ .zero }} :
    nextScalar turns generator = some (nonce, generator') ↔
      ∃ i < turns, Rfc6979.IsFirst (fun j => nonceOf (generator.skipTimes j).generate.v) i nonce ∧
        generator' = (generator.skipTimes i).generate := by
  induction turns generalizing generator with
  | zero =>
      refine iff_of_false (fun h => by cases h) ?_
      rintro ⟨i, hi, -⟩
      exact Nat.not_lt_zero i hi
  | succ turns ih =>
      rw [nextScalar_succ]
      cases hfirst : nonceOf generator.generate.v with
      | some found =>
          have hzero : Rfc6979.IsFirst (fun j => nonceOf (generator.skipTimes j).generate.v) 0 found :=
            Rfc6979.isFirst_zero hfirst
          constructor
          · intro h
            cases h
            exact ⟨0, Nat.succ_pos _, hzero, rfl⟩
          · rintro ⟨i, -, hi, rfl⟩
            obtain ⟨rfl, rfl⟩ := hi.unique hzero
            rfl
      | none =>
          have hbefore : ∀ j < 1, nonceOf (generator.skipTimes j).generate.v = none := by
            intro j hj
            obtain rfl := Nat.lt_one_iff.1 hj
            exact hfirst
          have hshift : ∀ i, (generator.skip.skipTimes i).generate = (generator.skipTimes (i + 1)).generate :=
            fun i => congrArg generate (generator.skipTimes_skipTimes 1 i)
          simp only [ih, hshift, Rfc6979.isFirst_iff_of_before hbefore]
          constructor
          · rintro ⟨i, hi, hnonce, rfl⟩
            exact ⟨i + 1, Nat.succ_lt_succ hi, ⟨i, rfl, hnonce⟩, rfl⟩
          · rintro ⟨_, hi, ⟨i, rfl, hnonce⟩, rfl⟩
            exact ⟨i, Nat.lt_of_succ_lt_succ hi, hnonce, rfl⟩

end Rfc6979P256Sha256

open Rfc6979P256Sha256

/-- What a candidate gives: a signature when it is in range and its nonce has one. -/
def signCandidate (privateScalar hashScalar : Scalar) (candidate : ByteArrayN 32) : Option P256Signature :=
  (nonceOf candidate).bind fun ⟨nonce, hnonce⟩ => signWithNonce privateScalar hashScalar nonce hnonce

section Loop

variable {privateScalar hashScalar : Scalar}

/-- Candidates out of range give no signature. -/
theorem signCandidate_before {generator : Rfc6979P256Sha256} {i : Nat} {nonce : { nonce : Scalar // nonce ≠ .zero }}
    (h : Rfc6979.IsFirst (fun j => nonceOf (generator.skipTimes j).generate.v) i nonce) (j : Nat) (hj : j < i) :
    signCandidate privateScalar hashScalar (generator.skipTimes j).generate.v = none := by
  rw [signCandidate, show nonceOf (generator.skipTimes j).generate.v = none from h.2 j hj, Option.bind_none]

theorem signCandidate_first {generator : Rfc6979P256Sha256} {i : Nat} {nonce : { nonce : Scalar // nonce ≠ .zero }}
    (h : Rfc6979.IsFirst (fun j => nonceOf (generator.skipTimes j).generate.v) i nonce) :
    signCandidate privateScalar hashScalar (generator.skipTimes i).generate.v =
      signWithNonce privateScalar hashScalar nonce.1 nonce.2 := by
  rw [signCandidate, show nonceOf (generator.skipTimes i).generate.v = some nonce from h.1, Option.bind_some]

/-- A nonce that is in range and gives no signature is turned down like one out of range. -/
theorem isFirst_signCandidate_iff {generator : Rfc6979P256Sha256} {i k : Nat} {nonce : { nonce : Scalar // nonce ≠ .zero }}
    {signature : P256Signature} (h : Rfc6979.IsFirst (fun j => nonceOf (generator.skipTimes j).generate.v) k nonce)
    (hnone : signWithNonce privateScalar hashScalar nonce.1 nonce.2 = none) :
    Rfc6979.IsFirst (fun j => signCandidate privateScalar hashScalar (generator.skipTimes j).generate.v) i signature ↔
      ∃ l, i = l + (k + 1) ∧ Rfc6979.IsFirst (fun j => signCandidate privateScalar hashScalar
        (((generator.skipTimes k).generate.rejectCandidate).skipTimes j).generate.v) l signature := by
  have hbefore : ∀ j < k + 1, signCandidate privateScalar hashScalar (generator.skipTimes j).generate.v = none := by
    intro j hj
    obtain hlt | rfl := Nat.lt_succ_iff_lt_or_eq.1 hj
    · exact signCandidate_before h j hlt
    · rw [signCandidate_first h, hnone]
  rw [Rfc6979.isFirst_iff_of_before hbefore]
  have hskip : (generator.skipTimes k).generate.rejectCandidate = generator.skipTimes (k + 1) := rfl
  simp only [hskip, skipTimes_skipTimes]

/-- The outer loop ends with the signature of the first candidate that has one, -/
theorem signLoop_isFirst {turns : Nat} {generator : Rfc6979P256Sha256} {signature : P256Signature}
    (h : signLoop privateScalar hashScalar turns generator = some signature) :
    ∃ i, Rfc6979.IsFirst (fun j => signCandidate privateScalar hashScalar (generator.skipTimes j).generate.v) i
      signature := by
  induction turns generalizing generator with
  | zero => cases h
  | succ turns ih =>
      rw [signLoop] at h
      split at h
      · cases h
      · rename_i nonce generator' hnext
        obtain ⟨k, -, hfirst, rfl⟩ := nextScalar_eq_some_iff.1 hnext
        split at h
        · rename_i found hfound
          cases h
          exact ⟨k, (signCandidate_first hfirst).trans hfound, signCandidate_before hfirst⟩
        · rename_i hnone
          obtain ⟨l, hl⟩ := ih h
          exact ⟨_, (isFirst_signCandidate_iff hfirst hnone).2 ⟨l, rfl, hl⟩⟩

/-- and it does end, with more turns than there are candidates before. -/
theorem signLoop_of_isFirst {turns i : Nat} {generator : Rfc6979P256Sha256} {signature : P256Signature}
    (h : Rfc6979.IsFirst (fun j => signCandidate privateScalar hashScalar (generator.skipTimes j).generate.v) i
      signature) (hi : i < turns) :
    signLoop privateScalar hashScalar turns generator = some signature := by
  induction turns generalizing generator i with
  | zero => exact absurd hi (Nat.not_lt_zero i)
  | succ turns ih =>
      obtain ⟨inRange, hinRange, -⟩ := Option.bind_eq_some_iff.1 h.1
      obtain ⟨k, hk, nonce, hfirst⟩ :=
        @Rfc6979.exists_isFirst _ (fun j => nonceOf (generator.skipTimes j).generate.v) i inRange hinRange
      have hnext : generator.nextScalar (turns + 1) = some (nonce, (generator.skipTimes k).generate) :=
        nextScalar_eq_some_iff.2 ⟨k, Nat.lt_of_le_of_lt hk hi, hfirst, rfl⟩
      rw [signLoop, hnext]
      dsimp only
      cases hsign : signWithNonce privateScalar hashScalar nonce.1 nonce.2 with
      | some found =>
          have hfound : Rfc6979.IsFirst (fun j => signCandidate privateScalar hashScalar (generator.skipTimes j).generate.v)
              k found := ⟨(signCandidate_first hfirst).trans hsign, signCandidate_before hfirst⟩
          rw [(hfound.unique h).2]
      | none =>
          obtain ⟨l, rfl, hl⟩ := (isFirst_signCandidate_iff hfirst hsign).1 h
          exact ih hl (by omega)

end Loop

/-! ### As in the standard -/

/-- HMAC-SHA256 on octets. -/
def hmacOctets (key text : Bytes) : Bytes := (hmacSha256 key text).toList

/-- `int2octets` of the private key and `bits2octets` of the hash. -/
def nonceSeed (privateScalar : Scalar) (messageHash : ByteArrayN 32) : Bytes :=
  beBytes 32 privateScalar.value.toNat ++ beBytes 32 (ofBe messageHash.toList % p256GroupOrder.toNat)

/-- The candidates for the nonce of a message. -/
def nonceCandidate (privateScalar : Scalar) (message : Bytes) : Nat → Bytes :=
  Rfc6979.candidate hmacOctets 32 (nonceSeed privateScalar (sha256 message))

/-- The candidate with this number is the first one in `[1, n - 1]` from which a signature can be made, and it makes
this one. -/
def IsFirstSignature (privateScalar : Scalar) (message : Bytes) (i : Nat) (signature : P256Signature) : Prop :=
  (∃ nonce hnonce, nonce.value.toNat = ofBe (nonceCandidate privateScalar message i) ∧
    signWithNonce privateScalar (ecdsaHashScalar (sha256 message)) nonce hnonce = some signature) ∧
  ∀ j < i, ∀ nonce hnonce, nonce.value.toNat = ofBe (nonceCandidate privateScalar message j) →
    signWithNonce privateScalar (ecdsaHashScalar (sha256 message)) nonce hnonce = none

theorem toBeBytes_eq (value : Uint256) : value.toBeBytes.toList = beBytes 32 value.toNat := by
  have h := beBytes_ofBe value.toBeBytes.toList
  rwa [Vector.length_toList, Uint256.ofBe_toBeBytes, eq_comm] at h

/-- Key and value as octets. -/
def Rfc6979P256Sha256.octets (generator : Rfc6979P256Sha256) : Rfc6979.State :=
  ⟨generator.k.toList, generator.v.toList⟩

theorem octets_new (privateScalar : Scalar) (messageHash : ByteArrayN 32) :
    (Rfc6979P256Sha256.new privateScalar messageHash).octets =
      Rfc6979.start hmacOctets 32 (nonceSeed privateScalar messageHash) := by
  have hhash : (ecdsaHashScalar messageHash).value.toNat = ofBe messageHash.toList % p256GroupOrder.toNat := by
    rw [← Uint256.toNat_fromBeBytes]
    exact toNat_reduceUint _ (Residue.modulus_pos p256GroupOrder)
  rw [nonceSeed, ← hhash, ← toBeBytes_eq, ← toBeBytes_eq]
  rfl

theorem octets_skip (generator : Rfc6979P256Sha256) :
    generator.skip.octets = (generator.octets.generate hmacOctets).update hmacOctets 0x00 [] := rfl

theorem octets_skipTimes (privateScalar : Scalar) (messageHash : ByteArrayN 32) (count : Nat) :
    ((Rfc6979P256Sha256.new privateScalar messageHash).skipTimes count).octets =
      Rfc6979.before hmacOctets 32 (nonceSeed privateScalar messageHash) count := by
  induction count with
  | zero => exact octets_new privateScalar messageHash
  | succ count ih => rw [skipTimes, octets_skip, ih, Rfc6979.before]

theorem toList_generate (privateScalar : Scalar) (message : Bytes) (i : Nat) :
    ((Rfc6979P256Sha256.new privateScalar (sha256 message)).skipTimes i).generate.v.toList =
      nonceCandidate privateScalar message i := by
  rw [nonceCandidate, Rfc6979.candidate, ← octets_skipTimes]
  rfl

/-- A candidate in range is the nonce with its number. -/
theorem nonceOf_eq_some_iff {candidate : ByteArrayN 32} {nonce : { nonce : Scalar // nonce ≠ .zero }} :
    nonceOf candidate = some nonce ↔ nonce.1.value.toNat = ofBe candidate.toList := by
  rw [← Uint256.toNat_fromBeBytes]
  constructor
  · intro h
    rw [nonceOf] at h
    split at h
    · split at h
      · cases h
        rfl
      · cases h
    · cases h
  · intro h
    obtain ⟨⟨value, hlt⟩, hne⟩ := nonce
    obtain rfl := Uint256.toNat_injective h
    rw [nonceOf, dif_pos hlt, dif_pos hne]

section Standard

variable {privateScalar : Scalar} {message : Bytes} {i : Nat} {signature : P256Signature}

theorem signCandidate_eq_some_iff {hashScalar : Scalar} {candidate : ByteArrayN 32} :
    signCandidate privateScalar hashScalar candidate = some signature ↔
      ∃ nonce hnonce, nonce.value.toNat = ofBe candidate.toList ∧
        signWithNonce privateScalar hashScalar nonce hnonce = some signature := by
  rw [signCandidate, Option.bind_eq_some_iff]
  simp only [nonceOf_eq_some_iff, Subtype.exists]

theorem signCandidate_eq_none_iff {hashScalar : Scalar} {candidate : ByteArrayN 32} :
    signCandidate privateScalar hashScalar candidate = none ↔
      ∀ nonce hnonce, nonce.value.toNat = ofBe candidate.toList →
        signWithNonce privateScalar hashScalar nonce hnonce = none := by
  rw [signCandidate, Option.bind_eq_none_iff]
  simp only [nonceOf_eq_some_iff, Subtype.forall]

theorem isFirstSignature_iff :
    IsFirstSignature privateScalar message i signature ↔
      Rfc6979.IsFirst (fun j => signCandidate privateScalar (ecdsaHashScalar (sha256 message))
        ((Rfc6979P256Sha256.new privateScalar (sha256 message)).skipTimes j).generate.v) i signature := by
  simp only [IsFirstSignature, Rfc6979.IsFirst, signCandidate_eq_some_iff, signCandidate_eq_none_iff, toList_generate]

theorem p256EcdsaSignSha256_eq_signLoop (hprivate : privateScalar ≠ .zero) (turns : Nat) :
    p256EcdsaSignSha256 turns privateScalar message =
      (signLoop privateScalar (ecdsaHashScalar (sha256 message)) turns
        (Rfc6979P256Sha256.new privateScalar (sha256 message))).map .ok := if_neg hprivate

theorem p256EcdsaSignSha256_isFirst (hprivate : privateScalar ≠ .zero) {turns : Nat}
    (h : p256EcdsaSignSha256 turns privateScalar message = some (.ok signature)) :
    ∃ i, IsFirstSignature privateScalar message i signature := by
  rw [p256EcdsaSignSha256_eq_signLoop hprivate] at h
  obtain ⟨found, hfound, hok⟩ := Option.map_eq_some_iff.1 h
  obtain rfl := Except.ok.inj hok
  obtain ⟨i, hi⟩ := signLoop_isFirst hfound
  exact ⟨i, isFirstSignature_iff.2 hi⟩

/-- The signer comes to the first signature with more turns than there are candidates before it. -/
theorem p256EcdsaSignSha256_of_isFirst (hprivate : privateScalar ≠ .zero)
    (h : IsFirstSignature privateScalar message i signature) {turns : Nat} (hturns : i < turns) :
    p256EcdsaSignSha256 turns privateScalar message = some (.ok signature) := by
  rw [p256EcdsaSignSha256_eq_signLoop hprivate, signLoop_of_isFirst (isFirstSignature_iff.1 h) hturns]
  rfl

/-- A signature is the one that RFC 6979 gives: the one from the first candidate in range whose nonce has a signature.
As soon as there are more turns than candidates before it, it comes out. -/
theorem p256EcdsaSignSha256_rfc6979 (hprivate : privateScalar ≠ .zero) :
    (∀ turns, p256EcdsaSignSha256 turns privateScalar message = some (.ok signature) →
      ∃ i, IsFirstSignature privateScalar message i signature) ∧
    ∀ i, IsFirstSignature privateScalar message i signature →
      ∀ turns > i, p256EcdsaSignSha256 turns privateScalar message = some (.ok signature) :=
  ⟨fun _ => p256EcdsaSignSha256_isFirst hprivate, fun _ hfirst _ => p256EcdsaSignSha256_of_isFirst hprivate hfirst⟩

end Standard

/-- With the private scalar one and the empty message. -/
theorem p256EcdsaSignSha256_rfc6979_one :
    (∀ turns signature, p256EcdsaSignSha256 turns .one [] = some (.ok signature) →
      ∃ i, IsFirstSignature .one [] i signature) ∧
    ∀ signature i, IsFirstSignature .one [] i signature →
      ∀ turns > i, p256EcdsaSignSha256 turns .one [] = some (.ok signature) :=
  ⟨fun turns _ => (p256EcdsaSignSha256_rfc6979 (by decide)).1 turns,
    fun _ => (p256EcdsaSignSha256_rfc6979 (by decide)).2⟩

end BareProxy.P256
