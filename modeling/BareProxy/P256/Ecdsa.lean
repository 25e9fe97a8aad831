import BareProxy.Crypto.Sha256
import BareProxy.P256.Group

/-!
# ECDSA

Signing with the deterministic nonces of RFC 6979 and verification. The two loops of the source that wait for a
usable nonce take the number of turns that they may make; `none` is a loop that has not ended by then. A
signature carries the proof that its components are not zero.
-/

namespace BareProxy.P256

open Crypto

inductive P256EcdsaError
  | zeroPrivateScalar
  | invalidR
  | invalidS
  deriving DecidableEq, Repr

structure P256Signature where
  r : Scalar
  s : Scalar
  r_ne_zero : r ≠ .zero
  s_ne_zero : s ≠ .zero
  deriving DecidableEq

namespace P256Signature

theorem scalar_ne_zero {value : Uint256} {hlt : value.toNat < p256GroupOrder.toNat} (h : value ≠ .zero) :
    (⟨value, hlt⟩ : Scalar) ≠ .zero := fun heq => h (congrArg Residue.value heq)

def fromComponents (r s : Uint256) : Except P256EcdsaError P256Signature :=
  if hr : r = .zero ∨ r.cmp p256GroupOrder ≠ .lt then
    .error .invalidR
  else if hs : s = .zero ∨ s.cmp p256GroupOrder ≠ .lt then
    .error .invalidS
  else
    .ok {
      r := ⟨r, Uint256.cmp_eq_lt.mp (by simpa using (not_or.mp hr).2)⟩
      s := ⟨s, Uint256.cmp_eq_lt.mp (by simpa using (not_or.mp hs).2)⟩
      r_ne_zero := scalar_ne_zero (not_or.mp hr).1
      s_ne_zero := scalar_ne_zero (not_or.mp hs).1 }

def components (signature : P256Signature) : Uint256 × Uint256 := (signature.r.value, signature.s.value)

end P256Signature

def ecdsaHashScalar (messageHash : ByteArrayN 32) : Scalar := .new (.fromBeBytes messageHash)

/-! ### Nonces -/

structure Rfc6979P256Sha256 where
  k : ByteArrayN 32
  v : ByteArrayN 32

namespace Rfc6979P256Sha256

def new (privateScalar : Scalar) (messageHash : ByteArrayN 32) : Rfc6979P256Sha256 :=
  let k := Vector.replicate 32 (0 : Byte)
  let v := Vector.replicate 32 (1 : Byte)
  let privateOctets := privateScalar.value.toBeBytes.toList
  let hashOctets := (ecdsaHashScalar messageHash).value.toBeBytes.toList
  let k := hmacSha256 k.toList (v.toList ++ 0x00 :: (privateOctets ++ hashOctets))
  let v := hmacSha256 k.toList v.toList
  let k := hmacSha256 k.toList (v.toList ++ 0x01 :: (privateOctets ++ hashOctets))
  let v := hmacSha256 k.toList v.toList
  ⟨k, v⟩

def rejectCandidate (generator : Rfc6979P256Sha256) : Rfc6979P256Sha256 :=
  let k := hmacSha256 generator.k.toList (generator.v.toList ++ [0x00])
  let v := hmacSha256 k.toList generator.v.toList
  ⟨k, v⟩

/-- The next candidate in range, which is never zero. -/
def nextScalar : Nat → Rfc6979P256Sha256 → Option ({ nonce : Scalar // nonce ≠ .zero } × Rfc6979P256Sha256)
  | 0, _ => none
  | turns + 1, generator =>
      let v := hmacSha256 generator.k.toList generator.v.toList
      let generator : Rfc6979P256Sha256 := { generator with v }
      let candidate := Uint256.fromBeBytes v
      if h : candidate ≠ .zero ∧ candidate.cmp p256GroupOrder = .lt then
        some (⟨⟨candidate, Uint256.cmp_eq_lt.mp h.2⟩, P256Signature.scalar_ne_zero h.1⟩, generator)
      else
        nextScalar turns generator.rejectCandidate

end Rfc6979P256Sha256

/-! ### Signing and verification -/

/-- The components for one nonce, unless the nonce has to be rejected. -/
def signWithNonce (privateScalar hashScalar nonce : Scalar) (hnonce : nonce ≠ .zero) : Option P256Signature :=
  match (p256GeneratorMultiply nonce).coordinates with
  | none => none
  | some (nonceX, _) =>
      let r : Scalar := .new nonceX
      if hr : r = .zero then
        none
      else
        let nonceInverse := nonce.inverse hnonce
        let s := nonceInverse.modularMultiply (hashScalar.modularAdd (privateScalar.modularMultiply r))
        if hs : s = .zero then none else some ⟨r, s, hr, hs⟩

def signLoop (privateScalar hashScalar : Scalar) : Nat → Rfc6979P256Sha256 → Option P256Signature
  | 0, _ => none
  | turns + 1, generator =>
      match generator.nextScalar (turns + 1) with
      | none => none
      | some (nonce, generator) =>
          match signWithNonce privateScalar hashScalar nonce.1 nonce.2 with
          | some signature => some signature
          | none => signLoop privateScalar hashScalar turns generator.rejectCandidate

def p256EcdsaSignSha256 (turns : Nat) (privateScalar : Scalar) (message : Bytes) :
    Option (Except P256EcdsaError P256Signature) :=
  if privateScalar = .zero then
    some (.error .zeroPrivateScalar)
  else
    let messageHash := sha256 message
    let hashScalar := ecdsaHashScalar messageHash
    let nonceGenerator := Rfc6979P256Sha256.new privateScalar messageHash
    (signLoop privateScalar hashScalar turns nonceGenerator).map .ok

def p256EcdsaVerifySha256 (publicKey : P256Point) (message : Bytes) (signature : P256Signature) : Bool :=
  if publicKey.isIdentity then
    false
  else
    let sInverse := signature.s.inverse signature.s_ne_zero
    let hashScalar := ecdsaHashScalar (sha256 message)
    let u1 := hashScalar.modularMultiply sInverse
    let u2 := signature.r.modularMultiply sInverse
    let verificationPoint := (p256GeneratorMultiply u1).addPoint (publicKey.multiply u2)
    match verificationPoint.coordinates with
    | none => false
    | some (verificationX, _) => (.new verificationX : Scalar) = signature.r

/-! ### Signatures verify -/

theorem value_pos {scalar : Scalar} (h : scalar ≠ .zero) :
    1 ≤ scalar.value.toNat ∧ scalar.value.toNat ≤ p256GroupOrder.toNat - 1 := by
  have hpos : scalar.value.toNat ≠ 0 := fun hzero => value_ne_zero h (hzero ▸ Nat.dvd_zero _)
  have hlt := scalar.value_lt
  omega

/-- The two multiples that verification adds make up the nonce again. -/
theorem verification_nsmul {privateScalar hashScalar nonce r s : Scalar} (hnonce : nonce ≠ .zero) (hs : s ≠ .zero)
    (h : s = (nonce.inverse hnonce).modularMultiply (hashScalar.modularAdd (privateScalar.modularMultiply r))) :
    (hashScalar.modularMultiply (s.inverse hs)).value.toNat • P256Point.base +
        (r.modularMultiply (s.inverse hs)).value.toNat • privateScalar.value.toNat • P256Point.base =
      nonce.value.toNat • P256Point.base := by
  have hnonce' : nonce.toZMod ≠ 0 := fun hzero => hnonce (Residue.toZMod_eq_zero.mp hzero)
  have hs' : s.toZMod ≠ 0 := fun hzero => hs (Residue.toZMod_eq_zero.mp hzero)
  have hproduct : s.toZMod * nonce.toZMod = hashScalar.toZMod + privateScalar.toZMod * r.toZMod := by
    have hvalue := congrArg Residue.toZMod h
    rw [Residue.toZMod_modularMultiply, Residue.toZMod_inverse, Residue.toZMod_modularAdd,
      Residue.toZMod_modularMultiply] at hvalue
    rw [hvalue, mul_right_comm, inv_mul_cancel₀ hnonce', one_mul]
  rw [← mul_nsmul', ← add_nsmul, P256Point.nsmul_base_eq_iff, Nat.cast_add, Nat.cast_mul]
  calc (hashScalar.modularMultiply (s.inverse hs)).toZMod +
          (r.modularMultiply (s.inverse hs)).toZMod * privateScalar.toZMod
      = (hashScalar.toZMod + privateScalar.toZMod * r.toZMod) * s.toZMod⁻¹ := by
        rw [Residue.toZMod_modularMultiply, Residue.toZMod_modularMultiply, Residue.toZMod_inverse]
        ring
    _ = nonce.toZMod := by rw [← hproduct, mul_right_comm, mul_inv_cancel₀ hs', one_mul]

/-- What a signature for a nonce is made of. -/
theorem signWithNonce_eq_some {privateScalar hashScalar nonce : Scalar} {hnonce : nonce ≠ .zero}
    {signature : P256Signature} (h : signWithNonce privateScalar hashScalar nonce hnonce = some signature) :
    (∃ nonceX nonceY, (p256GeneratorMultiply nonce).coordinates = some (nonceX, nonceY) ∧
      signature.r = .new nonceX) ∧
    signature.s = (nonce.inverse hnonce).modularMultiply
      (hashScalar.modularAdd (privateScalar.modularMultiply signature.r)) := by
  rw [signWithNonce] at h
  split at h
  · cases h
  · rename_i nonceX nonceY hcoordinates
    dsimp only at h
    split at h
    · cases h
    · split at h
      · cases h
      · obtain rfl := Option.some.inj h
        exact ⟨⟨nonceX, nonceY, hcoordinates, rfl⟩, rfl⟩

/-- A signature for a nonce verifies under the public key of the private scalar. -/
theorem verify_signWithNonce {privateScalar nonce : Scalar} {hnonce : nonce ≠ .zero} {message : Bytes}
    {signature : P256Signature} (hprivate : privateScalar ≠ .zero)
    (h : signWithNonce privateScalar (ecdsaHashScalar (sha256 message)) nonce hnonce = some signature) :
    p256EcdsaVerifySha256 (p256GeneratorMultiply privateScalar) message signature = true := by
  obtain ⟨⟨nonceX, nonceY, hcoordinates, hr⟩, hs⟩ := signWithNonce_eq_some h
  obtain ⟨affine, haffine⟩ := P256Point.affine_ofCurve_ne_none (nsmul_base_ne_zero hprivate)
  have hpublic : (p256GeneratorMultiply privateScalar).isIdentity = false := by
    rw [p256GeneratorMultiply_eq, P256Point.isIdentity, haffine]
    rfl
  have hpoint : (p256GeneratorMultiply
        ((ecdsaHashScalar (sha256 message)).modularMultiply (signature.s.inverse signature.s_ne_zero))).addPoint
        ((p256GeneratorMultiply privateScalar).multiply
          (signature.r.modularMultiply (signature.s.inverse signature.s_ne_zero))) =
      p256GeneratorMultiply nonce := by
    rw [p256GeneratorMultiply_eq, p256GeneratorMultiply_eq, p256GeneratorMultiply_eq, P256Point.multiply_ofCurve,
      P256Point.addPoint_ofCurve, verification_nsmul hnonce signature.s_ne_zero hs]
  rw [p256EcdsaVerifySha256, if_neg (by rw [hpublic]; exact Bool.false_ne_true)]
  dsimp only
  rw [hpoint, hcoordinates]
  exact decide_eq_true hr.symm

theorem signLoop_eq_some {privateScalar hashScalar : Scalar} {turns : Nat} {generator : Rfc6979P256Sha256}
    {signature : P256Signature} (h : signLoop privateScalar hashScalar turns generator = some signature) :
    ∃ nonce hnonce, signWithNonce privateScalar hashScalar nonce hnonce = some signature := by
  induction turns generalizing generator with
  | zero => cases h
  | succ turns ih =>
      unfold signLoop at h
      split at h
      · cases h
      · rename_i nonce generator' hnext
        split at h
        · rename_i signature' hsignature
          cases h
          exact ⟨nonce.1, nonce.2, hsignature⟩
        · exact ih h

theorem p256EcdsaSignSha256_isSome {turns : Nat} {privateScalar : Scalar} {message : Bytes}
    (hprivate : privateScalar ≠ .zero) (h : (p256EcdsaSignSha256 turns privateScalar message).isSome = true) :
    ∃ signature, p256EcdsaSignSha256 turns privateScalar message = some (.ok signature) ∧
      p256EcdsaVerifySha256 (p256GeneratorMultiply privateScalar) message signature = true := by
  rw [p256EcdsaSignSha256, if_neg hprivate] at h ⊢
  dsimp only at h ⊢
  rw [Option.isSome_map] at h
  obtain ⟨signature, hloop⟩ := Option.isSome_iff_exists.mp h
  obtain ⟨nonce, hnonce, hsignature⟩ := signLoop_eq_some hloop
  refine ⟨signature, ?_, verify_signWithNonce hprivate hsignature⟩
  rw [hloop, Option.map_some]

/-- Whatever number of turns the nonce loops take: a signature that comes out has both components in
`[1, n - 1]` and verifies under the public key, and the only error is the one for the zero scalar. -/
theorem p256EcdsaSignSha256_verifies (turns : Nat) (privateScalar : Scalar) (message : Bytes) :
    match p256EcdsaSignSha256 turns privateScalar message with
    | some (.ok signature) =>
        privateScalar ≠ .zero ∧
        (1 ≤ signature.r.value.toNat ∧ signature.r.value.toNat ≤ p256GroupOrder.toNat - 1) ∧
        (1 ≤ signature.s.value.toNat ∧ signature.s.value.toNat ≤ p256GroupOrder.toNat - 1) ∧
        p256EcdsaVerifySha256 (p256GeneratorMultiply privateScalar) message signature = true
    | some (.error error) => privateScalar = .zero ∧ error = .zeroPrivateScalar
    | none => privateScalar ≠ .zero := by
  rw [p256EcdsaSignSha256]
  by_cases hzero : privateScalar = .zero
  · rw [if_pos hzero]
    exact ⟨hzero, rfl⟩
  rw [if_neg hzero]
  dsimp only
  cases hloop : signLoop privateScalar (ecdsaHashScalar (sha256 message)) turns
      (Rfc6979P256Sha256.new privateScalar (sha256 message)) with
  | none => exact hzero
  | some signature =>
      obtain ⟨nonce, hnonce, hsignature⟩ := signLoop_eq_some hloop
      exact ⟨hzero, value_pos signature.r_ne_zero, value_pos signature.s_ne_zero,
        verify_signWithNonce hzero hsignature⟩

end BareProxy.P256
