import BareProxy.P256.Ecdsa
import BareProxy.P256.Order

/-!
# What verification accepts

For a public key that is accepted, verification accepts exactly the pairs that the signing equation makes from some
nonce. The pair with the opposite `s` comes from the opposite nonce, so it is accepted as well.
-/

namespace BareProxy.P256

open Crypto

/-- The nonce that a pair belongs to under a private key. -/
def recoveredNonce (privateScalar hashScalar : Scalar) (signature : P256Signature) : Scalar :=
  (hashScalar.modularAdd (privateScalar.modularMultiply signature.r)).modularMultiply
    (signature.s.inverse signature.s_ne_zero)

theorem recoveredNonce_nsmul (privateScalar hashScalar : Scalar) (signature : P256Signature) :
    (hashScalar.modularMultiply (signature.s.inverse signature.s_ne_zero)).value.toNat • P256Point.base +
        (signature.r.modularMultiply (signature.s.inverse signature.s_ne_zero)).value.toNat •
          privateScalar.value.toNat • P256Point.base =
      (recoveredNonce privateScalar hashScalar signature).value.toNat • P256Point.base := by
  rw [← mul_nsmul', ← add_nsmul, P256Point.nsmul_base_eq_iff, Nat.cast_add, Nat.cast_mul]
  calc (hashScalar.modularMultiply (signature.s.inverse signature.s_ne_zero)).toZMod +
          (signature.r.modularMultiply (signature.s.inverse signature.s_ne_zero)).toZMod * privateScalar.toZMod
      = (hashScalar.toZMod + privateScalar.toZMod * signature.r.toZMod) * signature.s.toZMod⁻¹ := by
        rw [Residue.toZMod_modularMultiply, Residue.toZMod_modularMultiply, Residue.toZMod_inverse]
        ring
    _ = (recoveredNonce privateScalar hashScalar signature).toZMod := by
        rw [recoveredNonce, Residue.toZMod_modularMultiply, Residue.toZMod_modularAdd, Residue.toZMod_modularMultiply,
          Residue.toZMod_inverse]

/-- Verification adds up the multiple of the generator by that nonce. -/
theorem verificationPoint_eq (privateScalar hashScalar : Scalar) (signature : P256Signature) :
    (p256GeneratorMultiply (hashScalar.modularMultiply (signature.s.inverse signature.s_ne_zero))).addPoint
        ((p256GeneratorMultiply privateScalar).multiply
          (signature.r.modularMultiply (signature.s.inverse signature.s_ne_zero))) =
      p256GeneratorMultiply (recoveredNonce privateScalar hashScalar signature) := by
  rw [p256GeneratorMultiply_eq, p256GeneratorMultiply_eq, p256GeneratorMultiply_eq, P256Point.multiply_ofCurve,
    P256Point.addPoint_ofCurve, recoveredNonce_nsmul]

theorem verify_eq_true_iff {privateScalar : Scalar} (hprivate : privateScalar ≠ .zero) (message : Bytes)
    (signature : P256Signature) :
    p256EcdsaVerifySha256 (p256GeneratorMultiply privateScalar) message signature = true ↔
      ∃ x y, (p256GeneratorMultiply
          (recoveredNonce privateScalar (ecdsaHashScalar (sha256 message)) signature)).coordinates = some (x, y) ∧
        (.new x : Scalar) = signature.r := by
  have hidentity : ¬(p256GeneratorMultiply privateScalar).isIdentity = true := by
    rwa [isIdentity_generatorMultiply]
  rw [p256EcdsaVerifySha256, if_neg hidentity]
  dsimp only
  rw [verificationPoint_eq]
  cases hcoordinates : (p256GeneratorMultiply
      (recoveredNonce privateScalar (ecdsaHashScalar (sha256 message)) signature)).coordinates with
  | none => simp
  | some coordinates =>
      obtain ⟨x, y⟩ := coordinates
      rw [decide_eq_true_iff]
      constructor
      · exact fun h => ⟨x, y, rfl, h⟩
      · rintro ⟨_, _, hsame, h⟩
        cases hsame
        exact h

theorem signature_ext {left right : P256Signature} (hr : left.r = right.r) (hs : left.s = right.s) : left = right := by
  obtain ⟨r, s, _, _⟩ := left
  obtain ⟨r', s', _, _⟩ := right
  cases hr
  cases hs
  rfl

/-- A nonce makes this pair when its point gives `r` and the equation gives `s`. -/
theorem signWithNonce_eq_some_iff {privateScalar hashScalar nonce : Scalar} {hnonce : nonce ≠ .zero}
    {signature : P256Signature} :
    signWithNonce privateScalar hashScalar nonce hnonce = some signature ↔
      (∃ x y, (p256GeneratorMultiply nonce).coordinates = some (x, y) ∧ (.new x : Scalar) = signature.r) ∧
        recoveredNonce privateScalar hashScalar signature = nonce := by
  have hnonce' : nonce.toZMod ≠ 0 := fun hzero => hnonce (Residue.toZMod_eq_zero.1 hzero)
  have hs' : signature.s.toZMod ≠ 0 := fun hzero => signature.s_ne_zero (Residue.toZMod_eq_zero.1 hzero)
  have hequation : recoveredNonce privateScalar hashScalar signature = nonce ↔
      signature.s = (nonce.inverse hnonce).modularMultiply
        (hashScalar.modularAdd (privateScalar.modularMultiply signature.r)) := by
    rw [← Residue.toZMod_inj, ← Residue.toZMod_inj, recoveredNonce]
    simp only [Residue.toZMod_modularMultiply, Residue.toZMod_modularAdd, Residue.toZMod_inverse]
    rw [← div_eq_mul_inv, div_eq_iff hs', ← div_eq_inv_mul, eq_div_iff hnonce', mul_comm nonce.toZMod]
    exact eq_comm
  rw [hequation]
  constructor
  · intro h
    obtain ⟨⟨x, y, hcoordinates, hr⟩, hs⟩ := signWithNonce_eq_some h
    exact ⟨⟨x, y, hcoordinates, hr.symm⟩, hs⟩
  · rintro ⟨⟨x, y, hcoordinates, hr⟩, hs⟩
    have hr' : ¬(.new x : Scalar) = .zero := hr ▸ signature.r_ne_zero
    rw [← hr] at hs
    have hs'' : ¬(nonce.inverse hnonce).modularMultiply
        (hashScalar.modularAdd (privateScalar.modularMultiply (.new x))) = .zero := hs ▸ signature.s_ne_zero
    rw [signWithNonce, hcoordinates]
    dsimp only
    rw [dif_neg hr', dif_neg hs'']
    exact congrArg some (signature_ext hr hs.symm)

/-- Verification under the public key of a private key accepts what that key can sign. -/
theorem verify_iff_signWithNonce {privateScalar : Scalar} (hprivate : privateScalar ≠ .zero) (message : Bytes)
    (signature : P256Signature) :
    p256EcdsaVerifySha256 (p256GeneratorMultiply privateScalar) message signature = true ↔
      ∃ nonce hnonce, signWithNonce privateScalar (ecdsaHashScalar (sha256 message)) nonce hnonce = some signature := by
  rw [verify_eq_true_iff hprivate]
  constructor
  · rintro ⟨x, y, hcoordinates, hr⟩
    refine ⟨_, fun hzero => ?_, signWithNonce_eq_some_iff.2 ⟨⟨x, y, hcoordinates, hr⟩, rfl⟩⟩
    -- the identity has no coordinates
    obtain ⟨affine, haffine, -⟩ := Option.map_eq_some_iff.1 hcoordinates
    have hidentity := (isIdentity_generatorMultiply _).2 hzero
    rw [P256Point.isIdentity, haffine] at hidentity
    cases hidentity
  · rintro ⟨nonce, hnonce, h⟩
    obtain ⟨hpoint, hrecovered⟩ := signWithNonce_eq_some_iff.1 h
    rw [hrecovered]
    exact hpoint

/-! ### The opposite pair -/

theorem coordinates_x_of_neg {a b : Scalar} {x y : Uint256} (hsum : a.modularAdd b = .zero)
    (h : (p256GeneratorMultiply a).coordinates = some (x, y)) :
    ∃ y', (p256GeneratorMultiply b).coordinates = some (x, y') := by
  have hopposite : b.value.toNat • P256Point.base = -(a.value.toNat • P256Point.base) := by
    rw [eq_neg_iff_add_eq_zero, ← add_nsmul, P256Point.nsmul_base_eq_zero_iff, ← ZMod.natCast_eq_zero_iff,
      Nat.cast_add, add_comm]
    rw [← Residue.toZMod_eq_zero, Residue.toZMod_modularAdd] at hsum
    exact hsum
  rw [p256GeneratorMultiply_eq] at h ⊢
  rw [hopposite]
  cases hA : a.value.toNat • P256Point.base with
  | zero =>
      rw [hA] at h
      cases h
  | some x₁ y₁ hpoint =>
      rw [hA] at h
      cases h
      exact ⟨_, rfl⟩

theorem verify_of_opposite {publicKey : P256Point} {privateScalar : Scalar} (hprivate : privateScalar ≠ .zero)
    (hpublic : p256GeneratorMultiply privateScalar = publicKey) {message : Bytes} {signature opposite : P256Signature}
    (hr : opposite.r = signature.r) (hs : signature.s.modularAdd opposite.s = .zero)
    (h : p256EcdsaVerifySha256 publicKey message signature = true) :
    p256EcdsaVerifySha256 publicKey message opposite = true := by
  rw [← hpublic, verify_eq_true_iff hprivate] at h ⊢
  obtain ⟨x, y, hcoordinates, hx⟩ := h
  have hsum : (recoveredNonce privateScalar (ecdsaHashScalar (sha256 message)) signature).modularAdd
      (recoveredNonce privateScalar (ecdsaHashScalar (sha256 message)) opposite) = .zero := by
    have hneg : opposite.s.toZMod = -signature.s.toZMod := by
      rw [← Residue.toZMod_eq_zero, Residue.toZMod_modularAdd] at hs
      exact eq_neg_of_add_eq_zero_right hs
    rw [← Residue.toZMod_eq_zero, Residue.toZMod_modularAdd, recoveredNonce, recoveredNonce, hr]
    simp only [Residue.toZMod_modularMultiply, Residue.toZMod_modularAdd, Residue.toZMod_inverse]
    rw [hneg, inv_neg]
    ring
  obtain ⟨y', hcoordinates'⟩ := coordinates_x_of_neg hsum hcoordinates
  exact ⟨x, y', hcoordinates', hx.trans hr.symm⟩

/-- Verification is exact: behind an accepted public key there is a private key, and a pair verifies for a message if
and only if signing the message with that key and some nonce gives the pair. The pair with the opposite `s` verifies
for the same messages. -/
theorem p256EcdsaVerifySha256_exact (encoded : Bytes) (publicKey : P256Point)
    (h : P256Point.fromSec1Uncompressed encoded = .ok publicKey) :
    (∃ privateScalar, privateScalar ≠ .zero ∧ p256GeneratorMultiply privateScalar = publicKey ∧
      ∀ message signature, p256EcdsaVerifySha256 publicKey message signature = true ↔
        ∃ nonce hnonce, signWithNonce privateScalar (ecdsaHashScalar (sha256 message)) nonce hnonce = some signature) ∧
    ∀ message (signature opposite : P256Signature), opposite.r = signature.r →
      signature.s.modularAdd opposite.s = .zero →
      (p256EcdsaVerifySha256 publicKey message opposite = true ↔
        p256EcdsaVerifySha256 publicKey message signature = true) := by
  obtain ⟨privateScalar, hprivate, hpublic⟩ := exists_privateKey h
  constructor
  · refine ⟨privateScalar, hprivate, hpublic, fun message signature => ?_⟩
    rw [← hpublic]
    exact verify_iff_signWithNonce hprivate message signature
  · intro message signature opposite hr hs
    have hs' : opposite.s.modularAdd signature.s = .zero := by
      rw [← Residue.toZMod_eq_zero, Residue.toZMod_modularAdd] at hs ⊢
      rw [add_comm]
      exact hs
    exact ⟨verify_of_opposite hprivate hpublic hr.symm hs', verify_of_opposite hprivate hpublic hr hs⟩

/-- The public key of the private key one, whatever is signed. -/
theorem p256EcdsaVerifySha256_exact_one :
    ∃ encoded, P256Point.fromSec1Uncompressed encoded = .ok (p256GeneratorMultiply .one) ∧
      ∃ privateScalar, p256GeneratorMultiply privateScalar = p256GeneratorMultiply .one ∧
        ∀ message signature, p256EcdsaVerifySha256 (p256GeneratorMultiply .one) message signature = true →
          ∃ nonce hnonce, signWithNonce privateScalar (ecdsaHashScalar (sha256 message)) nonce hnonce =
            some signature := by
  obtain ⟨encoded, -, hdecoded⟩ := fromSec1Uncompressed_generatorMultiply (show (.one : Scalar) ≠ .zero by decide)
  obtain ⟨⟨privateScalar, -, hpublic, hverify⟩, -⟩ := p256EcdsaVerifySha256_exact _ _ hdecoded
  exact ⟨_, hdecoded, privateScalar, hpublic, fun message signature => (hverify message signature).1⟩

end BareProxy.P256
