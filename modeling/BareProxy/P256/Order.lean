import BareProxy.Base.CurveOrder
import BareProxy.P256.Sec1

/-!
# The order of the curve

The curve has no point of order two, so its group has the prime order of `P256_GROUP_ORDER`. Every public key that
is accepted is then a multiple of the generator, for one private key only, and Diffie-Hellman cannot run into the
identity.
-/

namespace BareProxy.P256

/-! ### The group -/

/-- The inverse of `x ^ p - x` modulo `x ^ 3 - 3 x + b`. -/
def cubicCertificate : CubicRemainder Fp :=
  ⟨0xa969487079f1744798bf0de6fded091b66e9d328eb0645fe5d979d1339b7f47f,
   0xa4a08891884100c13323460107a8d28eede4387fa3e6e9bfebec9f6d72d0b5cc,
   0x4cde11cf86cb876cd59cf0115813c55af0ecd3cda667d98bb9a347a56aa74a6d⟩

theorem cubicCertificate_check :
    (CubicRemainder.power 3 (-P256Point.curveB.toZMod) p256FieldModulus.toNat 256).subtractX.multiply 3
      (-P256Point.curveB.toZMod) cubicCertificate = ⟨1, 0, 0⟩ := by
  decide +kernel

/-- `x ^ 3 - 3 x + b` has no root. -/
theorem cubic_no_root (x : Fp) : x ^ 3 ≠ 3 * x + -P256Point.curveB.toZMod := by
  have hbits : Fintype.card Fp < 2 ^ 256 := by
    rw [ZMod.card]
    exact p256FieldModulus.toNat_lt
  apply CubicRemainder.no_root hbits
  rw [ZMod.card]
  exact cubicCertificate_check

theorem eq_zero_of_add_self {A : curve.Point} (h : A + A = 0) : A = 0 := by
  cases A with
  | zero => rfl
  | some x y hA =>
      have hneg : y = curve.negY x y := by
        have heq := eq_neg_of_add_eq_zero_left h
        rw [WeierstrassCurve.Affine.Point.neg_some, WeierstrassCurve.Affine.Point.some.injEq] at heq
        exact heq.2
      have hy : y = 0 := by
        rw [curve, Jacobian.negY_minusThreeCurve, eq_neg_iff_add_eq_zero, ← two_mul] at hneg
        exact (mul_eq_zero.1 hneg).resolve_left two_ne_zero
      have hequation := (equation_minusThreeCurve _ x y).1 hA.1
      refine absurd ?_ (cubic_no_root x)
      rw [hy] at hequation
      linear_combination -hequation

theorem card_point : Nat.card curve.Point = p256GroupOrder.toNat := by
  rw [← P256Point.addOrderOf_base]
  apply card_eq_addOrderOf
  · apply card_point_le.trans_lt
    rw [Nat.card_zmod, P256Point.addOrderOf_base]
    decide
  · exact fun _ => eq_zero_of_add_self

/-- Every point of the curve is a multiple of the generator. -/
theorem exists_nsmul_base (A : curve.Point) : ∃ k < p256GroupOrder.toNat, k • P256Point.base = A := by
  rw [← P256Point.addOrderOf_base]
  exact exists_nsmul_of_card (card_point.trans P256Point.addOrderOf_base.symm) A

theorem nsmul_eq_zero_iff {A : curve.Point} (h : A ≠ 0) (k : Nat) : k • A = 0 ↔ p256GroupOrder.toNat ∣ k := by
  have hzero : p256GroupOrder.toNat • A = 0 := by
    rw [← card_point]
    exact card_nsmul_eq_zero'
  rw [← addOrderOf_dvd_iff_nsmul_eq_zero, addOrderOf_eq_prime hzero h]

/-! ### Public keys -/

theorem p256GeneratorMultiply_injective : Function.Injective p256GeneratorMultiply := by
  intro a b h
  rw [p256GeneratorMultiply_eq, p256GeneratorMultiply_eq] at h
  exact Residue.toZMod_injective ((P256Point.nsmul_base_eq_iff _ _).1 (P256Point.ofCurve_injective h))

theorem isIdentity_ofCurve (A : curve.Point) : (P256Point.ofCurve A).isIdentity = true ↔ A = 0 := by
  cases A with
  | zero => exact iff_of_true rfl rfl
  | some x y h => exact iff_of_false Bool.false_ne_true (WeierstrassCurve.Affine.Point.some_ne_zero _)

theorem isIdentity_generatorMultiply (scalar : Scalar) :
    (p256GeneratorMultiply scalar).isIdentity = true ↔ scalar = .zero := by
  rw [p256GeneratorMultiply_eq, isIdentity_ofCurve]
  refine ⟨fun h => not_not.1 fun hne => nsmul_base_ne_zero hne h, ?_⟩
  rintro rfl
  exact zero_nsmul _

/-- Every point on the curve has a private key. -/
theorem exists_generatorMultiply {point : P256Point} (h : point.isOnCurve = true) :
    ∃ scalar, p256GeneratorMultiply scalar = point := by
  obtain ⟨k, -, hk⟩ := exists_nsmul_base (point.toCurve h)
  refine ⟨.ofZMod k, ?_⟩
  rw [p256GeneratorMultiply_eq, (P256Point.nsmul_base_eq_iff _ k).2 (Residue.toZMod_ofZMod _), hk,
    P256Point.ofCurve_toCurve]

theorem accepted_facts {encoded : Bytes} {point : P256Point} (h : P256Point.fromSec1Uncompressed encoded = .ok point) :
    point.isOnCurve = true ∧ point.isIdentity = false := by
  obtain ⟨x, y, hpoint, -, -⟩ := P256Point.fromSec1Uncompressed_ok h
  obtain ⟨hcoordinates, -, -, hcurve⟩ := P256Point.fromCoordinates_curveEquation hpoint
  obtain ⟨affine, haffine, -, -⟩ := P256Point.affine_of_coordinates hcoordinates
  refine ⟨(P256Point.isOnCurve_iff hcoordinates).2 hcurve, ?_⟩
  rw [P256Point.isIdentity, haffine]
  rfl

/-- The private key behind an accepted encoding. -/
theorem exists_privateKey {encoded : Bytes} {point : P256Point} (h : P256Point.fromSec1Uncompressed encoded = .ok point) :
    ∃ scalar, scalar ≠ .zero ∧ p256GeneratorMultiply scalar = point := by
  obtain ⟨hcurve, hidentity⟩ := accepted_facts h
  obtain ⟨scalar, rfl⟩ := exists_generatorMultiply hcurve
  refine ⟨scalar, fun hzero => ?_, rfl⟩
  rw [(isIdentity_generatorMultiply scalar).2 hzero] at hidentity
  cases hidentity

theorem pointX_of_affine {A : curve.Point} {affine : AffinePoint} (h : (P256Point.ofCurve A).affine = some affine) :
    pointX A = some affine.x.toZMod := by
  cases A with
  | zero => cases h
  | some x y hA =>
      cases h
      rw [Residue.toZMod_ofZMod]
      rfl

/-- Two multiples of one public key share their x-coordinate when the factors are equal or opposite. -/
theorem pointX_nsmul_base_eq_iff {a b c : Scalar} (hc : c ≠ .zero) :
    pointX ((a.value.toNat * c.value.toNat) • P256Point.base) =
        pointX ((b.value.toNat * c.value.toNat) • P256Point.base) ↔
      a = b ∨ a.modularAdd b = .zero := by
  have hfactor : c.toZMod ≠ 0 := fun hzero => hc (Residue.toZMod_eq_zero.1 hzero)
  rw [pointX_eq_iff, eq_neg_iff_add_eq_zero, ← add_nsmul, ← add_mul, P256Point.nsmul_base_eq_iff,
    P256Point.nsmul_base_eq_zero_iff, ← ZMod.natCast_eq_zero_iff, ← Residue.toZMod_inj, ← Residue.toZMod_eq_zero,
    Residue.toZMod_modularAdd]
  push_cast
  refine or_congr ⟨fun h => mul_right_cancel₀ hfactor h, fun h => congrArg (· * c.toZMod) h⟩ ?_
  exact ⟨fun h => (mul_eq_zero.1 h).resolve_right hfactor, fun h => mul_eq_zero.2 (Or.inl h)⟩

/-- Two private keys share a secret with a peer only when they are equal or opposite. -/
theorem ecdhSecret_eq_iff {a b c : Scalar} (ha : a ≠ .zero) (hb : b ≠ .zero) (hc : c ≠ .zero) :
    p256Ecdh a (p256GeneratorMultiply c) = p256Ecdh b (p256GeneratorMultiply c) ↔
      a = b ∨ a.modularAdd b = .zero := by
  obtain ⟨affineA, haffineA, hsecretA⟩ := p256Ecdh_generatorMultiply ha hc
  obtain ⟨affineB, haffineB, hsecretB⟩ := p256Ecdh_generatorMultiply hb hc
  rw [← pointX_nsmul_base_eq_iff hc, pointX_of_affine haffineA, pointX_of_affine haffineB, hsecretA, hsecretB,
    Option.some.injEq, Residue.toZMod_inj, Except.ok.injEq]
  constructor
  · intro h
    have hvalue := congrArg Uint256.fromBeBytes h
    rw [Uint256.fromBeBytes_toBeBytes, Uint256.fromBeBytes_toBeBytes] at hvalue
    exact Residue.toZMod_injective (congrArg (fun value : Uint256 => (value.toNat : Fp)) hvalue)
  · exact congrArg fun x : FieldElement => x.value.toBeBytes

/-- What is accepted as a public key is the public key of exactly one private key, a multiple of it vanishes only at
the multiples of the group order, and Diffie-Hellman with it succeeds for every private key, with a secret that
determines the private key up to its sign. -/
theorem publicKeys_complete :
    (∀ (encoded : Bytes) (point : P256Point), P256Point.fromSec1Uncompressed encoded = .ok point ↔
      ∃! scalar, scalar ≠ .zero ∧ p256GeneratorMultiply scalar = point ∧
        ∃ array, point.toSec1Uncompressed = .ok array ∧ array.toList = encoded) ∧
    (∀ (encoded : Bytes) (point : P256Point), P256Point.fromSec1Uncompressed encoded = .ok point →
      (∀ k : Uint256, point.multiplyUint k = .identity ↔ p256GroupOrder.toNat ∣ k.toNat) ∧
      ∀ a : Scalar, a ≠ .zero → ∃ secret, p256Ecdh a point = .ok secret ∧
        ∀ b : Scalar, b ≠ .zero → (p256Ecdh b point = .ok secret ↔ b = a ∨ b.modularAdd a = .zero)) := by
  refine ⟨fun encoded point => ⟨fun h => ?_, ?_⟩, fun encoded point h => ⟨fun k => ?_, fun a ha => ?_⟩⟩
  · obtain ⟨scalar, hscalar, rfl⟩ := exists_privateKey h
    refine ⟨scalar, ⟨hscalar, rfl, P256Point.toSec1Uncompressed_of_fromSec1Uncompressed h⟩, ?_⟩
    rintro other ⟨-, hother, -⟩
    exact p256GeneratorMultiply_injective hother
  · rintro ⟨scalar, ⟨hscalar, rfl, array, harray, rfl⟩, -⟩
    obtain ⟨encoded, hencoded, hdecoded⟩ := fromSec1Uncompressed_generatorMultiply hscalar
    rw [harray] at hencoded
    cases hencoded
    exact hdecoded
  · obtain ⟨hcurve, hidentity⟩ := accepted_facts h
    have hpoint : point.toCurve hcurve ≠ 0 := by
      rw [ne_eq, ← isIdentity_ofCurve, P256Point.ofCurve_toCurve, hidentity]
      exact Bool.false_ne_true
    rw [P256Point.multiplyUint_eq hcurve, ← nsmul_eq_zero_iff hpoint]
    exact P256Point.ofCurve_injective.eq_iff (b := 0)
  · obtain ⟨scalar, hscalar, rfl⟩ := exists_privateKey h
    obtain ⟨_, -, hsecret⟩ := p256Ecdh_generatorMultiply ha hscalar
    refine ⟨_, hsecret, fun b hb => ?_⟩
    rw [← hsecret]
    exact ecdhSecret_eq_iff hb ha hscalar

/-- The private key one and the public key of the private key two. -/
theorem publicKeys_complete_two :
    ∃ encoded secret, P256Point.fromSec1Uncompressed encoded = .ok (p256GeneratorMultiply (.new (.fromLimbs 2 0 0 0))) ∧
      p256Ecdh .one (p256GeneratorMultiply (.new (.fromLimbs 2 0 0 0))) = .ok secret := by
  have htwo : (Residue.new (.fromLimbs 2 0 0 0) : Scalar) ≠ .zero := by
    rw [ne_eq, ← Residue.toZMod_eq_zero, Residue.toZMod_new, ZMod.natCast_eq_zero_iff]
    exact Nat.not_dvd_of_pos_of_lt (by decide) (by decide)
  obtain ⟨encoded, -, hdecoded⟩ := fromSec1Uncompressed_generatorMultiply htwo
  obtain ⟨secret, hsecret, -⟩ := (publicKeys_complete.2 _ _ hdecoded).2 .one (by decide)
  exact ⟨_, secret, hdecoded, hsecret⟩

end BareProxy.P256
