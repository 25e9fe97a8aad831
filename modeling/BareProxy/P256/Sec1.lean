import BareProxy.P256.Group
import Mathlib.Data.Int.ModEq

/-!
# Encoded points

The SEC 1 encoding of `p256.rs` is one to one between the points of the curve other than the identity and the encodings
that are accepted. The curve is stated in integers here: the limbs, the range checks and the residues of the source
come to the equation modulo the prime.
-/

namespace BareProxy.P256

/-- `y ^ 2 = x ^ 3 - 3 x + b` for integers, modulo the prime of the field. -/
def CurveEquation (x y : Nat) : Prop :=
  (y : Int) ^ 2 ≡ (x : Int) ^ 3 - 3 * x + p256CurveB.toNat [ZMOD p256FieldModulus.toNat]

instance (x y : Nat) : Decidable (CurveEquation x y) := inferInstanceAs (Decidable (_ ≡ _ [ZMOD _]))

theorem curveEquation_iff (x y : Nat) : CurveEquation x y ↔ curve.Equation (x : Fp) (y : Fp) := by
  have hb : P256Point.curveB.toZMod = (p256CurveB.toNat : Fp) := rfl
  rw [CurveEquation, ← ZMod.intCast_eq_intCast_iff, curve, equation_minusThreeCurve, hb]
  push_cast
  rw [neg_mul, ← sub_eq_add_neg]

namespace P256Point

/-- The curve check of the source is the equation in integers. -/
theorem isOnCurve_iff {point : P256Point} {x y : Uint256} (h : point.coordinates = some (x, y)) :
    point.isOnCurve = true ↔ CurveEquation x.toNat y.toNat := by
  obtain ⟨affine, haffine, hpair⟩ := Option.map_eq_some_iff.mp h
  obtain ⟨rfl, rfl⟩ := Prod.mk.inj hpair
  rw [isOnCurve_some haffine, curveEquation_iff,
    WeierstrassCurve.Affine.equation_iff_nonsingular_of_Δ_ne_zero discriminant_ne_zero]
  rfl

theorem affine_of_coordinates {point : P256Point} {x y : Uint256} (h : point.coordinates = some (x, y)) :
    ∃ affine, point.affine = some affine ∧ affine.x.value = x ∧ affine.y.value = y := by
  obtain ⟨affine, haffine, hpair⟩ := Option.map_eq_some_iff.mp h
  obtain ⟨hx, hy⟩ := Prod.mk.inj hpair
  exact ⟨affine, haffine, hx, hy⟩

section Coordinates

variable {x y : Uint256}

theorem fromCoordinates_outOfRange (h : ¬(x.toNat < p256FieldModulus.toNat ∧ y.toNat < p256FieldModulus.toNat)) :
    fromCoordinates x y = .error .coordinateOutOfRange := by
  rw [fromCoordinates, dif_pos]
  rw [Uint256.cmp_ne_lt, Uint256.cmp_ne_lt]
  omega

/-- Within the range the equation decides. -/
theorem fromCoordinates_inRange (hx : x.toNat < p256FieldModulus.toNat) (hy : y.toNat < p256FieldModulus.toNat) :
    fromCoordinates x y =
      if CurveEquation x.toNat y.toNat then .ok ⟨some ⟨⟨x, hx⟩, ⟨y, hy⟩⟩⟩ else .error .pointNotOnCurve := by
  have hcheck := @isOnCurve_iff ⟨some ⟨⟨x, hx⟩, ⟨y, hy⟩⟩⟩ x y rfl
  rw [fromCoordinates, dif_neg (by rw [Uint256.cmp_ne_lt, Uint256.cmp_ne_lt]; omega)]
  dsimp only
  by_cases h : CurveEquation x.toNat y.toNat
  · rw [if_pos h, hcheck.mpr h]
    rfl
  · rw [if_neg h, Bool.eq_false_iff.mpr (mt hcheck.mp h)]
    rfl

/-- What passes is on the curve, with the coordinates that were given. -/
theorem fromCoordinates_curveEquation {point : P256Point} (h : fromCoordinates x y = .ok point) :
    point.coordinates = some (x, y) ∧ x.toNat < p256FieldModulus.toNat ∧ y.toNat < p256FieldModulus.toNat ∧
      CurveEquation x.toNat y.toNat := by
  by_cases hrange : x.toNat < p256FieldModulus.toNat ∧ y.toNat < p256FieldModulus.toNat
  · rw [fromCoordinates_inRange hrange.1 hrange.2] at h
    by_cases hcurve : CurveEquation x.toNat y.toNat
    · rw [if_pos hcurve] at h
      cases h
      exact ⟨rfl, hrange.1, hrange.2, hcurve⟩
    · rw [if_neg hcurve] at h
      cases h
  · rw [fromCoordinates_outOfRange hrange] at h
    cases h

end Coordinates

/-- An encoding that is accepted is read as the big-endian numbers behind the marker. -/
theorem fromSec1Uncompressed_ok {encoded : Bytes} {point : P256Point} (h : fromSec1Uncompressed encoded = .ok point) :
    ∃ x y : Uint256, fromCoordinates x y = .ok point ∧ x.toNat = ofBe ((encoded.drop 1).take 32) ∧
      y.toNat = ofBe (encoded.drop 33) := by
  rw [fromSec1Uncompressed] at h
  split at h
  · cases h
  · rename_i hlength
    rw [not_not] at hlength
    split at h
    · cases h
    · refine ⟨_, _, h, ?_, ?_⟩
      · rw [Uint256.toNat_fromBeBytes, toList_arrayOf]
      · rw [Uint256.toNat_fromBeBytes, toList_arrayOf, List.take_of_length_le]
        rw [List.length_drop, hlength]

/-- Points of the curve and accepted encodings correspond one to one, and coordinates out of range or off the curve are
rejected by themselves and in an encoding. -/
theorem sec1Uncompressed_bijection :
    (∀ (point : P256Point) (x y : Uint256), point.coordinates = some (x, y) → CurveEquation x.toNat y.toNat →
      ∃ encoded, point.toSec1Uncompressed = .ok encoded ∧ fromSec1Uncompressed encoded.toList = .ok point) ∧
    (∀ (encoded : Bytes) (point : P256Point), fromSec1Uncompressed encoded = .ok point →
      point.isIdentity = false ∧ point.isOnCurve = true ∧
      (∃ x y : Uint256, point.coordinates = some (x, y) ∧ x.toNat = ofBe ((encoded.drop 1).take 32) ∧
        y.toNat = ofBe (encoded.drop 33) ∧ x.toNat < p256FieldModulus.toNat ∧ y.toNat < p256FieldModulus.toNat ∧
        CurveEquation x.toNat y.toNat) ∧
      ∃ array, point.toSec1Uncompressed = .ok array ∧ array.toList = encoded) ∧
    (∀ x y : Uint256,
      (¬(x.toNat < p256FieldModulus.toNat ∧ y.toNat < p256FieldModulus.toNat) →
        fromCoordinates x y = .error .coordinateOutOfRange ∧
        fromSec1Uncompressed (0x04 :: (x.toBeBytes.toList ++ y.toBeBytes.toList)) = .error .coordinateOutOfRange) ∧
      (x.toNat < p256FieldModulus.toNat → y.toNat < p256FieldModulus.toNat → ¬CurveEquation x.toNat y.toNat →
        fromCoordinates x y = .error .pointNotOnCurve ∧
        fromSec1Uncompressed (0x04 :: (x.toBeBytes.toList ++ y.toBeBytes.toList)) = .error .pointNotOnCurve)) := by
  refine ⟨?_, ?_, ?_⟩
  · intro point x y hcoordinates hcurve
    obtain ⟨affine, haffine, -, -⟩ := affine_of_coordinates hcoordinates
    exact fromSec1Uncompressed_toSec1Uncompressed haffine ((isOnCurve_iff hcoordinates).mpr hcurve)
  · intro encoded point h
    obtain ⟨x, y, hpoint, hx, hy⟩ := fromSec1Uncompressed_ok h
    obtain ⟨hcoordinates, hxlt, hylt, hcurve⟩ := fromCoordinates_curveEquation hpoint
    obtain ⟨affine, haffine, -, -⟩ := affine_of_coordinates hcoordinates
    refine ⟨?_, (isOnCurve_iff hcoordinates).mpr hcurve, ⟨x, y, hcoordinates, hx, hy, hxlt, hylt, hcurve⟩,
      toSec1Uncompressed_of_fromSec1Uncompressed h⟩
    rw [isIdentity, haffine]
    rfl
  · intro x y
    rw [fromSec1Uncompressed_coordinates, and_self, and_self]
    refine ⟨fromCoordinates_outOfRange, ?_⟩
    intro hx hy hcurve
    rw [fromCoordinates_inRange hx hy, if_neg hcurve]

/-- The generator and its encoding. -/
theorem sec1Uncompressed_bijection_generator :
    ∃ encoded, generator.toSec1Uncompressed = .ok encoded ∧ fromSec1Uncompressed encoded.toList = .ok generator ∧
      generator.isIdentity = false := by
  obtain ⟨encoded, hencoded, hdecoded⟩ :=
    sec1Uncompressed_bijection.1 generator p256GeneratorX p256GeneratorY rfl (by decide +kernel)
  exact ⟨encoded, hencoded, hdecoded, (sec1Uncompressed_bijection.2.1 _ _ hdecoded).1⟩

end P256Point

end BareProxy.P256
