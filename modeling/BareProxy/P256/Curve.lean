import BareProxy.Base.Jacobian
import BareProxy.P256.Point

/-!
# Points as elements of the curve group

The group is Mathlib's, on the curve over the field of the modulus. `ofCurve` and `toCurve` translate between
its elements and the points of `p256.rs` that pass the curve check, and the Jacobian arithmetic on limbs is
followed through the field-level one to the group law.
-/

namespace BareProxy.P256

abbrev Fp := ZMod p256FieldModulus.toNat

/-- `y ^ 2 = x ^ 3 - 3 x + b` over the field of the modulus. -/
def curve : WeierstrassCurve.Affine Fp := minusThreeCurve P256Point.curveB.toZMod

theorem natCast_ne_zero {n : Nat} (hpos : 0 < n) (hlt : n < p256FieldModulus.toNat) : (n : Fp) ≠ 0 := by
  rw [ne_eq, ZMod.natCast_eq_zero_iff]
  exact Nat.not_dvd_of_pos_of_lt hpos hlt

theorem two_ne_zero : (2 : Fp) ≠ 0 := natCast_ne_zero (n := 2) (by decide) (by decide)

theorem toZMod_curveA : P256Point.curveA.toZMod = -3 := by
  apply eq_neg_of_add_eq_zero_left
  have hsum : p256CurveA.toNat + 3 = p256FieldModulus.toNat := by decide
  calc (p256CurveA.toNat : Fp) + 3 = ((p256CurveA.toNat + 3 : Nat) : Fp) := by push_cast; rfl
    _ = 0 := by rw [hsum, ZMod.natCast_self]

theorem discriminant_ne_zero : curve.Δ ≠ 0 := by
  have hthree : (3 : Fp) ≠ 0 := natCast_ne_zero (n := 3) (by decide) (by decide)
  have hplus : 2 + P256Point.curveB.toZMod ≠ 0 := by
    have hsum := natCast_ne_zero (n := 2 + p256CurveB.toNat) (by decide) (by decide)
    rwa [Nat.cast_add] at hsum
  have hminus : 2 - P256Point.curveB.toZMod ≠ 0 := by
    have hdifference := natCast_ne_zero (n := p256CurveB.toNat - 2) (by decide) (by decide)
    rw [Nat.cast_sub (by decide)] at hdifference
    rw [← neg_sub, neg_ne_zero]
    exact hdifference
  rw [curve, discriminant_minusThreeCurve]
  exact mul_ne_zero (mul_ne_zero (pow_ne_zero 4 two_ne_zero) (pow_ne_zero 3 hthree)) (mul_ne_zero hminus hplus)

namespace P256Point

/-- The curve check of the source is the equation of the curve. -/
theorem isOnCurve_some {point : P256Point} {affine : AffinePoint} (h : point.affine = some affine) :
    point.isOnCurve = true ↔ curve.Nonsingular affine.x.toZMod affine.y.toZMod := by
  rw [← WeierstrassCurve.Affine.equation_iff_nonsingular_of_Δ_ne_zero discriminant_ne_zero, curve,
    equation_minusThreeCurve, isOnCurve, h]
  simp only [decide_eq_true_iff, ← Residue.toZMod_inj, Residue.toZMod_square, Residue.toZMod_modularAdd,
    Residue.toZMod_modularMultiply, toZMod_curveA, ← pow_succ]

theorem isOnCurve_none {point : P256Point} (h : point.affine = none) : point.isOnCurve = true := by
  rw [isOnCurve, h]

theorem isOnCurve_generator : generator.isOnCurve = true := by
  apply (@isOnCurve_some _ ⟨⟨p256GeneratorX, by decide⟩, ⟨p256GeneratorY, by decide⟩⟩ rfl).mpr
  rw [← WeierstrassCurve.Affine.equation_iff_nonsingular_of_Δ_ne_zero discriminant_ne_zero, curve,
    equation_minusThreeCurve]
  decide +kernel

/-- The coordinates of a group element, in canonical form. -/
def ofCurve : curve.Point → P256Point
  | .zero => ⟨none⟩
  | .some x y _ => ⟨some ⟨.ofZMod x, .ofZMod y⟩⟩

/-- The group element of a point that passes the curve check. -/
def toCurve (point : P256Point) (h : point.isOnCurve = true) : curve.Point :=
  match hpoint : point.affine with
  | none => 0
  | some affine => .some affine.x.toZMod affine.y.toZMod ((isOnCurve_some hpoint).mp h)

theorem isOnCurve_ofCurve (A : curve.Point) : (ofCurve A).isOnCurve = true := by
  cases A with
  | zero => exact isOnCurve_none rfl
  | some x y h =>
      apply (@isOnCurve_some _ ⟨.ofZMod x, .ofZMod y⟩ rfl).mpr
      rwa [Residue.toZMod_ofZMod, Residue.toZMod_ofZMod]

theorem ofCurve_toCurve (point : P256Point) (h : point.isOnCurve = true) : ofCurve (point.toCurve h) = point := by
  obtain ⟨affine⟩ := point
  cases affine with
  | none => rfl
  | some affine =>
      obtain ⟨x, y⟩ := affine
      have hx : Residue.ofZMod x.toZMod = x := Residue.toZMod_injective (Residue.toZMod_ofZMod _)
      have hy : Residue.ofZMod y.toZMod = y := Residue.toZMod_injective (Residue.toZMod_ofZMod _)
      show (⟨some ⟨Residue.ofZMod x.toZMod, Residue.ofZMod y.toZMod⟩⟩ : P256Point) = _
      rw [hx, hy]

theorem ofCurve_injective : Function.Injective ofCurve := by
  intro A B h
  cases A with
  | zero =>
      cases B with
      | zero => rfl
      | some x y hB => simp [ofCurve] at h
  | some x y hA =>
      cases B with
      | zero => simp [ofCurve] at h
      | some x' y' hB =>
          simp only [ofCurve, P256Point.mk.injEq, Option.some.injEq, AffinePoint.mk.injEq] at h
          have hx : x = x' := by rw [← Residue.toZMod_ofZMod x, h.1, Residue.toZMod_ofZMod]
          have hy : y = y' := by rw [← Residue.toZMod_ofZMod y, h.2, Residue.toZMod_ofZMod]
          subst hx hy
          rfl

end P256Point

/-! ### Jacobian points -/

namespace JacobianPoint

/-- The coordinates as field elements. -/
def toField (point : JacobianPoint) : Jacobian Fp := ⟨point.x.toZMod, point.y.toZMod, point.z.toZMod⟩

theorem toZMod_fieldDouble (value : FieldElement) : (fieldDouble value).toZMod = 2 * value.toZMod := by
  rw [fieldDouble, Residue.toZMod_modularAdd, two_mul]

theorem toZMod_fieldTriple (value : FieldElement) : (fieldTriple value).toZMod = 3 * value.toZMod := by
  rw [fieldTriple, Residue.toZMod_modularAdd, toZMod_fieldDouble]
  ring

theorem isIdentity_iff {point : JacobianPoint} : point.isIdentity = true ↔ point.toField.z = 0 := by
  rw [isIdentity, decide_eq_true_iff, ← Residue.toZMod_eq_zero]
  rfl

theorem toField_identity : identity.toField = Jacobian.identity := by
  rw [toField, identity, Jacobian.identity, Residue.toZMod_zero, Residue.toZMod_one]

theorem toField_double (point : JacobianPoint) : point.double.toField = point.toField.double := by
  rw [double, Jacobian.double]
  have hcase : (point.isIdentity = true ∨ point.y = .zero) ↔ (point.toField.z = 0 ∨ point.toField.y = 0) := by
    rw [isIdentity_iff, ← Residue.toZMod_eq_zero]
    rfl
  by_cases h : point.toField.z = 0 ∨ point.toField.y = 0
  · rw [if_pos (hcase.mpr h), if_pos h, toField_identity]
  · rw [if_neg (fun h' => h (hcase.mp h')), if_neg h]
    ext <;>
      simp only [toField, toZMod_fieldDouble, toZMod_fieldTriple, Residue.toZMod_square, Residue.toZMod_modularAdd,
        Residue.toZMod_modularMultiply, Residue.toZMod_modularSubtract] <;>
      ring

theorem toField_add (point other : JacobianPoint) : (point.add other).toField = point.toField.add other.toField := by
  rw [add, Jacobian.add]
  by_cases hpoint : point.toField.z = 0
  · rw [if_pos (isIdentity_iff.mpr hpoint), if_pos hpoint]
  rw [if_neg (fun h => hpoint (isIdentity_iff.mp h)), if_neg hpoint]
  by_cases hother : other.toField.z = 0
  · rw [if_pos (isIdentity_iff.mpr hother), if_pos hother]
  rw [if_neg (fun h => hother (isIdentity_iff.mp h)), if_neg hother]
  -- canonical limbs are equal exactly when the field elements are
  have hu : point.x.modularMultiply other.z.square = other.x.modularMultiply point.z.square ↔
      point.toField.x * other.toField.z ^ 2 = other.toField.x * point.toField.z ^ 2 := by
    rw [← Residue.toZMod_inj]
    simp only [Residue.toZMod_modularMultiply, Residue.toZMod_square, toField]
  have hs : (point.y.modularMultiply other.z).modularMultiply other.z.square =
        (other.y.modularMultiply point.z).modularMultiply point.z.square ↔
      point.toField.y * other.toField.z * other.toField.z ^ 2 =
        other.toField.y * point.toField.z * point.toField.z ^ 2 := by
    rw [← Residue.toZMod_inj]
    simp only [Residue.toZMod_modularMultiply, Residue.toZMod_square, toField]
  dsimp only
  by_cases hx : point.toField.x * other.toField.z ^ 2 = other.toField.x * point.toField.z ^ 2
  · rw [if_pos (hu.mpr hx), if_pos hx]
    by_cases hy : point.toField.y * other.toField.z * other.toField.z ^ 2 =
        other.toField.y * point.toField.z * point.toField.z ^ 2
    · rw [if_neg (not_not_intro (hs.mpr hy)), if_neg (not_not_intro hy), toField_double]
    · rw [if_pos (fun h => hy (hs.mp h)), if_pos hy, toField_identity]
  · rw [if_neg (fun h => hx (hu.mp h)), if_neg hx]
    ext <;>
      simp only [toField, toZMod_fieldDouble, Residue.toZMod_square, Residue.toZMod_modularAdd,
        Residue.toZMod_modularMultiply, Residue.toZMod_modularSubtract]

/-- The point in affine coordinates has one Jacobian form with `z = 1`. -/
theorem represents_fromPoint (A : curve.Point) : (fromPoint (.ofCurve A)).toField.Represents A := by
  cases A with
  | zero => exact Residue.toZMod_zero
  | some x y h =>
      have hone : (fromPoint (.ofCurve (.some x y h))).toField.z = 1 := Residue.toZMod_one
      refine ⟨?_, ?_, ?_⟩
      · rw [hone]
        exact one_ne_zero
      · rw [hone, one_pow, mul_one]
        exact Residue.toZMod_ofZMod x
      · rw [hone, one_pow, mul_one]
        exact Residue.toZMod_ofZMod y

/-- Dividing by the powers of `z` gives the canonical affine coordinates back. -/
theorem toPoint_eq {point : JacobianPoint} {A : curve.Point} (h : point.toField.Represents A) :
    point.toPoint = .ofCurve A := by
  cases A with
  | zero =>
      have hz : point.z = .zero := Residue.toZMod_eq_zero.mp h
      rw [toPoint, dif_pos hz]
      rfl
  | some x y hA =>
      obtain ⟨hz, hx, hy⟩ := h
      have hz' : point.z ≠ .zero := fun h => hz (Residue.toZMod_eq_zero.mpr h)
      have hz'' : point.z.toZMod ≠ 0 := hz
      replace hx : point.x.toZMod = x * point.z.toZMod ^ 2 := hx
      replace hy : point.y.toZMod = y * point.z.toZMod ^ 3 := hy
      rw [toPoint, dif_neg hz']
      have hxInv : point.x.modularMultiply (point.z.inverse hz').square = .ofZMod x := by
        apply Residue.toZMod_injective
        rw [Residue.toZMod_modularMultiply, Residue.toZMod_square, Residue.toZMod_inverse, hx, Residue.toZMod_ofZMod]
        field_simp
      have hyInv : (point.y.modularMultiply (point.z.inverse hz').square).modularMultiply (point.z.inverse hz') =
          .ofZMod y := by
        apply Residue.toZMod_injective
        rw [Residue.toZMod_modularMultiply, Residue.toZMod_modularMultiply, Residue.toZMod_square,
          Residue.toZMod_inverse, hy, Residue.toZMod_ofZMod]
        field_simp
      dsimp only
      rw [hxInv, hyInv]
      rfl

end JacobianPoint

namespace P256Point

theorem addPoint_ofCurve (A B : curve.Point) : (ofCurve A).addPoint (ofCurve B) = ofCurve (A + B) := by
  apply JacobianPoint.toPoint_eq
  rw [JacobianPoint.toField_add]
  exact (JacobianPoint.represents_fromPoint A).add two_ne_zero (JacobianPoint.represents_fromPoint B)

theorem double_ofCurve (A : curve.Point) : (ofCurve A).double = ofCurve (A + A) := by
  apply JacobianPoint.toPoint_eq
  rw [JacobianPoint.toField_double]
  exact (JacobianPoint.represents_fromPoint A).double two_ne_zero

theorem coordinates_lt {point : P256Point} {x y : Uint256} (h : point.coordinates = some (x, y)) :
    x.toNat < p256FieldModulus.toNat ∧ y.toNat < p256FieldModulus.toNat := by
  obtain ⟨affine, -, haffine⟩ := Option.map_eq_some_iff.mp h
  obtain ⟨rfl, rfl⟩ := Prod.mk.inj haffine
  exact ⟨affine.x.value_lt, affine.y.value_lt⟩

/-- On points that pass the curve check, `add_point` and `double` are the chord-and-tangent law: the results
are the canonical coordinates of the sums in the curve group, they pass the check again, and the inversion
in `to_point` always finds a `z` that it can invert. -/
theorem addPoint_double_groupLaw (P Q : P256Point) (hP : P.isOnCurve = true) (hQ : Q.isOnCurve = true) :
    P.addPoint Q = ofCurve (P.toCurve hP + Q.toCurve hQ) ∧
      P.double = ofCurve (P.toCurve hP + P.toCurve hP) ∧
      (P.addPoint Q).isOnCurve = true ∧ P.double.isOnCurve = true ∧
      (∀ x y, (P.addPoint Q).coordinates = some (x, y) ∨ P.double.coordinates = some (x, y) →
        x.toNat < p256FieldModulus.toNat ∧ y.toNat < p256FieldModulus.toNat) ∧
      ∀ point : JacobianPoint, point.isIdentity = false → point.z.invert ≠ none := by
  have hsum : P.addPoint Q = ofCurve (P.toCurve hP + Q.toCurve hQ) := by
    rw [← addPoint_ofCurve, ofCurve_toCurve, ofCurve_toCurve]
  have hdouble : P.double = ofCurve (P.toCurve hP + P.toCurve hP) := by
    rw [← double_ofCurve, ofCurve_toCurve]
  refine ⟨hsum, hdouble, hsum ▸ isOnCurve_ofCurve _, hdouble ▸ isOnCurve_ofCurve _, ?_, ?_⟩
  · rintro x y (h | h)
    · exact coordinates_lt h
    · exact coordinates_lt h
  · intro point hpoint
    rw [ne_eq, Residue.invert_eq_none_iff]
    intro hz
    rw [JacobianPoint.isIdentity, hz] at hpoint
    simp at hpoint

theorem addPoint_double_groupLaw_generator :
    generator.addPoint identity = ofCurve (generator.toCurve isOnCurve_generator + 0) ∧
      generator.double.isOnCurve = true := by
  have hlaw := addPoint_double_groupLaw generator identity isOnCurve_generator (isOnCurve_none rfl)
  exact ⟨hlaw.1, hlaw.2.2.2.1⟩

end P256Point

end BareProxy.P256
