import BareProxy.P256.Curve

/-!
# Multiples of a point

Double-and-add on limbs is multiplication in the curve group, and the generator has the prime order of
`P256_GROUP_ORDER`. Diffie-Hellman agreement and the SEC 1 round trip follow.
-/

namespace BareProxy.P256

namespace JacobianPoint

theorem toField_multiply (addend : JacobianPoint) (scalar : Uint256) :
    ((List.range 256).reverse.foldl (P256Point.multiplyStep addend scalar) identity).toField =
      addend.toField.multiply scalar.toNat 256 := by
  rw [Jacobian.multiply, ← toField_identity]
  generalize (List.range 256).reverse = indices
  generalize identity = result
  induction indices generalizing result with
  | nil => rfl
  | cons index indices ih =>
      have hstep : (P256Point.multiplyStep addend scalar result index).toField =
          if scalar.toNat.testBit index then result.toField.double.add addend.toField else result.toField.double := by
        rw [P256Point.multiplyStep, Uint256.bit_eq_testBit]
        cases scalar.toNat.testBit index with
        | false => exact toField_double result
        | true =>
            rw [if_pos rfl, if_pos rfl, toField_add, toField_double]
      rw [List.foldl_cons, List.foldl_cons, ← hstep, ih]

theorem represents_multiply (A : curve.Point) (scalar : Uint256) :
    ((fromPoint (.ofCurve A)).toField.multiply scalar.toNat 256).Represents (scalar.toNat • A) :=
  (represents_fromPoint A).multiply two_ne_zero scalar.toNat_lt

/-- A double-and-add chain that ends in the identity. -/
theorem nsmul_eq_zero {A : curve.Point} {scalar : Uint256}
    (h : ((fromPoint (.ofCurve A)).toField.multiply scalar.toNat 256).z = 0) : scalar.toNat • A = 0 :=
  (represents_multiply A scalar).unique (Jacobian.represents_zero h)

end JacobianPoint

namespace P256Point

theorem multiplyUint_ofCurve (A : curve.Point) (scalar : Uint256) :
    (ofCurve A).multiplyUint scalar = ofCurve (scalar.toNat • A) := by
  apply JacobianPoint.toPoint_eq
  rw [JacobianPoint.toField_multiply]
  exact JacobianPoint.represents_multiply A scalar

theorem multiply_ofCurve (A : curve.Point) (scalar : Scalar) :
    (ofCurve A).multiply scalar = ofCurve (scalar.value.toNat • A) := multiplyUint_ofCurve A scalar.value

/-! ### The generator -/

/-- The generator as an element of the curve group. -/
def base : curve.Point := generator.toCurve isOnCurve_generator

theorem ofCurve_base : ofCurve base = generator := ofCurve_toCurve _ _

/-- The double-and-add chain for the group order, run on field elements. -/
theorem multiply_groupOrder :
    ((JacobianPoint.fromPoint generator).toField.multiply p256GroupOrder.toNat 256).z = 0 := by
  decide +kernel

theorem groupOrder_nsmul_base : p256GroupOrder.toNat • base = 0 := by
  apply JacobianPoint.nsmul_eq_zero
  rw [ofCurve_base]
  exact multiply_groupOrder

theorem addOrderOf_base : addOrderOf base = p256GroupOrder.toNat :=
  addOrderOf_eq_prime groupOrder_nsmul_base (WeierstrassCurve.Affine.Point.some_ne_zero _)

/-- Multiples of the generator vanish exactly at the multiples of the group order. -/
theorem nsmul_base_eq_zero_iff (n : Nat) : n • base = 0 ↔ p256GroupOrder.toNat ∣ n := by
  rw [← addOrderOf_base, addOrderOf_dvd_iff_nsmul_eq_zero]

theorem nsmul_base_eq_iff (n m : Nat) : n • base = m • base ↔ (n : ZMod p256GroupOrder.toNat) = m := by
  rw [ZMod.natCast_eq_natCast_iff, ← addOrderOf_base, nsmul_eq_nsmul_iff_modEq]

end P256Point

theorem p256GeneratorMultiply_eq (scalar : Scalar) :
    p256GeneratorMultiply scalar = .ofCurve (scalar.value.toNat • P256Point.base) := by
  rw [p256GeneratorMultiply, ← P256Point.ofCurve_base, P256Point.multiply_ofCurve]

namespace P256Point

theorem affine_ofCurve_ne_none {A : curve.Point} (h : A ≠ 0) : ∃ affine, (ofCurve A).affine = some affine := by
  cases A with
  | zero => exact absurd rfl h
  | some x y hA => exact ⟨_, rfl⟩

/-! ### SEC 1 encoding -/

theorem fromCoordinates_value {point : P256Point} {affine : AffinePoint} (haffine : point.affine = some affine)
    (h : point.isOnCurve = true) : fromCoordinates affine.x.value affine.y.value = .ok point := by
  obtain ⟨_⟩ := point
  cases haffine
  have hx : affine.x.value.cmp p256FieldModulus = .lt := Uint256.cmp_eq_lt.mpr affine.x.value_lt
  have hy : affine.y.value.cmp p256FieldModulus = .lt := Uint256.cmp_eq_lt.mpr affine.y.value_lt
  rw [fromCoordinates, dif_neg (by simp [hx, hy])]
  exact if_neg (by simp [h])

/-- The bytes of a pair of coordinates are read as that pair. -/
theorem fromSec1Uncompressed_coordinates (x y : Uint256) :
    fromSec1Uncompressed (0x04 :: (x.toBeBytes.toList ++ y.toBeBytes.toList)) = fromCoordinates x y := by
  rw [fromSec1Uncompressed, dif_neg (by simp), if_neg (by simp)]
  have hx : ((0x04 :: (x.toBeBytes.toList ++ y.toBeBytes.toList)).drop 1).take 32 = x.toBeBytes.toList :=
    List.take_left' (by simp)
  have hy : ((0x04 :: (x.toBeBytes.toList ++ y.toBeBytes.toList)).drop 33).take 32 = y.toBeBytes.toList := by
    rw [List.drop_succ_cons, List.drop_left' (by simp), List.take_of_length_le (by simp)]
  dsimp only
  rw [arrayOf_eq hx, arrayOf_eq hy, Uint256.fromBeBytes_toBeBytes, Uint256.fromBeBytes_toBeBytes]

/-- An encoded point of the curve is read back. -/
theorem fromSec1Uncompressed_toSec1Uncompressed {point : P256Point} {affine : AffinePoint}
    (haffine : point.affine = some affine) (h : point.isOnCurve = true) :
    ∃ encoded, point.toSec1Uncompressed = .ok encoded ∧ fromSec1Uncompressed encoded.toList = .ok point := by
  rw [toSec1Uncompressed, haffine]
  refine ⟨_, rfl, ?_⟩
  rw [toList_arrayOf, fromSec1Uncompressed_coordinates, fromCoordinates_value haffine h]

theorem fromCoordinates_ok {x y : Uint256} {point : P256Point} (h : fromCoordinates x y = .ok point) :
    ∃ affine, point.affine = some affine ∧ affine.x.value = x ∧ affine.y.value = y := by
  rw [fromCoordinates] at h
  split at h
  · cases h
  · dsimp only at h
    split at h
    · cases h
    · have hpoint := Except.ok.inj h
      subst hpoint
      exact ⟨_, rfl, rfl, rfl⟩

/-- A point has one encoding, the one it was read from. -/
theorem toSec1Uncompressed_of_fromSec1Uncompressed {encoded : Bytes} {point : P256Point}
    (h : fromSec1Uncompressed encoded = .ok point) :
    ∃ array, point.toSec1Uncompressed = .ok array ∧ array.toList = encoded := by
  rw [fromSec1Uncompressed] at h
  split at h
  · cases h
  · rename_i hlength
    rw [not_not] at hlength
    split at h
    · cases h
    · rename_i hfirst
      obtain ⟨affine, haffine, hx, hy⟩ := fromCoordinates_ok h
      obtain ⟨first, others, rfl⟩ := List.exists_cons_of_ne_nil (List.ne_nil_of_length_eq_add_one hlength)
      have hmarker : first = 0x04 := by simpa using hfirst
      have hothers : others.length = 64 := by simpa using hlength
      rw [toSec1Uncompressed, haffine]
      refine ⟨_, rfl, ?_⟩
      rw [toList_arrayOf, hx, hy, Uint256.toBeBytes_fromBeBytes, Uint256.toBeBytes_fromBeBytes, toList_arrayOf,
        toList_arrayOf, List.drop_succ_cons, List.drop_zero, List.drop_succ_cons, hmarker]
      have hrest : (others.drop 32).take 32 = others.drop 32 := by
        rw [List.take_of_length_le]
        rw [List.length_drop]
        omega
      rw [hrest, List.take_append_drop]

end P256Point

/-! ### Diffie-Hellman -/

theorem value_ne_zero {scalar : Scalar} (h : scalar ≠ .zero) : ¬p256GroupOrder.toNat ∣ scalar.value.toNat := by
  intro hdvd
  apply h
  rw [← Residue.toZMod_eq_zero]
  exact (ZMod.natCast_eq_zero_iff _ _).mpr hdvd

theorem nsmul_base_ne_zero {scalar : Scalar} (h : scalar ≠ .zero) : scalar.value.toNat • P256Point.base ≠ 0 := by
  rw [ne_eq, P256Point.nsmul_base_eq_zero_iff]
  exact value_ne_zero h

/-- The secret is the x-coordinate of the multiple by both scalars. -/
theorem p256Ecdh_generatorMultiply {a b : Scalar} (ha : a ≠ .zero) (hb : b ≠ .zero) :
    ∃ affine, (P256Point.ofCurve ((a.value.toNat * b.value.toNat) • P256Point.base)).affine = some affine ∧
      p256Ecdh a (p256GeneratorMultiply b) = .ok affine.x.value.toBeBytes := by
  have hproduct : (a.value.toNat * b.value.toNat) • P256Point.base ≠ 0 := by
    rw [ne_eq, P256Point.nsmul_base_eq_zero_iff, (Fact.out : p256GroupOrder.toNat.Prime).dvd_mul]
    exact not_or.mpr ⟨value_ne_zero ha, value_ne_zero hb⟩
  obtain ⟨peer, hpeer⟩ := P256Point.affine_ofCurve_ne_none (nsmul_base_ne_zero hb)
  obtain ⟨affine, haffine⟩ := P256Point.affine_ofCurve_ne_none hproduct
  have hmultiply : (p256GeneratorMultiply b).multiply a =
      .ofCurve ((a.value.toNat * b.value.toNat) • P256Point.base) := by
    rw [p256GeneratorMultiply_eq, P256Point.multiply_ofCurve, mul_nsmul']
  refine ⟨affine, haffine, ?_⟩
  rw [p256Ecdh, if_neg ha, if_neg (by simp [p256GeneratorMultiply_eq, P256Point.isIdentity, hpeer]), hmultiply,
    P256Point.coordinates, haffine]
  rfl

/-- The public key of a nonzero scalar survives its encoding. -/
theorem fromSec1Uncompressed_generatorMultiply {scalar : Scalar} (h : scalar ≠ .zero) :
    ∃ encoded, (p256GeneratorMultiply scalar).toSec1Uncompressed = .ok encoded ∧
      P256Point.fromSec1Uncompressed encoded.toList = .ok (p256GeneratorMultiply scalar) := by
  obtain ⟨affine, haffine⟩ := P256Point.affine_ofCurve_ne_none (nsmul_base_ne_zero h)
  rw [p256GeneratorMultiply_eq]
  exact P256Point.fromSec1Uncompressed_toSec1Uncompressed haffine (P256Point.isOnCurve_ofCurve _)

/-- Both sides multiply the generator by the same product. -/
theorem p256Ecdh_comm {a b : Scalar} (ha : a ≠ .zero) (hb : b ≠ .zero) :
    ∃ secret, p256Ecdh a (p256GeneratorMultiply b) = .ok secret ∧
      p256Ecdh b (p256GeneratorMultiply a) = .ok secret := by
  obtain ⟨affine, haffine, hsecret⟩ := p256Ecdh_generatorMultiply ha hb
  obtain ⟨affine', haffine', hsecret'⟩ := p256Ecdh_generatorMultiply hb ha
  have hsame : affine' = affine := by
    rw [Nat.mul_comm, haffine] at haffine'
    exact (Option.some.inj haffine').symm
  rw [hsame] at hsecret'
  exact ⟨_, hsecret, hsecret'⟩

/-- Both sides derive the same secret, from the public points themselves and from their encodings. -/
theorem p256Ecdh_agreement (a b : Scalar) (ha : a ≠ .zero) (hb : b ≠ .zero) :
    ∃ secret, p256Ecdh a (p256GeneratorMultiply b) = .ok secret ∧
      p256Ecdh b (p256GeneratorMultiply a) = .ok secret ∧
      ∃ encodedA encodedB pointA pointB,
        (p256GeneratorMultiply a).toSec1Uncompressed = .ok encodedA ∧
        (p256GeneratorMultiply b).toSec1Uncompressed = .ok encodedB ∧
        P256Point.fromSec1Uncompressed encodedA.toList = .ok pointA ∧
        P256Point.fromSec1Uncompressed encodedB.toList = .ok pointB ∧
        p256Ecdh a pointB = .ok secret ∧ p256Ecdh b pointA = .ok secret := by
  obtain ⟨secret, hsecret, hsecret'⟩ := p256Ecdh_comm ha hb
  obtain ⟨encodedA, hencodedA, hdecodedA⟩ := fromSec1Uncompressed_generatorMultiply ha
  obtain ⟨encodedB, hencodedB, hdecodedB⟩ := fromSec1Uncompressed_generatorMultiply hb
  exact ⟨_, hsecret, hsecret', encodedA, encodedB, _, _, hencodedA, hencodedB, hdecodedA, hdecodedB, hsecret, hsecret'⟩

theorem p256Ecdh_agreement_one_two :
    ∃ secret, p256Ecdh .one (p256GeneratorMultiply (.new (.fromLimbs 2 0 0 0))) = .ok secret := by
  obtain ⟨secret, hsecret, -⟩ := p256Ecdh_agreement .one (.new (.fromLimbs 2 0 0 0)) (by decide) (by
    rw [ne_eq, ← Residue.toZMod_eq_zero, Residue.toZMod_new, ZMod.natCast_eq_zero_iff]
    exact Nat.not_dvd_of_pos_of_lt (by decide) (by decide))
  exact ⟨secret, hsecret⟩

/-! ### Scalar multiplication -/

namespace P256Point

/-- A point added to the identity this many times. -/
def addTimes (point : P256Point) : Nat → P256Point
  | 0 => identity
  | count + 1 => (point.addTimes count).addPoint point

theorem addTimes_ofCurve (A : curve.Point) (count : Nat) : (ofCurve A).addTimes count = ofCurve (count • A) := by
  induction count with
  | zero =>
      rw [zero_nsmul]
      rfl
  | succ count ih => rw [addTimes, ih, addPoint_ofCurve, succ_nsmul]

theorem addTimes_eq {point : P256Point} (h : point.isOnCurve = true) (count : Nat) :
    point.addTimes count = ofCurve (count • point.toCurve h) := by
  rw [← addTimes_ofCurve, ofCurve_toCurve]

theorem multiplyUint_eq {point : P256Point} (h : point.isOnCurve = true) (scalar : Uint256) :
    point.multiplyUint scalar = ofCurve (scalar.toNat • point.toCurve h) := by
  rw [← multiplyUint_ofCurve, ofCurve_toCurve]

/-- Double-and-add is repeated addition, so factors add and multiply as integers; and the generator comes back to the
identity at the multiples of the group order and nowhere else. -/
theorem multiplyUint_addTimes :
    (∀ (point : P256Point) (h : point.isOnCurve = true) (k : Uint256),
      point.multiplyUint k = ofCurve (k.toNat • point.toCurve h) ∧ point.multiplyUint k = point.addTimes k.toNat ∧
        (point.multiplyUint k).isOnCurve = true ∧ (k = .zero → point.multiplyUint k = identity)) ∧
    (∀ point : P256Point, point.isOnCurve = true → ∀ k l : Uint256,
      (point.multiplyUint k).addPoint (point.multiplyUint l) = point.addTimes (k.toNat + l.toNat) ∧
        (point.multiplyUint k).multiplyUint l = point.addTimes (k.toNat * l.toNat)) ∧
    (∀ point : P256Point, point.isOnCurve = true → ∀ a b : Scalar,
      (point.multiply a).addPoint (point.multiply b) = point.addTimes (a.value.toNat + b.value.toNat) ∧
        (point.multiply a).multiply b = point.addTimes (a.value.toNat * b.value.toNat)) ∧
    (∀ k : Uint256, generator.multiplyUint k = identity ↔ p256GroupOrder.toNat ∣ k.toNat) := by
  have hlaws : ∀ point : P256Point, point.isOnCurve = true → ∀ k l : Uint256,
      (point.multiplyUint k).addPoint (point.multiplyUint l) = point.addTimes (k.toNat + l.toNat) ∧
        (point.multiplyUint k).multiplyUint l = point.addTimes (k.toNat * l.toNat) := by
    intro point h k l
    rw [multiplyUint_eq h, multiplyUint_eq h, addPoint_ofCurve, multiplyUint_ofCurve, addTimes_eq h, addTimes_eq h,
      add_nsmul, ← mul_nsmul]
    exact ⟨rfl, rfl⟩
  refine ⟨?_, hlaws, fun point h a b => hlaws point h a.value b.value, ?_⟩
  · intro point h k
    have hk := multiplyUint_eq h k
    refine ⟨hk, hk.trans (addTimes_eq h _).symm, hk ▸ isOnCurve_ofCurve _, ?_⟩
    rintro rfl
    rw [hk, Uint256.toNat_zero, zero_nsmul]
    rfl
  · intro k
    rw [← ofCurve_base, multiplyUint_ofCurve, ← nsmul_base_eq_zero_iff]
    exact ofCurve_injective.eq_iff (b := 0)

/-- Five times the generator as a double and a triple. -/
theorem multiplyUint_addTimes_generator :
    (generator.multiplyUint (.fromLimbs 2 0 0 0)).addPoint (generator.multiplyUint (.fromLimbs 3 0 0 0)) =
      generator.addTimes 5 :=
  (multiplyUint_addTimes.2.1 generator isOnCurve_generator (.fromLimbs 2 0 0 0) (.fromLimbs 3 0 0 0)).1

end P256Point

end BareProxy.P256
