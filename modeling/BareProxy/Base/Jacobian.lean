import BareProxy.Base.Limbs
import Mathlib.AlgebraicGeometry.EllipticCurve.Affine.Point
import Mathlib.Tactic.LinearCombination

/-!
# Jacobian coordinates

Triples `(x, y, z)` over a field stand for the affine point `(x / z ^ 2, y / z ^ 3)` of a curve
`y ^ 2 = x ^ 3 - 3 x + b`, and for the identity when `z = 0`. Doubling and addition of triples follow the
group law, including the cases in which the formulas do not apply.
-/

namespace BareProxy

open WeierstrassCurve.Affine (Point)

/-- `y ^ 2 = x ^ 3 - 3 x + b`. -/
def minusThreeCurve {F : Type} [Field F] (b : F) : WeierstrassCurve.Affine F where
  a₁ := 0
  a₂ := 0
  a₃ := 0
  a₄ := -3
  a₆ := b

section Curve

variable {F : Type} [Field F] (b : F)

theorem equation_minusThreeCurve (x y : F) :
    (minusThreeCurve b).Equation x y ↔ y ^ 2 = x ^ 3 + -3 * x + b := by
  rw [WeierstrassCurve.Affine.equation_iff]
  simp [minusThreeCurve]

theorem discriminant_minusThreeCurve : (minusThreeCurve b).Δ = 2 ^ 4 * 3 ^ 3 * ((2 - b) * (2 + b)) := by
  simp only [WeierstrassCurve.Δ, WeierstrassCurve.b₂, WeierstrassCurve.b₄, WeierstrassCurve.b₆, WeierstrassCurve.b₈,
    minusThreeCurve]
  ring

end Curve

@[ext]
structure Jacobian (F : Type) where
  x : F
  y : F
  z : F

namespace Jacobian

section Representation

variable {F : Type} [Field F] {b : F} {P : Jacobian F} {A B : (minusThreeCurve b).Point}

def identity : Jacobian F := ⟨0, 1, 0⟩

/-- The triple stands for the point of the curve. -/
def Represents (P : Jacobian F) : (minusThreeCurve b).Point → Prop
  | .zero => P.z = 0
  | .some x y _ => P.z ≠ 0 ∧ P.x = x * P.z ^ 2 ∧ P.y = y * P.z ^ 3

theorem represents_zero (h : P.z = 0) : P.Represents (0 : (minusThreeCurve b).Point) := h

theorem represents_identity : (identity : Jacobian F).Represents (0 : (minusThreeCurve b).Point) := rfl

theorem negY_minusThreeCurve (x y : F) : (minusThreeCurve b).negY x y = -y := by
  simp [WeierstrassCurve.Affine.negY, minusThreeCurve]

theorem addX_minusThreeCurve (x₁ x₂ slope : F) :
    (minusThreeCurve b).addX x₁ x₂ slope = slope ^ 2 - x₁ - x₂ := by
  simp [WeierstrassCurve.Affine.addX, minusThreeCurve]

theorem addY_minusThreeCurve (x₁ x₂ y₁ slope : F) :
    (minusThreeCurve b).addY x₁ x₂ y₁ slope = -(slope * (slope ^ 2 - x₁ - x₂ - x₁) + y₁) := by
  rw [WeierstrassCurve.Affine.addY, negY_minusThreeCurve, WeierstrassCurve.Affine.negAddY, addX_minusThreeCurve]

/-- A triple stands for one point only. -/
theorem Represents.unique (hA : P.Represents A) (hB : P.Represents B) : A = B := by
  cases A with
  | zero =>
      cases B with
      | zero => rfl
      | some x y h => exact absurd hA hB.1
  | some x y h =>
      cases B with
      | zero => exact absurd hB hA.1
      | some x' y' h' =>
          obtain ⟨hz, hx, hy⟩ := hA
          obtain ⟨-, hx', hy'⟩ := hB
          have hxx : x = x' := mul_right_cancel₀ (pow_ne_zero 2 hz) (hx.symm.trans hx')
          have hyy : y = y' := mul_right_cancel₀ (pow_ne_zero 3 hz) (hy.symm.trans hy')
          subst hxx hyy
          rfl

end Representation

section Law

variable {F : Type} [Field F] [DecidableEq F] {b : F} {P Q : Jacobian F} {A B : (minusThreeCurve b).Point}

def double (P : Jacobian F) : Jacobian F :=
  if P.z = 0 ∨ P.y = 0 then
    identity
  else
    let delta := P.z ^ 2
    let gamma := P.y ^ 2
    let beta := P.x * gamma
    let alpha := 3 * ((P.x - delta) * (P.x + delta))
    let x := alpha ^ 2 - 8 * beta
    ⟨x, alpha * (4 * beta - x) - 8 * gamma ^ 2, (P.y + P.z) ^ 2 - gamma - delta⟩

def add (P Q : Jacobian F) : Jacobian F :=
  if P.z = 0 then
    Q
  else if Q.z = 0 then
    P
  else
    let u₁ := P.x * Q.z ^ 2
    let u₂ := Q.x * P.z ^ 2
    let s₁ := P.y * Q.z * Q.z ^ 2
    let s₂ := Q.y * P.z * P.z ^ 2
    if u₁ = u₂ then
      if s₁ ≠ s₂ then identity else P.double
    else
      let h := u₂ - u₁
      let i := (2 * h) ^ 2
      let j := h * i
      let r := 2 * (s₂ - s₁)
      let v := u₁ * i
      let x := r ^ 2 - j - 2 * v
      ⟨x, r * (v - x) - 2 * (s₁ * j), ((P.z + Q.z) ^ 2 - P.z ^ 2 - Q.z ^ 2) * h⟩

/-- Double and add, over the lowest `bits` bits of the factor from the top down. -/
def multiply (P : Jacobian F) (factor bits : Nat) : Jacobian F :=
  (List.range bits).reverse.foldl (fun result index =>
    if factor.testBit index then result.double.add P else result.double) identity

theorem Represents.double (htwo : (2 : F) ≠ 0) (hP : P.Represents A) : P.double.Represents (A + A) := by
  cases A with
  | zero =>
      have hz : P.z = 0 := hP
      rw [Jacobian.double, if_pos (Or.inl hz)]
      exact represents_identity
  | some x y h =>
      obtain ⟨hz, hx, hy⟩ := hP
      by_cases hzero : y = 0
      · -- a point of order two
        have hneg : y = (minusThreeCurve b).negY x y := by rw [negY_minusThreeCurve, hzero, neg_zero]
        rw [Point.add_self_of_Y_eq hneg, Jacobian.double, if_pos (Or.inr (by rw [hy, hzero, zero_mul]))]
        exact represents_identity
      · have hneg : y ≠ (minusThreeCurve b).negY x y := by
          rw [negY_minusThreeCurve, ne_eq, eq_neg_iff_add_eq_zero, ← two_mul]
          exact mul_ne_zero htwo hzero
        have hcase : ¬(P.z = 0 ∨ P.y = 0) := by
          rw [hy, not_or]
          exact ⟨hz, mul_ne_zero hzero (pow_ne_zero 3 hz)⟩
        rw [Point.add_self_of_Y_ne hneg, Jacobian.double, if_neg hcase]
        -- the tangent, cleared of its denominator
        obtain ⟨slope, hslope⟩ : ∃ slope, (minusThreeCurve b).slope x x y y = slope := ⟨_, rfl⟩
        have htangent : 3 * x ^ 2 - 3 = 2 * y * slope := by
          have hden : y - -y ≠ 0 := by rw [sub_neg_eq_add, ← two_mul]; exact mul_ne_zero htwo hzero
          rw [WeierstrassCurve.Affine.slope_of_Y_ne rfl hneg, negY_minusThreeCurve, div_eq_iff hden] at hslope
          simp only [minusThreeCurve] at hslope
          linear_combination hslope
        have halpha : 3 * ((P.x - P.z ^ 2) * (P.x + P.z ^ 2)) = 2 * y * slope * P.z ^ 4 := by
          rw [← htangent, hx]
          ring
        have hthird : (P.y + P.z) ^ 2 - P.y ^ 2 - P.z ^ 2 = 2 * y * P.z ^ 4 := by
          rw [hy]
          ring
        refine ⟨?_, ?_, ?_⟩
        · dsimp only
          rw [hthird]
          exact mul_ne_zero (mul_ne_zero htwo hzero) (pow_ne_zero 4 hz)
        · dsimp only
          rw [hthird, halpha, hslope, addX_minusThreeCurve, hx, hy]
          ring
        · dsimp only
          rw [hthird, halpha, hslope, addY_minusThreeCurve, hx, hy]
          ring

theorem Represents.add (htwo : (2 : F) ≠ 0) (hP : P.Represents A) (hQ : Q.Represents B) :
    (P.add Q).Represents (A + B) := by
  cases A with
  | zero =>
      have hz : P.z = 0 := hP
      rw [Jacobian.add, if_pos hz]
      exact (zero_add B).symm ▸ hQ
  | some x₁ y₁ h₁ =>
      cases B with
      | zero =>
          have hz : Q.z = 0 := hQ
          rw [Jacobian.add, if_neg hP.1, if_pos hz]
          exact (add_zero (Point.some x₁ y₁ h₁)).symm ▸ hP
      | some x₂ y₂ h₂ =>
          obtain ⟨hz₁, hx₁, hy₁⟩ := id hP
          obtain ⟨hz₂, hx₂, hy₂⟩ := id hQ
          have hw : P.z * Q.z ≠ 0 := mul_ne_zero hz₁ hz₂
          have hu₁ : P.x * Q.z ^ 2 = x₁ * (P.z * Q.z) ^ 2 := by rw [hx₁]; ring
          have hu₂ : Q.x * P.z ^ 2 = x₂ * (P.z * Q.z) ^ 2 := by rw [hx₂]; ring
          have hs₁ : P.y * Q.z * Q.z ^ 2 = y₁ * (P.z * Q.z) ^ 3 := by rw [hy₁]; ring
          have hs₂ : Q.y * P.z * P.z ^ 2 = y₂ * (P.z * Q.z) ^ 3 := by rw [hy₂]; ring
          have hu : x₁ * (P.z * Q.z) ^ 2 = x₂ * (P.z * Q.z) ^ 2 ↔ x₁ = x₂ := mul_left_inj' (pow_ne_zero 2 hw)
          have hs : y₁ * (P.z * Q.z) ^ 3 = y₂ * (P.z * Q.z) ^ 3 ↔ y₁ = y₂ := mul_left_inj' (pow_ne_zero 3 hw)
          rw [Jacobian.add, if_neg hz₁, if_neg hz₂]
          simp only [hu₁, hu₂, hs₁, hs₂, hu, hs, ne_eq]
          by_cases hx : x₁ = x₂
          · rw [if_pos hx]
            by_cases hy : y₁ = y₂
            · -- the same point
              subst hx hy
              rw [if_neg (not_not_intro rfl)]
              exact hP.double htwo
            · -- opposite points
              rw [if_pos hy, Point.add_of_Y_eq hx
                ((WeierstrassCurve.Affine.Y_eq_of_X_eq h₁.1 h₂.1 hx).resolve_left hy)]
              exact represents_identity
          · rw [if_neg hx, Point.add_of_X_ne hx]
            have hdx : x₂ - x₁ ≠ 0 := sub_ne_zero.mpr (Ne.symm hx)
            -- the chord, cleared of its denominator
            obtain ⟨slope, hslope⟩ : ∃ slope, (minusThreeCurve b).slope x₁ x₂ y₁ y₂ = slope := ⟨_, rfl⟩
            have hchord : y₂ = y₁ + slope * (x₂ - x₁) := by
              have hden : x₁ - x₂ ≠ 0 := sub_ne_zero.mpr hx
              rw [WeierstrassCurve.Affine.slope_of_X_ne hx, div_eq_iff hden] at hslope
              linear_combination -hslope
            have hthird : ((P.z + Q.z) ^ 2 - P.z ^ 2 - Q.z ^ 2) *
                (x₂ * (P.z * Q.z) ^ 2 - x₁ * (P.z * Q.z) ^ 2) = 2 * (x₂ - x₁) * (P.z * Q.z) ^ 3 := by ring
            refine ⟨?_, ?_, ?_⟩
            · dsimp only
              rw [hthird]
              exact mul_ne_zero (mul_ne_zero htwo hdx) (pow_ne_zero 3 hw)
            · dsimp only
              rw [hthird, hslope, addX_minusThreeCurve, hchord]
              ring
            · dsimp only
              rw [hthird, hslope, addY_minusThreeCurve, hchord]
              ring

theorem Represents.multiply (htwo : (2 : F) ≠ 0) (hP : P.Represents A) {factor bits : Nat}
    (h : factor < 2 ^ bits) : (P.multiply factor bits).Represents (factor • A) := by
  apply foldl_bits_invariant (fun bits (result : Jacobian F) => result.Represents (bits • A))
  · intro result index hresult
    have hdouble := hresult.double htwo
    rw [← two_nsmul, ← mul_nsmul'] at hdouble
    cases factor.testBit index with
    | false => simpa using hdouble
    | true =>
        rw [if_pos rfl, Bool.toNat_true, add_nsmul, one_nsmul]
        exact hdouble.add htwo hP
  · rw [Nat.div_eq_of_lt h, zero_nsmul]
    exact represents_identity

end Law

end Jacobian

end BareProxy
