import BareProxy.Base.Jacobian
import BareProxy.Base.Limbs
import Mathlib.FieldTheory.Finite.Basic
import Mathlib.GroupTheory.Perm.Cycle.Type

/-!
# The order of a curve group

A curve over a field of `q` elements has at most `2 q + 2` points. So a point of prime order `n` with
`2 q + 2 < 3 n` generates all of them, unless there is a point of order two, which is a root of the cubic. That
the cubic has no root is certified by an inverse of `x ^ q - x` modulo the cubic, which the kernel can check.
-/

namespace BareProxy

open WeierstrassCurve.Affine (Point)

/-! ### Remainders modulo a cubic -/

/-- `c₀ + c₁ x + c₂ x ^ 2`. -/
@[ext]
structure CubicRemainder (F : Type) where
  c₀ : F
  c₁ : F
  c₂ : F
  deriving DecidableEq

namespace CubicRemainder

variable {F : Type} [Field F]

def eval (p : CubicRemainder F) (x : F) : F := p.c₀ + p.c₁ * x + p.c₂ * x ^ 2

/-- `x ^ n - x` from `x ^ n`. -/
def subtractX (p : CubicRemainder F) : CubicRemainder F := ⟨p.c₀, p.c₁ - 1, p.c₂⟩

/-- The product, with `x ^ 3` replaced by `s x + t`. -/
def multiply (s t : F) (p q : CubicRemainder F) : CubicRemainder F :=
  let cube := p.c₁ * q.c₂ + p.c₂ * q.c₁
  let fourth := p.c₂ * q.c₂
  ⟨p.c₀ * q.c₀ + t * cube, p.c₀ * q.c₁ + p.c₁ * q.c₀ + s * cube + t * fourth,
    p.c₀ * q.c₂ + p.c₁ * q.c₁ + p.c₂ * q.c₀ + s * fourth⟩

/-- The power of `x`, over the lowest `bits` bits of the exponent from the top down. -/
def power (s t : F) (exponent bits : Nat) : CubicRemainder F :=
  (List.range bits).reverse.foldl (fun result index =>
    let square := multiply s t result result
    if exponent.testBit index then multiply s t square ⟨0, 1, 0⟩ else square) ⟨1, 0, 0⟩

variable {s t x : F}

theorem eval_multiply (hx : x ^ 3 = s * x + t) (p q : CubicRemainder F) :
    (multiply s t p q).eval x = p.eval x * q.eval x := by
  simp only [eval, multiply]
  linear_combination -(p.c₁ * q.c₂ + p.c₂ * q.c₁ + p.c₂ * q.c₂ * x) * hx

theorem eval_power (hx : x ^ 3 = s * x + t) {exponent bits : Nat} (h : exponent < 2 ^ bits) :
    (power s t exponent bits).eval x = x ^ exponent := by
  apply foldl_bits_invariant fun bits (result : CubicRemainder F) => result.eval x = x ^ bits
  · intro result index hresult
    have hsquare : (multiply s t result result).eval x = x ^ (2 * (exponent / 2 ^ (index + 1))) := by
      rw [eval_multiply hx, hresult, ← pow_add, ← two_mul]
    have hlinear : (⟨0, 1, 0⟩ : CubicRemainder F).eval x = x := by simp [eval]
    cases exponent.testBit index with
    | false => simpa using hsquare
    | true =>
        rw [if_pos rfl, Bool.toNat_true, pow_succ, eval_multiply hx, hsquare, hlinear]
  · rw [Nat.div_eq_of_lt h, pow_zero]
    simp [eval]

/-- The inverse of `x ^ q - x` modulo the cubic shows that the cubic has no root in the field of `q` elements. -/
theorem no_root [Fintype F] {bits : Nat} {inverse : CubicRemainder F} (hbits : Fintype.card F < 2 ^ bits)
    (h : multiply s t (power s t (Fintype.card F) bits).subtractX inverse = ⟨1, 0, 0⟩) (x : F) :
    x ^ 3 ≠ s * x + t := by
  intro hx
  have hroot : (power s t (Fintype.card F) bits).subtractX.eval x = 0 := by
    have hpower := eval_power hx hbits
    rw [FiniteField.pow_card, eval] at hpower
    rw [subtractX, eval]
    linear_combination hpower
  have hone := eval_multiply hx (power s t (Fintype.card F) bits).subtractX inverse
  rw [h, hroot, zero_mul] at hone
  simp [eval] at hone

end CubicRemainder

/-! ### Points -/

section Points

variable {F : Type} [Field F] {W : WeierstrassCurve.Affine F}

/-- The x-coordinate, and nothing for the identity. -/
def pointX : W.Point → Option F
  | .zero => none
  | .some x _ _ => some x

/-- A point shares its x-coordinate with its negative only. -/
theorem pointX_eq_iff {P Q : W.Point} : pointX P = pointX Q ↔ P = Q ∨ P = -Q := by
  cases P with
  | zero =>
      cases Q with
      | zero => exact iff_of_true rfl (Or.inl rfl)
      | some x y h =>
          refine iff_of_false (fun hx => by cases hx) ?_
          rintro (heq | heq)
          · cases heq
          · cases heq
  | some x y h =>
      cases Q with
      | zero =>
          refine iff_of_false (fun hx => by cases hx) ?_
          rintro (heq | heq)
          · cases heq
          · cases heq
      | some x' y' h' =>
          rw [pointX, pointX, Option.some.injEq]
          exact WeierstrassCurve.Affine.Point.X_eq_iff

instance finite_point [Finite F] : Finite W.Point := by
  apply Finite.of_injective fun P : W.Point => match P with
    | .zero => none
    | .some x y _ => some (x, y)
  intro P Q h
  cases P with
  | zero =>
      cases Q with
      | zero => rfl
      | some x y hQ => cases h
  | some x y hP =>
      cases Q with
      | zero => cases h
      | some x' y' hQ =>
          cases h
          rfl

theorem card_point_le [Finite F] : Nat.card W.Point ≤ 2 * (Nat.card F + 1) := by
  classical
  have := Fintype.ofFinite F
  have := Fintype.ofFinite W.Point
  rw [Nat.card_eq_fintype_card, Nat.card_eq_fintype_card, ← Fintype.card_option, ← Finset.card_univ,
    ← Finset.card_univ]
  have hfibre : ∀ x ∈ (Finset.univ : Finset (Option F)), (Finset.univ.filter fun P : W.Point => pointX P = x).card ≤ 2 := by
    intro x _
    by_cases hempty : ∃ Q : W.Point, pointX Q = x
    · obtain ⟨Q, rfl⟩ := hempty
      calc (Finset.univ.filter fun P : W.Point => pointX P = pointX Q).card
          ≤ ({Q, -Q} : Finset W.Point).card := by
            apply Finset.card_le_card
            intro P hP
            rw [Finset.mem_filter] at hP
            simpa using pointX_eq_iff.1 hP.2
        _ ≤ 2 := Finset.card_le_two
    · have hnone : (Finset.univ.filter fun P : W.Point => pointX P = x) = ∅ :=
        Finset.filter_eq_empty_iff.2 fun P _ hP => hempty ⟨P, hP⟩
      rw [hnone, Finset.card_empty]
      exact Nat.zero_le 2
  exact Finset.card_le_mul_card_image_of_maps_to (fun _ _ => Finset.mem_univ _) 2 hfibre

end Points

/-! ### Groups of prime order -/

section Order

variable {A : Type} [AddCommGroup A] [Finite A] {G : A}

/-- Without elements of order two, an element of order `n` leaves no room below `3 n` for more than its multiples. -/
theorem card_eq_addOrderOf (hsize : Nat.card A < 3 * addOrderOf G) (htwo : ∀ P : A, P + P = 0 → P = 0) :
    Nat.card A = addOrderOf G := by
  obtain ⟨index, hindex⟩ := addOrderOf_dvd_natCard G
  have hpos : 0 < Nat.card A := Nat.card_pos
  have hsmall : index = 1 ∨ index = 2 := by
    have hlt : index < 3 := by
      rw [hindex, Nat.mul_comm] at hsize
      exact Nat.lt_of_mul_lt_mul_right hsize
    have hne : index ≠ 0 := by
      rintro rfl
      omega
    omega
  rcases hsmall with rfl | rfl
  · rw [hindex, Nat.mul_one]
  · -- an even group has an element of order two
    obtain ⟨P, hP⟩ := exists_prime_addOrderOf_dvd_card' 2 (show 2 ∣ Nat.card A from hindex ▸ Nat.dvd_mul_left 2 _)
    have hzero : P = 0 := htwo P (by rw [← two_nsmul, ← hP, addOrderOf_nsmul_eq_zero])
    rw [hzero, addOrderOf_zero] at hP
    cases hP

/-- Then the element generates the group. -/
theorem exists_nsmul_of_card (h : Nat.card A = addOrderOf G) (P : A) : ∃ k < addOrderOf G, k • G = P := by
  have hmem : P ∈ AddSubmonoid.multiples G := by
    rw [mem_multiples_iff_mem_zmultiples, AddSubgroup.eq_top_of_card_eq (AddSubgroup.zmultiples G)
      ((Nat.card_zmultiples G).trans h.symm)]
    exact AddSubgroup.mem_top P
  obtain ⟨k, hk⟩ := (AddSubmonoid.mem_multiples_iff P G).1 hmem
  refine ⟨k % addOrderOf G, Nat.mod_lt _ (addOrderOf_pos G), ?_⟩
  rw [mod_addOrderOf_nsmul]
  exact hk

end Order

end BareProxy
