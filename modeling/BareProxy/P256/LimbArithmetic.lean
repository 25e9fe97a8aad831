import BareProxy.Base.Run
import BareProxy.P256.Uint256

/-!
# Exact arithmetic on limbs

The assertions of `p256.rs` as checks that can fail: `none` is where `assert!` or `debug_assert!` would stop the
program. None of them does, and every operation is exact.
-/

namespace BareProxy.P256

def shiftFiveLimbsLeftOneAsserted (limbs : FiveLimbs) : Option FiveLimbs :=
  let (shifted, carry) := shiftLeftOne limbs 0
  if carry = 0 then some shifted else none

def subtractFiveLimbsAsserted (left right : FiveLimbs) : Option FiveLimbs :=
  let (difference, borrow) := subLimbs left right false
  if borrow then none else some difference

def reduceStepAsserted (value : WideUint512) (modulus remainder : FiveLimbs) (bitIndex : Nat) : Option FiveLimbs := do
  let remainder ← shiftFiveLimbsLeftOneAsserted remainder
  let remainder := if value.bit bitIndex then setLowBit remainder else remainder
  if compareFiveLimbs remainder modulus ≠ .lt then subtractFiveLimbsAsserted remainder modulus else some remainder

def reduceWideAsserted (value : WideUint512) (modulus : Uint256) : Option (List UInt64) := do
  let remainder ← (List.range 512).reverse.foldlM (reduceStepAsserted value (modulus.limbs ++ [0])) [0, 0, 0, 0, 0]
  if remainder.getD 4 0 = 0 then some (remainder.take 4) else none

/-! ### The assertions hold -/

/-- What the loop keeps. -/
structure IsRemainder (modulus : Uint256) (remainder : FiveLimbs) : Prop where
  length : remainder.length = 5
  lt : limbsToNat remainder < modulus.toNat

section Modulus

variable {value : WideUint512} {modulus : Uint256} {remainder : FiveLimbs}

theorem length_fiveLimbs (modulus : Uint256) : (modulus.limbs ++ [0]).length = 5 := by
  rw [List.length_append, modulus.length_limbs]
  rfl

/-- A remainder has room for one more bit. -/
theorem shiftFiveLimbsLeftOneAsserted_eq (h : IsRemainder modulus remainder) :
    shiftFiveLimbsLeftOneAsserted remainder = some (shiftFiveLimbsLeftOne remainder) := by
  have hvalue := @shiftLeftOne_value remainder 0 (by decide)
  have hlt := h.lt.trans modulus.toNat_lt
  have hpow : limbBase ^ 5 = 2 ^ 256 * 2 ^ 64 := by decide
  rw [h.length, hpow, UInt64.toNat_zero, Nat.add_zero] at hvalue
  have hcarry : (shiftLeftOne remainder 0).2 = 0 := by
    rw [← UInt64.toNat_inj, UInt64.toNat_zero]
    omega
  rw [shiftFiveLimbsLeftOneAsserted]
  dsimp only
  rw [if_pos hcarry, shiftFiveLimbsLeftOne]

/-- The modulus is only taken away where it is not more than there is. -/
theorem subtractFiveLimbsAsserted_eq {left right : FiveLimbs} (hleft : left.length = 5) (hright : right.length = 5)
    (h : limbsToNat right ≤ limbsToNat left) :
    subtractFiveLimbsAsserted left right = some (subtractFiveLimbs left right) := by
  have hvalue := subLimbs_value false (hleft.trans hright.symm)
  have hlt := limbsToNat_lt (subLimbs left right false).1
  rw [length_subLimbs _ (hleft.trans hright.symm)] at hlt
  have hborrow : (subLimbs left right false).2 = false := by
    cases hborrow : (subLimbs left right false).2 with
    | false => rfl
    | true =>
        rw [hborrow, Bool.toNat_true, Bool.toNat_false, Nat.mul_one] at hvalue
        omega
  rw [subtractFiveLimbsAsserted]
  dsimp only
  rw [hborrow, subtractFiveLimbs]
  rfl

theorem reduceStepAsserted_eq (bitIndex : Nat) (h : IsRemainder modulus remainder) :
    reduceStepAsserted value (modulus.limbs ++ [0]) remainder bitIndex =
      some (reduceStep value (modulus.limbs ++ [0]) remainder bitIndex) := by
  have hlength : (enterBit value remainder bitIndex).length = 5 :=
    (length_enterBit value remainder bitIndex).trans h.length
  rw [reduceStepAsserted, shiftFiveLimbsLeftOneAsserted_eq h, Option.bind_eq_bind, Option.bind_some, reduceStep]
  show (if compareFiveLimbs (enterBit value remainder bitIndex) (modulus.limbs ++ [0]) ≠ .lt then
    subtractFiveLimbsAsserted (enterBit value remainder bitIndex) (modulus.limbs ++ [0]) else _) = _
  split
  · rename_i hge
    rw [compareFiveLimbs, compareLimbs_value (hlength.trans (length_fiveLimbs modulus).symm), ne_eq, compare_lt_iff_lt,
      Nat.not_lt] at hge
    exact subtractFiveLimbsAsserted_eq hlength (length_fiveLimbs modulus) hge
  · rfl

theorem isRemainder_reduceStep (bitIndex : Nat) (h : IsRemainder modulus remainder) :
    IsRemainder modulus (reduceStep value (modulus.limbs ++ [0]) remainder bitIndex) where
  length := by rw [length_reduceStep value bitIndex (h.length.trans (length_fiveLimbs modulus).symm), h.length]
  lt := by
    rw [reduceStep_value value bitIndex h.length h.lt]
    exact Nat.mod_lt _ (Nat.zero_lt_of_lt h.lt)

/-- No assertion of the reduction fails. -/
theorem reduceWideAsserted_eq (value : WideUint512) (hpos : 0 < modulus.toNat) :
    reduceWideAsserted value modulus = some (reduceWide value modulus).limbs := by
  have hstart : IsRemainder modulus [0, 0, 0, 0, 0] := ⟨rfl, hpos⟩
  have hstep : ∀ remainder bitIndex, IsRemainder modulus remainder →
      reduceStepAsserted value (modulus.limbs ++ [0]) remainder bitIndex =
        some (reduceStep value (modulus.limbs ++ [0]) remainder bitIndex) :=
    fun _ bitIndex h => reduceStepAsserted_eq bitIndex h
  have hnext : ∀ remainder bitIndex, IsRemainder modulus remainder →
      IsRemainder modulus (reduceStep value (modulus.limbs ++ [0]) remainder bitIndex) :=
    fun _ bitIndex h => isRemainder_reduceStep bitIndex h
  have hrun := foldlM_eq_some_foldl hstep hnext hstart (List.range 512).reverse
  have hlt : limbsToNat (reduceLoop value modulus) < 2 ^ 256 := by
    rw [limbsToNat_reduceLoop value hpos]
    exact (Nat.mod_lt _ hpos).trans modulus.toNat_lt
  have htop : (reduceLoop value modulus).getD 4 0 = 0 := by
    match hlimbs : reduceLoop value modulus, length_reduceLoop value modulus with
    | [a, b, c, d, e], _ =>
        rw [hlimbs] at hlt
        have hpow : limbBase = 2 ^ 64 := rfl
        simp only [limbsToNat_cons, limbsToNat_nil, hpow] at hlt
        show e = 0
        rw [← UInt64.toNat_inj, UInt64.toNat_zero]
        omega
  rw [← reduceLoop] at hrun
  rw [reduceWideAsserted, hrun, Option.bind_eq_bind, Option.bind_some, if_pos htop, reduceWide]

end Modulus

/-! ### The operations are exact -/

/-- The sum and the difference modulo 2^256 with their carry and borrow, and the full product. -/
theorem overflowing_exact (a b : Uint256) :
    (a.overflowingAdd b).1.toNat = (a.toNat + b.toNat) % 2 ^ 256 ∧
      ((a.overflowingAdd b).2 = true ↔ 2 ^ 256 ≤ a.toNat + b.toNat) ∧
      ((a.overflowingSub b).1.toNat : Int) = (a.toNat - b.toNat : Int) % 2 ^ 256 ∧
      ((a.overflowingSub b).2 = true ↔ a.toNat < b.toNat) := by
  have hsum := a.toNat_overflowingAdd b
  have hsumLt := (a.overflowingAdd b).1.toNat_lt
  have hdifference := a.toNat_overflowingSub b
  have hdifferenceLt := (a.overflowingSub b).1.toNat_lt
  have ha := a.toNat_lt
  have hb := b.toNat_lt
  refine ⟨?_, ?_, ?_, ?_⟩
  · omega
  · cases hcarry : (a.overflowingAdd b).2 with
    | false =>
        rw [hcarry, Bool.toNat_false] at hsum
        exact ⟨fun h => absurd h Bool.false_ne_true, fun h => by omega⟩
    | true =>
        rw [hcarry, Bool.toNat_true] at hsum
        exact ⟨fun _ => by omega, fun _ => rfl⟩
  · cases hborrow : (a.overflowingSub b).2 with
    | false =>
        rw [hborrow, Bool.toNat_false] at hdifference
        omega
    | true =>
        rw [hborrow, Bool.toNat_true] at hdifference
        omega
  · cases hborrow : (a.overflowingSub b).2 with
    | false =>
        rw [hborrow, Bool.toNat_false] at hdifference
        exact ⟨fun h => absurd h Bool.false_ne_true, fun h => by omega⟩
    | true =>
        rw [hborrow, Bool.toNat_true] at hdifference
        exact ⟨fun _ => by omega, fun _ => rfl⟩

/-- The assertion and the accumulators of the wide product. -/
theorem multiplyRowsChecked_multiplyWide (a b : Uint256) :
    multiplyRowsChecked a.limbs b.limbs (List.replicate 8 0) = some (a.multiplyWide b).limbs := by
  rw [multiplyRowsChecked_eq]
  exact (Option.some_get _).symm

/-- Every operation on limbs is the operation on the numbers that they stand for, and no assertion on the way fails. -/
theorem limbArithmetic_exact :
    (∀ a b : Uint256,
      (a.overflowingAdd b).1.toNat = (a.toNat + b.toNat) % 2 ^ 256 ∧
      ((a.overflowingAdd b).2 = true ↔ 2 ^ 256 ≤ a.toNat + b.toNat) ∧
      ((a.overflowingSub b).1.toNat : Int) = (a.toNat - b.toNat : Int) % 2 ^ 256 ∧
      ((a.overflowingSub b).2 = true ↔ a.toNat < b.toNat) ∧
      multiplyRowsChecked a.limbs b.limbs (List.replicate 8 0) = some (a.multiplyWide b).limbs ∧
      limbsToNat (a.multiplyWide b).limbs = a.toNat * b.toNat) ∧
    (∀ m : Uint256, 0 < m.toNat →
      (∀ value : WideUint512, reduceWideAsserted value m = some (reduceWide value m).limbs ∧
        (reduceWide value m).toNat = limbsToNat value.limbs % m.toNat) ∧
      (∀ a b : Uint256,
        (addMod a b m).toNat = (a.toNat + b.toNat) % m.toNat ∧
        (mulMod a b m).toNat = a.toNat * b.toNat % m.toNat ∧
        (powMod a b m).toNat = a.toNat ^ b.toNat % m.toNat) ∧
      (∀ a b : Uint256, a.toNat < m.toNat → b.toNat < m.toNat →
        ((subMod a b m).toNat : Int) = (a.toNat - b.toNat : Int) % m.toNat)) := by
  constructor
  · intro a b
    obtain ⟨hsum, hcarry, hdifference, hborrow⟩ := overflowing_exact a b
    exact ⟨hsum, hcarry, hdifference, hborrow, multiplyRowsChecked_multiplyWide a b, a.limbsToNat_multiplyWide b⟩
  · intro m hpos
    refine ⟨fun value => ⟨reduceWideAsserted_eq value hpos, toNat_reduceWide value hpos⟩,
      fun a b => ⟨toNat_addMod a b hpos, toNat_mulMod a b hpos, toNat_powMod a b hpos⟩, ?_⟩
    intro a b ha hb
    have hshift : ((a.toNat + (m.toNat - b.toNat) : Nat) : Int) = (a.toNat - b.toNat : Int) + m.toNat := by omega
    rw [toNat_subMod ha hb, Int.natCast_mod, hshift, Int.add_emod_right]

/-- A difference that wraps around the modulus. -/
theorem limbArithmetic_exact_seven :
    ((subMod (.fromLimbs 2 0 0 0) (.fromLimbs 5 0 0 0) (.fromLimbs 7 0 0 0)).toNat : Int) = (2 - 5 : Int) % 7 :=
  (limbArithmetic_exact.2 (.fromLimbs 7 0 0 0) (by decide)).2.2 (.fromLimbs 2 0 0 0) (.fromLimbs 5 0 0 0) (by decide)
    (by decide)

end BareProxy.P256
