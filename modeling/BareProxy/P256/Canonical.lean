import BareProxy.P256.Residue

/-!
# Limbs stay canonical

The tuple structs of `p256.rs` hold bare limbs, and the curve code compares them as they stand. Whatever the
operations make of limbs below the modulus is below it again, so that comparison is equality modulo the prime.
-/

namespace BareProxy.P256

/-- What the operations of `FieldElement` and `Scalar` make of limbs below the modulus. -/
inductive Produced (modulus : Uint256) : Uint256 → Prop
  | canonical {value : Uint256} : value.toNat < modulus.toNat → Produced modulus value
  | modularAdd {left right : Uint256} :
      Produced modulus left → Produced modulus right → Produced modulus (addMod left right modulus)
  | modularSubtract {left right : Uint256} :
      Produced modulus left → Produced modulus right → Produced modulus (subMod left right modulus)
  | modularMultiply {left right : Uint256} :
      Produced modulus left → Produced modulus right → Produced modulus (mulMod left right modulus)
  | square {value : Uint256} : Produced modulus value → Produced modulus (mulMod value value modulus)
  | invert {value inverse : Uint256} :
      Produced modulus value → invertMod value modulus = some inverse → Produced modulus inverse

section Modulus

variable {m : Uint256} [Fact m.toNat.Prime]

/-- Every operation of the tuple structs is one on residues. -/
theorem Produced.toNat_lt {value : Uint256} (h : Produced m value) : value.toNat < m.toNat := by
  induction h with
  | canonical hlt => exact hlt
  | modularAdd _ _ hleft hright => exact (Residue.modularAdd ⟨_, hleft⟩ ⟨_, hright⟩).value_lt
  | modularSubtract _ _ hleft hright => exact (Residue.modularSubtract ⟨_, hleft⟩ ⟨_, hright⟩).value_lt
  | modularMultiply _ _ hleft hright => exact (Residue.modularMultiply ⟨_, hleft⟩ ⟨_, hright⟩).value_lt
  | square _ hvalue => exact (Residue.square ⟨_, hvalue⟩).value_lt
  | invert _ hinverse _ => exact Residue.invertMod_lt hinverse

def Produced.residue {value : Uint256} (h : Produced m value) : Residue m := ⟨value, h.toNat_lt⟩

theorem Produced.eq_iff {left right : Uint256} (hleft : Produced m left) (hright : Produced m right) :
    left = right ↔ left.toNat ≡ right.toNat [MOD m.toNat] := by
  rw [Nat.ModEq, Nat.mod_eq_of_lt hleft.toNat_lt, Nat.mod_eq_of_lt hright.toNat_lt, Uint256.toNat_inj]

theorem Produced.invertMod_eq_none_iff {value : Uint256} (h : Produced m value) :
    invertMod value m = none ↔ value = .zero := by
  rw [P256.invertMod_eq_none_iff value (Residue.modulus_pos m), Nat.mod_eq_of_lt h.toNat_lt, ← Uint256.toNat_zero,
    Uint256.toNat_inj]

/-- The inverse of the model's residue is the one of the limbs. -/
theorem Produced.mulMod_inverse {value inverse : Uint256} (h : Produced m value)
    (hinverse : invertMod value m = some inverse) : mulMod value inverse m = .one := by
  have hinvert : h.residue.invert = some (Produced.invert h hinverse).residue := by
    apply Option.pmap_eq_some_iff.mpr
    exact ⟨inverse, Residue.invertMod_lt hinverse, hinverse, rfl⟩
  have hzero : h.residue.toZMod ≠ 0 := by
    rw [ne_eq, Residue.toZMod_eq_zero, ← Residue.invert_eq_none_iff, hinvert]
    exact Option.some_ne_none _
  have hproduct : h.residue.modularMultiply (Produced.invert h hinverse).residue = .one := by
    apply Residue.toZMod_injective
    rw [Residue.toZMod_modularMultiply, Residue.toZMod_invert hinvert, mul_inv_cancel₀ hzero, Residue.toZMod_one]
  have hvalue := congrArg Residue.value hproduct
  rw [Residue.modularMultiply, Produced.residue, Produced.residue, Residue.one] at hvalue
  exact hvalue

end Modulus

/-- For the field of P-256 and for the order of its group: results are below the modulus, equal limbs are equality
modulo it, only zero has no inverse, and an inverse is one. -/
theorem canonical_inversion : ∀ modulus ∈ [p256FieldModulus, p256GroupOrder],
    (∀ a, Produced modulus a → a.toNat < modulus.toNat) ∧
    (∀ a b, Produced modulus a → Produced modulus b → (a = b ↔ a.toNat ≡ b.toNat [MOD modulus.toNat])) ∧
    (∀ a, Produced modulus a → (invertMod a modulus = none ↔ a = .zero) ∧
      ∀ inverse, invertMod a modulus = some inverse → mulMod a inverse modulus = .one) := by
  intro modulus hmodulus
  have hprime : Fact modulus.toNat.Prime := by
    rcases List.mem_pair.mp hmodulus with rfl | rfl
    · infer_instance
    · infer_instance
  refine ⟨fun a ha => ha.toNat_lt, fun a b ha hb => ha.eq_iff hb, fun a ha => ⟨ha.invertMod_eq_none_iff, ?_⟩⟩
  intro inverse hinverse
  exact ha.mulMod_inverse hinverse

/-- Two has an inverse in the field. -/
theorem canonical_inversion_two :
    ∃ inverse, invertMod (.fromLimbs 2 0 0 0) p256FieldModulus = some inverse ∧
      mulMod (.fromLimbs 2 0 0 0) inverse p256FieldModulus = .one := by
  obtain ⟨hnone, hsome⟩ := (canonical_inversion p256FieldModulus (by decide)).2.2 (.fromLimbs 2 0 0 0)
    (.canonical (by decide))
  cases hinverse : invertMod (.fromLimbs 2 0 0 0) p256FieldModulus with
  | none => exact absurd (hnone.mp hinverse) (by decide)
  | some inverse => exact ⟨inverse, rfl, hsome inverse hinverse⟩

end BareProxy.P256
