import BareProxy.Base.Limbs
import Mathlib.Data.List.Prime
import Mathlib.NumberTheory.LucasPrimality
import Mathlib.Tactic.NormNum.Prime

/-!
# Primality by Lucas's test

A number is prime when some power walks through all its residues. The test here takes the base and the prime
factors of the predecessor; what it computes is square-and-multiply on numerals, so the kernel can run it on
numbers of a few hundred bits.
-/

namespace BareProxy

/-- `base ^ exponent` modulo `modulus`, over the lowest `bits` bits of the exponent from the top down. -/
def powerModulo (modulus base exponent bits : Nat) : Nat :=
  (List.range bits).reverse.foldl (fun result index =>
    let square := result * result % modulus
    if exponent.testBit index then square * base % modulus else square) 1

theorem powerModulo_modEq (modulus base : Nat) {exponent bits : Nat} (h : exponent < 2 ^ bits) :
    powerModulo modulus base exponent bits ≡ base ^ exponent [MOD modulus] := by
  apply foldl_bits_invariant (fun bits result => result ≡ base ^ bits [MOD modulus])
  · intro result index hresult
    have hsquare : result * result % modulus ≡ base ^ (2 * (exponent / 2 ^ (index + 1))) [MOD modulus] := by
      rw [two_mul, pow_add]
      exact (Nat.mod_modEq _ _).trans (hresult.mul hresult)
    cases exponent.testBit index with
    | false => simpa using hsquare
    | true =>
        simp only [if_true, Bool.toNat_true, pow_succ]
        exact (Nat.mod_modEq _ _).trans (hsquare.mul_right base)
  · rw [Nat.div_eq_of_lt h, pow_zero]

/-- A number, the base of its test and the prime factors of its predecessor. -/
structure LucasEntry where
  number : Nat
  base : Nat
  factors : List Nat

/-- Lucas's conditions on the base, for numbers below `2 ^ bits`. The predecessor divides a power of the product
of the factors, so no prime factor is missing from the list. -/
def LucasEntry.test (bits : Nat) (entry : LucasEntry) : Bool :=
  1 < entry.number && entry.number < 2 ^ bits && entry.factors.prod ^ bits % (entry.number - 1) == 0 &&
    powerModulo entry.number entry.base (entry.number - 1) bits == 1 &&
    entry.factors.all fun q => powerModulo entry.number entry.base ((entry.number - 1) / q) bits != 1

/-- The factors of each entry are among the primes known before it. -/
def testEntries (bits : Nat) : List Nat → List LucasEntry → Bool
  | _, [] => true
  | known, entry :: entries =>
      entry.factors.all (fun q => decide (q ∈ known)) && entry.test bits &&
        testEntries bits (entry.number :: known) entries

private theorem natCast_eq_pow {modulus base exponent result : Nat}
    (h : result ≡ base ^ exponent [MOD modulus]) : (result : ZMod modulus) = (base : ZMod modulus) ^ exponent := by
  rw [← Nat.cast_pow]
  exact (ZMod.natCast_eq_natCast_iff _ _ _).mpr h

private theorem powerModulo_lt {modulus base exponent bits : Nat} (h : 1 < modulus) :
    powerModulo modulus base exponent bits < modulus := by
  apply List.foldlRecOn (motive := fun result : Nat => result < modulus)
  · exact h
  · intro result _ index _
    dsimp only
    split <;> exact Nat.mod_lt _ (by omega)

theorem LucasEntry.prime_of_test {bits : Nat} {entry : LucasEntry} (hfactors : ∀ q ∈ entry.factors, q.Prime)
    (h : entry.test bits = true) : entry.number.Prime := by
  simp only [LucasEntry.test, Bool.and_eq_true, decide_eq_true_eq, beq_iff_eq, List.all_eq_true, bne_iff_ne] at h
  obtain ⟨⟨⟨⟨hone, hbits⟩, hproduct⟩, hpower⟩, hproper⟩ := h
  have hbound : entry.number - 1 < 2 ^ bits := (Nat.sub_le _ _).trans_lt hbits
  apply lucas_primality entry.number (entry.base : ZMod entry.number)
  · rw [← natCast_eq_pow (powerModulo_modEq _ _ hbound), hpower, Nat.cast_one]
  · intro q hq hdvd heq
    -- a prime that divides the predecessor divides the product, so it is one of the factors
    have hmem : q ∈ entry.factors := by
      have hdvdProduct := hq.dvd_of_dvd_pow (hdvd.trans (Nat.dvd_of_mod_eq_zero hproduct))
      exact mem_list_primes_of_dvd_prod hq.prime (fun r hr => (hfactors r hr).prime) hdvdProduct
    have hexponent : (entry.number - 1) / q < 2 ^ bits := (Nat.div_le_self _ _).trans_lt hbound
    rw [← natCast_eq_pow (powerModulo_modEq _ _ hexponent), ← Nat.cast_one (R := ZMod entry.number),
      ZMod.natCast_eq_natCast_iff', Nat.mod_eq_of_lt (powerModulo_lt hone), Nat.mod_eq_of_lt hone] at heq
    exact hproper q hmem heq

theorem prime_of_testEntries {bits : Nat} {known : List Nat} {entries : List LucasEntry}
    (hknown : ∀ q ∈ known, q.Prime) (h : testEntries bits known entries = true) :
    ∀ p ∈ entries.map LucasEntry.number, p.Prime := by
  induction entries generalizing known with
  | nil => simp
  | cons entry entries ih =>
      simp only [testEntries, Bool.and_eq_true, List.all_eq_true, decide_eq_true_eq] at h
      obtain ⟨⟨hfactors, htest⟩, hrest⟩ := h
      have hentry : entry.number.Prime := LucasEntry.prime_of_test (fun q hq => hknown q (hfactors q hq)) htest
      rw [List.map_cons, List.forall_mem_cons]
      exact ⟨hentry, ih (List.forall_mem_cons.mpr ⟨hentry, hknown⟩) hrest⟩

end BareProxy
