import BareProxy.Base.Lucas
import BareProxy.P256.Uint256

/-!
# The two primes of P-256

The field modulus and the group order of `p256.rs`, and that both are prime. The large factors of their
predecessors are certified the same way.
-/

namespace BareProxy.P256

def p256FieldModulus : Uint256 :=
  .fromLimbs 0xffffffffffffffff 0x00000000ffffffff 0x0000000000000000 0xffffffff00000001

def p256GroupOrder : Uint256 :=
  .fromLimbs 0xf3b9cac2fc632551 0xbce6faada7179e84 0xffffffffffffffff 0xffffffff00000000

/-- The number that the field modulus stands for. -/
def fieldPrime : Nat := 0xffffffff00000001000000000000000000000000ffffffffffffffffffffffff

/-- The number that the group order stands for. -/
def orderPrime : Nat := 0xffffffff00000000ffffffffffffffffbce6faada7179e84f3b9cac2fc632551

theorem toNat_p256FieldModulus : p256FieldModulus.toNat = fieldPrime := by decide

theorem toNat_p256GroupOrder : p256GroupOrder.toNat = orderPrime := by decide

/-- The factors that trial division settles. -/
def smallPrimes : List Nat :=
  [2, 3, 5, 7, 11, 17, 19, 23, 29, 41, 43, 53, 71, 107, 127, 131, 173, 197, 229, 257, 311, 373, 641, 1201, 1297,
   1531, 2411, 3023, 3407, 3677, 3769, 16879, 17449, 18169, 38189, 65537, 78283, 104471, 126241, 155317, 490463,
   704251]

/-- The two primes, each after the large factors that it rests on. -/
def primeEntries : List LucasEntry :=
  [⟨6700417, 5, [2, 3, 17449]⟩,
   ⟨204061199, 11, [2, 11, 23, 107, 3769]⟩,
   ⟨34282281433, 17, [2, 3, 7, 204061199]⟩,
   ⟨66417393611, 6, [2, 5, 53, 173, 197, 3677]⟩,
   ⟨11290956913871, 13, [2, 5, 17, 66417393611]⟩,
   ⟨46076956964474543, 5, [2, 23, 18169, 78283, 704251]⟩,
   ⟨774023187263532362759620327192479577272145303, 3, [2, 3, 2411, 34282281433, 11290956913871, 46076956964474543]⟩,
   ⟨835945042244614951780389953367877943453916927241, 11, [2, 3, 5, 774023187263532362759620327192479577272145303]⟩,
   ⟨fieldPrime, 6, [2, 3, 5, 17, 257, 641, 1531, 65537, 490463, 6700417,
      835945042244614951780389953367877943453916927241]⟩,
   ⟨9350987, 2, [2, 17, 229, 1201]⟩,
   ⟨187019741, 2, [2, 5, 9350987]⟩,
   ⟨311245691, 2, [2, 5, 7, 17, 29, 311]⟩,
   ⟨622491383, 5, [2, 311245691]⟩,
   ⟨3969899, 2, [2, 19, 104471]⟩,
   ⟨1002328039319, 19, [2, 126241, 3969899]⟩,
   ⟨191039911, 3, [2, 3, 5, 41, 155317]⟩,
   ⟨208150935158385979, 2, [2, 3, 11, 43, 127, 3023, 191039911]⟩,
   ⟨2624747550333869278416773953, 7, [2, 3, 1297, 16879, 208150935158385979]⟩,
   ⟨orderPrime, 7, [2, 3, 71, 131, 373, 3407, 17449, 38189, 187019741, 622491383, 1002328039319,
      2624747550333869278416773953]⟩]

theorem prime_smallPrimes : ∀ q ∈ smallPrimes, q.Prime := by
  norm_num [smallPrimes]

theorem prime_primeEntries : ∀ p ∈ primeEntries.map LucasEntry.number, p.Prime :=
  prime_of_testEntries prime_smallPrimes (by decide +kernel : testEntries 256 smallPrimes primeEntries = true)

theorem prime_fieldPrime : Nat.Prime fieldPrime :=
  prime_primeEntries fieldPrime (by simp [primeEntries])

theorem prime_orderPrime : Nat.Prime orderPrime :=
  prime_primeEntries orderPrime (by simp [primeEntries])

end BareProxy.P256
