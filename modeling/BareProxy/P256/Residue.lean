import BareProxy.P256.Prime
import Mathlib.FieldTheory.Finite.Basic

/-!
# Field elements and scalars

`FieldElement` and `Scalar` of `p256.rs` are the same arithmetic over two moduli. A residue carries the proof
that its limbs are below the modulus, so equal residues have equal limbs. `toZMod` maps residues one to one
onto the integers modulo the prime and takes each operation to the one there.
-/

namespace BareProxy.P256

instance : Fact p256FieldModulus.toNat.Prime := ⟨toNat_p256FieldModulus ▸ prime_fieldPrime⟩

instance : Fact p256GroupOrder.toNat.Prime := ⟨toNat_p256GroupOrder ▸ prime_orderPrime⟩

/-- A canonical representative modulo `m`. -/
structure Residue (m : Uint256) where
  value : Uint256
  value_lt : value.toNat < m.toNat
  deriving DecidableEq, Repr

namespace Residue

variable {m : Uint256} [Fact m.toNat.Prime]

theorem modulus_pos (m : Uint256) [Fact m.toNat.Prime] : 0 < m.toNat := (Fact.out : m.toNat.Prime).pos

def zero : Residue m := ⟨.zero, modulus_pos m⟩

def one : Residue m := ⟨.one, (Fact.out : m.toNat.Prime).one_lt⟩

def new (value : Uint256) : Residue m where
  value := reduceUint value m
  value_lt := by
    rw [toNat_reduceUint _ (modulus_pos m)]
    exact Nat.mod_lt _ (modulus_pos m)

def modularAdd (left right : Residue m) : Residue m where
  value := addMod left.value right.value m
  value_lt := by
    rw [toNat_addMod _ _ (modulus_pos m)]
    exact Nat.mod_lt _ (modulus_pos m)

def modularSubtract (left right : Residue m) : Residue m where
  value := subMod left.value right.value m
  value_lt := by
    rw [toNat_subMod left.value_lt right.value_lt]
    exact Nat.mod_lt _ (modulus_pos m)

def modularMultiply (left right : Residue m) : Residue m where
  value := mulMod left.value right.value m
  value_lt := by
    rw [toNat_mulMod _ _ (modulus_pos m)]
    exact Nat.mod_lt _ (modulus_pos m)

def square (value : Residue m) : Residue m := value.modularMultiply value

theorem invertMod_lt {value inverse : Uint256} (h : invertMod value m = some inverse) :
    inverse.toNat < m.toNat := by
  rw [toNat_invertMod (Fact.out : m.toNat.Prime).two_le h]
  exact Nat.mod_lt _ (modulus_pos m)

def invert (value : Residue m) : Option (Residue m) :=
  (invertMod value.value m).pmap Residue.mk fun _ h => invertMod_lt h

/-! ### As integers modulo the prime -/

def toZMod (value : Residue m) : ZMod m.toNat := value.value.toNat

theorem toZMod_injective : Function.Injective (toZMod (m := m)) := by
  intro left right h
  have hvalue : left.value.toNat = right.value.toNat := by
    rw [toZMod, toZMod, ZMod.natCast_eq_natCast_iff'] at h
    rwa [Nat.mod_eq_of_lt left.value_lt, Nat.mod_eq_of_lt right.value_lt] at h
  obtain ⟨left, hleft⟩ := left
  obtain ⟨right, hright⟩ := right
  obtain rfl := Uint256.toNat_injective hvalue
  rfl

theorem toZMod_inj {left right : Residue m} : left.toZMod = right.toZMod ↔ left = right := toZMod_injective.eq_iff

/-- The canonical representative of an integer modulo the prime. -/
def ofZMod (value : ZMod m.toNat) : Residue m where
  value := .fromBeBytes (beArray 32 value.val)
  value_lt := by
    have hlt : value.val < m.toNat := ZMod.val_lt value
    have hwidth : value.val < 256 ^ 32 := hlt.trans m.toNat_lt
    rw [Uint256.toNat_fromBeBytes, toList_beArray, ofBe_beBytes, Nat.mod_eq_of_lt hwidth]
    exact hlt

@[simp] theorem toZMod_ofZMod (value : ZMod m.toNat) : (ofZMod value).toZMod = value := by
  have hwidth : value.val < 256 ^ 32 := (ZMod.val_lt value).trans m.toNat_lt
  rw [toZMod, ofZMod, Uint256.toNat_fromBeBytes, toList_beArray, ofBe_beBytes, Nat.mod_eq_of_lt hwidth,
    ZMod.natCast_zmod_val]

@[simp] theorem toZMod_zero : (zero : Residue m).toZMod = 0 := Nat.cast_zero

@[simp] theorem toZMod_one : (one : Residue m).toZMod = 1 := Nat.cast_one

@[simp] theorem toZMod_new (value : Uint256) : (new value : Residue m).toZMod = value.toNat := by
  rw [toZMod, new, toNat_reduceUint _ (modulus_pos m), ZMod.natCast_mod]

theorem new_value (value : Residue m) : new value.value = value := toZMod_injective (toZMod_new value.value)

@[simp] theorem toZMod_modularAdd (left right : Residue m) :
    (left.modularAdd right).toZMod = left.toZMod + right.toZMod := by
  rw [toZMod, modularAdd, toNat_addMod _ _ (modulus_pos m), ZMod.natCast_mod, Nat.cast_add]
  rfl

@[simp] theorem toZMod_modularSubtract (left right : Residue m) :
    (left.modularSubtract right).toZMod = left.toZMod - right.toZMod := by
  rw [toZMod, modularSubtract, toNat_subMod left.value_lt right.value_lt, ZMod.natCast_mod, Nat.cast_add,
    Nat.cast_sub right.value_lt.le, ZMod.natCast_self, zero_sub, ← sub_eq_add_neg]
  rfl

@[simp] theorem toZMod_modularMultiply (left right : Residue m) :
    (left.modularMultiply right).toZMod = left.toZMod * right.toZMod := by
  rw [toZMod, modularMultiply, toNat_mulMod _ _ (modulus_pos m), ZMod.natCast_mod, Nat.cast_mul]
  rfl

@[simp] theorem toZMod_square (value : Residue m) : value.square.toZMod = value.toZMod ^ 2 := by
  rw [square, toZMod_modularMultiply, sq]

theorem toZMod_eq_zero {value : Residue m} : value.toZMod = 0 ↔ value = zero := by
  rw [← toZMod_zero, toZMod_inj]

theorem invert_eq_none_iff {value : Residue m} : value.invert = none ↔ value = zero := by
  rw [invert, Option.pmap_eq_none_iff, invertMod_eq_none_iff _ (modulus_pos m), Nat.mod_eq_of_lt value.value_lt,
    ← toZMod_eq_zero, toZMod, ZMod.natCast_eq_zero_iff]
  exact ⟨fun h => h ▸ Nat.dvd_zero _, fun h => Nat.eq_zero_of_dvd_of_lt h value.value_lt⟩

/-- Inversion by Fermat's little theorem. -/
theorem toZMod_invert {value inverse : Residue m} (h : value.invert = some inverse) :
    inverse.toZMod = value.toZMod⁻¹ := by
  have hprime : m.toNat.Prime := Fact.out
  have hzero : value.toZMod ≠ 0 := by
    rw [ne_eq, toZMod_eq_zero, ← invert_eq_none_iff, h]
    exact Option.some_ne_none _
  obtain ⟨limbs, hlt, hlimbs, rfl⟩ := Option.pmap_eq_some_iff.mp h
  apply eq_inv_of_mul_eq_one_left
  have hexponent : m.toNat - 2 + 1 = m.toNat - 1 := by
    have := hprime.two_le
    omega
  calc ((limbs.toNat : ZMod m.toNat)) * value.toZMod
      = value.toZMod ^ (m.toNat - 2) * value.toZMod := by
        rw [toNat_invertMod hprime.two_le hlimbs, ZMod.natCast_mod, Nat.cast_pow, toZMod]
    _ = value.toZMod ^ (m.toNat - 1) := by rw [← pow_succ, hexponent]
    _ = 1 := ZMod.pow_card_sub_one_eq_one hzero

/-- `invert().expect(..)` on what is not zero. -/
def inverse (value : Residue m) (h : value ≠ zero) : Residue m :=
  value.invert.get (by rwa [Option.isSome_iff_ne_none, ne_eq, invert_eq_none_iff])

@[simp] theorem toZMod_inverse (value : Residue m) (h : value ≠ zero) : (value.inverse h).toZMod = value.toZMod⁻¹ :=
  toZMod_invert (Option.some_get _).symm

end Residue

abbrev FieldElement := Residue p256FieldModulus

abbrev Scalar := Residue p256GroupOrder

end BareProxy.P256
