import Mathlib.Data.Nat.Bitwise

/-!
# Words that must not overflow

`u64` arithmetic with the overflow checks of a debug build, where `none` is the panic, and what masks and
shifts make of the numbers.
-/

namespace BareProxy

def checkedAdd (left right : UInt64) : Option UInt64 :=
  if left.toNat + right.toNat < 2 ^ 64 then some (left + right) else none

def checkedMul (left right : UInt64) : Option UInt64 :=
  if left.toNat * right.toNat < 2 ^ 64 then some (left * right) else none

section Words

variable (left right : UInt64)

theorem checkedAdd_eq {left right : UInt64} (h : left.toNat + right.toNat < 2 ^ 64) :
    checkedAdd left right = some (left + right) := if_pos h

theorem checkedMul_eq {left right : UInt64} (h : left.toNat * right.toNat < 2 ^ 64) :
    checkedMul left right = some (left * right) := if_pos h

theorem toNat_add_of_sum_lt (h : left.toNat + right.toNat < 2 ^ 64) :
    (left + right).toNat = left.toNat + right.toNat := by
  rw [UInt64.toNat_add, Nat.mod_eq_of_lt h]

theorem toNat_mul_of_product_lt (h : left.toNat * right.toNat < 2 ^ 64) :
    (left * right).toNat = left.toNat * right.toNat := by
  rw [UInt64.toNat_mul, Nat.mod_eq_of_lt h]

/-- A mask of low ones is a remainder. -/
theorem toNat_and_mask {mask : UInt64} {width : Nat} (hmask : mask.toNat = 2 ^ width - 1) :
    (left &&& mask).toNat = left.toNat % 2 ^ width := by
  rw [UInt64.toNat_and, hmask, Nat.and_two_pow_sub_one_eq_mod]

theorem toNat_shiftRight_eq_div (count : UInt64) (hcount : count.toNat < 64) :
    (left >>> count).toNat = left.toNat / 2 ^ count.toNat := by
  rw [UInt64.toNat_shiftRight, Nat.mod_eq_of_lt hcount, Nat.shiftRight_eq_div_pow]

/-- What does not overlap is added. -/
theorem toNat_or_shiftLeft (count : UInt64) (hcount : count.toNat < 64) (hleft : left.toNat < 2 ^ count.toNat)
    (hright : right.toNat * 2 ^ count.toNat < 2 ^ 64) :
    (left ||| (right <<< count)).toNat = left.toNat + right.toNat * 2 ^ count.toNat := by
  have hor := Nat.shiftLeft_add_eq_or_of_lt hleft right.toNat
  rw [Nat.shiftLeft_eq] at hor
  rw [UInt64.toNat_or, UInt64.toNat_shiftLeft, Nat.mod_eq_of_lt hcount, Nat.shiftLeft_eq, Nat.mod_eq_of_lt hright,
    Nat.or_comm, ← hor, Nat.add_comm]

end Words

/-! ### Conversions that must fit -/

/-- `u8::try_from`. -/
def u8TryFrom (n : Nat) : Option UInt8 := if n < 2 ^ 8 then some (UInt8.ofNat n) else none

/-- `u16::try_from`. -/
def u16TryFrom (n : Nat) : Option UInt16 := if n < 2 ^ 16 then some (UInt16.ofNat n) else none

/-- `u32::try_from`. -/
def u32TryFrom (n : Nat) : Option UInt32 := if n < 2 ^ 32 then some (UInt32.ofNat n) else none

/-- `u64::try_from`. -/
def u64TryFrom (n : Nat) : Option UInt64 := if n < 2 ^ 64 then some (UInt64.ofNat n) else none

/-- `u32::checked_add`. -/
def checkedAddU32 (left right : UInt32) : Option UInt32 :=
  if left.toNat + right.toNat < 2 ^ 32 then some (left + right) else none

theorem u8TryFrom_eq {n : Nat} (h : n < 2 ^ 8) : u8TryFrom n = some (UInt8.ofNat n) := if_pos h

theorem u16TryFrom_eq {n : Nat} (h : n < 2 ^ 16) : u16TryFrom n = some (UInt16.ofNat n) := if_pos h

theorem u32TryFrom_eq {n : Nat} (h : n < 2 ^ 32) : u32TryFrom n = some (UInt32.ofNat n) := if_pos h

theorem u64TryFrom_eq {n : Nat} (h : n < 2 ^ 64) : u64TryFrom n = some (UInt64.ofNat n) := if_pos h

theorem checkedAddU32_eq {left right : UInt32} (h : left.toNat + right.toNat < 2 ^ 32) :
    checkedAddU32 left right = some (left + right) := if_pos h

/-- A loop in which every turn goes through. -/
theorem mapM_eq_some {α β : Type} {turn : α → Option β} {result : α → β} {l : List α}
    (h : ∀ a ∈ l, turn a = some (result a)) : l.mapM turn = some (l.map result) := by
  induction l with
  | nil => rfl
  | cons a l ih =>
    rw [List.forall_mem_cons] at h
    rw [List.mapM_cons, h.1, ih h.2]
    rfl

/-! ### Sums of numbers in words of 32 bits -/

/-- One word of a sum, with the carry into it and the one out of it. -/
theorem add_word (x y carry : Nat) :
    (x + y + carry) % 2 ^ 32 = (x % 2 ^ 32 + (y % 2 ^ 32 + carry)) % 2 ^ 32 ∧
      (x + y + carry) / 2 ^ 32 = x / 2 ^ 32 + y / 2 ^ 32 + (x % 2 ^ 32 + (y % 2 ^ 32 + carry)) / 2 ^ 32 := by
  constructor <;> omega

theorem mod_words (n : Nat) :
    n % 2 ^ 128 = n % 2 ^ 32 + 2 ^ 32 * (n / 2 ^ 32 % 2 ^ 32) + 2 ^ 64 * (n / 2 ^ 32 / 2 ^ 32 % 2 ^ 32) +
      2 ^ 96 * (n / 2 ^ 32 / 2 ^ 32 / 2 ^ 32 % 2 ^ 32) := by
  omega

/-- A sum in four words of 32 bits. -/
theorem add_words {x y a b c d : Nat} (ha : a = x % 2 ^ 32 + y % 2 ^ 32)
    (hb : b = x / 2 ^ 32 % 2 ^ 32 + (y / 2 ^ 32 % 2 ^ 32 + a / 2 ^ 32))
    (hc : c = x / 2 ^ 64 % 2 ^ 32 + (y / 2 ^ 64 % 2 ^ 32 + b / 2 ^ 32))
    (hd : d = x / 2 ^ 96 % 2 ^ 32 + (y / 2 ^ 96 % 2 ^ 32 + c / 2 ^ 32)) :
    a % 2 ^ 32 + 2 ^ 32 * (b % 2 ^ 32) + 2 ^ 64 * (c % 2 ^ 32) + 2 ^ 96 * (d % 2 ^ 32) = (x + y) % 2 ^ 128 := by
  have hdiv (n : Nat) : n / 2 ^ 64 = n / 2 ^ 32 / 2 ^ 32 ∧ n / 2 ^ 96 = n / 2 ^ 32 / 2 ^ 32 / 2 ^ 32 := by omega
  obtain ⟨hlow, hnext⟩ := add_word x y 0
  obtain ⟨hlow1, hnext1⟩ := add_word (x / 2 ^ 32) (y / 2 ^ 32) (a / 2 ^ 32)
  obtain ⟨hlow2, hnext2⟩ := add_word (x / 2 ^ 32 / 2 ^ 32) (y / 2 ^ 32 / 2 ^ 32) (b / 2 ^ 32)
  obtain ⟨hlow3, -⟩ := add_word (x / 2 ^ 32 / 2 ^ 32 / 2 ^ 32) (y / 2 ^ 32 / 2 ^ 32 / 2 ^ 32) (c / 2 ^ 32)
  rw [Nat.add_zero, Nat.add_zero, ← ha] at hlow hnext
  rw [← hb] at hlow1 hnext1
  rw [(hdiv x).1, (hdiv y).1] at hc
  rw [← hc] at hlow2 hnext2
  rw [(hdiv x).2, (hdiv y).2] at hd
  rw [← hd] at hlow3
  rw [mod_words, hnext, hnext1, hnext2, hlow, hlow1, hlow2, hlow3]

end BareProxy
