import Mathlib.Data.Nat.Bitwise
import Mathlib.Tactic.LinearCombination
import Mathlib.Tactic.Linarith
import Mathlib.Tactic.Ring

/-!
# Arithmetic on little-endian limbs

Numbers as lists of 64-bit limbs, least significant first, and the loops that add, subtract, compare,
shift and multiply them limb by limb. Each loop is one recursion along the lists, carrying what the loop
carries, and each has one lemma that says what it computes on the values.
-/

namespace BareProxy

/-- The radix of one limb. -/
def limbBase : Nat := 2 ^ 64

def limbsToNat : List UInt64 → Nat
  | [] => 0
  | limb :: limbs => limb.toNat + limbBase * limbsToNat limbs

@[simp] theorem limbsToNat_nil : limbsToNat [] = 0 := rfl

@[simp] theorem limbsToNat_cons (limb : UInt64) (limbs : List UInt64) :
    limbsToNat (limb :: limbs) = limb.toNat + limbBase * limbsToNat limbs := rfl

theorem limb_lt (limb : UInt64) : limb.toNat < limbBase := limb.toNat_lt

theorem limbsToNat_lt (limbs : List UInt64) : limbsToNat limbs < limbBase ^ limbs.length := by
  induction limbs with
  | nil => simp
  | cons limb limbs ih =>
      have hlimb := limb_lt limb
      have hstep : limbBase * (limbsToNat limbs + 1) ≤ limbBase * limbBase ^ limbs.length :=
        Nat.mul_le_mul_left _ ih
      rw [limbsToNat_cons, List.length_cons, pow_succ, Nat.mul_comm (limbBase ^ _)]
      rw [Nat.mul_add] at hstep
      omega

theorem limbsToNat_append (low high : List UInt64) :
    limbsToNat (low ++ high) = limbsToNat low + limbBase ^ low.length * limbsToNat high := by
  induction low with
  | nil => simp
  | cons limb low ih =>
      rw [List.cons_append, limbsToNat_cons, ih, limbsToNat_cons, List.length_cons, pow_succ]
      ring

/-- Equally long limb lists of one value are one list. -/
theorem limbsToNat_injective {left right : List UInt64} (hlength : left.length = right.length)
    (hvalue : limbsToNat left = limbsToNat right) : left = right := by
  induction left generalizing right with
  | nil => exact (List.length_eq_zero_iff.mp hlength.symm).symm
  | cons limb left ih =>
      obtain _ | ⟨limb', right⟩ := right
      · simp at hlength
      have hlow := limb_lt limb
      have hlow' := limb_lt limb'
      rw [limbsToNat_cons, limbsToNat_cons] at hvalue
      have hlimb : limb.toNat = limb'.toNat := by
        have := congrArg (· % limbBase) hvalue
        simpa [Nat.add_mul_mod_self_left, Nat.mod_eq_of_lt hlow, Nat.mod_eq_of_lt hlow'] using this
      have hrest : limbsToNat left = limbsToNat right := by
        have hpos : 0 < limbBase := by decide
        rw [hlimb] at hvalue
        exact Nat.eq_of_mul_eq_mul_left hpos (Nat.add_left_cancel hvalue)
      rw [UInt64.toNat_inj.mp hlimb, ih (by simpa using hlength) hrest]

/-! ### Addition and subtraction -/

def overflowingAdd (left right : UInt64) : UInt64 × Bool :=
  (left + right, decide (2 ^ 64 ≤ left.toNat + right.toNat))

def overflowingSub (left right : UInt64) : UInt64 × Bool :=
  (left - right, decide (left.toNat < right.toNat))

theorem overflowingAdd_value (left right : UInt64) :
    (overflowingAdd left right).1.toNat + limbBase * (overflowingAdd left right).2.toNat =
      left.toNat + right.toNat := by
  have hleft := limb_lt left
  have hright := limb_lt right
  simp only [overflowingAdd, limbBase, UInt64.toNat_add] at *
  by_cases h : 2 ^ 64 ≤ left.toNat + right.toNat
  · rw [decide_eq_true h, Bool.toNat_true]
    omega
  · rw [decide_eq_false h, Bool.toNat_false]
    omega

theorem overflowingSub_value (left right : UInt64) :
    (overflowingSub left right).1.toNat + right.toNat =
      left.toNat + limbBase * (overflowingSub left right).2.toNat := by
  have hleft := limb_lt left
  have hright := limb_lt right
  simp only [overflowingSub, limbBase, UInt64.toNat_sub] at *
  by_cases h : left.toNat < right.toNat
  · rw [decide_eq_true h, Bool.toNat_true]
    omega
  · rw [decide_eq_false h, Bool.toNat_false]
    omega

def addLimbs : List UInt64 → List UInt64 → Bool → List UInt64 × Bool
  | left :: lefts, right :: rights, carry =>
      let (sum, carryA) := overflowingAdd left right
      let (sum, carryB) := overflowingAdd sum (if carry then 1 else 0)
      let (rest, carryOut) := addLimbs lefts rights (carryA || carryB)
      (sum :: rest, carryOut)
  | _, _, carry => ([], carry)

def subLimbs : List UInt64 → List UInt64 → Bool → List UInt64 × Bool
  | left :: lefts, right :: rights, borrow =>
      let (difference, borrowA) := overflowingSub left right
      let (difference, borrowB) := overflowingSub difference (if borrow then 1 else 0)
      let (rest, borrowOut) := subLimbs lefts rights (borrowA || borrowB)
      (difference :: rest, borrowOut)
  | _, _, borrow => ([], borrow)

theorem length_addLimbs {left right : List UInt64} (carry : Bool) (h : left.length = right.length) :
    (addLimbs left right carry).1.length = left.length := by
  induction left generalizing right carry with
  | nil => simp [addLimbs]
  | cons l left ih =>
      obtain _ | ⟨r, right⟩ := right
      · simp at h
      rw [addLimbs, List.length_cons, List.length_cons, ih _ (by simpa using h)]

theorem length_subLimbs {left right : List UInt64} (borrow : Bool) (h : left.length = right.length) :
    (subLimbs left right borrow).1.length = left.length := by
  induction left generalizing right borrow with
  | nil => simp [subLimbs]
  | cons l left ih =>
      obtain _ | ⟨r, right⟩ := right
      · simp at h
      rw [subLimbs, List.length_cons, List.length_cons, ih _ (by simpa using h)]

private theorem toNat_flag (flag : Bool) : (if flag then (1 : UInt64) else 0).toNat = flag.toNat := by
  cases flag <;> rfl

/-- At most one of the two additions of a limb overflows. -/
private theorem addLimb_value (left right : UInt64) (carry : Bool) :
    let first := overflowingAdd left right
    let second := overflowingAdd first.1 (if carry then 1 else 0)
    second.1.toNat + limbBase * (first.2 || second.2).toNat = left.toNat + right.toNat + carry.toNat := by
  intro first second
  have hfirst : first.1.toNat + limbBase * first.2.toNat = left.toNat + right.toNat :=
    overflowingAdd_value left right
  have hsecond : second.1.toNat + limbBase * second.2.toNat = first.1.toNat + carry.toNat := by
    rw [overflowingAdd_value, toNat_flag]
  have hleft := limb_lt left
  have hright := limb_lt right
  have hlow := limb_lt second.1
  have hbase : 2 ≤ limbBase := by decide
  have hcarry := Bool.toNat_le carry
  cases hcarryA : first.2 <;> cases hcarryB : second.2 <;>
    simp only [hcarryA, hcarryB, Bool.toNat_true, Bool.toNat_false, Bool.or_true, Bool.or_false] at * <;>
    omega

private theorem subLimb_value (left right : UInt64) (borrow : Bool) :
    let first := overflowingSub left right
    let second := overflowingSub first.1 (if borrow then 1 else 0)
    second.1.toNat + right.toNat + borrow.toNat = left.toNat + limbBase * (first.2 || second.2).toNat := by
  intro first second
  have hfirst : first.1.toNat + right.toNat = left.toNat + limbBase * first.2.toNat :=
    overflowingSub_value left right
  have hsecond : second.1.toNat + borrow.toNat = first.1.toNat + limbBase * second.2.toNat := by
    rw [← overflowingSub_value, toNat_flag]
  have hleft := limb_lt left
  have hright := limb_lt right
  have hlow := limb_lt second.1
  have hbase : 2 ≤ limbBase := by decide
  have hborrow := Bool.toNat_le borrow
  cases hcarryA : first.2 <;> cases hcarryB : second.2 <;>
    simp only [hcarryA, hcarryB, Bool.toNat_true, Bool.toNat_false, Bool.or_true, Bool.or_false] at * <;>
    omega

theorem addLimbs_value {left right : List UInt64} (carry : Bool) (h : left.length = right.length) :
    limbsToNat (addLimbs left right carry).1 + limbBase ^ left.length * (addLimbs left right carry).2.toNat =
      limbsToNat left + limbsToNat right + carry.toNat := by
  induction left generalizing right carry with
  | nil =>
      obtain rfl := List.length_eq_zero_iff.mp h.symm
      simp [addLimbs]
  | cons l left ih =>
      obtain _ | ⟨r, right⟩ := right
      · simp at h
      have hlimb := addLimb_value l r carry
      simp only at hlimb
      have hrest := @ih right ((overflowingAdd l r).2 ||
        (overflowingAdd (overflowingAdd l r).1 (if carry then 1 else 0)).2) (by simpa using h)
      simp only [addLimbs, limbsToNat_cons, List.length_cons, pow_succ]
      linear_combination hlimb + limbBase * hrest

theorem subLimbs_value {left right : List UInt64} (borrow : Bool) (h : left.length = right.length) :
    limbsToNat (subLimbs left right borrow).1 + limbsToNat right + borrow.toNat =
      limbsToNat left + limbBase ^ left.length * (subLimbs left right borrow).2.toNat := by
  induction left generalizing right borrow with
  | nil =>
      obtain rfl := List.length_eq_zero_iff.mp h.symm
      simp [subLimbs]
  | cons l left ih =>
      obtain _ | ⟨r, right⟩ := right
      · simp at h
      have hlimb := subLimb_value l r borrow
      simp only at hlimb
      have hrest := @ih right ((overflowingSub l r).2 ||
        (overflowingSub (overflowingSub l r).1 (if borrow then 1 else 0)).2) (by simpa using h)
      simp only [subLimbs, limbsToNat_cons, List.length_cons, pow_succ]
      linear_combination hlimb + limbBase * hrest

/-! ### Comparison -/

/-- The first difference of a list of limb pairs decides. -/
def firstDifference : List (UInt64 × UInt64) → Ordering
  | [] => .eq
  | (left, right) :: pairs =>
      match compare left right with
      | .eq => firstDifference pairs
      | ordering => ordering

/-- Limbs are compared from the most significant one down. -/
def compareLimbs (left right : List UInt64) : Ordering := firstDifference (left.zip right).reverse

theorem firstDifference_append (pairs : List (UInt64 × UInt64)) (left right : UInt64) :
    firstDifference (pairs ++ [(left, right)]) = (firstDifference pairs).then (compare left right) := by
  induction pairs with
  | nil => cases h : compare left right <;> simp [firstDifference, h]
  | cons pair pairs ih =>
      obtain ⟨l, r⟩ := pair
      rw [List.cons_append, firstDifference, firstDifference, ih]
      cases compare l r <;> rfl

theorem compareLimbs_cons (left right : UInt64) (lefts rights : List UInt64) :
    compareLimbs (left :: lefts) (right :: rights) = (compareLimbs lefts rights).then (compare left right) := by
  rw [compareLimbs, List.zip_cons_cons, List.reverse_cons, firstDifference_append, compareLimbs]

private theorem compare_limb (left right : UInt64) : compare left right = compare left.toNat right.toNat := by
  simp only [compare, compareOfLessAndEq, UInt64.lt_iff_toNat_lt, ← UInt64.toNat_inj]

theorem compareLimbs_value {left right : List UInt64} (h : left.length = right.length) :
    compareLimbs left right = compare (limbsToNat left) (limbsToNat right) := by
  induction left generalizing right with
  | nil =>
      obtain rfl := List.length_eq_zero_iff.mp h.symm
      rfl
  | cons l left ih =>
      obtain _ | ⟨r, right⟩ := right
      · simp at h
      have hl := limb_lt l
      have hr := limb_lt r
      rw [compareLimbs_cons, ih (by simpa using h), compare_limb, limbsToNat_cons, limbsToNat_cons]
      -- the higher limbs decide unless they agree
      rcases lt_trichotomy (limbsToNat left) (limbsToNat right) with hlt | heq | hgt
      · have hstep : limbBase * (limbsToNat left + 1) ≤ limbBase * limbsToNat right :=
          Nat.mul_le_mul_left _ hlt
        rw [Nat.mul_add] at hstep
        have hless : l.toNat + limbBase * limbsToNat left < r.toNat + limbBase * limbsToNat right := by omega
        rw [compare_lt_iff_lt.mpr hlt, compare_lt_iff_lt.mpr hless]
        rfl
      · rw [heq, compare_eq_iff_eq.mpr rfl]
        simp only [Ordering.then, compare, compareOfLessAndEq]
        split_ifs <;> first | rfl | omega
      · have hstep : limbBase * (limbsToNat right + 1) ≤ limbBase * limbsToNat left :=
          Nat.mul_le_mul_left _ hgt
        rw [Nat.mul_add] at hstep
        have hmore : r.toNat + limbBase * limbsToNat right < l.toNat + limbBase * limbsToNat left := by omega
        rw [compare_gt_iff_gt.mpr hgt, compare_gt_iff_gt.mpr hmore]
        rfl

/-! ### Bits and shifts -/

/-- Bit `index`, counted from the least significant one. -/
def limbsBit (limbs : List UInt64) (index : Nat) : Bool :=
  ((limbs.getD (index / 64) 0 >>> UInt64.ofNat (index % 64)) &&& 1) != 0

/-- One bit to the left, with what enters at the low end and what leaves at the high end. -/
def shiftLeftOne : List UInt64 → UInt64 → List UInt64 × UInt64
  | [], carry => ([], carry)
  | limb :: limbs, carry =>
      let (rest, carryOut) := shiftLeftOne limbs (limb >>> 63)
      ((limb <<< 1 ||| carry) :: rest, carryOut)

private theorem limb_bit (limb : UInt64) {offset : Nat} (h : offset < 64) :
    (((limb >>> UInt64.ofNat offset) &&& 1) != 0) = limb.toNat.testBit offset := by
  have hoffset : (UInt64.ofNat offset).toNat % 64 = offset := by
    rw [UInt64.toNat_ofNat_of_lt' (by simp [UInt64.size]; omega), Nat.mod_eq_of_lt h]
  rw [Nat.testBit_eq_decide_div_mod_eq, Bool.eq_iff_iff, bne_iff_ne, decide_eq_true_iff, ne_eq,
    ← UInt64.toNat_inj, UInt64.toNat_and, UInt64.toNat_shiftRight, hoffset, UInt64.toNat_one,
    UInt64.toNat_zero, Nat.and_one_is_mod, Nat.shiftRight_eq_div_pow]
  omega

theorem limbsBit_eq_testBit (limbs : List UInt64) (index : Nat) :
    limbsBit limbs index = (limbsToNat limbs).testBit index := by
  induction limbs generalizing index with
  | nil => simp [limbsBit]
  | cons limb limbs ih =>
      rw [limbsToNat_cons, Nat.add_comm, limbBase, Nat.testBit_two_pow_mul_add _ limb.toNat_lt]
      by_cases hlow : index < 64
      · rw [if_pos hlow, limbsBit, Nat.div_eq_of_lt hlow, Nat.mod_eq_of_lt hlow, List.getD_cons_zero,
          limb_bit _ hlow]
      · obtain ⟨index, rfl⟩ := Nat.exists_eq_add_of_le (Nat.le_of_not_lt hlow)
        rw [if_neg hlow, Nat.add_sub_cancel_left, ← ih, limbsBit, limbsBit,
          Nat.add_div_left _ (by decide), Nat.add_mod_left, List.getD_cons_succ]

/-- What a limb becomes and what it passes on. -/
private theorem shiftLimb_value (limb carry : UInt64) (hcarry : carry.toNat ≤ 1) :
    (limb <<< 1 ||| carry).toNat + limbBase * (limb >>> 63).toNat = 2 * limb.toNat + carry.toNat := by
  have hlimb := limb_lt limb
  have heven : limb.toNat <<< 1 % 2 ^ 64 = (limb.toNat % 2 ^ 63) <<< 1 := by
    simp only [Nat.shiftLeft_eq]
    omega
  rw [UInt64.toNat_or, UInt64.toNat_shiftLeft, UInt64.toNat_shiftRight]
  simp only [UInt64.reduceToNat, Nat.reduceMod]
  rw [heven, ← Nat.shiftLeft_add_eq_or_of_lt (by omega), Nat.shiftLeft_eq, Nat.shiftRight_eq_div_pow, limbBase]
  simp only [limbBase] at hlimb
  omega

theorem length_shiftLeftOne (limbs : List UInt64) (carry : UInt64) :
    (shiftLeftOne limbs carry).1.length = limbs.length := by
  induction limbs generalizing carry with
  | nil => rfl
  | cons limb limbs ih => rw [shiftLeftOne, List.length_cons, ih, List.length_cons]

theorem shiftLeftOne_value (limbs : List UInt64) {carry : UInt64} (hcarry : carry.toNat ≤ 1) :
    limbsToNat (shiftLeftOne limbs carry).1 + limbBase ^ limbs.length * (shiftLeftOne limbs carry).2.toNat =
      2 * limbsToNat limbs + carry.toNat := by
  induction limbs generalizing carry with
  | nil => simp [shiftLeftOne]
  | cons limb limbs ih =>
      have hout : (limb >>> 63).toNat ≤ 1 := by
        have hlimb := limb.toNat_lt
        rw [UInt64.toNat_shiftRight, Nat.shiftRight_eq_div_pow]
        simp only [UInt64.reduceToNat, Nat.reduceMod]
        omega
      have hlimb := shiftLimb_value limb carry hcarry
      have hrest := ih hout
      simp only [shiftLeftOne, limbsToNat_cons, List.length_cons, pow_succ]
      linear_combination hlimb + limbBase * hrest

/-- A loop over the bits of a number from the top down, with `n` bits to go: what one turn does to the bits
read so far, the whole loop does to the number. -/
theorem foldl_bits_invariant {α : Type} (P : Nat → α → Prop) (step : α → Nat → α) (value : Nat)
    (hstep : ∀ a index, P (value / 2 ^ (index + 1)) a →
      P (2 * (value / 2 ^ (index + 1)) + (value.testBit index).toNat) (step a index))
    (n : Nat) (a : α) (h : P (value / 2 ^ n) a) : P value ((List.range n).reverse.foldl step a) := by
  induction n generalizing a with
  | zero => simpa using h
  | succ n ih =>
      have hbits : 2 * (value / 2 ^ (n + 1)) + (value.testBit n).toNat = value / 2 ^ n := by
        rw [Nat.toNat_testBit, pow_succ, ← Nat.div_div_eq_div_mul]
        omega
      rw [List.range_succ, List.reverse_append, List.reverse_singleton, List.singleton_append, List.foldl_cons]
      apply ih
      rw [← hbits]
      exact hstep a n h

/-! ### Multiplication -/

/-- What the 128-bit accumulator holds. -/
def accumulate (product output carry : Nat) : Nat := (product + output + carry) % 2 ^ 128

/-- The carry that a row leaves runs up the limbs above it. There is none to take it past the last limb. -/
def propagateCarry : List UInt64 → Nat → Option (List UInt64)
  | output, 0 => some output
  | [], _ + 1 => none
  | limb :: output, carry + 1 =>
      let accumulated := accumulate 0 limb.toNat (carry + 1)
      (propagateCarry output (accumulated >>> 64)).map (UInt64.ofNat accumulated :: ·)

/-- One row of the product added to the limbs from its place on. -/
def multiplyRow (left : UInt64) : List UInt64 → List UInt64 → Nat → Option (List UInt64)
  | [], output, carry => propagateCarry output carry
  | _ :: _, [], _ => none
  | right :: rights, limb :: output, carry =>
      let accumulated := accumulate (left.toNat * right.toNat) limb.toNat carry
      (multiplyRow left rights output (accumulated >>> 64)).map (UInt64.ofNat accumulated :: ·)

/-- The rows of the product, each one limb above the row before it. -/
def multiplyRows : List UInt64 → List UInt64 → List UInt64 → Option (List UInt64)
  | [], _, output => some output
  | left :: lefts, rights, output =>
      match multiplyRow left rights output 0 with
      | some (limb :: output) => (multiplyRows lefts rights output).map (limb :: ·)
      | _ => none

/-- An accumulator that did not overflow splits into the limb stored and the carry passed on. -/
private theorem accumulated_split {accumulated : Nat} :
    (UInt64.ofNat accumulated).toNat + limbBase * (accumulated >>> 64) = accumulated := by
  rw [UInt64.toNat_ofNat', Nat.shiftRight_eq_div_pow, limbBase]
  exact Nat.mod_add_div _ _

private theorem accumulate_eq {product limb carry : Nat} (hproduct : product ≤ (limbBase - 1) * (limbBase - 1))
    (hlimb : limb < limbBase) (hcarry : carry < limbBase) :
    accumulate product limb carry = product + limb + carry := by
  have hmax : (limbBase - 1) * (limbBase - 1) + 2 * (limbBase - 1) < 2 ^ 128 := by decide
  exact Nat.mod_eq_of_lt (by omega)

private theorem accumulate_shift_lt {product limb carry : Nat} : accumulate product limb carry >>> 64 < limbBase := by
  have hlt : accumulate product limb carry < 2 ^ 128 := Nat.mod_lt _ (by decide)
  rw [Nat.shiftRight_eq_div_pow, limbBase]
  omega

theorem propagateCarry_value {output : List UInt64} {carry : Nat} (hcarry : carry < limbBase)
    (hfits : limbsToNat output + carry < limbBase ^ output.length) :
    ∃ output', propagateCarry output carry = some output' ∧ output'.length = output.length ∧
      limbsToNat output' = limbsToNat output + carry := by
  induction output generalizing carry with
  | nil =>
      obtain rfl : carry = 0 := by simpa using hfits
      exact ⟨[], by rw [propagateCarry], rfl, rfl⟩
  | cons limb output ih =>
      obtain _ | carry := carry
      · exact ⟨limb :: output, by rw [propagateCarry], rfl, rfl⟩
      have hsum := accumulate_eq (Nat.zero_le _) (limb_lt limb) hcarry
      have hsplit := @accumulated_split (accumulate 0 limb.toNat (carry + 1))
      rw [Nat.zero_add] at hsum
      rw [limbsToNat_cons, List.length_cons, pow_succ'] at hfits
      obtain ⟨output', houtput, hlength, hvalue⟩ := @ih (accumulate 0 limb.toNat (carry + 1) >>> 64)
        accumulate_shift_lt (by
          apply Nat.lt_of_mul_lt_mul_left (a := limbBase)
          rw [Nat.mul_add]
          omega)
      refine ⟨_ :: output', by rw [propagateCarry, houtput]; rfl, by rw [List.length_cons, hlength]; rfl, ?_⟩
      rw [limbsToNat_cons, limbsToNat_cons, hvalue]
      linear_combination hsplit + hsum

theorem multiplyRow_value {left : UInt64} {rights output : List UInt64} {carry : Nat}
    (hlength : rights.length ≤ output.length) (hcarry : carry < limbBase)
    (hfits : limbsToNat output + left.toNat * limbsToNat rights + carry < limbBase ^ output.length) :
    ∃ output', multiplyRow left rights output carry = some output' ∧ output'.length = output.length ∧
      limbsToNat output' = limbsToNat output + left.toNat * limbsToNat rights + carry := by
  induction rights generalizing output carry with
  | nil =>
      rw [limbsToNat_nil, Nat.mul_zero, Nat.add_zero] at hfits ⊢
      exact propagateCarry_value hcarry hfits
  | cons right rights ih =>
      obtain _ | ⟨limb, output⟩ := output
      · simp at hlength
      have hproduct : left.toNat * right.toNat ≤ (limbBase - 1) * (limbBase - 1) :=
        Nat.mul_le_mul (Nat.le_sub_one_of_lt (limb_lt left)) (Nat.le_sub_one_of_lt (limb_lt right))
      have hsum := accumulate_eq hproduct (limb_lt limb) hcarry
      have hsplit := @accumulated_split (accumulate (left.toNat * right.toNat) limb.toNat carry)
      rw [limbsToNat_cons, limbsToNat_cons, List.length_cons, pow_succ'] at hfits
      obtain ⟨output', houtput, hlength', hvalue⟩ := @ih output
        (accumulate (left.toNat * right.toNat) limb.toNat carry >>> 64)
        (by simpa using hlength) accumulate_shift_lt (by
          apply Nat.lt_of_mul_lt_mul_left (a := limbBase)
          calc limbBase * (limbsToNat output + left.toNat * limbsToNat rights +
                accumulate (left.toNat * right.toNat) limb.toNat carry >>> 64)
              ≤ limb.toNat + limbBase * limbsToNat output +
                  left.toNat * (right.toNat + limbBase * limbsToNat rights) + carry := by
                have : limbBase * (accumulate (left.toNat * right.toNat) limb.toNat carry >>> 64) ≤
                    left.toNat * right.toNat + limb.toNat + carry := by omega
                linarith [this]
            _ < limbBase * limbBase ^ output.length := hfits)
      refine ⟨_ :: output', by rw [multiplyRow, houtput]; rfl, by rw [List.length_cons, hlength']; rfl, ?_⟩
      rw [limbsToNat_cons, limbsToNat_cons, limbsToNat_cons, hvalue]
      linear_combination hsplit + hsum

theorem multiplyRows_value {lefts rights output : List UInt64}
    (hlength : lefts.length + rights.length ≤ output.length)
    (hfits : limbsToNat output + limbsToNat lefts * limbsToNat rights < limbBase ^ output.length) :
    ∃ output', multiplyRows lefts rights output = some output' ∧ output'.length = output.length ∧
      limbsToNat output' = limbsToNat output + limbsToNat lefts * limbsToNat rights := by
  induction lefts generalizing output with
  | nil =>
      refine ⟨output, by rw [multiplyRows], rfl, ?_⟩
      rw [limbsToNat_nil, Nat.zero_mul, Nat.add_zero]
  | cons left lefts ih =>
      rw [List.length_cons] at hlength
      rw [limbsToNat_cons] at hfits ⊢
      obtain ⟨row, hrow, hrowLength, hrowValue⟩ := @multiplyRow_value left rights output 0 (by omega)
        (by decide) (by linarith [Nat.zero_le (limbBase * limbsToNat lefts * limbsToNat rights), hfits])
      obtain _ | ⟨limb, row⟩ := row
      · simp at hrowLength
        omega
      rw [limbsToNat_cons] at hrowValue
      rw [List.length_cons] at hrowLength
      obtain ⟨output', houtput, hlength', hvalue⟩ := @ih row (by omega) (by
        apply Nat.lt_of_mul_lt_mul_left (a := limbBase)
        calc limbBase * (limbsToNat row + limbsToNat lefts * limbsToNat rights)
            ≤ limbsToNat output + (left.toNat + limbBase * limbsToNat lefts) * limbsToNat rights := by
              linarith [hrowValue, Nat.zero_le limb.toNat]
          _ < limbBase ^ output.length := hfits
          _ = limbBase * limbBase ^ row.length := by rw [← hrowLength, pow_succ'])
      refine ⟨limb :: output', by rw [multiplyRows, hrow]; simp [houtput], by
        rw [List.length_cons, hlength', hrowLength], ?_⟩
      rw [limbsToNat_cons, hvalue]
      linear_combination hrowValue

/-! ### Multiplication with checked accumulators -/

/-- The accumulator, if its 128 bits hold the sum. -/
def accumulateChecked (product output carry : Nat) : Option Nat :=
  if product + output + carry < 2 ^ 128 then some (product + output + carry) else none

def propagateCarryChecked : List UInt64 → Nat → Option (List UInt64)
  | output, 0 => some output
  | [], _ + 1 => none
  | limb :: output, carry + 1 =>
      (accumulateChecked 0 limb.toNat (carry + 1)).bind fun accumulated =>
        (propagateCarryChecked output (accumulated >>> 64)).map (UInt64.ofNat accumulated :: ·)

def multiplyRowChecked (left : UInt64) : List UInt64 → List UInt64 → Nat → Option (List UInt64)
  | [], output, carry => propagateCarryChecked output carry
  | _ :: _, [], _ => none
  | right :: rights, limb :: output, carry =>
      (accumulateChecked (left.toNat * right.toNat) limb.toNat carry).bind fun accumulated =>
        (multiplyRowChecked left rights output (accumulated >>> 64)).map (UInt64.ofNat accumulated :: ·)

def multiplyRowsChecked : List UInt64 → List UInt64 → List UInt64 → Option (List UInt64)
  | [], _, output => some output
  | left :: lefts, rights, output =>
      match multiplyRowChecked left rights output 0 with
      | some (limb :: output) => (multiplyRowsChecked lefts rights output).map (limb :: ·)
      | _ => none

private theorem accumulateChecked_eq {product limb carry : Nat} (hproduct : product ≤ (limbBase - 1) * (limbBase - 1))
    (hlimb : limb < limbBase) (hcarry : carry < limbBase) :
    accumulateChecked product limb carry = some (accumulate product limb carry) := by
  have hmax : (limbBase - 1) * (limbBase - 1) + 2 * (limbBase - 1) < 2 ^ 128 := by decide
  rw [accumulate_eq hproduct hlimb hcarry, accumulateChecked, if_pos (by omega)]

theorem propagateCarryChecked_eq (output : List UInt64) {carry : Nat} (hcarry : carry < limbBase) :
    propagateCarryChecked output carry = propagateCarry output carry := by
  induction output generalizing carry with
  | nil => cases carry <;> rfl
  | cons limb output ih =>
      cases carry with
      | zero => rfl
      | succ carry =>
          rw [propagateCarryChecked, propagateCarry, accumulateChecked_eq (Nat.zero_le _) (limb_lt limb) hcarry,
            Option.bind_some, ih accumulate_shift_lt]

theorem multiplyRowChecked_eq (left : UInt64) (rights output : List UInt64) {carry : Nat} (hcarry : carry < limbBase) :
    multiplyRowChecked left rights output carry = multiplyRow left rights output carry := by
  induction rights generalizing output carry with
  | nil => exact propagateCarryChecked_eq output hcarry
  | cons right rights ih =>
      cases output with
      | nil => rfl
      | cons limb output =>
          have hproduct : left.toNat * right.toNat ≤ (limbBase - 1) * (limbBase - 1) :=
            Nat.mul_le_mul (Nat.le_sub_one_of_lt (limb_lt left)) (Nat.le_sub_one_of_lt (limb_lt right))
          rw [multiplyRowChecked, multiplyRow, accumulateChecked_eq hproduct (limb_lt limb) hcarry, Option.bind_some,
            ih output accumulate_shift_lt]

/-- No accumulator overflows. -/
theorem multiplyRowsChecked_eq (lefts rights output : List UInt64) :
    multiplyRowsChecked lefts rights output = multiplyRows lefts rights output := by
  induction lefts generalizing output with
  | nil => rfl
  | cons left lefts ih =>
      rw [multiplyRowsChecked, multiplyRows, multiplyRowChecked_eq left rights output (by decide)]
      split
      · rw [ih]
      · rfl

end BareProxy
