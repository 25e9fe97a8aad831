import BareProxy.Base.Endian
import BareProxy.Base.Limbs
import Mathlib.Data.Nat.ModEq

/-!
# 256-bit integers

The fixed-width integers of `p256.rs` and the modular arithmetic on them. `toNat` is the number that the
limbs stand for; every operation has one lemma that says what it does to that number.
-/

namespace BareProxy.P256

/-- Four limbs, the least significant first. -/
structure Uint256 where
  limbs : List UInt64
  length_limbs : limbs.length = 4
  deriving DecidableEq, Repr

/-- Eight limbs, the least significant first. -/
structure WideUint512 where
  limbs : List UInt64
  length_limbs : limbs.length = 8
  deriving DecidableEq, Repr

namespace Uint256

def toNat (value : Uint256) : Nat := limbsToNat value.limbs

theorem toNat_lt (value : Uint256) : value.toNat < 2 ^ 256 := by
  have hlt := limbsToNat_lt value.limbs
  rw [value.length_limbs] at hlt
  exact hlt

theorem toNat_injective : Function.Injective toNat := by
  intro left right h
  obtain ⟨left, hleft⟩ := left
  obtain ⟨right, hright⟩ := right
  obtain rfl := limbsToNat_injective (hleft.trans hright.symm) h
  rfl

theorem toNat_inj {left right : Uint256} : left.toNat = right.toNat ↔ left = right := toNat_injective.eq_iff

/-- `Uint256([low, ...])`. -/
def fromLimbs (a b c d : UInt64) : Uint256 := ⟨[a, b, c, d], rfl⟩

def zero : Uint256 := fromLimbs 0 0 0 0

def one : Uint256 := fromLimbs 1 0 0 0

@[simp] theorem toNat_zero : zero.toNat = 0 := rfl

@[simp] theorem toNat_one : one.toNat = 1 := rfl

/-- Limb `index` is read from the eight bytes that start at `32 - (index + 1) * 8`. -/
def fromBeBytes (bytes : ByteArrayN 32) : Uint256 where
  limbs := (List.range 4).map fun index =>
    UInt64.ofNat (ofBe ((bytes.toList.drop (32 - (index + 1) * 8)).take 8))
  length_limbs := by simp

/-- Limb `index` fills the eight bytes that start at `32 - (index + 1) * 8`. -/
def toBeBytes (value : Uint256) : ByteArrayN 32 :=
  arrayOf (value.limbs.reverse.flatMap fun limb => beBytes 8 limb.toNat) (by simp [value.length_limbs])

def overflowingAdd (left right : Uint256) : Uint256 × Bool :=
  (⟨(addLimbs left.limbs right.limbs false).1, by
    rw [length_addLimbs _ (left.length_limbs.trans right.length_limbs.symm), left.length_limbs]⟩,
   (addLimbs left.limbs right.limbs false).2)

def overflowingSub (left right : Uint256) : Uint256 × Bool :=
  (⟨(subLimbs left.limbs right.limbs false).1, by
    rw [length_subLimbs _ (left.length_limbs.trans right.length_limbs.symm), left.length_limbs]⟩,
   (subLimbs left.limbs right.limbs false).2)

def bit (value : Uint256) (index : Nat) : Bool := limbsBit value.limbs index

def cmp (left right : Uint256) : Ordering := compareLimbs left.limbs right.limbs

theorem toNat_overflowingAdd (left right : Uint256) :
    (left.overflowingAdd right).1.toNat + 2 ^ 256 * (left.overflowingAdd right).2.toNat =
      left.toNat + right.toNat := by
  have hsum := addLimbs_value false (left.length_limbs.trans right.length_limbs.symm)
  rw [left.length_limbs] at hsum
  exact hsum

theorem toNat_overflowingSub (left right : Uint256) :
    (left.overflowingSub right).1.toNat + right.toNat =
      left.toNat + 2 ^ 256 * (left.overflowingSub right).2.toNat := by
  have hdifference := subLimbs_value false (left.length_limbs.trans right.length_limbs.symm)
  rw [left.length_limbs] at hdifference
  exact hdifference

/-- Taking away no more than there is. -/
theorem toNat_overflowingSub_of_le {left right : Uint256} (h : right.toNat ≤ left.toNat) :
    (left.overflowingSub right).1.toNat = left.toNat - right.toNat := by
  have hdifference := left.toNat_overflowingSub right
  have hlt := (left.overflowingSub right).1.toNat_lt
  have hright := right.toNat_lt
  cases hborrow : (left.overflowingSub right).2 <;>
    simp only [hborrow, Bool.toNat_true, Bool.toNat_false] at hdifference <;>
    omega

theorem bit_eq_testBit (value : Uint256) (index : Nat) : value.bit index = value.toNat.testBit index :=
  limbsBit_eq_testBit _ _

theorem cmp_eq_compare (left right : Uint256) : left.cmp right = compare left.toNat right.toNat :=
  compareLimbs_value (left.length_limbs.trans right.length_limbs.symm)

theorem cmp_ne_lt {left right : Uint256} : left.cmp right ≠ .lt ↔ right.toNat ≤ left.toNat := by
  rw [cmp_eq_compare, ne_eq, compare_lt_iff_lt, Nat.not_lt]

theorem cmp_eq_lt {left right : Uint256} : left.cmp right = .lt ↔ left.toNat < right.toNat := by
  rw [cmp_eq_compare, compare_lt_iff_lt]

/-- The rows of the product of two values fit into eight limbs, so the overflow assertion holds. -/
theorem multiplyRows_fits (left right : Uint256) :
    ∃ output, multiplyRows left.limbs right.limbs (List.replicate 8 0) = some output ∧ output.length = 8 ∧
      limbsToNat output = left.toNat * right.toNat := by
  have hproduct : left.toNat * right.toNat < 2 ^ 256 * 2 ^ 256 :=
    Nat.mul_lt_mul'' left.toNat_lt right.toNat_lt
  have hzero : limbsToNat (List.replicate 8 0) = 0 := rfl
  obtain ⟨output, honeOutput, hlength, hvalue⟩ := @multiplyRows_value left.limbs right.limbs (List.replicate 8 0)
    (by simp [left.length_limbs, right.length_limbs]) (by
      rw [hzero, Nat.zero_add, List.length_replicate]
      exact hproduct)
  refine ⟨output, honeOutput, by simpa using hlength, ?_⟩
  rw [hvalue, hzero, Nat.zero_add]
  rfl

def multiplyWide (left right : Uint256) : WideUint512 where
  limbs := (multiplyRows left.limbs right.limbs (List.replicate 8 0)).get (by
    obtain ⟨output, houtput, -⟩ := multiplyRows_fits left right
    rw [houtput]
    rfl)
  length_limbs := by
    obtain ⟨output, houtput, hlength, -⟩ := multiplyRows_fits left right
    exact (congrArg List.length (Option.get_of_eq_some _ houtput)).trans hlength

theorem limbsToNat_multiplyWide (left right : Uint256) :
    limbsToNat (left.multiplyWide right).limbs = left.toNat * right.toNat := by
  obtain ⟨output, houtput, -, hvalue⟩ := multiplyRows_fits left right
  rw [← hvalue]
  exact congrArg limbsToNat (Option.get_of_eq_some _ houtput)

/-! ### Bytes -/

private theorem toNat_ofNat_ofBe {bytes : Bytes} (h : bytes.length = 8) :
    (UInt64.ofNat (ofBe bytes)).toNat = ofBe bytes := by
  have hlt : ofBe bytes < 256 ^ 8 := h ▸ ofBe_lt bytes
  rw [UInt64.toNat_ofNat']
  exact Nat.mod_eq_of_lt hlt

private theorem exists_append {bytes : Bytes} {n m : Nat} (h : bytes.length = n + m) :
    ∃ front back, bytes = front ++ back ∧ front.length = n ∧ back.length = m :=
  ⟨bytes.take n, bytes.drop n, (List.take_append_drop n bytes).symm, by simp [h], by simp [h]⟩

theorem toNat_fromBeBytes (bytes : ByteArrayN 32) : (fromBeBytes bytes).toNat = ofBe bytes.toList := by
  have hlength : bytes.toList.length = 8 + (8 + (8 + 8)) := by simp
  -- the four groups of eight bytes, the most significant first
  obtain ⟨d, bytes₁, hd, hdLength, hlength₁⟩ := exists_append hlength
  obtain ⟨c, bytes₂, rfl, hcLength, hlength₂⟩ := exists_append hlength₁
  obtain ⟨b, a, rfl, hbLength, haLength⟩ := exists_append hlength₂
  have hlimbs : (fromBeBytes bytes).limbs =
      [UInt64.ofNat (ofBe a), UInt64.ofNat (ofBe b), UInt64.ofNat (ofBe c), UInt64.ofNat (ofBe d)] := by
    simp [fromBeBytes, hd, List.range_succ, List.drop_append, List.take_append, List.drop_eq_nil_of_le,
      List.take_of_length_le, hdLength, hcLength, hbLength, haLength]
  have hbase : limbBase = 256 ^ 8 := by decide
  rw [toNat, hlimbs, hd]
  simp only [limbsToNat_cons, limbsToNat_nil, toNat_ofNat_ofBe haLength, toNat_ofNat_ofBe hbLength,
    toNat_ofNat_ofBe hcLength, toNat_ofNat_ofBe hdLength, ofBe_append, List.length_append, haLength, hbLength,
    hcLength, hbase]
  ring

private theorem ofBe_limbs (limbs : List UInt64) :
    ofBe (limbs.reverse.flatMap fun limb => beBytes 8 limb.toNat) = limbsToNat limbs := by
  induction limbs with
  | nil => rfl
  | cons limb limbs ih =>
      have hlimb : limb.toNat < 256 ^ 8 := limb_lt limb
      have hbase : limbBase = 256 ^ 8 := by decide
      rw [List.reverse_cons, List.flatMap_append, ofBe_append, ih, limbsToNat_cons]
      simp only [List.flatMap_cons, List.flatMap_nil, List.append_nil, length_beBytes, ofBe_beBytes,
        Nat.mod_eq_of_lt hlimb, hbase]
      ring

theorem ofBe_toBeBytes (value : Uint256) : ofBe value.toBeBytes.toList = value.toNat := by
  rw [toBeBytes, toList_arrayOf, ofBe_limbs, toNat]

@[simp] theorem fromBeBytes_toBeBytes (value : Uint256) : fromBeBytes value.toBeBytes = value := by
  apply toNat_injective
  rw [toNat_fromBeBytes, ofBe_toBeBytes]

@[simp] theorem toBeBytes_fromBeBytes (bytes : ByteArrayN 32) : (fromBeBytes bytes).toBeBytes = bytes := by
  apply array_ext
  apply ofBe_injective (by simp)
  rw [ofBe_toBeBytes, toNat_fromBeBytes]

end Uint256

def WideUint512.bit (value : WideUint512) (index : Nat) : Bool := limbsBit value.limbs index

/-! ### Reduction -/

/-- The remainder is kept in five limbs, so that it can be doubled before the modulus is taken away. -/
abbrev FiveLimbs := List UInt64

def compareFiveLimbs (left right : FiveLimbs) : Ordering := compareLimbs left right

def subtractFiveLimbs (left right : FiveLimbs) : FiveLimbs := (subLimbs left right false).1

def shiftFiveLimbsLeftOne (limbs : FiveLimbs) : FiveLimbs := (shiftLeftOne limbs 0).1

/-- `remainder[0] |= 1`. -/
def setLowBit : FiveLimbs → FiveLimbs
  | [] => []
  | limb :: limbs => (limb ||| 1) :: limbs

/-- The next bit from the top enters the remainder. -/
def enterBit (value : WideUint512) (remainder : FiveLimbs) (bitIndex : Nat) : FiveLimbs :=
  let remainder := shiftFiveLimbsLeftOne remainder
  if value.bit bitIndex then setLowBit remainder else remainder

/-- One turn of the loop of `reduce_wide`. -/
def reduceStep (value : WideUint512) (modulus remainder : FiveLimbs) (bitIndex : Nat) : FiveLimbs :=
  let remainder := enterBit value remainder bitIndex
  if compareFiveLimbs remainder modulus ≠ .lt then subtractFiveLimbs remainder modulus else remainder

def reduceLoop (value : WideUint512) (modulus : Uint256) : FiveLimbs :=
  (List.range 512).reverse.foldl (reduceStep value (modulus.limbs ++ [0])) [0, 0, 0, 0, 0]

theorem length_enterBit (value : WideUint512) (remainder : FiveLimbs) (bitIndex : Nat) :
    (enterBit value remainder bitIndex).length = remainder.length := by
  have hset : ∀ limbs : FiveLimbs, (setLowBit limbs).length = limbs.length := by
    intro limbs
    cases limbs <;> rfl
  rw [enterBit]
  split
  · rw [hset, shiftFiveLimbsLeftOne, length_shiftLeftOne]
  · rw [shiftFiveLimbsLeftOne, length_shiftLeftOne]

theorem length_reduceStep (value : WideUint512) {modulus remainder : FiveLimbs} (bitIndex : Nat)
    (h : remainder.length = modulus.length) :
    (reduceStep value modulus remainder bitIndex).length = remainder.length := by
  have hentered := length_enterBit value remainder bitIndex
  rw [reduceStep]
  split
  · rw [subtractFiveLimbs, length_subLimbs _ (hentered.trans h), hentered]
  · exact hentered

theorem length_reduceLoop (value : WideUint512) (modulus : Uint256) : (reduceLoop value modulus).length = 5 := by
  have hmodulus : (modulus.limbs ++ [0]).length = 5 := by rw [List.length_append, modulus.length_limbs]; rfl
  apply List.foldlRecOn (motive := fun limbs : FiveLimbs => limbs.length = 5)
  · rfl
  · intro remainder hremainder bitIndex _
    rw [length_reduceStep value bitIndex (hremainder.trans hmodulus.symm), hremainder]

def reduceWide (value : WideUint512) (modulus : Uint256) : Uint256 where
  limbs := (reduceLoop value modulus).take 4
  length_limbs := by rw [List.length_take, length_reduceLoop]; rfl

/-- The low bit of an even number can be set without a carry. -/
theorem limbsToNat_setLowBit {limbs : FiveLimbs} (hlength : limbs ≠ []) (heven : limbsToNat limbs % 2 = 0) :
    limbsToNat (setLowBit limbs) = limbsToNat limbs + 1 := by
  obtain _ | ⟨limb, limbs⟩ := limbs
  · exact absurd rfl hlength
  have hlow : limb.toNat % 2 = 0 := by
    rw [limbsToNat_cons, limbBase] at heven
    omega
  have hor : (limb ||| 1).toNat = limb.toNat + 1 := by
    rw [UInt64.toNat_or, UInt64.toNat_one]
    have := Nat.shiftLeft_add_eq_or_of_lt (i := 1) (b := 1) (by decide) (limb.toNat / 2)
    rw [Nat.shiftLeft_eq, pow_one, Nat.div_mul_cancel (Nat.dvd_of_mod_eq_zero hlow)] at this
    exact this.symm
  rw [setLowBit, limbsToNat_cons, limbsToNat_cons, hor]
  ring

/-- A remainder of 256 bits doubles without shifting anything out. -/
theorem limbsToNat_enterBit (value : WideUint512) {remainder : FiveLimbs} (bitIndex : Nat)
    (hlength : remainder.length = 5) (hlt : limbsToNat remainder < 2 ^ 256) :
    limbsToNat (enterBit value remainder bitIndex) = 2 * limbsToNat remainder + (value.bit bitIndex).toNat := by
  have hpow : limbBase ^ 5 = 2 ^ 256 * 2 ^ 64 := by decide
  have hshift : limbsToNat (shiftFiveLimbsLeftOne remainder) = 2 * limbsToNat remainder := by
    have hvalue := @shiftLeftOne_value remainder 0 (by decide)
    rw [hlength, hpow, UInt64.toNat_zero, Nat.add_zero] at hvalue
    rw [shiftFiveLimbsLeftOne]
    omega
  have hne : shiftFiveLimbsLeftOne remainder ≠ [] := by
    apply List.ne_nil_of_length_pos
    rw [shiftFiveLimbsLeftOne, length_shiftLeftOne, hlength]
    decide
  by_cases hbit : value.bit bitIndex
  · rw [enterBit, if_pos hbit, limbsToNat_setLowBit hne (by omega), hshift, hbit, Bool.toNat_true]
  · rw [enterBit, if_neg hbit, hshift, Bool.eq_false_iff.mpr hbit, Bool.toNat_false, Nat.add_zero]

/-- With a remainder below the modulus, one turn appends a bit and reduces again, without a borrow. -/
theorem reduceStep_value (value : WideUint512) {modulus : Uint256} {remainder : FiveLimbs} (bitIndex : Nat)
    (hlength : remainder.length = 5) (hlt : limbsToNat remainder < modulus.toNat) :
    limbsToNat (reduceStep value (modulus.limbs ++ [0]) remainder bitIndex) =
      (2 * limbsToNat remainder + (value.bit bitIndex).toNat) % modulus.toNat := by
  have hmodulusLength : (modulus.limbs ++ [0]).length = 5 := by
    rw [List.length_append, modulus.length_limbs]
    rfl
  have hmodulus : limbsToNat (modulus.limbs ++ [0]) = modulus.toNat := by
    rw [limbsToNat_append]
    simp [Uint256.toNat]
  have hbit := Bool.toNat_le (value.bit bitIndex)
  have hentered := limbsToNat_enterBit value bitIndex hlength (hlt.trans modulus.toNat_lt)
  have henteredLength := (length_enterBit value remainder bitIndex).trans hlength
  have hcompare : compareFiveLimbs (enterBit value remainder bitIndex) (modulus.limbs ++ [0]) ≠ .lt ↔
      modulus.toNat ≤ 2 * limbsToNat remainder + (value.bit bitIndex).toNat := by
    rw [compareFiveLimbs, compareLimbs_value (henteredLength.trans hmodulusLength.symm), hentered, hmodulus, ne_eq,
      compare_lt_iff_lt, Nat.not_lt]
  by_cases hge : modulus.toNat ≤ 2 * limbsToNat remainder + (value.bit bitIndex).toNat
  · have hdifference := subLimbs_value false (henteredLength.trans hmodulusLength.symm)
    have hdifferenceLt := limbsToNat_lt (subLimbs (enterBit value remainder bitIndex) (modulus.limbs ++ [0]) false).1
    rw [length_subLimbs _ (henteredLength.trans hmodulusLength.symm), henteredLength] at hdifferenceLt
    rw [hentered, hmodulus, henteredLength] at hdifference
    rw [reduceStep, if_pos (hcompare.mpr hge), subtractFiveLimbs, Nat.mod_eq_sub_mod hge,
      Nat.mod_eq_of_lt (by omega)]
    cases hborrow : (subLimbs (enterBit value remainder bitIndex) (modulus.limbs ++ [0]) false).2 <;>
      simp only [hborrow, Bool.toNat_true, Bool.toNat_false] at hdifference <;>
      omega
  · rw [reduceStep, if_neg (fun h => hge (hcompare.mp h)), hentered, Nat.mod_eq_of_lt (Nat.lt_of_not_le hge)]

/-- The loop keeps the remainder of the bits read so far. -/
theorem limbsToNat_reduceLoop (value : WideUint512) {modulus : Uint256} (hpos : 0 < modulus.toNat) :
    limbsToNat (reduceLoop value modulus) = limbsToNat value.limbs % modulus.toNat := by
  have hmodulusLength : (modulus.limbs ++ [0]).length = 5 := by
    rw [List.length_append, modulus.length_limbs]
    rfl
  have hbits : limbsToNat value.limbs / 2 ^ 512 = 0 := by
    apply Nat.div_eq_of_lt
    simpa only [value.length_limbs, limbBase, ← pow_mul, Nat.reduceMul] using limbsToNat_lt value.limbs
  have hloop := foldl_bits_invariant
    (fun bits (remainder : FiveLimbs) => remainder.length = 5 ∧ limbsToNat remainder = bits % modulus.toNat)
    (reduceStep value (modulus.limbs ++ [0])) (limbsToNat value.limbs) (by
      rintro remainder index ⟨hlength, hvalue⟩
      refine ⟨by rw [length_reduceStep value index (hlength.trans hmodulusLength.symm), hlength], ?_⟩
      rw [reduceStep_value value index hlength (hvalue ▸ Nat.mod_lt _ hpos), hvalue, WideUint512.bit,
        limbsBit_eq_testBit]
      simp [Nat.add_mod, Nat.mul_mod])
    512 [0, 0, 0, 0, 0] ⟨rfl, by rw [hbits, Nat.zero_mod]; rfl⟩
  exact hloop.2

theorem toNat_reduceWide (value : WideUint512) {modulus : Uint256} (hpos : 0 < modulus.toNat) :
    (reduceWide value modulus).toNat = limbsToNat value.limbs % modulus.toNat := by
  have hloop := limbsToNat_reduceLoop value hpos
  have hlt : limbsToNat (reduceLoop value modulus) < 2 ^ 256 := by
    rw [hloop]
    exact (Nat.mod_lt _ hpos).trans modulus.toNat_lt
  have hsplit := limbsToNat_append ((reduceLoop value modulus).take 4) ((reduceLoop value modulus).drop 4)
  have hpow : limbBase ^ 4 = 2 ^ 256 := by decide
  rw [List.take_append_drop, List.length_take, length_reduceLoop, Nat.min_eq_left (by decide), hpow] at hsplit
  rw [Uint256.toNat, reduceWide, ← hloop]
  dsimp only
  omega

def reduceUint (value modulus : Uint256) : Uint256 :=
  reduceWide ⟨value.limbs ++ [0, 0, 0, 0], by rw [List.length_append, value.length_limbs]; rfl⟩ modulus

def addMod (left right modulus : Uint256) : Uint256 :=
  let (sum, carry) := left.overflowingAdd right
  reduceWide ⟨sum.limbs ++ [if carry then 1 else 0, 0, 0, 0], by rw [List.length_append, sum.length_limbs]; rfl⟩
    modulus

def subMod (left right modulus : Uint256) : Uint256 :=
  if left.cmp right ≠ .lt then
    (left.overflowingSub right).1
  else
    let difference := (right.overflowingSub left).1
    (modulus.overflowingSub difference).1

def mulMod (left right modulus : Uint256) : Uint256 := reduceWide (left.multiplyWide right) modulus

/-- One turn of the loop of `pow_mod`. -/
def powStep (base exponent modulus result : Uint256) (bitIndex : Nat) : Uint256 :=
  let result := mulMod result result modulus
  if exponent.bit bitIndex then mulMod result base modulus else result

def powMod (base exponent modulus : Uint256) : Uint256 :=
  (List.range 256).reverse.foldl (powStep (reduceUint base modulus) exponent modulus) .one

def invertMod (value modulus : Uint256) : Option Uint256 :=
  let value := reduceUint value modulus
  if value = .zero then
    none
  else
    let two := Uint256.fromLimbs 2 0 0 0
    let exponent := (modulus.overflowingSub two).1
    some (powMod value exponent modulus)

section Modulus

variable {modulus : Uint256}

theorem toNat_reduceUint (value : Uint256) (hpos : 0 < modulus.toNat) :
    (reduceUint value modulus).toNat = value.toNat % modulus.toNat := by
  rw [reduceUint, toNat_reduceWide _ hpos, limbsToNat_append]
  simp [Uint256.toNat]

theorem toNat_addMod (left right : Uint256) (hpos : 0 < modulus.toNat) :
    (addMod left right modulus).toNat = (left.toNat + right.toNat) % modulus.toNat := by
  have hsum := left.toNat_overflowingAdd right
  have hpow : limbBase ^ 4 = 2 ^ 256 := by decide
  rw [addMod, toNat_reduceWide _ hpos, limbsToNat_append, (left.overflowingAdd right).1.length_limbs, hpow, ← hsum]
  cases (left.overflowingAdd right).2 <;> simp [Uint256.toNat]

theorem toNat_subMod {left right : Uint256} (hleft : left.toNat < modulus.toNat) (hright : right.toNat < modulus.toNat) :
    (subMod left right modulus).toNat = (left.toNat + (modulus.toNat - right.toNat)) % modulus.toNat := by
  rw [subMod]
  split
  · rename_i hge
    rw [Uint256.cmp_ne_lt] at hge
    rw [Uint256.toNat_overflowingSub_of_le hge]
    have hsplit : left.toNat + (modulus.toNat - right.toNat) = left.toNat - right.toNat + modulus.toNat := by omega
    rw [hsplit, Nat.add_mod_right, Nat.mod_eq_of_lt (by omega)]
  · rename_i hlt
    rw [Uint256.cmp_ne_lt, Nat.not_le] at hlt
    have hdifference := Uint256.toNat_overflowingSub_of_le hlt.le
    rw [Uint256.toNat_overflowingSub_of_le (by omega), hdifference, Nat.mod_eq_of_lt (by omega)]
    omega

theorem toNat_mulMod (left right : Uint256) (hpos : 0 < modulus.toNat) :
    (mulMod left right modulus).toNat = left.toNat * right.toNat % modulus.toNat := by
  rw [mulMod, toNat_reduceWide _ hpos, Uint256.limbsToNat_multiplyWide]

theorem powStep_lt (base exponent result : Uint256) (bitIndex : Nat) (hpos : 0 < modulus.toNat) :
    (powStep base exponent modulus result bitIndex).toNat < modulus.toNat := by
  rw [powStep]
  split <;> rw [toNat_mulMod _ _ hpos] <;> exact Nat.mod_lt _ hpos

/-- The loop keeps the power for the exponent bits read so far. -/
theorem toNat_powMod (base exponent : Uint256) (hpos : 0 < modulus.toNat) :
    (powMod base exponent modulus).toNat = base.toNat ^ exponent.toNat % modulus.toNat := by
  have hloop := foldl_bits_invariant
    (fun bits (result : Uint256) => result.toNat ≡ base.toNat ^ bits [MOD modulus.toNat])
    (powStep (reduceUint base modulus) exponent modulus) exponent.toNat (by
      intro result index h
      have hbase : (reduceUint base modulus).toNat ≡ base.toNat [MOD modulus.toNat] := by
        rw [toNat_reduceUint _ hpos]
        exact Nat.mod_modEq _ _
      have hsquare : (mulMod result result modulus).toNat ≡
          base.toNat ^ (2 * (exponent.toNat / 2 ^ (index + 1))) [MOD modulus.toNat] := by
        rw [toNat_mulMod _ _ hpos, two_mul, pow_add]
        exact (Nat.mod_modEq _ _).trans (h.mul h)
      rw [powStep, Uint256.bit_eq_testBit]
      cases exponent.toNat.testBit index with
      | false => simpa using hsquare
      | true =>
          rw [if_pos rfl, toNat_mulMod _ _ hpos, Bool.toNat_true, pow_succ]
          exact (Nat.mod_modEq _ _).trans (hsquare.mul hbase))
    256 .one (by rw [Nat.div_eq_of_lt exponent.toNat_lt, pow_zero]; rfl)
  have hreduced : (powMod base exponent modulus).toNat < modulus.toNat := by
    rw [powMod, List.range_succ_eq_map, List.reverse_cons, List.foldl_append]
    exact powStep_lt _ _ _ _ hpos
  rw [← Nat.mod_eq_of_lt hreduced]
  exact hloop

theorem invertMod_eq_none_iff (value : Uint256) (hpos : 0 < modulus.toNat) :
    invertMod value modulus = none ↔ value.toNat % modulus.toNat = 0 := by
  have hzero : reduceUint value modulus = .zero ↔ value.toNat % modulus.toNat = 0 := by
    rw [← Uint256.toNat_inj, toNat_reduceUint _ hpos, Uint256.toNat_zero]
  rw [← hzero, invertMod]
  by_cases h : reduceUint value modulus = .zero
  · simp [h]
  · simp [h]

theorem toNat_invertMod {value inverse : Uint256} (hmodulus : 2 ≤ modulus.toNat)
    (h : invertMod value modulus = some inverse) :
    inverse.toNat = value.toNat ^ (modulus.toNat - 2) % modulus.toNat := by
  have hpos : 0 < modulus.toNat := by omega
  rw [invertMod] at h
  split at h
  · cases h
  · cases h
    have htwo : (Uint256.fromLimbs 2 0 0 0).toNat = 2 := rfl
    rw [toNat_powMod _ _ hpos, Uint256.toNat_overflowingSub_of_le (htwo ▸ hmodulus), htwo, toNat_reduceUint _ hpos,
      ← Nat.pow_mod]

end Modulus

end BareProxy.P256
