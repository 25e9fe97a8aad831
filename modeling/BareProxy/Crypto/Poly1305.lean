import BareProxy.Base.Chunks
import BareProxy.Base.LittleEndian
import BareProxy.Base.Run
import BareProxy.Base.Words
import BareProxy.Crypto.Aead
import Mathlib.Algebra.BigOperators.Fin

/-!
# Poly1305

The one-time authenticator of RFC 8439, and that `poly1305_authenticate` computes it without an overflow.
The accumulator is five limbs of 26 bits whose second one may be a little longer between two blocks.
-/

namespace BareProxy.Crypto

/-! ### The authenticator -/

def poly1305Prime : Nat := 2 ^ 130 - 5

def clamp (r : Nat) : Nat := r &&& 0x0ffffffc0ffffffc0ffffffc0fffffff

/-- A block with the bit behind its last byte. -/
def blockNumber (chunk : Bytes) : Nat := ofLe (chunk ++ [1])

def polynomial (r : Nat) (blocks : List Nat) : Nat := ∑ i : Fin blocks.length, blocks.get i * r ^ (blocks.length - i)

def poly1305Tag (key : ByteArrayN 32) (message : Bytes) : ByteArrayN 16 :=
  let r := clamp (ofLe (key.toList.take 16))
  let s := ofLe (key.toList.drop 16)
  let blocks := (chunks 16 message).map blockNumber
  leArray 16 ((polynomial r blocks % poly1305Prime + s) % 2 ^ 128)

theorem polynomial_nil (r : Nat) : polynomial r [] = 0 := Fin.sum_univ_zero _

theorem polynomial_cons (r block : Nat) (blocks : List Nat) :
    polynomial r (block :: blocks) = block * r ^ (blocks.length + 1) + polynomial r blocks := by
  rw [polynomial, polynomial]
  simp [Fin.sum_univ_succ]

/-! ### Limbs -/

@[simp] theorem toNat_poly1305LimbMask : poly1305LimbMask.toNat = 2 ^ 26 - 1 := rfl

namespace Limbs

def value (limbs : Limbs) : Nat :=
  limbs.l0.toNat + 2 ^ 26 * limbs.l1.toNat + 2 ^ 52 * limbs.l2.toNat + 2 ^ 78 * limbs.l3.toNat +
    2 ^ 104 * limbs.l4.toNat

/-- Every limb is below a bound. -/
structure Below (bound : Nat) (limbs : Limbs) : Prop where
  l0 : limbs.l0.toNat < bound
  l1 : limbs.l1.toNat < bound
  l2 : limbs.l2.toNat < bound
  l3 : limbs.l3.toNat < bound
  l4 : limbs.l4.toNat < bound

theorem Below.mono {bound bound' : Nat} {limbs : Limbs} (h : limbs.Below bound) (hle : bound ≤ bound') :
    limbs.Below bound' :=
  ⟨h.l0.trans_le hle, h.l1.trans_le hle, h.l2.trans_le hle, h.l3.trans_le hle, h.l4.trans_le hle⟩

end Limbs

/-! ### Bytes as limbs -/

theorem toNat_and_limbMask (word : UInt64) : (word &&& poly1305LimbMask).toNat = word.toNat % 2 ^ 26 :=
  toNat_and_mask word toNat_poly1305LimbMask

theorem toNat_shiftRight_26 (word : UInt64) : (word >>> 26).toNat = word.toNat / 2 ^ 26 :=
  toNat_shiftRight_eq_div word _ (by decide)

theorem toNat_wordAt (bytes : Bytes) (offset : Nat) :
    (wordAt bytes offset).toNat = ofLe bytes / 256 ^ offset % 2 ^ 32 := by
  have hpow : 256 ^ 4 = 2 ^ 32 := by decide
  rw [wordAt, UInt32.toNat_toUInt64, readU32Le, UInt32.toNat_ofNat', ofLe_take, ofLe_drop, hpow, Nat.mod_mod]

section LimbsOf

variable {bytes : Bytes}

theorem limbsOf_toNat (bytes : Bytes) :
    (limbsOf bytes).l0.toNat = ofLe bytes % 2 ^ 26 ∧
      (limbsOf bytes).l1.toNat = ofLe bytes / 2 ^ 26 % 2 ^ 26 ∧
      (limbsOf bytes).l2.toNat = ofLe bytes / 2 ^ 52 % 2 ^ 26 ∧
      (limbsOf bytes).l3.toNat = ofLe bytes / 2 ^ 78 % 2 ^ 26 ∧
      (limbsOf bytes).l4.toNat = ofLe bytes / 2 ^ 104 % 2 ^ 24 := by
  have h1 : (wordAt bytes 3 >>> 2).toNat = (wordAt bytes 3).toNat / 2 ^ 2 := toNat_shiftRight_eq_div _ _ (by decide)
  have h2 : (wordAt bytes 6 >>> 4).toNat = (wordAt bytes 6).toNat / 2 ^ 4 := toNat_shiftRight_eq_div _ _ (by decide)
  have h3 : (wordAt bytes 9 >>> 6).toNat = (wordAt bytes 9).toNat / 2 ^ 6 := toNat_shiftRight_eq_div _ _ (by decide)
  have h4 : (wordAt bytes 12 >>> 8).toNat = (wordAt bytes 12).toNat / 2 ^ 8 := toNat_shiftRight_eq_div _ _ (by decide)
  rw [toNat_wordAt] at h1 h2 h3 h4
  refine ⟨?_, ?_, ?_, ?_, ?_⟩
  · rw [limbsOf, toNat_and_limbMask, toNat_wordAt]
    omega
  · rw [limbsOf, toNat_and_limbMask, h1]
    omega
  · rw [limbsOf, toNat_and_limbMask, h2]
    omega
  · rw [limbsOf, toNat_and_limbMask, h3]
    omega
  · rw [limbsOf, h4]
    omega

theorem below_limbsOf (bytes : Bytes) : (limbsOf bytes).Below (2 ^ 26) := by
  obtain ⟨h0, h1, h2, h3, h4⟩ := limbsOf_toNat bytes
  constructor <;> omega

/-- Sixteen bytes are in the limbs as a whole. -/
theorem value_limbsOf (hlength : bytes.length = 16) : (limbsOf bytes).value = ofLe bytes := by
  obtain ⟨h0, h1, h2, h3, h4⟩ := limbsOf_toNat bytes
  have hlt := ofLe_lt bytes
  have hpow : 256 ^ 16 = 2 ^ 128 := by decide
  rw [hlength, hpow] at hlt
  rw [Limbs.value, h0, h1, h2, h3, h4]
  omega

end LimbsOf

/-! ### The key -/

/-- The masks of `r_bytes`, byte by byte. -/
def clampBytes : Bytes :=
  [0xff, 0xff, 0xff, 0x0f, 0xfc, 0xff, 0xff, 0x0f, 0xfc, 0xff, 0xff, 0x0f, 0xfc, 0xff, 0xff, 0x0f]

theorem clampedBytes_eq {bytes : Bytes} (hlength : bytes.length = 16) :
    (bytes.mapIdx fun index byte =>
      if index ∈ [3, 7, 11, 15] then byte &&& 0x0f else if index ∈ [4, 8, 12] then byte &&& 0xfc else byte) =
      List.zipWith (· &&& ·) bytes clampBytes := by
  apply List.ext_getElem
  · simp [clampBytes, hlength]
  · intro index hleft hright
    have hindex : index < 16 := by simpa [hlength] using hleft
    have hones (byte : Byte) : byte &&& 0xff = byte := UInt8.and_neg_one
    rw [List.getElem_mapIdx, List.getElem_zipWith]
    interval_cases index <;> simp [clampBytes, hones]

theorem below_clampedR (key : ByteArrayN 32) : (clampedR key).Below (2 ^ 26) := by
  obtain ⟨h0, h1, h2, h3, h4⟩ := below_limbsOf ((key.toList.take 16).mapIdx fun index byte =>
    if index ∈ [3, 7, 11, 15] then byte &&& 0x0f else if index ∈ [4, 8, 12] then byte &&& 0xfc else byte)
  refine ⟨h0, h1, h2, h3, ?_⟩
  rw [clampedR, toNat_and_limbMask]
  exact Nat.mod_lt _ (by decide)

theorem value_clampedR (key : ByteArrayN 32) : (clampedR key).value = clamp (ofLe (key.toList.take 16)) := by
  have hlength : (key.toList.take 16).length = 16 := by simp
  have hmasked : (List.zipWith (· &&& ·) (key.toList.take 16) clampBytes).length = 16 := by simp [clampBytes]
  have hmask : ofLe clampBytes = 0x0ffffffc0ffffffc0ffffffc0fffffff := by decide
  have hvalue := value_limbsOf hmasked
  have htop := (limbsOf_toNat (List.zipWith (· &&& ·) (key.toList.take 16) clampBytes)).2.2.2.2
  rw [ofLe_zipWith_and _ _ hlength, hmask] at hvalue
  rw [clamp, ← hvalue, clampedR, clampedBytes_eq hlength, Limbs.value, Limbs.value, toNat_and_limbMask,
    Nat.mod_eq_of_lt (by omega)]

/-! ### One block -/

/-- Between two blocks. -/
structure Limbs.Carried (h : Limbs) : Prop where
  l0 : h.l0.toNat < 2 ^ 26
  l1 : h.l1.toNat < 2 ^ 26 + 2 ^ 13
  l2 : h.l2.toNat < 2 ^ 26
  l3 : h.l3.toNat < 2 ^ 26
  l4 : h.l4.toNat < 2 ^ 26

/-- The bytes of a block and the bit above them. -/
def blockLimbs (chunk : Bytes) : Limbs :=
  let padded := if chunk.length = poly1305BlockSize then chunk else chunk ++ [1]
  let block := padded ++ List.replicate (poly1305BlockSize - padded.length) 0
  let highBit := if chunk.length = poly1305BlockSize then poly1305FullBlockHighBit else 0
  let b := limbsOf block
  ⟨b.l0, b.l1, b.l2, b.l3, b.l4 ||| highBit⟩

theorem addBlock_eq (h : Limbs) (chunk : Bytes) :
    addBlock h chunk = ⟨h.l0 + (blockLimbs chunk).l0, h.l1 + (blockLimbs chunk).l1, h.l2 + (blockLimbs chunk).l2,
      h.l3 + (blockLimbs chunk).l3, h.l4 + (blockLimbs chunk).l4⟩ := rfl

/-- The bit above a full block. -/
theorem toNat_or_highBit {word : UInt64} (h : word.toNat < 2 ^ 24) :
    (word ||| poly1305FullBlockHighBit).toNat = word.toNat + 2 ^ 24 :=
  toNat_or_shiftLeft word 1 24 (by decide) h (by decide)

theorem below_blockLimbs (chunk : Bytes) : (blockLimbs chunk).Below (2 ^ 26) := by
  by_cases hfull : chunk.length = poly1305BlockSize
  · obtain ⟨h0, h1, h2, h3, -⟩ := below_limbsOf (chunk ++ List.replicate (poly1305BlockSize - chunk.length) 0)
    have h4 := (limbsOf_toNat (chunk ++ List.replicate (poly1305BlockSize - chunk.length) 0)).2.2.2.2
    simp only [blockLimbs, if_pos hfull]
    refine ⟨h0, h1, h2, h3, ?_⟩
    rw [toNat_or_highBit (by omega)]
    omega
  · obtain ⟨h0, h1, h2, h3, h4⟩ := below_limbsOf
      (chunk ++ [1] ++ List.replicate (poly1305BlockSize - (chunk ++ [1]).length) 0)
    simp only [blockLimbs, if_neg hfull, UInt64.or_zero]
    exact ⟨h0, h1, h2, h3, h4⟩

theorem value_blockLimbs {chunk : Bytes} (hchunk : chunk.length ≤ 16) : (blockLimbs chunk).value = blockNumber chunk := by
  by_cases hfull : chunk.length = poly1305BlockSize
  · have hpad : chunk ++ List.replicate (poly1305BlockSize - chunk.length) 0 = chunk := by
      rw [hfull, Nat.sub_self, List.replicate_zero, List.append_nil]
    have hvalue := value_limbsOf hfull
    have h4 := (limbsOf_toNat chunk).2.2.2.2
    have hpow : 256 ^ poly1305BlockSize = 2 ^ 128 := by decide
    rw [Limbs.value] at hvalue
    simp only [blockLimbs, if_pos hfull, hpad, Limbs.value]
    rw [toNat_or_highBit (by omega), blockNumber, ofLe_append, hfull, hpow]
    simp only [ofLe_cons, ofLe_nil, UInt8.toNat_one]
    omega
  · have hlength : (chunk ++ [(1 : Byte)]).length ≤ 16 := by
      rw [List.length_append, List.length_singleton]
      have hsize : chunk.length ≠ 16 := hfull
      omega
    have hpadded :
        (chunk ++ [(1 : Byte)] ++ List.replicate (poly1305BlockSize - (chunk ++ [(1 : Byte)]).length) 0).length = 16 := by
      rw [List.length_append, List.length_replicate]
      exact Nat.add_sub_cancel' hlength
    have hvalue := value_limbsOf hpadded
    rw [ofLe_append, ofLe_replicate_zero, Nat.mul_zero, Nat.add_zero] at hvalue
    simp only [blockLimbs, if_neg hfull, UInt64.or_zero]
    exact hvalue

theorem toNat_addBlock {h : Limbs} (hcarried : h.Carried) (chunk : Bytes) :
    (addBlock h chunk).l0.toNat = h.l0.toNat + (blockLimbs chunk).l0.toNat ∧
      (addBlock h chunk).l1.toNat = h.l1.toNat + (blockLimbs chunk).l1.toNat ∧
      (addBlock h chunk).l2.toNat = h.l2.toNat + (blockLimbs chunk).l2.toNat ∧
      (addBlock h chunk).l3.toNat = h.l3.toNat + (blockLimbs chunk).l3.toNat ∧
      (addBlock h chunk).l4.toNat = h.l4.toNat + (blockLimbs chunk).l4.toNat := by
  obtain ⟨hl0, hl1, hl2, hl3, hl4⟩ := hcarried
  obtain ⟨hb0, hb1, hb2, hb3, hb4⟩ := below_blockLimbs chunk
  rw [addBlock_eq]
  refine ⟨?_, ?_, ?_, ?_, ?_⟩ <;> dsimp only <;> exact toNat_add_of_sum_lt _ _ (by omega)

theorem below_addBlock {h : Limbs} (hcarried : h.Carried) (chunk : Bytes) : (addBlock h chunk).Below (2 ^ 28) := by
  obtain ⟨h0, h1, h2, h3, h4⟩ := toNat_addBlock hcarried chunk
  obtain ⟨hl0, hl1, hl2, hl3, hl4⟩ := hcarried
  obtain ⟨hb0, hb1, hb2, hb3, hb4⟩ := below_blockLimbs chunk
  constructor <;> omega

theorem value_addBlock {h : Limbs} (hcarried : h.Carried) {chunk : Bytes} (hchunk : chunk.length ≤ 16) :
    (addBlock h chunk).value = h.value + blockNumber chunk := by
  obtain ⟨h0, h1, h2, h3, h4⟩ := toNat_addBlock hcarried chunk
  rw [← value_blockLimbs hchunk, Limbs.value, h0, h1, h2, h3, h4, Limbs.value, Limbs.value]
  ring

/-! ### The product -/

/-- One column of the product. -/
def dot (left right : Limbs) : UInt64 :=
  left.l0 * right.l0 + left.l1 * right.l1 + left.l2 * right.l2 + left.l3 * right.l3 + left.l4 * right.l4

/-- The carries from the lowest column up. -/
def carryUp (d : Limbs) : Limbs :=
  let d1 := d.l1 + (d.l0 >>> 26)
  let d2 := d.l2 + (d1 >>> 26)
  let d3 := d.l3 + (d2 >>> 26)
  ⟨d.l0, d1, d2, d3, d.l4 + (d3 >>> 26)⟩

/-- The carry out of the highest column comes back into the lowest one, times five. -/
def carryAround (d : Limbs) : Limbs :=
  let h0 := (d.l0 &&& poly1305LimbMask) + (d.l4 >>> 26) * 5
  ⟨h0 &&& poly1305LimbMask, (d.l1 &&& poly1305LimbMask) + (h0 >>> 26), d.l2 &&& poly1305LimbMask,
    d.l3 &&& poly1305LimbMask, d.l4 &&& poly1305LimbMask⟩

def timesFive (r : Limbs) : Limbs := ⟨r.l0, r.l1 * 5, r.l2 * 5, r.l3 * 5, r.l4 * 5⟩

def columns (r s h : Limbs) : Limbs :=
  ⟨dot h ⟨r.l0, s.l4, s.l3, s.l2, s.l1⟩, dot h ⟨r.l1, r.l0, s.l4, s.l3, s.l2⟩, dot h ⟨r.l2, r.l1, r.l0, s.l4, s.l3⟩,
    dot h ⟨r.l3, r.l2, r.l1, r.l0, s.l4⟩, dot h ⟨r.l4, r.l3, r.l2, r.l1, r.l0⟩⟩

theorem multiplyR_eq (r h : Limbs) : multiplyR r h = carryAround (carryUp (columns r (timesFive r) h)) := rfl

section Dot

variable {left right : Limbs}

theorem products_lt (hleft : left.Below (2 ^ 28)) (hright : right.Below (2 ^ 29)) :
    left.l0.toNat * right.l0.toNat < 2 ^ 57 ∧ left.l1.toNat * right.l1.toNat < 2 ^ 57 ∧
      left.l2.toNat * right.l2.toNat < 2 ^ 57 ∧ left.l3.toNat * right.l3.toNat < 2 ^ 57 ∧
      left.l4.toNat * right.l4.toNat < 2 ^ 57 := by
  have hmul {a b : Nat} (ha : a < 2 ^ 28) (hb : b < 2 ^ 29) : a * b < 2 ^ 28 * 2 ^ 29 :=
    Nat.mul_lt_mul_of_lt_of_le ha hb.le (by decide)
  exact ⟨hmul hleft.l0 hright.l0, hmul hleft.l1 hright.l1, hmul hleft.l2 hright.l2, hmul hleft.l3 hright.l3,
    hmul hleft.l4 hright.l4⟩

/-- The products, and the sums of the first ones. -/
theorem toNat_dot_sums (hleft : left.Below (2 ^ 28)) (hright : right.Below (2 ^ 29)) :
    (left.l0 * right.l0 + left.l1 * right.l1).toNat = left.l0.toNat * right.l0.toNat + left.l1.toNat * right.l1.toNat ∧
      (left.l0 * right.l0 + left.l1 * right.l1 + left.l2 * right.l2).toNat =
        left.l0.toNat * right.l0.toNat + left.l1.toNat * right.l1.toNat + left.l2.toNat * right.l2.toNat ∧
      (left.l0 * right.l0 + left.l1 * right.l1 + left.l2 * right.l2 + left.l3 * right.l3).toNat =
        left.l0.toNat * right.l0.toNat + left.l1.toNat * right.l1.toNat + left.l2.toNat * right.l2.toNat +
          left.l3.toNat * right.l3.toNat := by
  obtain ⟨h0, h1, h2, h3, -⟩ := products_lt hleft hright
  have hp0 := toNat_mul_of_product_lt left.l0 right.l0 (by omega)
  have hp1 := toNat_mul_of_product_lt left.l1 right.l1 (by omega)
  have hp2 := toNat_mul_of_product_lt left.l2 right.l2 (by omega)
  have hp3 := toNat_mul_of_product_lt left.l3 right.l3 (by omega)
  have hs1 := toNat_add_of_sum_lt (left.l0 * right.l0) (left.l1 * right.l1) (by omega)
  have hs2 := toNat_add_of_sum_lt (left.l0 * right.l0 + left.l1 * right.l1) (left.l2 * right.l2) (by omega)
  have hs3 := toNat_add_of_sum_lt (left.l0 * right.l0 + left.l1 * right.l1 + left.l2 * right.l2)
    (left.l3 * right.l3) (by omega)
  rw [hs3, hs2, hs1, hp0, hp1, hp2, hp3]
  exact ⟨rfl, rfl, rfl⟩

theorem toNat_dot (hleft : left.Below (2 ^ 28)) (hright : right.Below (2 ^ 29)) :
    (dot left right).toNat = left.l0.toNat * right.l0.toNat + left.l1.toNat * right.l1.toNat +
      left.l2.toNat * right.l2.toNat + left.l3.toNat * right.l3.toNat + left.l4.toNat * right.l4.toNat := by
  obtain ⟨h0, h1, h2, h3, h4⟩ := products_lt hleft hright
  obtain ⟨-, -, hs3⟩ := toNat_dot_sums hleft hright
  have hp4 := toNat_mul_of_product_lt left.l4 right.l4 (by omega)
  rw [dot, toNat_add_of_sum_lt _ _ (by omega), hs3, hp4]

theorem dot_lt (hleft : left.Below (2 ^ 28)) (hright : right.Below (2 ^ 29)) : (dot left right).toNat < 2 ^ 60 := by
  obtain ⟨h0, h1, h2, h3, h4⟩ := products_lt hleft hright
  rw [toNat_dot hleft hright]
  omega

end Dot

section Product

variable {r h : Limbs}

theorem toNat_timesFive (hr : r.Below (2 ^ 26)) :
    (timesFive r).l1.toNat = r.l1.toNat * 5 ∧ (timesFive r).l2.toNat = r.l2.toNat * 5 ∧
      (timesFive r).l3.toNat = r.l3.toNat * 5 ∧ (timesFive r).l4.toNat = r.l4.toNat * 5 := by
  obtain ⟨-, h1, h2, h3, h4⟩ := hr
  have hfive : (5 : UInt64).toNat = 5 := rfl
  refine ⟨?_, ?_, ?_, ?_⟩ <;> exact toNat_mul_of_product_lt _ _ (by rw [hfive]; omega)

theorem below_timesFive (hr : r.Below (2 ^ 26)) : (timesFive r).Below (2 ^ 29) := by
  obtain ⟨h1, h2, h3, h4⟩ := toNat_timesFive hr
  obtain ⟨hr0, hr1, hr2, hr3, hr4⟩ := hr
  refine ⟨hr0.trans (by decide), ?_, ?_, ?_, ?_⟩ <;> omega

/-- The right sides of the five columns. -/
theorem below_rows (hr : r.Below (2 ^ 26)) :
    Limbs.Below (2 ^ 29) ⟨r.l0, (timesFive r).l4, (timesFive r).l3, (timesFive r).l2, (timesFive r).l1⟩ ∧
      Limbs.Below (2 ^ 29) ⟨r.l1, r.l0, (timesFive r).l4, (timesFive r).l3, (timesFive r).l2⟩ ∧
      Limbs.Below (2 ^ 29) ⟨r.l2, r.l1, r.l0, (timesFive r).l4, (timesFive r).l3⟩ ∧
      Limbs.Below (2 ^ 29) ⟨r.l3, r.l2, r.l1, r.l0, (timesFive r).l4⟩ ∧
      Limbs.Below (2 ^ 29) ⟨r.l4, r.l3, r.l2, r.l1, r.l0⟩ := by
  obtain ⟨-, hs1, hs2, hs3, hs4⟩ := below_timesFive hr
  obtain ⟨hr0, hr1, hr2, hr3, hr4⟩ := hr.mono (show 2 ^ 26 ≤ 2 ^ 29 by decide)
  exact ⟨⟨hr0, hs4, hs3, hs2, hs1⟩, ⟨hr1, hr0, hs4, hs3, hs2⟩, ⟨hr2, hr1, hr0, hs4, hs3⟩, ⟨hr3, hr2, hr1, hr0, hs4⟩,
    ⟨hr4, hr3, hr2, hr1, hr0⟩⟩

theorem below_columns (hr : r.Below (2 ^ 26)) (hh : h.Below (2 ^ 28)) :
    (columns r (timesFive r) h).Below (2 ^ 60) := by
  obtain ⟨h0, h1, h2, h3, h4⟩ := below_rows hr
  exact ⟨dot_lt hh h0, dot_lt hh h1, dot_lt hh h2, dot_lt hh h3, dot_lt hh h4⟩

/-- What goes beyond 130 bits comes back five times: the columns stand for the product modulo the prime. -/
theorem value_columns (hr : r.Below (2 ^ 26)) (hh : h.Below (2 ^ 28)) :
    (columns r (timesFive r) h).value ≡ h.value * r.value [MOD poly1305Prime] := by
  obtain ⟨h0, h1, h2, h3, h4⟩ := below_rows hr
  obtain ⟨hs1, hs2, hs3, hs4⟩ := toNat_timesFive hr
  have hprime : poly1305Prime = 1361129467683753853853498429727072845819 := by decide
  have hproduct : h.value * r.value = (columns r (timesFive r) h).value + poly1305Prime *
      (h.l1.toNat * r.l4.toNat + h.l2.toNat * r.l3.toNat + h.l3.toNat * r.l2.toNat + h.l4.toNat * r.l1.toNat +
        2 ^ 26 * (h.l2.toNat * r.l4.toNat + h.l3.toNat * r.l3.toNat + h.l4.toNat * r.l2.toNat) +
        2 ^ 52 * (h.l3.toNat * r.l4.toNat + h.l4.toNat * r.l3.toNat) + 2 ^ 78 * (h.l4.toNat * r.l4.toNat)) := by
    simp only [Limbs.value, columns, toNat_dot hh h0, toNat_dot hh h1, toNat_dot hh h2, toNat_dot hh h3,
      toNat_dot hh h4, hs1, hs2, hs3, hs4, hprime]
    ring
  rw [hproduct, Nat.ModEq, Nat.add_mul_mod_self_left]

end Product

/-! ### The carries -/

theorem toNat_add_carry (left right : UInt64) (h : left.toNat + right.toNat / 2 ^ 26 < 2 ^ 64) :
    (left + (right >>> 26)).toNat = left.toNat + right.toNat / 2 ^ 26 := by
  rw [← toNat_shiftRight_26] at h
  rw [toNat_add_of_sum_lt _ _ h, toNat_shiftRight_26]

theorem toNat_carry_mul_five (word : UInt64) : ((word >>> 26) * 5).toNat = word.toNat / 2 ^ 26 * 5 := by
  have hlt := word.toNat_lt
  have hfive : (5 : UInt64).toNat = 5 := rfl
  have hshift := toNat_shiftRight_26 word
  rw [toNat_mul_of_product_lt _ _ (by rw [hfive]; omega), hshift, hfive]

section Carry

variable {d : Limbs}

theorem toNat_carryUp (hd : d.Below (2 ^ 60)) :
    (carryUp d).l1.toNat = d.l1.toNat + d.l0.toNat / 2 ^ 26 ∧
      (carryUp d).l2.toNat = d.l2.toNat + (carryUp d).l1.toNat / 2 ^ 26 ∧
      (carryUp d).l3.toNat = d.l3.toNat + (carryUp d).l2.toNat / 2 ^ 26 ∧
      (carryUp d).l4.toNat = d.l4.toNat + (carryUp d).l3.toNat / 2 ^ 26 := by
  obtain ⟨hd0, hd1, hd2, hd3, hd4⟩ := hd
  have h1 : (carryUp d).l1.toNat = d.l1.toNat + d.l0.toNat / 2 ^ 26 := toNat_add_carry _ _ (by omega)
  have h2 : (carryUp d).l2.toNat = d.l2.toNat + (carryUp d).l1.toNat / 2 ^ 26 :=
    toNat_add_carry d.l2 (carryUp d).l1 (by omega)
  have h3 : (carryUp d).l3.toNat = d.l3.toNat + (carryUp d).l2.toNat / 2 ^ 26 :=
    toNat_add_carry d.l3 (carryUp d).l2 (by omega)
  exact ⟨h1, h2, h3, toNat_add_carry d.l4 (carryUp d).l3 (by omega)⟩

theorem below_carryUp (hd : d.Below (2 ^ 60)) : (carryUp d).Below (2 ^ 61) := by
  obtain ⟨h1, h2, h3, h4⟩ := toNat_carryUp hd
  obtain ⟨hd0, hd1, hd2, hd3, hd4⟩ := hd
  refine ⟨hd0.trans (by decide), ?_, ?_, ?_, ?_⟩ <;> omega

/-- The lowest limb with what comes back into it. -/
theorem toNat_carriedAround (hd : d.Below (2 ^ 61)) :
    ((d.l0 &&& poly1305LimbMask) + (d.l4 >>> 26) * 5).toNat = d.l0.toNat % 2 ^ 26 + d.l4.toNat / 2 ^ 26 * 5 := by
  have hd4 := hd.l4
  have hlow := toNat_and_limbMask d.l0
  have hfive := toNat_carry_mul_five d.l4
  rw [toNat_add_of_sum_lt _ _ (by omega), hlow, hfive]

theorem toNat_carryAround (hd : d.Below (2 ^ 61)) :
    (carryAround d).l0.toNat = (d.l0.toNat % 2 ^ 26 + d.l4.toNat / 2 ^ 26 * 5) % 2 ^ 26 ∧
      (carryAround d).l1.toNat =
        d.l1.toNat % 2 ^ 26 + (d.l0.toNat % 2 ^ 26 + d.l4.toNat / 2 ^ 26 * 5) / 2 ^ 26 ∧
      (carryAround d).l2.toNat = d.l2.toNat % 2 ^ 26 ∧
      (carryAround d).l3.toNat = d.l3.toNat % 2 ^ 26 ∧
      (carryAround d).l4.toNat = d.l4.toNat % 2 ^ 26 := by
  have hd4 := hd.l4
  have hnext := toNat_and_limbMask d.l1
  have hsum := toNat_carriedAround hd
  refine ⟨?_, ?_, toNat_and_limbMask _, toNat_and_limbMask _, toNat_and_limbMask _⟩
  · rw [← hsum]
    exact toNat_and_limbMask _
  · rw [← hsum, ← hnext]
    exact toNat_add_carry _ _ (by omega)

/-- One round of carries takes a multiple of the prime away and leaves short limbs. -/
theorem carried_carryAround (hd : d.Below (2 ^ 60)) :
    (carryAround (carryUp d)).Carried ∧
      (carryAround (carryUp d)).value + poly1305Prime * ((carryUp d).l4.toNat / 2 ^ 26) = d.value := by
  obtain ⟨hu1, hu2, hu3, hu4⟩ := toNat_carryUp hd
  obtain ⟨h0, h1, h2, h3, h4⟩ := toNat_carryAround (below_carryUp hd)
  have hu0 : (carryUp d).l0 = d.l0 := rfl
  have hprime : poly1305Prime = 1361129467683753853853498429727072845819 := by decide
  rw [hu0] at h0 h1
  obtain ⟨hd0, hd1, hd2, hd3, hd4⟩ := hd
  constructor
  · constructor <;> omega
  · rw [Limbs.value, Limbs.value, hprime]
    omega

end Carry

theorem carried_multiplyR {r h : Limbs} (hr : r.Below (2 ^ 26)) (hh : h.Below (2 ^ 28)) : (multiplyR r h).Carried :=
  (carried_carryAround (below_columns hr hh)).1

theorem value_multiplyR {r h : Limbs} (hr : r.Below (2 ^ 26)) (hh : h.Below (2 ^ 28)) :
    (multiplyR r h).value ≡ h.value * r.value [MOD poly1305Prime] := by
  have hcarry := (carried_carryAround (below_columns hr hh)).2
  rw [← multiplyR_eq] at hcarry
  refine Nat.ModEq.trans ?_ (value_columns hr hh)
  rw [← hcarry, Nat.ModEq, Nat.add_mul_mod_self_left]

/-! ### The blocks -/

theorem poly1305Blocks_eq (r h : Limbs) (message : Bytes) :
    poly1305Blocks r h message =
      (chunks poly1305BlockSize message).foldl (fun h chunk => multiplyR r (addBlock h chunk)) h := by
  fun_induction poly1305Blocks r h message with
  | case1 h => rw [chunks_nil, List.foldl_nil]
  | case2 h message hmessage ih => rw [chunks_of_ne_nil (by decide) hmessage, List.foldl_cons, ih]

section Blocks

variable {r : Limbs}

/-- Horner's rule. -/
theorem value_foldl_blocks (hr : r.Below (2 ^ 26)) {blocks : List Bytes} (hblocks : ∀ chunk ∈ blocks, chunk.length ≤ 16)
    {h : Limbs} (hcarried : h.Carried) :
    (blocks.foldl (fun h chunk => multiplyR r (addBlock h chunk)) h).Carried ∧
      (blocks.foldl (fun h chunk => multiplyR r (addBlock h chunk)) h).value ≡
        h.value * r.value ^ blocks.length + polynomial r.value (blocks.map blockNumber) [MOD poly1305Prime] := by
  induction blocks generalizing h with
  | nil =>
    rw [List.map_nil, polynomial_nil, List.length_nil, pow_zero, Nat.mul_one, Nat.add_zero]
    exact ⟨hcarried, Nat.ModEq.refl _⟩
  | cons chunk blocks ih =>
    have hbelow := below_addBlock hcarried chunk
    have hnext := value_multiplyR hr hbelow
    rw [value_addBlock hcarried (hblocks chunk List.mem_cons_self)] at hnext
    obtain ⟨hcarried', hvalue⟩ := ih (fun other hother => hblocks other (List.mem_cons_of_mem _ hother))
      (carried_multiplyR hr hbelow)
    refine ⟨hcarried', hvalue.trans ?_⟩
    have hsum : h.value * r.value ^ (chunk :: blocks).length +
        polynomial r.value ((chunk :: blocks).map blockNumber) =
          (h.value + blockNumber chunk) * r.value * r.value ^ blocks.length +
            polynomial r.value (blocks.map blockNumber) := by
      rw [List.map_cons, polynomial_cons, List.length_cons, List.length_map]
      ring
    rw [hsum]
    exact (hnext.mul_right _).add_right _

theorem carried_zero : Limbs.Carried ⟨0, 0, 0, 0, 0⟩ := by
  constructor <;> decide

theorem value_zero : Limbs.value ⟨0, 0, 0, 0, 0⟩ = 0 := rfl

theorem value_poly1305Blocks (hr : r.Below (2 ^ 26)) (message : Bytes) :
    (poly1305Blocks r ⟨0, 0, 0, 0, 0⟩ message).Carried ∧
      (poly1305Blocks r ⟨0, 0, 0, 0, 0⟩ message).value ≡
        polynomial r.value ((chunks 16 message).map blockNumber) [MOD poly1305Prime] := by
  have hchunks : ∀ chunk ∈ chunks 16 message, chunk.length ≤ 16 :=
    fun chunk hchunk => (length_of_mem_chunks hchunk).2
  obtain ⟨hcarried, hvalue⟩ := value_foldl_blocks hr hchunks carried_zero
  rw [value_zero, Nat.zero_mul, Nat.zero_add] at hvalue
  rw [poly1305Blocks_eq]
  exact ⟨hcarried, hvalue⟩

end Blocks

/-! ### The last reduction -/

/-- The carries behind the last block. -/
def lastCarries (h : Limbs) : Limbs :=
  let h2 := h.l2 + (h.l1 >>> 26)
  let h3 := h.l3 + (h2 >>> 26)
  let h4 := h.l4 + (h3 >>> 26)
  let h0 := h.l0 + (h4 >>> 26) * 5
  ⟨h0 &&& poly1305LimbMask, (h.l1 &&& poly1305LimbMask) + (h0 >>> 26), h2 &&& poly1305LimbMask,
    h3 &&& poly1305LimbMask, h4 &&& poly1305LimbMask⟩

/-- The accumulator plus five, and less 2^130 in the last limb. -/
def lessPrime (h : Limbs) : Limbs :=
  let g := carryUp ⟨h.l0 + 5, h.l1, h.l2, h.l3, h.l4⟩
  ⟨g.l0 &&& poly1305LimbMask, g.l1 &&& poly1305LimbMask, g.l2 &&& poly1305LimbMask, g.l3 &&& poly1305LimbMask,
    g.l4 - ((1 : UInt64) <<< 26)⟩

def select (h g : Limbs) : Limbs :=
  let selectG := (g.l4 >>> 63) - 1
  let selectH := ~~~selectG
  ⟨(h.l0 &&& selectH) ||| (g.l0 &&& selectG), (h.l1 &&& selectH) ||| (g.l1 &&& selectG),
    (h.l2 &&& selectH) ||| (g.l2 &&& selectG), (h.l3 &&& selectH) ||| (g.l3 &&& selectG),
    (h.l4 &&& selectH) ||| (g.l4 &&& selectG)⟩

theorem fullyReduced_eq (h : Limbs) : fullyReduced h = select (lastCarries h) (lessPrime (lastCarries h)) := rfl

section Reduced

variable {h : Limbs}

/-- The lowest limb has nothing to carry, so the chain may as well begin there. -/
theorem lastCarries_eq (hcarried : h.Carried) : lastCarries h = carryAround (carryUp h) := by
  have hmask : h.l0 &&& poly1305LimbMask = h.l0 := by
    rw [← UInt64.toNat_inj, toNat_and_limbMask, Nat.mod_eq_of_lt hcarried.l0]
  have hshift : h.l0 >>> 26 = 0 := by
    rw [← UInt64.toNat_inj, toNat_shiftRight_26, Nat.div_eq_of_lt hcarried.l0, UInt64.toNat_zero]
  simp only [lastCarries, carryAround, carryUp, hmask, hshift, UInt64.add_zero]

theorem Limbs.Carried.below (hcarried : h.Carried) : h.Below (2 ^ 60) := by
  obtain ⟨h0, h1, h2, h3, h4⟩ := hcarried
  constructor <;> omega

/-- No limb is long any more: a carry out of the highest one leaves the second one short. -/
theorem below_lastCarries (hcarried : h.Carried) : (lastCarries h).Below (2 ^ 26) := by
  obtain ⟨hu1, hu2, hu3, hu4⟩ := toNat_carryUp hcarried.below
  obtain ⟨h0, h1, h2, h3, h4⟩ := toNat_carryAround (below_carryUp hcarried.below)
  have hu0 : (carryUp h).l0 = h.l0 := rfl
  rw [lastCarries_eq hcarried]
  rw [hu0] at h0 h1
  obtain ⟨hl0, hl1, hl2, hl3, hl4⟩ := hcarried
  constructor <;> omega

theorem value_lastCarries (hcarried : h.Carried) : (lastCarries h).value ≡ h.value [MOD poly1305Prime] := by
  have hcarry := (carried_carryAround hcarried.below).2
  rw [lastCarries_eq hcarried, ← hcarry, Nat.ModEq, Nat.add_mul_mod_self_left]

/-- The top bit of the difference says whether it is one. -/
theorem select_of_lt {h g : Limbs} (hg : g.l4.toNat < 2 ^ 63) : select h g = g := by
  have hshift : g.l4 >>> 63 = 0 := by
    have hdiv : (g.l4 >>> 63).toNat = g.l4.toNat / 2 ^ 63 := toNat_shiftRight_eq_div g.l4 _ (by decide)
    rw [← UInt64.toNat_inj, hdiv, Nat.div_eq_of_lt hg, UInt64.toNat_zero]
  simp [select, hshift]

theorem select_of_le {h g : Limbs} (hg : 2 ^ 63 ≤ g.l4.toNat) : select h g = h := by
  have hlt := g.l4.toNat_lt
  have hshift : g.l4 >>> 63 = 1 := by
    have hdiv : (g.l4 >>> 63).toNat = g.l4.toNat / 2 ^ 63 := toNat_shiftRight_eq_div g.l4 _ (by decide)
    rw [← UInt64.toNat_inj, hdiv, UInt64.toNat_one]
    omega
  simp [select, hshift]

theorem toNat_plusFive (hbelow : h.Below (2 ^ 26)) : (h.l0 + 5).toNat = h.l0.toNat + 5 :=
  toNat_add_of_sum_lt h.l0 5 (by
    have h0 := hbelow.l0
    have hfive : (5 : UInt64).toNat = 5 := rfl
    omega)

theorem below_plusFive (hbelow : h.Below (2 ^ 26)) : Limbs.Below (2 ^ 60) ⟨h.l0 + 5, h.l1, h.l2, h.l3, h.l4⟩ := by
  have hfive := toNat_plusFive hbelow
  obtain ⟨h0, h1, h2, h3, h4⟩ := hbelow.mono (show 2 ^ 26 ≤ 2 ^ 59 by decide)
  refine ⟨?_, h1.trans (by decide), h2.trans (by decide), h3.trans (by decide), h4.trans (by decide)⟩
  dsimp only
  omega

/-- Of the two candidates the one below the prime is taken. -/
theorem fullyReduced_value (hcarried : h.Carried) :
    (fullyReduced h).Below (2 ^ 26) ∧ (fullyReduced h).value = h.value % poly1305Prime := by
  have hbelow := below_lastCarries hcarried
  have hvalue := value_lastCarries hcarried
  have hprime : poly1305Prime = 1361129467683753853853498429727072845819 := by decide
  rw [fullyReduced_eq, ← hvalue, hprime]
  generalize lastCarries h = k at hbelow
  have hfive := toNat_plusFive hbelow
  obtain ⟨hg1, hg2, hg3, hg4⟩ := toNat_carryUp (below_plusFive hbelow)
  have hg0 : (carryUp ⟨k.l0 + 5, k.l1, k.l2, k.l3, k.l4⟩).l0 = k.l0 + 5 := rfl
  obtain ⟨hk0, hk1, hk2, hk3, hk4⟩ := id hbelow
  have hmask0 : (lessPrime k).l0.toNat = _ := toNat_and_limbMask _
  have hmask1 : (lessPrime k).l1.toNat = _ := toNat_and_limbMask _
  have hmask2 : (lessPrime k).l2.toNat = _ := toNat_and_limbMask _
  have hmask3 : (lessPrime k).l3.toNat = _ := toNat_and_limbMask _
  have hdifference : (lessPrime k).l4.toNat = _ := UInt64.toNat_sub _ _
  have hbit : ((1 : UInt64) <<< 26).toNat = 2 ^ 26 := rfl
  rw [hg0] at hmask0
  rw [hbit] at hdifference
  dsimp only at hg1 hg2 hg3 hg4
  by_cases hge : (lessPrime k).l4.toNat < 2 ^ 63
  · have htop : (lessPrime k).l4.toNat = 0 := by omega
    have hsum : k.value = (lessPrime k).value + 1361129467683753853853498429727072845819 := by
      rw [Limbs.value, Limbs.value]
      omega
    have hlt : (lessPrime k).value < 1361129467683753853853498429727072845819 := by
      rw [Limbs.value]
      omega
    rw [select_of_lt hge, hsum, Nat.add_mod_right, Nat.mod_eq_of_lt hlt]
    refine ⟨?_, rfl⟩
    constructor <;> omega
  · have hlt : k.value < 1361129467683753853853498429727072845819 := by
      rw [Limbs.value]
      omega
    rw [select_of_le (by omega), Nat.mod_eq_of_lt hlt]
    exact ⟨hbelow, rfl⟩

end Reduced

/-! ### The tag -/

/-- The limbs as words of 32 bits. -/
def packed (h : Limbs) : Vector UInt64 4 :=
  #v[(h.l0 ||| (h.l1 <<< 26)) &&& 0xffffffff, ((h.l1 >>> 6) ||| (h.l2 <<< 20)) &&& 0xffffffff,
    ((h.l2 >>> 12) ||| (h.l3 <<< 14)) &&& 0xffffffff, ((h.l3 >>> 18) ||| (h.l4 <<< 8)) &&& 0xffffffff]

def pads (key : ByteArrayN 32) : Vector UInt64 4 :=
  #v[wordAt key.toList 16, wordAt key.toList 20, wordAt key.toList 24, wordAt key.toList 28]

/-- The sum of two numbers in four words, each with the carry of the one below. -/
def wordSums (f pad : Vector UInt64 4) : Vector UInt64 4 :=
  let f0 := f[0] + pad[0]
  let f1 := f[1] + (pad[1] + (f0 >>> 32))
  let f2 := f[2] + (pad[2] + (f1 >>> 32))
  #v[f0, f1, f2, f[3] + (pad[3] + (f2 >>> 32))]

theorem tagWords_eq (key : ByteArrayN 32) (h : Limbs) :
    tagWords key h = (wordSums (packed h) (pads key)).map (· &&& 0xffffffff) := by
  simp [tagWords, wordSums, packed, pads]

theorem toNat_and_wordMask (word : UInt64) : (word &&& 0xffffffff).toNat = word.toNat % 2 ^ 32 := by
  apply toNat_and_mask
  rfl

/-- The high bits of one limb and the low bits of the next. -/
theorem toNat_shifted {low high right left : UInt64} (hsum : right.toNat + left.toNat = 26) (hlow : low.toNat < 2 ^ 26)
    (hhigh : high.toNat < 2 ^ 26) :
    ((low >>> right) ||| (high <<< left)).toNat = low.toNat / 2 ^ right.toNat + high.toNat * 2 ^ left.toNat := by
  have hshift := toNat_shiftRight_eq_div low right (by omega)
  have hdiv : low.toNat / 2 ^ right.toNat < 2 ^ left.toNat := by
    rw [Nat.div_lt_iff_lt_mul (by positivity), ← pow_add, Nat.add_comm, hsum]
    exact hlow
  have hfits : high.toNat * 2 ^ left.toNat < 2 ^ 64 := by
    have hpow : 2 ^ left.toNat ≤ 2 ^ 26 := Nat.pow_le_pow_right (by decide) (by omega)
    calc high.toNat * 2 ^ left.toNat ≤ 2 ^ 26 * 2 ^ 26 := Nat.mul_le_mul hhigh.le hpow
      _ < 2 ^ 64 := by decide
  rw [toNat_or_shiftLeft _ _ left (by omega) (by rwa [hshift]) hfits, hshift]

theorem toNat_packed {h : Limbs} (hbelow : h.Below (2 ^ 26)) :
    (packed h)[0].toNat = h.value % 2 ^ 32 ∧ (packed h)[1].toNat = h.value / 2 ^ 32 % 2 ^ 32 ∧
      (packed h)[2].toNat = h.value / 2 ^ 64 % 2 ^ 32 ∧ (packed h)[3].toNat = h.value / 2 ^ 96 % 2 ^ 32 := by
  obtain ⟨hl0, hl1, hl2, hl3, hl4⟩ := hbelow
  have h0 : (h.l0 ||| (h.l1 <<< 26)).toNat = h.l0.toNat + h.l1.toNat * 2 ^ 26 :=
    toNat_or_shiftLeft h.l0 h.l1 26 (by decide) hl0 (Nat.mul_lt_mul_of_pos_right hl1 (by decide) |>.trans (by decide))
  have h1 : ((h.l1 >>> 6) ||| (h.l2 <<< 20)).toNat = h.l1.toNat / 2 ^ 6 + h.l2.toNat * 2 ^ 20 :=
    toNat_shifted (by decide) hl1 hl2
  have h2 : ((h.l2 >>> 12) ||| (h.l3 <<< 14)).toNat = h.l2.toNat / 2 ^ 12 + h.l3.toNat * 2 ^ 14 :=
    toNat_shifted (by decide) hl2 hl3
  have h3 : ((h.l3 >>> 18) ||| (h.l4 <<< 8)).toNat = h.l3.toNat / 2 ^ 18 + h.l4.toNat * 2 ^ 8 :=
    toNat_shifted (by decide) hl3 hl4
  have hw0 : (packed h)[0].toNat = _ := toNat_and_wordMask _
  have hw1 : (packed h)[1].toNat = _ := toNat_and_wordMask _
  have hw2 : (packed h)[2].toNat = _ := toNat_and_wordMask _
  have hw3 : (packed h)[3].toNat = _ := toNat_and_wordMask _
  rw [Limbs.value, hw0, hw1, hw2, hw3, h0, h1, h2, h3]
  refine ⟨?_, ?_, ?_, ?_⟩ <;> omega

theorem toNat_pads (key : ByteArrayN 32) :
    (pads key)[0].toNat = ofLe (key.toList.drop 16) % 2 ^ 32 ∧
      (pads key)[1].toNat = ofLe (key.toList.drop 16) / 2 ^ 32 % 2 ^ 32 ∧
      (pads key)[2].toNat = ofLe (key.toList.drop 16) / 2 ^ 64 % 2 ^ 32 ∧
      (pads key)[3].toNat = ofLe (key.toList.drop 16) / 2 ^ 96 % 2 ^ 32 := by
  have hp0 : (pads key)[0].toNat = _ := toNat_wordAt key.toList 16
  have hp1 : (pads key)[1].toNat = _ := toNat_wordAt key.toList 20
  have hp2 : (pads key)[2].toNat = _ := toNat_wordAt key.toList 24
  have hp3 : (pads key)[3].toNat = _ := toNat_wordAt key.toList 28
  rw [hp0, hp1, hp2, hp3, ofLe_drop]
  refine ⟨?_, ?_, ?_, ?_⟩ <;> omega

theorem toNat_add_add_carry (f pad below : UInt64) (hf : f.toNat < 2 ^ 32) (hpad : pad.toNat < 2 ^ 32) :
    (f + (pad + (below >>> 32))).toNat = f.toNat + (pad.toNat + below.toNat / 2 ^ 32) := by
  have hbelow := below.toNat_lt
  have hshift : (below >>> 32).toNat = below.toNat / 2 ^ 32 := toNat_shiftRight_eq_div below _ (by decide)
  have hpadded := toNat_add_of_sum_lt pad (below >>> 32) (by omega)
  rw [toNat_add_of_sum_lt f _ (by omega), hpadded, hshift]

section Sums

variable {f pad : Vector UInt64 4}

/-- Words of 32 bits in words of 64. -/
structure Halves (f : Vector UInt64 4) : Prop where
  w0 : f[0].toNat < 2 ^ 32
  w1 : f[1].toNat < 2 ^ 32
  w2 : f[2].toNat < 2 ^ 32
  w3 : f[3].toNat < 2 ^ 32

theorem halves_packed {h : Limbs} (hbelow : h.Below (2 ^ 26)) : Halves (packed h) := by
  obtain ⟨h0, h1, h2, h3⟩ := toNat_packed hbelow
  constructor <;> omega

theorem halves_pads (key : ByteArrayN 32) : Halves (pads key) := by
  obtain ⟨h0, h1, h2, h3⟩ := toNat_pads key
  constructor <;> omega

theorem toNat_wordSums (hf : Halves f) (hpad : Halves pad) :
    (wordSums f pad)[0].toNat = f[0].toNat + pad[0].toNat ∧
      (wordSums f pad)[1].toNat = f[1].toNat + (pad[1].toNat + (wordSums f pad)[0].toNat / 2 ^ 32) ∧
      (wordSums f pad)[2].toNat = f[2].toNat + (pad[2].toNat + (wordSums f pad)[1].toNat / 2 ^ 32) ∧
      (wordSums f pad)[3].toNat = f[3].toNat + (pad[3].toNat + (wordSums f pad)[2].toNat / 2 ^ 32) := by
  have hf0 := hf.w0
  have hpad0 := hpad.w0
  refine ⟨toNat_add_of_sum_lt f[0] pad[0] (by omega), ?_, ?_, ?_⟩
  · exact toNat_add_add_carry f[1] pad[1] (wordSums f pad)[0] hf.w1 hpad.w1
  · exact toNat_add_add_carry f[2] pad[2] (wordSums f pad)[1] hf.w2 hpad.w2
  · exact toNat_add_add_carry f[3] pad[3] (wordSums f pad)[2] hf.w3 hpad.w3

end Sums

/-- The bytes of four words, one after the other. -/
theorem ofLe_wordBytes (words : Vector UInt64 4) :
    ofLe ((words.map fun word => leArray 4 word.toNat).flatten : Vector Byte (4 * 4)).toList =
      words[0].toNat % 2 ^ 32 + 2 ^ 32 * (words[1].toNat % 2 ^ 32) + 2 ^ 64 * (words[2].toNat % 2 ^ 32) +
        2 ^ 96 * (words[3].toNat % 2 ^ 32) := by
  obtain ⟨a, b, c, d, rfl⟩ : ∃ a b c d, words = #v[a, b, c, d] :=
    ⟨words[0], words[1], words[2], words[3], by ext i hi; interval_cases i <;> rfl⟩
  have hpow : 256 ^ 4 = 2 ^ 32 := by decide
  have hbytes : ((#v[a, b, c, d].map fun word => leArray 4 word.toNat).flatten : Vector Byte (4 * 4)).toList =
      leBytes 4 a.toNat ++ (leBytes 4 b.toNat ++ (leBytes 4 c.toNat ++ leBytes 4 d.toNat)) := by
    simp [leArray, Vector.toList, Vector.flatten, arrayOf]
  rw [hbytes, ofLe_append, ofLe_append, ofLe_append, ofLe_leBytes, ofLe_leBytes, ofLe_leBytes, ofLe_leBytes,
    length_leBytes, length_leBytes, length_leBytes, hpow]
  show _ = a.toNat % 2 ^ 32 + 2 ^ 32 * (b.toNat % 2 ^ 32) + 2 ^ 64 * (c.toNat % 2 ^ 32) + 2 ^ 96 * (d.toNat % 2 ^ 32)
  ring

/-- The words of the tag are the sum without what is beyond 128 bits. -/
theorem ofLe_poly1305Authenticate (key : ByteArrayN 32) (message : Bytes) :
    ofLe (poly1305Authenticate key message).toList =
      ((fullyReduced (poly1305Blocks (clampedR key) ⟨0, 0, 0, 0, 0⟩ message)).value +
        ofLe (key.toList.drop 16)) % 2 ^ 128 := by
  obtain ⟨hcarried, -⟩ := value_poly1305Blocks (below_clampedR key) message
  obtain ⟨hbelow, -⟩ := fullyReduced_value hcarried
  rw [poly1305Authenticate, ofLe_wordBytes, tagWords_eq]
  generalize fullyReduced (poly1305Blocks (clampedR key) ⟨0, 0, 0, 0, 0⟩ message) = h at hbelow
  obtain ⟨hf0, hf1, hf2, hf3⟩ := toNat_packed hbelow
  obtain ⟨hp0, hp1, hp2, hp3⟩ := toNat_pads key
  obtain ⟨hs0, hs1, hs2, hs3⟩ := toNat_wordSums (halves_packed hbelow) (halves_pads key)
  rw [hf0, hp0] at hs0
  rw [hf1, hp1] at hs1
  rw [hf2, hp2] at hs2
  rw [hf3, hp3] at hs3
  simp only [Vector.getElem_map, toNat_and_wordMask, Nat.mod_mod]
  exact add_words hs0 hs1 hs2 hs3

/-- The tag is the one of RFC 8439. -/
theorem poly1305Authenticate_eq (key : ByteArrayN 32) (message : Bytes) :
    poly1305Authenticate key message = poly1305Tag key message := by
  obtain ⟨hcarried, hblocks⟩ := value_poly1305Blocks (below_clampedR key) message
  have hvalue := (fullyReduced_value hcarried).2
  have hpow : 256 ^ 16 = 2 ^ 128 := by decide
  rw [hblocks, value_clampedR] at hvalue
  apply array_ext
  rw [poly1305Tag, leArray, toList_arrayOf]
  apply eq_leBytes
  · simp
  · rw [ofLe_poly1305Authenticate, hvalue, hpow, Nat.mod_mod]

end BareProxy.Crypto
