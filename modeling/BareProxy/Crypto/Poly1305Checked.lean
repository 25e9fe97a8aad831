import BareProxy.Crypto.Poly1305

/-!
# Poly1305 without overflows

`poly1305_authenticate` once more with every addition and multiplication of words checked, and every conversion to
`u32`. Where the source wraps on purpose, this does too.
-/

namespace BareProxy.Crypto

def addBlockChecked (h : Limbs) (chunk : Bytes) : Option Limbs := do
  let b := blockLimbs chunk
  let h0 ← checkedAdd h.l0 b.l0
  let h1 ← checkedAdd h.l1 b.l1
  let h2 ← checkedAdd h.l2 b.l2
  let h3 ← checkedAdd h.l3 b.l3
  let h4 ← checkedAdd h.l4 b.l4
  some ⟨h0, h1, h2, h3, h4⟩

def timesFiveChecked (r : Limbs) : Option Limbs := do
  let r1Times5 ← checkedMul r.l1 5
  let r2Times5 ← checkedMul r.l2 5
  let r3Times5 ← checkedMul r.l3 5
  let r4Times5 ← checkedMul r.l4 5
  some ⟨r.l0, r1Times5, r2Times5, r3Times5, r4Times5⟩

def dotChecked (left right : Limbs) : Option UInt64 := do
  let product0 ← checkedMul left.l0 right.l0
  let product1 ← checkedMul left.l1 right.l1
  let sum ← checkedAdd product0 product1
  let product2 ← checkedMul left.l2 right.l2
  let sum ← checkedAdd sum product2
  let product3 ← checkedMul left.l3 right.l3
  let sum ← checkedAdd sum product3
  let product4 ← checkedMul left.l4 right.l4
  checkedAdd sum product4

def columnsChecked (r s h : Limbs) : Option Limbs := do
  let d0 ← dotChecked h ⟨r.l0, s.l4, s.l3, s.l2, s.l1⟩
  let d1 ← dotChecked h ⟨r.l1, r.l0, s.l4, s.l3, s.l2⟩
  let d2 ← dotChecked h ⟨r.l2, r.l1, r.l0, s.l4, s.l3⟩
  let d3 ← dotChecked h ⟨r.l3, r.l2, r.l1, r.l0, s.l4⟩
  let d4 ← dotChecked h ⟨r.l4, r.l3, r.l2, r.l1, r.l0⟩
  some ⟨d0, d1, d2, d3, d4⟩

def carryUpChecked (d : Limbs) : Option Limbs := do
  let d1 ← checkedAdd d.l1 (d.l0 >>> 26)
  let d2 ← checkedAdd d.l2 (d1 >>> 26)
  let d3 ← checkedAdd d.l3 (d2 >>> 26)
  let d4 ← checkedAdd d.l4 (d3 >>> 26)
  some ⟨d.l0, d1, d2, d3, d4⟩

def carryAroundChecked (d : Limbs) : Option Limbs := do
  let around ← checkedMul (d.l4 >>> 26) 5
  let h0 ← checkedAdd (d.l0 &&& poly1305LimbMask) around
  let h1 ← checkedAdd (d.l1 &&& poly1305LimbMask) (h0 >>> 26)
  some ⟨h0 &&& poly1305LimbMask, h1, d.l2 &&& poly1305LimbMask, d.l3 &&& poly1305LimbMask, d.l4 &&& poly1305LimbMask⟩

/-- One turn of the loop over the blocks. -/
def blockStepChecked (r s h : Limbs) (chunk : Bytes) : Option Limbs := do
  let h ← addBlockChecked h chunk
  let d ← columnsChecked r s h
  let d ← carryUpChecked d
  carryAroundChecked d

def lastCarriesChecked (h : Limbs) : Option Limbs := do
  let h2 ← checkedAdd h.l2 (h.l1 >>> 26)
  let h3 ← checkedAdd h.l3 (h2 >>> 26)
  let h4 ← checkedAdd h.l4 (h3 >>> 26)
  let around ← checkedMul (h4 >>> 26) 5
  let h0 ← checkedAdd h.l0 around
  let h1 ← checkedAdd (h.l1 &&& poly1305LimbMask) (h0 >>> 26)
  some ⟨h0 &&& poly1305LimbMask, h1, h2 &&& poly1305LimbMask, h3 &&& poly1305LimbMask, h4 &&& poly1305LimbMask⟩

def lessPrimeChecked (h : Limbs) : Option Limbs := do
  let g0 ← checkedAdd h.l0 5
  let g1 ← checkedAdd h.l1 (g0 >>> 26)
  let g2 ← checkedAdd h.l2 (g1 >>> 26)
  let g3 ← checkedAdd h.l3 (g2 >>> 26)
  -- the last limb wraps below zero where there is nothing to take away
  some ⟨g0 &&& poly1305LimbMask, g1 &&& poly1305LimbMask, g2 &&& poly1305LimbMask, g3 &&& poly1305LimbMask,
    h.l4 + (g3 >>> 26) - ((1 : UInt64) <<< 26)⟩

-- for the indices into four words below
local instance neZero_four : NeZero 4 := ⟨by decide⟩

def wordSumsChecked (f pad : Vector UInt64 4) : Option (Vector UInt64 4) := do
  let f0 ← checkedAdd (f.get 0) (pad.get 0)
  let carried1 ← checkedAdd (pad.get 1) (f0 >>> 32)
  let f1 ← checkedAdd (f.get 1) carried1
  let carried2 ← checkedAdd (pad.get 2) (f1 >>> 32)
  let f2 ← checkedAdd (f.get 2) carried2
  let carried3 ← checkedAdd (pad.get 3) (f2 >>> 32)
  let f3 ← checkedAdd (f.get 3) carried3
  some #v[f0, f1, f2, f3]

/-- `u32::try_from` and the bytes of the word. -/
def wordBytesChecked (word : UInt64) : Option (ByteArrayN 4) :=
  if word.toNat < 2 ^ 32 then some (leArray 4 word.toNat) else none

def tagBytesChecked (words : Vector UInt64 4) : Option (ByteArrayN 16) := do
  let bytes0 ← wordBytesChecked (words.get 0)
  let bytes1 ← wordBytesChecked (words.get 1)
  let bytes2 ← wordBytesChecked (words.get 2)
  let bytes3 ← wordBytesChecked (words.get 3)
  some (#v[bytes0, bytes1, bytes2, bytes3].flatten : Vector Byte (4 * 4))

def poly1305AuthenticateChecked (key : ByteArrayN 32) (message : Bytes) : Option (ByteArrayN 16) := do
  let r := clampedR key
  let s ← timesFiveChecked r
  let h ← (chunks poly1305BlockSize message).foldlM (blockStepChecked r s) ⟨0, 0, 0, 0, 0⟩
  let h ← lastCarriesChecked h
  let g ← lessPrimeChecked h
  let words ← wordSumsChecked (packed (select h g)) (pads key)
  tagBytesChecked (words.map (· &&& 0xffffffff))

/-! ### Nothing is refused -/

theorem checkedAdd_carry (left right : UInt64) (h : left.toNat + right.toNat / 2 ^ 26 < 2 ^ 64) :
    checkedAdd left (right >>> 26) = some (left + (right >>> 26)) := by
  rw [← toNat_shiftRight_26] at h
  exact checkedAdd_eq h

theorem checkedMul_carry_five (word : UInt64) : checkedMul (word >>> 26) 5 = some ((word >>> 26) * 5) := by
  have hlt := word.toNat_lt
  have hfive : (5 : UInt64).toNat = 5 := rfl
  have hshift := toNat_shiftRight_26 word
  apply checkedMul_eq
  rw [hfive]
  omega

section Block

variable {r h : Limbs}

theorem addBlockChecked_eq (hcarried : h.Carried) (chunk : Bytes) :
    addBlockChecked h chunk = some (addBlock h chunk) := by
  obtain ⟨hl0, hl1, hl2, hl3, hl4⟩ := hcarried
  obtain ⟨hb0, hb1, hb2, hb3, hb4⟩ := below_blockLimbs chunk
  rw [addBlockChecked, checkedAdd_eq (by omega), checkedAdd_eq (by omega), checkedAdd_eq (by omega),
    checkedAdd_eq (by omega), checkedAdd_eq (by omega), addBlock_eq]
  rfl

theorem timesFiveChecked_eq (hr : r.Below (2 ^ 26)) : timesFiveChecked r = some (timesFive r) := by
  obtain ⟨-, h1, h2, h3, h4⟩ := hr
  have hfive : (5 : UInt64).toNat = 5 := rfl
  have hmul {word : UInt64} (hword : word.toNat < 2 ^ 26) : checkedMul word 5 = some (word * 5) :=
    checkedMul_eq (by rw [hfive]; omega)
  rw [timesFiveChecked, hmul h1, hmul h2, hmul h3, hmul h4]
  rfl

theorem dotChecked_eq {left right : Limbs} (hleft : left.Below (2 ^ 28)) (hright : right.Below (2 ^ 29)) :
    dotChecked left right = some (dot left right) := by
  obtain ⟨h0, h1, h2, h3, h4⟩ := products_lt hleft hright
  obtain ⟨hs1, hs2, hs3⟩ := toNat_dot_sums hleft hright
  have hproduct {a b : UInt64} (h : a.toNat * b.toNat < 2 ^ 57) :
      checkedMul a b = some (a * b) ∧ (a * b).toNat = a.toNat * b.toNat :=
    ⟨checkedMul_eq (by omega), toNat_mul_of_product_lt a b (by omega)⟩
  obtain ⟨hc0, hp0⟩ := hproduct h0
  obtain ⟨hc1, hp1⟩ := hproduct h1
  obtain ⟨hc2, hp2⟩ := hproduct h2
  obtain ⟨hc3, hp3⟩ := hproduct h3
  obtain ⟨hc4, hp4⟩ := hproduct h4
  simp only [dotChecked, hc0, hc1, hc2, hc3, hc4, Option.bind_eq_bind, Option.bind_some]
  rw [checkedAdd_eq (by omega), Option.bind_some, checkedAdd_eq (by omega), Option.bind_some,
    checkedAdd_eq (by omega), Option.bind_some, checkedAdd_eq (by omega), dot]

theorem columnsChecked_eq (hr : r.Below (2 ^ 26)) (hh : h.Below (2 ^ 28)) :
    columnsChecked r (timesFive r) h = some (columns r (timesFive r) h) := by
  obtain ⟨h0, h1, h2, h3, h4⟩ := below_rows hr
  rw [columnsChecked, dotChecked_eq hh h0, dotChecked_eq hh h1, dotChecked_eq hh h2, dotChecked_eq hh h3,
    dotChecked_eq hh h4]
  rfl

theorem carryUpChecked_eq {d : Limbs} (hd : d.Below (2 ^ 60)) : carryUpChecked d = some (carryUp d) := by
  obtain ⟨hu1, hu2, hu3, hu4⟩ := toNat_carryUp hd
  obtain ⟨hd0, hd1, hd2, hd3, hd4⟩ := hd
  have h1 : checkedAdd d.l1 (d.l0 >>> 26) = some (carryUp d).l1 := checkedAdd_carry _ _ (by omega)
  have h2 : checkedAdd d.l2 ((carryUp d).l1 >>> 26) = some (carryUp d).l2 :=
    checkedAdd_carry d.l2 (carryUp d).l1 (by omega)
  have h3 : checkedAdd d.l3 ((carryUp d).l2 >>> 26) = some (carryUp d).l3 :=
    checkedAdd_carry d.l3 (carryUp d).l2 (by omega)
  have h4 : checkedAdd d.l4 ((carryUp d).l3 >>> 26) = some (carryUp d).l4 :=
    checkedAdd_carry d.l4 (carryUp d).l3 (by omega)
  simp only [carryUpChecked, h1, h2, h3, h4, Option.bind_eq_bind, Option.bind_some]
  rfl

theorem carryAroundChecked_eq {d : Limbs} (hd : d.Below (2 ^ 61)) : carryAroundChecked d = some (carryAround d) := by
  have hd4 := hd.l4
  have hlow := toNat_and_limbMask d.l0
  have hnext := toNat_and_limbMask d.l1
  have hfive := toNat_carry_mul_five d.l4
  have hsum := toNat_carriedAround hd
  have h0 : checkedAdd (d.l0 &&& poly1305LimbMask) ((d.l4 >>> 26) * 5) = some _ := checkedAdd_eq (by omega)
  have h1 : checkedAdd (d.l1 &&& poly1305LimbMask)
      (((d.l0 &&& poly1305LimbMask) + (d.l4 >>> 26) * 5) >>> 26) = some _ := checkedAdd_carry _ _ (by omega)
  simp only [carryAroundChecked, checkedMul_carry_five, h0, h1, Option.bind_eq_bind, Option.bind_some]
  rfl

theorem blockStepChecked_eq (hr : r.Below (2 ^ 26)) (hcarried : h.Carried) (chunk : Bytes) :
    blockStepChecked r (timesFive r) h chunk = some (multiplyR r (addBlock h chunk)) := by
  have hcolumns := below_columns hr (below_addBlock hcarried chunk)
  rw [blockStepChecked, addBlockChecked_eq hcarried chunk, Option.bind_eq_bind, Option.bind_some,
    columnsChecked_eq hr (below_addBlock hcarried chunk), Option.bind_some, carryUpChecked_eq hcolumns,
    Option.bind_some, carryAroundChecked_eq (below_carryUp hcolumns), multiplyR_eq]

theorem foldlM_blockStepChecked (hr : r.Below (2 ^ 26)) (message : Bytes) :
    (chunks poly1305BlockSize message).foldlM (blockStepChecked r (timesFive r)) ⟨0, 0, 0, 0, 0⟩ =
      some (poly1305Blocks r ⟨0, 0, 0, 0, 0⟩ message) := by
  have hstep : ∀ (h : Limbs) (chunk : Bytes), h.Carried →
      blockStepChecked r (timesFive r) h chunk = some (multiplyR r (addBlock h chunk)) :=
    fun h chunk hcarried => blockStepChecked_eq hr hcarried chunk
  have hnext : ∀ (h : Limbs) (chunk : Bytes), h.Carried → (multiplyR r (addBlock h chunk)).Carried :=
    fun h chunk hcarried => carried_multiplyR hr (below_addBlock hcarried chunk)
  rw [poly1305Blocks_eq]
  exact foldlM_eq_some_foldl hstep hnext carried_zero _

end Block

section Reduced

variable {h : Limbs}

theorem lastCarriesChecked_eq (hcarried : h.Carried) : lastCarriesChecked h = some (lastCarries h) := by
  obtain ⟨hl0, hl1, hl2, hl3, hl4⟩ := hcarried
  have hk2 := toNat_add_carry h.l2 h.l1 (by omega)
  simp only [lastCarriesChecked, lastCarries, checkedAdd_carry h.l2 h.l1 (by omega), Option.bind_eq_bind,
    Option.bind_some]
  generalize h.l2 + (h.l1 >>> 26) = k2 at hk2
  have hk3 := toNat_add_carry h.l3 k2 (by omega)
  simp only [checkedAdd_carry h.l3 k2 (by omega), Option.bind_some]
  generalize h.l3 + (k2 >>> 26) = k3 at hk3
  have hk4 := toNat_add_carry h.l4 k3 (by omega)
  simp only [checkedAdd_carry h.l4 k3 (by omega), Option.bind_some]
  generalize h.l4 + (k3 >>> 26) = k4 at hk4
  have hfive := toNat_carry_mul_five k4
  have hk0 := toNat_add_of_sum_lt h.l0 ((k4 >>> 26) * 5) (by omega)
  simp only [checkedMul_carry_five, checkedAdd_eq (show h.l0.toNat + ((k4 >>> 26) * 5).toNat < 2 ^ 64 by omega),
    Option.bind_some]
  generalize h.l0 + (k4 >>> 26) * 5 = k0 at hk0
  have hmask := toNat_and_limbMask h.l1
  simp only [checkedAdd_carry (h.l1 &&& poly1305LimbMask) k0 (by omega), Option.bind_some]

theorem lessPrimeChecked_eq (hbelow : h.Below (2 ^ 26)) : lessPrimeChecked h = some (lessPrime h) := by
  have hfive := toNat_plusFive hbelow
  obtain ⟨hu1, hu2, hu3, hu4⟩ := toNat_carryUp (below_plusFive hbelow)
  obtain ⟨hl0, hl1, hl2, hl3, hl4⟩ := hbelow
  dsimp only at hu1 hu2 hu3 hu4
  have h0 : checkedAdd h.l0 5 = some (h.l0 + 5) :=
    checkedAdd_eq (by
      have hword : (5 : UInt64).toNat = 5 := rfl
      omega)
  have h1 : checkedAdd h.l1 ((h.l0 + 5) >>> 26) = some (carryUp ⟨h.l0 + 5, h.l1, h.l2, h.l3, h.l4⟩).l1 :=
    checkedAdd_carry _ _ (by omega)
  have h2 : checkedAdd h.l2 ((carryUp ⟨h.l0 + 5, h.l1, h.l2, h.l3, h.l4⟩).l1 >>> 26) =
      some (carryUp ⟨h.l0 + 5, h.l1, h.l2, h.l3, h.l4⟩).l2 := checkedAdd_carry h.l2 _ (by omega)
  have h3 : checkedAdd h.l3 ((carryUp ⟨h.l0 + 5, h.l1, h.l2, h.l3, h.l4⟩).l2 >>> 26) =
      some (carryUp ⟨h.l0 + 5, h.l1, h.l2, h.l3, h.l4⟩).l3 := checkedAdd_carry h.l3 _ (by omega)
  simp only [lessPrimeChecked, h0, h1, h2, h3, Option.bind_eq_bind, Option.bind_some]
  rfl

end Reduced

/-! ### The tag -/

theorem wordSumsChecked_eq {f pad : Vector UInt64 4} (hf : Halves f) (hpad : Halves pad) :
    wordSumsChecked f pad = some (wordSums f pad) := by
  obtain ⟨hs0, hs1, hs2, hs3⟩ := toNat_wordSums hf hpad
  obtain ⟨hf0, hf1, hf2, hf3⟩ := hf
  obtain ⟨hpad0, hpad1, hpad2, hpad3⟩ := hpad
  have hcarry (f pad below : UInt64) (hf : f.toNat < 2 ^ 32) (hpad : pad.toNat < 2 ^ 32) :
      checkedAdd pad (below >>> 32) = some (pad + (below >>> 32)) ∧
        checkedAdd f (pad + (below >>> 32)) = some (f + (pad + (below >>> 32))) := by
    have hbelow := below.toNat_lt
    have hshift : (below >>> 32).toNat = below.toNat / 2 ^ 32 := toNat_shiftRight_eq_div below _ (by decide)
    have hpadded := toNat_add_of_sum_lt pad (below >>> 32) (by omega)
    exact ⟨checkedAdd_eq (by omega), checkedAdd_eq (by omega)⟩
  obtain ⟨hp1, hc1⟩ := hcarry f[1] pad[1] (wordSums f pad)[0] hf1 hpad1
  obtain ⟨hp2, hc2⟩ := hcarry f[2] pad[2] (wordSums f pad)[1] hf2 hpad2
  obtain ⟨hp3, hc3⟩ := hcarry f[3] pad[3] (wordSums f pad)[2] hf3 hpad3
  have hc0 : checkedAdd f[0] pad[0] = some (wordSums f pad)[0] := checkedAdd_eq (by omega)
  have hw1 : f[1] + (pad[1] + ((wordSums f pad)[0] >>> 32)) = (wordSums f pad)[1] := rfl
  have hw2 : f[2] + (pad[2] + ((wordSums f pad)[1] >>> 32)) = (wordSums f pad)[2] := rfl
  rw [hw1] at hc1
  rw [hw2] at hc2
  have hget (words : Vector UInt64 4) :
      words.get 0 = words[0] ∧ words.get 1 = words[1] ∧ words.get 2 = words[2] ∧ words.get 3 = words[3] :=
    ⟨rfl, rfl, rfl, rfl⟩
  simp only [wordSumsChecked, hget, hc0, hp1, hc1, hp2, hc2, hp3, hc3, Option.bind_eq_bind, Option.bind_some]
  rfl

theorem wordBytesChecked_eq {word : UInt64} (h : word.toNat < 2 ^ 32) :
    wordBytesChecked word = some (leArray 4 word.toNat) := if_pos h

theorem tagBytesChecked_eq {words : Vector UInt64 4} (h : Halves words) :
    tagBytesChecked words = some ((words.map fun word => leArray 4 word.toNat).flatten : Vector Byte (4 * 4)) := by
  obtain ⟨h0, h1, h2, h3⟩ := h
  obtain ⟨a, b, c, d, rfl⟩ : ∃ a b c d, words = #v[a, b, c, d] :=
    ⟨words[0], words[1], words[2], words[3], by ext i hi; interval_cases i <;> rfl⟩
  have hbytes0 : wordBytesChecked (#v[a, b, c, d].get 0) = some (leArray 4 a.toNat) := wordBytesChecked_eq h0
  have hbytes1 : wordBytesChecked (#v[a, b, c, d].get 1) = some (leArray 4 b.toNat) := wordBytesChecked_eq h1
  have hbytes2 : wordBytesChecked (#v[a, b, c, d].get 2) = some (leArray 4 c.toNat) := wordBytesChecked_eq h2
  have hbytes3 : wordBytesChecked (#v[a, b, c, d].get 3) = some (leArray 4 d.toNat) := wordBytesChecked_eq h3
  simp only [tagBytesChecked, hbytes0, hbytes1, hbytes2, hbytes3, Option.bind_eq_bind, Option.bind_some]
  simp

/-- Poly1305 computes the tag of RFC 8439, and nothing overflows on the way. -/
theorem poly1305_correct (key : ByteArrayN 32) (message : Bytes) :
    poly1305Authenticate key message = poly1305Tag key message ∧
      poly1305AuthenticateChecked key message = some (poly1305Authenticate key message) := by
  have hr := below_clampedR key
  obtain ⟨hcarried, -⟩ := value_poly1305Blocks hr message
  have hbelow := below_lastCarries hcarried
  have hpacked := halves_packed (fullyReduced_value hcarried).1
  have hmasked : Halves ((wordSums (packed (fullyReduced (poly1305Blocks (clampedR key) ⟨0, 0, 0, 0, 0⟩ message)))
      (pads key)).map (· &&& 0xffffffff)) := by
    constructor <;>
    · rw [Vector.getElem_map, toNat_and_wordMask]
      exact Nat.mod_lt _ (by decide)
  refine ⟨poly1305Authenticate_eq key message, ?_⟩
  simp only [poly1305AuthenticateChecked, timesFiveChecked_eq hr, foldlM_blockStepChecked hr,
    lastCarriesChecked_eq hcarried, lessPrimeChecked_eq hbelow, ← fullyReduced_eq,
    wordSumsChecked_eq hpacked (halves_pads key), tagBytesChecked_eq hmasked, Option.bind_eq_bind, Option.bind_some]
  rw [← tagWords_eq, poly1305Authenticate]

end BareProxy.Crypto
