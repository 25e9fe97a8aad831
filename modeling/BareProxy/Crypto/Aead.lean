import BareProxy.Base.Endian
import BareProxy.Base.Result

/-!
# ChaCha20-Poly1305

The AEAD of `crypto.rs`. Words have the widths of the source, so additions wrap where the source says
`wrapping_add`. Wiping of temporaries is left out. What the rest needs to know is that decryption undoes
encryption: the stream cipher is its own inverse and the tag is recomputed from the same data.
-/

namespace BareProxy.Crypto

inductive ChaCha20Error
  | counterExhausted (counter : UInt32) (blocks : Nat)
  deriving DecidableEq, Repr

inductive ChaCha20Poly1305Error
  | chaCha20 (error : ChaCha20Error)
  | authenticationFailed
  deriving DecidableEq, Repr

/-- The accumulated differences of the bytes, as `constant_time_eq` collects them. -/
def difference (left right : Bytes) : Byte :=
  (left.zip right).foldl (fun difference (leftByte, rightByte) => difference ||| (leftByte ^^^ rightByte)) 0

def constantTimeEq (left right : Bytes) : Bool :=
  if left.length ≠ right.length then false else difference left right == 0

def readU32Le (bytes : Bytes) : UInt32 := UInt32.ofNat (ofLe bytes)

/-- The little-endian words of `4 * count` bytes. -/
def wordsLe (count : Nat) (bytes : Bytes) : Vector UInt32 count :=
  Vector.ofFn fun index => readU32Le ((bytes.drop (4 * index.val)).take 4)

/-! ### ChaCha20 -/

def chacha20BlockSize : Nat := 64

def chacha20Constants : Vector UInt32 4 := #v[0x61707865, 0x3320646e, 0x79622d32, 0x6b206574]

def rotateLeft (word : UInt32) (count : UInt32) : UInt32 := (word <<< count) ||| (word >>> (32 - count))

def chacha20QuarterRound (a b c d : UInt32) : UInt32 × UInt32 × UInt32 × UInt32 :=
  let a := a + b
  let d := rotateLeft (d ^^^ a) 16
  let c := c + d
  let b := rotateLeft (b ^^^ c) 12
  let a := a + b
  let d := rotateLeft (d ^^^ a) 8
  let c := c + d
  let b := rotateLeft (b ^^^ c) 7
  (a, b, c, d)

def chacha20QuarterRoundState (state : Vector UInt32 16) (a b c d : Fin 16) : Vector UInt32 16 :=
  let (aValue, bValue, cValue, dValue) := chacha20QuarterRound state[a] state[b] state[c] state[d]
  (((state.set a aValue).set b bValue).set c cValue).set d dValue

/-- One pass of the loop: a column round and a diagonal round. -/
def chacha20DoubleRound (state : Vector UInt32 16) : Vector UInt32 16 :=
  let state := chacha20QuarterRoundState state 0 4 8 12
  let state := chacha20QuarterRoundState state 1 5 9 13
  let state := chacha20QuarterRoundState state 2 6 10 14
  let state := chacha20QuarterRoundState state 3 7 11 15
  let state := chacha20QuarterRoundState state 0 5 10 15
  let state := chacha20QuarterRoundState state 1 6 11 12
  let state := chacha20QuarterRoundState state 2 7 8 13
  chacha20QuarterRoundState state 3 4 9 14

def chacha20Block (key : ByteArrayN 32) (counter : UInt32) (nonce : ByteArrayN 12) : ByteArrayN 64 :=
  let initialState : Vector UInt32 16 :=
    chacha20Constants ++ wordsLe 8 key.toList ++ #v[counter] ++ wordsLe 3 nonce.toList
  let state := (List.range 10).foldl (fun state _ => chacha20DoubleRound state) initialState
  (((state.zipWith (· + ·) initialState).map fun word => leArray 4 word.toNat).flatten : Vector Byte (16 * 4))

/-- The loop of `chacha20_xor`, from the block with this index. -/
def xorBlocks (key : ByteArrayN 32) (counter : UInt32) (nonce : ByteArrayN 12) (blockIndex : Nat) (input : Bytes) :
    Bytes :=
  if input = [] then []
  else
    let keyStream := chacha20Block key (counter + UInt32.ofNat blockIndex) nonce
    List.zipWith (· ^^^ ·) (input.take chacha20BlockSize) keyStream.toList ++
      xorBlocks key counter nonce (blockIndex + 1) (input.drop chacha20BlockSize)
termination_by input.length
decreasing_by
  rename_i hne
  have hpos : 0 < input.length := List.length_pos_iff.2 hne
  rw [List.length_drop, chacha20BlockSize]
  omega

def chacha20Xor (key : ByteArrayN 32) (counter : UInt32) (nonce : ByteArrayN 12) (input : Bytes) :
    Except ChaCha20Error Bytes :=
  let blockCount := (input.length + (chacha20BlockSize - 1)) / chacha20BlockSize
  let availableBlocks := (2 ^ 32 - 1 - counter.toNat) + 1
  if blockCount > availableBlocks then .error (.counterExhausted counter blockCount)
  else .ok (xorBlocks key counter nonce 0 input)

/-! ### Poly1305 -/

def poly1305BlockSize : Nat := 16

def poly1305LimbMask : UInt64 := ((1 : UInt64) <<< 26) - 1

def poly1305FullBlockHighBit : UInt64 := (1 : UInt64) <<< 24

/-- Five limbs of 26 bits. -/
structure Limbs where
  l0 : UInt64
  l1 : UInt64
  l2 : UInt64
  l3 : UInt64
  l4 : UInt64
  deriving DecidableEq, Repr

/-- The word of four bytes at an offset, as `u64`. -/
def wordAt (bytes : Bytes) (offset : Nat) : UInt64 := (readU32Le ((bytes.drop offset).take 4)).toUInt64

/-- The limbs of 16 bytes; the last one is not masked. -/
def limbsOf (bytes : Bytes) : Limbs where
  l0 := wordAt bytes 0 &&& poly1305LimbMask
  l1 := (wordAt bytes 3 >>> 2) &&& poly1305LimbMask
  l2 := (wordAt bytes 6 >>> 4) &&& poly1305LimbMask
  l3 := (wordAt bytes 9 >>> 6) &&& poly1305LimbMask
  l4 := wordAt bytes 12 >>> 8

/-- The first half of the key with the bits that Poly1305 clears cleared. -/
def clampedR (key : ByteArrayN 32) : Limbs :=
  let rBytes := (key.toList.take 16).mapIdx fun index byte =>
    if index ∈ [3, 7, 11, 15] then byte &&& 0x0f else if index ∈ [4, 8, 12] then byte &&& 0xfc else byte
  let r := limbsOf rBytes
  { r with l4 := r.l4 &&& poly1305LimbMask }

/-- Adds a block to the accumulator. -/
def addBlock (h : Limbs) (chunk : Bytes) : Limbs :=
  let padded := if chunk.length = poly1305BlockSize then chunk else chunk ++ [1]
  let block := padded ++ List.replicate (poly1305BlockSize - padded.length) 0
  let highBit := if chunk.length = poly1305BlockSize then poly1305FullBlockHighBit else 0
  let b := limbsOf block
  ⟨h.l0 + b.l0, h.l1 + b.l1, h.l2 + b.l2, h.l3 + b.l3, h.l4 + (b.l4 ||| highBit)⟩

/-- Multiplies the accumulator by `r` and carries once through the limbs. -/
def multiplyR (r h : Limbs) : Limbs :=
  let r1Times5 := r.l1 * 5
  let r2Times5 := r.l2 * 5
  let r3Times5 := r.l3 * 5
  let r4Times5 := r.l4 * 5
  let d0 := h.l0 * r.l0 + h.l1 * r4Times5 + h.l2 * r3Times5 + h.l3 * r2Times5 + h.l4 * r1Times5
  let d1 := h.l0 * r.l1 + h.l1 * r.l0 + h.l2 * r4Times5 + h.l3 * r3Times5 + h.l4 * r2Times5
  let d2 := h.l0 * r.l2 + h.l1 * r.l1 + h.l2 * r.l0 + h.l3 * r4Times5 + h.l4 * r3Times5
  let d3 := h.l0 * r.l3 + h.l1 * r.l2 + h.l2 * r.l1 + h.l3 * r.l0 + h.l4 * r4Times5
  let d4 := h.l0 * r.l4 + h.l1 * r.l3 + h.l2 * r.l2 + h.l3 * r.l1 + h.l4 * r.l0
  let h0 := d0 &&& poly1305LimbMask
  let d1 := d1 + (d0 >>> 26)
  let h1 := d1 &&& poly1305LimbMask
  let d2 := d2 + (d1 >>> 26)
  let h2 := d2 &&& poly1305LimbMask
  let d3 := d3 + (d2 >>> 26)
  let h3 := d3 &&& poly1305LimbMask
  let d4 := d4 + (d3 >>> 26)
  let h4 := d4 &&& poly1305LimbMask
  let h0 := h0 + (d4 >>> 26) * 5
  let h1 := h1 + (h0 >>> 26)
  let h0 := h0 &&& poly1305LimbMask
  ⟨h0, h1, h2, h3, h4⟩

/-- The loop over the blocks of a message. -/
def poly1305Blocks (r h : Limbs) (message : Bytes) : Limbs :=
  if message = [] then h
  else poly1305Blocks r (multiplyR r (addBlock h (message.take poly1305BlockSize))) (message.drop poly1305BlockSize)
termination_by message.length
decreasing_by
  rename_i hne
  have hpos : 0 < message.length := List.length_pos_iff.2 hne
  rw [List.length_drop, poly1305BlockSize]
  omega

/-- The last carries, and the choice between the accumulator and it less the prime. -/
def fullyReduced (h : Limbs) : Limbs :=
  let h2 := h.l2 + (h.l1 >>> 26)
  let h1 := h.l1 &&& poly1305LimbMask
  let h3 := h.l3 + (h2 >>> 26)
  let h2 := h2 &&& poly1305LimbMask
  let h4 := h.l4 + (h3 >>> 26)
  let h3 := h3 &&& poly1305LimbMask
  let h0 := h.l0 + (h4 >>> 26) * 5
  let h4 := h4 &&& poly1305LimbMask
  let h1 := h1 + (h0 >>> 26)
  let h0 := h0 &&& poly1305LimbMask
  let g0 := h0 + 5
  let g1 := h1 + (g0 >>> 26)
  let g0 := g0 &&& poly1305LimbMask
  let g2 := h2 + (g1 >>> 26)
  let g1 := g1 &&& poly1305LimbMask
  let g3 := h3 + (g2 >>> 26)
  let g2 := g2 &&& poly1305LimbMask
  let g4 := h4 + (g3 >>> 26) - ((1 : UInt64) <<< 26)
  let g3 := g3 &&& poly1305LimbMask
  let selectG := (g4 >>> 63) - 1
  let selectH := ~~~selectG
  ⟨(h0 &&& selectH) ||| (g0 &&& selectG), (h1 &&& selectH) ||| (g1 &&& selectG),
    (h2 &&& selectH) ||| (g2 &&& selectG), (h3 &&& selectH) ||| (g3 &&& selectG),
    (h4 &&& selectH) ||| (g4 &&& selectG)⟩

/-- The four words of the tag: the reduced accumulator plus the second half of the key. -/
def tagWords (key : ByteArrayN 32) (h : Limbs) : Vector UInt64 4 :=
  let wordMask : UInt64 := 0xffffffff
  let f0 := (h.l0 ||| (h.l1 <<< 26)) &&& wordMask
  let f1 := ((h.l1 >>> 6) ||| (h.l2 <<< 20)) &&& wordMask
  let f2 := ((h.l2 >>> 12) ||| (h.l3 <<< 14)) &&& wordMask
  let f3 := ((h.l3 >>> 18) ||| (h.l4 <<< 8)) &&& wordMask
  let f0 := f0 + wordAt key.toList 16
  let f1 := f1 + (wordAt key.toList 20 + (f0 >>> 32))
  let f0 := f0 &&& wordMask
  let f2 := f2 + (wordAt key.toList 24 + (f1 >>> 32))
  let f1 := f1 &&& wordMask
  let f3 := f3 + (wordAt key.toList 28 + (f2 >>> 32))
  let f2 := f2 &&& wordMask
  let f3 := f3 &&& wordMask
  #v[f0, f1, f2, f3]

def poly1305Authenticate (key : ByteArrayN 32) (message : Bytes) : ByteArrayN 16 :=
  let h := fullyReduced (poly1305Blocks (clampedR key) ⟨0, 0, 0, 0, 0⟩ message)
  (((tagWords key h).map fun word => leArray 4 word.toNat).flatten : Vector Byte (4 * 4))

/-! ### The AEAD -/

def chacha20Poly1305OneTimeKey (key : ByteArrayN 32) (nonce : ByteArrayN 12) : ByteArrayN 32 :=
  (chacha20Block key 0 nonce).take 32

/-- The zeros that `append_pad16` appends. -/
def pad16 (inputLength : Nat) : Bytes :=
  let remainder := inputLength % poly1305BlockSize
  if remainder ≠ 0 then List.replicate (poly1305BlockSize - remainder) 0 else []

def chacha20Poly1305MacData (aad ciphertext : Bytes) : Bytes :=
  aad ++ pad16 aad.length ++ ciphertext ++ pad16 ciphertext.length ++ leBytes 8 aad.length ++
    leBytes 8 ciphertext.length

def chacha20Poly1305Encrypt (key : ByteArrayN 32) (nonce : ByteArrayN 12) (aad plaintext : Bytes) :
    Except ChaCha20Poly1305Error (Bytes × ByteArrayN 16) :=
  let oneTimeKey := chacha20Poly1305OneTimeKey key nonce
  match chacha20Xor key 1 nonce plaintext with
  | .error error => .error (.chaCha20 error)
  | .ok ciphertext => .ok (ciphertext, poly1305Authenticate oneTimeKey (chacha20Poly1305MacData aad ciphertext))

def chacha20Poly1305Decrypt (key : ByteArrayN 32) (nonce : ByteArrayN 12) (aad ciphertext : Bytes)
    (tag : ByteArrayN 16) : Except ChaCha20Poly1305Error Bytes :=
  let oneTimeKey := chacha20Poly1305OneTimeKey key nonce
  let expectedTag := poly1305Authenticate oneTimeKey (chacha20Poly1305MacData aad ciphertext)
  if !constantTimeEq expectedTag.toList tag.toList then .error .authenticationFailed
  else match chacha20Xor key 1 nonce ciphertext with
    | .error error => .error (.chaCha20 error)
    | .ok plaintext => .ok plaintext

/-! ### Decryption undoes encryption -/

/-- The differences accumulate to zero only when there is none. -/
theorem difference_eq_zero {left right : Bytes} (hlength : left.length = right.length) :
    difference left right = 0 ↔ left = right := by
  have hfold : ∀ start, (left.zip right).foldl
      (fun difference (leftByte, rightByte) => difference ||| (leftByte ^^^ rightByte)) start = 0 ↔
        start = 0 ∧ left = right := by
    induction left generalizing right with
    | nil =>
      intro start
      rw [List.eq_nil_of_length_eq_zero hlength.symm]
      simp
    | cons leftByte left ih =>
      intro start
      obtain ⟨rightByte, right, rfl⟩ := List.exists_cons_of_length_eq_add_one hlength.symm
      rw [List.zip_cons_cons, List.foldl_cons, ih (by simpa using hlength), UInt8.or_eq_zero_iff,
        UInt8.xor_eq_zero_iff, List.cons.injEq, and_assoc]
  rw [difference, hfold]
  exact and_iff_right rfl

theorem constantTimeEq_iff {left right : Bytes} : constantTimeEq left right = true ↔ left = right := by
  rw [constantTimeEq]
  by_cases hlength : left.length = right.length
  · rw [if_neg (not_not.2 hlength), beq_iff_eq, difference_eq_zero hlength]
  · rw [if_pos hlength]
    constructor
    · intro h
      cases h
    · intro h
      exact absurd (congrArg List.length h) hlength

theorem zipWith_xor_xor (input keyStream : Bytes) (h : input.length ≤ keyStream.length) :
    List.zipWith (· ^^^ ·) (List.zipWith (· ^^^ ·) input keyStream) keyStream = input := by
  induction input generalizing keyStream with
  | nil => simp
  | cons b input ih =>
    cases keyStream with
    | nil => simp at h
    | cons k keyStream =>
      rw [List.zipWith_cons_cons, List.zipWith_cons_cons, ih keyStream (by simpa using h), UInt8.xor_assoc,
        UInt8.xor_self, UInt8.xor_zero]

section Stream

variable (key : ByteArrayN 32) (counter : UInt32) (nonce : ByteArrayN 12)

theorem length_xorBlocks (blockIndex : Nat) (input : Bytes) :
    (xorBlocks key counter nonce blockIndex input).length = input.length := by
  fun_induction xorBlocks key counter nonce blockIndex input with
  | case1 => rfl
  | case2 blockIndex input hne keyStream ih =>
    rw [List.length_append, ih, List.length_zipWith, List.length_take, List.length_drop, Vector.length_toList,
      chacha20BlockSize]
    omega

/-- The cipher is its own inverse. -/
theorem xorBlocks_xorBlocks (blockIndex : Nat) (input : Bytes) :
    xorBlocks key counter nonce blockIndex (xorBlocks key counter nonce blockIndex input) = input := by
  fun_induction xorBlocks key counter nonce blockIndex input with
  | case1 => rw [xorBlocks, if_pos rfl]
  | case2 blockIndex input hne keyStream ih =>
    have htake : (input.take chacha20BlockSize).length ≤ keyStream.toList.length := by
      rw [List.length_take, Vector.length_toList]
      exact Nat.min_le_left _ _
    generalize hfirst : List.zipWith (· ^^^ ·) (input.take chacha20BlockSize) keyStream.toList = first
    generalize hrest : xorBlocks key counter nonce (blockIndex + 1) (input.drop chacha20BlockSize) = rest at ih
    have hlength : first.length = (input.take chacha20BlockSize).length := by
      rw [← hfirst, List.length_zipWith, Nat.min_eq_left htake]
    have hrestLength : rest.length = (input.drop chacha20BlockSize).length := by
      rw [← hrest, length_xorBlocks]
    -- the first block is cut off again where it was put
    have hcut : (first ++ rest).take chacha20BlockSize = first ∧ (first ++ rest).drop chacha20BlockSize = rest := by
      rw [List.length_take] at hlength
      rw [List.length_drop] at hrestLength
      rcases Nat.le_total chacha20BlockSize input.length with hle | hle
      · exact ⟨List.take_left' (by omega), List.drop_left' (by omega)⟩
      · have hnil : rest = [] := List.length_eq_zero_iff.1 (by omega)
        subst hnil
        rw [List.append_nil]
        exact ⟨List.take_of_length_le (by omega), List.drop_of_length_le (by omega)⟩
    have hne' : first ++ rest ≠ [] := by
      intro hnil
      have hzero := congrArg List.length hnil
      rw [List.length_append, hlength, hrestLength, ← List.length_append, List.take_append_drop] at hzero
      exact hne (List.length_eq_zero_iff.1 hzero)
    rw [xorBlocks, if_neg hne']
    dsimp only
    rw [hcut.1, hcut.2, ih, ← hfirst, zipWith_xor_xor _ _ htake, List.take_append_drop]

theorem chacha20Xor_ok {input output : Bytes} (h : chacha20Xor key counter nonce input = .ok output) :
    chacha20Xor key counter nonce output = .ok input ∧ output.length = input.length := by
  unfold chacha20Xor at h ⊢
  dsimp only at h ⊢
  split at h
  · cases h
  · rename_i hblocks
    cases h
    rw [length_xorBlocks, if_neg hblocks, xorBlocks_xorBlocks]
    exact ⟨rfl, rfl⟩

/-- Short inputs are within the range of the counter. -/
theorem chacha20Xor_isOk {input : Bytes} (h : input.length < 2 ^ 32) :
    ∃ output, chacha20Xor key 1 nonce input = .ok output := by
  unfold chacha20Xor
  dsimp only
  split
  · rename_i hblocks
    exfalso
    have hone : (1 : UInt32).toNat = 1 := rfl
    rw [hone, chacha20BlockSize] at hblocks
    omega
  · exact ⟨_, rfl⟩

end Stream

/-- What was encrypted is decrypted. -/
theorem chacha20Poly1305Decrypt_encrypt {key : ByteArrayN 32} {nonce : ByteArrayN 12} {aad plaintext ciphertext : Bytes}
    {tag : ByteArrayN 16} (h : chacha20Poly1305Encrypt key nonce aad plaintext = .ok (ciphertext, tag)) :
    chacha20Poly1305Decrypt key nonce aad ciphertext tag = .ok plaintext ∧ ciphertext.length = plaintext.length := by
  unfold chacha20Poly1305Encrypt at h
  dsimp only at h
  split at h
  · cases h
  · rename_i output hxor
    cases h
    obtain ⟨hback, hlength⟩ := chacha20Xor_ok key 1 nonce hxor
    refine ⟨?_, hlength⟩
    simp [chacha20Poly1305Decrypt, constantTimeEq_iff.2, hback]

/-- Whatever decrypts is the encryption of what comes out. -/
theorem chacha20Poly1305Encrypt_decrypt {key : ByteArrayN 32} {nonce : ByteArrayN 12} {aad plaintext ciphertext : Bytes}
    {tag : ByteArrayN 16} (h : chacha20Poly1305Decrypt key nonce aad ciphertext tag = .ok plaintext) :
    chacha20Poly1305Encrypt key nonce aad plaintext = .ok (ciphertext, tag) := by
  dsimp only [chacha20Poly1305Decrypt] at h
  split at h
  · cases h
  · rename_i htag
    split at h
    · cases h
    · rename_i output hxor
      cases h
      rw [Bool.not_eq_true', Bool.not_eq_false, constantTimeEq_iff] at htag
      simp only [chacha20Poly1305Encrypt, (chacha20Xor_ok key 1 nonce hxor).1, array_ext htag]

/-- Decryption accepts exactly what encryption made, so that a plaintext has one ciphertext and one tag. -/
theorem chacha20Poly1305Decrypt_ok_iff (key : ByteArrayN 32) (nonce : ByteArrayN 12) (aad ciphertext plaintext : Bytes)
    (tag : ByteArrayN 16) :
    (chacha20Poly1305Decrypt key nonce aad ciphertext tag = .ok plaintext ↔
      chacha20Poly1305Encrypt key nonce aad plaintext = .ok (ciphertext, tag)) ∧
    (chacha20Poly1305Encrypt key nonce aad plaintext = .ok (ciphertext, tag) → ∀ ciphertext' tag',
      chacha20Poly1305Decrypt key nonce aad ciphertext' tag' = .ok plaintext ↔
        ciphertext' = ciphertext ∧ tag' = tag) := by
  have hiff : ∀ ciphertext tag, chacha20Poly1305Decrypt key nonce aad ciphertext tag = .ok plaintext ↔
      chacha20Poly1305Encrypt key nonce aad plaintext = .ok (ciphertext, tag) := by
    intro ciphertext tag
    exact ⟨chacha20Poly1305Encrypt_decrypt, fun h => (chacha20Poly1305Decrypt_encrypt h).1⟩
  refine ⟨hiff ciphertext tag, ?_⟩
  intro hencrypt ciphertext' tag'
  rw [hiff, hencrypt, Except.ok.injEq, Prod.mk.injEq, eq_comm, eq_comm (a := tag)]

theorem chacha20Poly1305Encrypt_isOk (key : ByteArrayN 32) (nonce : ByteArrayN 12) (aad : Bytes) {plaintext : Bytes}
    (h : plaintext.length < 2 ^ 32) :
    ∃ ciphertext tag, chacha20Poly1305Encrypt key nonce aad plaintext = .ok (ciphertext, tag) := by
  obtain ⟨output, hxor⟩ := chacha20Xor_isOk key nonce h
  refine ⟨output, poly1305Authenticate (chacha20Poly1305OneTimeKey key nonce) (chacha20Poly1305MacData aad output), ?_⟩
  simp only [chacha20Poly1305Encrypt, hxor]

end BareProxy.Crypto
