import BareProxy.Base.Endian

/-!
# SHA-256 and HMAC

The streaming hash of `crypto.rs`. The buffer is kept as the bytes that are live in it; the length check that
stops the source at 2^61 bytes is left out. A hasher is determined by the bytes that it has been given, however
they were cut.
-/

namespace BareProxy.Crypto

def sha256BlockSize : Nat := 64

def sha256LengthOffset : Nat := 56

def sha256InitialState : Vector UInt32 8 :=
  #v[0x6a09e667, 0xbb67ae85, 0x3c6ef372, 0xa54ff53a, 0x510e527f, 0x9b05688c, 0x1f83d9ab, 0x5be0cd19]

def sha256RoundConstants : List UInt32 := [
  0x428a2f98, 0x71374491, 0xb5c0fbcf, 0xe9b5dba5, 0x3956c25b, 0x59f111f1, 0x923f82a4, 0xab1c5ed5,
  0xd807aa98, 0x12835b01, 0x243185be, 0x550c7dc3, 0x72be5d74, 0x80deb1fe, 0x9bdc06a7, 0xc19bf174,
  0xe49b69c1, 0xefbe4786, 0x0fc19dc6, 0x240ca1cc, 0x2de92c6f, 0x4a7484aa, 0x5cb0a9dc, 0x76f988da,
  0x983e5152, 0xa831c66d, 0xb00327c8, 0xbf597fc7, 0xc6e00bf3, 0xd5a79147, 0x06ca6351, 0x14292967,
  0x27b70a85, 0x2e1b2138, 0x4d2c6dfc, 0x53380d13, 0x650a7354, 0x766a0abb, 0x81c2c92e, 0x92722c85,
  0xa2bfe8a1, 0xa81a664b, 0xc24b8b70, 0xc76c51a3, 0xd192e819, 0xd6990624, 0xf40e3585, 0x106aa070,
  0x19a4c116, 0x1e376c08, 0x2748774c, 0x34b0bcb5, 0x391c0cb3, 0x4ed8aa4a, 0x5b9cca4f, 0x682e6ff3,
  0x748f82ee, 0x78a5636f, 0x84c87814, 0x8cc70208, 0x90befffa, 0xa4506ceb, 0xbef9a3f7, 0xc67178f2]

/-! ### The compression function -/

def rotateRight (value : UInt32) (count : UInt32) : UInt32 := value >>> count ||| value <<< (32 - count)

def choice (x y z : UInt32) : UInt32 := (x &&& y) ^^^ (~~~x &&& z)

def majority (x y z : UInt32) : UInt32 := (x &&& y) ^^^ (x &&& z) ^^^ (y &&& z)

def bigSigma0 (value : UInt32) : UInt32 := rotateRight value 2 ^^^ rotateRight value 13 ^^^ rotateRight value 22

def bigSigma1 (value : UInt32) : UInt32 := rotateRight value 6 ^^^ rotateRight value 11 ^^^ rotateRight value 25

def smallSigma0 (value : UInt32) : UInt32 := rotateRight value 7 ^^^ rotateRight value 18 ^^^ value >>> 3

def smallSigma1 (value : UInt32) : UInt32 := rotateRight value 17 ^^^ rotateRight value 19 ^^^ value >>> 10

/-- The sixteen big-endian words of a block. -/
def blockWords (block : Bytes) : List UInt32 :=
  (List.range 16).map fun index => UInt32.ofNat (ofBe ((block.drop (4 * index)).take 4))

/-- The words of the block, then those that the schedule derives from them, each from words before it. -/
def messageSchedule (block : Bytes) : List UInt32 :=
  (List.range' 16 48).foldl (fun schedule index =>
    schedule ++ [smallSigma1 (schedule.getD (index - 2) 0) + schedule.getD (index - 7) 0 +
      smallSigma0 (schedule.getD (index - 15) 0) + schedule.getD (index - 16) 0]) (blockWords block)

/-- The working variables, named as in the source. -/
structure Working where
  a : UInt32
  b : UInt32
  c : UInt32
  d : UInt32
  e : UInt32
  f : UInt32
  g : UInt32
  h : UInt32

def round (schedule : List UInt32) (w : Working) (index : Nat) : Working :=
  let temporary1 := w.h + bigSigma1 w.e + choice w.e w.f w.g + sha256RoundConstants.getD index 0 +
    schedule.getD index 0
  let temporary2 := bigSigma0 w.a + majority w.a w.b w.c
  { a := temporary1 + temporary2, b := w.a, c := w.b, d := w.c, e := w.d + temporary1, f := w.e, g := w.f, h := w.g }

def compressBlock (state : Vector UInt32 8) (block : Bytes) : Vector UInt32 8 :=
  let schedule := messageSchedule block
  let w := (List.range 64).foldl (round schedule)
    ⟨state[0], state[1], state[2], state[3], state[4], state[5], state[6], state[7]⟩
  #v[state[0] + w.a, state[1] + w.b, state[2] + w.c, state[3] + w.d, state[4] + w.e, state[5] + w.f,
    state[6] + w.g, state[7] + w.h]

/-- `count` blocks from the front of the input. -/
def compressBlocks (state : Vector UInt32 8) : Nat → Bytes → Vector UInt32 8
  | 0, _ => state
  | count + 1, input =>
      compressBlocks (compressBlock state (input.take sha256BlockSize)) count (input.drop sha256BlockSize)

/-! ### The streaming hasher -/

structure Sha256 where
  state : Vector UInt32 8
  buffer : Bytes
  messageLenBytes : Nat
  deriving DecidableEq

namespace Sha256

def new : Sha256 := ⟨sha256InitialState, [], 0⟩

/-- The whole blocks of the input are compressed and what is left of it is buffered. -/
def absorb (state : Vector UInt32 8) (input : Bytes) (messageLenBytes : Nat) : Sha256 where
  state := compressBlocks state (input.length / sha256BlockSize) input
  buffer := input.drop (sha256BlockSize * (input.length / sha256BlockSize))
  messageLenBytes := messageLenBytes

def update (hasher : Sha256) (input : Bytes) : Sha256 :=
  let messageLenBytes := hasher.messageLenBytes + input.length
  if hasher.buffer.length ≠ 0 then
    let available := sha256BlockSize - hasher.buffer.length
    let bytesToCopy := min available input.length
    let buffer := hasher.buffer ++ input.take bytesToCopy
    let input := input.drop bytesToCopy
    if buffer.length ≠ sha256BlockSize then
      { hasher with buffer, messageLenBytes }
    else
      absorb (compressBlock hasher.state buffer) input messageLenBytes
  else
    absorb hasher.state input messageLenBytes

def finalize (hasher : Sha256) : ByteArrayN 32 :=
  let messageLenBits := beBytes 8 (hasher.messageLenBytes * 8)
  let marked := hasher.buffer ++ [0x80]
  let zeros (count : Nat) : Bytes := List.replicate count 0
  let state :=
    if sha256LengthOffset < marked.length then
      let state := compressBlock hasher.state (marked ++ zeros (sha256BlockSize - marked.length))
      compressBlock state (zeros sha256LengthOffset ++ messageLenBits)
    else
      compressBlock hasher.state (marked ++ zeros (sha256LengthOffset - marked.length) ++ messageLenBits)
  arrayOf (state.toList.flatMap fun word => beBytes 4 word.toNat) (by simp)

/-- The hasher that has been given these bytes. -/
def ofBytes (input : Bytes) : Sha256 := absorb sha256InitialState input input.length

end Sha256

def sha256 (input : Bytes) : ByteArrayN 32 := (Sha256.new.update input).finalize

theorem compressBlocks_append (state : Vector UInt32 8) {front : Bytes} {count : Nat}
    (h : front.length = sha256BlockSize * count) (more : Nat) (back : Bytes) :
    compressBlocks state (count + more) (front ++ back) =
      compressBlocks (compressBlocks state count front) more back := by
  induction count generalizing state front with
  | zero =>
      obtain rfl : front = [] := List.length_eq_zero_iff.mp (by simpa using h)
      rw [Nat.zero_add, List.nil_append, compressBlocks]
  | succ count ih =>
      have hblock : sha256BlockSize ≤ front.length := by
        rw [h, Nat.mul_succ]
        exact Nat.le_add_left _ _
      have hrest : (front.drop sha256BlockSize).length = sha256BlockSize * count := by
        rw [List.length_drop, h, Nat.mul_succ, Nat.add_sub_cancel]
      rw [Nat.succ_add, compressBlocks, compressBlocks, List.take_append_of_le_length hblock,
        List.drop_append_of_le_length hblock, ih _ hrest]

namespace Sha256

/-- The bytes beyond the whole blocks do not reach the compression function. -/
theorem compressBlocks_take (state : Vector UInt32 8) (count : Nat) (input : Bytes) :
    compressBlocks state count (input.take (sha256BlockSize * count)) = compressBlocks state count input := by
  induction count generalizing state input with
  | zero => rfl
  | succ count ih =>
      rw [compressBlocks, compressBlocks, List.take_take, Nat.mul_succ, Nat.min_eq_left (Nat.le_add_left _ _),
        List.drop_take, Nat.add_sub_cancel, ih]

/-- Absorbing in two pieces, the first of which is whole blocks. -/
theorem absorb_append (state : Vector UInt32 8) {front : Bytes} {count : Nat}
    (h : front.length = sha256BlockSize * count) (back : Bytes) (messageLenBytes : Nat) :
    absorb state (front ++ back) messageLenBytes = absorb (compressBlocks state count front) back messageLenBytes := by
  have hblocks : (front ++ back).length / sha256BlockSize = count + back.length / sha256BlockSize := by
    rw [List.length_append, h, Nat.mul_add_div (by decide)]
  have hbuffer : (front ++ back).drop (sha256BlockSize * (count + back.length / sha256BlockSize)) =
      back.drop (sha256BlockSize * (back.length / sha256BlockSize)) := by
    rw [Nat.mul_add, ← h, List.drop_append]
    simp
  rw [absorb, absorb, hblocks, compressBlocks_append _ h, hbuffer]

theorem absorb_short (state : Vector UInt32 8) {input : Bytes} (h : input.length < sha256BlockSize)
    (messageLenBytes : Nat) : absorb state input messageLenBytes = ⟨state, input, messageLenBytes⟩ := by
  rw [absorb, Nat.div_eq_of_lt h, Nat.mul_zero, List.drop_zero, compressBlocks]

/-- The buffered bytes count as the front of the next input. -/
theorem update_eq_absorb {hasher : Sha256} (h : hasher.buffer.length < sha256BlockSize) (input : Bytes) :
    hasher.update input =
      absorb hasher.state (hasher.buffer ++ input) (hasher.messageLenBytes + input.length) := by
  rw [update]
  by_cases hempty : hasher.buffer.length = 0
  · rw [if_neg (not_not_intro hempty), List.length_eq_zero_iff.mp hempty, List.nil_append]
  rw [if_pos hempty]
  by_cases hshort : hasher.buffer.length + input.length < sha256BlockSize
  · have hcopy : min (sha256BlockSize - hasher.buffer.length) input.length = input.length := by omega
    have hlength : (hasher.buffer ++ input).length < sha256BlockSize := by rwa [List.length_append]
    simp only [hcopy, List.take_length]
    rw [if_pos hlength.ne, absorb_short _ hlength]
  · have hcopy : min (sha256BlockSize - hasher.buffer.length) input.length =
        sha256BlockSize - hasher.buffer.length := by omega
    have hblock : (hasher.buffer ++ input.take (sha256BlockSize - hasher.buffer.length)).length =
        sha256BlockSize := by
      rw [List.length_append, List.length_take]
      omega
    have hsplit : hasher.buffer ++ input = hasher.buffer ++ input.take (sha256BlockSize - hasher.buffer.length) ++
        input.drop (sha256BlockSize - hasher.buffer.length) := by
      rw [List.append_assoc, List.take_append_drop]
    simp only [hcopy]
    rw [if_neg (not_not_intro hblock), hsplit, @absorb_append _ _ 1 (by rw [hblock, Nat.mul_one]),
      compressBlocks, compressBlocks, List.take_of_length_le hblock.le]

/-- What a hasher holds depends on the bytes that it was given, not on how they were cut. -/
theorem update_ofBytes (seen input : Bytes) : (ofBytes seen).update input = ofBytes (seen ++ input) := by
  have hwhole : (seen.take (sha256BlockSize * (seen.length / sha256BlockSize))).length =
      sha256BlockSize * (seen.length / sha256BlockSize) := by
    rw [List.length_take, Nat.min_eq_left (Nat.mul_div_le _ _)]
  have hbuffer : (ofBytes seen).buffer.length < sha256BlockSize := by
    rw [ofBytes, absorb, List.length_drop]
    have hmod := Nat.mod_lt seen.length (show 0 < sha256BlockSize by decide)
    rw [Nat.mod_eq_sub] at hmod
    exact hmod
  have hsplit : seen ++ input = seen.take (sha256BlockSize * (seen.length / sha256BlockSize)) ++
      ((ofBytes seen).buffer ++ input) := by
    rw [← List.append_assoc]
    exact congrArg (· ++ input) (List.take_append_drop _ seen).symm
  calc (ofBytes seen).update input
      = absorb (ofBytes seen).state ((ofBytes seen).buffer ++ input) (seen.length + input.length) :=
        update_eq_absorb hbuffer input
    _ = absorb sha256InitialState (seen.take (sha256BlockSize * (seen.length / sha256BlockSize)) ++
          ((ofBytes seen).buffer ++ input)) (seen.length + input.length) := by
        rw [absorb_append _ hwhole, compressBlocks_take]
        rfl
    _ = ofBytes (seen ++ input) := by rw [← hsplit, ofBytes, List.length_append]

theorem new_update (input : Bytes) : new.update input = ofBytes input := update_ofBytes [] input

/-- A run of updates. -/
theorem foldl_update_ofBytes (seen : Bytes) (parts : List Bytes) :
    parts.foldl update (ofBytes seen) = ofBytes (seen ++ parts.flatten) := by
  induction parts generalizing seen with
  | nil => rw [List.foldl_nil, List.flatten_nil, List.append_nil]
  | cons part parts ih => rw [List.foldl_cons, update_ofBytes, ih, List.flatten_cons, List.append_assoc]

theorem finalize_ofBytes (input : Bytes) : (ofBytes input).finalize = sha256 input := by
  rw [sha256, new_update]

end Sha256

/-! ### HMAC -/

def hmacInnerPadByte : Byte := 0x36

def hmacOuterPadByte : Byte := 0x5c

/-- The key, hashed when it is longer than a block, and filled up with zeros. -/
def hmacKeyBlock (key : Bytes) : Bytes :=
  let key := if sha256BlockSize < key.length then (sha256 key).toList else key
  key ++ List.replicate (sha256BlockSize - key.length) 0

def hmacSha256Parts (key : Bytes) (dataParts : List Bytes) : ByteArrayN 32 :=
  let innerPad := (hmacKeyBlock key).map (· ^^^ hmacInnerPadByte)
  let outerPad := (hmacKeyBlock key).map (· ^^^ hmacOuterPadByte)
  let innerDigest := (dataParts.foldl Sha256.update (Sha256.new.update innerPad)).finalize
  ((Sha256.new.update outerPad).update innerDigest.toList).finalize

def hmacSha256 (key data : Bytes) : ByteArrayN 32 := hmacSha256Parts key [data]

end BareProxy.Crypto
