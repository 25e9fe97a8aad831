import BareProxy.Base.Fips180
import BareProxy.Crypto.Sha256

/-!
# The streaming hash computes the standard one

Updates leave what all their bytes together would leave, so the digest is that of the concatenated input; the buffer and
the one or two blocks of padding come to the padded message of the standard. The updates here have the length check of
the source, which stops the program where it fails.
-/

namespace BareProxy.Crypto

/-! ### The compression function -/

/-- The table of the source holds the roots that the standard defines. -/
theorem sha256RoundConstants_eq : ∀ t < 64, sha256RoundConstants.getD t 0 = Fips180.roundConstant t := by
  decide +kernel

theorem sha256InitialState_eq : sha256InitialState = Fips180.initialHash := by decide +kernel

private theorem getD_map_range (f : Nat → UInt32) {t n : Nat} (h : t < n) : ((List.range n).map f).getD t 0 = f t := by
  rw [List.getD_eq_getElem?_getD, List.getElem?_map, List.getElem?_range h]
  rfl

/-- The schedule that grows by one word in each turn holds the words of the recurrence. -/
theorem messageSchedule_eq (block : Bytes) : messageSchedule block = (List.range 64).map (Fips180.schedule block) := by
  have hfirst : blockWords block = (List.range 16).map (Fips180.schedule block) := by
    apply List.map_congr_left
    intro t ht
    rw [Fips180.schedule, if_pos (List.mem_range.1 ht)]
  have hgrow : ∀ count, (List.range' 16 count).foldl (fun schedule index =>
      schedule ++ [smallSigma1 (schedule.getD (index - 2) 0) + schedule.getD (index - 7) 0 +
        smallSigma0 (schedule.getD (index - 15) 0) + schedule.getD (index - 16) 0]) (blockWords block) =
      (List.range (16 + count)).map (Fips180.schedule block) := by
    intro count
    induction count with
    | zero => exact hfirst
    | succ count ih =>
        rw [List.range'_concat, List.foldl_append, ih, List.foldl_cons, List.foldl_nil, Nat.one_mul,
          getD_map_range _ (by omega), getD_map_range _ (by omega), getD_map_range _ (by omega),
          getD_map_range _ (by omega), ← Nat.add_assoc, List.range_succ, List.map_append, List.map_singleton]
        congr 2
        rw [Fips180.schedule.eq_1 block (16 + count), if_neg (by omega)]
        rfl
  exact hgrow 48

def Working.variables (w : Working) : Vector UInt32 8 := #v[w.a, w.b, w.c, w.d, w.e, w.f, w.g, w.h]

theorem variables_round (block : Bytes) (w : Working) {t : Nat} (h : t < 64) :
    (round (messageSchedule block) w t).variables = Fips180.round block w.variables t := by
  have hword : (messageSchedule block).getD t 0 = Fips180.schedule block t := by
    rw [messageSchedule_eq, getD_map_range _ h]
  rw [round, hword, sha256RoundConstants_eq t h]
  rfl

theorem compressBlock_eq (state : Vector UInt32 8) (block : Bytes) :
    compressBlock state block = Fips180.compress state block := by
  have hrounds : ∀ (turns : List Nat), (∀ t ∈ turns, t < 64) → ∀ w : Working,
      (turns.foldl (round (messageSchedule block)) w).variables = turns.foldl (Fips180.round block) w.variables := by
    intro turns
    induction turns with
    | nil => intro _ w; rfl
    | cons t turns ih =>
        intro hturns w
        rw [List.foldl_cons, List.foldl_cons, ih fun t' ht' => hturns t' (List.mem_cons_of_mem _ ht'),
          variables_round block w (hturns t List.mem_cons_self)]
  have hstart : (⟨state[0], state[1], state[2], state[3], state[4], state[5], state[6], state[7]⟩ : Working).variables =
      state := by
    apply Vector.ext
    intro i hi
    interval_cases i <;> rfl
  have hfinal := hrounds (List.range 64) (fun t ht => List.mem_range.1 ht)
    ⟨state[0], state[1], state[2], state[3], state[4], state[5], state[6], state[7]⟩
  rw [hstart] at hfinal
  rw [compressBlock, Fips180.compress, ← hfinal]
  apply Vector.ext
  intro i hi
  rw [Vector.getElem_ofFn]
  interval_cases i <;> rfl

/-! ### The digest -/

theorem compressBlocks_eq {count : Nat} {input : Bytes} (h : input.length = sha256BlockSize * count)
    (state : Vector UInt32 8) :
    compressBlocks state count input = (chunks sha256BlockSize input).foldl Fips180.compress state := by
  induction count generalizing input state with
  | zero =>
      obtain rfl : input = [] := List.length_eq_zero_iff.1 (by rw [h, Nat.mul_zero])
      rw [compressBlocks, chunks_nil, List.foldl_nil]
  | succ count ih =>
      have hne : input ≠ [] := List.length_pos_iff.1 (by rw [h, sha256BlockSize]; omega)
      have hrest : (input.drop sha256BlockSize).length = sha256BlockSize * count := by
        rw [List.length_drop, h, Nat.mul_succ, Nat.add_sub_cancel]
      rw [compressBlocks, ih hrest, chunks_of_ne_nil (by decide) hne, List.foldl_cons, compressBlock_eq]

/-- What stands behind the whole blocks of a message: the bytes of the last block, and the padding in one block or two. -/
theorem finalize_tail (state : Vector UInt32 8) {buffer : Bytes} (h : buffer.length < sha256BlockSize)
    (messageLenBytes : Nat) :
    (Sha256.finalize ⟨state, buffer, messageLenBytes⟩).toList =
      ((chunks sha256BlockSize (buffer ++ [0x80] ++
        List.replicate ((55 + sha256BlockSize - buffer.length) % sha256BlockSize) 0 ++
          beBytes 8 (8 * messageLenBytes))).foldl Fips180.compress state).toList.flatMap
        fun word => beBytes 4 word.toNat := by
  rw [sha256BlockSize] at h
  have hmarked : (buffer ++ [0x80]).length = buffer.length + 1 := List.length_append
  rw [Sha256.finalize, toList_arrayOf, Nat.mul_comm messageLenBytes 8]
  dsimp only
  rw [hmarked]
  split
  · rename_i hlong
    rw [sha256LengthOffset] at hlong
    -- the length does not fit behind the marker any more
    have hzeros : (55 + sha256BlockSize - buffer.length) % sha256BlockSize =
        (sha256BlockSize - (buffer.length + 1)) + sha256LengthOffset := by
      rw [sha256BlockSize, sha256LengthOffset]
      omega
    have hfirst : (buffer ++ [0x80] ++ List.replicate (sha256BlockSize - (buffer.length + 1)) 0).length =
        sha256BlockSize * 1 := by
      rw [List.length_append, hmarked, List.length_replicate, sha256BlockSize]
      omega
    have hsecond : (List.replicate sha256LengthOffset 0 ++ beBytes 8 (8 * messageLenBytes)).length = sha256BlockSize := by
      rw [List.length_append, List.length_replicate, length_beBytes]
      rfl
    rw [hzeros, List.replicate_add, ← List.append_assoc, List.append_assoc _ (List.replicate sha256LengthOffset 0),
      chunks_append (by decide) hfirst, chunks_of_length (by decide) hsecond,
      chunks_of_length (by decide) (hfirst.trans (Nat.mul_one _))]
    simp only [List.singleton_append, List.foldl_cons, List.foldl_nil, compressBlock_eq]
  · rename_i hshort
    rw [sha256LengthOffset] at hshort
    have hzeros : (55 + sha256BlockSize - buffer.length) % sha256BlockSize =
        sha256LengthOffset - (buffer.length + 1) := by
      rw [sha256BlockSize, sha256LengthOffset]
      omega
    have hlast : (buffer ++ [0x80] ++ List.replicate (sha256LengthOffset - (buffer.length + 1)) 0 ++
        beBytes 8 (8 * messageLenBytes)).length = sha256BlockSize := by
      rw [List.length_append, List.length_append, hmarked, List.length_replicate, length_beBytes, sha256LengthOffset,
        sha256BlockSize]
      omega
    rw [hzeros, chunks_of_length (by decide) hlast, List.foldl_cons, List.foldl_nil, compressBlock_eq]

namespace Sha256

/-- A hasher that has been given a message computes its digest. -/
theorem finalize_ofBytes_eq (message : Bytes) : (ofBytes message).finalize.toList = Fips180.digest message := by
  have hwhole : (message.take (sha256BlockSize * (message.length / sha256BlockSize))).length =
      sha256BlockSize * (message.length / sha256BlockSize) := by
    rw [List.length_take, Nat.min_eq_left (Nat.mul_div_le _ _)]
  have hbuffer : (message.drop (sha256BlockSize * (message.length / sha256BlockSize))).length =
      message.length % sha256BlockSize := by
    rw [List.length_drop, Nat.mod_eq_sub]
  have hpad : Fips180.pad message = message.take (sha256BlockSize * (message.length / sha256BlockSize)) ++
      (message.drop (sha256BlockSize * (message.length / sha256BlockSize)) ++ [0x80] ++
        List.replicate ((55 + sha256BlockSize - message.length % sha256BlockSize) % sha256BlockSize) 0 ++
          beBytes 8 (8 * message.length)) := by
    rw [← List.append_assoc, ← List.append_assoc, ← List.append_assoc, List.take_append_drop]
    rfl
  have hchunks : chunks Fips180.blockSize (Fips180.pad message) = _ :=
    (congrArg (chunks sha256BlockSize) hpad).trans (chunks_append (by decide) hwhole _)
  rw [ofBytes, absorb, finalize_tail _ (by rw [hbuffer]; exact Nat.mod_lt _ (by decide)), hbuffer, Fips180.digest,
    hchunks, List.foldl_append, ← compressBlocks_eq hwhole, compressBlocks_take, sha256InitialState_eq]

/-- `update` with the check of the length that the program cannot go beyond. -/
def updateChecked (hasher : Sha256) (input : Bytes) : Option Sha256 :=
  if hasher.messageLenBytes + input.length ≤ u64Max / 8 then some (hasher.update input) else none

theorem ofBytes_nil : ofBytes [] = new := rfl

theorem updateChecked_ofBytes {seen input : Bytes} (h : (seen ++ input).length ≤ u64Max / 8) :
    (ofBytes seen).updateChecked input = some (ofBytes (seen ++ input)) := by
  rw [List.length_append] at h
  rw [updateChecked, if_pos (by exact h), update_ofBytes]

/-- Updates that together stay within the limit do not stop the program, and the hasher holds their bytes. -/
theorem foldlM_updateChecked {seen : Bytes} {parts : List Bytes} (h : (seen ++ parts.flatten).length ≤ u64Max / 8) :
    parts.foldlM updateChecked (ofBytes seen) = some (ofBytes (seen ++ parts.flatten)) := by
  induction parts generalizing seen with
  | nil => rw [List.foldlM_nil, List.flatten_nil, List.append_nil, Option.pure_def]
  | cons part parts ih =>
      rw [List.flatten_cons, ← List.append_assoc] at h ⊢
      have hfits : (seen ++ part).length ≤ u64Max / 8 := by
        rw [List.length_append] at h
        omega
      rw [List.foldlM_cons, updateChecked_ofBytes hfits]
      exact ih h

end Sha256

theorem toList_sha256 (message : Bytes) : (sha256 message).toList = Fips180.digest message := by
  rw [← Sha256.finalize_ofBytes, Sha256.finalize_ofBytes_eq]

/-! ### HMAC -/

/-- The key block, with a checked update where the key is hashed. -/
def hmacKeyBlockChecked (key : Bytes) : Option Bytes :=
  if sha256BlockSize < key.length then
    (Sha256.new.updateChecked key).map fun hasher =>
      hasher.finalize.toList ++ List.replicate (sha256BlockSize - hasher.finalize.toList.length) 0
  else some (key ++ List.replicate (sha256BlockSize - key.length) 0)

/-- `hmac_sha256_parts` with checked updates. -/
def hmacSha256PartsChecked (key : Bytes) (dataParts : List Bytes) : Option (ByteArrayN 32) := do
  let keyBlock ← hmacKeyBlockChecked key
  let inner ← (keyBlock.map (· ^^^ hmacInnerPadByte) :: dataParts).foldlM Sha256.updateChecked .new
  let outer ← [keyBlock.map (· ^^^ hmacOuterPadByte), inner.finalize.toList].foldlM Sha256.updateChecked .new
  return outer.finalize

theorem hmacKeyBlock_eq (key : Bytes) :
    hmacKeyBlock key = Fips180.hmacKey Fips180.digest Fips180.blockSize key := by
  rw [hmacKeyBlock, toList_sha256]
  rfl

/-- Parts are as good as their concatenation. -/
theorem toList_hmacSha256Parts (key : Bytes) (dataParts : List Bytes) :
    (hmacSha256Parts key dataParts).toList =
      Fips180.hmac Fips180.digest Fips180.blockSize key dataParts.flatten := by
  rw [hmacSha256Parts, Sha256.new_update, Sha256.new_update, Sha256.foldl_update_ofBytes, Sha256.update_ofBytes,
    Sha256.finalize_ofBytes_eq, Sha256.finalize_ofBytes_eq, hmacKeyBlock_eq]
  rfl

theorem length_hmacKeyBlock (key : Bytes) : (hmacKeyBlock key).length = sha256BlockSize := by
  have hdigest : (sha256 key).toList.length ≤ sha256BlockSize := by
    rw [Vector.length_toList]
    decide
  rw [hmacKeyBlock, List.length_append, List.length_replicate]
  split
  · omega
  · omega

theorem hmacKeyBlockChecked_eq {key : Bytes} (h : key.length ≤ u64Max / 8) :
    hmacKeyBlockChecked key = some (hmacKeyBlock key) := by
  rw [hmacKeyBlockChecked, hmacKeyBlock]
  split
  · rw [← Sha256.ofBytes_nil, Sha256.updateChecked_ofBytes (by exact h), List.nil_append, Option.map_some,
      Sha256.finalize_ofBytes]
  · rfl

/-- Within the limit no check stops the program. -/
theorem hmacSha256PartsChecked_eq {key : Bytes} {dataParts : List Bytes} (hkey : key.length ≤ u64Max / 8)
    (h : sha256BlockSize + dataParts.flatten.length ≤ u64Max / 8) :
    hmacSha256PartsChecked key dataParts = some (hmacSha256Parts key dataParts) := by
  have hpad : ∀ pad : Byte, ((hmacKeyBlock key).map (· ^^^ pad)).length = sha256BlockSize := by
    intro pad
    rw [List.length_map, length_hmacKeyBlock]
  have hinner : ((hmacKeyBlock key).map (· ^^^ hmacInnerPadByte) :: dataParts).foldlM Sha256.updateChecked .new =
      some (dataParts.foldl Sha256.update (Sha256.new.update ((hmacKeyBlock key).map (· ^^^ hmacInnerPadByte)))) := by
    rw [← Sha256.ofBytes_nil, Sha256.foldlM_updateChecked, Sha256.update_ofBytes, Sha256.foldl_update_ofBytes,
      List.flatten_cons, ← List.append_assoc]
    rw [List.nil_append, List.flatten_cons, List.length_append, hpad]
    exact h
  have houter : ∀ digest : ByteArrayN 32,
      [(hmacKeyBlock key).map (· ^^^ hmacOuterPadByte), digest.toList].foldlM Sha256.updateChecked .new =
        some ((Sha256.new.update ((hmacKeyBlock key).map (· ^^^ hmacOuterPadByte))).update digest.toList) := by
    intro digest
    rw [← Sha256.ofBytes_nil, Sha256.foldlM_updateChecked, Sha256.update_ofBytes, Sha256.update_ofBytes]
    · simp only [List.flatten_cons, List.flatten_nil, List.append_nil, List.append_assoc]
    · simp only [List.nil_append, List.flatten_cons, List.flatten_nil, List.append_nil, List.length_append, hpad,
        Vector.length_toList]
      decide
  rw [hmacSha256PartsChecked, hmacKeyBlockChecked_eq hkey, Option.bind_eq_bind, Option.bind_some, hinner,
    Option.bind_eq_bind, Option.bind_some, houter]
  rfl

/-- Updates within the limit end in the digest of the standard, however the message is cut; and the MAC of parts is that
of their concatenation. -/
theorem sha256_standard :
    (∀ parts : List Bytes, parts.flatten.length ≤ u64Max / 8 →
      ∃ hasher, parts.foldlM Sha256.updateChecked .new = some hasher ∧ hasher.messageLenBytes * 8 ≤ u64Max ∧
        hasher.finalize.toList = Fips180.digest parts.flatten) ∧
    (∀ (key : Bytes) (dataParts : List Bytes),
      (hmacSha256Parts key dataParts).toList = Fips180.hmac Fips180.digest Fips180.blockSize key dataParts.flatten ∧
      (key.length ≤ u64Max / 8 → sha256BlockSize + dataParts.flatten.length ≤ u64Max / 8 →
        hmacSha256PartsChecked key dataParts = some (hmacSha256Parts key dataParts))) := by
  constructor
  · intro parts h
    have hrun := @Sha256.foldlM_updateChecked [] parts h
    rw [Sha256.ofBytes_nil, List.nil_append] at hrun
    refine ⟨_, hrun, ?_, Sha256.finalize_ofBytes_eq _⟩
    show parts.flatten.length * 8 ≤ u64Max
    omega
  · intro key dataParts
    exact ⟨toList_hmacSha256Parts key dataParts, hmacSha256PartsChecked_eq⟩

/-- Three bytes in two updates and an empty one. -/
theorem sha256_standard_abc :
    ∃ hasher, [ascii "a", [], ascii "bc"].foldlM Sha256.updateChecked .new = some hasher ∧
      hasher.messageLenBytes * 8 ≤ u64Max ∧ hasher.finalize.toList = Fips180.digest (ascii "abc") :=
  sha256_standard.1 [ascii "a", [], ascii "bc"] (by decide)

end BareProxy.Crypto
