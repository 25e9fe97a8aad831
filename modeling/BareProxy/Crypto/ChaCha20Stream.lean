import BareProxy.Base.Indexing
import BareProxy.Base.KeyStream
import BareProxy.Base.Words
import BareProxy.Crypto.Aead

/-!
# The positions of the ChaCha20 key stream

A byte of the input is combined with the byte of the key stream at its position, counted from block zero, and the counter
of a block is the number of that block: the check before the loop keeps it below its limit. Here the loop has the
conversion and the addition that stop the program where they fail.
-/

namespace BareProxy.Crypto

open Indexed

instance : NeZero chacha20BlockSize := ⟨by decide⟩

/-- The key stream of a key and a nonce, by block number. -/
def keyStreamBlock (key : ByteArrayN 32) (nonce : ByteArrayN 12) (blockNumber : Nat) : ByteArrayN chacha20BlockSize :=
  chacha20Block key (UInt32.ofNat blockNumber) nonce

def keyStream (key : ByteArrayN 32) (nonce : ByteArrayN 12) : Nat → Byte := KeyStream.ofBlocks (keyStreamBlock key nonce)

/-- One turn of the loop of `chacha20_xor`: the counter of the block and what becomes of the chunk. -/
def xorChunkChecked (key : ByteArrayN 32) (counter : UInt32) (nonce : ByteArrayN 12) (chunk : Bytes) (blockIndex : Nat) :
    Option (UInt32 × Bytes) := do
  let blockOffset ← u32TryFrom blockIndex
  let blockCounter ← checkedAddU32 counter blockOffset
  return (blockCounter, List.zipWith (· ^^^ ·) chunk (chacha20Block key blockCounter nonce).toList)

/-- The loop, with the counter that each of its blocks uses. -/
def xorChunksChecked (key : ByteArrayN 32) (counter : UInt32) (nonce : ByteArrayN 12) (input : Bytes) :
    Option (List (UInt32 × Bytes)) :=
  (chunks chacha20BlockSize input).zipIdx.mapM fun (chunk, blockIndex) =>
    xorChunkChecked key counter nonce chunk blockIndex

def chacha20XorChecked (key : ByteArrayN 32) (counter : UInt32) (nonce : ByteArrayN 12) (input : Bytes) :
    Except (Stop ChaCha20Error) Bytes := do
  let blockCount := (input.length + (chacha20BlockSize - 1)) / chacha20BlockSize
  let availableBlocks := (2 ^ 32 - 1 - counter.toNat) + 1
  lift (ensure (¬blockCount > availableBlocks) (.counterExhausted counter blockCount))
  let blocks ← okOr .outOfBounds (xorChunksChecked key counter nonce input)
  return blocks.flatMap Prod.snd

section Stream

variable (key : ByteArrayN 32) (counter : UInt32) (nonce : ByteArrayN 12)

theorem xorBlocks_eq (blockIndex : Nat) (input : Bytes) :
    xorBlocks key counter nonce blockIndex input =
      KeyStream.combined (· ^^^ ·) (keyStream key nonce) (chacha20BlockSize * (counter.toNat + blockIndex)) input := by
  fun_induction xorBlocks key counter nonce blockIndex input with
  | case1 => rfl
  | case2 blockIndex input hne block ih =>
    have hblock : block = keyStreamBlock key nonce (counter.toNat + blockIndex) := by
      show chacha20Block key (counter + UInt32.ofNat blockIndex) nonce = _
      rw [keyStreamBlock, UInt32.ofNat_add, UInt32.ofNat_toNat]
    rw [ih, hblock, keyStream, KeyStream.combined_take_drop _ _ (counter.toNat + blockIndex) input]
    rfl

/-- The blocks of the input, each with its number. -/
def numberedBlocks (input : Bytes) : List (UInt32 × Bytes) :=
  (chunks chacha20BlockSize input).zipIdx.map fun chunk =>
    (counter + UInt32.ofNat chunk.2,
      List.zipWith (· ^^^ ·) chunk.1 (keyStreamBlock key nonce (counter.toNat + chunk.2)).toList)

theorem flatMap_numberedBlocks (input : Bytes) :
    (numberedBlocks key counter nonce input).flatMap Prod.snd = xorBlocks key counter nonce 0 input := by
  rw [xorBlocks_eq, Nat.add_zero, numberedBlocks, List.flatMap_map]
  exact KeyStream.combined_chunks (· ^^^ ·) (keyStreamBlock key nonce) counter.toNat input

variable {counter} {input : Bytes} (hblocks : input.length ⌈/⌉ chacha20BlockSize ≤ 2 ^ 32 - counter.toNat)

include hblocks

theorem index_lt {chunk : Bytes × Nat} (h : chunk ∈ (chunks chacha20BlockSize input).zipIdx) :
    counter.toNat + chunk.2 < 2 ^ 32 := by
  have hindex : chunk.2 < (chunks chacha20BlockSize input).length := List.snd_lt_of_mem_zipIdx h
  rw [length_chunks (NeZero.pos _)] at hindex
  omega

/-- Neither the conversion nor the addition fails while there are numbers left. -/
theorem xorChunksChecked_eq : xorChunksChecked key counter nonce input = some (numberedBlocks key counter nonce input) := by
  apply mapM_eq_some
  intro chunk hchunk
  have hlt := index_lt hblocks hchunk
  have hindex : chunk.2 < 2 ^ 32 := by omega
  have hoffset : (UInt32.ofNat chunk.2).toNat = chunk.2 := UInt32.toNat_ofNat_of_lt' hindex
  show xorChunkChecked key counter nonce chunk.1 chunk.2 = _
  rw [xorChunkChecked, u32TryFrom_eq hindex, Option.bind_eq_bind, Option.bind_some,
    checkedAddU32_eq (by rw [hoffset]; exact hlt), Option.bind_some, keyStreamBlock, UInt32.ofNat_add, UInt32.ofNat_toNat]
  rfl

/-- The counters of the blocks run from the first one on. -/
theorem counters_numberedBlocks :
    (numberedBlocks key counter nonce input).map (fun block => block.1.toNat) =
      List.range' counter.toNat (input.length ⌈/⌉ chacha20BlockSize) := by
  have hcounter : ∀ chunk ∈ (chunks chacha20BlockSize input).zipIdx,
      (counter + UInt32.ofNat chunk.2).toNat = counter.toNat + chunk.2 := by
    intro chunk hchunk
    have hlt := index_lt hblocks hchunk
    have hindex : chunk.2 < 2 ^ 32 := by omega
    rw [UInt32.toNat_add, UInt32.toNat_ofNat_of_lt' hindex, Nat.mod_eq_of_lt hlt]
  rw [numberedBlocks, List.map_map, ← length_chunks (NeZero.pos _)]
  calc (chunks chacha20BlockSize input).zipIdx.map _
      = (chunks chacha20BlockSize input).zipIdx.map (fun chunk => counter.toNat + chunk.2) :=
        List.map_congr_left hcounter
    _ = ((chunks chacha20BlockSize input).zipIdx.map Prod.snd).map (counter.toNat + ·) := List.map_map.symm
    _ = List.range' counter.toNat (chunks chacha20BlockSize input).length := by
        rw [List.zipIdx_map_snd, List.map_add_range', Nat.add_zero]

end Stream

/-- What the cipher hands back, and when. -/
theorem chacha20Xor_eq (key : ByteArrayN 32) (counter : UInt32) (nonce : ByteArrayN 12) (input : Bytes) :
    chacha20Xor key counter nonce input =
      if input.length ⌈/⌉ chacha20BlockSize ≤ 2 ^ 32 - counter.toNat then
        .ok (KeyStream.combined (· ^^^ ·) (keyStream key nonce) (chacha20BlockSize * counter.toNat) input)
      else .error (.counterExhausted counter (input.length ⌈/⌉ chacha20BlockSize)) := by
  have havailable : (2 ^ 32 - 1 - counter.toNat) + 1 = 2 ^ 32 - counter.toNat := by
    have hlt := counter.toNat_lt
    omega
  rw [chacha20Xor, havailable, xorBlocks_eq, Nat.add_zero, Nat.ceilDiv_eq_add_pred_div]
  by_cases h : (input.length + chacha20BlockSize - 1) / chacha20BlockSize ≤ 2 ^ 32 - counter.toNat
  · rw [if_pos h]
    exact if_neg (Nat.not_lt.2 h)
  · rw [if_neg h]
    exact if_pos (Nat.lt_of_not_le h)

theorem chacha20Xor_eq_ok {key : ByteArrayN 32} {counter : UInt32} {nonce : ByteArrayN 12} {input output : Bytes} :
    chacha20Xor key counter nonce input = .ok output ↔
      input.length ⌈/⌉ chacha20BlockSize ≤ 2 ^ 32 - counter.toNat ∧
        output = KeyStream.combined (· ^^^ ·) (keyStream key nonce) (chacha20BlockSize * counter.toNat) input := by
  rw [chacha20Xor_eq]
  split
  · rename_i h
    rw [Except.ok.injEq, eq_comm]
    exact (and_iff_right h).symm
  · rename_i h
    exact iff_of_false (fun heq => by cases heq) fun hok => h hok.1

/-- The checks and the conversions of the loop never stop the program. -/
theorem chacha20XorChecked_eq (key : ByteArrayN 32) (counter : UInt32) (nonce : ByteArrayN 12) (input : Bytes) :
    chacha20XorChecked key counter nonce input = lift (chacha20Xor key counter nonce input) := by
  refine ensure_bind_eq _ fun hfits => ?_
  have hblocks : input.length ⌈/⌉ chacha20BlockSize ≤ 2 ^ 32 - counter.toNat := by
    have hlt := counter.toNat_lt
    rw [Nat.ceilDiv_eq_add_pred_div]
    exact (Nat.not_lt.1 hfits).trans (by omega)
  rw [xorChunksChecked_eq key nonce hblocks, okOr_some, ok_bind, flatMap_numberedBlocks]
  rfl

/-- Whole blocks in front add their number to the blocks behind them. -/
theorem ceilDiv_length_append {front : Bytes} {count : Nat} (h : front.length = chacha20BlockSize * count) (back : Bytes) :
    (front ++ back).length ⌈/⌉ chacha20BlockSize = count + back.length ⌈/⌉ chacha20BlockSize := by
  have hpos : 1 ≤ back.length + chacha20BlockSize := Nat.le_add_left_of_le (by decide)
  rw [List.length_append, h, Nat.ceilDiv_eq_add_pred_div, Nat.ceilDiv_eq_add_pred_div, Nat.add_assoc,
    Nat.add_sub_assoc hpos, Nat.mul_add_div (NeZero.pos _)]

/-- A cut behind whole blocks: the blocks in front are counted, and there is a number left for what is behind them. -/
theorem chacha20Xor_append (key : ByteArrayN 32) (counter : UInt32) (nonce : ByteArrayN 12) {front back : Bytes}
    {count : Nat} (hfront : front.length = chacha20BlockSize * count) (hback : back ≠ []) (output : Bytes) :
    chacha20Xor key counter nonce (front ++ back) = .ok output ↔
      ∃ next head tail, next.toNat = counter.toNat + count ∧ chacha20Xor key counter nonce front = .ok head ∧
        chacha20Xor key next nonce back = .ok tail ∧ output = head ++ tail := by
  have hblocks := ceilDiv_length_append hfront back
  have hfrontBlocks := ceilDiv_length_append hfront []
  have hbackBlocks : 0 < back.length ⌈/⌉ chacha20BlockSize := by
    rw [← length_chunks (NeZero.pos _), chunks_of_ne_nil (NeZero.pos _) hback]
    exact Nat.succ_pos _
  rw [List.append_nil, List.length_nil, zero_ceilDiv, Nat.add_zero] at hfrontBlocks
  -- the stream behind the blocks in front is that of the advanced counter
  have hposition {next : UInt32} (hnext : next.toNat = counter.toNat + count) :
      chacha20BlockSize * next.toNat = chacha20BlockSize * counter.toNat + front.length := by
    rw [hnext, hfront, Nat.mul_add]
  rw [chacha20Xor_eq_ok, hblocks, KeyStream.combined_append]
  constructor
  · rintro ⟨hfits, rfl⟩
    have hlt : counter.toNat + count < 2 ^ 32 := by omega
    have hnext : (UInt32.ofNat (counter.toNat + count)).toNat = counter.toNat + count := UInt32.toNat_ofNat_of_lt' hlt
    refine ⟨UInt32.ofNat (counter.toNat + count), _, _, hnext, ?_, ?_, rfl⟩
    · rw [chacha20Xor_eq_ok, hfrontBlocks]
      exact ⟨by omega, rfl⟩
    · rw [chacha20Xor_eq_ok, hposition hnext, hnext]
      exact ⟨by omega, rfl⟩
  · rintro ⟨next, head, tail, hnext, hhead, htail, rfl⟩
    rw [chacha20Xor_eq_ok] at hhead htail
    obtain ⟨-, rfl⟩ := hhead
    obtain ⟨hfits, rfl⟩ := htail
    have hlt := next.toNat_lt
    rw [hposition hnext]
    exact ⟨by omega, rfl⟩

/-- The counter never wraps: an input is turned into as many blocks as there are numbers left, or refused; each block has
its own number and each byte the key stream at its position, so that the cipher undoes itself and a cut behind whole
blocks goes on where the first part ended. -/
theorem chacha20Xor_positions (key : ByteArrayN 32) (counter : UInt32) (nonce : ByteArrayN 12) (input : Bytes) :
    chacha20XorChecked key counter nonce input = lift (chacha20Xor key counter nonce input) ∧
    ((∃ output, chacha20Xor key counter nonce input = .ok output) ↔
      input.length ⌈/⌉ chacha20BlockSize ≤ 2 ^ 32 - counter.toNat) ∧
    (∀ output, chacha20Xor key counter nonce input = .ok output →
      chacha20Xor key counter nonce output = .ok input ∧
      output = input.mapIdx (fun position byte =>
        byte ^^^ keyStream key nonce (chacha20BlockSize * counter.toNat + position)) ∧
      ∃ blocks, xorChunksChecked key counter nonce input = some blocks ∧ blocks.flatMap Prod.snd = output ∧
        blocks.map (fun block => block.1.toNat) =
          List.range' counter.toNat (input.length ⌈/⌉ chacha20BlockSize) ∧ (blocks.map Prod.fst).Nodup) ∧
    ∀ front back, input = front ++ back → chacha20BlockSize ∣ front.length → back ≠ [] → ∀ output,
      chacha20Xor key counter nonce input = .ok output ↔
        ∃ next head tail, next.toNat = counter.toNat + front.length / chacha20BlockSize ∧
          chacha20Xor key counter nonce front = .ok head ∧ chacha20Xor key next nonce back = .ok tail ∧
          output = head ++ tail := by
  refine ⟨chacha20XorChecked_eq key counter nonce input, ?_, ?_, ?_⟩
  · simp only [chacha20Xor_eq_ok, exists_and_left, exists_eq, and_true]
  · intro output houtput
    refine ⟨(chacha20Xor_ok key counter nonce houtput).1, ?_⟩
    rw [chacha20Xor_eq_ok] at houtput
    obtain ⟨hblocks, rfl⟩ := houtput
    have hcounters := counters_numberedBlocks key nonce hblocks
    refine ⟨rfl, numberedBlocks key counter nonce input, xorChunksChecked_eq key nonce hblocks, ?_, hcounters, ?_⟩
    · rw [flatMap_numberedBlocks, xorBlocks_eq, Nat.add_zero]
    · apply List.Nodup.of_map UInt32.toNat
      rw [List.map_map]
      show ((numberedBlocks key counter nonce input).map fun block => block.1.toNat).Nodup
      rw [hcounters]
      exact List.nodup_range'
  · rintro front back rfl ⟨count, hcount⟩ hback output
    rw [hcount, Nat.mul_div_cancel_left _ (NeZero.pos _)]
    exact chacha20Xor_append key counter nonce hcount hback output

/-- Two blocks from the last number but one on, cut behind the first of them; a byte more is refused. -/
theorem chacha20Xor_positions_last :
    (¬∃ output, chacha20Xor (Vector.replicate 32 7) 0xfffffffe (Vector.replicate 12 9) (List.replicate 129 0) =
      .ok output) ∧
    ∃ output, chacha20Xor (Vector.replicate 32 7) 0xfffffffe (Vector.replicate 12 9) (List.replicate 128 0) =
        .ok output ∧
      ∃ next head tail, next.toNat = 0xfffffffe + 1 ∧
        chacha20Xor (Vector.replicate 32 7) 0xfffffffe (Vector.replicate 12 9) (List.replicate 64 0) = .ok head ∧
        chacha20Xor (Vector.replicate 32 7) next (Vector.replicate 12 9) (List.replicate 64 0) = .ok tail ∧
        output = head ++ tail := by
  have hlong := chacha20Xor_positions (Vector.replicate 32 7) 0xfffffffe (Vector.replicate 12 9) (List.replicate 129 0)
  have h := chacha20Xor_positions (Vector.replicate 32 7) 0xfffffffe (Vector.replicate 12 9) (List.replicate 128 0)
  rw [List.length_replicate] at hlong h
  refine ⟨fun hoks => absurd (hlong.2.1.1 hoks) (by decide), ?_⟩
  obtain ⟨output, houtput⟩ := h.2.1.2 (by decide)
  exact ⟨output, houtput, (h.2.2.2 (List.replicate 64 0) (List.replicate 64 0) rfl (by decide) (by decide) output).1
    houtput⟩

end BareProxy.Crypto
