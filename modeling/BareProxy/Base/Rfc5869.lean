import BareProxy.Base.Bytes

/-!
# The expansion of RFC 5869

Blocks that are chained by a MAC, each over the block before it, the info and its own number in one octet. What is
handed out is the front of their stream, so that shorter outputs are the fronts of longer ones.
-/

namespace BareProxy.Rfc5869

/-- The number of the last block that one octet can name. -/
def maxBlocks : Nat := 255

variable (mac : Bytes → Bytes) (info : Bytes)

/-- `T(i)`. -/
def block : Nat → Bytes
  | 0 => []
  | i + 1 => mac (block i ++ info ++ [UInt8.ofNat (i + 1)])

/-- `T(1) | T(2) | …` up to a block. -/
def stream (count : Nat) : Bytes := (List.range' 1 count).flatMap (block mac info)

@[simp] theorem stream_zero : stream mac info 0 = [] := rfl

theorem stream_succ (count : Nat) : stream mac info (count + 1) = stream mac info count ++ block mac info (count + 1) := by
  rw [stream, List.range'_1_concat, List.flatMap_append, List.flatMap_singleton, Nat.add_comm 1, stream]

section Length

variable {mac} {size : Nat} (hmac : ∀ text, (mac text).length = size)

include hmac

theorem length_block (i : Nat) : (block mac info (i + 1)).length = size := hmac _

theorem length_stream (count : Nat) : (stream mac info count).length = size * count := by
  induction count with
  | zero => rw [stream_zero, List.length_nil, Nat.mul_zero]
  | succ count ih => rw [stream_succ, List.length_append, ih, length_block info hmac, Nat.mul_succ]

/-- Blocks that are not reached do not matter. -/
theorem take_stream {length count : Nat} (h : length ≤ size * count) (more : Nat) :
    (stream mac info (count + more)).take length = (stream mac info count).take length := by
  induction more with
  | zero => rfl
  | succ more ih =>
    have hlength : length ≤ (stream mac info (count + more)).length := by
      rw [length_stream info hmac, Nat.mul_add]
      exact Nat.le_add_right_of_le h
    rw [← Nat.add_assoc, stream_succ, List.take_append_of_le_length hlength, ih]

end Length

end BareProxy.Rfc5869
