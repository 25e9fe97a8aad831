import BareProxy.Base.Chunks

/-!
# Key streams

What a key makes of every position of an unbounded stream, and an input combined with it from some position on. Pieces
of the input are combined on their own, each from where it stands; a cipher that makes its stream in blocks, one of them
for each chunk of the input, combines the positions of the stream in order.
-/

namespace BareProxy.KeyStream

variable {α κ : Type}

section Combined

variable (combine : α → κ → α) (stream : Nat → κ) (position : Nat)

/-- The input combined with the stream from a position on. -/
def combined (input : List α) : List α := input.mapIdx fun index a => combine a (stream (position + index))

@[simp] theorem combined_nil : combined combine stream position [] = [] := rfl

@[simp] theorem length_combined (input : List α) : (combined combine stream position input).length = input.length :=
  List.length_mapIdx

/-- The second piece stands behind the first. -/
theorem combined_append (front back : List α) :
    combined combine stream position (front ++ back) =
      combined combine stream position front ++ combined combine stream (position + front.length) back := by
  rw [combined, List.mapIdx_append]
  refine congrArg (combined combine stream position front ++ ·) ?_
  apply congrArg (List.mapIdx · back)
  funext index a
  rw [Nat.add_assoc, Nat.add_comm index]

end Combined

section Blocks

variable (combine : α → κ → α) {size : Nat} [NeZero size] (block : Nat → Vector κ size)

/-- The stream of the blocks of one size, one behind the other. -/
def ofBlocks (position : Nat) : κ := (block (position / size)).get ⟨position % size, Nat.mod_lt _ (NeZero.pos size)⟩

/-- A piece that does not reach into the next block. -/
theorem combined_block (index : Nat) {chunk : List α} (h : chunk.length ≤ size) :
    combined combine (ofBlocks block) (size * index) chunk = List.zipWith combine chunk (block index).toList := by
  apply List.ext_getElem
  · rw [length_combined, List.length_zipWith, Vector.length_toList, Nat.min_eq_left h]
  · intro i hi _
    rw [length_combined] at hi
    have hquotient : (size * index + i) / size = index := by
      rw [Nat.mul_add_div (NeZero.pos size), Nat.div_eq_of_lt (hi.trans_le h), Nat.add_zero]
    have hremainder : (size * index + i) % size = i := by
      rw [Nat.mul_add_mod, Nat.mod_eq_of_lt (hi.trans_le h)]
    simp only [combined, ofBlocks, List.getElem_mapIdx, List.getElem_zipWith, Vector.getElem_toList, hquotient,
      hremainder]
    rfl

/-- The block at the front of the input, and what is behind it with the blocks that follow. -/
theorem combined_take_drop (index : Nat) (input : List α) :
    combined combine (ofBlocks block) (size * index) input =
      List.zipWith combine (input.take size) (block index).toList ++
        combined combine (ofBlocks block) (size * (index + 1)) (input.drop size) := by
  have htake : (input.take size).length ≤ size := by
    rw [List.length_take]
    exact Nat.min_le_left _ _
  conv_lhs => rw [← List.take_append_drop size input]
  rw [combined_append, combined_block combine block index htake, List.length_take]
  rcases Nat.le_total size input.length with hlong | hshort
  · rw [Nat.min_eq_left hlong, Nat.mul_succ]
  · -- there is nothing behind a partial block
    rw [List.drop_of_length_le hshort, combined_nil, combined_nil]

/-- A loop over the chunks with their index, where the first chunk is combined with the block `start`. -/
theorem combined_chunks (start : Nat) (input : List α) :
    (chunks size input).zipIdx.flatMap
        (fun chunk => List.zipWith combine chunk.1 (block (start + chunk.2)).toList) =
      combined combine (ofBlocks block) (size * start) input := by
  fun_induction chunks size input generalizing start with
  | case1 input hend =>
    obtain rfl : input = [] := hend.resolve_left (NeZero.ne size)
    rfl
  | case2 input hmore ih =>
    rw [List.zipIdx_cons', List.flatMap_cons, List.flatMap_map, combined_take_drop combine block start input,
      ← ih (start + 1)]
    simp only [Prod.map_fst, Prod.map_snd, id_eq, Nat.add_zero, Nat.add_assoc, Nat.add_comm 1]

end Blocks

end BareProxy.KeyStream
