import BareProxy.Base.Bytes
import Mathlib.Algebra.Order.Floor.Div

/-!
# Chunks

`slice::chunks`: pieces of one size, and a shorter one at the end.
-/

namespace BareProxy

def chunks {α : Type} (size : Nat) (l : List α) : List (List α) :=
  if size = 0 ∨ l = [] then [] else l.take size :: chunks size (l.drop size)
termination_by l.length
decreasing_by
  rename_i h
  rw [not_or] at h
  have hpos : 0 < l.length := List.length_pos_iff.2 h.2
  rw [List.length_drop]
  omega

variable {α : Type} {size : Nat}

theorem flatten_chunks (hsize : 0 < size) (l : List α) : (chunks size l).flatten = l := by
  fun_induction chunks size l with
  | case1 l h =>
    rcases h with h | h
    · omega
    · rw [h, List.flatten_nil]
  | case2 l h ih => rw [List.flatten_cons, ih, List.take_append_drop]

theorem length_of_mem_chunks {l chunk : List α} (h : chunk ∈ chunks size l) :
    1 ≤ chunk.length ∧ chunk.length ≤ size := by
  fun_induction chunks size l with
  | case1 l hend => cases h
  | case2 l hmore ih =>
    rw [not_or] at hmore
    have hpos : 0 < l.length := List.length_pos_iff.2 hmore.2
    rcases List.mem_cons.1 h with rfl | h
    · rw [List.length_take]
      omega
    · exact ih h

theorem length_chunks_le (l : List α) : (chunks size l).length ≤ l.length := by
  fun_induction chunks size l with
  | case1 l h => exact Nat.zero_le _
  | case2 l h ih =>
    rw [not_or] at h
    have hpos : 0 < l.length := List.length_pos_iff.2 h.2
    rw [List.length_drop] at ih
    rw [List.length_cons]
    omega

theorem length_chunks (hsize : 0 < size) (l : List α) : (chunks size l).length = l.length ⌈/⌉ size := by
  fun_induction chunks size l with
  | case1 l hend =>
    obtain rfl : l = [] := hend.resolve_left hsize.ne'
    rw [List.length_nil, List.length_nil, zero_ceilDiv]
  | case2 l hmore ih =>
    have hpos : 0 < l.length := List.length_pos_iff.2 (not_or.1 hmore).2
    rw [List.length_cons, ih, List.length_drop, Nat.ceilDiv_eq_add_pred_div, Nat.ceilDiv_eq_add_pred_div]
    rcases Nat.le_total size l.length with hlong | hshort
    · rw [← Nat.add_div_right _ hsize]
      congr 1
      omega
    · rw [Nat.sub_eq_zero_of_le hshort, Nat.div_eq_of_lt (by omega), Nat.zero_add]
      symm
      apply Nat.div_eq_of_lt_le
      · omega
      · omega

@[simp] theorem chunks_nil : chunks size ([] : List α) = [] := by
  rw [chunks, if_pos (Or.inr rfl)]

theorem chunks_of_ne_nil (hsize : 0 < size) {l : List α} (h : l ≠ []) :
    chunks size l = l.take size :: chunks size (l.drop size) := by
  rw [chunks, if_neg (not_or.2 ⟨hsize.ne', h⟩)]

/-- Behind whole chunks the cutting starts afresh. -/
theorem chunks_append (hsize : 0 < size) {front : List α} {count : Nat} (h : front.length = size * count)
    (back : List α) : chunks size (front ++ back) = chunks size front ++ chunks size back := by
  induction count generalizing front with
  | zero =>
    obtain rfl : front = [] := List.length_eq_zero_iff.1 (by rw [h, Nat.mul_zero])
    rw [chunks_nil, List.nil_append, List.nil_append]
  | succ count ih =>
    have hlength : size ≤ front.length := by
      rw [h, Nat.mul_succ]
      exact Nat.le_add_left _ _
    have hne : front ≠ [] := List.length_pos_iff.1 (by omega)
    have hrest : (front.drop size).length = size * count := by
      rw [List.length_drop, h, Nat.mul_succ, Nat.add_sub_cancel]
    rw [chunks_of_ne_nil hsize hne, chunks_of_ne_nil hsize (List.append_ne_nil_of_left_ne_nil hne _),
      List.take_append_of_le_length hlength, List.drop_append_of_le_length hlength, ih hrest, List.cons_append]

/-- A chunk on its own. -/
theorem chunks_of_length (hsize : 0 < size) {l : List α} (h : l.length = size) : chunks size l = [l] := by
  have hne : l ≠ [] := List.length_pos_iff.1 (by omega)
  rw [chunks_of_ne_nil hsize hne, List.take_of_length_le h.le, List.drop_of_length_le h.le, chunks_nil]

end BareProxy
