import BareProxy.Base.Endian
import Mathlib.Tactic.Positivity

/-!
# Little-endian numbers

How the number that bytes spell changes with what is done to the bytes, the lowest first.
-/

namespace BareProxy

@[simp] theorem ofLe_nil : ofLe [] = 0 := rfl

theorem ofLe_cons (b : Byte) (bytes : Bytes) : ofLe (b :: bytes) = b.toNat + 256 * ofLe bytes := by
  rw [ofLe, List.reverse_cons, ofBe_append_singleton, ofLe]
  ring

theorem ofLe_append (low high : Bytes) : ofLe (low ++ high) = ofLe low + 256 ^ low.length * ofLe high := by
  rw [ofLe, List.reverse_append, ofBe_append, List.length_reverse, ofLe, ofLe]
  ring

theorem ofLe_lt (bytes : Bytes) : ofLe bytes < 256 ^ bytes.length := by
  rw [ofLe, ← List.length_reverse]
  exact ofBe_lt _

theorem ofLe_leBytes (width n : Nat) : ofLe (leBytes width n) = n % 256 ^ width := by
  rw [ofLe, leBytes, List.reverse_reverse, ofBe_beBytes]

/-- Numbers that fit are told apart by their bytes. -/
theorem leBytes_injective {width m n : Nat} (hm : m < 256 ^ width) (hn : n < 256 ^ width)
    (h : leBytes width m = leBytes width n) : m = n := beBytes_injective hm hn (List.reverse_injective h)

/-- Bytes are those of a number when they spell it. -/
theorem eq_leBytes {bytes : Bytes} {width n : Nat} (hlength : bytes.length = width) (h : ofLe bytes = n % 256 ^ width) :
    bytes = leBytes width n := by
  have hreverse : bytes.reverse = beBytes width n := by
    apply ofBe_injective
    · rw [List.length_reverse, hlength, length_beBytes]
    · rw [ofBe_beBytes, ← h, ofLe]
  rw [leBytes, ← hreverse, List.reverse_reverse]

theorem ofLe_replicate_zero (count : Nat) : ofLe (List.replicate count 0) = 0 := by
  induction count with
  | zero => rfl
  | succ count ih => rw [List.replicate_succ, ofLe_cons, ih]; rfl

theorem ofLe_drop (bytes : Bytes) (count : Nat) : ofLe (bytes.drop count) = ofLe bytes / 256 ^ count := by
  by_cases hcount : count ≤ bytes.length
  · have hsplit := ofLe_append (bytes.take count) (bytes.drop count)
    have hlow := ofLe_lt (bytes.take count)
    rw [List.take_append_drop] at hsplit
    rw [List.length_take, Nat.min_eq_left hcount] at hsplit hlow
    rw [hsplit, Nat.add_mul_div_left _ _ (by positivity), Nat.div_eq_of_lt hlow, Nat.zero_add]
  · have hpow : 256 ^ bytes.length ≤ 256 ^ count := Nat.pow_le_pow_right (by decide) (by omega)
    rw [List.drop_of_length_le (by omega), ofLe_nil, Nat.div_eq_of_lt ((ofLe_lt bytes).trans_le hpow)]

theorem ofLe_take (bytes : Bytes) (count : Nat) : ofLe (bytes.take count) = ofLe bytes % 256 ^ count := by
  by_cases hcount : count ≤ bytes.length
  · have hsplit := ofLe_append (bytes.take count) (bytes.drop count)
    have hlow := ofLe_lt (bytes.take count)
    rw [List.take_append_drop] at hsplit
    rw [List.length_take, Nat.min_eq_left hcount] at hsplit hlow
    rw [hsplit, Nat.add_mul_mod_self_left, Nat.mod_eq_of_lt hlow]
  · have hpow : 256 ^ bytes.length ≤ 256 ^ count := Nat.pow_le_pow_right (by decide) (by omega)
    rw [List.take_of_length_le (by omega), Nat.mod_eq_of_lt ((ofLe_lt bytes).trans_le hpow)]

/-- A byte mask is a mask of the number. -/
theorem ofLe_zipWith_and (left right : Bytes) (hlength : left.length = right.length) :
    ofLe (List.zipWith (· &&& ·) left right) = ofLe left &&& ofLe right := by
  induction left generalizing right with
  | nil => rw [List.zipWith_nil_left, ofLe_nil, Nat.zero_and]
  | cons b left ih =>
    obtain _ | ⟨c, right⟩ := right
    · cases hlength
    have hb : b.toNat < 2 ^ 8 := b.toNat_lt
    have hc : c.toNat < 2 ^ 8 := c.toNat_lt
    have hand : b.toNat &&& c.toNat < 2 ^ 8 := Nat.and_lt_two_pow _ hc
    have hlow := @Nat.and_mod_two_pow (b.toNat + 256 * ofLe left) (c.toNat + 256 * ofLe right) 8
    have hhigh := @Nat.and_div_two_pow (b.toNat + 256 * ofLe left) (c.toNat + 256 * ofLe right) 8
    rw [show (256 : Nat) = 2 ^ 8 from rfl] at hlow hhigh
    rw [Nat.add_mul_mod_self_left, Nat.add_mul_mod_self_left, Nat.mod_eq_of_lt hb, Nat.mod_eq_of_lt hc] at hlow
    rw [Nat.add_mul_div_left _ _ (by decide), Nat.add_mul_div_left _ _ (by decide), Nat.div_eq_of_lt hb,
      Nat.div_eq_of_lt hc, Nat.zero_add, Nat.zero_add] at hhigh
    rw [List.zipWith_cons_cons, ofLe_cons, ih right (Nat.succ.inj hlength), ofLe_cons, ofLe_cons, UInt8.toNat_and,
      ← hlow, ← hhigh]
    exact Nat.mod_add_div _ _

end BareProxy
