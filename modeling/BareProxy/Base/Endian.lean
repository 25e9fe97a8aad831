import BareProxy.Base.Bytes
import Mathlib.Data.Nat.ModEq

/-!
# Numbers as bytes

`to_be_bytes`, `to_le_bytes` and their inverses for any width, and fixed-size byte arrays.
-/

namespace BareProxy

/-- The `width` low bytes of a number, the highest first. -/
def beBytes : Nat → Nat → Bytes
  | 0, _ => []
  | width + 1, n => UInt8.ofNat (n / 256 ^ width) :: beBytes width n

/-- The number that bytes spell, the highest first. -/
def ofBe (bytes : Bytes) : Nat := bytes.foldl (fun n b => n * 256 + b.toNat) 0

def leBytes (width n : Nat) : Bytes := (beBytes width n).reverse

def ofLe (bytes : Bytes) : Nat := ofBe bytes.reverse

@[simp] theorem length_beBytes (width n : Nat) : (beBytes width n).length = width := by
  induction width with
  | zero => rfl
  | succ width ih => rw [beBytes, List.length_cons, ih]

@[simp] theorem length_leBytes (width n : Nat) : (leBytes width n).length = width := by
  rw [leBytes, List.length_reverse, length_beBytes]

@[simp] theorem ofBe_nil : ofBe [] = 0 := rfl

theorem ofBe_append_singleton (bytes : Bytes) (b : Byte) : ofBe (bytes ++ [b]) = ofBe bytes * 256 + b.toNat := by
  rw [ofBe, List.foldl_append]
  rfl

theorem ofBe_append (front back : Bytes) : ofBe (front ++ back) = ofBe front * 256 ^ back.length + ofBe back := by
  induction back using List.reverseRecOn with
  | nil => simp
  | append_singleton back b ih =>
    rw [← List.append_assoc, ofBe_append_singleton, ih, ofBe_append_singleton, List.length_append,
      List.length_singleton, pow_succ]
    ring

theorem ofBe_cons (b : Byte) (bytes : Bytes) : ofBe (b :: bytes) = b.toNat * 256 ^ bytes.length + ofBe bytes := by
  have hsplit := ofBe_append [b] bytes
  rw [List.singleton_append] at hsplit
  rw [hsplit]
  simp [ofBe]

theorem ofBe_lt (bytes : Bytes) : ofBe bytes < 256 ^ bytes.length := by
  induction bytes with
  | nil => simp
  | cons b bytes ih =>
    have hb : b.toNat < 256 := b.toNat_lt
    rw [ofBe_cons, List.length_cons, pow_succ]
    calc b.toNat * 256 ^ bytes.length + ofBe bytes
        < b.toNat * 256 ^ bytes.length + 256 ^ bytes.length := by omega
      _ = (b.toNat + 1) * 256 ^ bytes.length := by ring
      _ ≤ 256 * 256 ^ bytes.length := Nat.mul_le_mul_right _ hb
      _ = 256 ^ bytes.length * 256 := Nat.mul_comm _ _

/-- Reading back gives the number, within the width. -/
theorem ofBe_beBytes (width n : Nat) : ofBe (beBytes width n) = n % 256 ^ width := by
  induction width with
  | zero => simp [beBytes, Nat.mod_one]
  | succ width ih =>
    have hbyte : (UInt8.ofNat (n / 256 ^ width)).toNat = n / 256 ^ width % 256 := by simp
    rw [beBytes, ofBe_cons, ih, length_beBytes, hbyte, pow_succ, Nat.mod_mul]
    ring

/-- Bytes are the encoding of the number that they spell. -/
theorem beBytes_ofBe (bytes : Bytes) : beBytes bytes.length (ofBe bytes) = bytes := by
  have hhigh : ∀ width n m, beBytes width (m * 256 ^ width + n) = beBytes width n := by
    intro width
    induction width with
    | zero => simp [beBytes]
    | succ width ih =>
      intro n m
      have hsplit : m * 256 ^ (width + 1) + n = m * 256 * 256 ^ width + n := by ring
      have hdiv : (m * 256 * 256 ^ width + n) / 256 ^ width = n / 256 ^ width + m * 256 := by
        rw [Nat.add_comm, Nat.add_mul_div_right _ _ (Nat.pow_pos (by decide))]
      have hbyte : UInt8.ofNat (n / 256 ^ width + m * 256) = UInt8.ofNat (n / 256 ^ width) := by
        apply UInt8.toNat.inj
        simp
      rw [beBytes, hsplit, ih, hdiv, hbyte, ← beBytes]
  induction bytes with
  | nil => rfl
  | cons b bytes ih =>
    have hdiv : (b.toNat * 256 ^ bytes.length + ofBe bytes) / 256 ^ bytes.length = b.toNat := by
      rw [Nat.add_comm, Nat.add_mul_div_right _ _ (Nat.pow_pos (by decide)), Nat.div_eq_of_lt (ofBe_lt bytes)]
      simp
    rw [List.length_cons, beBytes, ofBe_cons, hhigh, ih, hdiv, UInt8.ofNat_toNat]

theorem ofBe_injective {left right : Bytes} (hlength : left.length = right.length) (h : ofBe left = ofBe right) :
    left = right := by
  rw [← beBytes_ofBe left, hlength, h, beBytes_ofBe]

theorem beBytes_injective {width m n : Nat} (hm : m < 256 ^ width) (hn : n < 256 ^ width)
    (h : beBytes width m = beBytes width n) : m = n := by
  have hread := congrArg ofBe h
  rwa [ofBe_beBytes, ofBe_beBytes, Nat.mod_eq_of_lt hm, Nat.mod_eq_of_lt hn] at hread

/-! ### Fixed-size arrays -/

/-- `[u8; n]`. -/
abbrev ByteArrayN (n : Nat) := Vector Byte n

/-- `try_into` of a slice of the right length. -/
def arrayOf {n : Nat} (bytes : Bytes) (h : bytes.length = n) : ByteArrayN n := ⟨bytes.toArray, by simpa using h⟩

@[simp] theorem toList_arrayOf {n : Nat} (bytes : Bytes) (h : bytes.length = n) : (arrayOf bytes h).toList = bytes := by
  simp [arrayOf, Vector.toList]

theorem array_ext {n : Nat} {left right : ByteArrayN n} (h : left.toList = right.toList) : left = right :=
  Vector.toList_inj.1 h

theorem arrayOf_eq {n : Nat} {bytes : Bytes} {h : bytes.length = n} {array : ByteArrayN n}
    (heq : bytes = array.toList) : arrayOf bytes h = array := array_ext ((toList_arrayOf _ _).trans heq)

/-- `copy_from_slice` into an array of zeros; the source always copies as many bytes as the array has. -/
def copyFromSlice (n : Nat) (bytes : Bytes) : ByteArrayN n := Vector.ofFn fun index => bytes.getD index.val 0

theorem toList_copyFromSlice {n : Nat} {bytes : Bytes} (h : bytes.length = n) :
    (copyFromSlice n bytes).toList = bytes := by
  subst h
  apply List.ext_getElem
  · simp
  · intro index hleft hright
    simp [copyFromSlice]

@[simp] theorem copyFromSlice_toList {n : Nat} (bytes : ByteArrayN n) : copyFromSlice n bytes.toList = bytes :=
  array_ext (toList_copyFromSlice (by simp))

def beArray (width n : Nat) : ByteArrayN width := arrayOf (beBytes width n) (length_beBytes width n)

def leArray (width n : Nat) : ByteArrayN width := arrayOf (leBytes width n) (length_leBytes width n)

@[simp] theorem toList_beArray (width n : Nat) : (beArray width n).toList = beBytes width n := toList_arrayOf _ _

end BareProxy
