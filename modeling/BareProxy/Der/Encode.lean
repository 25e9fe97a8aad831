import BareProxy.Base.Endian

/-!
# DER encoders

The encoders of `asn1.rs` that a signature needs. A `usize` has eight bytes.
-/

namespace BareProxy.Der

def derTagInteger : Byte := 0x02

def derTagSequence : Byte := 0x30

/-- The bytes that `push_der_length` pushes. -/
def derLength (length : Nat) : Bytes :=
  if length < 128 then
    [UInt8.ofNat length]
  else
    let significant := (beBytes 8 length).dropWhile (· = 0)
    (0x80 ||| UInt8.ofNat significant.length) :: significant

def derWrap (tag : Byte) (content : Bytes) : Bytes := tag :: (derLength content.length ++ content)

def derIntegerUnsigned (value : Bytes) : Bytes :=
  let significant := value.dropWhile (· = 0)
  let content :=
    match significant with
    | [] => [0]
    | first :: _ => if first &&& 0x80 ≠ 0 then 0 :: significant else significant
  derWrap derTagInteger content

def derSequence (elements : List Bytes) : Bytes := derWrap derTagSequence elements.flatten

theorem ofBe_dropWhile (bytes : Bytes) : ofBe (bytes.dropWhile (· = 0)) = ofBe bytes := by
  induction bytes with
  | nil => rfl
  | cons byte bytes ih =>
      rw [List.dropWhile_cons]
      split
      · rename_i hzero
        rw [of_decide_eq_true hzero, ih, ofBe_cons, UInt8.toNat_zero, Nat.zero_mul, Nat.zero_add]
      · rfl

theorem ofBe_replicate_zero (count : Nat) (bytes : Bytes) : ofBe (List.replicate count 0 ++ bytes) = ofBe bytes := by
  induction count with
  | zero => rfl
  | succ count ih => rw [List.replicate_succ, List.cons_append, ofBe_cons, ih, UInt8.toNat_zero, Nat.zero_mul, Nat.zero_add]

/-- What is left after the leading zeroes does not start with a zero. -/
theorem ne_zero_of_dropWhile {bytes more : Bytes} {first : Byte} (h : bytes.dropWhile (· = 0) = first :: more) :
    first ≠ 0 := by
  have hhead := List.head_dropWhile_not (fun b : Byte => decide (b = 0)) (by rw [h]; exact List.cons_ne_nil _ _)
  simp only [h, List.head_cons] at hhead
  exact of_decide_eq_false hhead

theorem length_dropWhile_le (bytes : Bytes) : (bytes.dropWhile (· = 0)).length ≤ bytes.length :=
  (List.dropWhile_sublist _).length_le

/-- The bytes of a long length: at most eight, the first of them not zero. -/
theorem significantBytes_length {length : Nat} (hlong : 128 ≤ length) (hfits : length ≤ 2 ^ 64 - 1) :
    ofBe ((beBytes 8 length).dropWhile (· = 0)) = length ∧
      ((beBytes 8 length).dropWhile (· = 0)).length ≤ 8 ∧
      ∃ first more, (beBytes 8 length).dropWhile (· = 0) = first :: more ∧ first ≠ 0 := by
  have hvalue : ofBe ((beBytes 8 length).dropWhile (· = 0)) = length := by
    rw [ofBe_dropWhile, ofBe_beBytes]
    exact Nat.mod_eq_of_lt (by omega)
  have hcount := length_dropWhile_le (beBytes 8 length)
  rw [length_beBytes] at hcount
  refine ⟨hvalue, hcount, ?_⟩
  match hcases : (beBytes 8 length).dropWhile (· = 0) with
  | [] =>
      rw [hcases, ofBe_nil] at hvalue
      omega
  | first :: more => exact ⟨first, more, hcases, ne_zero_of_dropWhile hcases⟩

theorem length_derWrap {tag : Byte} {content : Bytes} (h : content.length < 128) :
    (derWrap tag content).length = content.length + 2 := by
  rw [derWrap, derLength, if_pos h, List.length_cons, List.singleton_append, List.length_cons]

theorem length_le_derWrap (tag : Byte) (content : Bytes) : content.length ≤ (derWrap tag content).length := by
  rw [derWrap, List.length_cons, List.length_append]
  omega

/-- The first byte of a length says how many more there are. -/
theorem derLength_eq_cons (length : Nat) :
    ∃ first more, derLength length = first :: more ∧ more.length = if first < 128 then 0 else (first &&& 0x7f).toNat := by
  have hmarker : ∀ count < 9, ¬(0x80 ||| UInt8.ofNat count < 128) ∧
      ((0x80 ||| UInt8.ofNat count) &&& 0x7f).toNat = count := by decide
  rw [derLength]
  by_cases hshort : length < 128
  · have hfirst : UInt8.ofNat length < 128 := by
      rw [UInt8.lt_iff_toNat_lt, UInt8.toNat_ofNat']
      exact (Nat.mod_le _ _).trans_lt hshort
    rw [if_pos hshort]
    exact ⟨_, [], rfl, (if_pos hfirst).symm⟩
  · have hcount := length_dropWhile_le (beBytes 8 length)
    rw [length_beBytes] at hcount
    obtain ⟨hhigh, hlow⟩ := hmarker _ (Nat.lt_succ_of_le hcount)
    rw [if_neg hshort]
    refine ⟨_, _, rfl, ?_⟩
    rw [if_neg hhigh, hlow]

/-- Different contents are wrapped into different values. -/
theorem derWrap_injective (tag : Byte) : Function.Injective (derWrap tag) := by
  intro left right h
  obtain ⟨first, more, hleft, hmore⟩ := derLength_eq_cons left.length
  obtain ⟨first', more', hright, hmore'⟩ := derLength_eq_cons right.length
  rw [derWrap, derWrap, hleft, hright, List.cons_append, List.cons_append] at h
  obtain ⟨rfl, hrest⟩ := List.cons.inj (List.cons.inj h).2
  exact (List.append_inj hrest (hmore.trans hmore'.symm)).2

/-- A short integer gets a tag, a length and at most one more byte. -/
theorem length_derIntegerUnsigned {value : Bytes} (h : value.length < 127) (hne : value ≠ []) :
    (derIntegerUnsigned value).length ≤ value.length + 3 := by
  have hsignificant := length_dropWhile_le value
  have hpos := List.length_pos_iff.2 hne
  rw [derIntegerUnsigned]
  split
  · rw [length_derWrap (by simp)]
    simp only [List.length_singleton]
    omega
  · split
    · rw [length_derWrap (by rw [List.length_cons]; omega), List.length_cons]
      omega
    · rw [length_derWrap (by omega)]
      omega

end BareProxy.Der
