import Mathlib.Data.List.Basic
import Mathlib.Data.List.DropRight
import Mathlib.Data.Nat.Digits.Lemmas

/-!
# Byte strings

A `Vec<u8>`, a slice and a `str` are all lists of bytes here; a `str` is its UTF-8 encoding. The
module collects what the standard library says about them: ASCII classes and case folding, the first
occurrence of a substring, and unsigned numerals.
-/

namespace BareProxy

abbrev Byte := UInt8

abbrev Bytes := List UInt8

/-- The bytes of an ASCII literal. -/
def ascii (text : String) : Bytes := text.toList.map fun c => c.toNat.toUInt8

/-- A statement about the bytes of a string is decided on the string, not on all bytes. -/
instance {p : Byte → Prop} [DecidablePred p] {s : Bytes} : Decidable (∀ b ∈ s, p b) := List.decidableBAll p s

/-- A property of bytes holds of all of them once it holds of the 256 values. -/
theorem byte_forall {p : Byte → Prop} (h : ∀ n : Fin 256, p (UInt8.ofNat n.val)) (b : Byte) : p b := by
  have hb := h ⟨b.toNat, b.toNat_lt⟩
  simpa using hb

/-! ### ASCII classes -/

def isAsciiDigit (b : Byte) : Bool := 48 ≤ b && b ≤ 57

def isAsciiUppercase (b : Byte) : Bool := 65 ≤ b && b ≤ 90

def isAsciiLowercase (b : Byte) : Bool := 97 ≤ b && b ≤ 122

def isAsciiAlphanumeric (b : Byte) : Bool := isAsciiDigit b || isAsciiUppercase b || isAsciiLowercase b

def isAsciiHexdigit (b : Byte) : Bool := isAsciiDigit b || (65 ≤ b && b ≤ 70) || (97 ≤ b && b ≤ 102)

def isAsciiControl (b : Byte) : Bool := b ≤ 31 || b == 127

def isAscii (s : Bytes) : Bool := s.all fun b => b < 128

def toLower (b : Byte) : Byte := if isAsciiUppercase b then b + 32 else b

def toAsciiLowercase (s : Bytes) : Bytes := s.map toLower

def eqIgnoreAsciiCase (left right : Bytes) : Bool := toAsciiLowercase left == toAsciiLowercase right

theorem toLower_toLower (b : Byte) : toLower (toLower b) = toLower b := by
  revert b
  apply byte_forall
  decide +kernel

theorem toAsciiLowercase_idem (s : Bytes) : toAsciiLowercase (toAsciiLowercase s) = toAsciiLowercase s := by
  rw [toAsciiLowercase, toAsciiLowercase, List.map_map]
  apply List.map_congr_left
  intro b _
  exact toLower_toLower b

theorem eqIgnoreAsciiCase_iff {left right : Bytes} :
    eqIgnoreAsciiCase left right = true ↔ toAsciiLowercase left = toAsciiLowercase right := beq_iff_eq

theorem eqIgnoreAsciiCase_comm (left right : Bytes) : eqIgnoreAsciiCase left right = eqIgnoreAsciiCase right left := by
  rw [Bool.eq_iff_iff, eqIgnoreAsciiCase_iff, eqIgnoreAsciiCase_iff, eq_comm]

/-- Equal names are equal to the same names. -/
theorem eqIgnoreAsciiCase_congr {left right : Bytes} (h : eqIgnoreAsciiCase left right = true) (other : Bytes) :
    eqIgnoreAsciiCase left other = eqIgnoreAsciiCase right other := by
  rw [eqIgnoreAsciiCase, eqIgnoreAsciiCase_iff.1 h]
  rfl

theorem eqIgnoreAsciiCase_toAsciiLowercase (left right : Bytes) :
    eqIgnoreAsciiCase left (toAsciiLowercase right) = eqIgnoreAsciiCase left right := by
  rw [eqIgnoreAsciiCase, toAsciiLowercase_idem]
  rfl

/-! ### UTF-8 -/

def isContinuation (b : Byte) : Bool := 128 ≤ b && b ≤ 191

/-- `str::from_utf8` accepts exactly the well-formed sequences of the Unicode standard: no overlong
form, no surrogate, nothing above U+10FFFF. -/
def validUtf8 : Bytes → Bool
  | [] => true
  | b₀ :: rest =>
    if b₀ < 128 then validUtf8 rest
    else match rest with
      | [] => false
      | b₁ :: rest =>
        if 194 ≤ b₀ && b₀ ≤ 223 then isContinuation b₁ && validUtf8 rest
        else match rest with
          | [] => false
          | b₂ :: rest =>
            if (b₀ == 224 && 160 ≤ b₁ && b₁ ≤ 191) || (225 ≤ b₀ && b₀ ≤ 236 && isContinuation b₁) ||
                (b₀ == 237 && 128 ≤ b₁ && b₁ ≤ 159) || (238 ≤ b₀ && b₀ ≤ 239 && isContinuation b₁) then
              isContinuation b₂ && validUtf8 rest
            else match rest with
              | [] => false
              | b₃ :: rest =>
                ((b₀ == 240 && 144 ≤ b₁ && b₁ ≤ 191) || (241 ≤ b₀ && b₀ ≤ 243 && isContinuation b₁) ||
                  (b₀ == 244 && 128 ≤ b₁ && b₁ ≤ 143)) &&
                  isContinuation b₂ && isContinuation b₃ && validUtf8 rest

theorem validUtf8_of_isAscii {s : Bytes} (h : isAscii s = true) : validUtf8 s = true := by
  induction s with
  | nil => rfl
  | cons b rest ih =>
    simp only [isAscii, List.all_cons, Bool.and_eq_true, decide_eq_true_eq] at h
    rw [validUtf8.eq_def]
    simp only [h.1, if_true]
    exact ih h.2

theorem validUtf8_ascii_append {s : Bytes} (h : isAscii s = true) (t : Bytes) : validUtf8 (s ++ t) = validUtf8 t := by
  induction s with
  | nil => rfl
  | cons b rest ih =>
    simp only [isAscii, List.all_cons, Bool.and_eq_true, decide_eq_true_eq] at h
    rw [List.cons_append, validUtf8.eq_def]
    simp only [h.1, if_true]
    exact ih h.2

private theorem ascii_not_continuation {b : Byte} (h : b < 128) :
    isContinuation b = false ∧ decide (160 ≤ b) = false ∧ decide (128 ≤ b) = false ∧ decide (144 ≤ b) = false := by
  revert b
  apply byte_forall
  decide +kernel

/-- A character that is cut off is not made whole by an ASCII byte. -/
theorem validUtf8_append_ascii {s t : Bytes} (h : isAscii t = true) : validUtf8 (s ++ t) = validUtf8 s := by
  have htail := validUtf8_of_isAscii h
  cases t with
  | nil => rw [List.append_nil]
  | cons c t =>
    have hc : c < 128 := by
      simp only [isAscii, List.all_cons, Bool.and_eq_true, decide_eq_true_eq] at h
      exact h.1
    obtain ⟨hcont, h160, h128, h144⟩ := ascii_not_continuation hc
    fun_induction validUtf8 s with
    | case1 => exact htail
    | case2 b₀ rest hlt ih => 
      rw [List.cons_append, validUtf8.eq_def]
      simp only [hlt, if_true]
      exact ih
    | case3 b₀ hge =>
      rw [List.singleton_append, validUtf8.eq_def]
      simp only [hge, if_false, hcont, h160, h128, h144, Bool.false_and, Bool.and_false, Bool.or_false,
        Bool.false_eq_true]
      repeat' split
      all_goals rfl
    | case4 b₀ hge b₁ rest hrange ih =>
      rw [List.cons_append, List.cons_append, validUtf8.eq_def]
      simp only [hge, if_false, hrange, if_true, ih]
    | case5 b₀ hge b₁ hrange =>
      rw [List.cons_append, List.singleton_append, validUtf8.eq_def]
      simp only [hge, if_false, hrange, hcont, Bool.false_and, Bool.and_false, Bool.false_eq_true]
      repeat' split
      all_goals rfl
    | case6 b₀ hge b₁ hrange b₂ rest hthree ih =>
      rw [List.cons_append, List.cons_append, List.cons_append, validUtf8.eq_def]
      simp only [hge, if_false, hrange, hthree, if_true, ih, Bool.false_eq_true]
    | case7 b₀ hge b₁ hrange b₂ hthree =>
      rw [List.cons_append, List.cons_append, List.singleton_append, validUtf8.eq_def]
      simp only [hge, if_false, hrange, hthree, hcont, Bool.false_and, Bool.and_false, Bool.false_eq_true]
    | case8 b₀ hge b₁ hrange b₂ hthree b₃ rest ih =>
      rw [List.cons_append, List.cons_append, List.cons_append, List.cons_append, validUtf8.eq_def]
      simp only [hge, if_false, hrange, hthree, ih, Bool.false_eq_true]
/-! ### Substring search -/

section Search

variable {α : Type*} [DecidableEq α]

/-- The index of the first occurrence of `needle`. -/
def indexOfSub (needle : List α) : List α → Option Nat
  | [] => if needle = [] then some 0 else none
  | a :: rest => if needle <+: a :: rest then some 0 else (indexOfSub needle rest).map (· + 1)

theorem indexOfSub_eq_some_iff {needle s : List α} {i : Nat} :
    indexOfSub needle s = some i ↔
      i ≤ s.length ∧ needle <+: s.drop i ∧ ∀ j < i, ¬ needle <+: s.drop j := by
  induction s generalizing i with
  | nil =>
    by_cases hneedle : needle = []
    · simp only [indexOfSub, hneedle, if_true, Option.some.injEq, List.length_nil, Nat.le_zero]
      constructor
      · rintro rfl
        simp
      · intro h
        exact h.1.symm
    · simp [indexOfSub, hneedle]
  | cons a rest ih =>
    by_cases hhead : needle <+: a :: rest
    · simp only [indexOfSub, hhead, if_true, Option.some.injEq]
      constructor
      · rintro rfl
        simp [hhead]
      · intro hfacts
        obtain ⟨-, -, hfirst⟩ := hfacts
        by_contra hne
        exact hfirst 0 (by omega) hhead
    · simp only [indexOfSub, hhead, if_false, Option.map_eq_some_iff]
      constructor
      · intro hfacts
        obtain ⟨k, hk, rfl⟩ := hfacts
        obtain ⟨hle, hpre, hfirst⟩ := ih.1 hk
        refine ⟨by simpa using hle, by simpa using hpre, ?_⟩
        intro j hj
        cases j with
        | zero => simpa using hhead
        | succ j => simpa using hfirst j (by omega)
      · intro hfacts
        obtain ⟨hle, hpre, hfirst⟩ := hfacts
        cases i with
        | zero => exact absurd (by simpa using hpre) hhead
        | succ i =>
          refine ⟨i, ih.2 ⟨by simpa using hle, by simpa using hpre, ?_⟩, rfl⟩
          intro j hj
          simpa using hfirst (j + 1) (by omega)

theorem indexOfSub_eq_none_iff {needle s : List α} :
    indexOfSub needle s = none ↔ ∀ i ≤ s.length, ¬ needle <+: s.drop i := by
  constructor
  · intro hnone i hi hpre
    classical
    have hex : ∃ j, j ≤ s.length ∧ needle <+: s.drop j := ⟨i, hi, hpre⟩
    have hsome : indexOfSub needle s = some (Nat.find hex) := by
      refine indexOfSub_eq_some_iff.2 ⟨(Nat.find_spec hex).1, (Nat.find_spec hex).2, ?_⟩
      intro j hj hocc
      exact Nat.find_min hex hj ⟨le_trans hj.le (Nat.find_spec hex).1, hocc⟩
    rw [hnone] at hsome
    cases hsome
  · intro hall
    cases hfound : indexOfSub needle s with
    | none => rfl
    | some i =>
      obtain ⟨hle, hpre, -⟩ := indexOfSub_eq_some_iff.1 hfound
      exact absurd hpre (hall i hle)

/-- An occurrence ends inside the searched list. -/
theorem add_length_le_of_indexOfSub {needle s : List α} {i : Nat} (h : indexOfSub needle s = some i) :
    i + needle.length ≤ s.length := by
  obtain ⟨hle, hpre, -⟩ := indexOfSub_eq_some_iff.1 h
  have := hpre.length_le
  rw [List.length_drop] at this
  omega

/-- What stands before, at and after the first occurrence. -/
theorem indexOfSub_split {needle s : List α} {i : Nat} (h : indexOfSub needle s = some i) :
    s = s.take i ++ needle ++ s.drop (i + needle.length) := by
  obtain ⟨-, ⟨t, ht⟩, -⟩ := indexOfSub_eq_some_iff.1 h
  have hdrop : s.drop (i + needle.length) = t := by
    rw [← List.drop_drop, ← ht, List.drop_left]
  rw [hdrop, List.append_assoc, ht, List.take_append_drop]

omit [DecidableEq α] in
private theorem prefix_drop_append {needle s t : List α} {i : Nat} (hi : i + needle.length ≤ s.length) :
    needle <+: (s ++ t).drop i ↔ needle <+: s.drop i := by
  rw [List.drop_append_of_le_length (by omega)]
  refine ⟨fun h => ?_, fun h => List.prefix_append_of_prefix h⟩
  refine List.prefix_of_prefix_length_le h (List.prefix_append _ _) ?_
  rw [List.length_drop]
  omega

/-- Bytes appended after an occurrence do not move it. -/
theorem indexOfSub_append_left {needle s : List α} {i : Nat} (t : List α)
    (h : indexOfSub needle s = some i) : indexOfSub needle (s ++ t) = some i := by
  have hend := add_length_le_of_indexOfSub h
  obtain ⟨hle, hpre, hfirst⟩ := indexOfSub_eq_some_iff.1 h
  refine indexOfSub_eq_some_iff.2 ⟨by rw [List.length_append]; omega, ?_, ?_⟩
  · exact (prefix_drop_append hend).2 hpre
  · intro j hj hocc
    exact hfirst j hj ((prefix_drop_append (by omega)).1 hocc)

/-- An occurrence that appears only after appending reaches into the appended part. -/
theorem lt_of_indexOfSub_append {needle s t : List α} {i : Nat} (hnone : indexOfSub needle s = none)
    (hsome : indexOfSub needle (s ++ t) = some i) : s.length < i + needle.length := by
  by_contra hle
  obtain ⟨-, hpre, -⟩ := indexOfSub_eq_some_iff.1 hsome
  exact indexOfSub_eq_none_iff.1 hnone i (by omega) ((prefix_drop_append (by omega)).1 hpre)

/-- A prefix that ends after the first occurrence contains it. -/
theorem indexOfSub_take {needle s : List α} {i n : Nat} (h : indexOfSub needle s = some i)
    (hn : i + needle.length ≤ n) : indexOfSub needle (s.take n) = some i := by
  cases hfound : indexOfSub needle (s.take n) with
  | some j =>
    have hj := indexOfSub_append_left (s.drop n) hfound
    rw [List.take_append_drop, h] at hj
    exact hj.symm
  | none =>
    have hlen := add_length_le_of_indexOfSub h
    have hlt := lt_of_indexOfSub_append (t := s.drop n) (i := i) hfound (by rwa [List.take_append_drop])
    rw [List.length_take] at hlt
    omega

/-- An occurrence cannot start before the first place where its first element stands. -/
theorem indexOfSub_append_of_notMem {a : α} {needle s : List α} (hs : a ∉ s) (t : List α) :
    indexOfSub (a :: needle) (s ++ (a :: needle) ++ t) = some s.length := by
  refine indexOfSub_eq_some_iff.2 ⟨by simp, by simp [List.append_assoc], ?_⟩
  rintro j hj ⟨u, hu⟩
  have hget : (s ++ (a :: needle) ++ t)[j]? = some a := by
    rw [← List.head?_drop, ← hu]
    rfl
  rw [List.append_assoc, List.getElem?_append_left hj] at hget
  exact hs (List.mem_of_getElem? hget)

theorem indexOfSub_eq_none_of_notMem {a : α} {needle s : List α} (hs : a ∉ s) :
    indexOfSub (a :: needle) s = none := by
  refine indexOfSub_eq_none_iff.2 fun i _ hpre => hs ?_
  exact List.mem_of_mem_drop (hpre.subset List.mem_cons_self)

end Search

/-! ### Unsigned numerals -/

/-- The value of a digit, or nothing for a byte that is no digit in any radix up to 16. -/
def digitValue (b : Byte) : Option Nat :=
  if isAsciiDigit b then some (b.toNat - 48)
  else if 65 ≤ b && b ≤ 70 then some (b.toNat - 55)
  else if 97 ≤ b && b ≤ 102 then some (b.toNat - 87)
  else none

/-- One step of `from_str_radix`: fails on a byte that is no digit of the radix and on overflow. -/
def accumulateDigit (radix maximum : Nat) (value : Nat) (b : Byte) : Option Nat := do
  let digit ← digitValue b
  let next := value * radix + digit
  if digit < radix ∧ next ≤ maximum then some next else none

/-- `from_str_radix` of an unsigned type with the given maximum; a leading plus sign is accepted. -/
def fromStrRadix (radix maximum : Nat) (s : Bytes) : Option Nat :=
  match s with
  | [] => none
  | 43 :: rest => if rest = [] then none else rest.foldlM (accumulateDigit radix maximum) 0
  | s => s.foldlM (accumulateDigit radix maximum) 0

def u16Max : Nat := 65535

def u64Max : Nat := 18446744073709551615

/-- `u64`'s `FromStr`. -/
def parseU64 (s : Bytes) : Option Nat := fromStrRadix 10 u64Max s

/-- `u16`'s `FromStr`. -/
def parseU16 (s : Bytes) : Option Nat := fromStrRadix 10 u16Max s

/-- The decimal text that `Display` prints for an unsigned integer. -/
def decimal (n : Nat) : Bytes :=
  if n = 0 then [48] else ((Nat.digits 10 n).reverse.map fun d => (48 + d).toUInt8)

theorem digitValue_ofDigit {d : Nat} (hd : d < 10) : digitValue (48 + d).toUInt8 = some d := by
  interval_cases d <;> decide

theorem isAsciiDigit_ofDigit {d : Nat} (hd : d < 10) : isAsciiDigit (48 + d).toUInt8 = true := by
  interval_cases d <;> decide

theorem isAsciiDigit_of_mem_decimal {n : Nat} {b : Byte} (hb : b ∈ decimal n) : isAsciiDigit b = true := by
  unfold decimal at hb
  split at hb
  · rw [List.mem_singleton.1 hb]
    decide
  · obtain ⟨d, hd, rfl⟩ := List.mem_map.1 hb
    exact isAsciiDigit_ofDigit (Nat.digits_lt_base (by decide) (List.mem_reverse.1 hd))

theorem decimal_ne_nil (n : Nat) : decimal n ≠ [] := by
  unfold decimal
  split
  · simp
  · rename_i hn
    simpa [Nat.digits_eq_nil_iff_eq_zero] using hn

/-- Reading digits most significant first, as long as the final value does not overflow. -/
private theorem foldlM_digits (maximum : Nat) (digits : List Nat) (hlt : ∀ d ∈ digits, d < 10)
    (hmax : Nat.ofDigits 10 digits ≤ maximum) :
    (digits.reverse.map fun d => (48 + d).toUInt8).foldlM (accumulateDigit 10 maximum) 0 =
      some (Nat.ofDigits 10 digits) := by
  induction digits with
  | nil => rfl
  | cons d digits ih =>
    have hd : d < 10 := hlt d List.mem_cons_self
    have hrec := ih (fun x hx => hlt x (List.mem_cons_of_mem _ hx)) (by
      rw [Nat.ofDigits_cons] at hmax
      omega)
    rw [Nat.ofDigits_cons] at hmax
    simp only [List.reverse_cons, List.map_append, List.map_cons, List.map_nil, List.foldlM_append, hrec,
      Option.bind_eq_bind, Option.bind_some, List.foldlM_cons, List.foldlM_nil]
    simp only [accumulateDigit, digitValue_ofDigit hd, Option.bind_eq_bind, Option.bind_some, Option.pure_def,
      Nat.ofDigits_cons]
    have hnext : Nat.ofDigits 10 digits * 10 + d ≤ maximum := by
      have : (Nat.cast d : Nat) = d := rfl
      omega
    rw [if_pos ⟨hd, hnext⟩]
    simp only [Option.bind_some]
    congr 1
    omega

private theorem foldlM_accumulateDigit_le {radix maximum : Nat} {s : Bytes} {start value : Nat}
    (hstart : start ≤ maximum) (h : s.foldlM (accumulateDigit radix maximum) start = some value) :
    value ≤ maximum := by
  induction s generalizing start with
  | nil =>
    cases h
    exact hstart
  | cons b s ih =>
    rw [List.foldlM_cons, Option.bind_eq_bind, Option.bind_eq_some_iff] at h
    obtain ⟨next, hnext, hrest⟩ := h
    refine ih ?_ hrest
    simp only [accumulateDigit, Option.bind_eq_bind, Option.bind_eq_some_iff] at hnext
    obtain ⟨digit, -, hif⟩ := hnext
    split at hif
    · rename_i hbound
      cases hif
      exact hbound.2
    · cases hif

theorem fromStrRadix_le {radix maximum : Nat} {s : Bytes} {value : Nat}
    (h : fromStrRadix radix maximum s = some value) : value ≤ maximum := by
  unfold fromStrRadix at h
  split at h
  · cases h
  · split at h
    · cases h
    · exact foldlM_accumulateDigit_le (Nat.zero_le _) h
  · exact foldlM_accumulateDigit_le (Nat.zero_le _) h

/-- The number that digits spell. -/
def radixValue (radix : Nat) (s : Bytes) : Nat := s.foldl (fun value b => value * radix + (digitValue b).getD 0) 0

/-- Digits of the radix, at least one. -/
structure IsNumeral (radix : Nat) (s : Bytes) : Prop where
  ne_nil : s ≠ []
  digits : ∀ b ∈ s, ∃ digit, digitValue b = some digit ∧ digit < radix

private theorem le_radixFold {radix : Nat} (hradix : 0 < radix) (s : Bytes) (start : Nat) :
    start ≤ s.foldl (fun value b => value * radix + (digitValue b).getD 0) start := by
  induction s generalizing start with
  | nil => exact le_rfl
  | cons b s ih =>
    have hstart := Nat.le_mul_of_pos_right start hradix
    exact (hstart.trans (Nat.le_add_right _ _)).trans (ih _)

private theorem foldlM_accumulateDigit_iff {radix maximum : Nat} (hradix : 0 < radix) {s : Bytes} {start value : Nat}
    (hstart : start ≤ maximum) :
    s.foldlM (accumulateDigit radix maximum) start = some value ↔
      (∀ b ∈ s, ∃ digit, digitValue b = some digit ∧ digit < radix) ∧
        s.foldl (fun value b => value * radix + (digitValue b).getD 0) start = value ∧ value ≤ maximum := by
  induction s generalizing start with
  | nil =>
    simp only [List.foldlM_nil, Option.pure_def, Option.some.injEq, List.not_mem_nil, false_implies, implies_true,
      List.foldl_nil, true_and]
    constructor
    · rintro rfl
      exact ⟨rfl, hstart⟩
    · exact And.left
  | cons b s ih =>
    rw [List.foldlM_cons, Option.bind_eq_bind, Option.bind_eq_some_iff, List.foldl_cons]
    constructor
    · intro hfacts
      obtain ⟨next, hnext, hrest⟩ := hfacts
      simp only [accumulateDigit, Option.bind_eq_bind, Option.bind_eq_some_iff] at hnext
      obtain ⟨digit, hdigit, hif⟩ := hnext
      split at hif
      · rename_i hbound
        obtain rfl := Option.some.inj hif
        obtain ⟨hdigits, hvalue, hle⟩ := (ih hbound.2).1 hrest
        refine ⟨?_, ?_, hle⟩
        · intro c hc
          rcases List.mem_cons.1 hc with rfl | hc
          · exact ⟨digit, hdigit, hbound.1⟩
          · exact hdigits c hc
        · rw [hdigit, Option.getD_some, hvalue]
      · cases hif
    · intro hfacts
      obtain ⟨hdigits, hvalue, hle⟩ := hfacts
      obtain ⟨digit, hdigit, hlt⟩ := hdigits b List.mem_cons_self
      rw [hdigit, Option.getD_some] at hvalue
      have hnext : start * radix + digit ≤ maximum := by
        have := le_radixFold hradix s (start * radix + digit)
        omega
      refine ⟨start * radix + digit, ?_, (ih hnext).2 ⟨fun c hc => hdigits c (List.mem_cons_of_mem _ hc), hvalue, hle⟩⟩
      simp only [accumulateDigit, hdigit, Option.bind_eq_bind, Option.bind_some]
      rw [if_pos ⟨hlt, hnext⟩]

/-- Without a sign, reading a number succeeds exactly on the numerals within the maximum. -/
theorem fromStrRadix_iff {radix maximum : Nat} (hradix : 0 < radix) {s : Bytes} {value : Nat}
    (hsign : s.head? ≠ some 43) :
    fromStrRadix radix maximum s = some value ↔ IsNumeral radix s ∧ radixValue radix s = value ∧ value ≤ maximum := by
  unfold fromStrRadix
  split
  · constructor
    · intro h
      cases h
    · intro h
      exact absurd rfl h.1.ne_nil
  · exact absurd rfl hsign
  · rename_i hne _
    rw [foldlM_accumulateDigit_iff hradix (Nat.zero_le _)]
    constructor
    · intro hfacts
      obtain ⟨hdigits, hrest⟩ := hfacts
      exact ⟨⟨hne, hdigits⟩, hrest⟩
    · intro hfacts
      obtain ⟨hnumeral, hrest⟩ := hfacts
      exact ⟨hnumeral.digits, hrest⟩

/-- A printed number reads back. -/
theorem fromStrRadix_decimal {n maximum : Nat} (hn : n ≤ maximum) :
    fromStrRadix 10 maximum (decimal n) = some n := by
  have hdigits : decimal n ≠ [] := decimal_ne_nil n
  have hplus : ∀ b ∈ decimal n, b ≠ 43 := by
    rintro b hb rfl
    exact absurd (isAsciiDigit_of_mem_decimal hb) (by decide)
  have hfold : (decimal n).foldlM (accumulateDigit 10 maximum) 0 = some n := by
    unfold decimal
    split
    · rename_i hzero
      subst hzero
      simp [accumulateDigit, show digitValue 48 = some 0 from by decide]
    · have h := foldlM_digits maximum (Nat.digits 10 n)
        (fun d hd => Nat.digits_lt_base (by decide) hd) (by rwa [Nat.ofDigits_digits])
      rwa [Nat.ofDigits_digits] at h
  cases hcase : decimal n with
  | nil => exact absurd hcase hdigits
  | cons b rest =>
    have hb : b ≠ 43 := hplus b (by rw [hcase]; exact List.mem_cons_self)
    rw [hcase] at hfold
    unfold fromStrRadix
    split
    · simp at *
    · rename_i heq
      exact absurd (List.cons.inj heq).1 hb
    · exact hfold

end BareProxy
