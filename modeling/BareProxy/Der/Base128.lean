import BareProxy.Base.Words
import BareProxy.Base.PrefixFree
import BareProxy.Der.Values

/-!
# Numbers in base 128

The digits of `push_base128` of `asn1.rs`: the high bit of a byte says whether the digits go on, so that a number shows
where it ends. The source fills a buffer of ten bytes from its end and copies what it filled; here the index that runs
down, the conversion of a digit and the accesses to the buffer can fail, and `none` is where the program would stop.
-/

namespace BareProxy.Der

/-! ### Digits -/

theorem toNat_digit (value : Nat) : (UInt8.ofNat (value % 128)).toNat = value % 128 := by
  rw [UInt8.toNat_ofNat']
  omega

theorem digit_lt {index value : Nat} {digit : Byte} (h : digit ∈ base128Digits index value) : digit.toNat < 128 := by
  have hdigit (value : Nat) : (UInt8.ofNat (value % 128)).toNat < 128 := by
    rw [toNat_digit]
    exact Nat.mod_lt _ (by decide)
  induction index generalizing value with
  | zero => cases h
  | succ index ih =>
      rw [base128Digits] at h
      split at h
      · rw [List.mem_singleton.1 h]
        exact hdigit value
      · rcases List.mem_append.1 h with h | h
        · exact ih h
        · rw [List.mem_singleton.1 h]
          exact hdigit value

theorem length_base128Digits_le (index value : Nat) : (base128Digits index value).length ≤ index := by
  induction index generalizing value with
  | zero => exact Nat.le_refl 0
  | succ index ih =>
      rw [base128Digits]
      split
      · exact Nat.succ_le_succ (Nat.zero_le index)
      · rw [List.length_append]
        exact Nat.succ_le_succ (ih _)

theorem base128Digits_ne_nil {index : Nat} (hindex : 0 < index) (value : Nat) : base128Digits index value ≠ [] := by
  obtain ⟨index, rfl⟩ := Nat.exists_eq_succ_of_ne_zero hindex.ne'
  rw [base128Digits]
  split
  · exact List.cons_ne_nil _ _
  · exact List.append_ne_nil_of_right_ne_nil _ (List.cons_ne_nil _ _)

def ofDigits (digits : Bytes) : Nat := digits.foldl (fun value digit => value * 128 + digit.toNat) 0

theorem ofDigits_base128Digits {index value : Nat} (hindex : 0 < index) (hvalue : value < 128 ^ index) :
    ofDigits (base128Digits index value) = value := by
  induction index generalizing value with
  | zero => cases hindex
  | succ index ih =>
      rw [base128Digits]
      split
      · rename_i hlast
        rw [ofDigits, List.foldl_cons, List.foldl_nil, toNat_digit]
        omega
      · rename_i hmore
        have hpos : 0 < index := by
          by_contra hzero
          obtain rfl : index = 0 := by omega
          omega
        have hhigh : value / 128 < 128 ^ index := by
          rw [Nat.div_lt_iff_lt_mul (by decide), ← pow_succ]
          exact hvalue
        have hfold := ih hpos hhigh
        rw [ofDigits] at hfold ⊢
        rw [List.foldl_append, hfold, List.foldl_cons, List.foldl_nil, toNat_digit]
        omega

/-- All bytes of an arc but the last have the high bit. -/
theorem base128_eq (value : Nat) :
    ∃ front last, base128Digits 10 value = front ++ [last] ∧ base128 value = front.map (· ||| 0x80) ++ [last] := by
  have hne := base128Digits_ne_nil (by decide : 0 < 10) value
  refine ⟨(base128Digits 10 value).dropLast, (base128Digits 10 value).getLast hne,
    (List.dropLast_append_getLast hne).symm, ?_⟩
  rw [base128, List.getLast?_eq_some_getLast hne]
  rfl

theorem base128_ne_nil (value : Nat) : base128 value ≠ [] := by
  obtain ⟨front, last, -, h⟩ := base128_eq value
  rw [h]
  exact List.append_ne_nil_of_right_ne_nil _ (List.cons_ne_nil _ _)

theorem or_highBit (digit : Byte) : (digit ||| 0x80) &&& 0x80 ≠ 0 := by
  revert digit
  apply byte_forall
  decide +kernel

theorem digit_highBit {digit : Byte} (h : digit.toNat < 128) : digit &&& 0x80 = 0 := by
  revert digit
  apply byte_forall
  decide +kernel

/-- Exactly the last byte of a number has no high bit. -/
theorem base128_highBits (value : Nat) : ∃ front last, base128 value = front ++ [last] ∧
    (∀ byte ∈ front, byte &&& 0x80 ≠ 0) ∧ last &&& 0x80 = 0 := by
  obtain ⟨front, last, hdigits, hbytes⟩ := base128_eq value
  have hlast : last ∈ base128Digits 10 value := hdigits ▸ List.mem_append_right _ List.mem_cons_self
  refine ⟨_, last, hbytes, ?_, digit_highBit (digit_lt hlast)⟩
  intro byte hbyte
  obtain ⟨digit, -, rfl⟩ := List.mem_map.1 hbyte
  exact or_highBit digit

/-- The bytes with the high bit are those in front of the last. -/
theorem takeWhile_base128 {front more : Bytes} {last : Byte} (hlast : last.toNat < 128) :
    (front.map (· ||| 0x80) ++ [last] ++ more).takeWhile (· &&& 0x80 ≠ 0) = front.map (· ||| 0x80) := by
  rw [List.append_assoc, List.takeWhile_append_of_pos]
  · rw [List.singleton_append, List.takeWhile_cons, decide_eq_false (not_not.2 (digit_highBit hlast)),
      if_neg Bool.false_ne_true, List.append_nil]
  · intro byte hbyte
    obtain ⟨digit, -, rfl⟩ := List.mem_map.1 hbyte
    exact decide_eq_true (or_highBit digit)

theorem toNat_and_low (byte : Byte) : (byte &&& 0x7f).toNat = byte.toNat % 128 := by
  rw [UInt8.toNat_and]
  exact Nat.and_two_pow_sub_one_eq_mod byte.toNat 7

theorem digit_and_low {digit : Byte} (h : digit.toNat < 128) : digit &&& 0x7f = digit := by
  rw [← UInt8.toNat_inj, toNat_and_low, Nat.mod_eq_of_lt h]

/-- The digits are read off bytes with the high bit. -/
theorem map_or_high_and {digits : Bytes} (h : ∀ digit ∈ digits, digit.toNat < 128) :
    (digits.map (· ||| 0x80)).map (· &&& 0x7f) = digits := by
  have hback : ∀ digit : Byte, digit.toNat < 128 → (digit ||| 0x80) &&& 0x7f = digit := by
    apply byte_forall
    decide +kernel
  rw [List.map_map]
  exact (List.map_congr_left fun digit hdigit => hback digit (h digit hdigit)).trans (List.map_id _)

theorem map_or_high_injective {left right : Bytes} (hleft : ∀ digit ∈ left, digit.toNat < 128)
    (hright : ∀ digit ∈ right, digit.toNat < 128) (h : left.map (· ||| 0x80) = right.map (· ||| 0x80)) : left = right := by
  rw [← map_or_high_and hleft, h, map_or_high_and hright]

theorem prefixFree_base128 : PrefixFree (· < 128 ^ 10) base128 := by
  intro v w x y hv hw h
  obtain ⟨front, last, hdigits, hbytes⟩ := base128_eq v
  obtain ⟨front', last', hdigits', hbytes'⟩ := base128_eq w
  have hlow : ∀ digit ∈ front ++ [last], digit.toNat < 128 := fun digit hdigit => digit_lt (hdigits ▸ hdigit)
  have hlow' : ∀ digit ∈ front' ++ [last'], digit.toNat < 128 := fun digit hdigit => digit_lt (hdigits' ▸ hdigit)
  have hlast := hlow last (List.mem_append_right _ List.mem_cons_self)
  have hlast' := hlow' last' (List.mem_append_right _ List.mem_cons_self)
  rw [hbytes, hbytes'] at h
  have hfront := congrArg (List.takeWhile (· &&& 0x80 ≠ 0)) h
  rw [takeWhile_base128 hlast, takeWhile_base128 hlast'] at hfront
  rw [hfront, List.append_assoc, List.append_assoc] at h
  obtain ⟨hsame, rfl⟩ := List.cons.inj (List.append_cancel_left h)
  obtain rfl := map_or_high_injective (fun digit hdigit => hlow digit (List.mem_append_left _ hdigit))
    (fun digit hdigit => hlow' digit (List.mem_append_left _ hdigit)) hfront
  refine ⟨?_, rfl⟩
  rw [← ofDigits_base128Digits (by decide) hv, ← ofDigits_base128Digits (by decide) hw, hdigits, hdigits', hsame]

/-! ### The fewest digits -/

/-- The number that bytes spell in base 128, whatever their high bits. -/
def base128Value (bytes : Bytes) : Nat := ofDigits (bytes.map (· &&& 0x7f))

theorem ofDigits_append_singleton (digits : Bytes) (last : Byte) :
    ofDigits (digits ++ [last]) = ofDigits digits * 128 + last.toNat := by
  rw [ofDigits, List.foldl_append]
  rfl

theorem base128Value_lt (bytes : Bytes) : base128Value bytes < 128 ^ bytes.length := by
  induction bytes using List.reverseRecOn with
  | nil => exact Nat.one_pos
  | append_singleton bytes last ih =>
      rw [base128Value] at ih ⊢
      rw [List.map_append, List.map_singleton, ofDigits_append_singleton, List.length_append, List.length_singleton,
        pow_succ, toNat_and_low]
      omega

theorem base128Value_base128 {value : Nat} (h : value < 128 ^ 10) : base128Value (base128 value) = value := by
  obtain ⟨front, last, hdigits, hbytes⟩ := base128_eq value
  have hdigit : ∀ digit ∈ front ++ [last], digit.toNat < 128 := fun digit hmem => digit_lt (hdigits ▸ hmem)
  have hfront := map_or_high_and fun digit hmem => hdigit digit (List.mem_append_left _ hmem)
  have hlast := digit_and_low (hdigit last (List.mem_append_right _ List.mem_cons_self))
  rw [base128Value, hbytes, List.map_append, hfront, List.map_singleton, hlast, ← hdigits,
    ofDigits_base128Digits (by decide) h]

/-- A digit is only put in front of others when the number does not fit into those. -/
theorem le_of_length_base128Digits {index value : Nat} (hvalue : value ≠ 0) :
    128 ^ ((base128Digits index value).length - 1) ≤ value := by
  induction index generalizing value with
  | zero => exact Nat.one_le_iff_ne_zero.2 hvalue
  | succ index ih =>
      rw [base128Digits]
      by_cases hlast : value / 128 = 0
      · rw [if_pos hlast]
        exact Nat.one_le_iff_ne_zero.2 hvalue
      · have hhigh := ih hlast
        rw [if_neg hlast, List.length_append, List.length_singleton, Nat.add_sub_cancel]
        generalize (base128Digits index (value / 128)).length = count at hhigh
        cases count with
        | zero => exact Nat.one_le_iff_ne_zero.2 hvalue
        | succ count =>
            rw [Nat.add_sub_cancel, Nat.le_div_iff_mul_le (by decide), ← pow_succ] at hhigh
            exact hhigh

theorem length_base128 (value : Nat) : (base128 value).length = (base128Digits 10 value).length := by
  obtain ⟨front, last, hdigits, hbytes⟩ := base128_eq value
  rw [hdigits, hbytes, List.length_append, List.length_append, List.length_map]

/-- No other bytes that spell the number are fewer. -/
theorem length_base128_le {other : Bytes} (hne : other ≠ []) : (base128 (base128Value other)).length ≤ other.length := by
  have hlt := base128Value_lt other
  have hpos := List.length_pos_iff.2 hne
  rw [length_base128]
  by_cases hzero : base128Value other = 0
  · rw [hzero]
    exact hpos
  · have hpow := (@le_of_length_base128Digits 10 _ hzero).trans_lt hlt
    have hcount := (Nat.pow_lt_pow_iff_right (by decide)).1 hpow
    omega

/-! ### The buffer -/

/-- `bytes[index] = byte`. -/
def setChecked (bytes : Bytes) (index : Nat) (byte : Byte) : Option Bytes :=
  if index < bytes.length then some (bytes.set index byte) else none

/-- The first loop of `push_base128`, from the index that it has come down to. -/
def fillBase128 (bytes : Bytes) : Nat → UInt64 → Option (Bytes × Nat)
  -- there is nothing left to take away from the index
  | 0, _ => none
  | index + 1, value => do
      let digit ← u8TryFrom (value &&& 0x7f).toNat
      let bytes ← setChecked bytes index digit
      let value := value >>> 7
      if value = 0 then some (bytes, index) else fillBase128 bytes index value

/-- One turn of the second loop. -/
def pushBase128Digit (bytes output : Bytes) (position : Nat) : Option Bytes := do
  let byte ← bytes[position]?
  let byte := if position + 1 ≠ bytes.length then byte ||| 0x80 else byte
  some (output ++ [byte])

def pushBase128 (output : Bytes) (value : UInt64) : Option Bytes := do
  let (bytes, index) ← fillBase128 (List.replicate 10 0) 10 value
  (List.range' index (bytes.length - index)).foldlM (pushBase128Digit bytes) output

theorem drop_set {bytes : Bytes} {index : Nat} (h : index < bytes.length) (byte : Byte) :
    (bytes.set index byte).drop index = byte :: bytes.drop (index + 1) := by
  rw [List.drop_eq_getElem_cons (by rwa [List.length_set]), List.getElem_set_self, List.drop_set_of_lt (by omega)]

/-- The digits end where the buffer was filled before, and there is room for all of them. -/
theorem fillBase128_eq {bytes : Bytes} {index : Nat} {value : UInt64} (hpos : 0 < index)
    (hroom : index ≤ bytes.length) (hvalue : value.toNat < 128 ^ index) :
    ∃ filled start, fillBase128 bytes index value = some (filled, start) ∧ start ≤ filled.length ∧
      filled.drop start = base128Digits index value.toNat ++ bytes.drop index := by
  induction index generalizing bytes value with
  | zero => exact absurd hpos (Nat.lt_irrefl 0)
  | succ index ih =>
      have hmask : (value &&& 0x7f).toNat = value.toNat % 128 := @toNat_and_mask value _ 7 rfl
      have hshift : (value >>> 7).toNat = value.toNat / 128 := toNat_shiftRight_eq_div value 7 (by decide)
      have hdigit : u8TryFrom (value &&& 0x7f).toNat = some (UInt8.ofNat (value.toNat % 128)) := by
        rw [hmask]
        exact u8TryFrom_eq (by omega)
      have hzero : value >>> 7 = 0 ↔ value.toNat / 128 = 0 := by
        rw [← UInt64.toNat_inj, hshift, UInt64.toNat_zero]
      have hdrop := drop_set (show index < bytes.length by omega) (UInt8.ofNat (value.toNat % 128))
      rw [fillBase128, hdigit, Option.bind_eq_bind, Option.bind_some, setChecked, if_pos (by omega),
        Option.bind_eq_bind, Option.bind_some, base128Digits]
      dsimp only
      by_cases hlast : value.toNat / 128 = 0
      · rw [if_pos (hzero.2 hlast), if_pos hlast]
        refine ⟨_, index, rfl, ?_, ?_⟩
        · rw [List.length_set]
          omega
        · rw [hdrop, List.singleton_append]
      · rw [if_neg (mt hzero.1 hlast), if_neg hlast]
        have hhigh : (value >>> 7).toNat < 128 ^ index := by
          rw [hshift, Nat.div_lt_iff_lt_mul (by decide), ← pow_succ]
          exact hvalue
        have hmore : 0 < index := by
          apply Nat.pos_of_ne_zero
          rintro rfl
          rw [hshift] at hhigh
          omega
        obtain ⟨filled, start, hfill, hstart, hdigits⟩ :=
          @ih (bytes.set index (UInt8.ofNat (value.toNat % 128))) (value >>> 7) hmore (by rw [List.length_set]; omega) hhigh
        refine ⟨filled, start, hfill, hstart, ?_⟩
        rw [hdigits, hdrop, hshift, List.append_assoc, List.singleton_append]

/-- Digits with the high bit on all but the last. -/
def withHighBits (digits : Bytes) : Bytes := digits.dropLast.map (· ||| 0x80) ++ digits.getLast?.toList

theorem withHighBits_cons (digit : Byte) {digits : Bytes} (h : digits ≠ []) :
    withHighBits (digit :: digits) = (digit ||| 0x80) :: withHighBits digits := by
  rw [withHighBits, withHighBits, List.dropLast_cons_of_ne_nil h, List.getLast?_cons_of_ne_nil h]
  rfl

theorem pushBase128Digit_eq {bytes : Bytes} {position : Nat} (h : position < bytes.length) (output : Bytes) :
    pushBase128Digit bytes output position =
      some (output ++ [if position + 1 ≠ bytes.length then bytes[position] ||| 0x80 else bytes[position]]) := by
  rw [pushBase128Digit, List.getElem?_eq_getElem h]
  rfl

/-- The bytes from the start on are copied, those that others follow with the high bit. -/
theorem foldlM_pushBase128Digit {bytes : Bytes} {start count : Nat} (h : start + count = bytes.length) (output : Bytes) :
    (List.range' start count).foldlM (pushBase128Digit bytes) output = some (output ++ withHighBits (bytes.drop start)) := by
  induction count generalizing start output with
  | zero =>
      rw [List.drop_of_length_le (by omega)]
      exact congrArg some (List.append_nil output).symm
  | succ count ih =>
      have hlt : start < bytes.length := by omega
      rw [List.range'_succ, List.foldlM_cons, pushBase128Digit_eq hlt, Option.bind_eq_bind, Option.bind_some,
        ih (by omega), List.drop_eq_getElem_cons hlt, List.append_assoc, List.singleton_append]
      by_cases hlast : start + 1 = bytes.length
      · rw [if_neg (not_not_intro hlast), List.drop_of_length_le (by omega)]
        rfl
      · have hne : bytes.drop (start + 1) ≠ [] := List.length_pos_iff.1 (by rw [List.length_drop]; omega)
        rw [if_pos hlast, withHighBits_cons _ hne]

/-- Ten digits are enough for 64 bits, so the index never runs below zero. -/
theorem pushBase128_eq (output : Bytes) (value : UInt64) :
    pushBase128 output value = some (output ++ base128 value.toNat) := by
  have hvalue : value.toNat < 128 ^ 10 := value.toNat_lt.trans (by decide)
  obtain ⟨filled, start, hfill, hstart, hdigits⟩ :=
    @fillBase128_eq (List.replicate 10 0) 10 value (by decide) (by decide) hvalue
  rw [show (List.replicate 10 (0 : Byte)).drop 10 = [] from rfl, List.append_nil] at hdigits
  rw [pushBase128, hfill, Option.bind_eq_bind, Option.bind_some]
  dsimp only
  rw [foldlM_pushBase128Digit (by omega), hdigits]
  rfl

end BareProxy.Der
