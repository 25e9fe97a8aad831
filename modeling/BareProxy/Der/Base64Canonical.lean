import BareProxy.Der.Pem

/-!
# Base64 has one spelling

What `decode_base64` accepts is what `encode_base64` writes: the characters are those of the alphabet, padding stands in
the last quartet only, and the bits that it leaves out are zero.
-/

namespace BareProxy.Der

open Crypto

/-- A character that is decoded is the one of the alphabet. -/
theorem base64Character_of_decode {byte value : Byte} (h : decodeBase64Character byte = some value) :
    value < 64 ∧ base64Character base64StandardAlphabet value = byte := by
  have hall : ∀ byte : Byte, (decodeBase64Character byte).all (fun value =>
      decide (value < 64 ∧ base64Character base64StandardAlphabet value = byte)) = true := by
    apply byte_forall
    decide +kernel
  have hbyte := hall byte
  rw [h, Option.all_some] at hbyte
  exact of_decide_eq_true hbyte

/-! ### Sextets of joined bytes -/

private theorem or_and_distrib (left right mask : Byte) : (left ||| right) &&& mask = left &&& mask ||| right &&& mask :=
  UInt8.toBitVec_inj.1 BitVec.and_or_distrib_right

private theorem split_sextet {value : Byte} (h : value < 64) :
    ((value <<< 2) >>> 2 = value ∧ (value <<< 2) &&& 0x03 = 0) ∧
      ((value >>> 4) >>> 2 = 0 ∧ (value <<< 4) &&& 0x0f = 0 ∧
        ((value >>> 4) &&& 0x03) <<< 4 ||| (value <<< 4) >>> 4 = value ∧
        (value &&& 0x0f = 0 → ((value >>> 4) &&& 0x03) <<< 4 = value)) ∧
      ((value >>> 2) >>> 4 = 0 ∧ (value <<< 6) &&& 0x3f = 0 ∧
        ((value >>> 2) &&& 0x0f) <<< 2 ||| (value <<< 6) >>> 6 = value ∧
        (value &&& 0x03 = 0 → ((value >>> 2) &&& 0x0f) <<< 2 = value)) ∧
      value >>> 6 = 0 ∧ value &&& 0x3f = value := by
  revert value
  apply byte_forall
  decide +kernel

section Sextet

variable {value : Byte} (h : value < 64)

include h

/-- The first sextet stands in the first byte. -/
private theorem sextet_inFirst : (value <<< 2) >>> 2 = value ∧ (value <<< 2) &&& 0x03 = 0 :=
  (split_sextet h).1

/-- The second sextet stands in the first byte and in the second. -/
private theorem sextet_inSecond : (value >>> 4) >>> 2 = 0 ∧ (value <<< 4) &&& 0x0f = 0 ∧
    ((value >>> 4) &&& 0x03) <<< 4 ||| (value <<< 4) >>> 4 = value ∧
    (value &&& 0x0f = 0 → ((value >>> 4) &&& 0x03) <<< 4 = value) :=
  (split_sextet h).2.1

/-- The third sextet stands in the second byte and in the third. -/
private theorem sextet_inThird : (value >>> 2) >>> 4 = 0 ∧ (value <<< 6) &&& 0x3f = 0 ∧
    ((value >>> 2) &&& 0x0f) <<< 2 ||| (value <<< 6) >>> 6 = value ∧
    (value &&& 0x03 = 0 → ((value >>> 2) &&& 0x0f) <<< 2 = value) :=
  (split_sextet h).2.2.1

/-- The fourth sextet stands in the third byte. -/
private theorem sextet_inFourth : value >>> 6 = 0 ∧ value &&& 0x3f = value :=
  (split_sextet h).2.2.2

end Sextet

section Sextets

variable {first second third fourth : Byte}

theorem split_first (hfirst : first < 64) (hsecond : second < 64) : (first <<< 2 ||| second >>> 4) >>> 2 = first := by
  rw [UInt8.shiftRight_or, (sextet_inFirst hfirst).1, (sextet_inSecond hsecond).1, UInt8.or_zero]

/-- The bits of the second sextet that the first byte has. -/
theorem and_first (hfirst : first < 64) :
    (first <<< 2 ||| second >>> 4) &&& (0x03 : Byte) = (second >>> 4) &&& (0x03 : Byte) := by
  rw [or_and_distrib, (sextet_inFirst hfirst).2, UInt8.zero_or]

/-- The bits of the third sextet that the second byte has. -/
theorem and_second (hsecond : second < 64) :
    (second <<< 4 ||| third >>> 2) &&& (0x0f : Byte) = (third >>> 2) &&& (0x0f : Byte) := by
  rw [or_and_distrib, (sextet_inSecond hsecond).2.1, UInt8.zero_or]

theorem split_second (hfirst : first < 64) (hsecond : second < 64) (hthird : third < 64) :
    ((first <<< 2 ||| second >>> 4) &&& 0x03) <<< 4 ||| (second <<< 4 ||| third >>> 2) >>> 4 = second := by
  rw [and_first hfirst, UInt8.shiftRight_or, (sextet_inThird hthird).1, UInt8.or_zero,
    (sextet_inSecond hsecond).2.2.1]

theorem split_third (hsecond : second < 64) (hthird : third < 64) (hfourth : fourth < 64) :
    ((second <<< 4 ||| third >>> 2) &&& 0x0f) <<< 2 ||| (third <<< 6 ||| fourth) >>> 6 = third := by
  rw [and_second hsecond, UInt8.shiftRight_or, (sextet_inFourth hfourth).1, UInt8.or_zero,
    (sextet_inThird hthird).2.2.1]

theorem split_fourth (hthird : third < 64) (hfourth : fourth < 64) : (third <<< 6 ||| fourth) &&& 0x3f = fourth := by
  rw [or_and_distrib, (sextet_inThird hthird).2.1, UInt8.zero_or, (sextet_inFourth hfourth).2]

theorem split_secondLast (hfirst : first < 64) (hsecond : second < 64) (hzero : second &&& 0x0f = 0) :
    ((first <<< 2 ||| second >>> 4) &&& 0x03) <<< 4 = second := by
  rw [and_first hfirst, (sextet_inSecond hsecond).2.2.2 hzero]

theorem split_thirdLast (hsecond : second < 64) (hthird : third < 64) (hzero : third &&& 0x03 = 0) :
    ((second <<< 4 ||| third >>> 2) &&& 0x0f) <<< 2 = third := by
  rw [and_second hsecond, (sextet_inThird hthird).2.2.2 hzero]

end Sextets

/-! ### What is accepted -/

/-- The three endings of a quartet: two padding characters, one, or none. -/
theorem decodeBase64Tail_ok {last : Bool} {second third fourth : Byte} {tail : Bytes}
    (h : decodeBase64Tail last second third fourth = .ok tail) :
    (third = 61 ∧ fourth = 61 ∧ last = true ∧ second &&& 0x0f = 0 ∧ tail = []) ∨
      (∃ value, decodeBase64Character third = some value ∧ fourth = 61 ∧ last = true ∧ value &&& 0x03 = 0 ∧
        tail = [(second <<< 4) ||| (value >>> 2)]) ∨
      ∃ value value', decodeBase64Character third = some value ∧ decodeBase64Character fourth = some value' ∧
        tail = [(second <<< 4) ||| (value >>> 2), (value <<< 6) ||| value'] := by
  rw [decodeBase64Tail] at h
  by_cases hthird : third = 61
  · rw [if_pos hthird] at h
    obtain ⟨_, hpadding, h⟩ := bind_eq_ok.1 h
    cases h
    obtain ⟨hfourth, hlast, hzero⟩ := ensure_eq_ok.1 hpadding
    exact Or.inl ⟨hthird, hfourth, hlast, hzero, rfl⟩
  rw [if_neg hthird] at h
  obtain ⟨value, hvalue, h⟩ := bind_eq_ok.1 h
  rw [okOr_eq_ok] at hvalue
  by_cases hfourth : fourth = 61
  · rw [if_pos hfourth] at h
    obtain ⟨_, hpadding, h⟩ := bind_eq_ok.1 h
    cases h
    obtain ⟨hlast, hzero⟩ := ensure_eq_ok.1 hpadding
    exact Or.inr (Or.inl ⟨value, hvalue, hfourth, hlast, hzero, rfl⟩)
  · rw [if_neg hfourth] at h
    obtain ⟨value', hvalue', h⟩ := bind_eq_ok.1 h
    cases h
    exact Or.inr (Or.inr ⟨value, value', hvalue, okOr_eq_ok.1 hvalue', rfl⟩)

/-- Whole quartets that are decoded are what the encoder writes of the bytes that come out. -/
theorem encodeBase64_of_decodeBase64Quartets {encoded output : Bytes} (hlength : encoded.length % 4 = 0)
    (h : decodeBase64Quartets encoded = .ok output) : encodeBase64 output = encoded := by
  fun_induction decodeBase64Quartets encoded generalizing output with
  | case1 first second third fourth rest ih =>
      obtain ⟨_, -, h⟩ := bind_eq_ok.1 h
      obtain ⟨first', hfirst, h⟩ := bind_eq_ok.1 h
      obtain ⟨second', hsecond, h⟩ := bind_eq_ok.1 h
      obtain ⟨tail, htail, h⟩ := bind_eq_ok.1 h
      obtain ⟨more, hmore, h⟩ := bind_eq_ok.1 h
      cases h
      obtain ⟨hfirstLt, hfirstChar⟩ := base64Character_of_decode (okOr_eq_ok.1 hfirst)
      obtain ⟨hsecondLt, hsecondChar⟩ := base64Character_of_decode (okOr_eq_ok.1 hsecond)
      have hrest := ih (by simp only [List.length_cons] at hlength; omega) hmore
      -- padding is followed by nothing
      have hnil (hlast : rest.isEmpty = true) : rest = [] ∧ more = [] := by
        obtain rfl := List.isEmpty_iff.1 hlast
        cases hmore
        exact ⟨rfl, rfl⟩
      rcases decodeBase64Tail_ok htail with ⟨rfl, rfl, hlast, hzero, rfl⟩ | ⟨third', hthird, rfl, hlast, hzero, rfl⟩ |
        ⟨third', fourth', hthird, hfourth, rfl⟩
      · obtain ⟨rfl, rfl⟩ := hnil hlast
        show encodeBase64Inner base64StandardAlphabet true [first' <<< 2 ||| second' >>> 4] = _
        rw [encodeBase64Inner, split_first hfirstLt hsecondLt, split_secondLast hfirstLt hsecondLt hzero, hfirstChar,
          hsecondChar]
        rfl
      · obtain ⟨hthirdLt, hthirdChar⟩ := base64Character_of_decode hthird
        obtain ⟨rfl, rfl⟩ := hnil hlast
        show encodeBase64Inner base64StandardAlphabet true
          [first' <<< 2 ||| second' >>> 4, second' <<< 4 ||| third' >>> 2] = _
        rw [encodeBase64Inner, split_first hfirstLt hsecondLt, split_second hfirstLt hsecondLt hthirdLt,
          split_thirdLast hsecondLt hthirdLt hzero, hfirstChar, hsecondChar, hthirdChar]
        rfl
      · obtain ⟨hthirdLt, hthirdChar⟩ := base64Character_of_decode hthird
        obtain ⟨hfourthLt, hfourthChar⟩ := base64Character_of_decode hfourth
        show encodeBase64Inner base64StandardAlphabet true ((first' <<< 2 ||| second' >>> 4) ::
          (second' <<< 4 ||| third' >>> 2) :: (third' <<< 6 ||| fourth') :: more) = _
        rw [encodeBase64Inner, split_first hfirstLt hsecondLt, split_second hfirstLt hsecondLt hthirdLt,
          split_third hsecondLt hthirdLt hfourthLt, split_fourth hthirdLt hfourthLt, hfirstChar, hsecondChar,
          hthirdChar, hfourthChar, ← encodeBase64, hrest]
        rfl
  | case2 encoded hshort =>
      cases h
      match encoded, hlength, hshort with
      | [], _, _ => rfl
      | first :: second :: third :: fourth :: rest, _, hshort => exact (hshort first second third fourth rest rfl).elim

/-- Decoding accepts exactly what encoding writes. -/
theorem decodeBase64_iff (encoded output : Bytes) :
    decodeBase64 encoded = .ok output ↔ encoded = encodeBase64 output := by
  constructor
  · intro h
    obtain ⟨_, hlength, h⟩ := bind_eq_ok.1 h
    exact (encodeBase64_of_decodeBase64Quartets (ensure_eq_ok.1 hlength) h).symm
  · rintro rfl
    exact decodeBase64_encodeBase64 output

end BareProxy.Der
