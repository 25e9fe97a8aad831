import BareProxy.Base.Bytes

/-!
# Base64

The encoder of `crypto.rs`. An alphabet has 64 characters, and every index is below 64.
-/

namespace BareProxy.Crypto

def base64StandardAlphabet : Bytes := ascii "ABCDEFGHIJKLMNOPQRSTUVWXYZabcdefghijklmnopqrstuvwxyz0123456789+/"

/-- The character that `push_base64_character` pushes. -/
def base64Character (alphabet : Bytes) (value : Byte) : Byte := alphabet.getD value.toNat 0

def encodeBase64Inner (alphabet : Bytes) (padded : Bool) : Bytes → Bytes
  | first :: second :: third :: rest =>
      [base64Character alphabet (first >>> 2), base64Character alphabet (((first &&& 0x03) <<< 4) ||| (second >>> 4)),
        base64Character alphabet (((second &&& 0x0f) <<< 2) ||| (third >>> 6)),
        base64Character alphabet (third &&& 0x3f)] ++ encodeBase64Inner alphabet padded rest
  | [first, second] =>
      [base64Character alphabet (first >>> 2), base64Character alphabet (((first &&& 0x03) <<< 4) ||| (second >>> 4)),
        base64Character alphabet ((second &&& 0x0f) <<< 2)] ++ if padded then ascii "=" else []
  | [first] =>
      [base64Character alphabet (first >>> 2), base64Character alphabet ((first &&& 0x03) <<< 4)] ++
        if padded then ascii "==" else []
  | [] => []

def encodeBase64 (input : Bytes) : Bytes := encodeBase64Inner base64StandardAlphabet true input

example : encodeBase64 (ascii "foobar") = ascii "Zm9vYmFy" ∧ encodeBase64 (ascii "foo!") = ascii "Zm9vIQ==" := by decide

/-! ### Sextets -/

private theorem lt_of_or {left right : Byte} (hleft : left < 64) (hright : right < 64) : left ||| right < 64 := by
  rw [UInt8.lt_iff_toNat_lt, UInt8.toNat_or]
  exact Nat.or_lt_two_pow (n := 6) (UInt8.lt_iff_toNat_lt.1 hleft) (UInt8.lt_iff_toNat_lt.1 hright)

private theorem sextet_bits (b : Byte) :
    (b >>> 2 < 64 ∧ b &&& 0x3f < 64) ∧ ((b &&& 0x03) <<< 4 < 64 ∧ b >>> 4 < 64) ∧
      ((b &&& 0x0f) <<< 2 < 64 ∧ b >>> 6 < 64) ∧
      ((b &&& 0x03) <<< 4) &&& 0x0f = 0 ∧ ((b &&& 0x0f) <<< 2) &&& 0x03 = 0 := by
  revert b
  apply byte_forall
  decide +kernel

theorem sextet_first (first : Byte) : first >>> 2 < 64 := (sextet_bits first).1.1

theorem sextet_second (first second : Byte) : ((first &&& 0x03) <<< 4) ||| (second >>> 4) < 64 :=
  lt_of_or (sextet_bits first).2.1.1 (sextet_bits second).2.1.2

theorem sextet_third (second third : Byte) : ((second &&& 0x0f) <<< 2) ||| (third >>> 6) < 64 :=
  lt_of_or (sextet_bits second).2.2.1.1 (sextet_bits third).2.2.1.2

theorem sextet_fourth (third : Byte) : third &&& 0x3f < 64 := (sextet_bits third).1.2

theorem sextet_secondLast (first : Byte) : (first &&& 0x03) <<< 4 < 64 := (sextet_bits first).2.1.1

theorem sextet_thirdLast (second : Byte) : (second &&& 0x0f) <<< 2 < 64 := (sextet_bits second).2.2.1.1

/-- The bits that the padding stands for are zero. -/
theorem sextet_secondLast_low (first : Byte) : ((first &&& 0x03) <<< 4) &&& 0x0f = 0 := (sextet_bits first).2.2.2.1

theorem sextet_thirdLast_low (second : Byte) : ((second &&& 0x0f) <<< 2) &&& 0x03 = 0 := (sextet_bits second).2.2.2.2

private theorem join_bytes (b : Byte) :
    (b >>> 2) <<< 2 ||| ((b &&& 0x03) <<< 4) >>> 4 = b ∧ (b >>> 4) <<< 4 ||| ((b &&& 0x0f) <<< 2) >>> 2 = b ∧
      (b >>> 6) <<< 6 ||| (b &&& 0x3f) = b ∧ (b >>> 4) >>> 4 = 0 ∧ (b >>> 6) >>> 2 = 0 ∧
      ((b &&& 0x03) <<< 4) <<< 4 = 0 ∧ ((b &&& 0x0f) <<< 2) <<< 6 = 0 := by
  revert b
  apply byte_forall
  decide +kernel

theorem join_first (first second : Byte) :
    ((first >>> 2) <<< 2) ||| ((((first &&& 0x03) <<< 4) ||| (second >>> 4)) >>> 4) = first := by
  rw [UInt8.shiftRight_or, (join_bytes second).2.2.2.1, UInt8.or_zero, (join_bytes first).1]

theorem join_second (first second third : Byte) :
    ((((first &&& 0x03) <<< 4) ||| (second >>> 4)) <<< 4) |||
      ((((second &&& 0x0f) <<< 2) ||| (third >>> 6)) >>> 2) = second := by
  rw [UInt8.shiftLeft_or, UInt8.shiftRight_or, (join_bytes first).2.2.2.2.2.1, (join_bytes third).2.2.2.2.1,
    UInt8.or_zero, UInt8.zero_or, (join_bytes second).2.1]

theorem join_third (second third : Byte) :
    ((((second &&& 0x0f) <<< 2) ||| (third >>> 6)) <<< 6) ||| (third &&& 0x3f) = third := by
  rw [UInt8.shiftLeft_or, (join_bytes second).2.2.2.2.2.2, UInt8.zero_or, (join_bytes third).2.2.1]

theorem join_firstLast (first : Byte) : ((first >>> 2) <<< 2) ||| (((first &&& 0x03) <<< 4) >>> 4) = first :=
  (join_bytes first).1

theorem join_secondLast (first second : Byte) :
    ((((first &&& 0x03) <<< 4) ||| (second >>> 4)) <<< 4) ||| (((second &&& 0x0f) <<< 2) >>> 2) = second := by
  rw [UInt8.shiftLeft_or, (join_bytes first).2.2.2.2.2.1, UInt8.zero_or, (join_bytes second).2.1]

/-! ### The text -/

theorem length_encodeBase64 (input : Bytes) : (encodeBase64 input).length % 4 = 0 := by
  unfold encodeBase64
  fun_induction encodeBase64Inner base64StandardAlphabet true input with
  | case1 first second third rest ih =>
      simp only [List.length_append, List.length_cons, List.length_nil]
      omega
  | case2 first second => simp [ascii]
  | case3 first => simp [ascii]
  | case4 => rfl

/-- What is written of a sextet: a letter, a digit or one of two more characters. -/
theorem base64Character_chars {value : Byte} (h : value < 64) :
    isAsciiAlphanumeric (base64Character base64StandardAlphabet value) = true ∨
      base64Character base64StandardAlphabet value = 43 ∨ base64Character base64StandardAlphabet value = 47 := by
  have hall : ∀ value : Byte, value < 64 → isAsciiAlphanumeric (base64Character base64StandardAlphabet value) = true ∨
      base64Character base64StandardAlphabet value = 43 ∨ base64Character base64StandardAlphabet value = 47 := by
    apply byte_forall
    decide +kernel
  exact hall value h

theorem encodeBase64_chars {input : Bytes} {b : Byte} (hb : b ∈ encodeBase64 input) :
    isAsciiAlphanumeric b = true ∨ b = 43 ∨ b = 47 ∨ b = 61 := by
  have hchar {value : Byte} (h : value < 64) :
      isAsciiAlphanumeric (base64Character base64StandardAlphabet value) = true ∨
        base64Character base64StandardAlphabet value = 43 ∨ base64Character base64StandardAlphabet value = 47 ∨
        base64Character base64StandardAlphabet value = 61 := (base64Character_chars h).imp id (Or.imp id Or.inl)
  have hpad : isAsciiAlphanumeric 61 = true ∨ (61 : Byte) = 43 ∨ (61 : Byte) = 47 ∨ (61 : Byte) = 61 := by decide
  unfold encodeBase64 at hb
  fun_induction encodeBase64Inner base64StandardAlphabet true input with
  | case1 first second third rest ih =>
      rcases List.mem_append.1 hb with hb | hb
      · simp only [List.mem_cons, List.not_mem_nil, or_false] at hb
        rcases hb with rfl | rfl | rfl | rfl
        · exact hchar (sextet_first first)
        · exact hchar (sextet_second first second)
        · exact hchar (sextet_third second third)
        · exact hchar (sextet_fourth third)
      · exact ih hb
  | case2 first second =>
      rw [show (if true = true then ascii "=" else []) = [61] from rfl] at hb
      simp only [List.cons_append, List.nil_append, List.mem_cons, List.not_mem_nil, or_false] at hb
      rcases hb with rfl | rfl | rfl | rfl
      · exact hchar (sextet_first first)
      · exact hchar (sextet_second first second)
      · exact hchar (sextet_thirdLast second)
      · exact hpad
  | case3 first =>
      rw [show (if true = true then ascii "==" else []) = [61, 61] from rfl] at hb
      simp only [List.cons_append, List.nil_append, List.mem_cons, List.not_mem_nil, or_false] at hb
      rcases hb with rfl | rfl | rfl | rfl
      · exact hchar (sextet_first first)
      · exact hchar (sextet_secondLast first)
      · exact hpad
      · exact hpad
  | case4 => cases hb

end BareProxy.Crypto
