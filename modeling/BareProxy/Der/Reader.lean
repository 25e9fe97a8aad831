import BareProxy.Base.Result
import BareProxy.Der.Encode

/-!
# Reading DER

`DerReader` of `asn1.rs`: a byte region and a position in it. No caller looks at a reader after an error, so a failed
read does not hand one back. A `usize` has eight bytes.
-/

namespace BareProxy.Der

inductive DerError where
  | truncated
  | indefiniteLength
  | nonCanonicalLength
  | lengthOverflow
  | highTagNumberUnsupported (tag : Byte)
  | unexpectedTag (expected actual : Byte)
  | invalidInteger
  | invalidObjectIdentifier
  | invalidContextTag (tagNumber : Byte)
  | trailingData (length : Nat)
  | invalidPemLabel
  | pemBeginMissing
  | pemEndMissing
  | pemLabelMismatch
  | invalidPemBase64
  | invalidP256PrivateKey
  | invalidP256PublicKey
  | invalidDnsName
  | invalidCertificate
  | invalidTime
deriving DecidableEq, Repr

def derHighTagNumber : Byte := 0x1f

def usizeMax : Nat := 2 ^ 64 - 1

structure DerValue where
  tag : Byte
  content : Bytes
deriving DecidableEq, Repr

structure DerReader where
  input : Bytes
  position : Nat
deriving DecidableEq, Repr

namespace DerReader

def new (input : Bytes) : DerReader := ⟨input, 0⟩

def isEmpty (reader : DerReader) : Bool := reader.position == reader.input.length

def remaining (reader : DerReader) : Nat := reader.input.length - reader.position

def finish (reader : DerReader) : Except DerError Unit :=
  if reader.position = reader.input.length then .ok ()
  else .error (.trailingData (reader.input.length - reader.position))

/-- The reader this many bytes further on. -/
def advance (reader : DerReader) (count : Nat) : DerReader := { reader with position := reader.position + count }

def takeByte (reader : DerReader) : Except DerError (Byte × DerReader) :=
  match reader.input[reader.position]? with
  | none => .error .truncated
  | some byte => .ok (byte, reader.advance 1)

/-- The loop over the bytes of a long length. -/
def readLengthBytes : Nat → Nat → DerReader → Except DerError (Nat × DerReader)
  | 0, length, reader => .ok (length, reader)
  | count + 1, length, reader => do
      let length := length * 256 + (reader.input.getD reader.position 0).toNat
      ensure (length ≤ usizeMax) .lengthOverflow
      readLengthBytes count length (reader.advance 1)

def readLongLength (count : Nat) (reader : DerReader) : Except DerError (Nat × DerReader) := do
  ensure (count ≠ 0) .indefiniteLength
  ensure (count ≤ 8) .lengthOverflow
  ensure (count ≤ reader.remaining) .truncated
  ensure (reader.input.getD reader.position 0 ≠ 0) .nonCanonicalLength
  let (length, reader) ← readLengthBytes count 0 reader
  ensure (128 ≤ length) .nonCanonicalLength
  return (length, reader)

def readLength (reader : DerReader) : Except DerError (Nat × DerReader) := do
  let (first, reader) ← reader.takeByte
  if first &&& 0x80 = 0 then return (first.toNat, reader)
  else readLongLength (first &&& 0x7f).toNat reader

def readTlv (reader : DerReader) : Except DerError (DerValue × DerReader) := do
  let (tag, reader) ← reader.takeByte
  ensure (tag &&& derHighTagNumber ≠ derHighTagNumber) (.highTagNumberUnsupported tag)
  let (length, reader) ← reader.readLength
  ensure (reader.position + length ≤ usizeMax) .lengthOverflow
  ensure (reader.position + length ≤ reader.input.length) .truncated
  let content := (reader.input.drop reader.position).take length
  return (⟨tag, content⟩, reader.advance length)

def readExpected (reader : DerReader) (expectedTag : Byte) : Except DerError (DerValue × DerReader) := do
  let (value, reader) ← reader.readTlv
  ensure (value.tag = expectedTag) (.unexpectedTag expectedTag value.tag)
  return (value, reader)

/-- The checks on the content of an INTEGER, and its bytes without the zero that keeps the sign. -/
def unsignedContent : Bytes → Except DerError Bytes
  | [] => .error .invalidInteger
  | [first] => do
      ensure (first &&& 0x80 = 0) .invalidInteger
      return [first]
  | first :: second :: more => do
      ensure (first &&& 0x80 = 0) .invalidInteger
      ensure (¬(first = 0 ∧ second &&& 0x80 = 0)) .invalidInteger
      return if first = 0 then second :: more else first :: second :: more

def readIntegerUnsigned (reader : DerReader) : Except DerError (Bytes × DerReader) := do
  let (value, reader) ← reader.readExpected derTagInteger
  let bytes ← unsignedContent value.content
  return (bytes, reader)

end DerReader

def DerValue.reader (value : DerValue) : DerReader := .new value.content

/-! ### What is left to read -/

namespace DerReader

variable {reader : DerReader}

def rest (reader : DerReader) : Bytes := reader.input.drop reader.position

@[simp] theorem rest_new (input : Bytes) : (new input).rest = input := rfl

@[simp] theorem advance_input (reader : DerReader) (count : Nat) : (reader.advance count).input = reader.input := rfl

@[simp] theorem advance_position (reader : DerReader) (count : Nat) :
    (reader.advance count).position = reader.position + count := rfl

theorem advance_advance (reader : DerReader) (first second : Nat) :
    (reader.advance first).advance second = reader.advance (first + second) := by
  rw [advance, advance, advance, Nat.add_assoc]

theorem rest_advance {front more : Bytes} (h : reader.rest = front ++ more) :
    (reader.advance front.length).rest = more := by
  rw [rest] at h
  rw [rest, advance_input, advance_position, ← List.drop_drop, h, List.drop_left]

theorem length_rest (reader : DerReader) : reader.rest.length = reader.remaining := List.length_drop

theorem head_rest {byte : Byte} {more : Bytes} (h : reader.rest = byte :: more) :
    reader.input[reader.position]? = some byte := by
  rw [← List.head?_drop, ← rest, h, List.head?_cons]

theorem takeByte_eq {byte : Byte} {more : Bytes} (h : reader.rest = byte :: more) :
    reader.takeByte = .ok (byte, reader.advance 1) := by
  rw [takeByte, head_rest h]

/-- The loop reads the number that the bytes stand for. -/
theorem readLengthBytes_eq {bytes more : Bytes} {length : Nat} (h : reader.rest = bytes ++ more)
    (hfits : length * 256 ^ bytes.length + ofBe bytes ≤ usizeMax) :
    readLengthBytes bytes.length length reader =
      .ok (length * 256 ^ bytes.length + ofBe bytes, reader.advance bytes.length) := by
  induction bytes generalizing reader length with
  | nil =>
      rw [List.length_nil, pow_zero, Nat.mul_one, ofBe_nil]
      rfl
  | cons byte bytes ih =>
      have hbyte : reader.input.getD reader.position 0 = byte := by
        rw [List.getD_eq_getElem?_getD, head_rest h, Option.getD_some]
      have hvalue : length * 256 ^ (byte :: bytes).length + ofBe (byte :: bytes) =
          (length * 256 + byte.toNat) * 256 ^ bytes.length + ofBe bytes := by
        rw [ofBe_cons, List.length_cons, pow_succ]
        ring
      have hpositive : 0 < 256 ^ bytes.length := by positivity
      rw [hvalue] at hfits ⊢
      have hstep : length * 256 + byte.toNat ≤ usizeMax := by
        have := Nat.le_mul_of_pos_right (length * 256 + byte.toNat) hpositive
        omega
      have hrest : (reader.advance 1).rest = bytes ++ more := @rest_advance reader [byte] _ h
      rw [List.length_cons, readLengthBytes, hbyte]
      show (ensure _ _ >>= fun _ => _) = _
      rw [ensure_of hstep, ok_bind, ih hrest hfits, advance_advance, Nat.add_comm 1]

theorem readLongLength_eq {first : Byte} {others more : Bytes} (hfirst : first ≠ 0) (hcount : others.length + 1 ≤ 8)
    (hlong : 128 ≤ ofBe (first :: others)) (hlength : ofBe (first :: others) ≤ usizeMax)
    (h : reader.rest = (first :: others) ++ more) :
    readLongLength (others.length + 1) reader = .ok (ofBe (first :: others), reader.advance (others.length + 1)) := by
  have hroom : others.length + 1 ≤ reader.remaining := by
    rw [← length_rest, h, List.length_append]
    exact Nat.le_add_right _ _
  have hhead : reader.input.getD reader.position 0 = first := by
    rw [List.getD_eq_getElem?_getD, head_rest h, Option.getD_some]
  have hbytes := @readLengthBytes_eq _ _ _ 0 h (by rw [Nat.zero_mul, Nat.zero_add]; exact hlength)
  rw [Nat.zero_mul, Nat.zero_add, List.length_cons] at hbytes
  rw [readLongLength, ensure_of (Nat.succ_ne_zero _), ok_bind, ensure_of hcount, ok_bind, ensure_of hroom, ok_bind,
    ensure_of (by rw [hhead]; exact hfirst), ok_bind, hbytes, ok_bind]
  show (ensure _ _ >>= fun _ => _) = _
  rw [ensure_of hlong]
  rfl

/-- The reader takes a length apart as it was written. -/
theorem readLength_derLength {length : Nat} {more : Bytes} (hlength : length ≤ usizeMax)
    (h : reader.rest = derLength length ++ more) :
    reader.readLength = .ok (length, reader.advance (derLength length).length) := by
  rw [derLength] at h ⊢
  split at h
  · rename_i hshort
    have hbyte : ∀ n < 128, UInt8.ofNat n &&& 0x80 = 0 ∧ (UInt8.ofNat n).toNat = n := by decide
    rw [if_pos hshort, readLength, takeByte_eq h, ok_bind]
    show (if _ then _ else _) = _
    rw [if_pos (hbyte length hshort).1, (hbyte length hshort).2]
    rfl
  · rename_i hlong
    rw [if_neg hlong]
    dsimp only at h ⊢
    obtain ⟨hvalue, hcount, first, others, hsignificant, hfirst⟩ := significantBytes_length (Nat.not_lt.1 hlong) hlength
    rw [hsignificant, List.length_cons] at h hcount ⊢
    rw [hsignificant] at hvalue
    have hmarker : ∀ n ≤ 8, (0x80 ||| UInt8.ofNat n) &&& 0x80 ≠ 0 ∧ ((0x80 ||| UInt8.ofNat n) &&& 0x7f).toNat = n := by
      decide
    have hrest : (reader.advance 1).rest = (first :: others) ++ more := @rest_advance reader [_] _ h
    rw [readLength, takeByte_eq h, ok_bind]
    show (if _ then _ else _) = _
    rw [if_neg (hmarker _ hcount).1, (hmarker _ hcount).2,
      readLongLength_eq hfirst hcount (by rw [hvalue]; exact Nat.not_lt.1 hlong) (by rw [hvalue]; exact hlength) hrest,
      hvalue, advance_advance, List.length_cons, Nat.add_comm 1]

/-- A wrapped value is read back, and the reader stops right after it. -/
theorem readTlv_derWrap {tag : Byte} {content more : Bytes} (htag : tag &&& derHighTagNumber ≠ derHighTagNumber)
    (hinput : reader.input.length ≤ usizeMax) (h : reader.rest = derWrap tag content ++ more) :
    reader.readTlv = .ok (⟨tag, content⟩, reader.advance (derWrap tag content).length) := by
  have hremaining : (derWrap tag content ++ more).length = reader.input.length - reader.position := by
    rw [← h, length_rest, remaining]
  rw [derWrap, List.cons_append, List.append_assoc] at h
  have hlength : (reader.advance 1).rest = derLength content.length ++ (content ++ more) := @rest_advance reader [_] _ h
  have hcontent := rest_advance hlength
  rw [advance_advance] at hcontent
  simp only [derWrap, List.cons_append, List.length_cons, List.length_append] at hremaining
  have hread := readLength_derLength (by omega) hlength
  rw [advance_advance] at hread
  have hend : (reader.advance (1 + (derLength content.length).length)).position + content.length ≤
      (reader.advance (1 + (derLength content.length).length)).input.length := by
    rw [advance_input, advance_position]
    omega
  rw [readTlv, takeByte_eq h, ok_bind]
  show (ensure _ _ >>= fun _ => _) = _
  rw [ensure_of htag, ok_bind, hread, ok_bind]
  show (ensure _ _ >>= fun _ => _) = _
  rw [ensure_of (hend.trans hinput), ok_bind, ensure_of hend, ok_bind, ← rest, hcontent, List.take_left, advance_advance,
    derWrap, List.length_cons, List.length_append, Nat.add_comm 1, Nat.add_right_comm]
  exact pure_eq_ok _

theorem readExpected_derWrap {tag : Byte} {content more : Bytes} (htag : tag &&& derHighTagNumber ≠ derHighTagNumber)
    (hinput : reader.input.length ≤ usizeMax) (h : reader.rest = derWrap tag content ++ more) :
    reader.readExpected tag = .ok (⟨tag, content⟩, reader.advance (derWrap tag content).length) := by
  rw [readExpected, readTlv_derWrap htag hinput h, ok_bind]
  show (ensure _ _ >>= fun _ => _) = _
  rw [ensure_of rfl]
  rfl

theorem finish_of_rest_nil (hposition : reader.position ≤ reader.input.length) (h : reader.rest = []) :
    reader.finish = .ok () := by
  have := List.drop_eq_nil_iff.1 h
  exact if_pos (by omega)

end DerReader

/-! ### Integers -/

/-- The bytes of a number without leading zeroes, a single zero for zero. -/
def significantBytes (value : Bytes) : Bytes :=
  match value.dropWhile (· = 0) with
  | [] => [0]
  | first :: more => first :: more

theorem ofBe_significantBytes (value : Bytes) : ofBe (significantBytes value) = ofBe value := by
  rw [← ofBe_dropWhile value, significantBytes]
  split
  · rename_i hzero
    rw [hzero]
    rfl
  · rename_i hvalue
    rw [hvalue]

theorem length_significantBytes {value : Bytes} (h : value ≠ []) : (significantBytes value).length ≤ value.length := by
  rw [significantBytes]
  split
  · exact List.length_pos_iff.2 h
  · rename_i hvalue
    rw [← hvalue]
    exact length_dropWhile_le value

/-- A number without leading zeroes passes the checks, whether or not it needs a zero in front. -/
theorem derIntegerUnsigned_eq (value : Bytes) :
    ∃ content, derIntegerUnsigned value = derWrap derTagInteger content ∧
      DerReader.unsignedContent content = .ok (significantBytes value) := by
  refine ⟨_, rfl, ?_⟩
  have hhead {first : Byte} {more : Bytes} : value.dropWhile (· = 0) = first :: more → first ≠ 0 := ne_zero_of_dropWhile
  rw [significantBytes]
  generalize value.dropWhile (· = 0) = significant at hhead
  match significant with
  | [] => rfl
  | first :: others =>
      have hfirst : first ≠ 0 := hhead rfl
      by_cases htop : first &&& 0x80 = 0
      · show DerReader.unsignedContent (if _ then _ else _) = _
        rw [if_neg (not_not.2 htop)]
        match others with
        | [] =>
            rw [DerReader.unsignedContent, ensure_of htop]
            rfl
        | second :: others =>
            rw [DerReader.unsignedContent, ensure_of htop, ok_bind, ensure_of (not_and_of_not_left _ hfirst), ok_bind,
              if_neg hfirst]
            rfl
      · show DerReader.unsignedContent (if _ then _ else _) = _
        rw [if_pos htop, DerReader.unsignedContent, ensure_of (by decide), ok_bind,
          ensure_of (not_and_of_not_right _ htop), ok_bind, if_pos rfl]
        rfl

/-- An integer is read back without its leading zeroes. -/
theorem DerReader.readIntegerUnsigned_derIntegerUnsigned {reader : DerReader} {value more : Bytes}
    (hinput : reader.input.length ≤ usizeMax) (h : reader.rest = derIntegerUnsigned value ++ more) :
    reader.readIntegerUnsigned =
      .ok (significantBytes value, reader.advance (derIntegerUnsigned value).length) := by
  obtain ⟨content, hcontent, hunsigned⟩ := derIntegerUnsigned_eq value
  rw [hcontent] at h ⊢
  rw [readIntegerUnsigned, readExpected_derWrap (by decide) hinput h, ok_bind]
  dsimp only
  rw [hunsigned]
  rfl

end BareProxy.Der
