import BareProxy.Der.Values

/-!
# Canonical values

DER has one encoding for each value. The reader takes back what the encoders write, and what it accepts anywhere in a
region is what they write.
-/

namespace BareProxy.Der

/-! ### Integers -/

/-- Bytes that do not start with a zero are significant. -/
theorem dropWhile_zero_cons {first : Byte} (h : first ≠ 0) (more : Bytes) :
    (first :: more).dropWhile (· = 0) = first :: more := by
  rw [List.dropWhile_cons, decide_eq_false h]
  rfl

theorem significantBytes_cons {first : Byte} (h : first ≠ 0) (more : Bytes) :
    significantBytes (first :: more) = first :: more := by
  rw [significantBytes, dropWhile_zero_cons h]

/-- The content that passes the checks is the one that the encoder writes, and what is returned has no leading zeroes. -/
theorem derIntegerUnsigned_of_unsignedContent {content bytes : Bytes}
    (h : DerReader.unsignedContent content = .ok bytes) :
    derIntegerUnsigned bytes = derWrap derTagInteger content ∧ significantBytes bytes = bytes := by
  match content with
  | [] => cases h
  | [first] =>
      obtain ⟨_, hsign, h⟩ := bind_eq_ok.1 h
      cases h
      rw [ensure_eq_ok] at hsign
      by_cases hzero : first = 0
      · rw [hzero]
        exact ⟨rfl, rfl⟩
      · refine ⟨?_, significantBytes_cons hzero []⟩
        rw [derIntegerUnsigned, dropWhile_zero_cons hzero]
        dsimp only
        rw [if_neg (not_not.2 hsign)]
  | first :: second :: more =>
      obtain ⟨_, hsign, h⟩ := bind_eq_ok.1 h
      obtain ⟨_, hminimal, h⟩ := bind_eq_ok.1 h
      rw [ensure_eq_ok] at hsign hminimal
      by_cases hzero : first = 0
      · -- the zero stands there for the sign of the byte after it
        have htop : second &&& 0x80 ≠ 0 := fun htop => hminimal ⟨hzero, htop⟩
        have hsecond : second ≠ 0 := by
          rintro rfl
          exact htop (by decide)
        rw [if_pos hzero] at h
        cases h
        refine ⟨?_, significantBytes_cons hsecond more⟩
        rw [derIntegerUnsigned, dropWhile_zero_cons hsecond, hzero]
        dsimp only
        rw [if_pos htop]
      · rw [if_neg hzero] at h
        cases h
        refine ⟨?_, significantBytes_cons hzero (second :: more)⟩
        rw [derIntegerUnsigned, dropWhile_zero_cons hzero]
        dsimp only
        rw [if_neg (not_not.2 hsign)]

namespace DerReader

variable {reader reader' : DerReader}

/-- An integer was read from the encoding of the bytes that were returned. -/
theorem readIntegerUnsigned_ok {bytes : Bytes} (h : reader.readIntegerUnsigned = .ok (bytes, reader')) :
    reader.rest = derIntegerUnsigned bytes ++ reader'.rest ∧
      reader' = reader.advance (derIntegerUnsigned bytes).length ∧ significantBytes bytes = bytes := by
  obtain ⟨⟨value, reader₁⟩, hread, h⟩ := bind_eq_ok.1 h
  obtain ⟨bytes', hbytes, h⟩ := bind_eq_ok.1 h
  cases h
  obtain ⟨htag, htlv⟩ := readExpected_ok hread
  obtain ⟨hrest, hreader, -, -, -⟩ := readTlv_ok htlv
  obtain ⟨hinteger, hsignificant⟩ := derIntegerUnsigned_of_unsignedContent hbytes
  have hencode : value.encode = derIntegerUnsigned bytes := by rw [DerValue.encode, htag, hinteger]
  rw [hencode] at hrest hreader
  exact ⟨hrest, hreader, hsignificant⟩

/-! ### Positions -/

/-- The bytes between two positions. -/
def between (reader reader' : DerReader) : Bytes :=
  (reader.input.drop reader.position).take (reader'.position - reader.position)

theorem between_advance {bytes more : Bytes} (h : reader.rest = bytes ++ more) :
    reader.between (reader.advance bytes.length) = bytes := by
  rw [between, ← rest, h, advance_position, Nat.add_sub_cancel_left, List.take_left]

/-- A reader that stands in front of some bytes. -/
def before (front bytes : Bytes) : DerReader := ⟨front ++ bytes, front.length⟩

theorem rest_before (front bytes : Bytes) : (before front bytes).rest = bytes := List.drop_left

theorem advance_before (front bytes more : Bytes) :
    (before front (bytes ++ more)).advance bytes.length = before (front ++ bytes) more := by
  rw [before, before, advance, List.append_assoc, List.length_append]

/-- As many values as there should be, one after the other. -/
def readTlvs : Nat → DerReader → Except DerError (List DerValue × DerReader)
  | 0, reader => .ok ([], reader)
  | count + 1, reader => do
      let (value, reader) ← reader.readTlv
      let (values, reader) ← readTlvs count reader
      return (value :: values, reader)

/-- Values that were written one after the other are read in that order. -/
theorem readTlvs_encode {values : List DerValue} {more : Bytes}
    (hlow : ∀ value ∈ values, value.tag &&& derHighTagNumber ≠ derHighTagNumber)
    (h : HasRest reader (values.flatMap DerValue.encode ++ more)) :
    ∃ reader', readTlvs values.length reader = .ok (values, reader') ∧ HasRest reader' more := by
  induction values generalizing reader with
  | nil => exact ⟨reader, rfl, h⟩
  | cons value values ih =>
      rw [List.flatMap_cons, List.append_assoc] at h
      have hread : reader.readTlv = .ok (value, reader.advance value.encode.length) :=
        readTlv_derWrap (hlow value List.mem_cons_self) h.fits h.rest
      obtain ⟨reader', hvalues, hrest⟩ := ih (fun value hvalue => hlow value (List.mem_cons_of_mem _ hvalue)) h.advance
      refine ⟨reader', ?_, hrest⟩
      rw [List.length_cons, readTlvs, hread, ok_bind]
      dsimp only
      rw [hvalues]
      rfl

end DerReader

/-! ### The round trip -/

open DerReader in
/-- Reading takes back what was written, whatever stands around it; and whatever is accepted is the encoding of the
value that is returned. -/
theorem der_canonical :
    (∀ (tag : Byte) (content front more : Bytes), tag &&& derHighTagNumber ≠ derHighTagNumber →
      (front ++ (derWrap tag content ++ more)).length ≤ usizeMax →
      (before front (derWrap tag content ++ more)).readTlv =
        .ok (⟨tag, content⟩, before (front ++ derWrap tag content) more)) ∧
    (∀ (reader reader' : DerReader) (value : DerValue), reader.readTlv = .ok (value, reader') →
      reader'.input = reader.input ∧ reader.position < reader'.position ∧ reader'.position ≤ reader.input.length ∧
        value.tag &&& derHighTagNumber ≠ derHighTagNumber ∧
        reader.between reader' = derWrap value.tag value.content) ∧
    (∀ values : List DerValue, (∀ value ∈ values, value.tag &&& derHighTagNumber ≠ derHighTagNumber) →
      (derSequence (values.map DerValue.encode)).length ≤ usizeMax →
      ∃ sequence outer inner, (DerReader.new (derSequence (values.map DerValue.encode))).readExpected derTagSequence =
          .ok (sequence, outer) ∧ outer.isEmpty = true ∧
        readTlvs values.length sequence.reader = .ok (values, inner) ∧ inner.isEmpty = true) ∧
    (∀ value front more : Bytes, (front ++ (derIntegerUnsigned value ++ more)).length ≤ usizeMax →
      (before front (derIntegerUnsigned value ++ more)).readIntegerUnsigned =
        .ok (significantBytes value, before (front ++ derIntegerUnsigned value) more)) ∧
    (∀ (reader reader' : DerReader) (bytes : Bytes), reader.readIntegerUnsigned = .ok (bytes, reader') →
      reader.between reader' = derIntegerUnsigned bytes ∧ significantBytes bytes = bytes) := by
  refine ⟨?_, ?_, ?_, ?_, ?_⟩
  · intro tag content front more htag hfits
    rw [readTlv_derWrap htag hfits (rest_before front _), advance_before]
  · intro reader reader' value h
    obtain ⟨hrest, hreader, htag, -, hroom⟩ := readTlv_ok h
    have hposition := congrArg DerReader.position hreader
    rw [advance_position] at hposition
    have hinput := congrArg DerReader.input hreader
    refine ⟨hinput, ?_, hinput ▸ hroom, htag, ?_⟩
    · rw [hposition, DerValue.encode, derWrap, List.length_cons]
      omega
    · rw [hreader, between_advance hrest, DerValue.encode]
  · intro values hlow hfits
    have hwhole := HasRest.new hfits
    rw [← List.append_nil (derSequence _)] at hwhole
    obtain ⟨outer, hsequence, houter, hcontent⟩ := hwhole.readExpected (by decide)
    rw [List.append_nil] at hsequence
    have hvalues : HasRest (new (values.map DerValue.encode).flatten) (values.flatMap DerValue.encode ++ []) := by
      rwa [List.append_nil, List.flatMap_def]
    obtain ⟨inner, hread, hinner⟩ := readTlvs_encode hlow hvalues
    exact ⟨_, outer, inner, hsequence, (isEmpty_iff houter.position).2 houter.rest, hread,
      (isEmpty_iff hinner.position).2 hinner.rest⟩
  · intro value front more hfits
    rw [readIntegerUnsigned_derIntegerUnsigned hfits (rest_before front _), advance_before]
  · intro reader reader' bytes h
    obtain ⟨hrest, hreader, hsignificant⟩ := readIntegerUnsigned_ok h
    exact ⟨by rw [hreader, between_advance hrest], hsignificant⟩

/-- A sequence of an octet string and an integer whose sign needs a zero. -/
theorem der_canonical_sequence :
    ∃ sequence outer inner, (DerReader.new (derSequence [derOctetString [7], derWrap derTagInteger [0, 0x80]])).readExpected
        derTagSequence = .ok (sequence, outer) ∧ outer.isEmpty = true ∧
      sequence.reader.readTlvs 2 = .ok ([⟨derTagOctetString, [7]⟩, ⟨derTagInteger, [0, 0x80]⟩], inner) ∧
        inner.isEmpty = true :=
  der_canonical.2.2.1 [⟨derTagOctetString, [7]⟩, ⟨derTagInteger, [0, 0x80]⟩] (by decide) (by decide)

end BareProxy.Der
