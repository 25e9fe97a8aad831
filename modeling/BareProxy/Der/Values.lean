import BareProxy.Der.Reader

/-!
# Values in DER

The encoders of `asn1.rs` for whole structures, and the reader seen from its results: what it accepted is exactly what
the encoder writes of the value that it returned. `expect` on an encoder takes the proof that it does not fail.
-/

namespace BareProxy.Der

def derTagBitString : Byte := 0x03

def derTagOctetString : Byte := 0x04

def derTagObjectIdentifier : Byte := 0x06

def derTagSet : Byte := 0x31

def derOctetString (bytes : Bytes) : Bytes := derWrap derTagOctetString bytes

/-- No bits of the last byte are unused. -/
def derBitString (bytes : Bytes) : Bytes := derWrap derTagBitString (0 :: bytes)

def derContextSpecific (tagNumber : Byte) (constructed : Bool) (content : Bytes) : Except DerError Bytes :=
  if tagNumber ≥ derHighTagNumber then .error (.invalidContextTag tagNumber)
  else .ok (derWrap (if constructed then 0x80 ||| tagNumber ||| 0x20 else 0x80 ||| tagNumber) content)

/-- The elements of a set stand in the order of their encodings. -/
def derSetContent (elements : List Bytes) : Bytes := (elements.mergeSort fun left right => decide (left ≤ right)).flatten

def derSet (elements : List Bytes) : Bytes := derWrap derTagSet (derSetContent elements)

/-! ### Object identifiers -/

/-- The digits of `push_base128`, filled into a buffer of this many bytes from its end. -/
def base128Digits : Nat → Nat → Bytes
  | 0, _ => []
  | index + 1, value =>
      if value / 128 = 0 then [UInt8.ofNat (value % 128)]
      else base128Digits index (value / 128) ++ [UInt8.ofNat (value % 128)]

/-- All digits but the last carry the high bit. -/
def base128 (value : Nat) : Bytes :=
  let bytes := base128Digits 10 value
  bytes.dropLast.map (· ||| 0x80) ++ bytes.getLast?.toList

def derObjectIdentifier (arcs : List Nat) : Except DerError Bytes :=
  match arcs with
  | first :: second :: more =>
      if first > 2 ∨ (first < 2 ∧ second > 39) then .error .invalidObjectIdentifier
      else if first = 2 ∧ second + 80 > u64Max then .error .invalidObjectIdentifier
      else
        let firstSubidentifier := if first < 2 then first * 40 + second else second + 80
        .ok (derWrap derTagObjectIdentifier (base128 firstSubidentifier ++ more.flatMap base128))
  | _ => .error .invalidObjectIdentifier

/-- `expect`, on a result that is known to be one. -/
def expectOk {ε α : Type} : (result : Except ε α) → result.isOk = true → α
  | .ok a, _ => a

theorem expectOk_eq {ε α : Type} {result : Except ε α} {a : α} (h : result = .ok a) (hok : result.isOk = true) :
    expectOk result hok = a := by
  subst h
  rfl

theorem derContextSpecific_eq {tagNumber : Byte} (h : tagNumber < derHighTagNumber) (constructed : Bool)
    (content : Bytes) : derContextSpecific tagNumber constructed content =
      .ok (derWrap (if constructed then 0x80 ||| tagNumber ||| 0x20 else 0x80 ||| tagNumber) content) :=
  if_neg (UInt8.not_le.2 h)

theorem derContextSpecific_isOk {tagNumber : Byte} (h : tagNumber < derHighTagNumber) (constructed : Bool)
    (content : Bytes) : (derContextSpecific tagNumber constructed content).isOk = true := by
  rw [derContextSpecific_eq h]
  rfl

theorem expectOk_derContextSpecific (tagNumber : Byte) (h : tagNumber < derHighTagNumber) (constructed : Bool)
    (content : Bytes) (hok : (derContextSpecific tagNumber constructed content).isOk = true) :
    expectOk (derContextSpecific tagNumber constructed content) hok =
      derWrap (if constructed then 0x80 ||| tagNumber ||| 0x20 else 0x80 ||| tagNumber) content :=
  expectOk_eq (derContextSpecific_eq h constructed content) hok

def oidEcPublicKey : List Nat := [1, 2, 840, 10045, 2, 1]

def oidSecp256r1 : List Nat := [1, 2, 840, 10045, 3, 1, 7]

def oidExtensionRequest : List Nat := [1, 2, 840, 113549, 1, 9, 14]

def oidSubjectAltName : List Nat := [2, 5, 29, 17]

def oidEcdsaWithSha256 : List Nat := [1, 2, 840, 10045, 4, 3, 2]

def oidEcPublicKeyContent : Bytes := [0x2a, 0x86, 0x48, 0xce, 0x3d, 0x02, 0x01]

def oidSecp256r1Content : Bytes := [0x2a, 0x86, 0x48, 0xce, 0x3d, 0x03, 0x01, 0x07]

def oidSubjectAltNameContent : Bytes := [0x55, 0x1d, 0x11]

theorem derObjectIdentifier_oidSecp256r1_isOk : (derObjectIdentifier oidSecp256r1).isOk = true := by decide

/-- The contents that the parsers compare with are the encoded identifiers. -/
theorem derObjectIdentifier_contents :
    derObjectIdentifier oidEcPublicKey = .ok (derWrap derTagObjectIdentifier oidEcPublicKeyContent) ∧
      derObjectIdentifier oidSecp256r1 = .ok (derWrap derTagObjectIdentifier oidSecp256r1Content) ∧
      derObjectIdentifier oidSubjectAltName = .ok (derWrap derTagObjectIdentifier oidSubjectAltNameContent) := by
  decide

def DerValue.encode (value : DerValue) : Bytes := derWrap value.tag value.content

/-! ### What the reader accepts -/

/-- A length of several bytes is written as it was read. -/
theorem derLength_ofBe {first : Byte} {others : Bytes} (hfirst : first ≠ 0) (hcount : (first :: others).length ≤ 8)
    (hlong : 128 ≤ ofBe (first :: others)) :
    derLength (ofBe (first :: others)) =
      (0x80 ||| UInt8.ofNat (first :: others).length) :: first :: others := by
  have hvalue : ofBe (beBytes 8 (ofBe (first :: others))) = ofBe (first :: others) := by
    rw [ofBe_beBytes]
    exact Nat.mod_eq_of_lt ((ofBe_lt _).trans_le (Nat.pow_le_pow_right (by decide) hcount))
  have hpadded : beBytes 8 (ofBe (first :: others)) =
      List.replicate (8 - (first :: others).length) 0 ++ first :: others := by
    apply ofBe_injective
    · rw [length_beBytes, List.length_append, List.length_replicate]
      omega
    · rw [ofBe_replicate_zero, hvalue]
  have hzero : ∀ b ∈ List.replicate (8 - (first :: others).length) (0 : Byte), decide (b = 0) = true := by
    intro b hb
    rw [List.eq_of_mem_replicate hb]
    rfl
  have hsignificant : (beBytes 8 (ofBe (first :: others))).dropWhile (· = 0) = first :: others := by
    rw [hpadded, List.dropWhile_append_of_pos hzero, List.dropWhile_cons, decide_eq_false hfirst]
    rfl
  rw [derLength, if_neg (Nat.not_lt.2 hlong), hsignificant]

namespace DerReader

variable {reader reader' : DerReader}

theorem takeByte_ok {byte : Byte} (h : reader.takeByte = .ok (byte, reader')) :
    reader.rest = byte :: reader'.rest ∧ reader' = reader.advance 1 := by
  rw [takeByte] at h
  split at h
  · cases h
  · rename_i head hhead
    cases h
    have hlt := (List.getElem?_eq_some_iff.1 hhead).1
    refine ⟨?_, rfl⟩
    rw [rest, rest, List.drop_eq_getElem_cons hlt, (List.getElem?_eq_some_iff.1 hhead).2]
    rfl

theorem readLengthBytes_ok {count start length : Nat} (hroom : count ≤ reader.remaining)
    (h : readLengthBytes count start reader = .ok (length, reader')) :
    ∃ bytes, bytes.length = count ∧ reader.rest = bytes ++ reader'.rest ∧ reader' = reader.advance count ∧
      length = start * 256 ^ count + ofBe bytes := by
  induction count generalizing reader start with
  | zero =>
      cases h
      exact ⟨[], rfl, rfl, rfl, by rw [pow_zero, Nat.mul_one, ofBe_nil, Nat.add_zero]⟩
  | succ count ih =>
      have hne : reader.rest ≠ [] := by
        rw [← List.length_pos_iff, length_rest]
        omega
      obtain ⟨byte, more, hrest⟩ := List.exists_cons_of_ne_nil hne
      have hbyte : reader.input.getD reader.position 0 = byte := by
        rw [List.getD_eq_getElem?_getD, head_rest hrest, Option.getD_some]
      have hmore : (reader.advance 1).rest = more := @rest_advance reader [byte] _ hrest
      rw [readLengthBytes, hbyte] at h
      obtain ⟨_, -, h⟩ := bind_eq_ok.1 h
      have hroom' : count ≤ (reader.advance 1).remaining := by
        rw [remaining, advance_input, advance_position]
        rw [remaining] at hroom
        omega
      obtain ⟨bytes, hlength, hbytes, hreader, hvalue⟩ := ih hroom' h
      refine ⟨byte :: bytes, by rw [List.length_cons, hlength], ?_, ?_, ?_⟩
      · rw [hrest, ← hmore, hbytes, List.cons_append]
      · rw [hreader, advance_advance, Nat.add_comm 1]
      · rw [hvalue, ofBe_cons, hlength, pow_succ]
        ring

/-- A length was read from its only encoding. -/
theorem readLength_ok {length : Nat} (h : reader.readLength = .ok (length, reader')) :
    reader.rest = derLength length ++ reader'.rest ∧ reader' = reader.advance (derLength length).length := by
  have hmarker : ∀ b : Byte, (b &&& 0x80 = 0 → b.toNat < 128) ∧
      (b &&& 0x80 ≠ 0 → 0x80 ||| UInt8.ofNat (b &&& 0x7f).toNat = b) := by
    apply byte_forall
    decide +kernel
  obtain ⟨⟨first, reader₁⟩, hfirst, h⟩ := bind_eq_ok.1 h
  obtain ⟨hshort, hfirstByte⟩ := hmarker first
  obtain ⟨hrest, rfl⟩ := takeByte_ok hfirst
  dsimp only at h
  split at h
  · rename_i hbit
    cases h
    rw [derLength, if_pos (hshort hbit), UInt8.ofNat_toNat]
    exact ⟨hrest, rfl⟩
  · rename_i hbit
    obtain ⟨_, hcount, h⟩ := bind_eq_ok.1 h
    obtain ⟨_, height, h⟩ := bind_eq_ok.1 h
    obtain ⟨_, hroom, h⟩ := bind_eq_ok.1 h
    obtain ⟨_, hhead, h⟩ := bind_eq_ok.1 h
    obtain ⟨⟨value, reader₂⟩, hbytes, h⟩ := bind_eq_ok.1 h
    obtain ⟨_, hlong, h⟩ := bind_eq_ok.1 h
    cases h
    rw [ensure_eq_ok] at hcount height hroom hhead hlong
    obtain ⟨bytes, hlength, hread, hreader, hvalue⟩ := readLengthBytes_ok hroom hbytes
    rw [Nat.zero_mul, Nat.zero_add] at hvalue
    have hne : bytes ≠ [] := by
      rw [← List.length_pos_iff]
      omega
    obtain ⟨leading, others, rfl⟩ := List.exists_cons_of_ne_nil hne
    have hleading : leading ≠ 0 := by
      rwa [List.getD_eq_getElem?_getD, head_rest hread, Option.getD_some] at hhead
    have hencoded := @derLength_ofBe leading others hleading (by omega) (by omega)
    rw [hvalue, hencoded, hlength, hfirstByte hbit]
    refine ⟨by rw [hrest, hread]; rfl, ?_⟩
    rw [hreader, advance_advance, List.length_cons, hlength, Nat.add_comm 1]

/-- A value was read from its only encoding. -/
theorem readTlv_ok {value : DerValue} (h : reader.readTlv = .ok (value, reader')) :
    reader.rest = value.encode ++ reader'.rest ∧ reader' = reader.advance value.encode.length ∧
      value.tag &&& derHighTagNumber ≠ derHighTagNumber ∧ reader'.position ≤ usizeMax ∧
      reader'.position ≤ reader'.input.length := by
  obtain ⟨⟨tag, reader₁⟩, htag, h⟩ := bind_eq_ok.1 h
  obtain ⟨hrest, rfl⟩ := takeByte_ok htag
  obtain ⟨_, hlow, h⟩ := bind_eq_ok.1 h
  obtain ⟨⟨length, reader₂⟩, hlength, h⟩ := bind_eq_ok.1 h
  obtain ⟨hread, rfl⟩ := readLength_ok hlength
  obtain ⟨_, hfits, h⟩ := bind_eq_ok.1 h
  obtain ⟨_, hroom, h⟩ := bind_eq_ok.1 h
  cases h
  rw [ensure_eq_ok] at hlow hfits hroom
  rw [← rest]
  generalize hreader₂ : (reader.advance 1).advance (derLength length).length = reader₂ at hread hroom hfits
  have hcontent : (reader₂.rest.take length).length = length := by
    rw [List.length_take, length_rest, remaining]
    omega
  have hsplit : reader₂.rest = reader₂.rest.take length ++ (reader₂.advance length).rest := by
    rw [rest, rest, advance_input, advance_position, ← List.drop_drop, List.take_append_drop]
  have hencode : DerValue.encode ⟨tag, reader₂.rest.take length⟩ =
      tag :: (derLength length ++ reader₂.rest.take length) := by
    rw [DerValue.encode, derWrap, hcontent]
  refine ⟨?_, ?_, hlow, hfits, hroom⟩
  · rw [hencode, hrest, hread, List.cons_append, List.append_assoc, ← hsplit]
  · rw [hencode, ← hreader₂, advance_advance, advance_advance, List.length_cons, List.length_append, hreader₂, hcontent]
    congr 1
    omega

theorem readExpected_ok {tag : Byte} {value : DerValue} (h : reader.readExpected tag = .ok (value, reader')) :
    value.tag = tag ∧ reader.readTlv = .ok (value, reader') := by
  obtain ⟨⟨value', reader₁⟩, hread, h⟩ := bind_eq_ok.1 h
  obtain ⟨_, htag, h⟩ := bind_eq_ok.1 h
  cases h
  exact ⟨ensure_eq_ok.1 htag, hread⟩

theorem rest_of_finish {u : Unit} (h : reader.finish = .ok u) : reader.rest = [] := by
  rw [finish] at h
  split at h
  · rename_i hend
    rw [rest, hend, List.drop_length]
  · cases h

/-- A region that was read as one value with nothing behind it is the encoding of that value. -/
theorem eq_encode_of_readExpected {input : Bytes} {tag : Byte} {value : DerValue} {u : Unit}
    (h : (new input).readExpected tag = .ok (value, reader')) (hfinish : reader'.finish = .ok u) :
    input = derWrap tag value.content ∧ input.length ≤ usizeMax := by
  obtain ⟨htag, hread⟩ := readExpected_ok h
  obtain ⟨hrest, hreader, -, hfits, -⟩ := readTlv_ok hread
  rw [rest_of_finish hfinish, List.append_nil, rest_new, DerValue.encode, htag] at hrest
  refine ⟨hrest, ?_⟩
  rw [hreader, advance_position, DerValue.encode, htag, ← hrest] at hfits
  exact (Nat.le_add_left _ _).trans hfits

/-- What a reader over a region that fits into memory has still to read. -/
structure HasRest (reader : DerReader) (bytes : Bytes) : Prop where
  rest : reader.rest = bytes
  fits : reader.input.length ≤ usizeMax
  position : reader.position ≤ reader.input.length

namespace HasRest

variable {tag : Byte} {content more : Bytes}

theorem new {bytes : Bytes} (h : bytes.length ≤ usizeMax) : HasRest (.new bytes) bytes := ⟨rfl, h, Nat.zero_le _⟩

theorem advance {bytes : Bytes} (h : HasRest reader (bytes ++ more)) : HasRest (reader.advance bytes.length) more where
  rest := rest_advance h.rest
  fits := h.fits
  position := by
    have hlength := congrArg List.length h.rest
    have hposition := h.position
    rw [length_rest, remaining, List.length_append] at hlength
    rw [advance_position, advance_input]
    omega

theorem finish (h : HasRest reader []) : reader.finish = .ok () := finish_of_rest_nil h.position h.rest

/-- A value that comes next is read, and its content fits into memory too. -/
theorem readExpected (h : HasRest reader (derWrap tag content ++ more))
    (htag : tag &&& derHighTagNumber ≠ derHighTagNumber) :
    ∃ reader', reader.readExpected tag = .ok (⟨tag, content⟩, reader') ∧ HasRest reader' more ∧
      HasRest (.new content) content := by
  refine ⟨_, readExpected_derWrap htag h.fits h.rest, h.advance, .new ?_⟩
  have hlength := congrArg List.length h.rest
  have hcontent := length_le_derWrap tag content
  have hfits := h.fits
  rw [length_rest, remaining, List.length_append] at hlength
  omega

/-- The last value of a region. -/
theorem readLast (h : HasRest reader (derWrap tag content)) (htag : tag &&& derHighTagNumber ≠ derHighTagNumber) :
    ∃ reader', reader.readExpected tag = .ok (⟨tag, content⟩, reader') ∧ reader'.finish = .ok () ∧
      HasRest (.new content) content := by
  rw [← List.append_nil (derWrap tag content)] at h
  obtain ⟨reader', hread, hend, hcontent⟩ := h.readExpected htag
  exact ⟨reader', hread, hend.finish, hcontent⟩

theorem readIntegerUnsigned {value : Bytes} (h : HasRest reader (derIntegerUnsigned value ++ more)) :
    ∃ reader', reader.readIntegerUnsigned = .ok (significantBytes value, reader') ∧ HasRest reader' more :=
  ⟨_, readIntegerUnsigned_derIntegerUnsigned h.fits h.rest, h.advance⟩

end HasRest

/-- A value is read from its encoding, and nothing is left. -/
theorem readExpected_encode {tag : Byte} {content : Bytes} (htag : tag &&& derHighTagNumber ≠ derHighTagNumber)
    (hlength : (derWrap tag content).length ≤ usizeMax) :
    ∃ reader, (new (derWrap tag content)).readExpected tag = .ok (⟨tag, content⟩, reader) ∧ reader.finish = .ok () ∧
      HasRest (.new content) content := (HasRest.new hlength).readLast htag

/-! ### Reading to the end -/

theorem readTlv_shorter {value : DerValue} (h : reader.readTlv = .ok (value, reader')) :
    reader'.remaining < reader.remaining := by
  obtain ⟨hrest, -⟩ := readTlv_ok h
  have hlength := congrArg List.length hrest
  rw [List.length_append, length_rest, length_rest, DerValue.encode, derWrap, List.length_cons] at hlength
  omega

/-- `while !reader.is_empty()`, with a value read in every turn. -/
def readAll {σ : Type} (step : σ → DerValue → Except DerError σ) (s : σ) (reader : DerReader) : Except DerError σ :=
  if reader.isEmpty then .ok s
  else
    match _h : reader.readTlv with
    | .error e => .error e
    | .ok (value, reader) =>
        match step s value with
        | .error e => .error e
        | .ok s => readAll step s reader
termination_by reader.remaining
decreasing_by exact readTlv_shorter _h

section ReadAll

variable {σ : Type} {step : σ → DerValue → Except DerError σ}

theorem isEmpty_iff (h : reader.position ≤ reader.input.length) : reader.isEmpty = true ↔ reader.rest = [] := by
  rw [isEmpty, beq_iff_eq, rest, List.drop_eq_nil_iff]
  omega

/-- Written values are folded over in order. -/
theorem readAll_encode {values : List DerValue} (hlow : ∀ value ∈ values, value.tag &&& derHighTagNumber ≠ derHighTagNumber)
    (h : HasRest reader (values.flatMap DerValue.encode)) (s : σ) :
    readAll step s reader = values.foldlM step s := by
  induction values generalizing reader s with
  | nil =>
      rw [readAll, if_pos ((isEmpty_iff h.position).2 h.rest)]
      rfl
  | cons value values ih =>
      rw [List.flatMap_cons] at h
      have hread : reader.readTlv = .ok (value, reader.advance value.encode.length) :=
        readTlv_derWrap (hlow value List.mem_cons_self) h.fits h.rest
      have hnonempty : ¬reader.isEmpty = true := by
        rw [isEmpty_iff h.position, h.rest, DerValue.encode, derWrap]
        exact List.cons_ne_nil _ _
      rw [readAll, if_neg hnonempty]
      split
      · rename_i error herror
        rw [hread] at herror
        cases herror
      · rename_i value' reader₁ hok
        rw [hread] at hok
        cases hok
        rw [List.foldlM_cons]
        cases hstep : step s value with
        | error error => rfl
        | ok s₁ =>
            exact ih (fun value hvalue => hlow value (List.mem_cons_of_mem _ hvalue)) h.advance s₁

/-- What was read to the end are the encodings of some values. -/
theorem readAll_ok {s s' : σ} (hposition : reader.position ≤ reader.input.length)
    (h : readAll step s reader = .ok s') :
    ∃ values : List DerValue, reader.rest = values.flatMap DerValue.encode ∧ values.foldlM step s = .ok s' := by
  fun_induction readAll step s reader with
  | case1 s reader hempty =>
      cases h
      exact ⟨[], (isEmpty_iff hposition).1 hempty, rfl⟩
  | case2 => cases h
  | case3 => cases h
  | case4 s reader hmore value reader₁ hread s₁ hstep ih =>
      obtain ⟨hrest, -, -, -, hroom⟩ := readTlv_ok hread
      obtain ⟨values, hvalues, hfold⟩ := ih hroom h
      refine ⟨value :: values, ?_, ?_⟩
      · rw [hrest, hvalues, List.flatMap_cons]
      · rw [List.foldlM_cons, hstep]
        exact hfold

end ReadAll

end DerReader

end BareProxy.Der
