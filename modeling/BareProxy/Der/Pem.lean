import BareProxy.Base.Chunks
import BareProxy.Base.Text
import BareProxy.Crypto.Base64
import BareProxy.Der.Reader

/-!
# PEM

The textual encoding of `asn1.rs`: Base64 in lines of 64 characters between two boundaries that name a label.
-/

namespace BareProxy.Der

open Crypto

def pemLineWidth : Nat := 64

/-- The loop over the bytes of a label. -/
def validatePemLabelBytes : Option Byte → Bytes → Except DerError Unit
  | _, [] => .ok ()
  | previous, byte :: bytes => do
      if (65 ≤ byte && byte ≤ 90) || isAsciiDigit byte then validatePemLabelBytes (some byte) bytes
      else if byte = 32 ∨ byte = 45 then do
        ensure (previous ≠ some byte) .invalidPemLabel
        validatePemLabelBytes (some byte) bytes
      else .error .invalidPemLabel

def validatePemLabel (label : Bytes) : Except DerError Unit := do
  ensure (!label.isEmpty) .invalidPemLabel
  ensure (!(label.head?.any fun b => b == 32 || b == 45) && !(label.getLast?.any fun b => b == 32 || b == 45))
    .invalidPemLabel
  validatePemLabelBytes none label

def pemBegin (label : Bytes) : Bytes := ascii "-----BEGIN " ++ label ++ ascii "-----"

def pemEnd (label : Bytes) : Bytes := ascii "-----END " ++ label ++ ascii "-----"

def pemEncode (label der : Bytes) : Except DerError Bytes := do
  validatePemLabel label
  let base64 := encodeBase64 der
  return pemBegin label ++ [10] ++ (chunks pemLineWidth base64).flatMap (· ++ [10]) ++ (pemEnd label ++ [10])

/-! ### Decoding -/

def decodeBase64Character (byte : Byte) : Option Byte :=
  if 65 ≤ byte && byte ≤ 90 then some (byte - 65)
  else if 97 ≤ byte && byte ≤ 122 then some (byte - 97 + 26)
  else if isAsciiDigit byte then some (byte - 48 + 52)
  else if byte = 43 then some 62
  else if byte = 47 then some 63
  else none

/-- The bytes after the first of a quartet. `=` may only stand at the end, where the bits it leaves out are zero. -/
def decodeBase64Tail (last : Bool) (second third fourth : Byte) : Except DerError Bytes :=
  if third = 61 then do
    ensure (fourth = 61 ∧ last = true ∧ second &&& 0x0f = 0) .invalidPemBase64
    return []
  else do
    let third ← okOr .invalidPemBase64 (decodeBase64Character third)
    if fourth = 61 then
      ensure (last = true ∧ third &&& 0x03 = 0) .invalidPemBase64
      return [(second <<< 4) ||| (third >>> 2)]
    else
      let fourth ← okOr .invalidPemBase64 (decodeBase64Character fourth)
      return [(second <<< 4) ||| (third >>> 2), (third <<< 6) ||| fourth]

/-- The loop over the quartets. -/
def decodeBase64Quartets : Bytes → Except DerError Bytes
  | first :: second :: third :: fourth :: rest => do
      ensure (first ≠ 61 ∧ second ≠ 61) .invalidPemBase64
      let first ← okOr .invalidPemBase64 (decodeBase64Character first)
      let second ← okOr .invalidPemBase64 (decodeBase64Character second)
      let tail ← decodeBase64Tail rest.isEmpty second third fourth
      let output ← decodeBase64Quartets rest
      return (first <<< 2 ||| second >>> 4) :: tail ++ output
  | _ => .ok []

def decodeBase64 (encoded : Bytes) : Except DerError Bytes := do
  ensure (encoded.length % 4 = 0) .invalidPemBase64
  decodeBase64Quartets encoded

/-- The loop of `pem_decode` behind the first boundary. -/
def pemBodyLoop (endBoundary base64 : Bytes) : List Bytes → Except DerError Bytes
  | [] => .error .pemEndMissing
  | rawLine :: lines =>
      let line := rawLine.rdropWhile fun b => b == 32 || b == 9
      if line = endBoundary then .ok base64
      else if ascii "-----END " <+: line then .error .pemLabelMismatch
      else pemBodyLoop endBoundary (base64 ++ line.filter fun b => !isAsciiWhitespace b) lines

/-- The loop of `pem_decode` up to the first boundary. -/
def pemLoop (beginBoundary endBoundary : Bytes) : List Bytes → Except DerError Bytes
  | [] => .error .pemBeginMissing
  | rawLine :: lines =>
      let line := rawLine.rdropWhile fun b => b == 32 || b == 9
      if line = beginBoundary then pemBodyLoop endBoundary [] lines
      else pemLoop beginBoundary endBoundary lines

def pemDecode (label input : Bytes) : Except DerError Bytes := do
  validatePemLabel label
  let base64 ← pemLoop (pemBegin label) (pemEnd label) (textLines input)
  decodeBase64 base64

/-! ### What was encoded is decoded -/

theorem decodeBase64Character_base64Character {value : Byte} (h : value < 64) :
    base64Character base64StandardAlphabet value ≠ 61 ∧
      decodeBase64Character (base64Character base64StandardAlphabet value) = some value := by
  revert value
  apply byte_forall
  decide +kernel

theorem decodeBase64Quartets_cons {first second third fourth b₁ b₂ : Byte} {rest tail output : Bytes}
    (hfirst : first ≠ 61 ∧ decodeBase64Character first = some b₁)
    (hsecond : second ≠ 61 ∧ decodeBase64Character second = some b₂)
    (htail : decodeBase64Tail rest.isEmpty b₂ third fourth = .ok tail)
    (hrest : decodeBase64Quartets rest = .ok output) :
    decodeBase64Quartets (first :: second :: third :: fourth :: rest) =
      .ok ((b₁ <<< 2 ||| b₂ >>> 4) :: tail ++ output) := by
  rw [decodeBase64Quartets, ensure_of ⟨hfirst.1, hsecond.1⟩, ok_bind, hfirst.2, okOr_some, ok_bind, hsecond.2,
    okOr_some, ok_bind, htail, ok_bind, hrest]
  rfl

theorem decodeBase64Quartets_encodeBase64 (input : Bytes) :
    decodeBase64Quartets (encodeBase64 input) = .ok input := by
  unfold encodeBase64
  fun_induction encodeBase64Inner base64StandardAlphabet true input with
  | case1 first second third rest ih =>
      have hthird := decodeBase64Character_base64Character (sextet_third second third)
      have hfourth := decodeBase64Character_base64Character (sextet_fourth third)
      have htail : decodeBase64Tail (encodeBase64Inner base64StandardAlphabet true rest).isEmpty
          (((first &&& 0x03) <<< 4) ||| (second >>> 4))
          (base64Character base64StandardAlphabet (((second &&& 0x0f) <<< 2) ||| (third >>> 6)))
          (base64Character base64StandardAlphabet (third &&& 0x3f)) = .ok [second, third] := by
        rw [decodeBase64Tail, if_neg hthird.1, hthird.2, okOr_some, ok_bind, if_neg hfourth.1, hfourth.2, okOr_some,
          ok_bind, join_second, join_third]
        rfl
      have hblock := decodeBase64Quartets_cons (decodeBase64Character_base64Character (sextet_first first))
        (decodeBase64Character_base64Character (sextet_second first second)) htail ih
      rw [join_first] at hblock
      exact hblock
  | case2 first second =>
      have hthird := decodeBase64Character_base64Character (sextet_thirdLast second)
      have htail : decodeBase64Tail ([] : Bytes).isEmpty (((first &&& 0x03) <<< 4) ||| (second >>> 4))
          (base64Character base64StandardAlphabet ((second &&& 0x0f) <<< 2)) 61 = .ok [second] := by
        rw [decodeBase64Tail, if_neg hthird.1, hthird.2, okOr_some, ok_bind, if_pos rfl,
          ensure_of ⟨rfl, sextet_thirdLast_low second⟩, ok_bind, join_secondLast]
        rfl
      have hblock := decodeBase64Quartets_cons (decodeBase64Character_base64Character (sextet_first first))
        (decodeBase64Character_base64Character (sextet_second first second)) htail rfl
      rw [join_first] at hblock
      exact hblock
  | case3 first =>
      have htail : decodeBase64Tail ([] : Bytes).isEmpty ((first &&& 0x03) <<< 4) 61 61 = .ok [] := by
        rw [decodeBase64Tail, if_pos rfl, ensure_of ⟨rfl, rfl, sextet_secondLast_low first⟩]
        rfl
      have hblock := decodeBase64Quartets_cons (decodeBase64Character_base64Character (sextet_first first))
        (decodeBase64Character_base64Character (sextet_secondLast first)) htail rfl
      rw [join_firstLast] at hblock
      exact hblock
  | case4 => rfl

theorem decodeBase64_encodeBase64 (input : Bytes) : decodeBase64 (encodeBase64 input) = .ok input := by
  rw [decodeBase64, ensure_of (length_encodeBase64 input), ok_bind, decodeBase64Quartets_encodeBase64]

/-! ### Boundaries and lines -/

/-- Trailing blanks are dropped from a line that has none. -/
theorem rdropWhile_blank {line : Bytes} (h : ∀ b ∈ line, b ≠ 32 ∧ b ≠ 9) :
    (line.rdropWhile fun b => b == 32 || b == 9) = line := by
  rw [List.rdropWhile_eq_self_iff]
  intro hne hblank
  have hlast := h _ (List.getLast_mem hne)
  simp only [Bool.or_eq_true, beq_iff_eq] at hblank
  exact hblank.elim hlast.1 hlast.2

theorem rdropWhile_boundary (front : Bytes) :
    ((front ++ ascii "-----").rdropWhile fun b => b == 32 || b == 9) = front ++ ascii "-----" := by
  have hsplit : front ++ ascii "-----" = (front ++ ascii "----") ++ [45] := by
    rw [List.append_assoc]
    rfl
  rw [hsplit, List.rdropWhile_concat_neg _ _ _ (by decide)]

/-- A line of Base64 is taken as it is, and is no boundary. -/
theorem base64Line_plain {line : Bytes}
    (h : line ≠ [] ∧ ∀ b ∈ line, isAsciiAlphanumeric b = true ∨ b = 43 ∨ b = 47 ∨ b = 61) :
    (line.rdropWhile fun b => b == 32 || b == 9) = line ∧ (line.filter fun b => !isAsciiWhitespace b) = line ∧
      ∀ boundary : Bytes, boundary.head? = some 45 → ¬boundary <+: line := by
  have hbyte {b : Byte} : isAsciiAlphanumeric b = true ∨ b = 43 ∨ b = 47 ∨ b = 61 →
      b ≠ 45 ∧ b ≠ 32 ∧ b ≠ 9 ∧ isAsciiWhitespace b = false := by
    revert b
    apply byte_forall
    decide +kernel
  obtain ⟨-, hchars⟩ := h
  refine ⟨rdropWhile_blank fun b hb => ⟨(hbyte (hchars b hb)).2.1, (hbyte (hchars b hb)).2.2.1⟩, ?_, ?_⟩
  · rw [List.filter_eq_self]
    intro b hb
    rw [(hbyte (hchars b hb)).2.2.2]
    rfl
  · intro boundary hhead hprefix
    have hmem : (45 : Byte) ∈ line := hprefix.subset (List.mem_of_head? hhead)
    exact (hbyte (hchars 45 hmem)).1 rfl

/-- The body of a text collects the characters of its lines. -/
theorem pemBodyLoop_lines {endBoundary base64 : Bytes} {lines more : List Bytes}
    (h : ∀ line ∈ lines, line ≠ [] ∧ ∀ b ∈ line, isAsciiAlphanumeric b = true ∨ b = 43 ∨ b = 47 ∨ b = 61)
    (hend : endBoundary.head? = some 45) :
    pemBodyLoop endBoundary base64 (lines ++ more) = pemBodyLoop endBoundary (base64 ++ lines.flatten) more := by
  induction lines generalizing base64 with
  | nil => rw [List.nil_append, List.flatten_nil, List.append_nil]
  | cons line lines ih =>
      obtain ⟨htrim, hfilter, hboundary⟩ := base64Line_plain (h line List.mem_cons_self)
      have hne : line ≠ endBoundary := fun heq => hboundary endBoundary hend (heq ▸ List.prefix_rfl)
      rw [List.cons_append, pemBodyLoop, htrim, if_neg hne, if_neg (hboundary _ (by decide)), hfilter,
        ih fun line hline => h line (List.mem_cons_of_mem _ hline), List.flatten_cons, List.append_assoc]

/-- What a label may hold. -/
theorem label_chars {previous : Option Byte} {label : Bytes} (h : validatePemLabelBytes previous label = .ok ()) :
    10 ∉ label := by
  induction label generalizing previous with
  | nil => exact List.not_mem_nil
  | cons byte bytes ih =>
      rw [List.mem_cons, not_or]
      rw [validatePemLabelBytes] at h
      split at h
      · rename_i hletter
        refine ⟨?_, ih h⟩
        rintro rfl
        exact absurd hletter (by decide)
      · split at h
        · rename_i hseparator
          obtain ⟨_, -, h⟩ := bind_eq_ok.1 h
          refine ⟨?_, ih h⟩
          rintro rfl
          exact absurd hseparator (by decide)
        · cases h

/-- The lines between the boundaries. -/
def pemBody (der : Bytes) : List Bytes := chunks pemLineWidth (encodeBase64 der)

theorem flatten_pemBody (der : Bytes) : (pemBody der).flatten = encodeBase64 der := flatten_chunks (by decide) _

theorem pemBody_chars {der line : Bytes} (h : line ∈ pemBody der) :
    line ≠ [] ∧ ∀ b ∈ line, isAsciiAlphanumeric b = true ∨ b = 43 ∨ b = 47 ∨ b = 61 := by
  refine ⟨List.length_pos_iff.1 (length_of_mem_chunks h).1, fun b hb => ?_⟩
  have hmem : b ∈ (pemBody der).flatten := List.mem_flatten.2 ⟨line, h, hb⟩
  rw [flatten_pemBody] at hmem
  exact encodeBase64_chars hmem

/-- What is written under a label: whole lines, the boundaries around the body. -/
theorem pemEncode_lines {label : Bytes} (h : validatePemLabel label = .ok ()) (der : Bytes) :
    ∃ text, pemEncode label der = .ok text ∧ text.getLast? = some 10 ∧
      textLines text = pemBegin label :: (pemBody der ++ [pemEnd label]) := by
  have hlabel : 10 ∉ label := by
    obtain ⟨_, -, hrest⟩ := bind_eq_ok.1 h
    obtain ⟨_, -, hbytes⟩ := bind_eq_ok.1 hrest
    exact label_chars hbytes
  refine ⟨_, by rw [pemEncode, h]; rfl, ?_, ?_⟩
  · rw [← List.append_assoc, List.getLast?_concat]
  · have hwritten : pemBegin label ++ [10] ++ (chunks pemLineWidth (encodeBase64 der)).flatMap (· ++ [10]) ++
        (pemEnd label ++ [10]) = (pemBegin label :: (pemBody der ++ [pemEnd label])).flatMap (· ++ [10]) := by
      simp only [pemBody, List.flatMap_cons, List.flatMap_append, List.flatMap_nil, List.append_nil, List.append_assoc]
    rw [hwritten]
    apply textLines_flatMap
    have hboundary : ∀ front : Bytes, (front ++ ascii "-----").getLast? ≠ some 13 := by
      intro front
      rw [List.getLast?_append, show (ascii "-----").getLast? = some 45 from by decide, Option.some_or]
      decide
    intro line hline
    rcases List.mem_cons.1 hline with rfl | hline
    · refine ⟨?_, hboundary _⟩
      rw [pemBegin, List.mem_append, List.mem_append, not_or, not_or]
      exact ⟨⟨by decide, hlabel⟩, by decide⟩
    · rcases List.mem_append.1 hline with hline | hline
      · have hplain {b : Byte} : isAsciiAlphanumeric b = true ∨ b = 43 ∨ b = 47 ∨ b = 61 → b ≠ 10 ∧ b ≠ 13 := by
          revert b
          apply byte_forall
          decide +kernel
        have hbytes := (pemBody_chars hline).2
        exact ⟨fun hmem => (hplain (hbytes 10 hmem)).1 rfl,
          fun hlast => (hplain (hbytes 13 (List.mem_of_getLast? hlast))).2 rfl⟩
      · obtain rfl := List.mem_singleton.1 hline
        refine ⟨?_, hboundary _⟩
        rw [pemEnd, List.mem_append, List.mem_append, not_or, not_or]
        exact ⟨⟨by decide, hlabel⟩, by decide⟩

/-- The first line that is the boundary opens the body. -/
theorem pemLoop_skip {beginBoundary endBoundary : Bytes} {lines : List Bytes}
    (h : ∀ line ∈ lines, (line.rdropWhile fun b => b == 32 || b == 9) ≠ beginBoundary) (more : List Bytes) :
    pemLoop beginBoundary endBoundary (lines ++ more) = pemLoop beginBoundary endBoundary more := by
  induction lines with
  | nil => rfl
  | cons line lines ih =>
      rw [List.cons_append, pemLoop, if_neg (h line List.mem_cons_self)]
      exact ih fun line hline => h line (List.mem_cons_of_mem _ hline)

/-- The lines of a text are decoded, whatever lines follow. -/
theorem pemLoop_pemBody (label der : Bytes) (more : List Bytes) :
    pemLoop (pemBegin label) (pemEnd label) (pemBegin label :: (pemBody der ++ [pemEnd label]) ++ more) =
      .ok (encodeBase64 der) := by
  have hbegin : ((pemBegin label).rdropWhile fun b => b == 32 || b == 9) = pemBegin label := rdropWhile_boundary _
  have hend : ((pemEnd label).rdropWhile fun b => b == 32 || b == 9) = pemEnd label := rdropWhile_boundary _
  rw [List.cons_append, List.append_assoc, pemLoop, hbegin, if_pos rfl,
    pemBodyLoop_lines (fun line hline => pemBody_chars hline) rfl, List.singleton_append, pemBodyLoop, hend, if_pos rfl,
    List.nil_append, flatten_pemBody]

/-- A text is read back under the label it was written with. -/
theorem pemDecode_pemEncode {label : Bytes} (h : validatePemLabel label = .ok ()) (der : Bytes) :
    ∃ text, pemEncode label der = .ok text ∧ pemDecode label text = .ok der := by
  obtain ⟨text, htext, -, hlines⟩ := pemEncode_lines h der
  refine ⟨text, htext, ?_⟩
  rw [pemDecode, h, ok_bind, hlines, ← List.append_nil (pemBegin label :: _), pemLoop_pemBody, ok_bind,
    decodeBase64_encodeBase64]

end BareProxy.Der
