import BareProxy.Base.Indexing
import BareProxy.Base.Rfc5869
import BareProxy.Base.Words
import BareProxy.Crypto.Hkdf
import BareProxy.Crypto.Sha256Standard

/-!
# HKDF hands out the stream of the standard

The loop appends the blocks of RFC 5869 in their order and cuts the last one off, and the one-octet counter reaches the
last block that may be asked for. Here it has the conversions, the difference and the slice that stop the program where
they fail. The encoding of a label can be read back, so that different labels, contexts and lengths expand differently
named blocks.
-/

namespace BareProxy.Crypto

open Indexed

/-- The HMAC of the standard. -/
def hmacStandard (key text : Bytes) : Bytes := Fips180.hmac Fips180.digest Fips180.blockSize key text

theorem length_hmacStandard (key text : Bytes) : (hmacStandard key text).length = sha256DigestSize := by
  have hlength := congrArg List.length (toList_hmacSha256Parts key [text])
  rw [Vector.length_toList, List.flatten_singleton] at hlength
  exact hlength.symm

/-! ### The stream -/

/-- A turn appends the next block of the standard, or as much of it as is still missing. -/
theorem hkdfExpandStep_eq (prk info : Bytes) (length : Nat) (output : Bytes) {previousBlock : ByteArrayN 32} {count : Nat}
    (hprevious : 0 < count → previousBlock.toList = Rfc5869.block (hmacStandard prk) info count) :
    ∃ nextBlock : ByteArrayN 32, nextBlock.toList = Rfc5869.block (hmacStandard prk) info (count + 1) ∧
      hkdfExpandStep prk info length (output, previousBlock) (count + 1) =
        (output ++ (Rfc5869.block (hmacStandard prk) info (count + 1)).take (length - output.length), nextBlock) := by
  obtain ⟨nextBlock, hstep, hnext⟩ : ∃ nextBlock : ByteArrayN 32,
      hkdfExpandStep prk info length (output, previousBlock) (count + 1) =
        (output ++ nextBlock.toList.take (min (length - output.length) sha256DigestSize), nextBlock) ∧
      nextBlock.toList = Rfc5869.block (hmacStandard prk) info (count + 1) := by
    refine ⟨_, rfl, ?_⟩
    rw [Rfc5869.block]
    rcases Nat.eq_zero_or_pos count with rfl | hpos
    · -- the first block chains nothing
      rw [if_pos rfl, toList_hmacSha256Parts]
      rfl
    · rw [if_neg (by omega), toList_hmacSha256Parts, hprevious hpos, List.flatten_cons, List.flatten_cons,
        List.flatten_singleton, ← List.append_assoc]
      rfl
  refine ⟨nextBlock, hnext, ?_⟩
  have hlength : nextBlock.toList.length = sha256DigestSize := Vector.length_toList
  rw [hstep, ← hnext, ← hlength, ← List.take_eq_take_min]

/-- After some turns the output is the front of as many blocks, and the block before is the last of them. -/
theorem hkdfExpandLoop_eq (prk info : Bytes) (length count : Nat) :
    ∃ previousBlock : ByteArrayN 32,
      (List.range' 1 count).foldl (hkdfExpandStep prk info length) ([], Vector.replicate 32 0) =
        ((Rfc5869.stream (hmacStandard prk) info count).take length, previousBlock) ∧
      (0 < count → previousBlock.toList = Rfc5869.block (hmacStandard prk) info count) := by
  induction count with
  | zero => exact ⟨Vector.replicate 32 0, by rw [Rfc5869.stream_zero, List.take_nil]; rfl, fun h => absurd h (by decide)⟩
  | succ count ih =>
    obtain ⟨previousBlock, hloop, hprevious⟩ := ih
    obtain ⟨nextBlock, hnext, hstep⟩ :=
      hkdfExpandStep_eq prk info length ((Rfc5869.stream (hmacStandard prk) info count).take length) hprevious
    refine ⟨nextBlock, ?_, fun _ => hnext⟩
    have hmissing : length - ((Rfc5869.stream (hmacStandard prk) info count).take length).length =
        length - (Rfc5869.stream (hmacStandard prk) info count).length := by
      rw [List.length_take]
      omega
    rw [List.range'_1_concat, List.foldl_append, hloop, List.foldl_cons, List.foldl_nil, Nat.add_comm 1, hstep, hmissing,
      Rfc5869.stream_succ, List.take_append]

theorem hkdfExpandSha256_eq {prk : Bytes} {length : Nat} (info : Bytes) (hprk : sha256DigestSize ≤ prk.length)
    (hlength : length ≤ hkdfMaxOutputSize) :
    hkdfExpandSha256 prk info length =
      .ok ((Rfc5869.stream (hmacStandard prk) info Rfc5869.maxBlocks).take length) := by
  obtain ⟨previousBlock, hloop, -⟩ :=
    hkdfExpandLoop_eq prk info length ((length + sha256DigestSize - 1) / sha256DigestSize)
  have hcovered : length ≤ sha256DigestSize * ((length + sha256DigestSize - 1) / sha256DigestSize) := by
    rw [sha256DigestSize]
    omega
  -- no more blocks than the octet can number
  obtain ⟨more, hmore⟩ : ∃ more, Rfc5869.maxBlocks = (length + sha256DigestSize - 1) / sha256DigestSize + more := by
    apply Nat.exists_eq_add_of_le
    rw [hkdfMaxOutputSize, sha256DigestSize] at hlength
    rw [Rfc5869.maxBlocks, sha256DigestSize]
    omega
  rw [hkdfExpandSha256, if_neg (Nat.not_lt.2 hprk), if_neg (Nat.not_lt.2 hlength), hmore,
    Rfc5869.take_stream info (length_hmacStandard prk) hcovered]
  dsimp only
  rw [hloop]

/-! ### The checks of the loop -/

section Checked

/-- One turn with the checks of the source; `hmac` is `none` where it stops the program. -/
def hkdfExpandStepChecked (hmac : Bytes → List Bytes → Option (ByteArrayN 32)) (prk info : Bytes) (length : Nat)
    (state : Bytes × ByteArrayN 32) (blockIndex : Nat) : Except (Stop HkdfError) (Bytes × ByteArrayN 32) := do
  let (output, previousBlock) := state
  let counter ← okOr .outOfBounds (u8TryFrom blockIndex)
  let nextBlock ← okOr .outOfBounds
    (if blockIndex = 1 then hmac prk [info, [counter]] else hmac prk [previousBlock.toList, info, [counter]])
  let remaining ← subtract length output.length
  let copied ← slice nextBlock.toList 0 (min remaining sha256DigestSize)
  return (output ++ copied, nextBlock)

def hkdfExpandSha256Checked (hmac : Bytes → List Bytes → Option (ByteArrayN 32)) (prk info : Bytes) (length : Nat) :
    Except (Stop HkdfError) Bytes := do
  lift (ensure (¬prk.length < sha256DigestSize) (.prkTooShort prk.length))
  lift (ensure (¬length > hkdfMaxOutputSize) (.outputTooLong length))
  let blockCount := (length + sha256DigestSize - 1) / sha256DigestSize
  let (output, _) ← (List.range' 1 blockCount).foldlM (hkdfExpandStepChecked hmac prk info length)
    ([], Vector.replicate 32 0)
  return output

variable {hmac : Bytes → List Bytes → Option (ByteArrayN 32)} {prk info : Bytes} {length : Nat}
  (hhmac : ∀ parts : List Bytes, parts.flatten.length ≤ sha256DigestSize + info.length + 1 →
    hmac prk parts = some (hmacSha256Parts prk parts))

include hhmac

theorem hkdfExpandStepChecked_eq {state : Bytes × ByteArrayN 32} {blockIndex : Nat} (hstate : state.1.length ≤ length)
    (hindex : blockIndex < 2 ^ 8) :
    hkdfExpandStepChecked hmac prk info length state blockIndex =
      .ok (hkdfExpandStep prk info length state blockIndex) := by
  obtain ⟨output, previousBlock⟩ := state
  have hfirst : hmac prk [info, [UInt8.ofNat blockIndex]] =
      some (hmacSha256Parts prk [info, [UInt8.ofNat blockIndex]]) := by
    apply hhmac
    simp only [List.flatten_cons, List.flatten_nil, List.length_append, List.length_singleton, List.length_nil]
    omega
  have hchained : hmac prk [previousBlock.toList, info, [UInt8.ofNat blockIndex]] =
      some (hmacSha256Parts prk [previousBlock.toList, info, [UInt8.ofNat blockIndex]]) := by
    apply hhmac
    simp only [List.flatten_cons, List.flatten_nil, List.length_append, List.length_singleton, List.length_nil,
      Vector.length_toList, sha256DigestSize]
    omega
  rw [hkdfExpandStepChecked, u8TryFrom_eq hindex, okOr_some, ok_bind, hfirst, hchained, ← apply_ite some, okOr_some,
    ok_bind, subtract_eq hstate, ok_bind, slice_eq (Nat.zero_le _), ok_bind, List.drop_zero, Nat.sub_zero]
  · rfl
  · rw [Vector.length_toList]
    exact Nat.min_le_right _ _

/-- The counter fits its octet in as many turns as there may be. -/
theorem hkdfExpandLoopChecked_eq {count : Nat} (hcount : count < 2 ^ 8) :
    (List.range' 1 count).foldlM (hkdfExpandStepChecked hmac prk info length) ([], Vector.replicate 32 0) =
      .ok ((List.range' 1 count).foldl (hkdfExpandStep prk info length) ([], Vector.replicate 32 0)) := by
  induction count with
  | zero => rfl
  | succ count ih =>
    have hindex : 1 + count < 2 ^ 8 := by omega
    have hlength := length_hkdfExpandLoop prk info length count
    rw [List.range'_1_concat, List.foldlM_append, ih (by omega), ok_bind, List.foldlM_cons, List.foldl_append,
      List.foldl_cons, List.foldl_nil, hkdfExpandStepChecked_eq hhmac (by omega) hindex]
    rfl

theorem hkdfExpandSha256Checked_eq :
    hkdfExpandSha256Checked hmac prk info length = lift (hkdfExpandSha256 prk info length) := by
  refine ensure_bind_eq _ fun _ => ensure_bind_eq _ fun hlength => ?_
  have hcount : (length + sha256DigestSize - 1) / sha256DigestSize < 2 ^ 8 := by
    rw [hkdfMaxOutputSize, sha256DigestSize] at hlength
    rw [sha256DigestSize]
    omega
  dsimp only
  rw [hkdfExpandLoopChecked_eq hhmac hcount]
  rfl

end Checked

/-! ### The labels -/

/-- `build_tls13_hkdf_label` with the conversions of the lengths. -/
def buildTls13HkdfLabelChecked (label context : Bytes) (length : Nat) : Except (Stop HkdfError) Bytes := do
  lift (ensure (¬label.isEmpty) .tlsLabelEmpty)
  lift (ensure (¬label.length > tls13MaxLabelSize) (.tlsLabelTooLong label.length))
  lift (ensure (¬context.length > tls13MaxContextSize) (.tlsContextTooLong context.length))
  let encodedLength ← okOr .outOfBounds (u16TryFrom length)
  let encodedLabelLength ← okOr .outOfBounds (u8TryFrom (tls13LabelPrefix.length + label.length))
  let encodedContextLength ← okOr .outOfBounds (u8TryFrom context.length)
  return beBytes 2 encodedLength.toNat ++ encodedLabelLength ::
    (tls13LabelPrefix ++ label ++ encodedContextLength :: context)

theorem buildTls13HkdfLabel_eq_ok {label context : Bytes} {length : Nat} {info : Bytes} :
    buildTls13HkdfLabel label context length = .ok info ↔
      label ≠ [] ∧ label.length ≤ tls13MaxLabelSize ∧ context.length ≤ tls13MaxContextSize ∧
        info = beBytes 2 length ++ UInt8.ofNat (tls13LabelPrefix.length + label.length) ::
          (tls13LabelPrefix ++ label ++ UInt8.ofNat context.length :: context) := by
  rw [buildTls13HkdfLabel]
  split
  · rename_i hempty
    exact iff_of_false (fun h => by cases h) fun h => h.1 (List.isEmpty_iff.1 hempty)
  · rename_i hempty
    split
    · rename_i hlabel
      exact iff_of_false (fun h => by cases h) fun h => absurd h.2.1 (Nat.not_le.2 hlabel)
    · rename_i hlabel
      split
      · rename_i hcontext
        exact iff_of_false (fun h => by cases h) fun h => absurd h.2.2.1 (Nat.not_le.2 hcontext)
      · rename_i hcontext
        rw [Except.ok.injEq, eq_comm, and_iff_right (mt List.isEmpty_iff.2 hempty), and_iff_right (Nat.not_lt.1 hlabel),
          and_iff_right (Nat.not_lt.1 hcontext)]

/-- Behind the checks of the label and the context only the length may not fit. -/
theorem buildTls13HkdfLabelChecked_eq {length : Nat} (h : length < 2 ^ 16) (label context : Bytes) :
    buildTls13HkdfLabelChecked label context length = lift (buildTls13HkdfLabel label context length) := by
  refine ensure_bind_eq _ fun _ => ensure_bind_eq _ fun hlabel => ensure_bind_eq _ fun hcontext => ?_
  have hlabelLength : tls13LabelPrefix.length + label.length < 2 ^ 8 := by
    have hprefix : tls13LabelPrefix.length = 6 := rfl
    rw [tls13MaxLabelSize] at hlabel
    omega
  have hcontextLength : context.length < 2 ^ 8 := by
    rw [tls13MaxContextSize] at hcontext
    omega
  have hlength : (UInt16.ofNat length).toNat = length := UInt16.toNat_ofNat_of_lt' h
  rw [u16TryFrom_eq h, u8TryFrom_eq hlabelLength, u8TryFrom_eq hcontextLength, okOr_some, ok_bind, okOr_some, ok_bind,
    okOr_some, ok_bind, hlength]
  rfl

theorem buildTls13HkdfLabelChecked_eq_ok {label context : Bytes} {length : Nat} {info : Bytes} :
    buildTls13HkdfLabelChecked label context length = .ok info ↔
      length < 2 ^ 16 ∧ buildTls13HkdfLabel label context length = .ok info := by
  by_cases hfits : length < 2 ^ 16
  · rw [buildTls13HkdfLabelChecked_eq hfits, lift, mapErr_eq_ok, and_iff_right hfits]
  · refine iff_of_false ?_ fun h => hfits h.1
    intro h
    obtain ⟨_, -, h⟩ := bind_eq_ok.1 h
    obtain ⟨_, -, h⟩ := bind_eq_ok.1 h
    obtain ⟨_, -, h⟩ := bind_eq_ok.1 h
    obtain ⟨_, hlength, -⟩ := bind_eq_ok.1 h
    rw [u16TryFrom, if_neg hfits] at hlength
    cases hlength

/-- The three lengths say where the label and the context stop. -/
theorem buildTls13HkdfLabel_injective {label context label' context' : Bytes} {length length' : Nat} {info : Bytes}
    (hlength : length < 2 ^ 16) (hlength' : length' < 2 ^ 16)
    (h : buildTls13HkdfLabel label context length = .ok info)
    (h' : buildTls13HkdfLabel label' context' length' = .ok info) :
    label = label' ∧ context = context' ∧ length = length' := by
  rw [buildTls13HkdfLabel_eq_ok] at h h'
  obtain ⟨-, hlabel, -, rfl⟩ := h
  obtain ⟨-, hlabel', -, hinfo⟩ := h'
  have hprefix : tls13LabelPrefix.length = 6 := rfl
  rw [tls13MaxLabelSize] at hlabel hlabel'
  obtain ⟨hlengths, hrest⟩ := List.append_inj hinfo (by rw [length_beBytes, length_beBytes])
  obtain ⟨hlabelOctet, hrest⟩ := List.cons.inj hrest
  have hlabelLength : label.length = label'.length := by
    have hoctets := congrArg UInt8.toNat hlabelOctet
    rw [UInt8.toNat_ofNat_of_lt' (show _ < 2 ^ 8 by omega), UInt8.toNat_ofNat_of_lt' (show _ < 2 ^ 8 by omega)] at hoctets
    exact Nat.add_left_cancel hoctets
  obtain ⟨hlabels, hrest⟩ := List.append_inj hrest (by rw [List.length_append, List.length_append, hlabelLength])
  exact ⟨List.append_cancel_left hlabels, (List.cons.inj hrest).2, beBytes_injective hlength hlength' hlengths⟩

/-! ### The stream and the labels -/

/-- The hash has room for every block. -/
theorem hmacSha256PartsChecked_expand {prk info : Bytes} (hprk : prk.length ≤ u64Max / 8)
    (hinfo : sha256BlockSize + (sha256DigestSize + info.length + 1) ≤ u64Max / 8) {parts : List Bytes}
    (h : parts.flatten.length ≤ sha256DigestSize + info.length + 1) :
    hmacSha256PartsChecked prk parts = some (hmacSha256Parts prk parts) :=
  hmacSha256PartsChecked_eq hprk (by omega)

/-- The output is the front of the stream of RFC 5869, so that a shorter one is the front of a longer one; none of the
checks stops the program; and labels, contexts and lengths that are accepted are told apart by their encoding. -/
theorem hkdfExpandSha256_stream :
    (∀ (prk info : Bytes) (length : Nat), sha256DigestSize ≤ prk.length → length ≤ hkdfMaxOutputSize →
      hkdfExpandSha256 prk info length =
        .ok ((Rfc5869.stream (hmacStandard prk) info Rfc5869.maxBlocks).take length) ∧
      ∀ shorter ≤ length, ∃ front output, hkdfExpandSha256 prk info shorter = .ok front ∧
        hkdfExpandSha256 prk info length = .ok output ∧ front <+: output) ∧
    (∀ (prk info : Bytes) (length : Nat),
      hkdfExpandSha256Checked (fun key parts => some (hmacSha256Parts key parts)) prk info length =
        lift (hkdfExpandSha256 prk info length) ∧
      (prk.length ≤ u64Max / 8 → sha256BlockSize + (sha256DigestSize + info.length + 1) ≤ u64Max / 8 →
        hkdfExpandSha256Checked hmacSha256PartsChecked prk info length = lift (hkdfExpandSha256 prk info length))) ∧
    (∀ (label context : Bytes) (length : Nat), length ≤ hkdfMaxOutputSize →
      buildTls13HkdfLabelChecked label context length = lift (buildTls13HkdfLabel label context length)) ∧
    ∀ (label context : Bytes) (length : Nat) (label' context' : Bytes) (length' : Nat) (info : Bytes),
      buildTls13HkdfLabelChecked label context length = .ok info →
      buildTls13HkdfLabelChecked label' context' length' = .ok info →
      label = label' ∧ context = context' ∧ length = length' := by
  refine ⟨?_, ?_, ?_, ?_⟩
  · intro prk info length hprk hlength
    refine ⟨hkdfExpandSha256_eq info hprk hlength, ?_⟩
    intro shorter hshorter
    exact ⟨_, _, hkdfExpandSha256_eq info hprk (hshorter.trans hlength), hkdfExpandSha256_eq info hprk hlength,
      List.take_prefix_take_left hshorter⟩
  · intro prk info length
    exact ⟨hkdfExpandSha256Checked_eq fun _ _ => rfl,
      fun hprk hinfo => hkdfExpandSha256Checked_eq fun _ => hmacSha256PartsChecked_expand hprk hinfo⟩
  · intro label context length hlength
    rw [hkdfMaxOutputSize, sha256DigestSize] at hlength
    exact buildTls13HkdfLabelChecked_eq (by omega) label context
  · intro label context length label' context' length' info h h'
    rw [buildTls13HkdfLabelChecked_eq_ok] at h h'
    exact buildTls13HkdfLabel_injective h.1 h'.1 h.2 h'.2

/-- The longest output behind one that ends inside a block, and the labels of the two directions. -/
theorem hkdfExpandSha256_stream_longest :
    (∃ front output, hkdfExpandSha256 (List.replicate 32 11) [1] 33 = .ok front ∧
      hkdfExpandSha256 (List.replicate 32 11) [1] hkdfMaxOutputSize = .ok output ∧ front <+: output) ∧
    buildTls13HkdfLabelChecked (ascii "c ap traffic") [] 32 ≠ buildTls13HkdfLabelChecked (ascii "s ap traffic") [] 32 := by
  refine ⟨?_, ?_⟩
  · exact (hkdfExpandSha256_stream.1 (List.replicate 32 11) [1] hkdfMaxOutputSize (by decide) le_rfl).2 33 (by decide)
  · intro h
    obtain ⟨info, hinfo⟩ : ∃ info, buildTls13HkdfLabelChecked (ascii "c ap traffic") [] 32 = .ok info := ⟨_, rfl⟩
    have hsame := hkdfExpandSha256_stream.2.2.2 (ascii "c ap traffic") [] 32 (ascii "s ap traffic") [] 32 info hinfo
      (h ▸ hinfo)
    exact absurd hsame.1 (by decide)

end BareProxy.Crypto
