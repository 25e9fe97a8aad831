import BareProxy.Base.Result
import BareProxy.Crypto.Sha256

/-!
# HKDF

The key derivation of `crypto.rs` and the labelled form of TLS 1.3. What the key schedule needs is that it
cannot fail on a digest and one of the fixed labels, and that it hands back as many bytes as it was asked for.
-/

namespace BareProxy.Crypto

def sha256DigestSize : Nat := 32

def hkdfMaxOutputSize : Nat := 255 * sha256DigestSize

def tls13LabelPrefix : Bytes := ascii "tls13 "

def tls13MaxLabelSize : Nat := 255 - 6

def tls13MaxContextSize : Nat := 255

inductive HkdfError
  | prkTooShort (length : Nat)
  | outputTooLong (length : Nat)
  | tlsLabelEmpty
  | tlsLabelTooLong (length : Nat)
  | tlsContextTooLong (length : Nat)
  deriving DecidableEq, Repr

def hkdfExtractSha256 (salt ikm : Bytes) : ByteArrayN 32 := hmacSha256 salt ikm

/-- One turn of the loop: the output so far and the block before. The block index fits the one-byte counter. -/
def hkdfExpandStep (prk info : Bytes) (length : Nat) (state : Bytes × ByteArrayN 32) (blockIndex : Nat) :
    Bytes × ByteArrayN 32 :=
  let (output, previousBlock) := state
  let counter : Byte := UInt8.ofNat blockIndex
  let nextBlock :=
    if blockIndex = 1 then hmacSha256Parts prk [info, [counter]]
    else hmacSha256Parts prk [previousBlock.toList, info, [counter]]
  let bytesToCopy := min (length - output.length) sha256DigestSize
  (output ++ nextBlock.toList.take bytesToCopy, nextBlock)

def hkdfExpandSha256 (prk info : Bytes) (length : Nat) : Except HkdfError Bytes :=
  if prk.length < sha256DigestSize then
    .error (.prkTooShort prk.length)
  else if length > hkdfMaxOutputSize then
    .error (.outputTooLong length)
  else
    let blockCount := (length + sha256DigestSize - 1) / sha256DigestSize
    let (output, _) := (List.range' 1 blockCount).foldl (hkdfExpandStep prk info length) ([], Vector.replicate 32 0)
    .ok output

def buildTls13HkdfLabel (label context : Bytes) (length : Nat) : Except HkdfError Bytes :=
  if label.isEmpty then
    .error .tlsLabelEmpty
  else if label.length > tls13MaxLabelSize then
    .error (.tlsLabelTooLong label.length)
  else if context.length > tls13MaxContextSize then
    .error (.tlsContextTooLong context.length)
  else
    .ok (beBytes 2 length ++ UInt8.ofNat (tls13LabelPrefix.length + label.length) ::
      (tls13LabelPrefix ++ label ++ UInt8.ofNat context.length :: context))

def tls13HkdfExpandLabelSha256 (secret label context : Bytes) (length : Nat) : Except HkdfError Bytes :=
  if length > hkdfMaxOutputSize then
    .error (.outputTooLong length)
  else
    buildTls13HkdfLabel label context length >>= fun info => hkdfExpandSha256 secret info length

/-- Each turn adds a whole block, or what is still missing. -/
theorem length_hkdfExpandLoop (prk info : Bytes) (length count : Nat) :
    ((List.range' 1 count).foldl (hkdfExpandStep prk info length) ([], Vector.replicate 32 0)).1.length =
      min length (sha256DigestSize * count) := by
  induction count with
  | zero => simp
  | succ count ih =>
      rw [List.range'_concat, List.foldl_append, List.foldl_cons, List.foldl_nil]
      simp only [hkdfExpandStep, List.length_append, List.length_take, ih, Vector.length_toList, sha256DigestSize]
      omega

theorem length_hkdfExpandSha256 {prk info output : Bytes} {length : Nat}
    (h : hkdfExpandSha256 prk info length = .ok output) : output.length = length := by
  rw [hkdfExpandSha256] at h
  split at h
  · cases h
  · split at h
    · cases h
    · cases h
      rw [length_hkdfExpandLoop, sha256DigestSize]
      omega

theorem length_tls13HkdfExpandLabelSha256 {secret label context output : Bytes} {length : Nat}
    (h : tls13HkdfExpandLabelSha256 secret label context length = .ok output) : output.length = length := by
  rw [tls13HkdfExpandLabelSha256] at h
  split at h
  · cases h
  · obtain ⟨info, -, hexpand⟩ := bind_eq_ok.mp h
    exact length_hkdfExpandSha256 hexpand

theorem tls13HkdfExpandLabelSha256_isOk {secret label context : Bytes} {length : Nat}
    (hsecret : sha256DigestSize ≤ secret.length) (hlabel : label ≠ []) (hlabelLength : label.length ≤ tls13MaxLabelSize)
    (hcontext : context.length ≤ tls13MaxContextSize) (hlength : length ≤ hkdfMaxOutputSize) :
    ∃ output, tls13HkdfExpandLabelSha256 secret label context length = .ok output := by
  obtain ⟨info, hinfo⟩ : ∃ info, buildTls13HkdfLabel label context length = .ok info := by
    rw [buildTls13HkdfLabel, if_neg (by simpa using hlabel), if_neg (Nat.not_lt.mpr hlabelLength),
      if_neg (Nat.not_lt.mpr hcontext)]
    exact ⟨_, rfl⟩
  obtain ⟨output, houtput⟩ : ∃ output, hkdfExpandSha256 secret info length = .ok output := by
    rw [hkdfExpandSha256, if_neg (Nat.not_lt.mpr hsecret), if_neg (Nat.not_lt.mpr hlength)]
    exact ⟨_, rfl⟩
  refine ⟨output, ?_⟩
  rw [tls13HkdfExpandLabelSha256, if_neg (Nat.not_lt.mpr hlength), hinfo, ok_bind, houtput]

end BareProxy.Crypto
