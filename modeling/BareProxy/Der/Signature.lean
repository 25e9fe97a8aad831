import BareProxy.Der.Values
import BareProxy.P256.Ecdsa

/-!
# Signatures in DER

A signature is a SEQUENCE of two INTEGERs. The reader is the one that the tests of `asn1.rs` check a signature with;
a test that would panic gives no signature.
-/

namespace BareProxy.Der

open P256

def uint256FromDerUnsigned (bytes : Bytes) : Option Uint256 :=
  if bytes.length ≤ 32 then
    some (.fromBeBytes (copyFromSlice 32 (List.replicate (32 - bytes.length) 0 ++ bytes)))
  else none

/-- The two integers of a sequence, with nothing behind them. -/
def readIntegerPair (reader : DerReader) : Except DerError (Bytes × Bytes) := do
  let (r, reader) ← reader.readIntegerUnsigned
  let (s, reader) ← reader.readIntegerUnsigned
  reader.finish
  return (r, s)

def readSignatureIntegers (der : Bytes) : Except DerError (Bytes × Bytes) := do
  let (sequence, reader) ← (DerReader.new der).readExpected derTagSequence
  reader.finish
  readIntegerPair sequence.reader

def readP256Signature (der : Bytes) : Option P256Signature := do
  let (r, s) ← (readSignatureIntegers der).toOption
  let r ← uint256FromDerUnsigned r
  let s ← uint256FromDerUnsigned s
  (P256Signature.fromComponents r s).toOption

def encodeP256SignatureDer (signature : P256Signature) : Bytes :=
  let (r, s) := signature.components
  derSequence [derIntegerUnsigned r.toBeBytes.toList, derIntegerUnsigned s.toBeBytes.toList]

theorem toBeBytes_ne_nil (value : Uint256) : value.toBeBytes.toList ≠ [] := by
  rw [← List.length_pos_iff, value.toBeBytes.length_toList]
  decide

/-- Padding makes up for the zeroes that the encoder left out. -/
theorem uint256FromDerUnsigned_significantBytes (value : Uint256) :
    uint256FromDerUnsigned (significantBytes value.toBeBytes.toList) = some value := by
  have hlength : value.toBeBytes.toList.length = 32 := value.toBeBytes.length_toList
  have hne := toBeBytes_ne_nil value
  have hfits := length_significantBytes hne
  rw [hlength] at hfits
  have hpadded : (List.replicate (32 - (significantBytes value.toBeBytes.toList).length) 0 ++
      significantBytes value.toBeBytes.toList).length = 32 := by
    rw [List.length_append, List.length_replicate]
    omega
  have hbytes : List.replicate (32 - (significantBytes value.toBeBytes.toList).length) 0 ++
      significantBytes value.toBeBytes.toList = value.toBeBytes.toList := by
    apply ofBe_injective (hpadded.trans hlength.symm)
    rw [ofBe_replicate_zero, ofBe_significantBytes]
  rw [uint256FromDerUnsigned, if_pos hfits, hbytes, copyFromSlice_toList, Uint256.fromBeBytes_toBeBytes]

theorem length_derIntegerUnsigned_toBeBytes (value : Uint256) :
    (derIntegerUnsigned value.toBeBytes.toList).length ≤ 35 := by
  have hlength : value.toBeBytes.toList.length = 32 := value.toBeBytes.length_toList
  have hne := toBeBytes_ne_nil value
  have := length_derIntegerUnsigned (by rw [hlength]; decide) hne
  omega

theorem readIntegerPair_hasRest {reader : DerReader} {r s : Bytes}
    (h : reader.HasRest (derIntegerUnsigned r ++ derIntegerUnsigned s)) :
    readIntegerPair reader = .ok (significantBytes r, significantBytes s) := by
  rw [← List.append_nil (derIntegerUnsigned s)] at h
  obtain ⟨afterFirst, hfirst, hrest⟩ := h.readIntegerUnsigned
  obtain ⟨afterSecond, hsecond, hend⟩ := hrest.readIntegerUnsigned
  rw [readIntegerPair, hfirst, ok_bind]
  dsimp only
  rw [hsecond, ok_bind]
  dsimp only
  rw [hend.finish, ok_bind, pure_eq_ok]

theorem fromComponents_components (signature : P256Signature) :
    P256Signature.fromComponents signature.r.value signature.s.value = .ok signature := by
  have hcomponent {scalar : Scalar} (h : scalar ≠ .zero) :
      ¬(scalar.value = .zero ∨ scalar.value.cmp p256GroupOrder ≠ .lt) := by
    refine not_or.2 ⟨?_, not_not.2 (Uint256.cmp_eq_lt.2 scalar.value_lt)⟩
    intro hzero
    obtain ⟨value, hlt⟩ := scalar
    subst hzero
    exact h rfl
  rw [P256Signature.fromComponents, dif_neg (hcomponent signature.r_ne_zero), dif_neg (hcomponent signature.s_ne_zero)]

theorem length_encodeP256SignatureDer (signature : P256Signature) : (encodeP256SignatureDer signature).length < 130 := by
  have hr := length_derIntegerUnsigned_toBeBytes signature.r.value
  have hs := length_derIntegerUnsigned_toBeBytes signature.s.value
  have hcontent : [derIntegerUnsigned signature.r.value.toBeBytes.toList,
      derIntegerUnsigned signature.s.value.toBeBytes.toList].flatten.length < 128 := by
    simp only [List.flatten_cons, List.flatten_nil, List.length_append, List.length_nil]
    omega
  show (derSequence _).length < 130
  rw [derSequence, length_derWrap hcontent]
  omega

/-- A signature is read back from its encoding. -/
theorem readP256Signature_encodeP256SignatureDer (signature : P256Signature) :
    readP256Signature (encodeP256SignatureDer signature) = some signature := by
  have hlength : (encodeP256SignatureDer signature).length ≤ usizeMax :=
    (length_encodeP256SignatureDer signature).le.trans (by decide)
  have hread : readSignatureIntegers (encodeP256SignatureDer signature) =
      .ok (significantBytes signature.r.value.toBeBytes.toList, significantBytes signature.s.value.toBeBytes.toList) := by
    obtain ⟨reader, hsequence, hend, hcontent⟩ :=
      @DerReader.readExpected_encode derTagSequence [derIntegerUnsigned signature.r.value.toBeBytes.toList,
        derIntegerUnsigned signature.s.value.toBeBytes.toList].flatten (by decide) hlength
    rw [List.flatten_cons, List.flatten_singleton] at hcontent
    change (DerReader.new (encodeP256SignatureDer signature)).readExpected derTagSequence = _ at hsequence
    rw [readSignatureIntegers, hsequence, ok_bind]
    dsimp only
    rw [hend, ok_bind]
    rw [DerValue.reader, List.flatten_cons, List.flatten_singleton]
    exact readIntegerPair_hasRest hcontent
  simp only [readP256Signature, hread, Except.toOption, Option.bind_eq_bind, Option.bind_some,
    uint256FromDerUnsigned_significantBytes, fromComponents_components]

end BareProxy.Der
