import BareProxy.Der.Canonical
import BareProxy.Der.Pem
import BareProxy.P256.Group

/-!
# Stored private keys

The RFC 5915 encoding of a P-256 private key, in DER and in PEM. The decoder accepts one encoding of the number and of
each of the two optional fields, and these in any order.
-/

namespace BareProxy.Der

open P256

/-! ### Encoding -/

def p256Parameters : Bytes := expectOk (derObjectIdentifier oidSecp256r1) derObjectIdentifier_oidSecp256r1_isOk

def encodeP256Sec1PrivateKeyDer (privateKey : Scalar) : Except DerError Bytes :=
  if privateKey = .zero then .error .invalidP256PrivateKey
  else do
    let publicKey ← mapErr (fun _ => .invalidP256PublicKey) (p256GeneratorMultiply privateKey).toSec1Uncompressed
    let publicKey := derBitString publicKey.toList
    return derSequence [derIntegerUnsigned [1], derOctetString privateKey.value.toBeBytes.toList,
      expectOk (derContextSpecific 0 true p256Parameters) (derContextSpecific_isOk (by decide) _ _),
      expectOk (derContextSpecific 1 true publicKey) (derContextSpecific_isOk (by decide) _ _)]

def ecPrivateKeyLabel : Bytes := ascii "EC PRIVATE KEY"

def encodeP256Sec1PrivateKeyPem (privateKey : Scalar) : Except DerError Bytes := do
  let der ← encodeP256Sec1PrivateKeyDer privateKey
  pemEncode ecPrivateKeyLabel der

/-! ### Decoding -/

/-- One turn of the loop over the optional fields, with whether the parameters and the public key were seen. -/
def readKeyField (privateKey : Scalar) (seen : Bool × Bool) (optional : DerValue) : Except DerError (Bool × Bool) :=
  if optional.tag = 0xa0 ∧ seen.1 = false then do
    let (curve, parameters) ← optional.reader.readExpected derTagObjectIdentifier
    parameters.finish
    ensure (curve.content = oidSecp256r1Content) .invalidP256PrivateKey
    return (true, seen.2)
  else if optional.tag = 0xa1 ∧ seen.2 = false then do
    let (encodedPublicKey, encodedPublicKeyReader) ← optional.reader.readExpected derTagBitString
    encodedPublicKeyReader.finish
    ensure (encodedPublicKey.content.head? = some 0) .invalidP256PublicKey
    let publicKey ← mapErr (fun _ => .invalidP256PublicKey)
      (P256Point.fromSec1Uncompressed (encodedPublicKey.content.drop 1))
    ensure (publicKey = p256GeneratorMultiply privateKey) .invalidP256PublicKey
    return (seen.1, true)
  else .error .invalidP256PrivateKey

def decodeP256Sec1PrivateKeyDer (der : Bytes) : Except DerError Scalar := do
  let (sequence, outer) ← (DerReader.new der).readExpected derTagSequence
  outer.finish
  let (version, key) ← sequence.reader.readIntegerUnsigned
  ensure (version = [1]) .invalidP256PrivateKey
  let (octets, key) ← key.readExpected derTagOctetString
  ensure (octets.content.length = 32) .invalidP256PrivateKey
  let privateValue := Uint256.fromBeBytes (copyFromSlice 32 octets.content)
  let privateKey : Scalar := .new privateValue
  ensure (¬(privateKey = .zero ∨ privateKey.value ≠ privateValue)) .invalidP256PrivateKey
  let _ ← key.readAll (readKeyField privateKey) (false, false)
  return privateKey

def decodeP256Sec1PrivateKeyPem (input : Bytes) : Except DerError Scalar := do
  let der ← pemDecode ecPrivateKeyLabel input
  decodeP256Sec1PrivateKeyDer der

/-! ### The optional fields -/

def parametersField : DerValue := ⟨0xa0, derWrap derTagObjectIdentifier oidSecp256r1Content⟩

def publicKeyField (encoded : Bytes) : DerValue := ⟨0xa1, derBitString encoded⟩

theorem publicKeyField_ne_parametersField (encoded : Bytes) : publicKeyField encoded ≠ parametersField := by
  intro heq
  exact absurd (congrArg DerValue.tag heq) (by decide : ¬(0xa1 : Byte) = 0xa0)

theorem readKeyField_parameters (privateKey : Scalar) (second : Bool) :
    readKeyField privateKey (false, second) parametersField = .ok (true, second) := by
  have hread : parametersField.reader.readExpected derTagObjectIdentifier =
      .ok (⟨derTagObjectIdentifier, oidSecp256r1Content⟩, ⟨parametersField.content, 10⟩) := by decide
  rw [readKeyField, if_pos ⟨rfl, rfl⟩, hread]
  rfl

section Fields

variable {privateKey : Scalar} {encoded : ByteArrayN 65}
  (hencoded : (p256GeneratorMultiply privateKey).toSec1Uncompressed = .ok encoded)

include hencoded

theorem fromSec1Uncompressed_publicKey (hkey : privateKey ≠ .zero) :
    P256Point.fromSec1Uncompressed encoded.toList = .ok (p256GeneratorMultiply privateKey) := by
  obtain ⟨encoded', hencoded', hdecoded⟩ := fromSec1Uncompressed_generatorMultiply hkey
  rw [hencoded] at hencoded'
  rwa [Except.ok.inj hencoded']

theorem readKeyField_publicKey (hkey : privateKey ≠ .zero) (first : Bool) :
    readKeyField privateKey (first, false) (publicKeyField encoded.toList) = .ok (first, true) := by
  have hlength : (derWrap derTagBitString (0 :: encoded.toList)).length ≤ usizeMax := by
    rw [length_derWrap (by simp)]
    simp [usizeMax]
  obtain ⟨reader, hread, hfinish, -⟩ := DerReader.readExpected_encode (by decide) hlength
  have hread' : (publicKeyField encoded.toList).reader.readExpected derTagBitString =
      .ok (⟨derTagBitString, 0 :: encoded.toList⟩, reader) := hread
  rw [readKeyField, if_neg (by simp [publicKeyField]), if_pos ⟨rfl, rfl⟩, hread', ok_bind]
  dsimp only
  rw [hfinish, ok_bind, List.head?_cons, ensure_of rfl, ok_bind, List.drop_succ_cons, List.drop_zero,
    fromSec1Uncompressed_publicKey hencoded hkey, mapErr_ok, ok_bind, ensure_of rfl]
  rfl

/-- What a field that was accepted holds. -/
theorem readKeyField_ok {seen seen' : Bool × Bool} {optional : DerValue}
    (h : readKeyField privateKey seen optional = .ok seen') :
    (optional = parametersField ∧ seen.1 = false ∧ seen' = (true, seen.2)) ∨
      (optional = publicKeyField encoded.toList ∧ seen.2 = false ∧ seen' = (seen.1, true)) := by
  rw [readKeyField] at h
  obtain ⟨tag, content⟩ := optional
  split at h
  · rename_i hcase
    obtain ⟨⟨curve, parameters⟩, hread, h⟩ := bind_eq_ok.1 h
    obtain ⟨_, hfinish, h⟩ := bind_eq_ok.1 h
    obtain ⟨_, hcurve, h⟩ := bind_eq_ok.1 h
    cases h
    have hcontent := (DerReader.eq_encode_of_readExpected hread hfinish).1
    rw [ensure_eq_ok.1 hcurve] at hcontent
    obtain rfl : tag = 0xa0 := hcase.1
    obtain rfl : content = derWrap derTagObjectIdentifier oidSecp256r1Content := hcontent
    exact Or.inl ⟨rfl, hcase.2, rfl⟩
  · split at h
    · rename_i hcase
      obtain ⟨⟨value, reader⟩, hread, h⟩ := bind_eq_ok.1 h
      obtain ⟨_, hfinish, h⟩ := bind_eq_ok.1 h
      obtain ⟨_, hunused, h⟩ := bind_eq_ok.1 h
      obtain ⟨publicKey, hpoint, h⟩ := bind_eq_ok.1 h
      obtain ⟨_, hequal, h⟩ := bind_eq_ok.1 h
      cases h
      have hcontent := (DerReader.eq_encode_of_readExpected hread hfinish).1
      obtain ⟨bytes, hbytes⟩ := List.head?_eq_some_iff.1 (ensure_eq_ok.1 hunused)
      rw [hbytes, List.drop_succ_cons, List.drop_zero] at hpoint
      obtain ⟨array, harray, hlist⟩ := P256Point.toSec1Uncompressed_of_fromSec1Uncompressed (mapErr_eq_ok.1 hpoint)
      rw [ensure_eq_ok.1 hequal, hencoded] at harray
      obtain rfl : tag = 0xa1 := hcase.1
      obtain rfl : content = derWrap derTagBitString value.content := hcontent
      refine Or.inr ⟨?_, hcase.2, rfl⟩
      rw [hbytes, ← hlist, Except.ok.inj harray]
      rfl
    · cases h

/-- The loop accepts each of the two fields at most once. -/
theorem foldlM_readKeyField (hkey : privateKey ≠ .zero) {seen : Bool × Bool} {values : List DerValue} :
    (∃ seen', values.foldlM (readKeyField privateKey) seen = .ok seen') ↔
      values.Nodup ∧ ∀ value ∈ values, (value = parametersField ∧ seen.1 = false) ∨
        (value = publicKeyField encoded.toList ∧ seen.2 = false) := by
  have hdistinct := publicKeyField_ne_parametersField encoded.toList
  induction values generalizing seen with
  | nil => exact ⟨fun _ => ⟨List.nodup_nil, fun _ hvalue => absurd hvalue List.not_mem_nil⟩, fun _ => ⟨seen, rfl⟩⟩
  | cons value values ih =>
      rw [List.nodup_cons]
      constructor
      · intro hfacts
        obtain ⟨seen', h⟩ := hfacts
        rw [List.foldlM_cons, bind_eq_ok] at h
        obtain ⟨seen₁, hstep, hrest⟩ := h
        obtain ⟨hnodup, hall⟩ := ih.1 ⟨seen', hrest⟩
        rcases readKeyField_ok hencoded hstep with ⟨rfl, hseen, rfl⟩ | ⟨rfl, hseen, rfl⟩
        · refine ⟨⟨fun hmem => ?_, hnodup⟩, fun value hvalue => ?_⟩
          · rcases hall _ hmem with ⟨-, hfalse⟩ | ⟨heq, -⟩
            · exact Bool.noConfusion hfalse
            · exact hdistinct heq.symm
          · rcases List.mem_cons.1 hvalue with rfl | hvalue
            · exact Or.inl ⟨rfl, hseen⟩
            · exact (hall value hvalue).imp (fun h => ⟨h.1, hseen⟩) id
        · refine ⟨⟨fun hmem => ?_, hnodup⟩, fun value hvalue => ?_⟩
          · rcases hall _ hmem with ⟨heq, -⟩ | ⟨-, hfalse⟩
            · exact hdistinct heq
            · exact Bool.noConfusion hfalse
          · rcases List.mem_cons.1 hvalue with rfl | hvalue
            · exact Or.inr ⟨rfl, hseen⟩
            · exact (hall value hvalue).imp id fun h => ⟨h.1, hseen⟩
      · intro hfacts
        obtain ⟨⟨hnew, hnodup⟩, hall⟩ := hfacts
        obtain ⟨first, second⟩ := seen
        simp only [List.foldlM_cons]
        rcases hall value List.mem_cons_self with ⟨rfl, hseen⟩ | ⟨rfl, hseen⟩
        · obtain rfl : first = false := hseen
          rw [readKeyField_parameters, ok_bind]
          refine ih.2 ⟨hnodup, fun value hvalue => ?_⟩
          rcases hall value (List.mem_cons_of_mem _ hvalue) with ⟨rfl, -⟩ | hother
          · exact absurd hvalue hnew
          · exact Or.inr hother
        · obtain rfl : second = false := hseen
          rw [readKeyField_publicKey hencoded hkey, ok_bind]
          refine ih.2 ⟨hnodup, fun value hvalue => ?_⟩
          rcases hall value (List.mem_cons_of_mem _ hvalue) with hother | ⟨rfl, -⟩
          · exact Or.inl hother
          · exact absurd hvalue hnew

end Fields

/-! ### What is accepted -/

/-- The encodings of a private key: the version, the number, and each optional field at most once. -/
structure IsSec1PrivateKey (privateKey : Scalar) (publicKey : ByteArrayN 65) (der : Bytes) (optionals : List DerValue) :
    Prop where
  nonzero : privateKey ≠ .zero
  encoded : (p256GeneratorMultiply privateKey).toSec1Uncompressed = .ok publicKey
  once : optionals.Nodup
  fields : ∀ optional ∈ optionals, optional = parametersField ∨ optional = publicKeyField publicKey.toList
  layout : der = derSequence
    (derIntegerUnsigned [1] :: derOctetString privateKey.value.toBeBytes.toList :: optionals.map DerValue.encode)
  fits : der.length ≤ usizeMax

/-- Only the encodings of a private key are accepted. -/
theorem isSec1PrivateKey_of_decode {der : Bytes} {privateKey : Scalar}
    (h : decodeP256Sec1PrivateKeyDer der = .ok privateKey) :
    ∃ publicKey optionals, IsSec1PrivateKey privateKey publicKey der optionals := by
  obtain ⟨⟨sequence, outer⟩, hsequence, h⟩ := bind_eq_ok.1 h
  obtain ⟨_, hfinish, h⟩ := bind_eq_ok.1 h
  obtain ⟨⟨version, key₁⟩, hversion, h⟩ := bind_eq_ok.1 h
  obtain ⟨_, hone, h⟩ := bind_eq_ok.1 h
  obtain ⟨⟨octets, key₂⟩, hoctets, h⟩ := bind_eq_ok.1 h
  obtain ⟨_, hlength, h⟩ := bind_eq_ok.1 h
  obtain ⟨_, hrange, h⟩ := bind_eq_ok.1 h
  obtain ⟨seen, hloop, h⟩ := bind_eq_ok.1 h
  have hkey := Except.ok.inj h
  rw [ensure_eq_ok] at hone hlength hrange
  subst hone
  obtain ⟨hder, hfits⟩ := DerReader.eq_encode_of_readExpected hsequence hfinish
  -- the version
  obtain ⟨hrest₁, -, -⟩ := DerReader.readIntegerUnsigned_ok hversion
  -- the number
  obtain ⟨htag₂, hread₂⟩ := DerReader.readExpected_ok hoctets
  obtain ⟨hrest₂, -, -, -, hroom⟩ := DerReader.readTlv_ok hread₂
  have hnumber : privateKey.value.toBeBytes.toList = octets.content := by
    rw [not_or, not_not] at hrange
    rw [← hkey, hrange.2, Uint256.toBeBytes_fromBeBytes, toList_copyFromSlice hlength]
  rw [DerValue.encode, htag₂, ← hnumber] at hrest₂
  -- the optional fields
  have hnonzero : privateKey ≠ .zero := by
    rw [← hkey]
    exact (not_or.1 hrange).1
  obtain ⟨publicKey, hpublicKey, -⟩ := fromSec1Uncompressed_generatorMultiply hnonzero
  rw [hkey] at hloop
  obtain ⟨optionals, hrest₃, hfold⟩ := DerReader.readAll_ok hroom hloop
  obtain ⟨honce, hfields⟩ := (foldlM_readKeyField hpublicKey hnonzero).1 ⟨seen, hfold⟩
  refine ⟨publicKey, optionals, hnonzero, hpublicKey, honce, fun optional hoptional =>
    (hfields optional hoptional).imp And.left And.left, ?_, hfits⟩
  rw [hder, derSequence, List.flatten_cons, List.flatten_cons, ← List.flatMap_def, ← hrest₃]
  have hcontent : sequence.content = sequence.reader.rest := rfl
  rw [hcontent, hrest₁, hrest₂, derOctetString]

/-- All of the encodings of a private key are accepted. -/
theorem decode_of_isSec1PrivateKey {der : Bytes} {privateKey : Scalar} {publicKey : ByteArrayN 65}
    {optionals : List DerValue} (h : IsSec1PrivateKey privateKey publicKey der optionals) :
    decodeP256Sec1PrivateKeyDer der = .ok privateKey := by
  obtain ⟨hnonzero, hpublicKey, honce, hfields, rfl, hfits⟩ := h
  have hcontent : (derIntegerUnsigned [1] :: derOctetString privateKey.value.toBeBytes.toList ::
      optionals.map DerValue.encode).flatten = derIntegerUnsigned [1] ++
        (derOctetString privateKey.value.toBeBytes.toList ++ optionals.flatMap DerValue.encode) := by
    rw [List.flatten_cons, List.flatten_cons, ← List.flatMap_def]
  rw [derSequence, hcontent] at hfits ⊢
  obtain ⟨outer, hsequence, hfinish, hrest₁⟩ := DerReader.readExpected_encode (by decide) hfits
  obtain ⟨key₁, hversion, hrest₂⟩ := hrest₁.readIntegerUnsigned
  obtain ⟨key₂, hoctets, hrest₃, -⟩ := hrest₂.readExpected (by decide)
  obtain ⟨seen, hfold⟩ := (@foldlM_readKeyField _ _ hpublicKey hnonzero (false, false) optionals).2
    ⟨honce, fun optional hoptional => (hfields optional hoptional).imp (⟨·, rfl⟩) (⟨·, rfl⟩)⟩
  have hlow : ∀ optional ∈ optionals, optional.tag &&& derHighTagNumber ≠ derHighTagNumber := by
    intro optional hoptional
    rcases hfields optional hoptional with rfl | rfl
    · decide
    · show (0xa1 : Byte) &&& derHighTagNumber ≠ derHighTagNumber
      decide
  have hloop := @DerReader.readAll_encode _ _ (readKeyField privateKey) optionals hlow hrest₃ (false, false)
  rw [hfold] at hloop
  have hnumber : Uint256.fromBeBytes (copyFromSlice 32 privateKey.value.toBeBytes.toList) = privateKey.value := by
    rw [copyFromSlice_toList, Uint256.fromBeBytes_toBeBytes]
  have hscalar : (.new privateKey.value : Scalar) = privateKey := Residue.new_value privateKey
  rw [decodeP256Sec1PrivateKeyDer, hsequence, ok_bind]
  dsimp only
  rw [hfinish, ok_bind, DerValue.reader, hversion, ok_bind]
  dsimp only
  rw [ensure_of (by decide), ok_bind, hoctets, ok_bind]
  dsimp only
  rw [ensure_of (by simp), ok_bind, hnumber, hscalar, ensure_of (by simp [hnonzero]), ok_bind, hloop]
  rfl

/-! ### What is stored is read back -/

/-- The encoder writes both optional fields. -/
theorem encodeP256Sec1PrivateKeyDer_ok {privateKey : Scalar} (h : privateKey ≠ .zero) :
    ∃ der publicKey, encodeP256Sec1PrivateKeyDer privateKey = .ok der ∧
      IsSec1PrivateKey privateKey publicKey der [parametersField, publicKeyField publicKey.toList] := by
  obtain ⟨publicKey, hpublicKey, -⟩ := fromSec1Uncompressed_generatorMultiply h
  have hparameters : p256Parameters = derWrap derTagObjectIdentifier oidSecp256r1Content :=
    expectOk_eq derObjectIdentifier_contents.2.1 _
  refine ⟨_, publicKey, ?_, h, hpublicKey, ?_, by simp, rfl, ?_⟩
  · rw [encodeP256Sec1PrivateKeyDer, if_neg h, hpublicKey, mapErr_ok, ok_bind]
    dsimp only
    rw [expectOk_derContextSpecific 0 (by decide), expectOk_derContextSpecific 1 (by decide), hparameters]
    rfl
  · simp [(publicKeyField_ne_parametersField publicKey.toList).symm]
  · have hnumber : (derOctetString privateKey.value.toBeBytes.toList).length = 34 := by
      rw [derOctetString, length_derWrap] <;> simp
    have hfield : (publicKeyField publicKey.toList).encode.length = 70 := by
      show (derWrap 0xa1 (derWrap derTagBitString (0 :: publicKey.toList))).length = 70
      rw [length_derWrap, length_derWrap] <;> simp [length_derWrap]
    have hinteger : (derIntegerUnsigned [1]).length = 3 := by decide
    have hparametersField : parametersField.encode.length = 12 := by decide
    have hlength : (derIntegerUnsigned [1] :: derOctetString privateKey.value.toBeBytes.toList ::
        [parametersField, publicKeyField publicKey.toList].map DerValue.encode).flatten.length = 119 := by
      simp [hnumber, hfield, hinteger, hparametersField]
    rw [derSequence, length_derWrap (by rw [hlength]; decide), hlength]
    decide

/-- Every private key is read back from its DER and its PEM, and DER that is read as one holds its number, which is in
range, and no other public key than its own. -/
theorem p256Sec1PrivateKey_stored :
    (∀ privateKey : Scalar, privateKey ≠ .zero →
      (∃ der, encodeP256Sec1PrivateKeyDer privateKey = .ok der ∧ decodeP256Sec1PrivateKeyDer der = .ok privateKey) ∧
      ∃ pem, encodeP256Sec1PrivateKeyPem privateKey = .ok pem ∧ decodeP256Sec1PrivateKeyPem pem = .ok privateKey) ∧
    ∀ (der : Bytes) (privateKey : Scalar), decodeP256Sec1PrivateKeyDer der = .ok privateKey →
      (0 < privateKey.value.toNat ∧ privateKey.value.toNat < p256GroupOrder.toNat) ∧
      ∃ (publicKey : ByteArrayN 65) (optionals : List DerValue),
        (p256GeneratorMultiply privateKey).toSec1Uncompressed = .ok publicKey ∧
        der = derSequence (derIntegerUnsigned [1] :: derOctetString privateKey.value.toBeBytes.toList ::
          optionals.map DerValue.encode) ∧
        ∀ optional ∈ optionals, optional = parametersField ∨ optional = publicKeyField publicKey.toList := by
  constructor
  · intro privateKey h
    obtain ⟨der, publicKey, hencode, hder⟩ := encodeP256Sec1PrivateKeyDer_ok h
    have hdecode := decode_of_isSec1PrivateKey hder
    obtain ⟨pem, hpem, hread⟩ := pemDecode_pemEncode (show validatePemLabel ecPrivateKeyLabel = .ok () by decide) der
    refine ⟨⟨der, hencode, hdecode⟩, pem, ?_, ?_⟩
    · rw [encodeP256Sec1PrivateKeyPem, hencode, ok_bind, hpem]
    · rw [decodeP256Sec1PrivateKeyPem, hread, ok_bind, hdecode]
  · intro der privateKey h
    obtain ⟨publicKey, optionals, hder⟩ := isSec1PrivateKey_of_decode h
    have hpos := value_ne_zero hder.nonzero
    refine ⟨⟨?_, privateKey.value_lt⟩, publicKey, optionals, hder.encoded, hder.layout, hder.fields⟩
    rw [Nat.pos_iff_ne_zero]
    intro hzero
    exact hpos (hzero ▸ Nat.dvd_zero _)

end BareProxy.Der
