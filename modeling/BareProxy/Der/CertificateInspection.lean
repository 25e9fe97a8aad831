import BareProxy.Der.Certificate
import BareProxy.Der.ObjectIdentifier

/-!
# What inspection says of a certificate

The parser of `asn1.rs` on certificates that were assembled with the encoders next to it.
-/

namespace BareProxy.Der

open P256

namespace DerReader.HasRest

variable {reader : DerReader} {tag : Byte} {content more : Bytes}

theorem readTlv (h : HasRest reader (derWrap tag content ++ more)) (htag : tag &&& derHighTagNumber ≠ derHighTagNumber) :
    ∃ reader', reader.readTlv = .ok (⟨tag, content⟩, reader') ∧ HasRest reader' more ∧
      HasRest (.new content) content := by
  obtain ⟨reader', hread, hmore, hcontent⟩ := h.readExpected htag
  exact ⟨reader', (readExpected_ok hread).2, hmore, hcontent⟩

/-- The contents of values in a region fit into memory too. -/
theorem content_of_mem {values : List DerValue} (h : HasRest reader (values.flatMap DerValue.encode)) {value : DerValue}
    (hvalue : value ∈ values) : HasRest (.new value.content) value.content := by
  obtain ⟨front, back, rfl⟩ := List.append_of_mem hvalue
  have hlength := congrArg List.length h.rest
  have hcontent := length_le_derWrap value.tag value.content
  have hfits := h.fits
  rw [length_rest, remaining, List.flatMap_append, List.flatMap_cons, List.length_append, List.length_append,
    DerValue.encode] at hlength
  exact .new (by omega)

end DerReader.HasRest

/-! ### Validity -/

theorem value_tag_low (time : X509Time) (form : TimeForm) :
    (time.value form).tag &&& derHighTagNumber ≠ derHighTagNumber := by
  cases form with
  | utc => exact (by decide : derTagUtcTime &&& derHighTagNumber ≠ derHighTagNumber)
  | generalized => exact (by decide : derTagGeneralizedTime &&& derHighTagNumber ≠ derHighTagNumber)

theorem parseX509Validity_times {notBefore notAfter : X509Time} {beforeForm afterForm : TimeForm}
    (hbefore : notBefore.Valid) (hbeforeForm : beforeForm.Covers notBefore) (hafter : notAfter.Valid)
    (hafterForm : afterForm.Covers notAfter) {content : Bytes}
    (heq : content = (notBefore.value beforeForm).encode ++ (notAfter.value afterForm).encode)
    (h : DerReader.HasRest (.new content) content) :
    parseX509Validity ⟨derTagSequence, content⟩ = .ok ⟨notBefore, notAfter⟩ := by
  rw [heq] at h ⊢
  obtain ⟨reader, hread, hmore, -⟩ := h.readTlv (value_tag_low notBefore beforeForm)
  rw [← List.append_nil (DerValue.encode _)] at hmore
  obtain ⟨reader', hread', hend, -⟩ := hmore.readTlv (value_tag_low notAfter afterForm)
  rw [parseX509Validity, DerValue.reader, hread, ok_bind]
  dsimp only
  rw [parseX509Time_value hbefore hbeforeForm, ok_bind, hread', ok_bind]
  dsimp only
  rw [parseX509Time_value hafter hafterForm, ok_bind, hend.finish]
  rfl

/-! ### Extensions -/

namespace CertificateExtension

variable {extension : CertificateExtension}

/-- What an extension is made of behind the encoding of its name. -/
def content (extension : CertificateExtension) (identifier : Bytes) : Bytes :=
  derWrap derTagObjectIdentifier identifier ++ (extension.flag.flatten ++ derOctetString extension.value)

/-- The value that an extension is written as. -/
def IsEncodedAs (extension : CertificateExtension) (value : DerValue) : Prop :=
  ∃ identifier, derObjectIdentifier extension.oid = .ok (derWrap derTagObjectIdentifier identifier) ∧
    value = ⟨derTagSequence, extension.content identifier⟩

theorem der_ok {bytes : Bytes} (h : extension.der = .ok bytes) :
    ∃ value, extension.IsEncodedAs value ∧ bytes = value.encode := by
  obtain ⟨encoded, hencoded, h⟩ := bind_eq_ok.1 h
  cases h
  obtain ⟨first, second, more, -, -, hidentifier⟩ := derObjectIdentifier_ok hencoded
  rw [hidentifier] at hencoded
  refine ⟨_, ⟨_, hencoded, rfl⟩, ?_⟩
  rw [hidentifier, derSequence, List.flatten_append, List.flatten_append, List.flatten_singleton,
    List.flatten_singleton, List.append_assoc]
  rfl

theorem mapM_der_ok {extensions : List CertificateExtension} {elements : List Bytes}
    (h : extensions.mapM CertificateExtension.der = .ok elements) :
    ∃ values, List.Forall₂ IsEncodedAs extensions values ∧ (∀ value ∈ values, value.tag = derTagSequence) ∧
      elements = values.map DerValue.encode := by
  induction extensions generalizing elements with
  | nil =>
      cases h
      exact ⟨[], .nil, List.forall_mem_nil _, rfl⟩
  | cons extension extensions ih =>
      rw [List.mapM_cons] at h
      obtain ⟨bytes, hbytes, h⟩ := bind_eq_ok.1 h
      obtain ⟨elements, helements, h⟩ := bind_eq_ok.1 h
      cases h
      obtain ⟨value, hvalue, rfl⟩ := der_ok hbytes
      obtain ⟨values, hvalues, htags, rfl⟩ := ih helements
      have htag : value.tag = derTagSequence := by
        obtain ⟨identifier, -, rfl⟩ := hvalue
        rfl
      exact ⟨value :: values, .cons hvalue hvalues, List.forall_mem_cons.2 ⟨htag, htags⟩, rfl⟩

theorem oid_le (h : extension.WellFormed) : ∀ arc ∈ extension.oid, arc ≤ u64Max := by
  cases extension with
  | subjectAltName critical names => exact (by decide : ∀ arc ∈ oidSubjectAltName, arc ≤ u64Max)
  | other oid critical value => exact h.2

/-- Only the name of SubjectAltName is encoded as that. -/
theorem content_eq_iff (h : extension.WellFormed) {identifier : Bytes}
    (hidentifier : derObjectIdentifier extension.oid = .ok (derWrap derTagObjectIdentifier identifier)) :
    identifier = oidSubjectAltNameContent ↔ extension.oid = oidSubjectAltName := by
  have hname := derObjectIdentifier_contents.2.2
  constructor
  · rintro rfl
    exact derObjectIdentifier_injective (oid_le h) (by decide) hidentifier hname
  · intro hoid
    rw [hoid, hname] at hidentifier
    exact derWrap_injective _ (Except.ok.inj hidentifier).symm

theorem readExtensionValue_flag (extension : CertificateExtension) {reader : DerReader}
    (h : reader.HasRest (extension.flag.flatten ++ derOctetString extension.value)) :
    ∃ reader', readExtensionValue reader = .ok (⟨derTagOctetString, extension.value⟩, reader') ∧
      reader'.finish = .ok () ∧ DerReader.HasRest (.new extension.value) extension.value := by
  rw [flag] at h
  cases hcritical : extension.critical with
  | none =>
      rw [hcritical, Option.toList_none, List.map_nil, List.flatten_nil, List.nil_append, derOctetString,
        ← List.append_nil (derWrap _ _)] at h
      obtain ⟨reader', hread, hend, hvalue⟩ := h.readTlv (by decide)
      refine ⟨reader', ?_, hend.finish, hvalue⟩
      rw [readExtensionValue, hread, ok_bind]
      dsimp only
      rw [if_neg (by decide), ensure_of rfl]
      rfl
  | some critical =>
      rw [hcritical, Option.toList_some, List.map_singleton, List.flatten_singleton, derOctetString] at h
      obtain ⟨reader', hread, hmore, -⟩ := h.readTlv (by decide)
      obtain ⟨reader'', hread', hend, hvalue⟩ := hmore.readLast (by decide)
      refine ⟨reader'', ?_, hend, hvalue⟩
      rw [readExtensionValue, hread, ok_bind]
      dsimp only
      rw [if_pos rfl, ensure_of (by cases critical <;> decide), ok_bind, hread']

theorem parseX509SubjectAltName_value (h : extension.WellFormed) (hoid : extension.oid = oidSubjectAltName)
    (hvalue : extension.value.length ≤ usizeMax) :
    parseX509SubjectAltName extension.value = .ok extension.dnsNames := by
  cases extension with
  | subjectAltName critical names =>
      exact parseX509SubjectAltName_generalNames (fun name hname => (h name hname).1) (fun name hname => (h name hname).2)
        hvalue
  | other oid critical value => exact absurd hoid h.1

theorem dnsNames_of_ne (hoid : extension.oid ≠ oidSubjectAltName) : extension.dnsNames = [] := by
  cases extension with
  | subjectAltName critical names => exact absurd rfl hoid
  | other oid critical value => rfl

/-- One turn: the names of SubjectAltName are taken, and other extensions are passed over. -/
theorem readExtension_encoded (h : extension.WellFormed) {value : DerValue} (hencoded : extension.IsEncodedAs value)
    (hcontent : DerReader.HasRest (.new value.content) value.content) (state : NamesState)
    (hseen : extension.oid = oidSubjectAltName → state.seen = false) :
    readExtension state value =
      .ok (if extension.oid = oidSubjectAltName then ⟨true, extension.dnsNames⟩ else state) := by
  obtain ⟨identifier, hidentifier, rfl⟩ := hencoded
  obtain ⟨reader, hread, hmore, -⟩ := hcontent.readExpected (by decide)
  obtain ⟨reader', hread', hend, hvalue⟩ := readExtensionValue_flag extension hmore
  rw [readExtension, ensure_of rfl, ok_bind, DerValue.reader, hread, ok_bind]
  dsimp only
  rw [hread', ok_bind]
  dsimp only
  rw [hend, ok_bind]
  by_cases hoid : extension.oid = oidSubjectAltName
  · have hstate := hseen hoid
    rw [if_pos ((content_eq_iff h hidentifier).2 hoid), if_pos hoid, ensure_of (by rw [hstate]; decide), ok_bind,
      parseX509SubjectAltName_value h hoid hvalue.fits]
    rfl
  · rw [if_neg (mt (content_eq_iff h hidentifier).1 hoid), if_neg hoid]
    rfl

/-- The names of all extensions, of which one has any. -/
theorem foldlM_readExtension {extensions : List CertificateExtension} {values : List DerValue}
    (hencoded : List.Forall₂ IsEncodedAs extensions values) (hwellFormed : ∀ extension ∈ extensions, extension.WellFormed)
    (hdistinct : (extensions.map oid).Nodup)
    (hcontent : ∀ value ∈ values, DerReader.HasRest (.new value.content) value.content) {state : NamesState}
    (hseen : oidSubjectAltName ∈ extensions.map oid → state = ⟨false, []⟩) :
    ∃ state', values.foldlM readExtension state = .ok state' ∧
      state'.dnsNames = state.dnsNames ++ extensions.flatMap dnsNames := by
  induction hencoded generalizing state with
  | nil => exact ⟨state, rfl, (List.append_nil _).symm⟩
  | @cons extension value extensions values hvalue hvalues ih =>
      rw [List.map_cons, List.nodup_cons] at hdistinct
      have hstep := readExtension_encoded (hwellFormed extension List.mem_cons_self) hvalue
        (hcontent value List.mem_cons_self) state (fun hoid => by
          rw [hseen (by rw [List.map_cons, hoid]; exact List.mem_cons_self)])
      have hmore {state' : NamesState} (hstate' : oidSubjectAltName ∈ extensions.map oid → state' = ⟨false, []⟩) :=
        ih (fun other hother => hwellFormed other (List.mem_cons_of_mem _ hother)) hdistinct.2
          (fun other hother => hcontent other (List.mem_cons_of_mem _ hother)) hstate'
      rw [List.foldlM_cons, hstep, ok_bind, List.flatMap_cons]
      by_cases hoid : extension.oid = oidSubjectAltName
      · have hstate := hseen (by rw [List.map_cons, hoid]; exact List.mem_cons_self)
        obtain ⟨state', hfold, hnames⟩ := @hmore ⟨true, extension.dnsNames⟩
          (fun hmem => absurd (hoid ▸ hmem) hdistinct.1)
        rw [if_pos hoid]
        refine ⟨state', hfold, ?_⟩
        rw [hnames, hstate, List.nil_append]
      · obtain ⟨state', hfold, hnames⟩ := @hmore state (fun hmem => hseen (List.mem_cons_of_mem _ hmem))
        rw [if_neg hoid]
        refine ⟨state', hfold, ?_⟩
        rw [hnames, dnsNames_of_ne hoid, List.nil_append]

theorem parseX509Extensions_der {extensions : List CertificateExtension} {elements : List Bytes}
    (hwellFormed : ∀ extension ∈ extensions, extension.WellFormed) (hdistinct : (extensions.map oid).Nodup)
    (h : extensions.mapM CertificateExtension.der = .ok elements) (hfits : (derSequence elements).length ≤ usizeMax) :
    parseX509Extensions (derSequence elements) = .ok (extensions.flatMap dnsNames) := by
  obtain ⟨values, hvalues, htags, rfl⟩ := mapM_der_ok h
  have hlow : ∀ value ∈ values, value.tag &&& derHighTagNumber ≠ derHighTagNumber := by
    intro value hvalue
    rw [htags value hvalue]
    decide
  rw [derSequence, ← List.flatMap_def] at hfits ⊢
  obtain ⟨explicit, hread, hend, hcontent⟩ := DerReader.readExpected_encode (by decide) hfits
  obtain ⟨state, hfold, hnames⟩ := foldlM_readExtension hvalues hwellFormed hdistinct
    (fun value hvalue => hcontent.content_of_mem hvalue) (fun _ => rfl)
  rw [parseX509Extensions, hread, ok_bind]
  dsimp only
  rw [hend, ok_bind, DerValue.reader, DerReader.readAll_encode hlow hcontent, hfold, ok_bind, hnames, List.nil_append]
  rfl

end CertificateExtension

/-! ### The signed part -/

theorem readVersion_three {tbs : DerReader} {serialNumber more : Bytes} (hserial : serialNumber ≠ [])
    (h : tbs.HasRest (derWrap 0xa0 (derIntegerUnsigned [2]) ++ (derWrap derTagInteger serialNumber ++ more))) :
    ∃ tbs', readVersion tbs = .ok (2, tbs') ∧ tbs'.HasRest more := by
  obtain ⟨reader, hread, hmore, hversion⟩ := h.readTlv (by decide)
  obtain ⟨reader', hserialNumber, hrest, -⟩ := hmore.readExpected (by decide)
  rw [← List.append_nil (derIntegerUnsigned _)] at hversion
  obtain ⟨version, hnumber, hend⟩ := hversion.readIntegerUnsigned
  have hvalue : significantBytes [2] = [2] := by decide
  rw [List.append_nil, hvalue] at hnumber
  refine ⟨reader', ?_, hrest⟩
  rw [readVersion, hread, ok_bind]
  dsimp only
  rw [if_pos rfl, DerValue.reader, hnumber, ok_bind]
  dsimp only
  rw [hend.finish, ok_bind, ensure_of (by decide), ok_bind, hserialNumber, ok_bind]
  dsimp only
  rw [ensure_of hserial]
  rfl

namespace X509Certificate

variable {certificate : X509Certificate}

/-- The values behind the public key. -/
def optionalValues (certificate : X509Certificate) (elements : Option (List Bytes)) : List DerValue :=
  certificate.issuerUniqueId.toList.map (DerValue.mk 0x81) ++ certificate.subjectUniqueId.toList.map (DerValue.mk 0x82) ++
    elements.toList.map fun elements => ⟨0xa3, derSequence elements⟩

theorem optionalFields_ok {fields : List Bytes} (h : certificate.optionalFields = .ok fields) :
    ∃ elements : Option (List Bytes), fields = (certificate.optionalValues elements).map DerValue.encode ∧
      (certificate.extensions = none ∧ elements = none ∨ ∃ extensions bytes, certificate.extensions = some extensions ∧
        elements = some bytes ∧ extensions.mapM CertificateExtension.der = .ok bytes) := by
  obtain ⟨encoded, hencoded, h⟩ := bind_eq_ok.1 h
  cases h
  cases hextensions : certificate.extensions with
  | none =>
      rw [hextensions] at hencoded
      cases hencoded
      refine ⟨none, ?_, Or.inl ⟨rfl, rfl⟩⟩
      simp only [optionalValues, List.map_append, List.map_map, Option.toList_none, List.map_nil]
      rfl
  | some extensions =>
      rw [hextensions, Option.toList_some, List.mapM_cons] at hencoded
      obtain ⟨bytes, hbytes, hencoded⟩ := bind_eq_ok.1 hencoded
      obtain ⟨elements, helements, hbytes⟩ := bind_eq_ok.1 hbytes
      rw [derContextSpecific_eq (by decide)] at hbytes
      cases hbytes
      cases hencoded
      refine ⟨some elements, ?_, Or.inr ⟨extensions, elements, rfl, rfl, helements⟩⟩
      simp only [optionalValues, List.map_append, List.map_map, Option.toList_some, List.map_singleton]
      rfl

theorem foldlM_uniqueId {tag : Byte} (htag : tag = 0x81 ∨ tag = 0x82) (uniqueId : Option Bytes) (version : Byte)
    (state : NamesState) :
    (uniqueId.toList.map (DerValue.mk tag)).foldlM (readOptionalField version) state = .ok state := by
  cases uniqueId with
  | none => rfl
  | some content =>
      rw [Option.toList_some, List.map_singleton, List.foldlM_cons, readOptionalField, if_pos htag]
      rfl

/-- Unique identifiers are passed over, and the names come from the extensions. -/
theorem foldlM_readOptionalField (h : certificate.WellFormed) {fields : List Bytes}
    (hfields : certificate.optionalFields = .ok fields) :
    ∃ values : List DerValue, fields = values.map DerValue.encode ∧
      (∀ value ∈ values, value.tag &&& derHighTagNumber ≠ derHighTagNumber) ∧
      ((∀ value ∈ values, DerReader.HasRest (.new value.content) value.content) →
        ∃ state, values.foldlM (readOptionalField 2) ⟨false, []⟩ = .ok state ∧ state.dnsNames = certificate.dnsNames) := by
  obtain ⟨elements, hvalues, hextensions⟩ := optionalFields_ok hfields
  refine ⟨certificate.optionalValues elements, hvalues, ?_, ?_⟩
  · intro value hvalue
    simp only [optionalValues, List.mem_append, List.mem_map] at hvalue
    obtain (⟨content, -, rfl⟩ | ⟨content, -, rfl⟩) | ⟨elements, -, rfl⟩ := hvalue
    · exact (by decide : (0x81 : Byte) &&& derHighTagNumber ≠ derHighTagNumber)
    · exact (by decide : (0x82 : Byte) &&& derHighTagNumber ≠ derHighTagNumber)
    · exact (by decide : (0xa3 : Byte) &&& derHighTagNumber ≠ derHighTagNumber)
  · intro hcontent
    rw [optionalValues, List.foldlM_append, List.foldlM_append, foldlM_uniqueId (Or.inl rfl), ok_bind,
      foldlM_uniqueId (Or.inr rfl), ok_bind, dnsNames]
    obtain ⟨hnone, rfl⟩ | ⟨extensions, bytes, hsome, rfl, hder⟩ := hextensions
    · rw [hnone]
      exact ⟨_, rfl, rfl⟩
    · have hfits := (hcontent ⟨0xa3, derSequence bytes⟩
        (List.mem_append_right _ (by rw [Option.toList_some]; exact List.mem_cons_self))).fits
      have hwellFormed := h.extensions
      have hdistinct := h.distinct
      have htag : ¬((0xa3 : Byte) = 0x81 ∨ (0xa3 : Byte) = 0x82) := by decide
      rw [hsome] at hwellFormed hdistinct ⊢
      rw [Option.toList_some, List.map_singleton, List.foldlM_cons, readOptionalField, if_neg htag, if_pos rfl,
        ensure_of (by decide), ok_bind,
        CertificateExtension.parseX509Extensions_der hwellFormed hdistinct hder hfits]
      exact ⟨_, rfl, rfl⟩

/-- The signed part, behind the encodings of which it is made. -/
def tbsContent (certificate : X509Certificate) (publicKey : Bytes) (fields : List Bytes) : Bytes :=
  derWrap 0xa0 (derIntegerUnsigned [2]) ++ (derWrap derTagInteger certificate.serialNumber ++
    (derWrap derTagSequence certificate.signatureAlgorithm ++ (derWrap derTagSequence certificate.issuer ++
      (derWrap derTagSequence ((certificate.notBefore.value certificate.notBeforeForm).encode ++
          (certificate.notAfter.value certificate.notAfterForm).encode) ++
        (derWrap derTagSequence certificate.subject ++ (derWrap derTagSequence (spkiContent publicKey) ++
          fields.flatten))))))

/-- What there is to say about a certificate. -/
def info (certificate : X509Certificate) (publicKey : Bytes) : X509CertificateInfo :=
  ⟨⟨certificate.notBefore, certificate.notAfter⟩, certificate.dnsNames,
    ⟨oidEcPublicKeyContent, publicKey, some certificate.publicKey⟩⟩

theorem parseTbsCertificate_tbsContent (h : certificate.WellFormed) {publicKey : ByteArrayN 65}
    (hkey : P256Point.fromSec1Uncompressed publicKey.toList = .ok certificate.publicKey) {fields : List Bytes}
    (hfields : certificate.optionalFields = .ok fields) {tbs : DerReader}
    (hcontent : tbs.HasRest (certificate.tbsContent publicKey.toList fields)) :
    parseTbsCertificate tbs = .ok (certificate.info publicKey.toList) := by
  obtain ⟨values, rfl, hlow, hfold⟩ := foldlM_readOptionalField h hfields
  obtain ⟨reader₁, hversion, hmore₁⟩ := readVersion_three h.serialNumber hcontent
  obtain ⟨reader₂, halgorithm, hmore₂, -⟩ := hmore₁.readExpected (by decide)
  obtain ⟨reader₃, hissuer, hmore₃, -⟩ := hmore₂.readExpected (by decide)
  obtain ⟨reader₄, hvalidity, hmore₄, htimes⟩ := hmore₃.readExpected (by decide)
  obtain ⟨reader₅, hsubject, hmore₅, -⟩ := hmore₄.readExpected (by decide)
  obtain ⟨reader₆, hspki, hmore₆, hspkiContent⟩ := hmore₅.readExpected (by decide)
  rw [← List.flatMap_def] at hmore₆
  obtain ⟨state, hstate, hnames⟩ := hfold fun value hvalue => hmore₆.content_of_mem hvalue
  rw [parseTbsCertificate, hversion, ok_bind]
  dsimp only
  rw [halgorithm, ok_bind]
  dsimp only
  rw [hissuer, ok_bind]
  dsimp only
  rw [hvalidity, ok_bind]
  dsimp only
  rw [parseX509Validity_times h.notBefore h.notBeforeForm h.notAfter h.notAfterForm rfl htimes, ok_bind, hsubject,
    ok_bind]
  dsimp only
  rw [hspki, ok_bind]
  dsimp only
  rw [parseX509PublicKeyInfo_spki hkey hspkiContent, ok_bind, DerReader.readAll_encode hlow hmore₆, hstate, ok_bind,
    hnames]
  rfl

/-- An assembled certificate in its parts. -/
theorem der_ok (h : certificate.WellFormed) {der : Bytes} (hder : certificate.der = .ok der) :
    ∃ (publicKey : ByteArrayN 65) (fields : List Bytes),
      P256Point.fromSec1Uncompressed publicKey.toList = .ok certificate.publicKey ∧
      certificate.optionalFields = .ok fields ∧
      der = derWrap derTagSequence (derWrap derTagSequence (certificate.tbsContent publicKey.toList fields) ++
        (derWrap derTagSequence certificate.algorithm ++ derBitString certificate.signature)) := by
  obtain ⟨affine, haffine⟩ : ∃ affine, certificate.publicKey.affine = some affine :=
    Option.isSome_iff_exists.1 (Option.isNone_eq_false_iff.1 h.publicKeyIdentity)
  obtain ⟨publicKey, hencoded, hdecoded⟩ := P256Point.fromSec1Uncompressed_toSec1Uncompressed haffine h.publicKey
  obtain ⟨version, hversion, hder⟩ := bind_eq_ok.1 hder
  rw [derContextSpecific_eq (by decide)] at hversion
  cases hversion
  obtain ⟨spki, hspki, hder⟩ := bind_eq_ok.1 hder
  rw [encodeP256SpkiDer_ok hencoded] at hspki
  cases hspki
  obtain ⟨fields, hfields, hder⟩ := bind_eq_ok.1 hder
  cases hder
  refine ⟨publicKey, fields, hdecoded, hfields, ?_⟩
  simp only [derSequence, tbsContent, List.flatten_append, List.flatten_cons, List.flatten_nil, List.append_nil,
    List.append_assoc]
  rfl

end X509Certificate

/-- Inspection of an assembled certificate says its two times, its DNS names in order, and its public key. A certificate
that fits into memory is no longer than a `usize` can say. -/
theorem parseX509CertificateDer_says (certificate : X509Certificate) (h : certificate.WellFormed) (der : Bytes)
    (hder : certificate.der = .ok der) (hfits : der.length ≤ usizeMax) :
    ∃ info, parseX509CertificateDer der = .ok info ∧
      info.validity = ⟨certificate.notBefore, certificate.notAfter⟩ ∧ info.dnsNames = certificate.dnsNames ∧
      info.publicKey.p256PublicKey = some certificate.publicKey := by
  obtain ⟨publicKey, fields, hkey, hfields, rfl⟩ := X509Certificate.der_ok h hder
  obtain ⟨outer, hread, hend, hcontent⟩ := DerReader.readExpected_encode (by decide) hfits
  obtain ⟨reader₁, htbs, hmore₁, htbsContent⟩ := hcontent.readExpected (by decide)
  obtain ⟨reader₂, halgorithm, hmore₂, -⟩ := hmore₁.readExpected (by decide)
  obtain ⟨reader₃, hsignature, hend₃, -⟩ := hmore₂.readLast (by decide)
  have hparse := X509Certificate.parseTbsCertificate_tbsContent h hkey hfields htbsContent
  refine ⟨certificate.info publicKey.toList, ?_, rfl, rfl, rfl⟩
  rw [parseX509CertificateDer, hread, ok_bind]
  dsimp only
  rw [hend, ok_bind, DerValue.reader, htbs, ok_bind]
  dsimp only
  rw [halgorithm, ok_bind]
  dsimp only
  rw [hsignature, ok_bind]
  dsimp only
  rw [List.head?_cons, ensure_of rfl, ok_bind, hend₃, ok_bind, DerValue.reader, hparse]

/-- A certificate for a name, with a critical extension that nobody knows in front of it and a mail address beside it. -/
def exampleCertificate : X509Certificate where
  serialNumber := [1]
  signatureAlgorithm := [0x06, 0x08, 0x2a, 0x86, 0x48, 0xce, 0x3d, 0x04, 0x03, 0x02]
  issuer := []
  notBefore := ⟨2026, 8, 15, 19, 0, 0⟩
  notBeforeForm := .utc
  notAfter := ⟨2050, 8, 15, 20, 0, 0⟩
  notAfterForm := .generalized
  subject := []
  publicKey := .generator
  issuerUniqueId := none
  subjectUniqueId := none
  extensions := some [.other [2, 5, 29, 15] (some true) [0x03, 0x02, 0x07, 0x80],
    .subjectAltName none [⟨0x81, ascii "mail@example.com"⟩, ⟨0x82, ascii "example.com"⟩]]
  algorithm := [0x06, 0x08, 0x2a, 0x86, 0x48, 0xce, 0x3d, 0x04, 0x03, 0x02]
  signature := [0x30, 0x00]

theorem exampleCertificate_wellFormed : exampleCertificate.WellFormed where
  serialNumber := by decide
  notBefore := by constructor <;> decide
  notBeforeForm := by constructor <;> decide
  notAfter := by constructor <;> decide
  notAfterForm := (by decide : 2050 < 10000)
  publicKey := P256Point.isOnCurve_generator
  publicKeyIdentity := rfl
  extensions := by
    intro extension hextension
    rcases List.mem_pair.1 hextension with rfl | rfl
    · exact (by decide : ([2, 5, 29, 15] : List Nat) ≠ oidSubjectAltName ∧ ∀ arc ∈ [2, 5, 29, 15], arc ≤ u64Max)
    · intro name hname
      rcases List.mem_pair.1 hname with rfl | rfl
      · decide
      · decide
  distinct := by decide

theorem length_exampleCertificate : exampleCertificate.der.toOption.map List.length = some 234 := by decide +kernel

theorem parseX509CertificateDer_says_example :
    ∃ der info, exampleCertificate.der = .ok der ∧ parseX509CertificateDer der = .ok info ∧
      info.validity = ⟨⟨2026, 8, 15, 19, 0, 0⟩, ⟨2050, 8, 15, 20, 0, 0⟩⟩ ∧ info.dnsNames = [ascii "example.com"] ∧
      info.publicKey.p256PublicKey = some .generator := by
  obtain ⟨der, hder, hlength⟩ := Option.map_eq_some_iff.1 length_exampleCertificate
  rw [toOption_eq_some] at hder
  have hfits : der.length ≤ usizeMax := by
    rw [hlength]
    decide
  obtain ⟨info, hinfo, hvalidity, hnames, hkey⟩ :=
    parseX509CertificateDer_says exampleCertificate exampleCertificate_wellFormed der hder hfits
  exact ⟨der, info, hder, hinfo, hvalidity, hnames, hkey⟩

end BareProxy.Der
