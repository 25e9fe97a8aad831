import BareProxy.Base.IpAddr
import BareProxy.Http.Parse
import BareProxy.Proxy.RequestHead

/-!
# The upstream reads the same framing

The head that `serialize_request_head` writes is a request line and a list of fields, all of them well
formed. The only `Host`, `Content-Length` and `Transfer-Encoding` among the fields are those the proxy
wrote from its own reading of the request, so a peer that parses the head as this program does finds the
same method, target, host and body framing, and finds the end of the head where it was written.
-/

namespace BareProxy.Proxy

open Http

/-! ### The fields of the head -/

def trailerFields (request : Request) : List Header :=
  if request.hasTransferEncoding && !namedByConnectionHeader request (ascii "trailer") then
    (headersNamed request.headers "trailer").map fun header => ⟨ascii "Trailer", header.value⟩
  else []

def contentLengthFields : Option Nat → List Header
  | some contentLength => [⟨ascii "Content-Length", decimal contentLength⟩]
  | none => []

def transferEncodingFields : Bool → List Header
  | true => [⟨ascii "Transfer-Encoding", ascii "chunked"⟩]
  | false => []

def framingFields (request : Request) (host : Bytes) : List Header :=
  [⟨ascii "Host", host⟩] ++ contentLengthFields request.contentLength ++
    transferEncodingFields request.hasTransferEncoding

def teFields : Bool → List Header
  | true => [⟨ascii "TE", ascii "trailers"⟩]
  | false => []

def upgradeFields : Option (List Bytes) → List Header
  | some protocols => [⟨ascii "Upgrade", List.intercalate (ascii ", ") protocols⟩]
  | none => []

def connectionFields (acceptsTrailers upgrades : Bool) : List Header :=
  match acceptsTrailers, upgrades with
  | true, true => [⟨ascii "Connection", ascii "TE, Upgrade"⟩]
  | true, false => [⟨ascii "Connection", ascii "TE"⟩]
  | false, true => [⟨ascii "Connection", ascii "Upgrade"⟩]
  | false, false => []

/-- The fields after the framing fields. -/
def hopFields (net : StdNet) (request : Request) (upgrade : Option (List Bytes)) (host : Bytes)
    (clientIp : IpAddr) (proto : ForwardedProto) : List Header :=
  trailerFields request ++ teFields (requestAcceptsTrailers request) ++ upgradeFields upgrade ++
    connectionFields (requestAcceptsTrailers request) upgrade.isSome ++
    [⟨ascii "X-Forwarded-For", net.displayIp clientIp⟩, ⟨ascii "X-Forwarded-Host", host⟩,
      ⟨ascii "X-Forwarded-Proto", proto.asBytes⟩]

def forwardedFields (request : Request) : List Header :=
  request.headers.filter fun header => !shouldReplaceHeader request header.name

def upstreamFields (net : StdNet) (request : Request) (upgrade : Option (List Bytes)) (host : Bytes)
    (clientIp : IpAddr) (proto : ForwardedProto) : List Header :=
  forwardedFields request ++ framingFields request host ++
    hopFields net request upgrade host clientIp proto

def requestLine (request : Request) : Bytes := request.method ++ ascii " " ++ request.target ++ ascii " HTTP/1.1"

theorem fieldLine_eq (name value : Bytes) : fieldLine name value = unlines ([Header.mk name value].map Header.line) := by
  simp [fieldLine, Header.line]

theorem flatMap_fieldLine (headers : List Header) :
    headers.flatMap (fun header => fieldLine header.name header.value) = unlines (headers.map Header.line) := by
  induction headers with
  | nil => rfl
  | cons header headers ih =>
    rw [List.flatMap_cons, ih, List.map_cons, unlines_cons]
    rfl

theorem foldlM_pushTrailerLine {trailers : List Header} {start output : Bytes}
    (h : trailers.foldlM pushTrailerLine start = .ok output) :
    output = start ++ unlines (trailers.map fun header => Header.line ⟨ascii "Trailer", header.value⟩) := by
  induction trailers generalizing start with
  | nil =>
    cases h
    simp
  | cons header trailers ih =>
    rw [List.foldlM_cons, bind_eq_ok] at h
    obtain ⟨next, hnext, hrest⟩ := h
    unfold pushTrailerLine at hnext
    split at hnext
    · cases hnext
    · cases hnext
      rw [ih hrest, List.map_cons, unlines_cons, fieldLine_eq]
      simp

theorem transferEncodingLines_ok {request : Request} {output : Bytes} (h : transferEncodingLines request = .ok output) :
    output = unlines ((transferEncodingFields request.hasTransferEncoding).map Header.line) ++
      unlines ((trailerFields request).map Header.line) := by
  unfold transferEncodingLines at h
  split at h
  · rename_i hte
    split at h
    · rename_i hnamed
      split at h
      · cases h
      · rename_i trailers htrailers
        cases h
        have hlines := foldlM_pushTrailerLine htrailers
        rw [List.nil_append] at hlines
        rw [hlines, fieldLine_eq]
        simp only [trailerFields, transferEncodingFields, hte, hnamed, Bool.and_self, if_true, List.map_map]
        rfl
    · rename_i hnamed
      cases h
      simp [trailerFields, transferEncodingFields, hte, hnamed, fieldLine_eq]
  · rename_i hte
    cases h
    simp [trailerFields, transferEncodingFields, hte]

theorem connectionLine_eq (acceptsTrailers upgrades : Bool) :
    connectionLine acceptsTrailers upgrades = unlines ((connectionFields acceptsTrailers upgrades).map Header.line) := by
  cases acceptsTrailers <;> cases upgrades <;> rfl

/-- The serialized head is the request line, the fields and the blank line. -/
theorem serializeRequestHead_ok {net : StdNet} {request : Request} {clientIp : IpAddr} {proto : ForwardedProto}
    {output : Bytes} (h : serializeRequestHead net request clientIp proto = .ok output) :
    ∃ host upgrade, request.host net = some host ∧ requestUpgradeProtocols request = .ok upgrade ∧
      output = unlines (requestLine request ::
        (upstreamFields net request upgrade host clientIp proto).map Header.line) ++ crlf := by
  unfold serializeRequestHead at h
  simp only [bind_eq_ok] at h
  obtain ⟨host, hhost, upgrade, hupgrade, te, hte, houtput⟩ := h
  refine ⟨host, upgrade, okOr_eq_ok.1 hhost, hupgrade, ?_⟩
  cases houtput
  have hlength : contentLengthLine request.contentLength =
      unlines ((contentLengthFields request.contentLength).map Header.line) := by
    cases request.contentLength with
    | none => rfl
    | some n => exact fieldLine_eq _ _
  have hprotocols : upgradeLine upgrade = unlines ((upgradeFields upgrade).map Header.line) := by
    cases upgrade with
    | none => rfl
    | some protocols => exact fieldLine_eq _ _
  have htrailers : (if requestAcceptsTrailers request then fieldLine (ascii "TE") (ascii "trailers") else []) =
      unlines ((teFields (requestAcceptsTrailers request)).map Header.line) := by
    cases requestAcceptsTrailers request <;> rfl
  rw [transferEncodingLines_ok hte, flatMap_fieldLine, hlength, hprotocols, htrailers, connectionLine_eq]
  simp only [upstreamFields, forwardedFields, framingFields, hopFields, requestLine, fieldLine_eq, unlines_cons,
    List.map_append, unlines_append, List.map_cons, List.map_nil, unlines_nil, List.append_nil, List.append_assoc]

/-! ### Every field is well formed -/

theorem host_eq_some {net : StdNet} {request : Request} {host : Bytes} (h : request.host net = some host) :
    ∃ header ∈ request.headers, header.value = host ∧ validUtf8 host = true ∧ isValidHostAuthority net host = true := by
  unfold Request.host at h
  split at h
  · rename_i header hnamed
    split at h
    · rename_i hvalid
      cases h
      rw [Bool.and_eq_true] at hvalid
      have hmem : header ∈ headersNamed request.headers "host" := by
        rw [hnamed]
        exact List.mem_cons_self
      exact ⟨header, List.mem_of_mem_filter hmem, rfl, hvalid.1, hvalid.2⟩
    · cases h
  · cases h

theorem wellFormed_of_token {name value : Bytes} (hne : name ≠ []) (hname : ∀ b ∈ name, isTokenByte b = true)
    (hvalue : ∀ b ∈ value, isValidHeaderValueByte b = true ∧ isOptionalWhitespace b = false) :
    (Header.mk name value).WellFormed :=
  ⟨hne, hname, fun b hb => (hvalue b hb).1, trimOptionalWhitespace_eq_self_of_forall fun b hb => (hvalue b hb).2⟩

/-- A well-formed value can be sent under another name. -/
theorem wellFormed_rename {header : Header} (h : header.WellFormed) {name : Bytes}
    (hne : name ≠ []) (hname : ∀ b ∈ name, isTokenByte b = true) : (Header.mk name header.value).WellFormed :=
  ⟨hne, hname, h.value_valid, h.value_trimmed⟩

theorem digit_facts (b : Byte) : isAsciiDigit b = true →
    isValidHeaderValueByte b = true ∧ isOptionalWhitespace b = false := by
  intro hb
  obtain ⟨htoken, hblank, -⟩ := isAsciiDigit_facts b hb
  exact ⟨isTokenByte_valid b htoken, hblank⟩

theorem displayIp_facts (b : Byte) : isAsciiHexdigit b = true ∨ b = 46 ∨ b = 58 →
    isValidHeaderValueByte b = true ∧ isOptionalWhitespace b = false := by
  apply byte_forall (p := fun b => isAsciiHexdigit b = true ∨ b = 46 ∨ b = 58 →
    isValidHeaderValueByte b = true ∧ isOptionalWhitespace b = false)
  decide +kernel

/-- What `parse_upgrade_protocols` accepts as one protocol. -/
def IsProtocol (protocol : Bytes) : Prop :=
  protocol ≠ [] ∧ ∀ b ∈ protocol, isValidHeaderValueByte b = true ∧ isOptionalWhitespace b = false

theorem isProtocol_of_valid {protocol : Bytes} (hne : protocol ≠ []) (h : isValidUpgradeProtocol protocol = true) :
    IsProtocol protocol := by
  refine ⟨hne, fun b hb => ?_⟩
  have htoken : isTokenByte b = true ∨ b = 47 := by
    unfold isValidUpgradeProtocol at h
    split at h
    · rename_i index hindex
      simp only [Bool.not_eq_true', Bool.or_eq_false_iff, Bool.not_eq_false', List.all_eq_true] at h
      obtain ⟨⟨⟨⟨-, -⟩, -⟩, hname⟩, hversion⟩ := h
      obtain ⟨hlt, hget, -⟩ := List.idxOf?_eq_some_iff.1 hindex
      have hsplit : protocol = protocol.take index ++ protocol[index] :: protocol.drop (index + 1) := by
        rw [List.getElem_cons_drop, List.take_append_drop]
      rw [hsplit] at hb
      rcases List.mem_append.1 hb with hb | hb
      · exact Or.inl (hname b hb)
      · rcases List.mem_cons.1 hb with rfl | hb
        · exact Or.inr (by simpa using hget)
        · exact Or.inl (hversion b hb)
    · exact Or.inl (List.all_eq_true.1 h b hb)
  rcases htoken with htoken | rfl
  · exact ⟨isTokenByte_valid b htoken, isTokenByte_not_whitespace b htoken⟩
  · decide

theorem parseUpgradeProtocols_ok {value : Bytes} {protocols : List Bytes}
    (h : parseUpgradeProtocols value = .ok protocols) : ∀ protocol ∈ protocols, IsProtocol protocol := by
  unfold parseUpgradeProtocols at h
  split at h
  · cases h
  · rename_i collected hcollected
    split at h
    · cases h
    · cases h
      refine foldlM_invariant (p := fun protocols => ∀ protocol ∈ protocols, IsProtocol protocol) ?_ (by simp) hcollected
      intro member _ before after hbefore hstep
      unfold parseUpgradeProtocol at hstep
      dsimp only at hstep
      split at hstep
      · cases hstep
      · rename_i hne
        split at hstep
        · cases hstep
        · rename_i hvalid
          cases hstep
          intro protocol hmem
          rcases List.mem_append.1 hmem with hmem | hmem
          · exact hbefore protocol hmem
          · rw [List.mem_singleton.1 hmem]
            exact isProtocol_of_valid (by simpa using hne) (by simpa using hvalid)

theorem requestUpgradeProtocols_ok {request : Request} {protocols : List Bytes}
    (h : requestUpgradeProtocols request = .ok (some protocols)) :
    protocols ≠ [] ∧ ∀ protocol ∈ protocols, IsProtocol protocol := by
  unfold requestUpgradeProtocols at h
  dsimp only at h
  split at h
  · cases h
  · rename_i collected hcollected
    split at h
    · split at h <;> cases h
    · rename_i hne
      split at h
      · cases h
      · cases h
        refine ⟨by simpa using hne, ?_⟩
        refine foldlM_invariant (p := fun protocols => ∀ protocol ∈ protocols, IsProtocol protocol) ?_ (by simp) hcollected
        intro header _ before after hbefore hstep
        unfold collectUpgradeProtocols at hstep
        split at hstep
        · cases hstep
        · rename_i more hmore
          cases hstep
          intro protocol hmem
          rcases List.mem_append.1 hmem with hmem | hmem
          · exact hbefore protocol hmem
          · exact parseUpgradeProtocols_ok hmore protocol hmem

/-- Protocols joined by a comma and a space start and end with no blank. -/
theorem intercalate_protocols {protocols : List Bytes} (hne : protocols ≠ [])
    (hall : ∀ protocol ∈ protocols, IsProtocol protocol) :
    (∀ b ∈ List.intercalate (ascii ", ") protocols, isValidHeaderValueByte b = true) ∧
      (∀ b ∈ (List.intercalate (ascii ", ") protocols).head?, isOptionalWhitespace b = false) ∧
      (∀ b ∈ (List.intercalate (ascii ", ") protocols).getLast?, isOptionalWhitespace b = false) ∧
      List.intercalate (ascii ", ") protocols ≠ [] := by
  have hseparator : ∀ b ∈ ascii ", ", isValidHeaderValueByte b = true := by decide
  induction protocols with
  | nil => exact absurd rfl hne
  | cons protocol protocols ih =>
    obtain ⟨hprotocol, hbytes⟩ := hall protocol List.mem_cons_self
    have hhead : ∀ b ∈ protocol.head?, isOptionalWhitespace b = false := fun b hb =>
      (hbytes b (List.mem_of_mem_head? hb)).2
    cases protocols with
    | nil =>
      rw [List.intercalate_singleton]
      exact ⟨fun b hb => (hbytes b hb).1, hhead, fun b hb => (hbytes b (List.mem_of_mem_getLast? hb)).2, hprotocol⟩
    | cons next more =>
      obtain ⟨hvalid, -, hlast, hrest⟩ := ih (by simp) fun p hp => hall p (List.mem_cons_of_mem _ hp)
      rw [List.intercalate_cons_cons]
      refine ⟨?_, ?_, ?_, by simp [hprotocol]⟩
      · intro b hb
        rcases List.mem_append.1 hb with hb | hb
        · rcases List.mem_append.1 hb with hb | hb
          · exact (hbytes b hb).1
          · exact hseparator b hb
        · exact hvalid b hb
      · intro b hb
        rw [List.append_assoc, List.head?_append_of_ne_nil _ hprotocol] at hb
        exact hhead b hb
      · intro b hb
        rw [List.getLast?_append_of_ne_nil _ hrest] at hb
        exact hlast b hb

theorem framingFields_wellFormed {net : StdNet} {request : Request} {line host : Bytes}
    (hrequest : request.Accepted line) (hhost : request.host net = some host) :
    ∀ field ∈ framingFields request host, field.WellFormed := by
  intro field hfield
  obtain ⟨header, hheader, rfl, -⟩ := host_eq_some hhost
  simp only [framingFields, List.mem_append, List.mem_singleton] at hfield
  rcases hfield with (rfl | hfield) | hfield
  · exact wellFormed_rename (hrequest.wellFormed header hheader) (by decide) (by decide)
  · cases hlength : request.contentLength with
    | none => simp [contentLengthFields, hlength] at hfield
    | some n =>
      simp only [contentLengthFields, hlength, List.mem_singleton] at hfield
      subst hfield
      exact wellFormed_of_token (by decide) (by decide) fun b hb => digit_facts b (isAsciiDigit_of_mem_decimal hb)
  · cases hte : request.hasTransferEncoding with
    | false => simp [transferEncodingFields, hte] at hfield
    | true =>
      simp only [transferEncodingFields, hte, List.mem_singleton] at hfield
      subst hfield
      exact wellFormed_of_token (by decide) (by decide) (by decide)

theorem hopFields_wellFormed {net : StdNet} {request : Request} {line host : Bytes} {upgrade : Option (List Bytes)}
    (hrequest : request.Accepted line) (hhost : request.host net = some host)
    (hupgrade : requestUpgradeProtocols request = .ok upgrade) (clientIp : IpAddr) (proto : ForwardedProto) :
    ∀ field ∈ hopFields net request upgrade host clientIp proto, field.WellFormed := by
  intro field hfield
  obtain ⟨header, hheader, rfl, -⟩ := host_eq_some hhost
  simp only [hopFields, List.mem_append, List.mem_cons, List.not_mem_nil, or_false] at hfield
  rcases hfield with (((hfield | hfield) | hfield) | hfield) | rfl | rfl | rfl
  · unfold trailerFields at hfield
    split at hfield
    · obtain ⟨trailer, htrailer, rfl⟩ := List.mem_map.1 hfield
      exact wellFormed_rename (hrequest.wellFormed trailer (List.mem_of_mem_filter htrailer)) (by decide) (by decide)
    · cases hfield
  · cases hte : requestAcceptsTrailers request with
    | false => simp [teFields, hte] at hfield
    | true =>
      simp only [teFields, hte, List.mem_singleton] at hfield
      subst hfield
      exact wellFormed_of_token (by decide) (by decide) (by decide)
  · cases upgrade with
    | none => simp [upgradeFields] at hfield
    | some protocols =>
      simp only [upgradeFields, List.mem_singleton] at hfield
      subst hfield
      obtain ⟨hne, hall⟩ := requestUpgradeProtocols_ok hupgrade
      obtain ⟨hvalid, hhead, hlast, -⟩ := intercalate_protocols hne hall
      have hname : ∀ b ∈ ascii "Upgrade", isTokenByte b = true := by decide
      exact ⟨List.cons_ne_nil _ _, hname, hvalid, trimOptionalWhitespace_eq_self hhead hlast⟩
  · have hclosed : ∀ acceptsTrailers upgrades, ∀ field ∈ connectionFields acceptsTrailers upgrades,
        field.WellFormed := by
      intro acceptsTrailers upgrades field hfield
      cases acceptsTrailers <;> cases upgrades <;> simp only [connectionFields, List.mem_singleton,
        List.not_mem_nil] at hfield <;> subst hfield <;> exact ⟨by decide, by decide, by decide, by decide⟩
    exact hclosed _ _ field hfield
  · exact wellFormed_of_token (by decide) (by decide) fun b hb =>
      displayIp_facts b (net.displayIp_chars clientIp b hb)
  · exact wellFormed_rename (hrequest.wellFormed header hheader) (by decide) (by decide)
  · cases proto <;> exact wellFormed_of_token (by decide) (by decide) (by decide)

theorem upstreamFields_wellFormed {net : StdNet} {request : Request} {line host : Bytes}
    {upgrade : Option (List Bytes)} (hrequest : request.Accepted line) (hhost : request.host net = some host)
    (hupgrade : requestUpgradeProtocols request = .ok upgrade) (clientIp : IpAddr) (proto : ForwardedProto) :
    ∀ field ∈ upstreamFields net request upgrade host clientIp proto, field.WellFormed := by
  intro field hfield
  simp only [upstreamFields, List.mem_append] at hfield
  rcases hfield with (hfield | hfield) | hfield
  · exact hrequest.wellFormed field (List.mem_of_mem_filter hfield)
  · exact framingFields_wellFormed hrequest hhost field hfield
  · exact hopFields_wellFormed hrequest hhost hupgrade clientIp proto field hfield

/-! ### The framing fields are the proxy's own -/

theorem headersNamed_append (left right : List Header) (name : String) :
    headersNamed (left ++ right) name = headersNamed left name ++ headersNamed right name :=
  List.filter_append ..

/-- A header of a replaced name does not pass. -/
theorem headersNamed_forwardedFields (request : Request) {name : String} (hname : name ∈ replacedHeaders) :
    headersNamed (forwardedFields request) name = [] := by
  rw [headersNamed, List.filter_eq_nil_iff]
  intro header hheader heq
  have hkept := (List.mem_filter.1 hheader).2
  have hreplaced : shouldReplaceHeader request header.name = true := by
    rw [shouldReplaceHeader, Bool.or_eq_true]
    exact Or.inl (List.any_eq_true.2 ⟨name, hname, heq⟩)
  rw [hreplaced] at hkept
  cases hkept

/-- The fields that the proxy writes between the framing fields and the forwarding fields. -/
theorem hopFields_eq (net : StdNet) (request : Request) (upgrade : Option (List Bytes)) (host : Bytes)
    (clientIp : IpAddr) (proto : ForwardedProto) :
    ∃ between : List Header,
      hopFields net request upgrade host clientIp proto =
        between ++ [⟨ascii "X-Forwarded-For", net.displayIp clientIp⟩, ⟨ascii "X-Forwarded-Host", host⟩,
          ⟨ascii "X-Forwarded-Proto", proto.asBytes⟩] ∧
      ∀ field ∈ between, ∃ name ∈ ["Trailer", "TE", "Upgrade", "Connection"], field.name = ascii name := by
  refine ⟨_, rfl, ?_⟩
  intro field hfield
  simp only [List.mem_append] at hfield
  rcases hfield with ((hfield | hfield) | hfield) | hfield
  · unfold trailerFields at hfield
    split at hfield
    · obtain ⟨trailer, -, rfl⟩ := List.mem_map.1 hfield
      exact ⟨"Trailer", by simp, rfl⟩
    · cases hfield
  · cases hte : requestAcceptsTrailers request with
    | false => simp [teFields, hte] at hfield
    | true =>
      simp only [teFields, hte, List.mem_singleton] at hfield
      exact ⟨"TE", by simp, by rw [hfield]⟩
  · cases upgrade with
    | none => simp [upgradeFields] at hfield
    | some protocols =>
      simp only [upgradeFields, List.mem_singleton] at hfield
      exact ⟨"Upgrade", by simp, by rw [hfield]⟩
  · refine ⟨"Connection", by simp, ?_⟩
    generalize requestAcceptsTrailers request = accepts, upgrade.isSome = upgrades at hfield
    cases accepts <;> cases upgrades <;> simp only [connectionFields, List.mem_singleton, List.not_mem_nil] at hfield <;>
      rw [hfield]

/-- Fields of other names are not among those of one name. -/
theorem headersNamed_eq_nil {fields : List Header} {names : List String} {name : String}
    (hfields : ∀ field ∈ fields, ∃ other ∈ names, field.name = ascii other)
    (hother : ∀ other ∈ names, eqIgnoreAsciiCase (ascii other) (ascii name) = false) : headersNamed fields name = [] := by
  rw [headersNamed, List.filter_eq_nil_iff]
  intro field hfield
  obtain ⟨other, hmem, hname⟩ := hfields field hfield
  rw [hname, hother other hmem]
  exact Bool.false_ne_true

/-- None of the fields after the framing fields has a name that frames or routes the message. -/
theorem headersNamed_hopFields (net : StdNet) (request : Request) (upgrade : Option (List Bytes)) (host : Bytes)
    (clientIp : IpAddr) (proto : ForwardedProto) {name : String}
    (hname : name ∈ ["host", "content-length", "transfer-encoding"]) :
    headersNamed (hopFields net request upgrade host clientIp proto) name = [] := by
  have hclosed : ∀ name ∈ ["host", "content-length", "transfer-encoding"], ∀ other ∈ ["Trailer", "TE", "Upgrade",
      "Connection", "X-Forwarded-For", "X-Forwarded-Host", "X-Forwarded-Proto"],
      eqIgnoreAsciiCase (ascii other) (ascii name) = false := by decide
  obtain ⟨between, hfields, hbetween⟩ := hopFields_eq net request upgrade host clientIp proto
  apply headersNamed_eq_nil _ (hclosed name hname)
  intro field hfield
  rw [hfields] at hfield
  rcases List.mem_append.1 hfield with hfield | hfield
  · obtain ⟨other, hmem, hfieldName⟩ := hbetween field hfield
    exact ⟨other, List.mem_append_left ["X-Forwarded-For", "X-Forwarded-Host", "X-Forwarded-Proto"] hmem, hfieldName⟩
  · simp only [List.mem_cons, List.not_mem_nil, or_false] at hfield
    rcases hfield with rfl | rfl | rfl
    · exact ⟨"X-Forwarded-For", by simp, rfl⟩
    · exact ⟨"X-Forwarded-Host", by simp, rfl⟩
    · exact ⟨"X-Forwarded-Proto", by simp, rfl⟩

theorem headersNamed_upstreamFields (net : StdNet) (request : Request) (upgrade : Option (List Bytes)) (host : Bytes)
    (clientIp : IpAddr) (proto : ForwardedProto) {name : String}
    (hname : name ∈ ["host", "content-length", "transfer-encoding"]) :
    headersNamed (upstreamFields net request upgrade host clientIp proto) name =
      headersNamed (framingFields request host) name := by
  have hreplaced : name ∈ replacedHeaders := by
    have hsubset : ∀ name ∈ ["host", "content-length", "transfer-encoding"], name ∈ replacedHeaders := by decide
    exact hsubset name hname
  rw [upstreamFields, headersNamed_append, headersNamed_append, headersNamed_forwardedFields request hreplaced,
    headersNamed_hopFields net request upgrade host clientIp proto hname, List.append_nil, List.nil_append]

theorem headersNamed_framingFields_host (request : Request) (host : Bytes) :
    headersNamed (framingFields request host) "host" = [⟨ascii "Host", host⟩] := by
  rw [framingFields, headersNamed_append, headersNamed_append]
  cases request.contentLength <;> cases request.hasTransferEncoding <;> rfl

theorem headersNamed_framingFields_contentLength (request : Request) (host : Bytes) :
    headersNamed (framingFields request host) "content-length" = contentLengthFields request.contentLength := by
  rw [framingFields, headersNamed_append, headersNamed_append]
  cases request.contentLength <;> cases request.hasTransferEncoding <;> rfl

theorem headersNamed_framingFields_transferEncoding (request : Request) (host : Bytes) :
    headersNamed (framingFields request host) "transfer-encoding" =
      transferEncodingFields request.hasTransferEncoding := by
  rw [framingFields, headersNamed_append, headersNamed_append]
  cases request.contentLength <;> cases request.hasTransferEncoding <;> rfl

theorem parseContentLength_decimal {n : Nat} (hn : n ≤ u64Max) :
    parseContentLengthHeader none ⟨ascii "Content-Length", decimal n⟩ = .ok (some n) := by
  have hdigits : ∀ b ∈ decimal n, isAsciiDigit b = true := fun b hb => isAsciiDigit_of_mem_decimal hb
  have hutf8 : validUtf8 (decimal n) = true :=
    validUtf8_of_token fun b hb => (isAsciiDigit_facts b (hdigits b hb)).1
  have hcomma : (44 : Byte) ∉ decimal n := fun hmem => (isAsciiDigit_facts _ (hdigits _ hmem)).2.2 rfl
  have hsplit : (decimal n).splitOn 44 = [decimal n] := List.splitOn_eq_singleton hcomma
  have htrim : trimOptionalWhitespace (decimal n) = decimal n :=
    trimOptionalWhitespace_eq_self_of_forall fun b hb => (isAsciiDigit_facts b (hdigits b hb)).2.1
  have hmember : parseContentLengthMember none (decimal n) = .ok (some n) := by
    have hparse : parseU64 (decimal n) = some n := fromStrRadix_decimal hn
    have hall : (decimal n).all isAsciiDigit = true := List.all_eq_true.2 hdigits
    simp only [parseContentLengthMember, htrim, hparse, hall, List.isEmpty_eq_false_iff.2 (decimal_ne_nil n),
      Bool.not_true, Bool.or_self, Bool.false_eq_true, if_false]
  simp only [parseContentLengthHeader, hutf8, hsplit, List.foldlM_cons, List.foldlM_nil, hmember, Bool.not_true,
    Bool.false_eq_true, if_false, ok_bind, pure_eq_ok]

theorem parseContentLength_upstreamFields {request : Request} {line : Bytes} (hrequest : request.Accepted line)
    (net : StdNet) (upgrade : Option (List Bytes)) (host : Bytes) (clientIp : IpAddr) (proto : ForwardedProto) :
    parseContentLength (upstreamFields net request upgrade host clientIp proto) = .ok request.contentLength := by
  rw [parseContentLength, headersNamed_upstreamFields _ _ _ _ _ _ (by simp),
    headersNamed_framingFields_contentLength]
  cases hlength : request.contentLength with
  | none => rfl
  | some n =>
    have hn : n ≤ u64Max := parseContentLength_le hrequest.contentLength n hlength
    simp only [contentLengthFields, List.foldlM_cons, List.foldlM_nil, parseContentLength_decimal hn, ok_bind,
      pure_eq_ok]

theorem parseTransferEncoding_upstreamFields (net : StdNet) (request : Request) (upgrade : Option (List Bytes))
    (host : Bytes) (clientIp : IpAddr) (proto : ForwardedProto) :
    parseTransferEncoding (upstreamFields net request upgrade host clientIp proto) =
      .ok request.hasTransferEncoding := by
  rw [parseTransferEncoding, headersNamed_upstreamFields _ _ _ _ _ _ (by simp),
    headersNamed_framingFields_transferEncoding]
  cases request.hasTransferEncoding <;> decide

/-- The upstream, reading the serialized head with the same parser, finds one head that ends where the
serializer ended it, and in it the same method, target, host and body framing as the proxy, unless the
headers the proxy adds pass a size limit. -/
theorem serializeRequestHead_reparses (net : StdNet) {input : Bytes} {request : Request} {consumed : Nat}
    (hparse : parseRequestWithConsumed input = .ok (request, consumed)) (clientIp : IpAddr)
    (proto : ForwardedProto) {output : Bytes}
    (hserialize : serializeRequestHead net request clientIp proto = .ok output) :
    (∀ i, crlfCrlf <+: output.drop i ↔ i + 4 = output.length) ∧
      ((∃ error, error.IsLimit ∧ parseRequestWithConsumed output = .error error) ∨
        ∃ reparsed, parseRequestWithConsumed output = .ok (reparsed, output.length) ∧
          reparsed.method = request.method ∧ reparsed.target = request.target ∧
          reparsed.contentLength = request.contentLength ∧
          reparsed.hasTransferEncoding = request.hasTransferEncoding ∧
          reparsed.host net = request.host net) := by
  obtain ⟨_, _, hends⟩ := parseRequestWithConsumed_ok hparse
  have hrequest := hends.request
  obtain ⟨host, upgrade, hhost, hupgrade, houtput⟩ := serializeRequestHead_ok hserialize
  obtain ⟨hline, hisLine⟩ := parseRequestLine_ok hrequest.line
  have hrequestLine : parseRequestLine (requestLine request) = .ok (request.method, request.target, request.version) := by
    have heq : requestLine request = _ := hline.symm
    rw [heq]
    exact hrequest.line
  have hfields := upstreamFields_wellFormed hrequest hhost hupgrade clientIp proto
  refine ⟨fun i => ?_, ?_⟩
  · have hne : requestLine request ≠ [] := by simp [requestLine, ascii]
    have hlines := headLines_isLine (parseRequestLine_ok hrequestLine).2 hne hfields
    rw [houtput]
    exact crlfCrlf_drop_unlines (by simp) hlines
  · rcases parseRequestWithConsumed_unlines hrequestLine hfields
      (parseContentLength_upstreamFields hrequest net upgrade host clientIp proto)
      (parseTransferEncoding_upstreamFields net request upgrade host clientIp proto) hrequest.unambiguous houtput
      with hlimit | ⟨keepAlive, hok⟩
    · exact Or.inl hlimit
    · refine Or.inr ⟨_, hok, rfl, rfl, rfl, rfl, ?_⟩
      obtain ⟨-, -, -, hutf8, hvalid⟩ := host_eq_some hhost
      rw [hhost, Request.host, headersNamed_upstreamFields _ _ _ _ _ _ (by simp), headersNamed_framingFields_host]
      simp only [hutf8, hvalid, Bool.and_self, if_true]

/-- Four numbers with dots between them. -/
def ipv4Text (octets : Vector UInt8 4) : Bytes := displayIpv4 (octets.toList.map UInt8.toNat)

/-- A `std::net` for IPv4 peers and host names. -/
def ipv4Net : StdNet where
  parsesIpv6 _ := false
  displayIp
    | .v4 octets => ipv4Text octets
    | .v6 _ => ascii "::"
  displayIp_chars := by
    intro address b hb
    cases address with
    | v4 octets =>
      rcases mem_displayIpv4 hb with hdigit | hdot
      · rw [isAsciiHexdigit, hdigit, Bool.true_or, Bool.true_or]
        exact Or.inl rfl
      · exact Or.inr (Or.inl hdot)
    | v6 segments =>
      have hcolon : ∀ b ∈ ascii "::", b = (58 : Byte) := by decide
      exact Or.inr (Or.inr (hcolon b hb))

def loopback : IpAddr := .v4 #v[127, 0, 0, 1]

def helloInput : Bytes := ascii "GET / HTTP/1.1\r\nHost: a\r\n\r\n"

def helloRequest : Request where
  method := ascii "GET"
  target := ascii "/"
  version := .http11
  headers := [⟨ascii "Host", ascii "a"⟩]
  contentLength := none
  hasTransferEncoding := false
  keepAlive := true

def helloHead : Bytes :=
  ascii "GET / HTTP/1.1\r\nHost: a\r\nX-Forwarded-For: 127.0.0.1\r\nX-Forwarded-Host: a\r\nX-Forwarded-Proto: http\r\n\r\n"

/-- A request with a body, a field that belongs to the connection and forged addresses. -/
def uploadInput : Bytes :=
  ascii "POST /a HTTP/1.1\r\nHost: a\r\nConnection: b\r\nB: c\r\nX-Forwarded-For: d\r\nContent-Length: 2\r\n\r\nhi"

def uploadRequest : Request where
  method := ascii "POST"
  target := ascii "/a"
  version := .http11
  headers := [⟨ascii "Host", ascii "a"⟩, ⟨ascii "Connection", ascii "b"⟩, ⟨ascii "B", ascii "c"⟩,
    ⟨ascii "X-Forwarded-For", ascii "d"⟩, ⟨ascii "Content-Length", ascii "2"⟩]
  contentLength := some 2
  hasTransferEncoding := false
  keepAlive := true

def uploadHead : Bytes :=
  ascii "POST /a HTTP/1.1\r\nHost: a\r\nContent-Length: 2\r\nX-Forwarded-For: 127.0.0.1\r\n" ++
    ascii "X-Forwarded-Host: a\r\nX-Forwarded-Proto: http\r\n\r\n"

theorem serializeRequestHead_reparses_upload :
    parseRequestWithConsumed uploadInput = .ok (uploadRequest, 89) ∧
      serializeRequestHead ipv4Net uploadRequest loopback .http = .ok uploadHead ∧
      (∀ i, crlfCrlf <+: uploadHead.drop i ↔ i + 4 = uploadHead.length) ∧
      ∃ reparsed, parseRequestWithConsumed uploadHead = .ok (reparsed, uploadHead.length) ∧
        reparsed.method = ascii "POST" ∧ reparsed.target = ascii "/a" ∧ reparsed.contentLength = some 2 := by
  have hparse : parseRequestWithConsumed uploadInput = .ok (uploadRequest, 89) := by decide +kernel
  have hserialize : serializeRequestHead ipv4Net uploadRequest loopback .http = .ok uploadHead := by decide +kernel
  obtain ⟨hends, hlimit | hreparsed⟩ := serializeRequestHead_reparses ipv4Net hparse loopback .http hserialize
  · obtain ⟨error, -, herror⟩ := hlimit
    have haccepts : (parseRequestWithConsumed uploadHead).isOk = true := by decide +kernel
    rw [herror] at haccepts
    cases haccepts
  · obtain ⟨reparsed, hagain, hmethod, htarget, hlength, -⟩ := hreparsed
    exact ⟨hparse, hserialize, hends, reparsed, hagain, hmethod, htarget, hlength⟩

end BareProxy.Proxy
