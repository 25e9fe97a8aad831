import BareProxy.Proxy.FieldLines

/-!
# What sanitizing keeps

The upstream says with its `Connection` fields which other fields are for one connection only, and the proxy takes them
out. A `Connection` field that names a framing field is refused, so the fields that frame the response always stay: the
client reads the same framing from the head as the proxy did.
-/

namespace BareProxy.Proxy

open Http Reader

/-! ### The names in `Connection` -/

theorem pushConnectionToken_iff {before after : List Bytes} {member : Bytes} :
    pushConnectionToken before member = .ok after ↔
      (trimOptionalWhitespace member ≠ [] ∧ (∀ b ∈ trimOptionalWhitespace member, isTokenByte b = true) ∧
        eqIgnoreAsciiCase (trimOptionalWhitespace member) (ascii "content-length") = false ∧
        eqIgnoreAsciiCase (trimOptionalWhitespace member) (ascii "transfer-encoding") = false) ∧
      after = before ++ [toAsciiLowercase (trimOptionalWhitespace member)] := by
  unfold pushConnectionToken
  dsimp only
  constructor
  · intro h
    split at h
    · cases h
    · rename_i htoken
      split at h
      · cases h
      · rename_i hframing
        simp only [Bool.or_eq_true, not_or, List.isEmpty_iff, Bool.not_eq_true', Bool.not_eq_false, List.all_eq_true,
          Bool.not_eq_true] at htoken hframing
        exact ⟨⟨htoken.1, htoken.2, hframing.1, hframing.2⟩, (Except.ok.inj h).symm⟩
  · intro h
    obtain ⟨⟨hne, htoken, hlength, hcoding⟩, rfl⟩ := h
    rw [List.isEmpty_eq_false_iff.2 hne, List.all_eq_true.2 htoken, hlength, hcoding]
    rfl

section Tokens

variable {head statusLine : Bytes} {fields : List Bytes} (h : IsHeadOf head statusLine fields)
  (hfields : ∀ field ∈ fields, IsFieldLine field)

include h hfields

/-- A token is looked for among the members of the fields of that name. -/
theorem responseHeaderContainsToken_eq (name token : Bytes) :
    responseHeaderContainsToken head name token =
      (listedMembers fields name).any fun member => eqIgnoreAsciiCase (trimOptionalWhitespace member) token := by
  rw [responseHeaderContainsToken, fieldLines_head h, List.any_append, listedMembers, List.any_flatMap, List.any_filter]
  refine (Bool.or_false _).trans ?_
  rw [Bool.eq_iff_iff, List.any_eq_true, List.any_eq_true]
  apply exists_congr
  intro line
  apply and_congr_right
  intro hline
  obtain ⟨separator, hseparator⟩ := (hfields line hline).separator
  rw [hseparator, fieldName_eq hseparator, fieldValue_eq hseparator]
  dsimp only
  rw [listContainsToken, List.any_map]
  rfl

/-- A head whose `Connection` fields are accepted: what they name, without case, and no field that frames the response. -/
theorem responseConnectionTokens_ok {tokens : List Bytes} (htokens : responseConnectionTokens head = .ok tokens) :
    (∀ name, (tokens.any fun token => eqIgnoreAsciiCase name token) =
      responseHeaderContainsToken head (ascii "connection") name) ∧
    ∀ token ∈ tokens, eqIgnoreAsciiCase token (ascii "content-length") = false ∧
      eqIgnoreAsciiCase token (ascii "transfer-encoding") = false := by
  have hmembers : (listedMembers fields (ascii "connection")).foldlM pushConnectionToken [] = .ok tokens := by
    rw [← htokens, responseConnectionTokens, fieldLines_head h, List.foldlM_append]
    have hloop : fields.foldlM pushConnectionTokens [] =
        (listedMembers fields (ascii "connection")).foldlM pushConnectionToken [] := by
      apply foldlM_listedMembers
      · intro line hline hname tokens
        obtain ⟨separator, hseparator⟩ := (hfields line hline).separator
        rw [fieldName_eq hseparator] at hname
        rw [pushConnectionTokens, List.isEmpty_eq_false_iff.2 (hfields line hline).ne_nil, hseparator]
        simp [hname]
      · intro line hline hname tokens
        obtain ⟨separator, hseparator⟩ := (hfields line hline).separator
        rw [fieldName_eq hseparator] at hname
        rw [pushConnectionTokens, List.isEmpty_eq_false_iff.2 (hfields line hline).ne_nil, hseparator,
          fieldValue_eq hseparator]
        simp [hname]
    rw [hloop]
    cases (listedMembers fields (ascii "connection")).foldlM pushConnectionToken [] <;> rfl
  obtain ⟨hvalid, rfl⟩ := (foldlM_push_iff (f := pushConnectionToken) fun _ _ _ _ => pushConnectionToken_iff).1 hmembers
  constructor
  · intro name
    rw [responseHeaderContainsToken_eq h hfields, List.nil_append, List.any_map]
    refine congrArg _ (funext fun member => ?_)
    show eqIgnoreAsciiCase name (toAsciiLowercase (trimOptionalWhitespace member)) = _
    rw [eqIgnoreAsciiCase_toAsciiLowercase, eqIgnoreAsciiCase_comm]
  · intro token htoken
    obtain ⟨member, hmember, rfl⟩ := List.mem_map.1 htoken
    obtain ⟨-, -, hlength, hcoding⟩ := hvalid member hmember
    have hlower : eqIgnoreAsciiCase (toAsciiLowercase (trimOptionalWhitespace member)) (trimOptionalWhitespace member) =
        true := eqIgnoreAsciiCase_iff.2 (toAsciiLowercase_idem _)
    rw [eqIgnoreAsciiCase_congr hlower, eqIgnoreAsciiCase_congr hlower]
    exact ⟨hlength, hcoding⟩

end Tokens

/-! ### The fields that stay -/

/-- A field for one connection only: one of the fixed ones, or one that the head names in `Connection`. -/
def isHopByHopField (head line : Bytes) : Bool :=
  ["connection", "keep-alive", "proxy-connection", "te", "trailer", "upgrade"].any
    (fun name => eqIgnoreAsciiCase (fieldName line) (ascii name)) ||
      responseHeaderContainsToken head (ascii "connection") (fieldName line)

/-- A field that stays all the same: `Upgrade`, or a `Trailer` that `Connection` does not name. -/
def isPreservedField (head : Bytes) (preserveTrailer preserveUpgrade : Bool) (line : Bytes) : Bool :=
  (preserveUpgrade && eqIgnoreAsciiCase (fieldName line) (ascii "upgrade")) ||
    (preserveTrailer && eqIgnoreAsciiCase (fieldName line) (ascii "trailer") &&
      !responseHeaderContainsToken head (ascii "connection") (fieldName line))

theorem shouldRemoveResponseHeader_eq {head line : Bytes} {tokens : List Bytes}
    (htokens : ∀ name, (tokens.any fun token => eqIgnoreAsciiCase name token) =
      responseHeaderContainsToken head (ascii "connection") name) (preserveTrailer preserveUpgrade : Bool) :
    shouldRemoveResponseHeader (fieldName line) tokens preserveTrailer preserveUpgrade =
      (isHopByHopField head line && !isPreservedField head preserveTrailer preserveUpgrade line) := by
  have hnamed : (tokens.any fun token => eqIgnoreAsciiCase (fieldName line) token &&
      !(preserveUpgrade && eqIgnoreAsciiCase (fieldName line) (ascii "upgrade") &&
        eqIgnoreAsciiCase token (ascii "upgrade"))) =
      (responseHeaderContainsToken head (ascii "connection") (fieldName line) &&
        !(preserveUpgrade && eqIgnoreAsciiCase (fieldName line) (ascii "upgrade"))) := by
    -- a token that names the field is `Upgrade` when the field is
    have hpointwise : (fun token => eqIgnoreAsciiCase (fieldName line) token &&
        !(preserveUpgrade && eqIgnoreAsciiCase (fieldName line) (ascii "upgrade") &&
          eqIgnoreAsciiCase token (ascii "upgrade"))) =
        fun token => eqIgnoreAsciiCase (fieldName line) token &&
          !(preserveUpgrade && eqIgnoreAsciiCase (fieldName line) (ascii "upgrade")) := by
      funext token
      cases hname : eqIgnoreAsciiCase (fieldName line) token with
      | false => rfl
      | true => rw [eqIgnoreAsciiCase_congr hname, Bool.and_assoc, Bool.and_self]
    rw [hpointwise, ← htokens]
    cases !(preserveUpgrade && eqIgnoreAsciiCase (fieldName line) (ascii "upgrade")) <;> simp
  have hexclusive : ∀ first second : String, eqIgnoreAsciiCase (ascii first) (ascii second) = false →
      eqIgnoreAsciiCase (fieldName line) (ascii first) = true →
      eqIgnoreAsciiCase (fieldName line) (ascii second) = false := by
    intro first second hne h
    rw [eqIgnoreAsciiCase_congr h, hne]
  rw [shouldRemoveResponseHeader, hnamed, isHopByHopField, isPreservedField]
  simp only [List.any_cons, List.any_nil, Bool.or_false]
  cases hupgrade : eqIgnoreAsciiCase (fieldName line) (ascii "upgrade") with
  | true =>
    rw [hexclusive "upgrade" "connection" (by decide) hupgrade, hexclusive "upgrade" "keep-alive" (by decide) hupgrade,
      hexclusive "upgrade" "proxy-connection" (by decide) hupgrade, hexclusive "upgrade" "te" (by decide) hupgrade,
      hexclusive "upgrade" "trailer" (by decide) hupgrade]
    cases preserveUpgrade <;> simp
  | false =>
    cases htrailer : eqIgnoreAsciiCase (fieldName line) (ascii "trailer") with
    | true =>
      rw [hexclusive "trailer" "connection" (by decide) htrailer,
        hexclusive "trailer" "keep-alive" (by decide) htrailer,
        hexclusive "trailer" "proxy-connection" (by decide) htrailer, hexclusive "trailer" "te" (by decide) htrailer]
      cases preserveTrailer <;> simp
    | false => simp [Bool.or_assoc]

/-- A field that frames the response is none that can be taken out. -/
theorem isHopByHopField_framing {head line : Bytes} {tokens : List Bytes}
    (htokens : ∀ name, (tokens.any fun token => eqIgnoreAsciiCase name token) =
      responseHeaderContainsToken head (ascii "connection") name) {name : String}
    (hname : name ∈ ["content-length", "transfer-encoding"])
    (hunnamed : ∀ token ∈ tokens, eqIgnoreAsciiCase token (ascii name) = false)
    (hline : eqIgnoreAsciiCase (fieldName line) (ascii name) = true) : isHopByHopField head line = false := by
  have hfixed : ∀ name ∈ ["content-length", "transfer-encoding"],
      ∀ fixed ∈ ["connection", "keep-alive", "proxy-connection", "te", "trailer", "upgrade"],
        eqIgnoreAsciiCase (ascii name) (ascii fixed) = false := by decide
  rw [isHopByHopField, ← htokens, Bool.or_eq_false_iff, List.any_eq_false, List.any_eq_false]
  constructor
  · intro fixed hmem
    rw [eqIgnoreAsciiCase_congr hline, hfixed name hname fixed hmem]
    exact Bool.false_ne_true
  · intro token hmem
    rw [eqIgnoreAsciiCase_congr hline, eqIgnoreAsciiCase_comm, hunnamed token hmem]
    exact Bool.false_ne_true

/-- A field that stays is for both connections, or it is the `Upgrade` field that is preserved. -/
theorem isEndToEnd_of_kept {head line : Bytes} {preserveTrailer preserveUpgrade : Bool}
    (h : (!isHopByHopField head line || isPreservedField head preserveTrailer preserveUpgrade line) = true) :
    (∀ name ∈ ["connection", "keep-alive", "proxy-connection", "te"],
      eqIgnoreAsciiCase (fieldName line) (ascii name) = false) ∧
    (responseHeaderContainsToken head (ascii "connection") (fieldName line) = true →
      preserveUpgrade = true ∧ eqIgnoreAsciiCase (fieldName line) (ascii "upgrade") = true) := by
  have hfixed : ∀ preserved ∈ ["upgrade", "trailer"], ∀ name ∈ ["connection", "keep-alive", "proxy-connection", "te"],
      eqIgnoreAsciiCase (ascii preserved) (ascii name) = false := by decide
  rw [Bool.or_eq_true, Bool.not_eq_true', isPreservedField, Bool.or_eq_true, Bool.and_eq_true, Bool.and_eq_true,
    Bool.and_eq_true, Bool.not_eq_true'] at h
  rcases h with hend | ⟨hpreserve, hupgrade⟩ | ⟨⟨-, htrailer⟩, hunnamed⟩
  · rw [isHopByHopField, Bool.or_eq_false_iff, List.any_eq_false] at hend
    have hsubset : ∀ name ∈ ["connection", "keep-alive", "proxy-connection", "te"],
        name ∈ ["connection", "keep-alive", "proxy-connection", "te", "trailer", "upgrade"] := by decide
    refine ⟨fun name hname => Bool.eq_false_iff.2 (hend.1 name (hsubset name hname)), fun hnamed => ?_⟩
    rw [hend.2] at hnamed
    cases hnamed
  · refine ⟨fun name hname => ?_, fun _ => ⟨hpreserve, hupgrade⟩⟩
    rw [eqIgnoreAsciiCase_congr hupgrade, hfixed "upgrade" (by simp) name hname]
  · refine ⟨fun name hname => ?_, fun hnamed => ?_⟩
    · rw [eqIgnoreAsciiCase_congr htrailer, hfixed "trailer" (by simp) name hname]
    · rw [hunnamed] at hnamed
      cases hnamed

/-- The `Connection` field that a caller adds. -/
theorem isFieldLine_connectionFieldLines {connectionHeader : Option Bytes}
    (hconnection : connectionHeader ∈
      [none, some (ascii "close"), some (ascii "keep-alive"), some (ascii "Upgrade")]) :
    ∀ line ∈ connectionFieldLines connectionHeader, IsFieldLine line ∧ fieldName line = ascii "Connection" := by
  have hvalues : ∀ connectionHeader ∈ [none, some (ascii "close"), some (ascii "keep-alive"), some (ascii "Upgrade")],
      ∀ line ∈ connectionFieldLines connectionHeader,
        line ≠ [] ∧ validateFieldLine line = .ok () ∧ fieldName line = ascii "Connection" := by decide
  intro line hline
  obtain ⟨hne, hvalid, hname⟩ := hvalues connectionHeader hconnection line hline
  exact ⟨(validateFieldLine_iff hne).1 hvalid, hname⟩

/-! ### The framing that the client reads -/

/-- A loop over the fields that only minds fields of one name. -/
theorem foldlM_sanitized {ε β : Type} {f : β → Bytes → Except ε β} {fields added : List Bytes} {p : Bytes → Bool}
    {name : Bytes} (hfields : ∀ field ∈ fields, IsFieldLine field)
    (hskip : ∀ line, IsFieldLine line → eqIgnoreAsciiCase (fieldName line) name = false → ∀ b, f b line = .ok b)
    (hkept : ∀ field ∈ fields, eqIgnoreAsciiCase (fieldName field) name = true → p field = true)
    (hadded : ∀ line ∈ added, IsFieldLine line ∧ eqIgnoreAsciiCase (fieldName line) name = false) (b : β) :
    (fields.filter p ++ added).foldlM f b = fields.foldlM f b := by
  have hrest := foldlM_of_skip fun line hline => hskip line (hadded line hline).1 (hadded line hline).2
  rw [List.foldlM_append, foldlM_filter_of_skip]
  · cases fields.foldlM f b with
    | error error => rfl
    | ok b => exact hrest b
  · intro field hfield hp b
    apply hskip field (hfields field hfield)
    rw [← Bool.not_eq_true]
    intro hname
    rw [hkept field hfield hname] at hp
    cases hp

theorem pushCodings_skip {line : Bytes} (hline : IsFieldLine line)
    (hname : eqIgnoreAsciiCase (fieldName line) (ascii "transfer-encoding") = false) (codings : List Bytes) :
    pushCodings codings line = .ok codings := by
  obtain ⟨separator, hseparator⟩ := hline.separator
  rw [fieldName_eq hseparator] at hname
  rw [pushCodings, hseparator]
  simp [hname]

theorem parseResponseContentLength_skip {line : Bytes} (hline : IsFieldLine line)
    (hname : eqIgnoreAsciiCase (fieldName line) (ascii "content-length") = false) (contentLength : Option Nat) :
    parseResponseContentLength contentLength line = .ok contentLength := by
  obtain ⟨separator, hseparator⟩ := hline.separator
  rw [fieldName_eq hseparator] at hname
  rw [parseResponseContentLength, hseparator]
  simp [hname]

/-- The bytes of a head without its empty line, as the framing functions get them. -/
def headerBytes (head : Bytes) : Bytes := head.take (head.length - 4)

/-- A sanitized head is again a complete and valid head with the same status line and the same framing. Its fields are
the end-to-end fields in their order, those that are preserved, and the one `Connection` field that is added. -/
theorem sanitizeResponseHead_keepsFraming {ρ : Type} [Reader ρ] {upstream upstream' : ρ}
    {buffered head rest output : Bytes} (hread : readResponseHead upstream buffered = (.ok (head, rest), upstream'))
    {connectionHeader : Option Bytes} (hconnection : connectionHeader ∈
      [none, some (ascii "close"), some (ascii "keep-alive"), some (ascii "Upgrade")])
    {preserveTrailer preserveUpgrade : Bool}
    (hsanitize : sanitizeResponseHead head connectionHeader preserveTrailer preserveUpgrade = .ok output) :
    IsCompleteHead output ∧ validateResponseHeadSyntax output = .ok () ∧
      responseTransferFraming (headerBytes output) = responseTransferFraming (headerBytes head) ∧
      responseContentLength (headerBytes output) = responseContentLength (headerBytes head) ∧
      ∃ statusLine fields kept, IsHeadOf head statusLine fields ∧
        kept = fields.filter (fun line =>
          !isHopByHopField head line || isPreservedField head preserveTrailer preserveUpgrade line) ∧
        IsHeadOf output statusLine (kept ++ connectionFieldLines connectionHeader) ∧
        ∀ line ∈ kept,
          (∀ name ∈ ["connection", "keep-alive", "proxy-connection", "te"],
            eqIgnoreAsciiCase (fieldName line) (ascii name) = false) ∧
          (responseHeaderContainsToken head (ascii "connection") (fieldName line) = true →
            preserveUpgrade = true ∧ eqIgnoreAsciiCase (fieldName line) (ascii "upgrade") = true) := by
  obtain ⟨hhead, -, -⟩ := readResponseHead_ok hread
  obtain ⟨statusLine, fields, hlines⟩ := hhead.exists_lines
  obtain ⟨⟨status, hstatus⟩, hstatusLine, hfields⟩ := hlines.validateResponseHeadSyntax_iff.1 hhead.valid
  have hvalues : ∀ connectionHeader ∈ [none, some (ascii "close"), some (ascii "keep-alive"), some (ascii "Upgrade")],
      ∀ value ∈ connectionHeader, IsLine value := by decide
  obtain ⟨tokens, htokens, houtput⟩ := sanitizeResponseHead_ok hlines (hvalues _ hconnection) hsanitize
  obtain ⟨hnamed, hunnamed⟩ := responseConnectionTokens_ok hlines hfields htokens
  have hkept : (fields.filter fun line =>
      !shouldRemoveResponseHeader (fieldName line) tokens preserveTrailer preserveUpgrade) =
      fields.filter fun line =>
        !isHopByHopField head line || isPreservedField head preserveTrailer preserveUpgrade line := by
    apply List.filter_congr
    intro field _
    rw [shouldRemoveResponseHeader_eq hnamed, Bool.not_and, Bool.not_not]
  rw [hkept] at houtput
  have hadded := isFieldLine_connectionFieldLines hconnection
  have hframes : ∀ name ∈ ["content-length", "transfer-encoding"],
      (∀ token ∈ tokens, eqIgnoreAsciiCase token (ascii name) = false) → ∀ field ∈ fields,
        eqIgnoreAsciiCase (fieldName field) (ascii name) = true →
          (!isHopByHopField head field || isPreservedField head preserveTrailer preserveUpgrade field) = true := by
    intro name hmem htoken field hfield hname
    rw [isHopByHopField_framing hnamed hmem htoken hname, Bool.not_false, Bool.true_or]
  have haddedName : ∀ name ∈ ["content-length", "transfer-encoding"], ∀ line ∈ connectionFieldLines connectionHeader,
      IsFieldLine line ∧ eqIgnoreAsciiCase (fieldName line) (ascii name) = false := by
    intro name hmem line hline
    have hclosed : ∀ name ∈ ["content-length", "transfer-encoding"],
        eqIgnoreAsciiCase (ascii "Connection") (ascii name) = false := by decide
    rw [(hadded line hline).2]
    exact ⟨(hadded line hline).1, hclosed name hmem⟩
  have hcodings : (fieldLines (headerBytes output)).foldlM pushCodings [] =
      (fieldLines (headerBytes head)).foldlM pushCodings [] := by
    rw [headerBytes, houtput.fieldLines_headerBytes, headerBytes, hlines.fieldLines_headerBytes]
    exact foldlM_sanitized hfields (fun line hline hname => pushCodings_skip hline hname)
      (hframes "transfer-encoding" (by simp) fun token hmem => (hunnamed token hmem).2)
      (haddedName "transfer-encoding" (by simp)) []
  have hlength : responseContentLength (headerBytes output) = responseContentLength (headerBytes head) := by
    rw [responseContentLength, responseContentLength, headerBytes, houtput.fieldLines_headerBytes, headerBytes,
      hlines.fieldLines_headerBytes]
    exact foldlM_sanitized hfields (fun line hline hname => parseResponseContentLength_skip hline hname)
      (hframes "content-length" (by simp) fun token hmem => (hunnamed token hmem).1)
      (haddedName "content-length" (by simp)) none
  refine ⟨houtput.complete (statusLine_ne_nil hlines hstatus), ?_, ?_, hlength, statusLine, fields, _, hlines, rfl,
    houtput, ?_⟩
  · refine houtput.validateResponseHeadSyntax_iff.2 ⟨⟨status, ?_⟩, hstatusLine, ?_⟩
    · rw [← hstatus, responseStatusCode_congr houtput hlines]
    · intro field hfield
      rcases List.mem_append.1 hfield with hfield | hfield
      · exact hfields field (List.mem_of_mem_filter hfield)
      · exact (hadded field hfield).1
  · rw [responseTransferFraming, hcodings]
    rfl
  · intro line hline
    exact isEndToEnd_of_kept (List.mem_filter.1 hline).2

/-- A head whose upstream names a field of its own in `Connection`. -/
def linkedHead : Bytes :=
  ascii "HTTP/1.1 200 OK\r\nX-Hop: 1\r\nContent-Length: 2\r\nConnection: x-hop, close\r\n\r\n"

theorem sanitizeResponseHead_keepsFraming_linked :
    ∃ output, sanitizeResponseHead linkedHead (some (ascii "close")) false false = .ok output ∧
      responseContentLength (headerBytes output) = responseContentLength (headerBytes linkedHead) := by
  have hread : readResponseHead (Source.ofSegments []) linkedHead = (.ok (linkedHead, []), ⟨[]⟩) := by decide +kernel
  have hsanitize : sanitizeResponseHead linkedHead (some (ascii "close")) false false =
      .ok (ascii "HTTP/1.1 200 OK\r\nContent-Length: 2\r\nConnection: close\r\n\r\n") := by
    decide +kernel
  exact ⟨_, hsanitize, (sanitizeResponseHead_keepsFraming hread (by simp) hsanitize).2.2.2.1⟩

end BareProxy.Proxy
