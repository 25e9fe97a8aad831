import BareProxy.Proxy.Sanitized

/-!
# When a response is chunked

The transfer codings of a response may be spread over several fields. A response is chunked when the last coding is, no
other is, and it has no parameters; a head that mentions `chunked` in any other way is refused, so it is never read as a
response without a coding or as one that lasts until the connection ends.
-/

namespace BareProxy.Proxy

open Http Reader

/-! ### The codings of a head -/

/-- The members of the `Transfer-Encoding` fields, without the blanks around them. -/
def transferCodings (head : Bytes) : List Bytes :=
  (listedMembers (fieldLines (headerBytes head)) (ascii "transfer-encoding")).map trimOptionalWhitespace

/-- What stands in front of the first semicolon. -/
def beforeParameters (coding : Bytes) : Bytes := (coding.splitOn 59).headD coding

/-- The name of a coding is `chunked`, in any case and with blanks around it. -/
def namesChunked (coding : Bytes) : Bool :=
  eqIgnoreAsciiCase (trimOptionalWhitespace (beforeParameters coding)) (ascii "chunked")

/-- The last coding is `chunked` without parameters, no other is, and none is left empty. -/
structure EndsWithChunked (codings : List Bytes) : Prop where
  last : ∃ last, codings.getLast? = some last ∧ namesChunked last = true ∧ 59 ∉ last
  only : ∀ coding ∈ codings.dropLast, namesChunked coding = false
  full : ∀ coding ∈ codings, coding ≠ []

theorem beforeParameters_cases (coding : Bytes) :
    (59 ∉ coding ∧ beforeParameters coding = coding) ∨
      ∃ parameters, coding = beforeParameters coding ++ 59 :: parameters := by
  by_cases hmem : 59 ∈ coding
  · obtain ⟨name, parameters, hcoding, hname⟩ := List.eq_append_cons_of_mem hmem
    right
    refine ⟨parameters, ?_⟩
    have hbefore : beforeParameters coding = name := by
      rw [beforeParameters, hcoding, List.splitOn_append_cons_self_of_not_mem hname]
      rfl
    rw [hbefore]
    exact hcoding
  · exact Or.inl ⟨hmem, by rw [beforeParameters, List.splitOn_eq_singleton hmem]; rfl⟩

theorem length_beforeParameters {coding : Bytes} : coding.length = (beforeParameters coding).length ↔ 59 ∉ coding := by
  rcases beforeParameters_cases coding with ⟨hmem, hbefore⟩ | ⟨parameters, hcoding⟩
  · rw [hbefore]
    exact iff_of_true rfl hmem
  · apply iff_of_false
    · have hlength := congrArg List.length hcoding
      rw [List.length_append, List.length_cons] at hlength
      omega
    · rw [hcoding]
      simp

/-- A name that is `chunked` as it stands has no blanks around it. -/
theorem namesChunked_of_eq {coding : Bytes} (h : eqIgnoreAsciiCase (beforeParameters coding) (ascii "chunked") = true) :
    namesChunked coding = true := by
  have hletter : ∀ b, toLower b ∈ ascii "chunked" → isOptionalWhitespace b = false := by
    apply byte_forall (p := fun b => toLower b ∈ ascii "chunked" → isOptionalWhitespace b = false)
    decide +kernel
  have hlower : toAsciiLowercase (beforeParameters coding) = ascii "chunked" := eqIgnoreAsciiCase_iff.1 h
  rw [namesChunked, trimOptionalWhitespace_eq_self_of_forall]
  · exact h
  · intro b hb
    apply hletter
    rw [← hlower]
    exact List.mem_map_of_mem hb

/-! ### Collecting them -/

theorem pushCoding_iff {before after : List Bytes} {member : Bytes} :
    pushCoding before member = .ok after ↔
      (trimOptionalWhitespace member ≠ [] ∧
        (eqIgnoreAsciiCase (beforeParameters (trimOptionalWhitespace member)) (ascii "chunked") = true →
          59 ∉ trimOptionalWhitespace member)) ∧
      after = before ++ [beforeParameters (trimOptionalWhitespace member)] := by
  have hlength := @length_beforeParameters (trimOptionalWhitespace member)
  unfold pushCoding
  dsimp only
  rw [← beforeParameters]
  constructor
  · intro h
    split at h
    · cases h
    · rename_i hne
      split at h
      · cases h
      · rename_i hparameters
        rw [List.isEmpty_iff] at hne
        refine ⟨⟨hne, fun hchunked => hlength.1 ?_⟩, (Except.ok.inj h).symm⟩
        by_contra hdifferent
        exact hparameters ⟨hchunked, hdifferent⟩
  · intro h
    obtain ⟨⟨hne, hparameters⟩, rfl⟩ := h
    rw [List.isEmpty_eq_false_iff.2 hne, if_neg Bool.false_ne_true, if_neg]
    intro h
    exact h.2 (hlength.2 (hparameters h.1))

/-- All codings but the last have to be other codings. -/
theorem checkCodings_iff {codings : List Bytes} {index total : Nat} (htotal : total = index + codings.length) :
    checkCodings total index 0 codings = .ok () ↔
      ∀ coding ∈ codings.dropLast, eqIgnoreAsciiCase coding (ascii "chunked") = false := by
  induction codings generalizing index with
  | nil => simp [checkCodings]
  | cons coding codings ih =>
    rw [List.length_cons] at htotal
    rw [checkCodings]
    cases codings with
    | nil =>
      have hlast : ¬(0 + 1 > 1 ∨ index + 1 ≠ total) := by
        rw [List.length_nil] at htotal
        omega
      rw [if_neg hlast]
      simp [checkCodings]
    | cons next more =>
      rw [List.dropLast_cons_cons, List.forall_mem_cons]
      rw [List.length_cons] at htotal
      cases hcoding : eqIgnoreAsciiCase coding (ascii "chunked") with
      | true =>
        rw [if_pos rfl, if_pos (by omega)]
        simp [invalidResponse]
      | false =>
        rw [if_neg Bool.false_ne_true, ih (by rw [List.length_cons]; omega)]
        simp

/-! ### The classification -/

/-- The framing, once the codings are collected. -/
def codingsFraming (codings : List Bytes) : Except ProxyError ResponseTransferFraming :=
  if codings.isEmpty then .ok .none
  else do
    checkCodings codings.length 0 0 codings
    if codings.getLast?.any fun coding => eqIgnoreAsciiCase coding (ascii "chunked") then .ok .chunked
    else .ok .closeDelimited

theorem codingsFraming_eq {codings : List Bytes} (hne : codings ≠ []) :
    (codingsFraming codings = .ok .chunked ∧
      (∀ coding ∈ codings.dropLast, eqIgnoreAsciiCase coding (ascii "chunked") = false) ∧
      ∃ last, codings.getLast? = some last ∧ eqIgnoreAsciiCase last (ascii "chunked") = true) ∨
    (codingsFraming codings = .ok .closeDelimited ∧
      ∀ coding ∈ codings, eqIgnoreAsciiCase coding (ascii "chunked") = false) ∨
    ((∃ error, codingsFraming codings = .error error) ∧
      ∃ coding ∈ codings.dropLast, eqIgnoreAsciiCase coding (ascii "chunked") = true) := by
  have hcheck := @checkCodings_iff codings 0 codings.length (Nat.zero_add _).symm
  have hlast := List.getLast?_eq_some_getLast hne
  rw [codingsFraming, List.isEmpty_eq_false_iff.2 hne, if_neg Bool.false_ne_true, hlast, Option.any_some]
  cases hchecked : checkCodings codings.length 0 0 codings with
  | error error =>
    right
    right
    refine ⟨⟨error, rfl⟩, ?_⟩
    by_contra hnone
    have hok := hcheck.2 fun coding hcoding => by
      rw [← Bool.not_eq_true]
      exact fun hchunked => hnone ⟨coding, hcoding, hchunked⟩
    rw [hchecked] at hok
    cases hok
  | ok =>
    have hother := hcheck.1 hchecked
    rw [ok_bind]
    cases hlastChunked : eqIgnoreAsciiCase (codings.getLast hne) (ascii "chunked") with
    | true => exact Or.inl ⟨rfl, hother, _, rfl, hlastChunked⟩
    | false =>
      refine Or.inr (Or.inl ⟨rfl, fun coding hcoding => ?_⟩)
      rw [← List.dropLast_append_getLast hne] at hcoding
      rcases List.mem_append.1 hcoding with hcoding | hcoding
      · exact hother coding hcoding
      · rw [List.mem_singleton.1 hcoding]
        exact hlastChunked

section Framing

variable {head statusLine : Bytes} {fields : List Bytes} (h : IsHeadOf head statusLine fields)
  (hfields : ∀ field ∈ fields, IsFieldLine field)

include h hfields

theorem responseTransferFraming_eq :
    responseTransferFraming (headerBytes head) =
      (listedMembers (fieldLines (headerBytes head)) (ascii "transfer-encoding")).foldlM pushCoding [] >>=
        codingsFraming := by
  have hlines : fieldLines (headerBytes head) = fields := h.fieldLines_headerBytes
  have hloop : fields.foldlM pushCodings [] =
      (listedMembers fields (ascii "transfer-encoding")).foldlM pushCoding [] := by
    apply foldlM_listedMembers
    · exact fun line hline hname => pushCodings_skip (hfields line hline) hname
    · intro line hline hname codings
      obtain ⟨separator, hseparator⟩ := (hfields line hline).separator
      rw [fieldName_eq hseparator] at hname
      rw [pushCodings, hseparator, fieldValue_eq hseparator]
      simp [hname]
  rw [responseTransferFraming, hlines, hloop]
  rfl

end Framing

/-- Codings that end with `chunked` are all collected. -/
theorem EndsWithChunked.pushes {codings : List Bytes} (h : EndsWithChunked codings) {coding : Bytes}
    (hcoding : coding ∈ codings) :
    coding ≠ [] ∧ (eqIgnoreAsciiCase (beforeParameters coding) (ascii "chunked") = true → 59 ∉ coding) := by
  refine ⟨h.full coding hcoding, fun hchunked => ?_⟩
  obtain ⟨last, hlast, -, hparameters⟩ := h.last
  obtain ⟨init, rfl⟩ := List.getLast?_eq_some_iff.1 hlast
  rcases List.mem_append.1 hcoding with hcoding | hcoding
  · have hother := h.only coding (by rwa [List.dropLast_concat])
    rw [namesChunked_of_eq hchunked] at hother
    cases hother
  · rwa [List.mem_singleton.1 hcoding]

/-- A head that says `chunked`, and says it without blanks in front of parameters, is chunked when its last coding alone
is and no coding is left empty; otherwise it is refused. -/
theorem responseTransferFraming_chunked {ρ : Type} [Reader ρ] {upstream upstream' : ρ} {buffered head rest : Bytes}
    (hread : readResponseHead upstream buffered = (.ok (head, rest), upstream'))
    (hchunked : ∃ coding ∈ transferCodings head, namesChunked coding = true)
    (hblanks : ∀ coding ∈ transferCodings head, namesChunked coding = true →
      trimOptionalWhitespace (beforeParameters coding) = beforeParameters coding) :
    (EndsWithChunked (transferCodings head) → responseTransferFraming (headerBytes head) = .ok .chunked) ∧
      (¬EndsWithChunked (transferCodings head) → ∃ error, responseTransferFraming (headerBytes head) = .error error) := by
  obtain ⟨hhead, -, -⟩ := readResponseHead_ok hread
  obtain ⟨statusLine, fields, hlines⟩ := hhead.exists_lines
  obtain ⟨-, -, hfields⟩ := hlines.validateResponseHeadSyntax_iff.1 hhead.valid
  rw [responseTransferFraming_eq hlines hfields]
  set members := listedMembers (fieldLines (headerBytes head)) (ascii "transfer-encoding") with hmembers
  have hcodings : transferCodings head = members.map trimOptionalWhitespace := rfl
  have hnames : ∀ coding ∈ transferCodings head,
      namesChunked coding = eqIgnoreAsciiCase (beforeParameters coding) (ascii "chunked") := by
    intro coding hcoding
    rw [Bool.eq_iff_iff]
    constructor
    · intro hnamed
      rw [← hblanks coding hcoding hnamed]
      exact hnamed
    · exact namesChunked_of_eq
  cases hcollect : members.foldlM pushCoding [] with
  | error error =>
    refine ⟨fun hends => ?_, fun _ => ⟨error, rfl⟩⟩
    have hok : members.foldlM pushCoding [] =
        .ok ([] ++ members.map fun member => beforeParameters (trimOptionalWhitespace member)) :=
      (foldlM_push_iff (f := pushCoding) fun _ _ _ _ => pushCoding_iff).2
        ⟨fun member hmember => hends.pushes (List.mem_map_of_mem hmember), rfl⟩
    rw [hcollect] at hok
    cases hok
  | ok names =>
    obtain ⟨hvalid, hnamesEq⟩ := (foldlM_push_iff (f := pushCoding) fun _ _ _ _ => pushCoding_iff).1 hcollect
    obtain rfl : names = (transferCodings head).map beforeParameters := by
      rw [hnamesEq, List.nil_append, hcodings, List.map_map]
      rfl
    have hpushed : ∀ coding ∈ transferCodings head, coding ≠ [] ∧
        (eqIgnoreAsciiCase (beforeParameters coding) (ascii "chunked") = true → 59 ∉ coding) := by
      intro coding hcoding
      obtain ⟨member, hmember, rfl⟩ := List.mem_map.1 hcoding
      exact hvalid member hmember
    obtain ⟨chunked, hmem, hnamed⟩ := hchunked
    have hne : (transferCodings head).map beforeParameters ≠ [] :=
      List.ne_nil_of_mem (List.mem_map_of_mem hmem)
    rw [ok_bind]
    rcases codingsFraming_eq hne with ⟨hframing, hother, last, hlast, hlastChunked⟩ | ⟨-, hnone⟩ | ⟨herror, name, hname, hsecond⟩
    · rw [List.getLast?_map, Option.map_eq_some_iff] at hlast
      obtain ⟨coding, hcoding, rfl⟩ := hlast
      rw [← List.map_dropLast] at hother
      refine ⟨fun _ => hframing, fun hnot => absurd ?_ hnot⟩
      refine ⟨⟨coding, hcoding, namesChunked_of_eq hlastChunked, ?_⟩, ?_, fun c hc => (hpushed c hc).1⟩
      · exact (hpushed coding (List.mem_of_getLast? hcoding)).2 hlastChunked
      · intro c hc
        rw [hnames c (List.mem_of_mem_dropLast hc)]
        exact hother _ (List.mem_map_of_mem hc)
    · rw [hnames chunked hmem, hnone _ (List.mem_map_of_mem hmem)] at hnamed
      cases hnamed
    · rw [← List.map_dropLast] at hname
      obtain ⟨coding, hcoding, rfl⟩ := List.mem_map.1 hname
      refine ⟨fun hends => ?_, fun _ => herror⟩
      have hfirst := hends.only coding hcoding
      rw [namesChunked_of_eq hsecond] at hfirst
      cases hfirst

/-- Two fields, of which the second ends with `chunked` in another case. -/
def spreadHead : Bytes :=
  ascii "HTTP/1.1 200 OK\r\nTransfer-Encoding: gzip;q=1\r\nTransfer-Encoding: br,\t CHUNKED \r\n\r\n"

theorem responseTransferFraming_chunked_spread : responseTransferFraming (headerBytes spreadHead) = .ok .chunked := by
  have hread : readResponseHead (Source.ofSegments []) spreadHead = (.ok (spreadHead, []), ⟨[]⟩) := by decide +kernel
  have hcodings : transferCodings spreadHead = [ascii "gzip;q=1", ascii "br", ascii "CHUNKED"] := by decide +kernel
  refine (responseTransferFraming_chunked hread ?_ ?_).1 ?_
  · rw [hcodings]
    exact ⟨ascii "CHUNKED", by simp, by decide⟩
  · rw [hcodings]
    decide
  · rw [hcodings]
    exact ⟨⟨ascii "CHUNKED", rfl, by decide, by decide⟩, by decide, by decide⟩

/-- An empty member in front of the only coding. -/
def emptyMemberHead : Bytes := ascii "HTTP/1.1 200 OK\r\nTransfer-Encoding: , chunked\r\n\r\n"

/-- An empty member is refused, also where `chunked` comes last, alone and without parameters. -/
theorem responseTransferFraming_emptyMember :
    readResponseHead (Source.ofSegments []) emptyMemberHead = (.ok (emptyMemberHead, []), ⟨[]⟩) ∧
      transferCodings emptyMemberHead = [[], ascii "chunked"] ∧
      responseTransferFraming (headerBytes emptyMemberHead) =
        .error (.invalidUpstreamResponse "empty Transfer-Encoding value") := by
  decide +kernel

end BareProxy.Proxy
