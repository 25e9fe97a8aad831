import BareProxy.Der.Pem
import BareProxy.Der.Values

/-!
# Chains of certificates

The second line machine of `asn1.rs`: it collects every `CERTIFICATE` block of a text, where `pem_decode` stops at the
first. Both read what the one encoder writes.
-/

namespace BareProxy.Der

open Crypto

def certificateLabel : Bytes := ascii "CERTIFICATE"

/-- What the loop over the lines carries. -/
structure ChainState where
  certificates : List Bytes
  insideCertificate : Bool
  base64 : Bytes
deriving DecidableEq, Repr

/-- One line of `decode_x509_certificate_chain_pem`. -/
def chainLine (state : ChainState) (rawLine : Bytes) : Except DerError ChainState :=
  let line := rawLine.rdropWhile fun b => b == 32 || b == 9
  if !state.insideCertificate then
    .ok (if line = pemBegin certificateLabel then { state with insideCertificate := true, base64 := [] } else state)
  else if line = pemEnd certificateLabel then do
    let certificate ← decodeBase64 state.base64
    return ⟨state.certificates ++ [certificate], false, []⟩
  else if ascii "-----BEGIN " <+: line ∨ ascii "-----END " <+: line then .error .pemLabelMismatch
  else .ok { state with base64 := state.base64 ++ line.filter fun b => !isAsciiWhitespace b }

def decodeX509CertificateChainPem (input : Bytes) : Except DerError (List Bytes) := do
  let state ← (textLines input).foldlM chainLine ⟨[], false, []⟩
  ensure (!state.insideCertificate) .pemEndMissing
  ensure (!state.certificates.isEmpty) .pemBeginMissing
  return state.certificates

/-! ### Texts -/

/-- Whole lines none of which opens a block. -/
structure IsForeign (beginBoundary text : Bytes) : Prop where
  whole : text = [] ∨ text.getLast? = some 10
  other : ∀ line ∈ textLines text, (line.rdropWhile fun b => b == 32 || b == 9) ≠ beginBoundary

theorem validatePemLabel_certificate : validatePemLabel certificateLabel = .ok () := by decide

theorem pemEncode_certificate_isOk (der : Bytes) : (pemEncode certificateLabel der).isOk = true := by
  rw [pemEncode, validatePemLabel_certificate]
  rfl

/-- `pem_encode` under the label of certificates, which it accepts. -/
def certificatePem (der : Bytes) : Bytes := expectOk (pemEncode certificateLabel der) (pemEncode_certificate_isOk der)

theorem certificatePem_lines (der : Bytes) :
    (certificatePem der).getLast? = some 10 ∧
      textLines (certificatePem der) = pemBegin certificateLabel :: (pemBody der ++ [pemEnd certificateLabel]) := by
  obtain ⟨text, htext, hlast, hlines⟩ := pemEncode_lines validatePemLabel_certificate der
  rw [certificatePem, expectOk_eq htext]
  exact ⟨hlast, hlines⟩

/-- A text is found behind lines that do not open a block. -/
theorem pemDecode_foreign {label front text : Bytes} (h : validatePemLabel label = .ok ()) (der back : Bytes)
    (hfront : IsForeign (pemBegin label) front) (htext : pemEncode label der = .ok text) :
    pemDecode label (front ++ text ++ back) = .ok der := by
  obtain ⟨text', htext', hlast, hlines⟩ := pemEncode_lines h der
  obtain rfl := Except.ok.inj (htext.symm.trans htext')
  rw [List.append_assoc, pemDecode, h, ok_bind, textLines_append hfront.whole, textLines_append (Or.inr hlast), hlines,
    pemLoop_skip hfront.other, pemLoop_pemBody, ok_bind, decodeBase64_encodeBase64]

/-! ### The chain -/

theorem chainLine_outside {state : ChainState} {line : Bytes} (h : state.insideCertificate = false)
    (hother : (line.rdropWhile fun b => b == 32 || b == 9) ≠ pemBegin certificateLabel) :
    chainLine state line = .ok state := by
  rw [chainLine, h, if_pos Bool.not_false, if_neg hother]

theorem foldlM_chainLine_foreign {state : ChainState} {lines : List Bytes} (h : state.insideCertificate = false)
    (hother : ∀ line ∈ lines, (line.rdropWhile fun b => b == 32 || b == 9) ≠ pemBegin certificateLabel) :
    lines.foldlM chainLine state = .ok state := by
  induction lines with
  | nil => rfl
  | cons line lines ih =>
      rw [List.foldlM_cons, chainLine_outside h (hother line List.mem_cons_self), ok_bind]
      exact ih fun line hline => hother line (List.mem_cons_of_mem _ hline)

theorem foldlM_chainLine_body {certificates lines : List Bytes} {base64 : Bytes}
    (h : ∀ line ∈ lines, line ≠ [] ∧ ∀ b ∈ line, isAsciiAlphanumeric b = true ∨ b = 43 ∨ b = 47 ∨ b = 61) :
    lines.foldlM chainLine ⟨certificates, true, base64⟩ = .ok ⟨certificates, true, base64 ++ lines.flatten⟩ := by
  induction lines generalizing base64 with
  | nil => rw [List.foldlM_nil, List.flatten_nil, List.append_nil, pure_eq_ok]
  | cons line lines ih =>
      obtain ⟨htrim, hfilter, hboundary⟩ := base64Line_plain (h line List.mem_cons_self)
      have hend : line ≠ pemEnd certificateLabel := fun heq =>
        hboundary (pemEnd certificateLabel) rfl (heq ▸ List.prefix_rfl)
      have hline : chainLine ⟨certificates, true, base64⟩ line = .ok ⟨certificates, true, base64 ++ line⟩ := by
        rw [chainLine, htrim, hfilter]
        dsimp only
        rw [if_neg (by decide), if_neg hend, if_neg (not_or.2 ⟨hboundary _ (by decide), hboundary _ (by decide)⟩)]
      rw [List.foldlM_cons, hline, ok_bind, ih fun line hline => h line (List.mem_cons_of_mem _ hline),
        List.flatten_cons, List.append_assoc]

/-- One block adds its certificate. -/
theorem foldlM_chainLine_certificate (certificates : List Bytes) (der : Bytes) {base64 : Bytes} :
    (textLines (certificatePem der)).foldlM chainLine ⟨certificates, false, base64⟩ =
      .ok ⟨certificates ++ [der], false, []⟩ := by
  have hbegin : ((pemBegin certificateLabel).rdropWhile fun b => b == 32 || b == 9) = pemBegin certificateLabel :=
    rdropWhile_boundary _
  have hend : ((pemEnd certificateLabel).rdropWhile fun b => b == 32 || b == 9) = pemEnd certificateLabel :=
    rdropWhile_boundary _
  have hopen : chainLine ⟨certificates, false, base64⟩ (pemBegin certificateLabel) = .ok ⟨certificates, true, []⟩ := by
    rw [chainLine, hbegin]
    rfl
  have hclose : chainLine ⟨certificates, true, encodeBase64 der⟩ (pemEnd certificateLabel) =
      .ok ⟨certificates ++ [der], false, []⟩ := by
    rw [chainLine, hend]
    dsimp only
    rw [if_neg (by decide), if_pos rfl, decodeBase64_encodeBase64]
    rfl
  rw [(certificatePem_lines der).2, List.foldlM_cons, hopen, ok_bind, List.foldlM_append,
    foldlM_chainLine_body fun line hline => pemBody_chars hline, ok_bind, List.nil_append, flatten_pemBody,
    List.foldlM_cons, hclose]
  rfl

/-- Blocks of certificates, each followed by foreign lines. -/
def certificateBlocks (blocks : List (Bytes × Bytes)) : Bytes :=
  blocks.flatMap fun block => certificatePem block.1 ++ block.2

theorem foldlM_chainLine_blocks {blocks : List (Bytes × Bytes)} {certificates : List Bytes} {base64 : Bytes}
    (h : ∀ block ∈ blocks, IsForeign (pemBegin certificateLabel) block.2) :
    ∃ state, (textLines (certificateBlocks blocks)).foldlM chainLine ⟨certificates, false, base64⟩ = .ok state ∧
      state.insideCertificate = false ∧ state.certificates = certificates ++ blocks.map Prod.fst := by
  induction blocks generalizing certificates base64 with
  | nil => exact ⟨⟨certificates, false, base64⟩, rfl, rfl, by rw [List.map_nil, List.append_nil]⟩
  | cons block blocks ih =>
      obtain ⟨der, text⟩ := block
      have htext : IsForeign (pemBegin certificateLabel) text := h (der, text) List.mem_cons_self
      obtain ⟨state, hrest, hoctets, hcertificates⟩ := @ih (certificates ++ [der]) []
        fun block hblock => h block (List.mem_cons_of_mem _ hblock)
      refine ⟨state, ?_, hoctets, ?_⟩
      · rw [certificateBlocks, List.flatMap_cons, List.append_assoc,
          textLines_append (Or.inr (certificatePem_lines der).1), textLines_append htext.whole, List.foldlM_append,
          foldlM_chainLine_certificate, ok_bind, List.foldlM_append, foldlM_chainLine_foreign rfl htext.other, ok_bind]
        exact hrest
      · rw [hcertificates, List.map_cons, List.append_assoc, List.singleton_append]

/-- The chain of a text is what was encoded into it. -/
theorem decodeX509CertificateChainPem_blocks {front : Bytes} {blocks : List (Bytes × Bytes)} (hne : blocks ≠ [])
    (hfront : IsForeign (pemBegin certificateLabel) front)
    (h : ∀ block ∈ blocks, IsForeign (pemBegin certificateLabel) block.2) :
    decodeX509CertificateChainPem (front ++ certificateBlocks blocks) = .ok (blocks.map Prod.fst) := by
  obtain ⟨state, hstate, hinside, hcertificates⟩ := @foldlM_chainLine_blocks blocks [] [] h
  rw [List.nil_append] at hcertificates
  have hnonempty : (!state.certificates.isEmpty) = true := by
    rw [hcertificates, List.isEmpty_eq_false_iff.2 (fun hnil => hne (List.map_eq_nil_iff.1 hnil))]
    rfl
  rw [decodeX509CertificateChainPem, textLines_append hfront.whole, List.foldlM_append,
    foldlM_chainLine_foreign rfl hfront.other, ok_bind, hstate, ok_bind, ensure_of (by rw [hinside]; rfl), ok_bind,
    ensure_of hnonempty, ok_bind, hcertificates]
  rfl

/-! ### The first certificate -/

/-- Certificates are only added behind those that are there. -/
theorem head_of_chainLine {state state' : ChainState} {line first : Bytes} (h : state.certificates.head? = some first)
    (hline : chainLine state line = .ok state') : state'.certificates.head? = some first := by
  rw [chainLine] at hline
  split at hline
  · cases hline
    split
    · exact h
    · exact h
  · split at hline
    · obtain ⟨certificate, -, hline⟩ := bind_eq_ok.1 hline
      cases hline
      rw [List.head?_append, h]
      rfl
    · split at hline
      · cases hline
      · cases hline
        exact h

/-- Inside the first block both machines collect the same characters. -/
theorem pemBodyLoop_of_chain {base64 : Bytes} {lines : List Bytes} {state : ChainState}
    (h : lines.foldlM chainLine ⟨[], true, base64⟩ = .ok state) (hclosed : state.insideCertificate = false) :
    ∃ encoded first, pemBodyLoop (pemEnd certificateLabel) base64 lines = .ok encoded ∧
      decodeBase64 encoded = .ok first ∧ state.certificates.head? = some first := by
  induction lines generalizing base64 with
  | nil =>
      cases h
      cases hclosed
  | cons rawLine lines ih =>
      rw [List.foldlM_cons] at h
      obtain ⟨next, hline, hrest⟩ := bind_eq_ok.1 h
      rw [chainLine] at hline
      dsimp only at hline
      rw [if_neg (by decide)] at hline
      rw [pemBodyLoop]
      split at hline
      · rename_i hend
        obtain ⟨first, hdecode, hline⟩ := bind_eq_ok.1 hline
        cases hline
        refine ⟨base64, first, if_pos hend, hdecode, ?_⟩
        exact foldlM_invariant (p := fun state : ChainState => state.certificates.head? = some first)
          (fun line _ before after hbefore hafter => head_of_chainLine hbefore hafter) rfl hrest
      · rename_i hend
        split at hline
        · cases hline
        · rename_i hboundary
          cases hline
          rw [if_neg hend, if_neg (fun hother => hboundary (Or.inr hother))]
          exact ih hrest

/-- Where the chain is read, so is its first certificate, by the machine that stops there. -/
theorem pemLoop_of_chain {lines : List Bytes} {base64 : Bytes} {state : ChainState}
    (h : lines.foldlM chainLine ⟨[], false, base64⟩ = .ok state) (hclosed : state.insideCertificate = false)
    (hne : state.certificates ≠ []) :
    ∃ encoded first, pemLoop (pemBegin certificateLabel) (pemEnd certificateLabel) lines = .ok encoded ∧
      decodeBase64 encoded = .ok first ∧ state.certificates.head? = some first := by
  induction lines with
  | nil =>
      cases h
      exact absurd rfl hne
  | cons rawLine lines ih =>
      rw [List.foldlM_cons] at h
      obtain ⟨next, hline, hrest⟩ := bind_eq_ok.1 h
      rw [chainLine] at hline
      dsimp only at hline
      rw [if_pos Bool.not_false] at hline
      cases hline
      rw [pemLoop]
      split at hrest
      · rename_i hbegin
        rw [if_pos hbegin]
        exact pemBodyLoop_of_chain hrest hclosed
      · rename_i hbegin
        rw [if_neg hbegin]
        exact ih hrest

theorem pemDecode_of_chain {input : Bytes} {chain : List Bytes}
    (h : decodeX509CertificateChainPem input = .ok chain) :
    ∃ first rest, chain = first :: rest ∧ pemDecode certificateLabel input = .ok first := by
  obtain ⟨state, hlines, h⟩ := bind_eq_ok.1 h
  obtain ⟨_, hclosed, h⟩ := bind_eq_ok.1 h
  obtain ⟨_, hnonempty, h⟩ := bind_eq_ok.1 h
  cases h
  rw [ensure_eq_ok] at hclosed hnonempty
  have hne : state.certificates ≠ [] := by
    intro hnil
    rw [hnil] at hnonempty
    exact absurd hnonempty (by decide)
  obtain ⟨encoded, first, hloop, hdecode, hhead⟩ := pemLoop_of_chain hlines (by simpa using hclosed) hne
  obtain ⟨rest, hchain⟩ := List.head?_eq_some_iff.1 hhead
  refine ⟨first, rest, hchain, ?_⟩
  rw [pemDecode, validatePemLabel_certificate, ok_bind, hloop, ok_bind, hdecode]

/-- What was encoded is recovered, on its own and in a chain, and the two decoders agree on the first certificate. -/
theorem pem_recovers :
    (∀ label der text front back : Bytes, validatePemLabel label = .ok () → IsForeign (pemBegin label) front →
      pemEncode label der = .ok text → pemDecode label (front ++ text ++ back) = .ok der) ∧
    (∀ (front : Bytes) (blocks : List (Bytes × Bytes)), blocks ≠ [] → IsForeign (pemBegin certificateLabel) front →
      (∀ block ∈ blocks, IsForeign (pemBegin certificateLabel) block.2) →
      decodeX509CertificateChainPem (front ++ certificateBlocks blocks) = .ok (blocks.map Prod.fst)) ∧
    (∀ (input : Bytes) (chain : List Bytes), decodeX509CertificateChainPem input = .ok chain →
      ∃ first rest, chain = first :: rest ∧ pemDecode certificateLabel input = .ok first) :=
  ⟨fun _ der _ _ back hlabel hfront htext => pemDecode_foreign hlabel der back hfront htext,
    fun _ _ hne hfront h => decodeX509CertificateChainPem_blocks hne hfront h,
    fun _ _ h => pemDecode_of_chain h⟩

/-- Two certificates, one of them empty, with a comment before and a blank line between. -/
theorem pem_recovers_chain :
    decodeX509CertificateChainPem (ascii "# leaf\n" ++ certificateBlocks [([48, 0], [10]), ([], [])]) =
      .ok [[48, 0], []] :=
  pem_recovers.2.1 (ascii "# leaf\n") [([48, 0], [10]), ([], [])] (by decide)
    ⟨Or.inr (by decide), by decide⟩ (by
      intro block hblock
      simp only [List.mem_cons, List.not_mem_nil, or_false] at hblock
      rcases hblock with rfl | rfl
      · exact ⟨Or.inr (by decide), by decide⟩
      · exact ⟨Or.inl rfl, by decide⟩)

end BareProxy.Der
