import BareProxy.Proxy.Forward

/-!
# The lines of a response head

A head that passed `validate_response_head_syntax` is a status line and non-empty field lines, each ended
by CR LF, and a blank line. Sanitizing keeps the status line and some of the field lines, so the result is
again such a block: its only blank line is at its end and it has the same status.
-/

namespace BareProxy.Proxy

open Http Reader

/-! ### Cutting a head into lines -/

theorem checkLineEnds_cases {previous : Option Byte} {s : Bytes} (h : checkLineEnds previous s = .ok ())
    (hprevious : previous ≠ some cr) :
    IsLine s ∨ ∃ line rest, IsLine line ∧ s = line ++ crlf ++ rest ∧ checkLineEnds (some lf) rest = .ok () := by
  induction s generalizing previous with
  | nil => exact Or.inl isLine_nil
  | cons b rest ih =>
    rw [checkLineEnds] at h
    split at h
    · cases h
    · rename_i hlf
      have hb : b ≠ lf := fun heq => hlf ⟨heq, hprevious⟩
      split at h
      · cases h
      · rename_i hcr
        by_cases hbcr : b = cr
        · -- the LF that must follow ends the first line here
          have hhead : rest.head? = some lf := by
            by_contra hne
            exact hcr ⟨hbcr, hne⟩
          obtain ⟨rest', rfl⟩ : ∃ rest', rest = lf :: rest' := by
            cases rest with
            | nil => simp at hhead
            | cons c rest' =>
              rw [List.head?_cons, Option.some.injEq] at hhead
              exact ⟨rest', by rw [hhead]⟩
          rw [checkLineEnds, hbcr] at h
          refine Or.inr ⟨[], rest', isLine_nil, by rw [hbcr]; rfl, ?_⟩
          simpa [cr, lf] using h
        · have hnext : some b ≠ some cr := fun heq => hbcr (Option.some.inj heq)
          rcases ih h hnext with hline | ⟨line, rest', hline, hrest, hok⟩
          · left
            exact ⟨by simp [Ne.symm hbcr, hline.1], by simp [Ne.symm hb, hline.2]⟩
          · right
            refine ⟨b :: line, rest', ?_, by rw [hrest]; rfl, hok⟩
            exact ⟨by simp [Ne.symm hbcr, hline.1], by simp [Ne.symm hb, hline.2]⟩

/-- Bytes without a bare CR or LF are lines, and a rest that is not ended. -/
theorem exists_unlines {previous : Option Byte} {s : Bytes} (h : checkLineEnds previous s = .ok ())
    (hprevious : previous ≠ some cr) :
    ∃ lines last, s = unlines lines ++ last ∧ (∀ line ∈ lines, IsLine line) ∧ IsLine last := by
  induction hlen : s.length using Nat.strong_induction_on generalizing previous s with
  | _ n ih =>
    rcases checkLineEnds_cases h hprevious with hline | ⟨line, rest, hline, hs, hrest⟩
    · exact ⟨[], s, by simp, by simp, hline⟩
    · have hlt : rest.length < n := by
        rw [← hlen, hs, List.length_append, List.length_append]
        simp [crlf]
      obtain ⟨lines, last, hsplit, hlines, hlast⟩ := ih rest.length hlt hrest (by decide) rfl
      refine ⟨line :: lines, last, ?_, ?_, hlast⟩
      · rw [hs, hsplit, unlines_cons, List.append_assoc, List.append_assoc, List.append_assoc]
      · intro l hl
        rcases List.mem_cons.1 hl with rfl | hl
        · exact hline
        · exact hlines l hl

/-- A status line, non-empty field lines and a blank line. -/
structure IsHeadOf (head statusLine : Bytes) (fields : List Bytes) : Prop where
  head : head = unlines (statusLine :: fields) ++ crlf
  statusLine : IsLine statusLine
  fields : ∀ field ∈ fields, IsLine field ∧ field ≠ []

/-- A line at the end of bytes that end with LF is empty. -/
theorem eq_nil_of_suffix_crlf {s line : Bytes} (hline : IsLine line) (h : crlf <:+ s ++ line) : line = [] := by
  by_contra hne
  obtain ⟨u, hu⟩ := h
  have hlast : (s ++ line).getLast? = some lf := by
    rw [← hu, List.getLast?_append_of_ne_nil _ (by decide)]
    rfl
  rw [List.getLast?_append_of_ne_nil _ hne] at hlast
  exact hline.2 (List.mem_of_getLast? hlast)

/-- The checks of `validate_response_head_syntax` cut a head into such lines. -/
theorem IsResponseHead.exists_lines {head : Bytes} (h : IsResponseHead head) :
    ∃ statusLine fields, IsHeadOf head statusLine fields := by
  have hvalid := h.valid
  unfold validateResponseHeadSyntax at hvalid
  split at hvalid
  · cases hvalid
  · rename_i hsuffix
    rw [bind_eq_ok] at hvalid
    obtain ⟨⟨⟩, hends, -⟩ := hvalid
    obtain ⟨before, hbefore⟩ : crlfCrlf <:+ head := by simpa using hsuffix
    obtain ⟨lines, last, hhead, hlines, hlast⟩ := exists_unlines hends (by decide)
    have hlastNil : last = [] := by
      apply eq_nil_of_suffix_crlf hlast
      rw [← hhead, ← hbefore]
      exact ⟨before ++ crlf, by simp [crlf, crlfCrlf]⟩
    subst hlastNil
    rw [List.append_nil] at hhead
    -- the last line is the blank one
    rcases List.eq_nil_or_concat lines with rfl | ⟨init, blank, rfl⟩
    · have := h.four_le
      rw [hhead] at this
      simp at this
    · rw [List.concat_eq_append] at hhead hlines
      rw [unlines_append, unlines_cons, unlines_nil, List.append_nil, ← List.append_assoc] at hhead
      have hcrlf : before ++ crlf = unlines init ++ blank := by
        apply (List.append_left_inj crlf).1
        rw [← hhead, ← hbefore, List.append_assoc]
        rfl
      have hblank : blank = [] :=
        eq_nil_of_suffix_crlf (hlines blank (by simp)) (hcrlf ▸ List.suffix_append _ _)
      subst hblank
      rw [List.append_nil] at hhead hcrlf
      cases init with
      | nil => simp [crlf] at hcrlf
      | cons statusLine fields =>
        refine ⟨statusLine, fields, hhead, hlines statusLine (by simp), fun field hfield => ?_⟩
        refine ⟨hlines field (by simp [hfield]), fun hnil => ?_⟩
        -- an empty field line would be an earlier blank line
        subst hnil
        obtain ⟨left, right, rfl⟩ := List.append_of_mem hfield
        obtain ⟨front, hfront⟩ := unlines_suffix_crlf (List.cons_ne_nil statusLine left)
        have hsplit : head = front ++ crlfCrlf ++ (unlines right ++ crlf) := by
          rw [hhead, ← List.cons_append, unlines_append, ← hfront]
          simp [crlf, crlfCrlf]
        obtain ⟨-, -, hfirst⟩ := indexOfSub_eq_some_iff.1 h.blankLine
        refine hfirst front.length ?_ ?_
        · rw [hsplit]
          simp only [List.length_append, crlfCrlf, crlf, List.length_cons, List.length_nil]
          omega
        · rw [hsplit, List.append_assoc, List.drop_left]
          exact List.prefix_append _ _

/-! ### What the source reads from such a head -/

theorem stripCr_append (line : Bytes) : stripCr (line ++ [cr]) = line := by
  simp [stripCr]

theorem splitOn_head {head statusLine : Bytes} {fields : List Bytes} (h : IsHeadOf head statusLine fields) :
    head.splitOn lf = (statusLine ++ [cr]) :: (fields.map (· ++ [cr]) ++ [[cr], []]) := by
  have hlines : ∀ line ∈ statusLine :: fields, IsLine line := by
    intro line hline
    rcases List.mem_cons.1 hline with rfl | hline
    · exact h.statusLine
    · exact (h.fields line hline).1
  rw [h.head, splitOn_unlines hlines]
  rfl

theorem fieldLines_head {head statusLine : Bytes} {fields : List Bytes} (h : IsHeadOf head statusLine fields) :
    fieldLines head = fields ++ [[], []] := by
  have hmap : (fields.map (· ++ [cr])).map stripCr = fields := by
    rw [List.map_map]
    conv_rhs => rw [← List.map_id fields]
    apply List.map_congr_left
    intro field _
    exact stripCr_append field
  rw [fieldLines, splitOn_head h, List.tail_cons, List.map_append, hmap]
  rfl

theorem statusLine_head {head statusLine : Bytes} {fields : List Bytes} (h : IsHeadOf head statusLine fields) :
    stripCr ((head.splitOn lf).headD []) = statusLine := by
  rw [splitOn_head h]
  exact stripCr_append statusLine

/-- The status is read from the status line alone. -/
theorem responseStatusCode_congr {left right statusLine : Bytes} {leftFields rightFields : List Bytes}
    (hleft : IsHeadOf left statusLine leftFields) (hright : IsHeadOf right statusLine rightFields) :
    responseStatusCode left = responseStatusCode right := by
  have hfind : ∀ {head fields}, IsHeadOf head statusLine fields →
      findBytes head crlf = some statusLine.length ∧ head.take statusLine.length = statusLine := by
    intro head fields h
    have hsplit : head = statusLine ++ crlf ++ (unlines fields ++ crlf) := by
      rw [h.head, unlines_cons]
      simp only [List.append_assoc]
    refine ⟨?_, ?_⟩
    · rw [hsplit]
      exact indexOfSub_crlf_line h.statusLine _
    · rw [hsplit, List.append_assoc, List.take_left]
  simp only [responseStatusCode, (hfind hleft).1, (hfind hleft).2, (hfind hright).1, (hfind hright).2]

theorem statusLine_ne_nil {head statusLine : Bytes} {fields : List Bytes} (h : IsHeadOf head statusLine fields)
    {status : Nat} (hstatus : responseStatusCode head = .ok status) : statusLine ≠ [] := by
  intro hnil
  subst hnil
  have hfind : findBytes head crlf = some 0 := by
    rw [h.head, unlines_cons]
    rfl
  rw [responseStatusCode, hfind] at hstatus
  cases hstatus

/-! ### Sanitizing -/

/-- What stands in front of the colon of a field line. -/
def fieldName (line : Bytes) : Bytes := line.take ((line.idxOf? 58).getD line.length)

/-- What stands behind the colon. -/
def fieldValue (line : Bytes) : Bytes := line.drop ((line.idxOf? 58).getD line.length + 1)

theorem fieldName_eq {line : Bytes} {separator : Nat} (h : line.idxOf? 58 = some separator) :
    fieldName line = line.take separator := by
  rw [fieldName, h, Option.getD_some]

theorem fieldValue_eq {line : Bytes} {separator : Nat} (h : line.idxOf? 58 = some separator) :
    fieldValue line = line.drop (separator + 1) := by
  rw [fieldValue, h, Option.getD_some]

section Sanitize

variable {connectionTokens : List Bytes} {preserveTrailer preserveUpgrade : Bool}

theorem pushSanitizedLine_ok {output line next : Bytes}
    (h : pushSanitizedLine connectionTokens preserveTrailer preserveUpgrade output line = .ok next) :
    next = output ++ if line.isEmpty ||
      shouldRemoveResponseHeader (fieldName line) connectionTokens preserveTrailer preserveUpgrade then []
      else line ++ crlf := by
  unfold pushSanitizedLine at h
  split at h
  · rename_i hempty
    cases h
    rw [hempty, Bool.true_or, if_pos rfl, List.append_nil]
  · rename_i hempty
    rw [Bool.not_eq_true] at hempty
    rw [hempty, Bool.false_or]
    split at h
    · cases h
    · rename_i separator hseparator
      dsimp only at h
      rw [← fieldName_eq hseparator] at h
      split at h
      · rename_i hremove
        cases h
        rw [if_pos hremove, List.append_nil]
      · rename_i hkeep
        rw [if_neg hkeep, ← List.append_assoc]
        split at h
        · split at h
          · cases h
          · cases h
            rfl
        · cases h
          rfl

/-- The fields of a sanitized head are those that are not removed, in order. -/
theorem foldlM_pushSanitizedLine {lines : List Bytes} {start output : Bytes}
    (h : lines.foldlM (pushSanitizedLine connectionTokens preserveTrailer preserveUpgrade) start = .ok output) :
    output = start ++ unlines (lines.filter fun line => !(line.isEmpty ||
      shouldRemoveResponseHeader (fieldName line) connectionTokens preserveTrailer preserveUpgrade)) := by
  induction lines generalizing start with
  | nil =>
    cases h
    simp
  | cons line lines ih =>
    rw [List.foldlM_cons, bind_eq_ok] at h
    obtain ⟨next, hnext, hrest⟩ := h
    rw [ih hrest, pushSanitizedLine_ok hnext, List.filter_cons]
    cases line.isEmpty ||
      shouldRemoveResponseHeader (fieldName line) connectionTokens preserveTrailer preserveUpgrade <;> simp

end Sanitize

/-- The `Connection` field that is added, if any. -/
def connectionFieldLines : Option Bytes → List Bytes
  | some connectionHeader => [ascii "Connection: " ++ connectionHeader]
  | none => []

/-- The sanitized head has the same status line, the fields that are not removed and the one that is added. -/
theorem sanitizeResponseHead_ok {head statusLine output : Bytes} {fields : List Bytes}
    (h : IsHeadOf head statusLine fields) {connectionHeader : Option Bytes}
    (hconnection : ∀ value ∈ connectionHeader, IsLine value) {preserveTrailer preserveUpgrade : Bool}
    (hsanitize : sanitizeResponseHead head connectionHeader preserveTrailer preserveUpgrade = .ok output) :
    ∃ tokens, responseConnectionTokens head = .ok tokens ∧
      IsHeadOf output statusLine ((fields.filter fun line =>
        !shouldRemoveResponseHeader (fieldName line) tokens preserveTrailer preserveUpgrade) ++
          connectionFieldLines connectionHeader) := by
  unfold sanitizeResponseHead at hsanitize
  simp only [bind_eq_ok, statusLine_head h, fieldLines_head h] at hsanitize
  obtain ⟨tokens, htokens, lines, hlines, houtput⟩ := hsanitize
  have hkept : (fields ++ [[], []]).filter (fun line => !(line.isEmpty ||
      shouldRemoveResponseHeader (fieldName line) tokens preserveTrailer preserveUpgrade)) =
      fields.filter fun line =>
        !shouldRemoveResponseHeader (fieldName line) tokens preserveTrailer preserveUpgrade := by
    rw [List.filter_append, List.filter_cons, List.filter_cons, List.filter_nil, List.isEmpty_nil, Bool.true_or,
      Bool.not_true, if_neg Bool.false_ne_true, if_neg Bool.false_ne_true, List.append_nil]
    apply List.filter_congr
    intro field hfield
    rw [List.isEmpty_eq_false_iff.2 (h.fields field hfield).2, Bool.false_or]
  have houtputLines := foldlM_pushSanitizedLine hlines
  rw [hkept] at houtputLines
  subst houtputLines
  have hconnectionLine : connectionHeaderLine connectionHeader = unlines (connectionFieldLines connectionHeader) := by
    cases connectionHeader with
    | none => rfl
    | some value =>
      simp only [connectionHeaderLine, connectionFieldLines, fieldLine, unlines_cons, unlines_nil, List.append_nil]
      rfl
  refine ⟨tokens, htokens, ?_, h.statusLine, ?_⟩
  · cases houtput
    rw [hconnectionLine, unlines_cons, unlines_append]
    simp only [List.append_assoc]
  · intro field hfield
    rcases List.mem_append.1 hfield with hfield | hfield
    · exact h.fields field (List.mem_of_mem_filter hfield)
    · cases connectionHeader with
      | none => cases hfield
      | some value =>
        rw [connectionFieldLines, List.mem_singleton] at hfield
        subst hfield
        refine ⟨isLine_append.2 ⟨by decide, hconnection value rfl⟩, ?_⟩
        simp [ascii]

/-- A complete head: the only blank line is at its end. -/
def IsCompleteHead (head : Bytes) : Prop := ∀ i, crlfCrlf <+: head.drop i ↔ i + 4 = head.length

theorem IsHeadOf.complete {head statusLine : Bytes} {fields : List Bytes} (h : IsHeadOf head statusLine fields)
    (hne : statusLine ≠ []) : IsCompleteHead head := by
  intro i
  rw [h.head]
  apply crlfCrlf_drop_unlines (by simp)
  intro line hline
  rcases List.mem_cons.1 hline with rfl | hline
  · exact ⟨h.statusLine, hne⟩
  · exact h.fields line hline

/-- A complete head with a status between 100 and 199 other than 101. -/
def IsInterimHead (head : Bytes) : Prop :=
  IsCompleteHead head ∧ ∃ status, responseStatusCode head = .ok status ∧ isInterimResponse status = true

/-- A head sent to the client is complete and has the status of the head it was made from. -/
theorem sanitizeResponseHead_complete {head output : Bytes} (h : IsResponseHead head) {status : Nat}
    (hstatus : responseStatusCode head = .ok status) {connectionHeader : Option Bytes}
    (hconnection : ∀ value ∈ connectionHeader, IsLine value) {preserveTrailer preserveUpgrade : Bool}
    (hsanitize : sanitizeResponseHead head connectionHeader preserveTrailer preserveUpgrade = .ok output) :
    IsCompleteHead output ∧ responseStatusCode output = .ok status := by
  obtain ⟨statusLine, fields, hhead⟩ := h.exists_lines
  obtain ⟨tokens, -, houtput⟩ := sanitizeResponseHead_ok hhead hconnection hsanitize
  exact ⟨houtput.complete (statusLine_ne_nil hhead hstatus), by rw [← hstatus, responseStatusCode_congr houtput hhead]⟩

theorem sanitizeResponseHead_interim {head output : Bytes} (h : IsResponseHead head) {status : Nat}
    (hstatus : responseStatusCode head = .ok status) (hinterim : isInterimResponse status = true)
    (hsanitize : sanitizeResponseHead head none false false = .ok output) : IsInterimHead output := by
  obtain ⟨hcomplete, houtput⟩ := sanitizeResponseHead_complete h hstatus (by simp) hsanitize
  exact ⟨hcomplete, status, houtput, hinterim⟩

end BareProxy.Proxy
