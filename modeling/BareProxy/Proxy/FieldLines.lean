import BareProxy.Http.Parse
import BareProxy.Proxy.ResponseLines

/-!
# The fields of a response head

A field line is a name, a colon and a value. A head passes the checks of `validate_response_head_syntax` exactly when
its status line and each of its field lines do. What is read from a head is read from its fields: from the value of one
field, or from the comma-separated values of all fields of one name.
-/

namespace BareProxy.Proxy

open Http

/-! ### One line -/

theorem fieldName_line {name : Bytes} (hname : (58 : Byte) ∉ name) (value : Bytes) :
    fieldName (name ++ 58 :: value) = name := by
  rw [fieldName_eq (idxOf?_append_of_notMem hname value), List.take_left]

theorem fieldValue_line {name : Bytes} (hname : (58 : Byte) ∉ name) (value : Bytes) :
    fieldValue (name ++ 58 :: value) = value := by
  rw [fieldValue_eq (idxOf?_append_of_notMem hname value), ← List.drop_drop, List.drop_left, List.drop_succ_cons,
    List.drop_zero]

/-- A line that passes the checks of one turn of the loop. -/
structure IsFieldLine (line : Bytes) : Prop where
  separator : ∃ separator, line.idxOf? 58 = some separator
  name_ne_nil : fieldName line ≠ []
  name_token : ∀ b ∈ fieldName line, isTokenByte b = true
  value_valid : ∀ b ∈ trimOptionalWhitespace (fieldValue line), isValidResponseFieldValueByte b = true

theorem validateFieldLine_iff {line : Bytes} (hne : line ≠ []) : validateFieldLine line = .ok () ↔ IsFieldLine line := by
  have hempty : line.isEmpty = false := List.isEmpty_eq_false_iff.2 hne
  rw [validateFieldLine, hempty]
  constructor
  · intro h
    rw [if_neg Bool.false_ne_true] at h
    split at h
    · cases h
    · split at h
      · cases h
      · rename_i separator hseparator
        dsimp only at h
        rw [← fieldName_eq hseparator, ← fieldValue_eq hseparator] at h
        split at h
        · cases h
        · rename_i hname
          split at h
          · cases h
          · rename_i hvalue
            simp only [Bool.or_eq_true, not_or, List.isEmpty_iff, Bool.not_eq_true', Bool.not_eq_false,
              List.all_eq_true] at hname hvalue
            exact ⟨⟨separator, hseparator⟩, hname.1, hname.2, hvalue⟩
  · intro h
    obtain ⟨separator, hseparator⟩ := h.separator
    have hunfolded : ¬line.head?.any isOptionalWhitespace = true := by
      obtain ⟨b, rest, hcons⟩ := List.exists_cons_of_ne_nil h.name_ne_nil
      have hb : isTokenByte b = true := h.name_token b (by rw [hcons]; exact List.mem_cons_self)
      have hhead : line.head? = some b := by
        have hprefix : fieldName line <+: line := List.take_prefix _ _
        obtain ⟨more, hmore⟩ := hprefix
        rw [← hmore, hcons]
        rfl
      rw [hhead, Option.any_some, isTokenByte_not_whitespace b hb]
      exact Bool.false_ne_true
    rw [if_neg Bool.false_ne_true, if_neg hunfolded, hseparator]
    dsimp only
    rw [← fieldName_eq hseparator, ← fieldValue_eq hseparator, List.isEmpty_eq_false_iff.2 h.name_ne_nil,
      List.all_eq_true.2 h.name_token, List.all_eq_true.2 h.value_valid]
    rfl

theorem IsFieldLine.ne_nil {line : Bytes} (h : IsFieldLine line) : line ≠ [] := by
  rintro rfl
  exact h.name_ne_nil rfl

/-! ### The checks of a head -/

/-- A line and its CR LF hold no bare CR or LF. -/
theorem checkLineEnds_line {previous : Option Byte} {line : Bytes} (hline : IsLine line) (rest : Bytes) :
    checkLineEnds previous (line ++ crlf ++ rest) = checkLineEnds (some lf) rest := by
  induction line generalizing previous with
  | nil => simp [crlf, checkLineEnds, cr, lf]
  | cons b line ih =>
    obtain ⟨hcr, hlf⟩ := hline
    rw [List.mem_cons, not_or] at hcr hlf
    rw [List.cons_append, List.cons_append, checkLineEnds, if_neg, if_neg]
    · exact ih ⟨hcr.2, hlf.2⟩
    · exact fun h => hcr.1 h.1.symm
    · exact fun h => hlf.1 h.1.symm

theorem checkLineEnds_unlines {previous : Option Byte} {lines : List Bytes} (hlines : ∀ line ∈ lines, IsLine line) :
    checkLineEnds previous (unlines lines ++ crlf) = .ok () := by
  induction lines generalizing previous with
  | nil => simp [crlf, checkLineEnds, cr, lf]
  | cons line lines ih =>
    rw [unlines_cons, List.append_assoc, checkLineEnds_line (hlines line List.mem_cons_self)]
    exact ih fun l hl => hlines l (List.mem_cons_of_mem _ hl)

namespace IsHeadOf

variable {head statusLine : Bytes} {fields : List Bytes} (h : IsHeadOf head statusLine fields)

include h

theorem isLine : ∀ line ∈ statusLine :: fields, IsLine line := by
  intro line hline
  rcases List.mem_cons.1 hline with rfl | hline
  · exact h.statusLine
  · exact (h.fields line hline).1

theorem suffix : crlfCrlf <:+ head := by
  obtain ⟨front, hfront⟩ := unlines_suffix_crlf (List.cons_ne_nil statusLine fields)
  refine ⟨front, ?_⟩
  rw [h.head, ← hfront, List.append_assoc]
  rfl

/-- The checks of a head are those of its lines. -/
theorem validateResponseHeadSyntax_iff :
    validateResponseHeadSyntax head = .ok () ↔
      (∃ status, responseStatusCode head = .ok status) ∧
        (∀ b ∈ statusLine, isValidResponseFieldValueByte b = true) ∧ ∀ field ∈ fields, IsFieldLine field := by
  have hends : checkLineEnds none head = .ok () := by
    rw [h.head]
    exact checkLineEnds_unlines h.isLine
  have hfields : (fieldLines head).forM validateFieldLine = .ok () ↔ ∀ field ∈ fields, IsFieldLine field := by
    rw [fieldLines_head h, forM_eq_ok]
    constructor
    · intro hall field hfield
      exact (validateFieldLine_iff (h.fields field hfield).2).1 (hall field (List.mem_append_left _ hfield))
    · intro hall field hfield
      rcases List.mem_append.1 hfield with hfield | hfield
      · exact (validateFieldLine_iff (h.fields field hfield).2).2 (hall field hfield)
      · have hnil : field = [] := by simpa using hfield
        rw [hnil]
        rfl
  rw [validateResponseHeadSyntax, List.isSuffixOf_iff_suffix.2 h.suffix, Bool.not_true, if_neg Bool.false_ne_true, hends,
    ok_bind, statusLine_head h, bind_eq_ok]
  constructor
  · intro hvalid
    obtain ⟨status, hstatus, hvalid⟩ := hvalid
    dsimp only at hvalid
    split at hvalid
    · cases hvalid
    · rename_i hbytes
      rw [Bool.not_eq_true', Bool.not_eq_false, List.all_eq_true] at hbytes
      exact ⟨⟨status, hstatus⟩, hbytes, hfields.1 hvalid⟩
  · intro hfacts
    obtain ⟨⟨status, hstatus⟩, hbytes, hall⟩ := hfacts
    refine ⟨status, hstatus, ?_⟩
    dsimp only
    rw [List.all_eq_true.2 hbytes, Bool.not_true, if_neg Bool.false_ne_true]
    exact hfields.2 hall

/-- Without the empty line the lines are the fields. -/
theorem fieldLines_headerBytes : fieldLines (head.take (head.length - 4)) = fields := by
  have hbytes : head.take (head.length - 4) = crlf.intercalate (statusLine :: fields) := by
    rw [h.head, unlines_eq_intercalate (List.cons_ne_nil _ _)]
    have hlength : (crlf.intercalate (statusLine :: fields) ++ crlf ++ crlf).length - 4 =
        (crlf.intercalate (statusLine :: fields)).length := by
      simp [crlf]
    rw [hlength, List.append_assoc, List.take_left]
  rw [hbytes, fieldLines]
  rcases List.eq_nil_or_concat fields with hnil | ⟨init, last, hconcat⟩
  · rw [hnil, List.intercalate_singleton, List.splitOn_eq_singleton h.statusLine.2]
    rfl
  · have hmem : ∀ line ∈ statusLine :: init, IsLine line := by
      intro line hline
      apply h.isLine
      rw [hconcat, List.concat_eq_append]
      rcases List.mem_cons.1 hline with rfl | hline
      · exact List.mem_cons_self
      · exact List.mem_cons_of_mem _ (List.mem_append_left _ hline)
    have hlast : IsLine last := h.isLine last (by rw [hconcat]; simp)
    have hjoined : crlf.intercalate (statusLine :: fields) = unlines (statusLine :: init) ++ last := by
      apply (List.append_left_inj crlf).1
      rw [← unlines_eq_intercalate (List.cons_ne_nil _ _), hconcat, List.concat_eq_append, ← List.cons_append,
        unlines_append, unlines_cons last, unlines_nil, List.append_nil, List.append_assoc]
    have hstrip : stripCr last = last := by
      rw [stripCr, if_neg]
      exact fun hcr => hlast.1 (List.mem_of_getLast? hcr)
    have hmap : (init.map (· ++ [cr])).map stripCr = init := by
      rw [List.map_map]
      conv_rhs => rw [← List.map_id init]
      apply List.map_congr_left
      intro field _
      exact stripCr_append field
    rw [hjoined, splitOn_unlines hmem, List.splitOn_eq_singleton hlast.2, List.map_cons, List.cons_append,
      List.tail_cons, List.map_append, hmap, List.map_singleton, hstrip, hconcat, List.concat_eq_append]

end IsHeadOf

/-! ### The fields of one name -/

/-- The members, blanks included, of the comma-separated values of all fields of one name. -/
def listedMembers (lines : List Bytes) (name : Bytes) : List Bytes :=
  (lines.filter fun line => eqIgnoreAsciiCase (fieldName line) name).flatMap fun line => (fieldValue line).splitOn 44

/-- A loop that only looks into the lists of one field is a loop over their members. -/
theorem foldlM_listedMembers {ε β : Type} {f g : β → Bytes → Except ε β} {lines : List Bytes} {name : Bytes}
    (hskip : ∀ line ∈ lines, eqIgnoreAsciiCase (fieldName line) name = false → ∀ b, g b line = .ok b)
    (hlist : ∀ line ∈ lines, eqIgnoreAsciiCase (fieldName line) name = true →
      ∀ b, g b line = ((fieldValue line).splitOn 44).foldlM f b) (b : β) :
    lines.foldlM g b = (listedMembers lines name).foldlM f b := by
  induction lines generalizing b with
  | nil => rfl
  | cons line lines ih =>
    have hrest := ih (fun l hl => hskip l (List.mem_cons_of_mem _ hl)) fun l hl => hlist l (List.mem_cons_of_mem _ hl)
    rw [List.foldlM_cons]
    cases hname : eqIgnoreAsciiCase (fieldName line) name with
    | true =>
      have hmembers : listedMembers (line :: lines) name =
          (fieldValue line).splitOn 44 ++ listedMembers lines name := by
        simp only [listedMembers, List.filter_cons, hname, if_true, List.flatMap_cons]
      rw [hlist line List.mem_cons_self hname, hmembers, List.foldlM_append]
      exact congrArg _ (funext hrest)
    | false =>
      have hmembers : listedMembers (line :: lines) name = listedMembers lines name := by
        simp only [listedMembers, List.filter_cons, hname, Bool.false_eq_true, if_false]
      rw [hskip line List.mem_cons_self hname, ok_bind, hmembers]
      exact hrest b

end BareProxy.Proxy
