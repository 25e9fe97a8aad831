import BareProxy.Base.Bytes

/-!
# Lines ended by CR LF

A text of lines is written with `unlines`. The two searches a reader of such a text makes, for the end
of the first line and for the empty line that ends the block, find exactly what the writer put there.
-/

namespace BareProxy

def cr : Byte := 13

def lf : Byte := 10

def crlf : Bytes := [13, 10]

def crlfCrlf : Bytes := [13, 10, 13, 10]

/-- A line holds neither of the two bytes that could end it. -/
def IsLine (s : Bytes) : Prop := cr ∉ s ∧ lf ∉ s

instance (s : Bytes) : Decidable (IsLine s) := inferInstanceAs (Decidable (_ ∧ _))

theorem isLine_nil : IsLine [] := ⟨List.not_mem_nil, List.not_mem_nil⟩

theorem isLine_append {s t : Bytes} : IsLine (s ++ t) ↔ IsLine s ∧ IsLine t := by
  simp only [IsLine, List.mem_append, not_or]
  tauto

theorem IsLine.of_sublist {s t : Bytes} (h : IsLine t) (hs : ∀ b ∈ s, b ∈ t) : IsLine s :=
  ⟨fun hcr => h.1 (hs _ hcr), fun hlf => h.2 (hs _ hlf)⟩

/-- Every line followed by CR LF. -/
def unlines (lines : List Bytes) : Bytes := lines.flatMap (· ++ crlf)

@[simp] theorem unlines_nil : unlines [] = [] := rfl

@[simp] theorem unlines_cons (line : Bytes) (lines : List Bytes) :
    unlines (line :: lines) = line ++ crlf ++ unlines lines := by
  simp [unlines]

@[simp] theorem unlines_append (left right : List Bytes) :
    unlines (left ++ right) = unlines left ++ unlines right := by
  simp [unlines]

theorem unlines_eq_intercalate {lines : List Bytes} (hne : lines ≠ []) :
    unlines lines = crlf.intercalate lines ++ crlf := by
  induction lines with
  | nil => exact absurd rfl hne
  | cons line lines ih =>
    cases lines with
    | nil => simp
    | cons next more =>
      rw [unlines_cons, ih (by simp), List.intercalate_cons_cons]
      simp only [List.append_assoc]

theorem unlines_suffix_crlf {lines : List Bytes} (hne : lines ≠ []) : crlf <:+ unlines lines := by
  rw [unlines_eq_intercalate hne]
  exact List.suffix_append _ _

/-- Cutting at LF gives back the lines, each with its CR. -/
theorem splitOn_unlines {lines : List Bytes} (hlines : ∀ line ∈ lines, IsLine line) (rest : Bytes) :
    (unlines lines ++ rest).splitOn lf = lines.map (· ++ [cr]) ++ rest.splitOn lf := by
  induction lines with
  | nil => simp
  | cons line lines ih =>
    have hline := hlines line List.mem_cons_self
    have hnotMem : lf ∉ line ++ [cr] := by
      simp only [List.mem_append, List.mem_singleton, not_or]
      exact ⟨hline.2, by decide⟩
    have hsplit : unlines (line :: lines) ++ rest = (line ++ [cr]) ++ lf :: (unlines lines ++ rest) := by
      simp [crlf, cr, lf]
    rw [hsplit, List.splitOn_append_cons_self_of_not_mem hnotMem,
      ih fun l hl => hlines l (List.mem_cons_of_mem _ hl)]
    rfl

/-- The first line ends at its own CR LF. -/
theorem indexOfSub_crlf_line {line : Bytes} (hline : IsLine line) (rest : Bytes) :
    indexOfSub crlf (line ++ crlf ++ rest) = some line.length :=
  indexOfSub_append_of_notMem hline.1 rest

theorem indexOfSub_crlf_eq_none {line : Bytes} (hline : IsLine line) : indexOfSub crlf line = none :=
  indexOfSub_eq_none_of_notMem hline.1

/-- Where CR LF CR LF stands in a line followed by CR LF: either right at that CR LF or later. -/
private theorem crlfCrlf_drop_line {line rest : Bytes} (hline : IsLine line) {i : Nat}
    (hocc : crlfCrlf <+: (line ++ crlf ++ rest).drop i) :
    (i = line.length ∧ crlf <+: rest) ∨ (line.length + 2 ≤ i ∧ crlfCrlf <+: rest.drop (i - (line.length + 2))) := by
  have hget : ∀ k b, crlfCrlf[k]? = some b → (line ++ crlf ++ rest)[i + k]? = some b := by
    intro k b hk
    obtain ⟨t, ht⟩ := hocc
    rw [← List.getElem?_drop, ← ht, List.getElem?_append_left]
    · exact hk
    · exact (List.getElem?_eq_some_iff.1 hk).1
  rcases lt_trichotomy i line.length with hlt | heq | hgt
  · have h := hget 0 13 rfl
    rw [List.append_assoc, List.getElem?_append_left (by omega)] at h
    exact absurd (List.mem_of_getElem? h) hline.1
  · left
    refine ⟨heq, ?_⟩
    subst heq
    rw [List.append_assoc, List.drop_left] at hocc
    have hsplit : crlfCrlf = crlf ++ crlf := rfl
    rw [hsplit] at hocc
    exact (List.prefix_append_right_inj crlf).1 hocc
  · right
    have hne : i ≠ line.length + 1 := by
      rintro rfl
      have h := hget 0 13 rfl
      rw [List.append_assoc, List.getElem?_append_right (by omega)] at h
      simp [crlf] at h
    have hle : line.length + 2 ≤ i := by omega
    refine ⟨hle, ?_⟩
    have hdrop : (line ++ crlf ++ rest).drop i = rest.drop (i - (line.length + 2)) := by
      have hlen : (line ++ crlf).length = line.length + 2 := by simp [crlf]
      rw [List.drop_append, List.drop_of_length_le (by omega), List.nil_append, hlen]
    rwa [hdrop] at hocc

/-- In a block of non-empty lines closed by an empty one, CR LF CR LF stands at the end and nowhere
else. -/
theorem crlfCrlf_drop_unlines {lines : List Bytes} (hne : lines ≠ [])
    (hlines : ∀ line ∈ lines, IsLine line ∧ line ≠ []) {i : Nat} :
    crlfCrlf <+: (unlines lines ++ crlf).drop i ↔ i + 4 = (unlines lines ++ crlf).length := by
  induction lines generalizing i with
  | nil => exact absurd rfl hne
  | cons line lines ih =>
    obtain ⟨hline, hnonempty⟩ := hlines line List.mem_cons_self
    have hrest : ∀ l ∈ lines, IsLine l ∧ l ≠ [] := fun l hl => hlines l (List.mem_cons_of_mem _ hl)
    rw [unlines_cons, List.append_assoc _ (unlines lines)]
    have hlen : (line ++ crlf ++ (unlines lines ++ crlf)).length =
        line.length + 2 + (unlines lines ++ crlf).length := by
      simp only [List.length_append, crlf, List.length_cons, List.length_nil]
    rw [hlen]
    cases lines with
    | nil =>
      constructor
      · intro hocc
        rcases crlfCrlf_drop_line hline hocc with ⟨hi, -⟩ | ⟨hi, hpre⟩
        · simp [hi, crlf]
        · have := hpre.length_le
          simp [crlf, crlfCrlf] at this
          omega
      · intro hi
        have : i = line.length := by
          simp [crlf] at hi
          omega
        subst this
        rw [List.append_assoc, List.drop_left]
        exact List.prefix_refl _
    | cons next more =>
      have hnext := hrest next List.mem_cons_self
      constructor
      · intro hocc
        rcases crlfCrlf_drop_line hline hocc with ⟨-, hpre⟩ | ⟨hi, hpre⟩
        · -- the next line is not empty and cannot start with CR
          obtain ⟨b, tail, hb⟩ := List.exists_cons_of_ne_nil hnext.2
          obtain ⟨t, ht⟩ := hpre
          rw [unlines_cons, hb] at ht
          have hhead : b = cr := by
            have := congrArg List.head? ht
            simpa [crlf, cr] using this.symm
          exact absurd (by rw [hb, hhead]; exact List.mem_cons_self) hnext.1.1
        · have := (ih (by simp) hrest).1 hpre
          omega
      · intro hi
        have hle : line.length + 2 ≤ i := by
          have : 4 ≤ (unlines (next :: more) ++ crlf).length := by
            simp only [unlines_cons, List.length_append, crlf, List.length_cons, List.length_nil]
            omega
          omega
        have hdrop : (line ++ crlf ++ (unlines (next :: more) ++ crlf)).drop i =
            (unlines (next :: more) ++ crlf).drop (i - (line.length + 2)) := by
          have hlen : (line ++ crlf).length = line.length + 2 := by simp [crlf]
          rw [List.drop_append, List.drop_of_length_le (by omega), List.nil_append, hlen]
        rw [hdrop]
        exact (ih (by simp) hrest).2 (by omega)

/-- The search for the end of the block finds it. -/
theorem indexOfSub_crlfCrlf_unlines {lines : List Bytes} (hne : lines ≠ [])
    (hlines : ∀ line ∈ lines, IsLine line ∧ line ≠ []) :
    indexOfSub crlfCrlf (unlines lines ++ crlf) = some ((unlines lines ++ crlf).length - 4) := by
  have hfour : 4 ≤ (unlines lines ++ crlf).length := by
    obtain ⟨line, more, rfl⟩ := List.exists_cons_of_ne_nil hne
    simp only [unlines_cons, List.length_append, crlf, List.length_cons, List.length_nil]
    omega
  refine indexOfSub_eq_some_iff.2 ⟨by omega, (crlfCrlf_drop_unlines hne hlines).2 (by omega), ?_⟩
  intro j hj hocc
  have := (crlfCrlf_drop_unlines hne hlines).1 hocc
  omega

end BareProxy
