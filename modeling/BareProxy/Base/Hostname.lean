import BareProxy.Base.Text

/-!
# Host names

The preferred syntax of a host name: labels of letters, digits and inner hyphens, with a dot between them, and at most
253 bytes in all.
-/

namespace BareProxy

/-! ### Pieces between separators -/

section Split

variable {α : Type} [BEq α] [LawfulBEq α]

theorem mem_splitOn {a separator : α} {s : List α} (h : a ∈ s) :
    a = separator ∨ ∃ part ∈ s.splitOn separator, a ∈ part := by
  induction s with
  | nil => cases h
  | cons x s ih =>
      rw [List.splitOn_cons_eq_if_modifyHead]
      split
      · rename_i hx
        rcases List.mem_cons.1 h with rfl | h
        · exact Or.inl (eq_of_beq hx)
        · exact (ih h).imp id fun ⟨part, hpart, ha⟩ => ⟨part, List.mem_cons_of_mem _ hpart, ha⟩
      · obtain ⟨part, parts, hparts⟩ := List.exists_cons_of_ne_nil (List.splitOn_ne_nil separator s)
        rw [hparts] at ih ⊢
        simp only [List.modifyHead_cons, List.mem_cons, exists_eq_or_imp] at ih h ⊢
        rcases h with rfl | h
        · exact Or.inr (Or.inl (Or.inl rfl))
        · rcases ih h with heq | hmem | hmore
          · exact Or.inl heq
          · exact Or.inr (Or.inl (Or.inr hmem))
          · exact Or.inr (Or.inr hmore)

/-- A map that keeps the separator apart from the rest maps the pieces. -/
theorem splitOn_map {f : α → α} {separator : α} (hf : ∀ a, f a = separator ↔ a = separator) (s : List α) :
    (s.map f).splitOn separator = (s.splitOn separator).map (List.map f) := by
  induction s with
  | nil => simp
  | cons x s ih =>
      obtain ⟨part, parts, hparts⟩ := List.exists_cons_of_ne_nil (List.splitOn_ne_nil separator s)
      have hbeq : (f x == separator) = (x == separator) := by
        rw [Bool.eq_iff_iff, beq_iff_eq, beq_iff_eq, hf]
      rw [List.map_cons, List.splitOn_cons_eq_if_modifyHead, List.splitOn_cons_eq_if_modifyHead, ih, hbeq, hparts]
      split <;> simp

end Split

/-! ### The syntax -/

structure IsLabel (label : Bytes) : Prop where
  ne_nil : label ≠ []
  short : label.length ≤ 63
  chars : ∀ b ∈ label, isAsciiAlphanumeric b = true ∨ b = 45
  first : label.head? ≠ some 45
  last : label.getLast? ≠ some 45

structure IsHostname (name : Bytes) : Prop where
  short : name.length ≤ 253
  labels : ∀ label ∈ name.splitOn 46, IsLabel label

/-- What a letter, a digit, a hyphen or a dot is not. -/
theorem hostnameByte_facts {b : Byte} (h : isAsciiAlphanumeric b = true ∨ b = 45 ∨ b = 46) :
    33 ≤ b ∧ b < 128 ∧ b ≠ 42 ∧ b ≠ 58 := by
  revert b
  apply byte_forall
  decide +kernel

namespace IsHostname

variable {name : Bytes} (h : IsHostname name)

include h

theorem ne_nil : name ≠ [] := by
  rintro rfl
  exact (h.labels [] (by simp)).ne_nil rfl

theorem chars {b : Byte} (hb : b ∈ name) : isAsciiAlphanumeric b = true ∨ b = 45 ∨ b = 46 := by
  rcases @mem_splitOn _ _ _ _ 46 _ hb with rfl | ⟨label, hlabel, hb⟩
  · exact Or.inr (Or.inr rfl)
  · exact ((h.labels label hlabel).chars b hb).imp id Or.inl

theorem isAscii : isAscii name = true := by
  rw [BareProxy.isAscii, List.all_eq_true]
  intro b hb
  exact decide_eq_true (hostnameByte_facts (h.chars hb)).2.1

/-- A dot at the end would leave an empty last label. -/
theorem getLast_ne_dot : name.getLast? ≠ some 46 := by
  intro hlast
  obtain ⟨init, rfl⟩ := List.getLast?_eq_some_iff.1 hlast
  have hempty : [] ∈ (init ++ [46]).splitOn (46 : Byte) := by
    rw [List.splitOn_append_cons_self, List.splitOn_nil]
    exact List.mem_append_right _ (List.mem_singleton.2 rfl)
  exact (h.labels [] hempty).ne_nil rfl

theorem rdropWhile_dot : name.rdropWhile (· == 46) = name := by
  rw [List.rdropWhile_eq_self_iff]
  intro hne hdot
  refine h.getLast_ne_dot ?_
  rw [List.getLast?_eq_some_getLast hne, eq_of_beq hdot]

end IsHostname

private theorem toLower_eq_dot (b : Byte) : toLower b = 46 ↔ b = 46 := by
  revert b
  apply byte_forall
  decide +kernel

private theorem toLower_labelByte (b : Byte) :
    isAsciiAlphanumeric (toLower b) = true ∨ toLower b = 45 ↔ isAsciiAlphanumeric b = true ∨ b = 45 := by
  revert b
  apply byte_forall
  decide +kernel

private theorem toLower_eq_hyphen (b : Byte) : toLower b = 45 ↔ b = 45 := by
  revert b
  apply byte_forall
  decide +kernel

theorem isLabel_toAsciiLowercase {label : Bytes} : IsLabel (toAsciiLowercase label) ↔ IsLabel label := by
  have hchars : (∀ b ∈ toAsciiLowercase label, isAsciiAlphanumeric b = true ∨ b = 45) ↔
      ∀ b ∈ label, isAsciiAlphanumeric b = true ∨ b = 45 := by
    rw [toAsciiLowercase, List.forall_mem_map]
    exact forall₂_congr fun b _ => toLower_labelByte b
  have hfirst : (toAsciiLowercase label).head? = some 45 ↔ label.head? = some 45 := by
    simp [toAsciiLowercase, toLower_eq_hyphen]
  have hlast : (toAsciiLowercase label).getLast? = some 45 ↔ label.getLast? = some 45 := by
    simp [toAsciiLowercase, toLower_eq_hyphen]
  have hlength : (toAsciiLowercase label).length = label.length := List.length_map _
  constructor
  · intro h
    exact ⟨fun hnil => h.ne_nil (by rw [hnil]; rfl), hlength ▸ h.short, hchars.1 h.chars, fun hdash =>
      h.first (hfirst.2 hdash), fun hdash => h.last (hlast.2 hdash)⟩
  · intro h
    exact ⟨fun hnil => h.ne_nil (List.map_eq_nil_iff.1 hnil), hlength ▸ h.short, hchars.2 h.chars, fun hdash =>
      h.first (hfirst.1 hdash), fun hdash => h.last (hlast.1 hdash)⟩

/-- The case of the letters does not decide whether a text is a host name. -/
theorem isHostname_toAsciiLowercase {name : Bytes} : IsHostname (toAsciiLowercase name) ↔ IsHostname name := by
  have hlabels : (∀ label ∈ (toAsciiLowercase name).splitOn 46, IsLabel label) ↔
      ∀ label ∈ name.splitOn 46, IsLabel label := by
    rw [toAsciiLowercase, splitOn_map toLower_eq_dot, List.forall_mem_map]
    exact forall₂_congr fun _ _ => isLabel_toAsciiLowercase
  have hlength : (toAsciiLowercase name).length = name.length := List.length_map _
  exact ⟨fun h => ⟨hlength ▸ h.short, hlabels.1 h.labels⟩, fun h => ⟨hlength ▸ h.short, hlabels.2 h.labels⟩⟩

theorem IsHostname.toAsciiLowercase {name : Bytes} (h : IsHostname name) : IsHostname (toAsciiLowercase name) :=
  isHostname_toAsciiLowercase.2 h

/-- Dots that are dropped in either case. -/
theorem toAsciiLowercase_rdropWhile_dot (name : Bytes) :
    toAsciiLowercase (name.rdropWhile (· == 46)) = (toAsciiLowercase name).rdropWhile (· == 46) := by
  induction name using List.reverseRecOn with
  | nil => rfl
  | append_singleton name b ih =>
    have hconcat : toAsciiLowercase (name ++ [b]) = toAsciiLowercase name ++ [toLower b] := List.map_append
    have hdot : (toLower b == 46) = (b == 46) := by
      rw [Bool.eq_iff_iff, beq_iff_eq, beq_iff_eq, toLower_eq_dot]
    rw [hconcat, List.rdropWhile_concat, List.rdropWhile_concat, hdot]
    split
    · exact ih
    · exact hconcat

/-! ### Deciding a label -/

/-- The test by the characters a label must not start or end with. -/
theorem isLabel_iff_hyphen {label : Bytes} :
    (!label.isEmpty && decide (label.length ≤ 63) && label.head? != some 45 && label.getLast? != some 45 &&
      label.all fun b => isAsciiAlphanumeric b || b == 45) = true ↔ IsLabel label := by
  simp only [Bool.and_eq_true, Bool.not_eq_true', List.isEmpty_eq_false_iff, decide_eq_true_eq, bne_iff_ne,
    List.all_eq_true, Bool.or_eq_true, beq_iff_eq]
  constructor
  · intro hfacts
    obtain ⟨⟨⟨⟨hne, hshort⟩, hfirst⟩, hlast⟩, hchars⟩ := hfacts
    exact ⟨hne, hshort, hchars, hfirst, hlast⟩
  · intro h
    exact ⟨⟨⟨⟨h.ne_nil, h.short⟩, h.first⟩, h.last⟩, h.chars⟩

/-- The test by the characters a label must start and end with. -/
theorem isLabel_iff_alphanumeric {label : Bytes} :
    (if label.isEmpty || label.length > 63 then false
      else if !(label.head?.any isAsciiAlphanumeric) || !(label.getLast?.any isAsciiAlphanumeric) then false
      else label.all fun b => isAsciiAlphanumeric b || b == 45) = true ↔ IsLabel label := by
  have hedge : ∀ {b : Byte}, isAsciiAlphanumeric b = true ∨ b = 45 → (isAsciiAlphanumeric b = true ↔ b ≠ 45) := by
    apply byte_forall
    decide +kernel
  constructor
  · intro h
    split at h
    · cases h
    · rename_i hlength
      split at h
      · cases h
      · rename_i hends
        simp only [Bool.or_eq_true, List.isEmpty_iff, decide_eq_true_eq, not_or, Bool.not_eq_true',
          Bool.not_eq_false, Option.any_eq_true] at hlength hends
        simp only [List.all_eq_true, Bool.or_eq_true, beq_iff_eq] at h
        obtain ⟨⟨first, hfirst, hfirst'⟩, last, hlast, hlast'⟩ := hends
        refine ⟨hlength.1, by omega, h, ?_, ?_⟩
        · rw [hfirst]
          exact fun heq => (hedge (Or.inl hfirst')).1 hfirst' (Option.some.inj heq)
        · rw [hlast]
          exact fun heq => (hedge (Or.inl hlast')).1 hlast' (Option.some.inj heq)
  · intro h
    have hfirst : label.head?.any isAsciiAlphanumeric = true := by
      rw [List.head?_eq_some_head h.ne_nil, Option.any_some]
      refine (hedge (h.chars _ (List.head_mem h.ne_nil))).2 fun heq => h.first ?_
      rw [List.head?_eq_some_head h.ne_nil, heq]
    have hlast : label.getLast?.any isAsciiAlphanumeric = true := by
      rw [List.getLast?_eq_some_getLast h.ne_nil, Option.any_some]
      refine (hedge (h.chars _ (List.getLast_mem h.ne_nil))).2 fun heq => h.last ?_
      rw [List.getLast?_eq_some_getLast h.ne_nil, heq]
    rw [if_neg, if_neg]
    · simpa [List.all_eq_true] using h.chars
    · simp [hfirst, hlast]
    · simpa using ⟨h.ne_nil, h.short⟩

/-! ### Trimming -/

/-- No white space character starts or ends with a printable byte. -/
theorem whitespaceChars_edges : ∀ encoding ∈ whitespaceChars,
    (∀ b ∈ encoding.head?, ¬(33 ≤ b ∧ b < 128)) ∧ (∀ b ∈ encoding.getLast?, ¬(33 ≤ b ∧ b < 128)) ∧ encoding ≠ [] := by
  have hedges : ∀ encoding ∈ whitespaceChars, encoding.head?.all (fun b => ¬(33 ≤ b ∧ b < 128)) = true ∧
      encoding.getLast?.all (fun b => ¬(33 ≤ b ∧ b < 128)) = true ∧ encoding ≠ [] := by
    decide
  intro encoding hencoding
  obtain ⟨hfirst, hlast, hne⟩ := hedges encoding hencoding
  rw [Option.all_eq_true] at hfirst hlast
  exact ⟨fun b hb => of_decide_eq_true (hfirst b hb), fun b hb => of_decide_eq_true (hlast b hb), hne⟩

theorem trimStart_of_printable {b : Byte} (hb : 33 ≤ b ∧ b < 128) (s : Bytes) : trimStart (b :: s) = b :: s := by
  have hnone : (whitespaceChars.find? fun encoding => encoding.isPrefixOf (b :: s)) = none := by
    rw [List.find?_eq_none]
    intro encoding hencoding hprefix
    obtain ⟨hfirst, -, hne⟩ := whitespaceChars_edges encoding hencoding
    obtain ⟨c, rest, rfl⟩ := List.exists_cons_of_ne_nil hne
    obtain ⟨t, ht⟩ := List.isPrefixOf_iff_prefix.1 hprefix
    cases ht
    exact hfirst b rfl hb
  have hleading : leadingWhitespace (b :: s) = 0 := by
    rw [leadingWhitespace, hnone]
    rfl
  rw [trimStart, if_neg (by simp [hleading])]

theorem trimEnd_of_printable {b : Byte} (hb : 33 ≤ b ∧ b < 128) (s : Bytes) : trimEnd (s ++ [b]) = s ++ [b] := by
  have hnone : (whitespaceChars.find? fun encoding => encoding.isSuffixOf (s ++ [b])) = none := by
    rw [List.find?_eq_none]
    intro encoding hencoding hsuffix
    obtain ⟨-, hlast, hne⟩ := whitespaceChars_edges encoding hencoding
    obtain ⟨t, ht⟩ := List.isSuffixOf_iff_suffix.1 hsuffix
    have hget := congrArg List.getLast? ht
    rw [List.getLast?_append_of_ne_nil _ hne, List.getLast?_concat] at hget
    exact hlast b hget hb
  have htrailing : trailingWhitespace (s ++ [b]) = 0 := by
    rw [trailingWhitespace, hnone]
    rfl
  rw [trimEnd, if_neg (by simp [htrailing])]

/-- White space characters, any number of them. -/
def IsWhitespace (s : Bytes) : Prop := ∃ chars : List Bytes, (∀ c ∈ chars, c ∈ whitespaceChars) ∧ s = chars.flatten

theorem trimStart_append {blanks : Bytes} (hblanks : IsWhitespace blanks) (s : Bytes) :
    trimStart (blanks ++ s) = trimStart s := by
  have hfree : ∀ left ∈ whitespaceChars, ∀ right ∈ whitespaceChars, left <+: right → left = right := by decide
  obtain ⟨chars, hchars, rfl⟩ := hblanks
  induction chars with
  | nil => rfl
  | cons c chars ih =>
    obtain ⟨hc, hrest⟩ := List.forall_mem_cons.1 hchars
    have hleading : leadingWhitespace (c ++ (chars.flatten ++ s)) = c.length := by
      have hfind : (whitespaceChars.find? fun encoding => encoding.isPrefixOf (c ++ (chars.flatten ++ s))) = some c := by
        cases hfound : whitespaceChars.find? fun encoding => encoding.isPrefixOf (c ++ (chars.flatten ++ s)) with
        | none =>
          have hnot := List.find?_eq_none.1 hfound c hc
          exact absurd (List.isPrefixOf_iff_prefix.2 (List.prefix_append c _)) hnot
        | some found =>
          have hmem := List.mem_of_find?_eq_some hfound
          have hfits := List.find?_some hfound
          have hstarts := List.isPrefixOf_iff_prefix.1 hfits
          rcases List.prefix_or_prefix_of_prefix hstarts (List.prefix_append c _) with h | h
          · rw [hfree found hmem c hc h]
          · rw [hfree c hc found hmem h]
      rw [leadingWhitespace, hfind]
      rfl
    have hne : 0 < c.length := List.length_pos_of_ne_nil (whitespaceChars_edges c hc).2.2
    rw [List.flatten_cons, List.append_assoc, trimStart, if_pos, hleading, List.drop_left, ih hrest]
    exact ⟨fun hnil => (whitespaceChars_edges c hc).2.2 (List.append_eq_nil_iff.1 hnil).1, by omega⟩

theorem trimEnd_append {blanks : Bytes} (hblanks : IsWhitespace blanks) (s : Bytes) :
    trimEnd (s ++ blanks) = trimEnd s := by
  have hsuffix : ∀ left ∈ whitespaceChars, ∀ right ∈ whitespaceChars, left <:+ right → left = right := by decide
  obtain ⟨chars, hchars, rfl⟩ := hblanks
  induction chars using List.reverseRecOn with
  | nil => rw [List.flatten_nil, List.append_nil]
  | append_singleton chars c ih =>
    obtain ⟨hrest, hc⟩ := List.forall_mem_append.1 hchars
    have hc := hc c (List.mem_singleton.2 rfl)
    have htrailing : trailingWhitespace (s ++ chars.flatten ++ c) = c.length := by
      have hfind : (whitespaceChars.find? fun encoding => encoding.isSuffixOf (s ++ chars.flatten ++ c)) = some c := by
        cases hfound : whitespaceChars.find? fun encoding => encoding.isSuffixOf (s ++ chars.flatten ++ c) with
        | none =>
          have hnot := List.find?_eq_none.1 hfound c hc
          exact absurd (List.isSuffixOf_iff_suffix.2 (List.suffix_append _ c)) hnot
        | some found =>
          have hmem := List.mem_of_find?_eq_some hfound
          have hfits := List.find?_some hfound
          have hends := List.isSuffixOf_iff_suffix.1 hfits
          rcases List.suffix_or_suffix_of_suffix hends (List.suffix_append _ c) with h | h
          · rw [hsuffix found hmem c hc h]
          · rw [hsuffix c hc found hmem h]
      rw [trailingWhitespace, hfind]
      rfl
    have hne : 0 < c.length := List.length_pos_of_ne_nil (whitespaceChars_edges c hc).2.2
    have htake : (s ++ chars.flatten ++ c).take ((s ++ chars.flatten ++ c).length - c.length) = s ++ chars.flatten := by
      apply List.take_left'
      simp only [List.length_append]
      omega
    rw [List.flatten_append, List.flatten_singleton, ← List.append_assoc, trimEnd, if_pos, htrailing, htake, ih hrest]
    exact ⟨fun hnil => (whitespaceChars_edges c hc).2.2 (List.append_eq_nil_iff.1 hnil).2, by omega⟩

/-- The white space around printable ASCII text is what is trimmed. -/
theorem trim_append {before s after : Bytes} (hbefore : IsWhitespace before) (hafter : IsWhitespace after) (hne : s ≠ [])
    (h : ∀ b ∈ s, 33 ≤ b ∧ b < 128) : trim (before ++ s ++ after) = s := by
  obtain ⟨first, rest, hcons⟩ := List.exists_cons_of_ne_nil hne
  have hstart : trimStart (s ++ after) = s ++ after := by
    rw [hcons]
    exact trimStart_of_printable (h first (by rw [hcons]; exact List.mem_cons_self)) _
  have hend : trimEnd s = s := by
    rw [← List.dropLast_append_getLast hne]
    exact trimEnd_of_printable (h _ (List.getLast_mem hne)) _
  rw [trim, List.append_assoc, trimStart_append hbefore, hstart, trimEnd_append hafter, hend]

theorem isWhitespace_nil : IsWhitespace [] := ⟨[], by simp, rfl⟩

/-- Without the separator there is nothing to split off. -/
theorem rsplitOnce_eq_none {separator : Byte} {s : Bytes} (h : separator ∉ s) : rsplitOnce separator s = none :=
  if_neg h

theorem rsplitOnce_append {separator : Byte} {after : Bytes} (h : separator ∉ after) (before : Bytes) :
    rsplitOnce separator (before ++ separator :: after) = some (before, after) := by
  have hafter : (before ++ separator :: after).rtakeWhile (· != separator) = after := by
    have hreverse : (before ++ separator :: after).reverse = after.reverse ++ separator :: before.reverse := by simp
    rw [List.rtakeWhile, hreverse, List.takeWhile_append_of_pos, List.takeWhile_cons_of_neg (by simp),
      List.append_nil, List.reverse_reverse]
    intro b hb
    rw [bne_iff_ne]
    rintro rfl
    exact h (List.mem_reverse.1 hb)
  have htake : (before ++ separator :: after).take ((before ++ separator :: after).length - after.length - 1) = before := by
    apply List.take_left'
    rw [List.length_append, List.length_cons]
    omega
  rw [rsplitOnce, if_pos (by simp), hafter]
  dsimp only
  rw [htake]

/-- The parts of a text that is split off, with the separator between them. -/
theorem eq_append_of_rsplitOnce {separator : Byte} {s before after : Bytes}
    (h : rsplitOnce separator s = some (before, after)) : s = before ++ separator :: after := by
  unfold rsplitOnce at h
  split at h
  · rename_i hmem
    obtain ⟨hbefore, hafter⟩ := Prod.mk.inj (Option.some.inj h)
    have hjoin : s.rdropWhile (· != separator) ++ s.rtakeWhile (· != separator) = s :=
      List.rdropWhile_append_rtakeWhile
    rw [hafter] at hjoin hbefore
    have hne : s.rdropWhile (· != separator) ≠ [] := by
      intro hnil
      rw [hnil, List.nil_append, ← hafter, List.rtakeWhile_eq_self_iff] at hjoin
      simpa using hjoin separator hmem
    have hlast : (s.rdropWhile (· != separator)).getLast hne = separator := by
      simpa using List.rdropWhile_last_not _ s hne
    obtain ⟨init, hinit⟩ : ∃ init, s.rdropWhile (· != separator) = init ++ [separator] := by
      have hsplit := List.dropLast_append_getLast hne
      rw [hlast] at hsplit
      exact ⟨_, hsplit.symm⟩
    have hs : s = init ++ separator :: after := by
      rw [← hjoin, hinit, List.append_assoc, List.singleton_append]
    have htake : s.take (s.length - after.length - 1) = init := by
      rw [hs]
      apply List.take_left'
      rw [List.length_append, List.length_cons]
      omega
    rw [← hbefore, htake]
    exact hs
  · cases h

end BareProxy
