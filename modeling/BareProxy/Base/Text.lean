import BareProxy.Base.Bytes

/-!
# Text

`str` functions that look at characters and not at bytes. A text is the list of its UTF-8 bytes, so a
character is one of the encodings below.
-/

namespace BareProxy

/-- The encodings of the characters with the property `White_Space`. -/
def whitespaceChars : List Bytes :=
  [[9], [10], [11], [12], [13], [32], [194, 133], [194, 160], [225, 154, 128], [226, 128, 128], [226, 128, 129],
    [226, 128, 130], [226, 128, 131], [226, 128, 132], [226, 128, 133], [226, 128, 134], [226, 128, 135],
    [226, 128, 136], [226, 128, 137], [226, 128, 138], [226, 128, 168], [226, 128, 169], [226, 128, 175],
    [226, 129, 159], [227, 128, 128]]

/-- The number of bytes of the white space character the text starts with, or zero. -/
def leadingWhitespace (s : Bytes) : Nat :=
  ((whitespaceChars.find? fun encoding => encoding.isPrefixOf s).map List.length).getD 0

def trailingWhitespace (s : Bytes) : Nat :=
  ((whitespaceChars.find? fun encoding => encoding.isSuffixOf s).map List.length).getD 0

/-- `str::trim_start`. -/
def trimStart (s : Bytes) : Bytes :=
  if s ≠ [] ∧ 0 < leadingWhitespace s then trimStart (s.drop (leadingWhitespace s)) else s
termination_by s.length
decreasing_by
  rename_i h
  have : s.length ≠ 0 := by simpa using h.1
  rw [List.length_drop]
  omega

/-- `str::trim_end`. -/
def trimEnd (s : Bytes) : Bytes :=
  if s ≠ [] ∧ 0 < trailingWhitespace s then trimEnd (s.take (s.length - trailingWhitespace s)) else s
termination_by s.length
decreasing_by
  rename_i h
  have : s.length ≠ 0 := by simpa using h.1
  rw [List.length_take]
  omega

/-- `str::trim`. -/
def trim (s : Bytes) : Bytes := trimEnd (trimStart s)

/-- `str::rsplit_once`: the parts before and after the last occurrence. -/
def rsplitOnce (separator : Byte) (s : Bytes) : Option (Bytes × Bytes) :=
  if separator ∈ s then
    let after := s.rtakeWhile (· != separator)
    some (s.take (s.length - after.length - 1), after)
  else none

/-- `str::split_once`: the parts before and after the first occurrence. -/
def splitOnce (separator s : Bytes) : Option (Bytes × Bytes) :=
  (indexOfSub separator s).map fun i => (s.take i, s.drop (i + separator.length))

/-- The first part of a text that is split at one byte does not have it. -/
theorem splitOnce_byte_iff {separator : Byte} {s before after : Bytes} :
    splitOnce [separator] s = some (before, after) ↔ s = before ++ separator :: after ∧ separator ∉ before := by
  rw [splitOnce, Option.map_eq_some_iff]
  constructor
  · intro h
    obtain ⟨i, hi, hsplit⟩ := h
    cases hsplit
    have hs := indexOfSub_split hi
    refine ⟨?_, ?_⟩
    · conv_lhs => rw [hs]
      rw [List.append_assoc]
      rfl
    · intro hmem
      obtain ⟨j, hj, hget⟩ := List.mem_take_iff_getElem.1 hmem
      obtain ⟨-, -, hfirst⟩ := indexOfSub_eq_some_iff.1 hi
      apply hfirst j (by omega)
      rw [List.drop_eq_getElem_cons (by omega), hget]
      exact ⟨_, rfl⟩
  · intro h
    obtain ⟨rfl, hbefore⟩ := h
    refine ⟨before.length, ?_, ?_⟩
    · have hindex : indexOfSub [separator] (before ++ [separator] ++ after) = some before.length :=
        indexOfSub_append_of_notMem hbefore after
      rwa [List.append_assoc] at hindex
    · rw [List.take_left, ← List.drop_drop, List.drop_left]
      rfl

/-- `u8::is_ascii_whitespace`. -/
def isAsciiWhitespace (b : Byte) : Bool := b == 32 || b == 9 || b == 10 || b == 12 || b == 13

/-! ### Lines -/

/-- `str::lines`: the pieces between line feeds, without a carriage return before the line feed. What stands after the
last line feed is a line unless it is empty. -/
def textLines (s : Bytes) : List Bytes :=
  let pieces := s.splitOn 10
  pieces.dropLast.map (fun piece => if piece.getLast? = some 13 then piece.dropLast else piece) ++
    if pieces.getLast? = some [] then [] else pieces.getLast?.toList

/-- Lines that were written each with a line feed at its end. -/
theorem textLines_flatMap {lines : List Bytes} (h : ∀ line ∈ lines, 10 ∉ line ∧ line.getLast? ≠ some 13) :
    textLines (lines.flatMap (· ++ [10])) = lines := by
  have hpieces : (lines.flatMap (· ++ [10])).splitOn 10 = lines ++ [[]] := by
    induction lines with
    | nil => rfl
    | cons line lines ih =>
        rw [List.flatMap_cons, List.append_assoc, List.singleton_append,
          List.splitOn_append_cons_self_of_not_mem (h line List.mem_cons_self).1,
          ih fun line hline => h line (List.mem_cons_of_mem _ hline), List.cons_append]
  rw [textLines, hpieces, List.dropLast_concat, List.getLast?_concat, if_pos rfl, List.append_nil]
  conv_rhs => rw [← List.map_id lines]
  apply List.map_congr_left
  intro line hline
  rw [if_neg (h line hline).2, id]

/-- Whole lines are read one text after the other. -/
theorem textLines_append {front : Bytes} (h : front = [] ∨ front.getLast? = some 10) (back : Bytes) :
    textLines (front ++ back) = textLines front ++ textLines back := by
  rcases h with rfl | hlast
  · rfl
  · obtain ⟨init, rfl⟩ := List.getLast?_eq_some_iff.1 hlast
    have hback : (back.splitOn 10) ≠ [] := List.splitOn_ne_nil 10 back
    have hpieces : (init ++ [10] ++ back).splitOn 10 = init.splitOn 10 ++ back.splitOn 10 := by
      rw [List.append_assoc, List.singleton_append, List.splitOn_append_cons_self]
    have hfront : (init ++ [10]).splitOn 10 = init.splitOn 10 ++ [[]] := by
      rw [List.splitOn_append_cons_self, List.splitOn_nil]
    rw [textLines, textLines, textLines, hpieces, hfront, List.dropLast_concat, List.getLast?_concat, if_pos rfl,
      List.append_nil, List.dropLast_append_of_ne_nil hback, List.getLast?_append_of_ne_nil _ hback, List.map_append,
      List.append_assoc]

end BareProxy
