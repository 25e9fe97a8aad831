import BareProxy.Proxy.ChunkedRelay

/-!
# The fields of a received request

The upstream reads the fields of a chunked request from the bytes it has got so far: the lines of the head, and the lines
behind the last chunk. More bytes only add fields at the end.
-/

namespace BareProxy.Proxy

open Http

/-- The complete lines in front of the first empty line, and what follows that line when it is there. -/
def readSection (stream : Bytes) : List Bytes × Option Bytes :=
  match _hend : findBytes stream crlf with
  | none => ([], none)
  | some lineEnd =>
    if lineEnd = 0 then ([], some (stream.drop 2))
    else
      let more := readSection (stream.drop (lineEnd + 2))
      (stream.take lineEnd :: more.1, more.2)
termination_by stream.length
decreasing_by
  have hle : lineEnd + 2 ≤ stream.length := add_length_le_of_indexOfSub _hend
  rw [List.length_drop]
  omega

/-- The complete trailer lines of a chunked body. -/
def readTrailers (stream : Bytes) : List Bytes :=
  match _hend : findBytes stream crlf with
  | none => []
  | some lineEnd =>
    match parseChunkSize (stream.take lineEnd) with
    | .error _ => []
    | .ok size =>
      if size = 0 then (readSection (stream.drop (lineEnd + 2))).1
      else readTrailers (stream.drop (lineEnd + 2 + (size + 2)))
termination_by stream.length
decreasing_by
  have hle : lineEnd + 2 ≤ stream.length := add_length_le_of_indexOfSub _hend
  rw [List.length_drop]
  omega

/-- The field lines of a chunked request, those of its head and those of its trailer section. -/
def receivedFields (stream : Bytes) : List Bytes :=
  match findBytes stream crlf with
  | none => []
  | some lineEnd =>
    match readSection (stream.drop (lineEnd + 2)) with
    | (lines, none) => lines
    | (lines, some body) => lines ++ readTrailers body

/-! ### One line -/

theorem readSection_of_end {stream : Bytes} {lineEnd : Nat} (hend : findBytes stream crlf = some lineEnd) :
    readSection stream = if lineEnd = 0 then ([], some (stream.drop 2))
      else (stream.take lineEnd :: (readSection (stream.drop (lineEnd + 2))).1,
        (readSection (stream.drop (lineEnd + 2))).2) := by
  rw [readSection]
  split
  · rename_i hnone
    rw [hend] at hnone
    cases hnone
  · rename_i found hfound
    rw [hend] at hfound
    cases hfound
    rfl

theorem readTrailers_of_end {stream : Bytes} {lineEnd size : Nat} (hend : findBytes stream crlf = some lineEnd)
    (hsize : parseChunkSize (stream.take lineEnd) = .ok size) :
    readTrailers stream = if size = 0 then (readSection (stream.drop (lineEnd + 2))).1
      else readTrailers (stream.drop (lineEnd + 2 + (size + 2))) := by
  rw [readTrailers]
  split
  · rename_i hnone
    rw [hend] at hnone
    cases hnone
  · rename_i found hfound
    rw [hend] at hfound
    cases hfound
    rw [hsize]

theorem findBytes_line {line : Bytes} (hline : IsLine line) (rest : Bytes) :
    findBytes (line ++ crlf ++ rest) crlf = some line.length ∧ (line ++ crlf ++ rest).take line.length = line ∧
      (line ++ crlf ++ rest).drop (line.length + 2) = rest := by
  refine ⟨indexOfSub_crlf_line hline rest, ?_, ?_⟩
  · rw [List.append_assoc, List.take_left]
  · have hlength : line.length + 2 = (line ++ crlf).length := by simp [crlf]
    rw [hlength, List.drop_left]

theorem readSection_line {line : Bytes} (hline : IsLine line) (hne : line ≠ []) (rest : Bytes) :
    readSection (line ++ crlf ++ rest) = (line :: (readSection rest).1, (readSection rest).2) := by
  obtain ⟨hend, htake, hdrop⟩ := findBytes_line hline rest
  have hlength : line.length ≠ 0 := fun hzero => hne (List.length_eq_zero_iff.1 hzero)
  rw [readSection_of_end hend, if_neg hlength, htake, hdrop]

theorem readSection_blank (rest : Bytes) : readSection (crlf ++ rest) = ([], some rest) := by
  have hend : findBytes (crlf ++ rest) crlf = some 0 := (findBytes_line isLine_nil rest).1
  rw [readSection_of_end hend, if_pos rfl]
  rfl

theorem readSection_nil : readSection [] = ([], none) := by
  rw [readSection]
  split
  · rfl
  · rename_i lineEnd hend
    cases hend

theorem readSection_unlines {lines : List Bytes} (hlines : ∀ line ∈ lines, IsLine line ∧ line ≠ []) (rest : Bytes) :
    readSection (unlines lines ++ rest) = (lines ++ (readSection rest).1, (readSection rest).2) := by
  induction lines with
  | nil => rfl
  | cons line lines ih =>
    obtain ⟨hline, hne⟩ := hlines line List.mem_cons_self
    rw [unlines_cons, List.append_assoc (line ++ crlf), readSection_line hline hne,
      ih fun l hl => hlines l (List.mem_cons_of_mem _ hl)]
    rfl

/-- Behind a size line: the trailer section when the size is zero, and else a chunk. -/
theorem readTrailers_line {line : Bytes} (hline : IsLine line) {size : Nat} (hsize : parseChunkSize line = .ok size)
    (rest : Bytes) : readTrailers (line ++ crlf ++ rest) =
      if size = 0 then (readSection rest).1 else readTrailers (rest.drop (size + 2)) := by
  obtain ⟨hend, htake, hdrop⟩ := findBytes_line hline rest
  rw [← htake] at hsize
  rw [readTrailers_of_end hend hsize, ← List.drop_drop (j := line.length + 2), hdrop]

/-- A chunk is passed over. -/
theorem readTrailers_chunk {line data : Bytes} (hline : IsChunkSizeLine line data.length) (hne : data ≠ [])
    (rest : Bytes) : readTrailers (line ++ crlf ++ data ++ crlf ++ rest) = readTrailers rest := by
  obtain ⟨hisLine, -, hsize⟩ := isChunkSizeLine_iff.1 hline
  have hzero : ¬data.length = 0 := fun hzero => hne (List.length_eq_zero_iff.1 hzero)
  have hlength : data.length + 2 = (data ++ crlf).length := by simp [crlf]
  have hparts : line ++ crlf ++ data ++ crlf ++ rest = line ++ crlf ++ (data ++ crlf ++ rest) := by
    simp only [List.append_assoc]
  rw [hparts, readTrailers_line hisLine hsize, if_neg hzero, hlength, List.drop_left]

/-! ### Fronts -/

/-- A line end that is found in a front is found in the whole. -/
theorem findBytes_front {front stream : Bytes} (h : front <+: stream) {lineEnd : Nat}
    (hend : findBytes front crlf = some lineEnd) :
    findBytes stream crlf = some lineEnd ∧ stream.take lineEnd = front.take lineEnd := by
  obtain ⟨rest, rfl⟩ := h
  have hle : lineEnd + 2 ≤ front.length := add_length_le_of_indexOfSub hend
  exact ⟨indexOfSub_append_left rest hend, List.take_append_of_le_length (by omega)⟩

/-- The lines of a front come first, and they are all the lines once the empty line is there. -/
theorem readSection_front {front stream : Bytes} (h : front <+: stream) :
    (readSection front).1 <+: (readSection stream).1 ∧
      ∀ body ∈ (readSection front).2, (readSection stream).1 = (readSection front).1 ∧
        ∃ more, (readSection stream).2 = some more ∧ body <+: more := by
  fun_induction readSection front generalizing stream with
  | case1 => exact ⟨List.nil_prefix, fun body hbody => by cases hbody⟩
  | case2 front hend =>
    obtain ⟨hend', -⟩ := findBytes_front h hend
    rw [readSection_of_end hend', if_pos rfl]
    refine ⟨List.nil_prefix, fun body hbody => ⟨rfl, _, rfl, ?_⟩⟩
    rw [← Option.some.inj hbody]
    exact h.drop 2
  | case3 front lineEnd hend hzero more =>
    rename_i ih
    obtain ⟨hend', htake⟩ := findBytes_front h hend
    obtain ⟨hlines, hbody⟩ := ih (h.drop (lineEnd + 2))
    rw [readSection_of_end hend', if_neg hzero, htake]
    refine ⟨(List.prefix_cons_inj _).2 hlines, fun body hmem => ?_⟩
    obtain ⟨heq, rest, hrest, hfront⟩ := hbody body hmem
    exact ⟨congrArg (front.take lineEnd :: ·) heq, rest, hrest, hfront⟩

theorem readTrailers_front {front stream : Bytes} (h : front <+: stream) : readTrailers front <+: readTrailers stream := by
  fun_induction readTrailers front generalizing stream with
  | case1 => exact List.nil_prefix
  | case2 => exact List.nil_prefix
  | case3 front lineEnd hend hsize =>
    obtain ⟨hend', htake⟩ := findBytes_front h hend
    rw [← htake] at hsize
    rw [readTrailers_of_end hend' hsize, if_pos rfl]
    exact (readSection_front (h.drop (lineEnd + 2))).1
  | case4 front lineEnd hend size hsize hzero ih =>
    obtain ⟨hend', htake⟩ := findBytes_front h hend
    rw [← htake] at hsize
    rw [readTrailers_of_end hend' hsize, if_neg hzero]
    exact ih (h.drop (lineEnd + 2 + (size + 2)))

/-- More bytes add fields at the end. -/
theorem receivedFields_front {front stream : Bytes} (h : front <+: stream) :
    receivedFields front <+: receivedFields stream := by
  cases hend : findBytes front crlf with
  | none =>
    have hnil : receivedFields front = [] := by rw [receivedFields, hend]
    rw [hnil]
    exact List.nil_prefix
  | some lineEnd =>
    obtain ⟨hend', -⟩ := findBytes_front h hend
    obtain ⟨hlines, hbody⟩ := readSection_front (h.drop (lineEnd + 2))
    rw [receivedFields, receivedFields, hend, hend']
    dsimp only
    rcases hfront : readSection (front.drop (lineEnd + 2)) with ⟨lines, body⟩
    rcases hstream : readSection (stream.drop (lineEnd + 2)) with ⟨allLines, rest⟩
    rw [hfront, hstream] at hlines hbody
    cases body with
    | none =>
      cases rest with
      | none => exact hlines
      | some rest => exact hlines.trans (List.prefix_append _ _)
    | some body =>
      obtain ⟨heq, more, hmore, hmoreFront⟩ := hbody body rfl
      dsimp only at heq hmore
      rw [heq, hmore]
      exact (List.prefix_append_right_inj lines).2 (readTrailers_front hmoreFront)

/-- A head, and what has come of the body. -/
theorem receivedFields_head {startLine : Bytes} (hstart : IsLine startLine) {lines : List Bytes}
    (hlines : ∀ line ∈ lines, IsLine line ∧ line ≠ []) (body : Bytes) :
    receivedFields (unlines (startLine :: lines) ++ crlf ++ body) = lines ++ readTrailers body := by
  obtain ⟨hend, -, hdrop⟩ := findBytes_line hstart (unlines lines ++ (crlf ++ body))
  have hbytes : unlines (startLine :: lines) ++ crlf ++ body =
      startLine ++ crlf ++ (unlines lines ++ (crlf ++ body)) := by
    rw [unlines_cons]
    simp only [List.append_assoc]
  rw [receivedFields, hbytes, hend]
  dsimp only
  rw [hdrop, readSection_unlines hlines, readSection_blank, List.append_nil]

end BareProxy.Proxy
