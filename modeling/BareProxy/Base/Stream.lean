import BareProxy.Base.Bytes

/-!
# Readers and writers

What the program uses of `std::io`. A source is the list of what its reads will deliver: a segment of
bytes, or an error; after the last event it is at its end, and a read that asks for less than the next
segment leaves the rest of it. A sink records what was written to it and carries a script of the calls
that fail. A run of the program meets only finitely many reads and writes, so every behaviour of a peer
in that run is one such source and one such script.

`Reader` is the trait `Read` with what its contract promises, so the code that reads from any reader
stays generic. `pending` are the bytes a reader will still deliver, and `Clean` readers deliver them
without an error and report the end only there; the slice reader is the canonical clean one.
-/

namespace BareProxy

/-- `io::ErrorKind`, with one constructor for the kinds the program never names. -/
inductive ErrorKind
  | addrNotAvailable
  | brokenPipe
  | connectionAborted
  | connectionReset
  | interrupted
  | invalidData
  | invalidInput
  | notConnected
  | other
  | timedOut
  | unexpectedEof
  | unsupported
  | wouldBlock
  | unnamed (code : Nat)
  deriving DecidableEq, Repr

/-- An `io::Error`; the message is what `to_string` prints. -/
structure IoError where
  kind : ErrorKind
  message : String
  deriving DecidableEq, Repr

/-! ### The trait `Read` -/

class Reader (ρ : Type) where
  /-- `read` into a buffer of the given length: the bytes put there, and the reader afterwards. -/
  read : Nat → ρ → Except IoError Bytes × ρ
  /-- The bytes that later reads deliver. -/
  pending : ρ → Bytes
  /-- No later read fails, and none is empty before the end. -/
  Clean : ρ → Prop
  /-- Bounds the reads that deliver a byte or an error. -/
  size : ρ → Nat
  read_ok : ∀ {n r bs r'}, read n r = (.ok bs, r') →
    pending r = bs ++ pending r' ∧ bs.length ≤ n ∧ (bs ≠ [] → size r' < size r)
  read_error : ∀ {n r e r'}, read n r = (.error e, r') → pending r = pending r' ∧ size r' < size r
  read_clean : ∀ {n r}, Clean r → 0 < n →
    ∃ bs r', read n r = (.ok bs, r') ∧ Clean r' ∧ (bs = [] → pending r = [])

namespace Reader

variable {ρ : Type} [Reader ρ]

/-- What a read from a clean reader leaves is clean, and an empty read means the end. -/
theorem read_clean_ok {n : Nat} {r r' : ρ} {bs : Bytes} (hr : Clean r) (hn : 0 < n) (h : read n r = (.ok bs, r')) :
    Clean r' ∧ (bs = [] → pending r = []) := by
  obtain ⟨bs₁, r₁, hread, hclean, hend⟩ := read_clean hr hn
  rw [h] at hread
  cases hread
  exact ⟨hclean, hend⟩

theorem read_clean_ne_error {n : Nat} {r r' : ρ} {e : IoError} (hr : Clean r) (hn : 0 < n) :
    read n r ≠ (.error e, r') := by
  intro h
  obtain ⟨bs₁, r₁, hread, -⟩ := read_clean hr hn
  rw [h] at hread
  cases hread

def failedToFill : IoError := ⟨.unexpectedEof, "failed to fill whole buffer"⟩

/-- `read_exact`: reads until the buffer is full, and starts a read that was interrupted again. -/
def readExact (n : Nat) (r : ρ) : Except IoError Bytes × ρ :=
  if n = 0 then (.ok [], r)
  else match _h : read n r with
    | (.error e, r') => if e.kind = .interrupted then readExact n r' else (.error e, r')
    | (.ok bs, r') =>
      if _hbs : bs = [] then (.error failedToFill, r')
      else match readExact (n - bs.length) r' with
        | (.error e, r') => (.error e, r')
        | (.ok more, r') => (.ok (bs ++ more), r')
termination_by size r
decreasing_by
  · exact (read_error _h).2
  · exact (read_ok _h).2.2 _hbs

theorem readExact_ok {n : Nat} {r r' : ρ} {bs : Bytes} (h : readExact n r = (.ok bs, r')) :
    pending r = bs ++ pending r' ∧ bs.length = n := by
  fun_induction readExact n r generalizing bs r' with
  | case1 =>
    cases h
    simp_all
  | case2 n r hn e r₁ hread hkind ih =>
    obtain ⟨hpending, hlen⟩ := ih h
    exact ⟨(read_error hread).1.trans hpending, hlen⟩
  | case3 => cases h
  | case4 => cases h
  | case5 n r hn bs₁ r₁ hread hbs e r₂ hmore ih => cases h
  | case6 n r hn bs₁ r₁ hread hbs more r₂ hmore ih =>
    cases h
    obtain ⟨hpending, hle, -⟩ := read_ok hread
    obtain ⟨hpending', hlen⟩ := ih hmore
    refine ⟨by rw [hpending, hpending', List.append_assoc], ?_⟩
    rw [List.length_append, hlen]
    omega

/-- Reading something makes progress. -/
theorem readExact_ok_size {n : Nat} {r r' : ρ} {bs : Bytes} (h : readExact n r = (.ok bs, r')) (hn : 0 < n) :
    size r' < size r := by
  fun_induction readExact n r generalizing bs r' with
  | case1 => omega
  | case2 n r hn e r₁ hread hkind ih => exact Nat.lt_trans (ih h hn) (read_error hread).2
  | case3 => cases h
  | case4 => cases h
  | case5 n r hn bs₁ r₁ hread hbs e r₂ hmore ih => cases h
  | case6 n r hn bs₁ r₁ hread hbs more r₂ hmore ih =>
    cases h
    have hfirst := (read_ok hread).2.2 hbs
    by_cases hrest : n - bs₁.length = 0
    · rw [hrest, readExact, if_pos rfl] at hmore
      cases hmore
      exact hfirst
    · exact Nat.lt_trans (ih hmore (Nat.pos_of_ne_zero hrest)) hfirst

/-- On a reader that only stands still where it will stand still for good, so does `read_exact`. -/
theorem readExact_progress (hread : ∀ n (r : ρ), (read n r).2 = r ∨ size (read n r).2 < size r) (n : Nat) (r : ρ) :
    (readExact n r).2 = r ∨ size (readExact n r).2 < size r := by
  have hstep : ∀ {n result} {r r' : ρ}, read n r = (result, r') → r' = r ∨ size r' < size r := by
    intro n result r r' h
    have hprogress := hread n r
    rwa [h] at hprogress
  fun_induction readExact n r with
  | case1 => exact Or.inl rfl
  | case2 n r hn e r₁ hread hkind ih =>
    have hfirst := (read_error hread).2
    rcases ih with ih | ih
    · rw [ih]
      exact Or.inr hfirst
    · exact Or.inr (Nat.lt_trans ih hfirst)
  | case3 n r hn e r₁ hread => exact hstep hread
  | case4 n r hn r₁ hread => exact hstep hread
  | case5 n r hn bs r₁ hread hbs e r₂ hmore ih =>
    have hfirst := (read_ok hread).2.2 hbs
    rw [hmore] at ih
    rcases ih with ih | ih
    · rw [← ih] at hfirst
      exact Or.inr hfirst
    · exact Or.inr (Nat.lt_trans ih hfirst)
  | case6 n r hn bs r₁ hread hbs more r₂ hmore ih =>
    have hfirst := (read_ok hread).2.2 hbs
    rw [hmore] at ih
    rcases ih with ih | ih
    · rw [← ih] at hfirst
      exact Or.inr hfirst
    · exact Or.inr (Nat.lt_trans ih hfirst)

/-- A property that every read keeps. -/
def Closed (P : ρ → Prop) : Prop := ∀ {n r result r'}, P r → read n r = (result, r') → P r'

theorem readExact_closed {P : ρ → Prop} (hP : Closed P) {n : Nat} {r r' : ρ} {result : Except IoError Bytes}
    (hr : P r) (h : readExact n r = (result, r')) : P r' := by
  fun_induction readExact n r generalizing result r' with
  | case1 =>
    cases h
    exact hr
  | case2 n r hn e r₁ hread hkind ih => exact ih (hP hr hread) h
  | case3 n r hn e r₁ hread hkind =>
    cases h
    exact hP hr hread
  | case4 n r hn r₁ hread =>
    cases h
    exact hP hr hread
  | case5 n r hn bs r₁ hread hbs e r₂ hmore ih =>
    cases h
    exact ih (hP hr hread) hmore
  | case6 n r hn bs r₁ hread hbs more r₂ hmore ih =>
    cases h
    exact ih (hP hr hread) hmore

/-- On a clean reader `read_exact` takes the next bytes, or runs into the end. -/
theorem readExact_clean {n : Nat} {r : ρ} (hr : Clean r) :
    ∃ r', Clean r' ∧
      ((n ≤ (pending r).length ∧ readExact n r = (.ok ((pending r).take n), r') ∧
          pending r' = (pending r).drop n) ∨
        ((pending r).length < n ∧ readExact n r = (.error failedToFill, r') ∧ pending r' = [])) := by
  fun_induction readExact n r with
  | case1 r => exact ⟨r, hr, Or.inl (by simp)⟩
  | case2 n r hn e r₁ hread hkind ih => exact absurd hread (read_clean_ne_error hr (Nat.pos_of_ne_zero hn))
  | case3 n r hn e r₁ hread => exact absurd hread (read_clean_ne_error hr (Nat.pos_of_ne_zero hn))
  | case4 n r hn r₁ hread =>
    obtain ⟨hclean, hend⟩ := read_clean_ok hr (Nat.pos_of_ne_zero hn) hread
    have hnil : pending r = [] := hend rfl
    have hrest := (read_ok hread).1
    rw [hnil] at hrest
    refine ⟨r₁, hclean, Or.inr ⟨?_, rfl, by simpa using hrest.symm⟩⟩
    rw [hnil]
    exact Nat.pos_of_ne_zero hn
  | case5 n r hn bs₁ r₁ hread hbs e r₂ hmore ih =>
    obtain ⟨hclean, -⟩ := read_clean_ok hr (Nat.pos_of_ne_zero hn) hread
    obtain ⟨hpending, hle, -⟩ := read_ok hread
    obtain ⟨r₃, hclean₃, ⟨-, hok, -⟩ | ⟨hshort, herror, hrest⟩⟩ := ih hclean
    · rw [hmore] at hok
      cases hok
    · rw [hmore] at herror
      cases herror
      refine ⟨r₂, hclean₃, Or.inr ⟨?_, rfl, hrest⟩⟩
      rw [hpending, List.length_append]
      omega
  | case6 n r hn bs₁ r₁ hread hbs more r₂ hmore ih =>
    obtain ⟨hclean, -⟩ := read_clean_ok hr (Nat.pos_of_ne_zero hn) hread
    obtain ⟨hpending, hle, -⟩ := read_ok hread
    obtain ⟨r₃, hclean₃, ⟨hlen, hok, hrest⟩ | ⟨-, herror, -⟩⟩ := ih hclean
    · rw [hmore] at hok
      cases hok
      refine ⟨r₂, hclean₃, Or.inl ⟨?_, ?_, ?_⟩⟩
      · rw [hpending, List.length_append]
        omega
      · rw [hpending, List.take_append, List.take_of_length_le hle]
      · rw [hrest, hpending, List.drop_append, List.drop_of_length_le hle, List.nil_append]
    · rw [hmore] at herror
      cases herror

end Reader

/-! ### Sources -/

inductive ReadEvent
  | data (bytes : Bytes)
  | error (error : IoError)
  deriving DecidableEq, Repr

/-- A socket, seen from the side that reads. -/
structure Source where
  events : List ReadEvent
  deriving DecidableEq, Repr

namespace Source

def ofSegments (segments : List Bytes) : Source := ⟨segments.map .data⟩

def read (n : Nat) (s : Source) : Except IoError Bytes × Source :=
  match s.events with
  | [] => (.ok [], s)
  | .error e :: rest => (.error e, ⟨rest⟩)
  | .data bytes :: rest =>
    if bytes.length ≤ n then (.ok bytes, ⟨rest⟩)
    else (.ok (bytes.take n), ⟨.data (bytes.drop n) :: rest⟩)

def eventBytes : ReadEvent → Bytes
  | .data bytes => bytes
  | .error _ => []

def pending (s : Source) : Bytes := s.events.flatMap eventBytes

def IsSegment (event : ReadEvent) : Prop := ∃ bytes, event = .data bytes ∧ bytes ≠ []

/-- Only non-empty segments, until the end. -/
def Clean (s : Source) : Prop := ∀ event ∈ s.events, IsSegment event

def size (s : Source) : Nat := s.events.length + s.pending.length

instance : Reader Source where
  read := read
  pending := pending
  Clean := Clean
  size := size
  read_ok := by
    intro n s bs s' h
    obtain ⟨events⟩ := s
    unfold read at h
    split at h
    · cases h
      simp
    · cases h
    · rename_i bytes rest hevents
      simp only at hevents
      subst hevents
      split at h
      · rename_i hle
        cases h
        refine ⟨by simp [pending, eventBytes], hle, fun _ => ?_⟩
        simp only [size, pending, List.length_cons, List.flatMap_cons, List.length_append]
        omega
      · rename_i hlt
        cases h
        refine ⟨?_, by simp, fun _ => ?_⟩
        · simp only [pending, eventBytes, List.flatMap_cons]
          rw [← List.append_assoc, List.take_append_drop]
        · simp only [size, pending, List.length_cons, List.flatMap_cons, List.length_append, eventBytes,
            List.length_drop]
          rename_i hne
          have hn : n ≠ 0 := by
            intro hzero
            exact hne (by simp [hzero])
          omega
  read_error := by
    intro n s e s' h
    obtain ⟨events⟩ := s
    unfold read at h
    split at h
    · cases h
    · rename_i e' rest hevents
      simp only at hevents
      subst hevents
      cases h
      simp [pending, size, eventBytes]
    · split at h <;> cases h
  read_clean := by
    intro n s hclean hn
    obtain ⟨events⟩ := s
    cases events with
    | nil => exact ⟨[], ⟨[]⟩, rfl, hclean, fun _ => rfl⟩
    | cons event rest =>
      obtain ⟨bytes, rfl, hne⟩ := hclean event List.mem_cons_self
      have hrest : Clean ⟨rest⟩ := fun e he => hclean e (List.mem_cons_of_mem _ he)
      by_cases hle : bytes.length ≤ n
      · exact ⟨bytes, ⟨rest⟩, by simp [read, hle], hrest, fun h => absurd h hne⟩
      · refine ⟨bytes.take n, ⟨.data (bytes.drop n) :: rest⟩, by simp [read, hle], ?_, ?_⟩
        · intro e he
          rcases List.mem_cons.1 he with rfl | he
          · refine ⟨_, rfl, ?_⟩
            rw [Ne, List.drop_eq_nil_iff]
            exact hle
          · exact hrest e he
        · intro hnil
          rcases List.take_eq_nil_iff.1 hnil with hzero | hnil
          · omega
          · exact absurd hnil hne

/-- A source only stands still at its end. -/
theorem read_progress (n : Nat) (s : Source) : (Reader.read n s).2 = s ∨ Reader.size (Reader.read n s).2 < Reader.size s := by
  rcases hread : Reader.read n s with ⟨result, s'⟩
  cases result with
  | error e => exact Or.inr (Reader.read_error hread).2
  | ok bs =>
    by_cases hbs : bs = []
    · obtain ⟨events⟩ := s
      have hread' : read n ⟨events⟩ = (.ok bs, s') := hread
      cases events with
      | nil =>
        cases hread'
        exact Or.inl rfl
      | cons event events =>
        cases event with
        | error e => cases hread'
        | data bytes =>
          rw [read] at hread'
          dsimp only at hread'
          split at hread'
          · cases hread'
            refine Or.inr ?_
            show size ⟨events⟩ < size ⟨.data bs :: events⟩
            rw [size, size, List.length_cons, hbs, pending, pending, List.flatMap_cons, eventBytes, List.nil_append]
            dsimp only
            omega
          · rename_i hlong
            cases hread'
            have hzero : n = 0 := by
              rcases List.take_eq_nil_iff.1 hbs with hzero | hnil
              · exact hzero
              · exact absurd (Nat.zero_le n) (by rw [hnil] at hlong; exact hlong)
            rw [hzero, List.drop_zero]
            exact Or.inl rfl
    · exact Or.inr ((Reader.read_ok hread).2.2 hbs)

theorem clean_ofSegments {segments : List Bytes} (h : ∀ segment ∈ segments, segment ≠ []) :
    Reader.Clean (ofSegments segments) := by
  intro event hevent
  obtain ⟨segment, hsegment, rfl⟩ := List.mem_map.1 hevent
  exact ⟨segment, rfl, h segment hsegment⟩

@[simp] theorem pending_ofSegments (segments : List Bytes) :
    Reader.pending (ofSegments segments) = segments.flatten := by
  show (segments.map ReadEvent.data).flatMap eventBytes = segments.flatten
  induction segments with
  | nil => rfl
  | cons segment segments ih => simp [eventBytes, ih]

end Source

/-- The slice reader: every read takes as much as it asks for. -/
instance : Reader Bytes where
  read n s := (.ok (s.take n), s.drop n)
  pending s := s
  Clean _ := True
  size s := s.length
  read_ok := by
    intro n s bs s' h
    cases h
    refine ⟨(List.take_append_drop n s).symm, by simp, fun hne => ?_⟩
    have hs : s.length ≠ 0 := by
      intro hzero
      exact hne (by simp [List.length_eq_zero_iff.1 hzero])
    have hn : n ≠ 0 := by
      intro hzero
      exact hne (by simp [hzero])
    rw [List.length_drop]
    omega
  read_error := by
    intro n s e s' h
    cases h
  read_clean := by
    intro n s _ hn
    refine ⟨s.take n, s.drop n, rfl, trivial, fun hnil => ?_⟩
    rcases List.take_eq_nil_iff.1 hnil with hzero | hnil
    · omega
    · exact hnil

/-! ### Writers -/

/-- What was written, and for each call to come whether it fails: after how many bytes, and how. -/
structure Sink where
  written : Bytes
  script : List (Option (Nat × IoError))
  deriving DecidableEq, Repr

namespace Sink

/-- A sink on which every call succeeds. -/
def accepting (written : Bytes) : Sink := ⟨written, []⟩

def writeAll (bytes : Bytes) (w : Sink) : Except IoError Unit × Sink :=
  match w.script with
  | [] => (.ok (), ⟨w.written ++ bytes, []⟩)
  | none :: script => (.ok (), ⟨w.written ++ bytes, script⟩)
  | some (count, error) :: script => (.error error, ⟨w.written ++ bytes.take count, script⟩)

def flush (w : Sink) : Except IoError Unit × Sink :=
  match w.script with
  | [] => (.ok (), w)
  | none :: script => (.ok (), ⟨w.written, script⟩)
  | some (_, error) :: script => (.error error, ⟨w.written, script⟩)

theorem writeAll_ok {bytes : Bytes} {w w' : Sink} (h : writeAll bytes w = (.ok (), w')) :
    w'.written = w.written ++ bytes := by
  unfold writeAll at h
  split at h <;> cases h <;> rfl

/-- A write that fails has written a prefix. -/
theorem writeAll_error {bytes : Bytes} {e : IoError} {w w' : Sink} (h : writeAll bytes w = (.error e, w')) :
    ∃ count, w'.written = w.written ++ bytes.take count := by
  unfold writeAll at h
  split at h <;> cases h
  exact ⟨_, rfl⟩

theorem writeAll_of_script {w : Sink} (h : ∀ call ∈ w.script, call = none) (bytes : Bytes) :
    ∃ w', writeAll bytes w = (.ok (), w') ∧ ∀ call ∈ w'.script, call = none := by
  unfold writeAll
  split
  · exact ⟨_, rfl, fun call hcall => absurd hcall List.not_mem_nil⟩
  · rename_i script hscript
    rw [hscript] at h
    exact ⟨_, rfl, fun call hcall => h call (List.mem_cons_of_mem _ hcall)⟩
  · rename_i count error script hscript
    rw [hscript] at h
    cases h _ List.mem_cons_self

theorem flush_of_script {w : Sink} (h : ∀ call ∈ w.script, call = none) : ∃ w', flush w = (.ok (), w') := by
  unfold flush
  split
  · exact ⟨_, rfl⟩
  · exact ⟨_, rfl⟩
  · rename_i count error script hscript
    rw [hscript] at h
    cases h _ List.mem_cons_self

theorem flush_written (w : Sink) : (flush w).2.written = w.written := by
  unfold flush
  split <;> rfl

@[simp] theorem writeAll_accepting (bytes written : Bytes) :
    writeAll bytes (accepting written) = (.ok (), accepting (written ++ bytes)) := rfl

@[simp] theorem flush_accepting (written : Bytes) : flush (accepting written) = (.ok (), accepting written) := rfl

@[simp] theorem accepting_written (written : Bytes) : (accepting written).written = written := rfl

end Sink

/-- A connected stream: the side that is read and the side that is written. -/
structure Endpoint where
  input : Source
  output : Sink
  deriving DecidableEq, Repr

end BareProxy
