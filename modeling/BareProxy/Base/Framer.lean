import BareProxy.Base.Bytes
import BareProxy.Base.Result
import BareProxy.Base.Run

/-!
# Incremental framing

A framer finds the first item of a buffer, or says that it needs more bytes, or rejects the buffer. When
more bytes behind the buffer do not change what it finds, feeding a stream in pieces gives what the whole
stream gives, however it is cut.
-/

namespace BareProxy

/-- A framer whose findings stand when more bytes follow. -/
structure Framer (ε α : Type) where
  /-- The first item and the bytes after it; `none` when the item is not complete. -/
  next : Bytes → Except ε (Option (α × Bytes))
  next_shorter : ∀ {buffer item rest}, next buffer = .ok (some (item, rest)) → rest.length < buffer.length
  next_append : ∀ {buffer item rest} (more : Bytes), next buffer = .ok (some (item, rest)) →
    next (buffer ++ more) = .ok (some (item, rest ++ more))
  error_append : ∀ {buffer e} (more : Bytes), next buffer = .error e → next (buffer ++ more) = .error e

namespace Framer

variable {ε α : Type} (framer : Framer ε α)

/-- All complete items of a buffer, and what is left. -/
def drain (buffer : Bytes) : Except ε (List α × Bytes) :=
  match _h : framer.next buffer with
  | .error e => .error e
  | .ok none => .ok ([], buffer)
  | .ok (some (item, rest)) =>
    match drain rest with
    | .error e => .error e
    | .ok (items, rest) => .ok (item :: items, rest)
termination_by buffer.length
decreasing_by exact framer.next_shorter _h

/-- Feeds bytes to a buffer: the items they complete, and the buffer afterwards. A buffer that is rejected
stays as it is. -/
def push (buffer input : Bytes) : Except ε (List α) × Bytes :=
  match framer.drain (buffer ++ input) with
  | .error e => (.error e, buffer ++ input)
  | .ok (items, rest) => (.ok items, rest)

variable {framer}

theorem drain_of_none {buffer : Bytes} (h : framer.next buffer = .ok none) : framer.drain buffer = .ok ([], buffer) := by
  rw [drain]
  grind

theorem drain_of_some {buffer rest : Bytes} {item : α} (h : framer.next buffer = .ok (some (item, rest))) :
    framer.drain buffer = match framer.drain rest with
      | .error e => .error e
      | .ok (items, rest) => .ok (item :: items, rest) := by
  rw [drain]
  grind

/-- Draining stops where no item is complete. -/
theorem next_of_drain {buffer rest : Bytes} {items : List α} (h : framer.drain buffer = .ok (items, rest)) :
    framer.next rest = .ok none := by
  fun_induction drain framer buffer generalizing items with
  | case1 => cases h
  | case2 buffer hnext =>
    cases h
    exact hnext
  | case3 => cases h
  | case4 buffer item rest₁ hnext items₁ rest₂ hdrain ih =>
    cases h
    exact ih hdrain

/-- Draining goes on where it stopped. -/
theorem drain_append {buffer rest : Bytes} {items : List α} (h : framer.drain buffer = .ok (items, rest))
    (more : Bytes) :
    framer.drain (buffer ++ more) = match framer.drain (rest ++ more) with
      | .error e => .error e
      | .ok (items', rest') => .ok (items ++ items', rest') := by
  fun_induction drain framer buffer generalizing items with
  | case1 => cases h
  | case2 buffer hnext =>
    cases h
    cases framer.drain (rest ++ more) with
    | error e => rfl
    | ok drained => rfl
  | case3 => cases h
  | case4 buffer item rest₁ hnext items₁ rest₂ hdrain ih =>
    cases h
    rw [drain_of_some (framer.next_append more hnext), ih hdrain]
    cases framer.drain (rest ++ more) with
    | error e => rfl
    | ok drained => rfl

theorem drain_of_error {buffer : Bytes} {e : ε} (h : framer.next buffer = .error e) :
    framer.drain buffer = .error e := by
  rw [drain]
  grind

/-- What is rejected stays rejected. -/
theorem drain_error_append {buffer : Bytes} {e : ε} (h : framer.drain buffer = .error e) (more : Bytes) :
    framer.drain (buffer ++ more) = .error e := by
  fun_induction drain framer buffer with
  | case1 buffer e' hnext =>
    cases h
    exact drain_of_error (framer.error_append more hnext)
  | case2 => cases h
  | case3 buffer item rest hnext e' hdrain ih =>
    cases h
    rw [drain_of_some (framer.next_append more hnext), ih hdrain]
  | case4 => cases h

/-- Feeding pieces to a buffer without a complete item gives what draining all of it gives. -/
theorem runAll_push {buffer rest : Bytes} {items : List α} {pieces : List Bytes}
    (hbuffer : framer.next buffer = .ok none)
    (h : framer.drain (buffer ++ pieces.flatten) = .ok (items, rest)) :
    ∃ batches, runAll framer.push buffer pieces = (.ok batches, rest) ∧ batches.flatten = items := by
  induction pieces generalizing buffer items with
  | nil =>
    rw [List.flatten_nil, List.append_nil, drain_of_none hbuffer] at h
    cases h
    exact ⟨[], rfl, rfl⟩
  | cons piece pieces ih =>
    rw [List.flatten_cons, ← List.append_assoc] at h
    cases hpiece : framer.drain (buffer ++ piece) with
    | error e =>
      rw [drain_error_append hpiece] at h
      cases h
    | ok drained =>
      obtain ⟨first, left⟩ := drained
      rw [drain_append hpiece] at h
      cases hrest : framer.drain (left ++ pieces.flatten) with
      | error e =>
        rw [hrest] at h
        cases h
      | ok drained =>
        obtain ⟨more, last⟩ := drained
        rw [hrest] at h
        cases h
        obtain ⟨batches, hbatches, rfl⟩ := ih (next_of_drain hpiece) hrest
        refine ⟨first :: batches, runAll_cons_ok.2 ⟨first, batches, left, ?_, hbatches, rfl⟩, rfl⟩
        rw [push, hpiece]

/-- A stream of encodings drains to the items. -/
theorem drain_flatMap {encode : α → Bytes} {items : List α}
    (hnext : ∀ item ∈ items, ∀ more, framer.next (encode item ++ more) = .ok (some (item, more)))
    {tail : Bytes} (htail : framer.next tail = .ok none) :
    framer.drain (items.flatMap encode ++ tail) = .ok (items, tail) := by
  induction items with
  | nil => exact drain_of_none htail
  | cons item items ih =>
    have hrest := ih fun other hother => hnext other (List.mem_cons_of_mem _ hother)
    rw [List.flatMap_cons, List.append_assoc, drain_of_some (hnext item List.mem_cons_self _), hrest]

/-- Feeding pieces without an error has drained all of them. -/
theorem drain_of_runAll_push {buffer rest : Bytes} {batches : List (List α)} {pieces : List Bytes}
    (hbuffer : framer.next buffer = .ok none) (h : runAll framer.push buffer pieces = (.ok batches, rest)) :
    framer.drain (buffer ++ pieces.flatten) = .ok (batches.flatten, rest) := by
  induction pieces generalizing buffer batches with
  | nil =>
    cases h
    rw [List.flatten_nil, List.append_nil, drain_of_none hbuffer]
    rfl
  | cons piece pieces ih =>
    obtain ⟨first, more, left, hpush, hrest, rfl⟩ := runAll_cons_ok.1 h
    rw [push] at hpush
    cases hpiece : framer.drain (buffer ++ piece) with
    | error e =>
      rw [hpiece] at hpush
      cases hpush
    | ok drained =>
      rw [hpiece] at hpush
      cases hpush
      rw [List.flatten_cons, ← List.append_assoc, drain_append hpiece, ih (next_of_drain hpiece) hrest]
      rfl

/-- The items and what is left are the buffer. -/
theorem eq_of_drain {wire : α → Bytes}
    (hwire : ∀ {buffer item rest}, framer.next buffer = .ok (some (item, rest)) → buffer = wire item ++ rest)
    {buffer rest : Bytes} {items : List α} (h : framer.drain buffer = .ok (items, rest)) :
    buffer = items.flatMap wire ++ rest := by
  fun_induction drain framer buffer generalizing items with
  | case1 => cases h
  | case2 buffer hnext =>
    cases h
    rfl
  | case3 => cases h
  | case4 buffer item rest₁ hnext items₁ rest₂ hdrain ih =>
    cases h
    rw [List.flatMap_cons, List.append_assoc, ← ih hdrain, hwire hnext]

/-- What holds of every item that is found holds of all items of a buffer. -/
theorem forall_of_drain {P : α → Prop}
    (hnext : ∀ {buffer item rest}, framer.next buffer = .ok (some (item, rest)) → P item)
    {buffer rest : Bytes} {items : List α} (h : framer.drain buffer = .ok (items, rest)) : ∀ item ∈ items, P item := by
  fun_induction drain framer buffer generalizing items with
  | case1 => cases h
  | case2 buffer hnone =>
    cases h
    intro item hitem
    cases hitem
  | case3 => cases h
  | case4 buffer item rest₁ hsome items₁ rest₂ hdrain ih =>
    cases h
    exact List.forall_mem_cons.2 ⟨hnext hsome, ih hdrain⟩

theorem drain_of_push_error {buffer input buffer' : Bytes} {e : ε}
    (h : framer.push buffer input = (.error e, buffer')) : framer.drain buffer' = .error e := by
  rw [push] at h
  split at h
  · rename_i hdrain
    cases h
    exact hdrain
  · cases h

/-- A rejected buffer is rejected at every later push. -/
theorem outputsOf_push_error {buffer : Bytes} {e : ε} (h : framer.drain buffer = .error e) (inputs : List Bytes) :
    ∀ output ∈ outputsOf framer.push buffer inputs, output = .error e := by
  induction inputs generalizing buffer with
  | nil =>
    intro output houtput
    cases houtput
  | cons input inputs ih =>
    have hpush : framer.push buffer input = (.error e, buffer ++ input) := by
      rw [push, drain_error_append h]
    intro output houtput
    rw [outputsOf, hpush] at houtput
    rcases List.mem_cons.1 houtput with rfl | houtput
    · rfl
    · exact ih (drain_error_append h input) output houtput

end Framer

/-- A decoder that gives the items of a stream however it is cut, and whose first error stays. -/
structure DecodesStream {ε α : Type} (push : Bytes → Bytes → Except ε (List α) × Bytes) (new : Bytes)
    (wire : α → Bytes) : Prop where
  /-- Two segmentations of a stream fail together, and give the same items and buffer when they do not. -/
  segmentation : ∀ first second : List Bytes, first.flatten = second.flatten →
    ∀ batches decoder, runAll push new first = (.ok batches, decoder) →
      ∃ batches', runAll push new second = (.ok batches', decoder) ∧ batches'.flatten = batches.flatten
  /-- The encodings of the items and the buffer are the stream. -/
  stream_eq : ∀ pieces batches decoder, runAll push new pieces = (.ok batches, decoder) →
    batches.flatten.flatMap wire ++ decoder = pieces.flatten
  sticky : ∀ decoder input e decoder', push decoder input = (.error e, decoder') →
    ∀ inputs, ∀ output ∈ outputsOf push decoder' inputs, output = .error e

/-- A framer that starts with nothing decodes streams. -/
theorem Framer.decodesStream {ε α : Type} {framer : Framer ε α} (hnew : framer.next [] = .ok none) {wire : α → Bytes}
    (hwire : ∀ {buffer item rest}, framer.next buffer = .ok (some (item, rest)) → buffer = wire item ++ rest) :
    DecodesStream framer.push [] wire where
  segmentation first second hstream batches decoder h := by
    have hdrain := drain_of_runAll_push hnew h
    rw [List.nil_append, hstream, ← List.nil_append second.flatten] at hdrain
    exact runAll_push hnew hdrain
  stream_eq pieces batches decoder h := (eq_of_drain hwire (drain_of_runAll_push hnew h)).symm
  sticky decoder input e decoder' h inputs := outputsOf_push_error (drain_of_push_error h) inputs

end BareProxy
