import BareProxy.Base.Dialogue
import BareProxy.Base.Stream

/-!
# Dialogues on a connected stream

A dialogue on a socket reads from one side and writes to the other. An operation that reads what is pending does on every
clean reader what it does on the slice of the bytes that the reader will deliver. A dialogue made of such operations
cannot tell apart two sockets whose peers send the same bytes in different segments.
-/

namespace BareProxy

open Reader

/-- A dialogue on a connected stream. -/
abbrev Conversation := Dialogue Endpoint IoError

namespace Conversation

variable {α : Type}

def reading (read : Source → Except IoError α × Source) : Conversation α :=
  .step fun stream => ((read stream.input).1, { stream with input := (read stream.input).2 })

def writing (write : Sink → Except IoError Unit × Sink) : Conversation Unit :=
  .step fun stream => ((write stream.output).1, { stream with output := (write stream.output).2 })

/-- `write_all` and `flush`. -/
def writeFlushed (bytes : Bytes) : Conversation Unit := do
  writing (Sink.writeAll bytes)
  writing Sink.flush

/-! ### What a run reads and writes -/

section Runs

variable {stream stream' : Endpoint}

theorem reading_eq {read : Source → Except IoError α × Source} {result : Except IoError α} :
    reading read stream = some (result, stream') ↔
      read stream.input = (result, stream'.input) ∧ stream'.output = stream.output := by
  obtain ⟨input', output'⟩ := stream'
  rw [reading, Dialogue.step_eq, Prod.mk.injEq, Endpoint.mk.injEq, Prod.ext_iff, and_assoc, eq_comm (a := output')]

theorem writing_eq {write : Sink → Except IoError Unit × Sink} {result : Except IoError Unit} :
    writing write stream = some (result, stream') ↔
      write stream.output = (result, stream'.output) ∧ stream'.input = stream.input := by
  obtain ⟨input', output'⟩ := stream'
  rw [writing, Dialogue.step_eq, Prod.mk.injEq, Endpoint.mk.injEq, Prod.ext_iff, and_assoc, and_comm (b := _ = output'),
    eq_comm (a := input')]

/-- From one state of a stream to the other these bytes were received and those sent. -/
structure Transfers (stream stream' : Endpoint) (received sent : Bytes) : Prop where
  received_eq : pending stream.input = received ++ pending stream'.input
  sent_eq : stream'.output.written = stream.output.written ++ sent

theorem Transfers.refl (stream : Endpoint) : Transfers stream stream [] [] := ⟨rfl, (List.append_nil _).symm⟩

theorem Transfers.trans {stream'' : Endpoint} {received received' sent sent' : Bytes}
    (h : Transfers stream stream' received sent) (h' : Transfers stream' stream'' received' sent') :
    Transfers stream stream'' (received ++ received') (sent ++ sent') :=
  ⟨by rw [h.received_eq, h'.received_eq, List.append_assoc], by rw [h'.sent_eq, h.sent_eq, List.append_assoc]⟩

/-- A stream on which nothing fails. -/
structure Sound (stream : Endpoint) : Prop where
  clean : Clean stream.input
  script_eq : stream.output.script = []

end Runs

/-! ### The meaning of a dialogue -/

variable {β : Type}

/-- Whenever a dialogue succeeds, on any stream, this holds of its result and of what it received and sent by then. -/
def Yields (dialogue : Conversation α) (post : α → Bytes → Bytes → Prop) : Prop :=
  ∀ {stream stream' value}, dialogue stream = some (.ok value, stream') →
    ∃ received sent, post value received sent ∧ Transfers stream stream' received sent

/-- A dialogue has a meaning when every run that succeeds is among it, and every result in it is reached on a sound stream
that brings the bytes to receive. -/
structure Means (dialogue : Conversation α) (meaning : α → Bytes → Bytes → Prop) : Prop where
  run_meaning : Yields dialogue meaning
  exists_run : ∀ {value received sent}, meaning value received sent → ∀ {stream rest}, Sound stream →
    pending stream.input = received ++ rest →
      ∃ stream', dialogue stream = some (.ok value, stream') ∧ Sound stream' ∧ pending stream'.input = rest ∧
        stream'.output.written = stream.output.written ++ sent

namespace Means

/-- The meaning of two dialogues one after the other. -/
def Andthen (meaning : α → Bytes → Bytes → Prop) (next : α → β → Bytes → Bytes → Prop) (value : β)
    (received sent : Bytes) : Prop :=
  ∃ between received₁ received₂ sent₁ sent₂, meaning between received₁ sent₁ ∧ next between value received₂ sent₂ ∧
    received = received₁ ++ received₂ ∧ sent = sent₁ ++ sent₂

theorem bind {dialogue : Conversation α} {next : α → Conversation β} {meaning : α → Bytes → Bytes → Prop}
    {meaning' : α → β → Bytes → Bytes → Prop} (h : Means dialogue meaning) (hnext : ∀ value, Means (next value) (meaning' value)) :
    Means (dialogue >>= next) (Andthen meaning meaning') where
  run_meaning {stream stream' value} hrun := by
    obtain ⟨between, stream₁, hfirst, hrest⟩ := Dialogue.bind_eq_ok.1 hrun
    obtain ⟨received₁, sent₁, hmeaning, htransfers⟩ := h.run_meaning hfirst
    obtain ⟨received₂, sent₂, hmeaning', htransfers'⟩ := (hnext between).run_meaning hrest
    exact ⟨_, _, ⟨between, received₁, received₂, sent₁, sent₂, hmeaning, hmeaning', rfl, rfl⟩,
      htransfers.trans htransfers'⟩
  exists_run := by
    rintro value _ _ ⟨between, received₁, received₂, sent₁, sent₂, hmeaning, hmeaning', rfl, rfl⟩ stream rest hsound
      hpending
    rw [List.append_assoc] at hpending
    obtain ⟨stream₁, hfirst, hsound₁, hpending₁, hwritten₁⟩ := h.exists_run hmeaning hsound hpending
    obtain ⟨stream₂, hrest, hsound₂, hpending₂, hwritten₂⟩ :=
      (hnext between).exists_run hmeaning' hsound₁ hpending₁
    exact ⟨stream₂, Dialogue.bind_eq_ok.2 ⟨between, stream₁, hfirst, hrest⟩, hsound₂, hpending₂,
      by rw [hwritten₂, hwritten₁, List.append_assoc]⟩

theorem of_iff {dialogue : Conversation α} {meaning meaning' : α → Bytes → Bytes → Prop} (h : Means dialogue meaning)
    (hiff : ∀ value received sent, meaning value received sent ↔ meaning' value received sent) :
    Means dialogue meaning' where
  run_meaning hrun := by
    obtain ⟨received, sent, hmeaning, htransfers⟩ := h.run_meaning hrun
    exact ⟨received, sent, (hiff _ _ _).1 hmeaning, htransfers⟩
  exists_run hmeaning := h.exists_run ((hiff _ _ _).2 hmeaning)

theorem yields {dialogue : Conversation α} {meaning post : α → Bytes → Bytes → Prop} (h : Means dialogue meaning)
    (hpost : ∀ value received sent, meaning value received sent → post value received sent) : Yields dialogue post := by
  intro stream stream' value hrun
  obtain ⟨received, sent, hmeaning, htransfers⟩ := h.run_meaning hrun
  exact ⟨received, sent, hpost _ _ _ hmeaning, htransfers⟩

/-- Every result has a stream on which it is reached. -/
theorem exists_stream {dialogue : Conversation α} {meaning : α → Bytes → Bytes → Prop} (h : Means dialogue meaning)
    {value : α} {received sent : Bytes} (hmeaning : meaning value received sent) :
    ∃ stream stream', dialogue stream = some (.ok value, stream') := by
  have hsound : Sound ⟨.ofSegments (received.map fun b => [b]), .accepting []⟩ := by
    refine ⟨Source.clean_ofSegments fun segment hsegment => ?_, rfl⟩
    obtain ⟨b, -, rfl⟩ := List.mem_map.1 hsegment
    exact List.cons_ne_nil _ _
  have hpending : pending (Source.ofSegments (received.map fun b => [b])) = received ++ [] := by
    rw [Source.pending_ofSegments, ← List.flatMap_def, List.flatMap_singleton', List.append_nil]
  obtain ⟨stream', hrun, -⟩ := h.exists_run hmeaning hsound hpending
  exact ⟨_, stream', hrun⟩

theorem pure (value : α) : Means (Pure.pure value) fun value' received sent => value' = value ∧ received = [] ∧ sent = [] where
  run_meaning {stream stream' value'} hrun := by
    cases hrun
    exact ⟨[], [], ⟨rfl, rfl, rfl⟩, .refl stream⟩
  exists_run := by
    rintro _ _ _ ⟨rfl, rfl, rfl⟩ stream rest hsound hpending
    exact ⟨stream, rfl, hsound, hpending, (List.append_nil _).symm⟩

theorem ofOption (result : Option (Except IoError α)) :
    Means (Dialogue.ofOption result) fun value received sent => result = some (.ok value) ∧ received = [] ∧ sent = [] where
  run_meaning {stream stream' value} hrun := by
    obtain ⟨hresult, rfl⟩ := Dialogue.ofOption_eq_ok.1 hrun
    exact ⟨[], [], ⟨hresult, rfl, rfl⟩, .refl stream'⟩
  exists_run := by
    rintro value _ _ ⟨hresult, rfl, rfl⟩ stream rest hsound hpending
    exact ⟨stream, Dialogue.ofOption_eq_ok.2 ⟨hresult, rfl⟩, hsound, hpending, (List.append_nil _).symm⟩

theorem ofExcept (result : Except IoError α) :
    Means (Dialogue.ofExcept result) fun value received sent => result = .ok value ∧ received = [] ∧ sent = [] :=
  (ofOption (some result)).of_iff fun _ _ _ => by rw [Option.some.injEq]

theorem writeAll (bytes : Bytes) :
    Means (writing (Sink.writeAll bytes)) fun _ received sent => received = [] ∧ sent = bytes where
  run_meaning {stream stream' _} hrun := by
    obtain ⟨hwrite, hinput⟩ := writing_eq.1 hrun
    exact ⟨[], bytes, ⟨rfl, rfl⟩, by rw [hinput]; rfl, Sink.writeAll_ok hwrite⟩
  exists_run := by
    rintro _ _ _ ⟨rfl, rfl⟩ ⟨input, written, script⟩ rest ⟨hclean, hscript⟩ hpending
    obtain rfl : script = [] := hscript
    exact ⟨⟨input, ⟨written ++ _, []⟩⟩, rfl, ⟨hclean, rfl⟩, hpending, rfl⟩

theorem flush : Means (writing Sink.flush) fun _ received sent => received = [] ∧ sent = [] where
  run_meaning {stream stream' _} hrun := by
    obtain ⟨hflush, hinput⟩ := writing_eq.1 hrun
    have hwritten := Sink.flush_written stream.output
    rw [hflush] at hwritten
    exact ⟨[], [], ⟨rfl, rfl⟩, by rw [hinput]; rfl, by rw [hwritten, List.append_nil]⟩
  exists_run := by
    rintro _ _ _ ⟨rfl, rfl⟩ ⟨input, written, script⟩ rest ⟨hclean, hscript⟩ hpending
    obtain rfl : script = [] := hscript
    exact ⟨⟨input, ⟨written, []⟩⟩, rfl, ⟨hclean, rfl⟩, hpending, (List.append_nil _).symm⟩

theorem writeFlushed (bytes : Bytes) :
    Means (writeFlushed bytes) fun _ received sent => received = [] ∧ sent = bytes := by
  apply ((writeAll bytes).bind fun _ => flush).of_iff
  intro value received sent
  constructor
  · rintro ⟨_, _, _, _, _, ⟨rfl, rfl⟩, ⟨rfl, rfl⟩, rfl, rfl⟩
    exact ⟨rfl, List.append_nil _⟩
  · rintro ⟨rfl, rfl⟩
    exact ⟨(), [], [], _, [], ⟨rfl, rfl⟩, ⟨rfl, rfl⟩, rfl, (List.append_nil _).symm⟩

/-- A read whose results are known from the bytes that it takes. -/
theorem reading {read : Source → Except IoError α × Source} {meaning : α → Bytes → Prop}
    (hrun : ∀ {input input' value}, read input = (.ok value, input') →
      ∃ received, meaning value received ∧ pending input = received ++ pending input')
    (hexists : ∀ {value received}, meaning value received → ∀ {input : Source} {rest}, Clean input →
      pending input = received ++ rest → ∃ input', read input = (.ok value, input') ∧ Clean input' ∧ pending input' = rest) :
    Means (reading read) fun value received sent => meaning value received ∧ sent = [] where
  run_meaning {stream stream' value} h := by
    obtain ⟨hread, houtput⟩ := reading_eq.1 h
    obtain ⟨received, hmeaning, hpending⟩ := hrun hread
    exact ⟨received, [], ⟨hmeaning, rfl⟩, hpending, by rw [houtput, List.append_nil]⟩
  exists_run := by
    rintro value received _ ⟨hmeaning, rfl⟩ ⟨input, output⟩ rest ⟨hclean, hscript⟩ hpending
    obtain ⟨input', hread, hclean', hrest⟩ := hexists hmeaning hclean hpending
    exact ⟨⟨input', output⟩, reading_eq.2 ⟨hread, rfl⟩, ⟨hclean', hscript⟩, hrest, (List.append_nil _).symm⟩

end Means

/-! ### Segments -/

/-- On a clean reader the operation does what it does on the slice of the pending bytes. -/
def ReadsPending (read : ∀ (ρ : Type) [Reader ρ], ρ → Except IoError α × ρ) : Prop :=
  ∀ (ρ : Type) [Reader ρ] (stream : ρ), Clean stream → ∃ stream', Clean stream' ∧
    read ρ stream = ((read Bytes (pending stream)).1, stream') ∧ pending stream' = (read Bytes (pending stream)).2

theorem readsPending_readExact (n : Nat) : ReadsPending fun _ [Reader _] stream => readExact n stream := by
  intro ρ _ stream hclean
  obtain ⟨stream', hclean', hcases⟩ := @readExact_clean _ _ n stream hclean
  obtain ⟨slice', -, hslice⟩ := @readExact_clean Bytes _ n (pending stream) trivial
  obtain ⟨hle, hread, hrest⟩ | ⟨hlt, hread, hrest⟩ := hcases
  · obtain ⟨-, hread', hrest'⟩ | ⟨hlt, -⟩ := hslice
    · refine ⟨stream', hclean', ?_, ?_⟩
      · show readExact n stream = ((readExact n (pending stream)).1, stream')
        rw [hread, hread']
        rfl
      · show pending stream' = (readExact n (pending stream)).2
        rw [hread', hrest]
        exact hrest'.symm
    · exact absurd hle (Nat.not_le.2 hlt)
  · obtain ⟨hle, -⟩ | ⟨-, hread', hrest'⟩ := hslice
    · exact absurd hlt (Nat.not_lt.2 hle)
    · refine ⟨stream', hclean', ?_, ?_⟩
      · show readExact n stream = ((readExact n (pending stream)).1, stream')
        rw [hread, hread']
      · show pending stream' = (readExact n (pending stream)).2
        rw [hread', hrest]
        exact hrest'.symm

/-- The peers of two sockets send the same bytes and end without an error, perhaps in different segments. -/
structure SameStream (stream stream' : Endpoint) : Prop where
  clean : Clean stream.input
  clean' : Clean stream'.input
  pending_eq : pending stream.input = pending stream'.input
  output_eq : stream.output = stream'.output

theorem respects_reading {read : ∀ (ρ : Type) [Reader ρ], ρ → Except IoError α × ρ} (h : ReadsPending read) :
    Dialogue.Respects SameStream (reading (read Source)) := by
  apply Dialogue.respects_step
  intro stream stream' hsame
  obtain ⟨input, hclean, hread, hpending⟩ := h Source stream.input hsame.clean
  obtain ⟨input', hclean', hread', hpending'⟩ := h Source stream'.input hsame.clean'
  rw [hread, hread', ← hsame.pending_eq]
  refine ⟨rfl, hclean, hclean', ?_, hsame.output_eq⟩
  show pending input = pending input'
  rw [hpending, hpending', hsame.pending_eq]

theorem respects_writing (write : Sink → Except IoError Unit × Sink) :
    Dialogue.Respects SameStream (writing write) := by
  apply Dialogue.respects_step
  intro stream stream' hsame
  rw [hsame.output_eq]
  exact ⟨rfl, hsame.clean, hsame.clean', hsame.pending_eq, rfl⟩

theorem respects_writeFlushed (bytes : Bytes) : Dialogue.Respects SameStream (writeFlushed bytes) :=
  (respects_writing _).bind fun _ => respects_writing _

end Conversation

end BareProxy
