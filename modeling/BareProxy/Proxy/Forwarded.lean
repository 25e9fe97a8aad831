import BareProxy.Proxy.CleanReads
import BareProxy.Proxy.Sanitized

/-!
# What a completed forwarding has moved

A forwarding that ends with `Http` has taken the interim heads, the final head and the body of one
response from the upstream and has sent their sanitized heads and the body. What it had read past the
end of the response is dropped: that surplus is never sent, and there is some only when the reads that
completed the final head went past the response.
-/

namespace BareProxy.Proxy

open Http Reader

variable {ρ : Type} [Reader ρ]

/-! ### Responses -/

/-- An interim head as received, and as sent. -/
structure IsInterim (head sent : Bytes) : Prop where
  isHead : IsResponseHead head
  isInterim : ∃ status, responseStatusCode head = .ok status ∧ isInterimResponse status = true
  isSent : sanitizeResponseHead head none false false = .ok sent

/-- A final response: its head as received and as sent, and its body. A body that is ended by the
connection needs `atEnd`. -/
inductive IsFinalResponse (requestMethod : Bytes) (atEnd : Prop) (head : Bytes) : Bytes → Bytes → Prop
  | bodiless {status : Nat} {sent : Bytes} (hstatus : responseStatusCode head = .ok status)
      (hbody : responseHasNoBody requestMethod status = true)
      (hsent : sanitizeResponseHead head
        (downstreamConnectionHeader head (responseAllowsClientReuse head false)) false false = .ok sent) :
      IsFinalResponse requestMethod atEnd head sent []
  | chunked {status : Nat} {final : FinalHead} {body : Bytes} (hstatus : responseStatusCode head = .ok status)
      (hbody : responseHasNoBody requestMethod status = false) (hfinal : finalHead head = .ok final)
      (hframing : final.transferFraming = .chunked) (hmessage : ChunkedMessage body) :
      IsFinalResponse requestMethod atEnd head final.head body
  | fixed {status : Nat} {final : FinalHead} {body : Bytes} (hstatus : responseStatusCode head = .ok status)
      (hbody : responseHasNoBody requestMethod status = false) (hfinal : finalHead head = .ok final)
      (hframing : final.transferFraming ≠ .chunked) (hlength : final.contentLength = some body.length) :
      IsFinalResponse requestMethod atEnd head final.head body
  | toEnd {status : Nat} {final : FinalHead} {body : Bytes} (hstatus : responseStatusCode head = .ok status)
      (hbody : responseHasNoBody requestMethod status = false) (hfinal : finalHead head = .ok final)
      (hframing : final.transferFraming ≠ .chunked) (hlength : final.contentLength = none) (hend : atEnd) :
      IsFinalResponse requestMethod atEnd head final.head body

theorem IsFinalResponse.imp {requestMethod : Bytes} {atEnd atEnd' : Prop} (himp : atEnd → atEnd') {head sent body : Bytes}
    (h : IsFinalResponse requestMethod atEnd head sent body) : IsFinalResponse requestMethod atEnd' head sent body := by
  cases h with
  | bodiless hstatus hbody hsent => exact .bodiless hstatus hbody hsent
  | chunked hstatus hbody hfinal hframing hmessage => exact .chunked hstatus hbody hfinal hframing hmessage
  | fixed hstatus hbody hfinal hframing hlength => exact .fixed hstatus hbody hfinal hframing hlength
  | toEnd hstatus hbody hfinal hframing hlength hend =>
    exact .toEnd hstatus hbody hfinal hframing hlength (himp hend)

/-- A forwarded response: its interim heads, as received and as sent, and the final response. -/
structure ForwardedResponse (requestMethod : Bytes) (atEnd : Prop) where
  interims : List (Bytes × Bytes)
  head : Bytes
  sentHead : Bytes
  body : Bytes
  isInterim : ∀ interim ∈ interims, IsInterim interim.1 interim.2
  isHead : IsResponseHead head
  isFinal : IsFinalResponse requestMethod atEnd head sentHead body

namespace ForwardedResponse

variable {requestMethod : Bytes} {atEnd : Prop}

def received (response : ForwardedResponse requestMethod atEnd) : Bytes :=
  response.interims.flatMap Prod.fst ++ response.head ++ response.body

def sent (response : ForwardedResponse requestMethod atEnd) : Bytes :=
  response.interims.flatMap Prod.snd ++ response.sentHead ++ response.body

def imp {atEnd' : Prop} (response : ForwardedResponse requestMethod atEnd) (himp : atEnd → atEnd') :
    ForwardedResponse requestMethod atEnd' :=
  { response with isFinal := response.isFinal.imp himp }

/-- The same response with one more interim head in front. -/
def cons (response : ForwardedResponse requestMethod atEnd) {head sentHead : Bytes} (h : IsInterim head sentHead) :
    ForwardedResponse requestMethod atEnd where
  interims := (head, sentHead) :: response.interims
  head := response.head
  sentHead := response.sentHead
  body := response.body
  isInterim := by
    intro interim hmem
    rcases List.mem_cons.1 hmem with rfl | hmem
    · exact h
    · exact response.isInterim interim hmem
  isHead := response.isHead
  isFinal := response.isFinal

@[simp] theorem received_imp {atEnd' : Prop} (response : ForwardedResponse requestMethod atEnd)
    (himp : atEnd → atEnd') : (response.imp himp).received = response.received := rfl

@[simp] theorem sent_imp {atEnd' : Prop} (response : ForwardedResponse requestMethod atEnd)
    (himp : atEnd → atEnd') : (response.imp himp).sent = response.sent := rfl

@[simp] theorem received_cons (response : ForwardedResponse requestMethod atEnd) {head sentHead : Bytes}
    (h : IsInterim head sentHead) : (response.cons h).received = head ++ response.received := by
  simp [received, cons]

@[simp] theorem sent_cons (response : ForwardedResponse requestMethod atEnd) {head sentHead : Bytes}
    (h : IsInterim head sentHead) : (response.cons h).sent = sentHead ++ response.sent := by
  simp [sent, cons]

end ForwardedResponse

/-- Heads are read one after the other, and `head` is the first that is not interim; `rest` was read past
it. -/
inductive FinalHeadRead : ρ → Bytes → Bytes → Bytes → Prop
  | final {upstream upstream' : ρ} {buffered head rest : Bytes} {status : Nat}
      (hread : readResponseHead upstream buffered = (.ok (head, rest), upstream'))
      (hstatus : responseStatusCode head = .ok status) (hfinal : isInterimResponse status = false) :
      FinalHeadRead upstream buffered head rest
  | interim {upstream upstream' : ρ} {buffered interim more head rest : Bytes} {status : Nat}
      (hread : readResponseHead upstream buffered = (.ok (interim, more), upstream'))
      (hstatus : responseStatusCode interim = .ok status) (hinterim : isInterimResponse status = true)
      (hnext : FinalHeadRead upstream' more head rest) : FinalHeadRead upstream buffered head rest

/-! ### The branches -/

theorem forwardInterimHead_ok {head : Bytes} {client client' : Sink}
    (h : forwardInterimHead head client = (.ok (), client')) :
    ∃ sent, sanitizeResponseHead head none false false = .ok sent ∧ client'.written = client.written ++ sent := by
  unfold forwardInterimHead at h
  split at h
  · cases h
  · rename_i sent hsanitize
    exact ⟨sent, hsanitize, sendHead_ok h⟩

/-- A response that switches protocols is sent with what was read past it. -/
theorem forwardSwitchingProtocols_ok {head body : Bytes} {requested : Option (List Bytes)} {client client' : Sink}
    {outcome : ForwardResponseOutcome}
    (h : forwardSwitchingProtocols head body requested client = (.ok outcome, client')) :
    outcome = .upgraded ∧ ∃ sent, sanitizeResponseHead head (some (ascii "Upgrade")) false true = .ok sent ∧
      client'.written = client.written ++ sent ++ body := by
  unfold forwardSwitchingProtocols at h
  split at h
  · cases h
  · split at h
    · cases h
    · split at h
      · cases h
      · rename_i sent hsanitize
        split at h
        · cases h
        · rename_i client₁ hhead
          split at h
          · cases h
          · rename_i client₂ hbody
            split at h <;> cases h
            rename_i hflush
            refine ⟨rfl, sent, hsanitize, ?_⟩
            rw [flushClient_ok hflush, writeClient_ok hbody, writeClient_ok hhead]

theorem forwardBodiless_ok {requestMethod head : Bytes} {status : Nat} {atEnd : Prop}
    (hstatus : responseStatusCode head = .ok status) (hbody : responseHasNoBody requestMethod status = true)
    {client client' : Sink} {outcome : ForwardResponseOutcome}
    (h : forwardBodiless head client = (.ok outcome, client')) :
    ∃ sent, IsFinalResponse requestMethod atEnd head sent [] ∧ client'.written = client.written ++ sent := by
  unfold forwardBodiless at h
  dsimp only at h
  split at h
  · cases h
  · rename_i sent hsanitize
    split at h <;> cases h
    rename_i hsend
    exact ⟨sent, .bodiless hstatus hbody hsanitize, sendHead_ok hsend⟩

theorem forwardBodiless_ne_upgraded {head : Bytes} {client client' : Sink} :
    forwardBodiless head client ≠ (.ok .upgraded, client') := by
  intro h
  unfold forwardBodiless at h
  dsimp only at h
  split at h
  · cases h
  · split at h <;> cases h

/-- Once a read has gone to the inner reader, nothing is left of the prefix. -/
theorem PrefixedReader.closed_inner (upstream : ρ) :
    Closed fun r : PrefixedReader ρ => r.remainingPrefix = [] ∨ r.inner = upstream := by
  intro n r result r' hr h
  have hread : PrefixedReader.read n r = (result, r') := h
  unfold PrefixedReader.read at hread
  split at hread
  · cases hread
    exact hr
  · split at hread
    · rename_i hne
      cases hread
      exact Or.inr (hr.resolve_left hne)
    · rename_i hempty
      cases hread
      exact Or.inl (by simpa using hempty)

/-- What was read past a response: none of it, unless all of the body was already there. -/
def IsSurplus (rest body surplus : Bytes) : Prop := surplus = [] ∨ rest = body ++ surplus

theorem streamChunkedResponseBody_surplus {upstream upstream' : ρ} {client client' : Sink} {rest : Bytes}
    (h : streamChunkedResponseBody upstream client rest = (.ok (), upstream', client')) :
    ∃ message surplus, ChunkedMessage message ∧ rest ++ pending upstream = message ++ surplus ++ pending upstream' ∧
      client'.written = client.written ++ message ∧ IsSurplus rest message surplus := by
  unfold streamChunkedResponseBody at h
  cases hchunked : streamChunked responseChunkedErrors (PrefixedReader.mk rest upstream) client with
  | mk result state =>
    obtain ⟨reader, client₁⟩ := state
    rw [hchunked] at h
    cases h
    obtain ⟨message, hmessage, hpending, hwritten⟩ := streamChunked_ok hchunked
    have hbytes : rest ++ pending upstream = message ++ reader.remainingPrefix ++ pending reader.inner := by
      rw [List.append_assoc]
      exact hpending
    refine ⟨message, reader.remainingPrefix, hmessage, hbytes, hwritten, ?_⟩
    have hinner := streamChunked_closed
      (P := fun r => r.remainingPrefix = [] ∨ r.inner = upstream) (PrefixedReader.closed_inner upstream)
      (Or.inr rfl) hchunked
    refine hinner.imp id fun heq => ?_
    rw [heq] at hbytes
    exact List.append_cancel_right hbytes

theorem streamFixedResponseBody_surplus {upstream upstream' : ρ} {client client' : Sink} {contentLength : Nat}
    {rest : Bytes} (h : streamFixedResponseBody upstream client contentLength rest = (.ok (), upstream', client')) :
    ∃ body surplus, body.length = contentLength ∧
      rest ++ pending upstream = body ++ surplus ++ pending upstream' ∧
      client'.written = client.written ++ body ∧ IsSurplus rest body surplus := by
  obtain ⟨body, hlength, hbytes, hwritten⟩ := streamFixed_ok h
  refine ⟨body, _, hlength, hbytes, hwritten, ?_⟩
  rcases Nat.le_total rest.length contentLength with hle | hle
  · left
    rw [Nat.min_eq_left hle, List.drop_length]
  · right
    rw [Nat.min_eq_right hle] at hbytes ⊢
    have hbody : body = rest.take contentLength := by
      have htake := congrArg (List.take contentLength) hbytes
      rw [List.append_assoc, ← hlength, List.take_left, hlength, List.take_append_of_le_length hle] at htake
      exact htake.symm
    rw [hbody, List.take_append_drop]

/-- A response that the connection ends is no reason to keep the client. -/
theorem finalHead_reusable {head : Bytes} {final : FinalHead} (h : finalHead head = .ok final)
    (hframing : final.transferFraming ≠ .chunked) (hlength : final.contentLength = none) :
    final.clientReusable = false := by
  unfold finalHead at h
  dsimp only at h
  simp only [bind_eq_ok] at h
  obtain ⟨transferFraming, -, contentLength, -, h⟩ := h
  split at h
  · cases h
  · simp only [bind_eq_ok] at h
    obtain ⟨sent, -, h⟩ := h
    cases h
    simp_all [responseAllowsClientReuse]

/-- The body of a response with this head ends with the connection. -/
def isCloseDelimited (head : Bytes) : Bool :=
  match responseTransferFraming (headerBytes head), responseContentLength (headerBytes head) with
  | .ok transferFraming, .ok contentLength => contentLength.isNone && transferFraming ≠ .chunked
  | _, _ => false

theorem finalHead_ok {head : Bytes} {final : FinalHead} (h : finalHead head = .ok final) :
    final.clientReusable = responseAllowsClientReuse head (isCloseDelimited head) ∧
      ∃ preserveTrailer, sanitizeResponseHead head (downstreamConnectionHeader head final.clientReusable)
        preserveTrailer false = .ok final.head := by
  unfold finalHead at h
  dsimp only at h
  simp only [bind_eq_ok] at h
  obtain ⟨transferFraming, hframing, contentLength, hlength, h⟩ := h
  split at h
  · cases h
  · simp only [bind_eq_ok] at h
    obtain ⟨sent, hsent, h⟩ := h
    cases h
    refine ⟨?_, _, hsent⟩
    rw [isCloseDelimited, headerBytes, hframing, hlength]

theorem forwardBodiless_outcome {head : Bytes} {client client' : Sink} {outcome : ForwardResponseOutcome}
    (h : forwardBodiless head client = (.ok outcome, client')) :
    outcome = .http (responseAllowsClientReuse head false) := by
  unfold forwardBodiless at h
  dsimp only at h
  split at h
  · cases h
  · split at h <;> cases h
    rfl

theorem forwardWithBody_outcome {head rest : Bytes} {upstream upstream' : ρ} {client client' : Sink}
    {outcome : ForwardResponseOutcome}
    (h : forwardWithBody head rest upstream client = (.ok outcome, upstream', client')) :
    outcome = .http (responseAllowsClientReuse head (isCloseDelimited head)) := by
  unfold forwardWithBody at h
  split at h
  · cases h
  · rename_i final hfinal
    split at h
    · cases h
    · split at h
      · cases h
      · split at h <;> cases h
        rw [(finalHead_ok hfinal).1]

/-- The head does not switch protocols, and the response lets the client connection go on. -/
def MayKeep (head : Bytes) : Prop :=
  responseStatusCode head ≠ .ok 101 ∧ responseAllowsClientReuse head false = true

theorem mayKeep_of_reuse {head : Bytes} {status : Nat} (hstatus : responseStatusCode head = .ok status)
    (hswitch : ¬status = 101) {closeDelimited : Bool} (h : responseAllowsClientReuse head closeDelimited = true) :
    MayKeep head := by
  refine ⟨?_, ?_⟩
  · rw [hstatus]
    intro hcode
    exact hswitch (Except.ok.inj hcode)
  · cases closeDelimited with
    | false => exact h
    | true => cases h

/-- A forwarded body, with what is left of the bytes that were read past the head. -/
theorem forwardWithBody_ok {requestMethod head rest : Bytes} {status : Nat}
    (hstatus : responseStatusCode head = .ok status) (hbody : responseHasNoBody requestMethod status = false)
    {upstream upstream' : ρ} {client client' : Sink} {reusable : Bool}
    (h : forwardWithBody head rest upstream client = (.ok (.http reusable), upstream', client')) :
    ∃ sent body surplus, IsFinalResponse requestMethod
        (reusable = false ∧ (Clean upstream → surplus ++ pending upstream' = [])) head sent body ∧
      rest ++ pending upstream = body ++ surplus ++ pending upstream' ∧
      client'.written = client.written ++ sent ++ body ∧ IsSurplus rest body surplus := by
  unfold forwardWithBody at h
  split at h
  · cases h
  · rename_i final hfinal
    split at h
    · cases h
    · rename_i client₁ hhead
      split at h
      · cases h
      · rename_i upstream₁ client₂ hstream
        split at h <;> cases h
        rename_i hflush
        have hwritten := flushClient_ok hflush
        unfold streamResponseBody at hstream
        split at hstream
        · rename_i hframing
          obtain ⟨message, surplus, hmessage, hbytes, hsent, hsurplus⟩ := streamChunkedResponseBody_surplus hstream
          refine ⟨final.head, message, surplus, .chunked hstatus hbody hfinal hframing hmessage, hbytes, ?_, hsurplus⟩
          rw [hwritten, hsent, writeClient_ok hhead]
        · rename_i contentLength hlength hframing
          obtain ⟨body, surplus, rfl, hbytes, hsent, hsurplus⟩ := streamFixedResponseBody_surplus hstream
          refine ⟨final.head, body, surplus, .fixed hstatus hbody hfinal hframing hlength, hbytes, ?_, hsurplus⟩
          rw [hwritten, hsent, writeClient_ok hhead]
        · rename_i hlength hframing
          obtain ⟨body, hbytes, hsent, hend⟩ := streamCloseDelimitedResponseBody_ok hstream
          have hreusable := finalHead_reusable hfinal hframing hlength
          refine ⟨final.head, body, [], .toEnd hstatus hbody hfinal hframing hlength ⟨hreusable, hend⟩,
            by simpa using hbytes, ?_, Or.inl rfl⟩
          rw [hwritten, hsent, writeClient_ok hhead]

/-! ### Forwarding -/

/-- A forwarding that ended with `Http`: the response, and what was read past it. -/
structure ForwardedHttp (requestMethod : Bytes) (reusable : Bool) (upstream upstream' : ρ) (client client' : Sink)
    (buffered : Bytes) where
  surplus : Bytes
  response : ForwardedResponse requestMethod
    (reusable = false ∧ (Clean upstream → surplus ++ pending upstream' = []))
  rest : Bytes
  finalHead : FinalHeadRead upstream buffered response.head rest
  isSurplus : IsSurplus rest response.body surplus
  mayKeep : reusable = true → MayKeep response.head
  bytes : buffered ++ pending upstream = response.received ++ surplus ++ pending upstream'
  written : client'.written = client.written ++ response.sent

/-- An interim head that was forwarded before. -/
theorem ForwardedHttp.interim {requestMethod buffered head rest : Bytes} {reusable : Bool}
    {upstream upstream₁ upstream' : ρ} {client client₁ client' : Sink} {status : Nat}
    (hread : readResponseHead upstream buffered = (.ok (head, rest), upstream₁))
    (hstatus : responseStatusCode head = .ok status) (hinterim : isInterimResponse status = true)
    (hforward : forwardInterimHead head client = (.ok (), client₁))
    (forwarded : ForwardedHttp requestMethod reusable upstream₁ upstream' client₁ client' rest) :
    Nonempty (ForwardedHttp requestMethod reusable upstream upstream' client client' buffered) := by
  obtain ⟨hhead, hbytes, -⟩ := readResponseHead_ok hread
  obtain ⟨sent, hsent, hwritten⟩ := forwardInterimHead_ok hforward
  have hisInterim : IsInterim head sent := ⟨hhead, ⟨status, hstatus, hinterim⟩, hsent⟩
  have himp : (reusable = false ∧ (Clean upstream₁ → forwarded.surplus ++ pending upstream' = [])) →
      reusable = false ∧ (Clean upstream → forwarded.surplus ++ pending upstream' = []) :=
    fun hend => ⟨hend.1, fun hclean => hend.2 (readResponseHead_keepsClean hclean hread)⟩
  refine ⟨forwarded.surplus, (forwarded.response.imp himp).cons hisInterim, forwarded.rest,
    .interim hread hstatus hinterim forwarded.finalHead, forwarded.isSurplus, forwarded.mayKeep, ?_, ?_⟩
  · rw [hbytes, List.append_assoc, forwarded.bytes]
    simp
  · rw [forwarded.written, hwritten]
    simp

/-- A forwarding that ends with `Http` has moved one response. -/
theorem forwardResponse_http {upstream upstream' : ρ} {client client' : Sink} {requestMethod buffered : Bytes}
    {requested : Option (List Bytes)} {reusable : Bool}
    (h : forwardResponse upstream client requestMethod buffered requested =
      (.ok (.http reusable), upstream', client')) :
    Nonempty (ForwardedHttp requestMethod reusable upstream upstream' client client' buffered) := by
  fun_induction forwardResponse upstream client requestMethod buffered requested with
  | case1 => cases h
  | case2 => cases h
  | case3 =>
    rename_i hswitch _
    cases h
    obtain ⟨hupgraded, -⟩ := forwardSwitchingProtocols_ok hswitch
    cases hupgraded
  | case4 => cases h
  | case5 upstream client buffered head rest upstream₁ hread status hstatus _ hinterim client₁ hforward ih =>
    obtain ⟨forwarded⟩ := ih h
    exact forwarded.interim hread hstatus hinterim hforward
  | case6 upstream client buffered head rest upstream₁ hread status hstatus hswitch hinterim hbody outcome client₁ hforward =>
    cases h
    have hreuse := ForwardResponseOutcome.http.inj (forwardBodiless_outcome hforward)
    obtain ⟨hhead, hbytes, -⟩ := readResponseHead_ok hread
    obtain ⟨sent, hfinal, hwritten⟩ := forwardBodiless_ok hstatus hbody hforward
    refine ⟨rest, ⟨[], head, sent, [], by simp, hhead, hfinal⟩, rest,
      .final hread hstatus (by simpa using hinterim), Or.inr rfl,
      fun hkeep => mayKeep_of_reuse hstatus hswitch (hreuse ▸ hkeep), ?_, ?_⟩
    · rw [hbytes]
      simp [ForwardedResponse.received]
    · rw [hwritten]
      simp [ForwardedResponse.sent]
  | case7 upstream client buffered head rest upstream₁ hread status hstatus hswitch hinterim hbody =>
    obtain ⟨hhead, hbytes, -⟩ := readResponseHead_ok hread
    have hreuse := ForwardResponseOutcome.http.inj (forwardWithBody_outcome h)
    obtain ⟨sent, body, surplus, hfinal, hrest, hwritten, hsurplus⟩ :=
      forwardWithBody_ok hstatus (by simpa using hbody) h
    have himp : (reusable = false ∧ (Clean upstream₁ → surplus ++ pending upstream' = [])) →
        reusable = false ∧ (Clean upstream → surplus ++ pending upstream' = []) :=
      fun hend => ⟨hend.1, fun hclean => hend.2 (readResponseHead_keepsClean hclean hread)⟩
    refine ⟨surplus, ⟨[], head, sent, body, by simp, hhead, hfinal.imp himp⟩, rest,
      .final hread hstatus (by simpa using hinterim), hsurplus,
      fun hkeep => mayKeep_of_reuse hstatus hswitch (hreuse ▸ hkeep), ?_, ?_⟩
    · rw [hbytes, List.append_assoc, hrest]
      simp [ForwardedResponse.received]
    · rw [hwritten]
      simp [ForwardedResponse.sent]

/-- Waiting for 100 Continue forwards interim heads, and what follows completes the response. -/
theorem awaitContinueLoop_forwards {upstream upstream₁ upstream' : ρ} {client client₁ client' : Sink}
    {requestMethod buffered rest : Bytes} {requested : Option (List Bytes)} {reusable : Bool}
    (h : awaitContinueLoop upstream client requestMethod buffered requested = (.ok (.continue rest), upstream₁, client₁))
    (forwarded : ForwardedHttp requestMethod reusable upstream₁ upstream' client₁ client' rest) :
    Nonempty (ForwardedHttp requestMethod reusable upstream upstream' client client' buffered) := by
  fun_induction awaitContinueLoop upstream client requestMethod buffered requested with
  | case1 => cases h
  | case2 => cases h
  | case3 => cases h
  | case4 => cases h
  | case5 =>
    cases h
    exact forwarded.interim ‹readResponseHead _ _ = _› ‹responseStatusCode _ = _› (by decide)
      ‹forwardInterimHead _ _ = _›
  | case6 => cases h
  | case7 =>
    rename_i ih
    obtain ⟨forwarded'⟩ := ih h
    exact forwarded'.interim ‹readResponseHead _ _ = _› ‹responseStatusCode _ = _› ‹isInterimResponse _ = true›
      ‹forwardInterimHead _ _ = _›
  | case8 => cases h
  | case9 => cases h

end BareProxy.Proxy
