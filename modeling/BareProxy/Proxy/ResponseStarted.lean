import BareProxy.Proxy.Exchange
import BareProxy.Proxy.ResponseLines

/-!
# Errors before and after a response has started

Every error raised once a byte of a final head may have reached the client is `ResponseStarted`. So an
exchange that fails with any other error has sent the client at most complete interim heads.
-/

namespace BareProxy.Proxy

open Http Config Reader

variable {ρ : Type} [Reader ρ]

/-! ### The streamers -/

/-- Every error a direction can report lies in `P`. -/
structure ChunkedErrors.Within (errors : ChunkedErrors) (P : ProxyError → Prop) : Prop where
  read : ∀ e, P (errors.read e)
  write : ∀ e, P (errors.write e)
  lineRead : ∀ kind message, P (errors.line (.clientRead kind message))
  lineInvalid : ∀ message, P (errors.line (.invalidClientBody message))
  size : ∀ message, P (errors.size (.invalidClientBody message))
  trailer : ∀ message, P (errors.trailer (.invalidClientBody message))
  dataEof : P errors.dataEof
  dataEnding : P errors.dataEnding
  trailersTooLarge : P errors.trailersTooLarge
  tooManyTrailers : P errors.tooManyTrailers

theorem copyExact_error {errors : StreamErrors} {P : ProxyError → Prop} (hread : ∀ e, P (errors.read e))
    (hwrite : ∀ e, P (errors.write e)) {eof : ProxyError} (heof : P eof) {remaining : Nat} {r r' : ρ} {w w' : Sink}
    {e : ProxyError} (h : copyExact errors eof remaining r w = (.error e, r', w')) : P e := by
  fun_induction copyExact errors eof remaining r w <;> grind

theorem copyToEnd_error {errors : StreamErrors} {P : ProxyError → Prop} (hread : ∀ e, P (errors.read e))
    (hwrite : ∀ e, P (errors.write e)) {r r' : ρ} {w w' : Sink} {e : ProxyError}
    (h : copyToEnd errors r w = (.error e, r', w')) : P e := by
  fun_induction copyToEnd errors r w <;> grind

theorem readChunkLineLoop_error {maximumSize : Nat} {line : Bytes} {r r' : ρ} {e : ProxyError}
    (h : readChunkLineLoop maximumSize line r = (.error e, r')) :
    (∃ kind message, e = .clientRead kind message) ∨ ∃ message, e = .invalidClientBody message := by
  fun_induction readChunkLineLoop maximumSize line r <;> grind [clientReadError]

theorem parseChunkSize_error {line : Bytes} {e : ProxyError} (h : parseChunkSize line = .error e) :
    ∃ message, e = .invalidClientBody message := by
  grind [parseChunkSize]

theorem validateTrailerLine_error {line : Bytes} {e : ProxyError} (h : validateTrailerLine line = .error e) :
    ∃ message, e = .invalidClientBody message := by
  grind [validateTrailerLine]

theorem streamTrailers_error {errors : ChunkedErrors} {P : ProxyError → Prop} (herrors : errors.Within P)
    {count bytes : Nat} {r r' : ρ} {w w' : Sink} {e : ProxyError}
    (h : streamTrailers errors count bytes r w = (.error e, r', w')) : P e := by
  obtain ⟨hread, hwrite, hlineRead, hlineInvalid, hsize, htrailer, -, -, hlarge, hmany⟩ := herrors
  fun_induction streamTrailers errors count bytes r w <;>
    grind [readChunkLine, readChunkLineLoop_error, validateTrailerLine_error]

theorem streamChunked_error {errors : ChunkedErrors} {P : ProxyError → Prop} (herrors : errors.Within P)
    {r r' : ρ} {w w' : Sink} {e : ProxyError} (h : streamChunked errors r w = (.error e, r', w')) : P e := by
  have htrailers := fun r w r' w' e => @streamTrailers_error ρ _ errors P herrors 0 0 r r' w w' e
  have hcopy := fun size r w r' w' e =>
    @copyExact_error ρ _ errors.toStreamErrors P herrors.read herrors.write _ herrors.dataEof size r r' w w' e
  obtain ⟨hread, hwrite, hlineRead, hlineInvalid, hsize, htrailer, heof, hending, hlarge, hmany⟩ := herrors
  fun_induction streamChunked errors r w <;>
    grind [readChunkLine, readChunkLineLoop_error, parseChunkSize_error]

/-- The errors that tell the caller that bytes of a final response may be out. -/
def IsResponseStarted (error : ProxyError) : Prop := ∃ message, error = .responseStarted message

theorem responseChunkedErrors_within : responseChunkedErrors.Within IsResponseStarted where
  read _ := ⟨_, rfl⟩
  write _ := ⟨_, rfl⟩
  lineRead _ _ := ⟨_, rfl⟩
  lineInvalid _ := ⟨_, rfl⟩
  size _ := ⟨_, rfl⟩
  trailer _ := ⟨_, rfl⟩
  dataEof := ⟨_, rfl⟩
  dataEnding := ⟨_, rfl⟩
  trailersTooLarge := ⟨_, rfl⟩
  tooManyTrailers := ⟨_, rfl⟩

theorem writeBuffered_error {bytes : Bytes} {w w' : Sink} {e : ProxyError}
    (h : writeBuffered responseErrors bytes w = (.error e, w')) : IsResponseStarted e := by
  unfold writeBuffered at h
  split at h
  · split at h <;> cases h
    exact ⟨_, rfl⟩
  · cases h

theorem streamResponseBody_error {final : FinalHead} {upstream upstream' : ρ} {client client' : Sink}
    {buffered : Bytes} {e : ProxyError}
    (h : streamResponseBody final upstream client buffered = (.error e, upstream', client')) :
    IsResponseStarted e := by
  have hread : ∀ e, IsResponseStarted (responseErrors.read e) := fun _ => ⟨_, rfl⟩
  have hwrite : ∀ e, IsResponseStarted (responseErrors.write e) := fun _ => ⟨_, rfl⟩
  unfold streamResponseBody at h
  split at h
  · unfold streamChunkedResponseBody at h
    cases hchunked : streamChunked responseChunkedErrors (PrefixedReader.mk buffered upstream) client with
    | mk result state =>
      obtain ⟨reader, client₁⟩ := state
      rw [hchunked] at h
      cases h
      exact streamChunked_error responseChunkedErrors_within hchunked
  · unfold streamFixedResponseBody streamFixed at h
    dsimp only at h
    split at h
    · rename_i hbuffered
      cases h
      exact writeBuffered_error hbuffered
    · exact copyExact_error hread hwrite ⟨_, rfl⟩ h
  · unfold streamCloseDelimitedResponseBody at h
    split at h
    · rename_i hbuffered
      cases h
      exact writeBuffered_error hbuffered
    · exact copyToEnd_error hread hwrite h

/-! ### Forwarding -/

/-- The client was sent complete interim heads and nothing else. -/
def SentInterims (client client' : Sink) : Prop :=
  ∃ heads : List Bytes, (∀ head ∈ heads, IsInterimHead head) ∧ client'.written = client.written ++ heads.flatten

theorem SentInterims.refl (client : Sink) : SentInterims client client := ⟨[], by simp, by simp⟩

theorem SentInterims.trans {first second third : Sink} (h : SentInterims first second)
    (h' : SentInterims second third) : SentInterims first third := by
  obtain ⟨heads, hheads, hwritten⟩ := h
  obtain ⟨heads', hheads', hwritten'⟩ := h'
  refine ⟨heads ++ heads', ?_, ?_⟩
  · intro head hhead
    rcases List.mem_append.1 hhead with hhead | hhead
    · exact hheads head hhead
    · exact hheads' head hhead
  · rw [hwritten', hwritten, List.flatten_append, List.append_assoc]

theorem writeClient_error {bytes : Bytes} {client client' : Sink} {e : ProxyError}
    (h : writeClient bytes client = (.error e, client')) : IsResponseStarted e := by
  unfold writeClient at h
  split at h <;> cases h
  exact ⟨_, rfl⟩

theorem flushClient_error {client client' : Sink} {e : ProxyError}
    (h : flushClient client = (.error e, client')) : IsResponseStarted e := by
  unfold flushClient at h
  split at h <;> cases h
  exact ⟨_, rfl⟩

theorem sendHead_error {head : Bytes} {client client' : Sink} {e : ProxyError}
    (h : sendHead head client = (.error e, client')) : IsResponseStarted e := by
  unfold sendHead at h
  split at h
  · rename_i hwrite
    cases h
    exact writeClient_error hwrite
  · exact flushClient_error h

theorem writeClient_ok {bytes : Bytes} {client client' : Sink} (h : writeClient bytes client = (.ok (), client')) :
    client'.written = client.written ++ bytes := by
  unfold writeClient at h
  split at h <;> cases h
  rename_i hwrite
  exact Sink.writeAll_ok hwrite

theorem flushClient_ok {client client' : Sink} (h : flushClient client = (.ok (), client')) :
    client'.written = client.written := by
  have hflush := Sink.flush_written client
  unfold flushClient at h
  split at h <;> cases h
  rename_i heq
  rw [heq] at hflush
  exact hflush

theorem sendHead_ok {head : Bytes} {client client' : Sink} (h : sendHead head client = (.ok (), client')) :
    client'.written = client.written ++ head := by
  unfold sendHead at h
  split at h
  · cases h
  · rename_i hwrite
    rw [flushClient_ok h, writeClient_ok hwrite]

/-- An interim head is sent whole, or nothing is sent, or the error says that something may be out. -/
theorem forwardInterimHead_sent {head : Bytes} (hhead : IsResponseHead head) {status : Nat}
    (hstatus : responseStatusCode head = .ok status) (hinterim : isInterimResponse status = true)
    {client client' : Sink} {result : Except ProxyError Unit}
    (h : forwardInterimHead head client = (result, client'))
    (hresult : ∀ e, result = .error e → ¬IsResponseStarted e) : SentInterims client client' := by
  unfold forwardInterimHead at h
  split at h
  · cases h
    exact .refl client
  · rename_i output hsanitize
    cases result with
    | error e => exact absurd (sendHead_error h) (hresult e rfl)
    | ok =>
      refine ⟨[output], ?_, by rw [sendHead_ok h]; simp⟩
      simpa using sanitizeResponseHead_interim hhead hstatus hinterim hsanitize

theorem forwardSwitchingProtocols_error {head body : Bytes} {requested : Option (List Bytes)}
    {client client' : Sink} {e : ProxyError} (hstarted : ¬IsResponseStarted e)
    (h : forwardSwitchingProtocols head body requested client = (.error e, client')) : client' = client := by
  unfold forwardSwitchingProtocols at h
  split at h
  · cases h
    rfl
  · split at h
    · cases h
      rfl
    · split at h
      · cases h
        rfl
      · split at h
        · rename_i hwrite
          cases h
          exact absurd (writeClient_error hwrite) hstarted
        · split at h
          · rename_i hwrite
            cases h
            exact absurd (writeClient_error hwrite) hstarted
          · split at h <;> cases h
            rename_i hflush
            exact absurd (flushClient_error hflush) hstarted

theorem forwardBodiless_error {head : Bytes} {client client' : Sink} {e : ProxyError}
    (hstarted : ¬IsResponseStarted e) (h : forwardBodiless head client = (.error e, client')) :
    client' = client := by
  unfold forwardBodiless at h
  dsimp only at h
  split at h
  · cases h
    rfl
  · split at h <;> cases h
    rename_i hsend
    exact absurd (sendHead_error hsend) hstarted

theorem forwardWithBody_error {head body : Bytes} {upstream upstream' : ρ} {client client' : Sink} {e : ProxyError}
    (hstarted : ¬IsResponseStarted e)
    (h : forwardWithBody head body upstream client = (.error e, upstream', client')) : client' = client := by
  unfold forwardWithBody at h
  split at h
  · cases h
    rfl
  · split at h
    · rename_i hwrite
      cases h
      exact absurd (writeClient_error hwrite) hstarted
    · split at h
      · rename_i hstream
        cases h
        exact absurd (streamResponseBody_error hstream) hstarted
      · split at h <;> cases h
        rename_i hflush
        exact absurd (flushClient_error hflush) hstarted

/-- A forwarding that fails before the final head has sent interim heads only. -/
theorem forwardResponse_error {upstream upstream' : ρ} {client client' : Sink} {requestMethod buffered : Bytes}
    {requested : Option (List Bytes)} {e : ProxyError} (hstarted : ¬IsResponseStarted e)
    (h : forwardResponse upstream client requestMethod buffered requested = (.error e, upstream', client')) :
    SentInterims client client' := by
  fun_induction forwardResponse upstream client requestMethod buffered requested with
  | case1 =>
    cases h
    exact .refl _
  | case2 =>
    cases h
    exact .refl _
  | case3 =>
    rename_i hswitch _
    cases h
    rw [forwardSwitchingProtocols_error hstarted hswitch]
    exact .refl _
  | case4 _ client _ head rest _ hread status hstatus _ hinterim e' client₁ hforward =>
    cases h
    exact forwardInterimHead_sent (readResponseHead_ok hread).1 hstatus hinterim hforward (by grind)
  | case5 _ client _ head rest _ hread status hstatus _ hinterim client₁ hforward ih =>
    exact (forwardInterimHead_sent (readResponseHead_ok hread).1 hstatus hinterim hforward (by simp)).trans (ih h)
  | case6 _ client _ head rest _ hread status hstatus _ _ _ outcome client₁ hforward =>
    cases h
    rw [forwardBodiless_error hstarted hforward]
    exact .refl _
  | case7 =>
    rw [forwardWithBody_error hstarted h]
    exact .refl _

/-- While the proxy waits for 100 Continue it sends interim heads only, unless a final response came. -/
theorem awaitContinueLoop_sent {upstream upstream' : ρ} {client client' : Sink} {requestMethod buffered : Bytes}
    {requested : Option (List Bytes)} {result : Except ProxyError ContinueOutcome}
    (hstarted : ∀ e, result = .error e → ¬IsResponseStarted e)
    (hfinal : result ≠ .ok .finalResponseForwarded)
    (h : awaitContinueLoop upstream client requestMethod buffered requested = (result, upstream', client')) :
    SentInterims client client' := by
  fun_induction awaitContinueLoop upstream client requestMethod buffered requested with
  | case1 =>
    cases h
    exact .refl _
  | case2 =>
    cases h
    exact .refl _
  | case3 =>
    cases h
    exact .refl _
  | case4 =>
    cases h
    exact forwardInterimHead_sent (readResponseHead_ok ‹readResponseHead _ _ = _›).1
      ‹responseStatusCode _ = _› (by decide) ‹forwardInterimHead _ _ = _› (by grind)
  | case5 =>
    cases h
    exact forwardInterimHead_sent (readResponseHead_ok ‹readResponseHead _ _ = _›).1
      ‹responseStatusCode _ = _› (by decide) ‹forwardInterimHead _ _ = _› (by simp)
  | case6 =>
    cases h
    exact forwardInterimHead_sent (readResponseHead_ok ‹readResponseHead _ _ = _›).1
      ‹responseStatusCode _ = _› ‹isInterimResponse _ = true› ‹forwardInterimHead _ _ = _› (by grind)
  | case7 =>
    rename_i ih
    have hsent := forwardInterimHead_sent (readResponseHead_ok ‹readResponseHead _ _ = _›).1
      ‹responseStatusCode _ = _› ‹isInterimResponse _ = true› ‹forwardInterimHead _ _ = _› (by simp)
    exact hsent.trans (ih h)
  | case8 =>
    rename_i hforward
    cases h
    exact forwardResponse_error (hstarted _ rfl) hforward
  | case9 =>
    cases h
    exact absurd rfl hfinal

/-! ### Exchanges -/

theorem awaitContinue_sent {request : Request} {requested : Option (List Bytes)}
    {client client' upstream upstream' : Endpoint} {result : Except ProxyError ContinueOutcome}
    (hstarted : ∀ e, result = .error e → ¬IsResponseStarted e)
    (hfinal : result ≠ .ok .finalResponseForwarded)
    (h : awaitContinue request requested client upstream = (result, client', upstream')) :
    SentInterims client.output client'.output := by
  unfold awaitContinue at h
  split at h
  · split at h
    · cases h
      exact .refl _
    · rename_i upstream₁ _
      cases hloop : awaitContinueOrFinalResponse upstream₁.input client.output request.method requested with
      | mk outcome state =>
        rw [hloop] at h
        cases h
        exact awaitContinueLoop_sent hstarted hfinal hloop
  · cases h
    exact .refl _

/-- A request body is read from the client and sent upstream: nothing is sent to the client. -/
theorem sendBody_output {request : Request} {bufferedBody : Bytes} {client client' upstream upstream' : Endpoint}
    {result : Except ProxyError Bytes}
    (h : sendBody request bufferedBody client upstream = (result, client', upstream')) :
    client'.output = client.output := by
  unfold sendBody at h
  split at h
  · cases h
    rfl
  · split at h <;> cases h <;> rfl

theorem exchangeOn_error {net : StdNet} {request : Request} {requested : Option (List Bytes)} {bufferedBody : Bytes}
    {clientIp : IpAddr} {proto : ForwardedProto} {client client' upstream upstream' : Endpoint} {e : ProxyError}
    (hstarted : ¬IsResponseStarted e)
    (h : exchangeOn net request requested bufferedBody clientIp proto client upstream =
      (.error e, client', upstream')) : SentInterims client.output client'.output := by
  unfold exchangeOn at h
  split at h
  · cases h
    exact .refl _
  · split at h
    · cases h
      exact .refl _
    · split at h
      · rename_i hawait
        cases h
        exact awaitContinue_sent (by grind) (by simp) hawait
      · cases h
      · rename_i hawait
        have hinterims := awaitContinue_sent (by simp) (by simp) hawait
        split at h
        · rename_i hbody
          cases h
          rwa [sendBody_output hbody]
        · rename_i hbody
          rw [← sendBody_output hbody] at hinterims
          split at h
          · cases h
            exact hinterims
          · split at h
            · rename_i hforward
              cases h
              exact hinterims.trans (forwardResponse_error hstarted hforward)
            · cases h

/-- An exchange that fails with any error but `ResponseStarted` has sent the client interim heads only. -/
theorem exchangeWithProto_error {net : StdNet} {route : Route} {request : Request} {bufferedBody : Bytes}
    {clientIp : IpAddr} {proto : ForwardedProto} {state state' : ExchangeState} {e : ProxyError}
    (hstarted : ¬IsResponseStarted e)
    (h : exchangeWithProto net route request bufferedBody clientIp proto state = (.error e, state')) :
    SentInterims state.client.output state'.client.output := by
  unfold exchangeWithProto at h
  split at h
  · cases h
    exact .refl _
  · dsimp only at h
    split at h
    · cases h
      exact .refl _
    · split at h
      · rename_i hexchange
        cases h
        exact exchangeOn_error hstarted hexchange
      · cases h
      · cases h
      · cases h

end BareProxy.Proxy
