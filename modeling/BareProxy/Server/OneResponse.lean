import BareProxy.Proxy.ResponseStarted
import BareProxy.Server.KeepAlive

/-!
# At most one final response for each request

An exchange that fails without `ResponseStarted` has sent interim heads only, so the error page that
follows is the first final response; a page, and a response that broke off, are the last thing that the
loop writes.
-/

namespace BareProxy.Server

open Http Proxy Reader

/-! ### Error pages -/

/-- A page: a complete head with a final status, and the body that its length announces. -/
structure IsPage (status : StatusCode) (body : String) (page : Bytes) : Prop where
  built : buildTextResponse status body = .ok page
  complete : ∃ head, page = head ++ ascii body ∧ IsCompleteHead head ∧ responseStatusCode head = .ok status.code
  final : 200 ≤ status.code

/-- The lines of the head of a page. -/
def pageFields (body : String) : List Bytes :=
  [ascii "Content-Type: text/plain; charset=utf-8", ascii ("Server: BareProxy/" ++ packageVersion),
    ascii "Connection: close", ascii "Content-Length: " ++ decimal (ascii body).length]

def pageStatusLine (status : StatusCode) : Bytes :=
  ascii "HTTP/1.1 " ++ decimal status.code ++ ascii " " ++ ascii status.reasonPhrase

theorem isPage_of_head {status : StatusCode} {body : String} {head : Bytes}
    (hbuilt : buildTextResponse status body = .ok (head ++ ascii body))
    (hhead : IsHeadOf head (pageStatusLine status) (pageFields body))
    (hstatus : responseStatusCode head = .ok status.code) (hfinal : 200 ≤ status.code) :
    IsPage status body (head ++ ascii body) where
  built := hbuilt
  complete := ⟨head, rfl, hhead.complete (statusLine_ne_nil hhead hstatus), hstatus⟩
  final := hfinal

def pageHead (status : StatusCode) (body : String) : Bytes :=
  unlines (pageStatusLine status :: pageFields body) ++ crlf

instance (line : Bytes) : Decidable (IsLine line) := inferInstanceAs (Decidable (_ ∧ _))

theorem isPage_errorStatus {status : StatusCode}
    (h : status ∈ [StatusCode.badRequest, .notFound, .badGateway, .gatewayTimeout]) :
    IsPage status (status.reasonPhrase ++ "\n")
      (pageHead status (status.reasonPhrase ++ "\n") ++ ascii (status.reasonPhrase ++ "\n")) := by
  have hchecks : ∀ status ∈ [StatusCode.badRequest, .notFound, .badGateway, .gatewayTimeout],
      buildTextResponse status (status.reasonPhrase ++ "\n") =
        .ok (pageHead status (status.reasonPhrase ++ "\n") ++ ascii (status.reasonPhrase ++ "\n")) ∧
      IsLine (pageStatusLine status) ∧
      (∀ field ∈ pageFields (status.reasonPhrase ++ "\n"), IsLine field ∧ field ≠ []) ∧
      responseStatusCode (pageHead status (status.reasonPhrase ++ "\n")) = .ok status.code ∧
      200 ≤ status.code := by
    decide +kernel
  obtain ⟨hbuilt, hstatusLine, hfields, hstatus, hfinal⟩ := hchecks status h
  exact isPage_of_head hbuilt ⟨rfl, hstatusLine, hfields⟩ hstatus hfinal

/-- The last thing written was this page: all of it, or what was taken of it when the write failed. An error is that of
the write or of the flush after it, so a client that takes everything gets the whole page. -/
structure EndsWithPage (status : StatusCode) (output : Sink) (result : Except IoError ConnectionOutcome)
    (output' : Sink) : Prop where
  page : ∃ page count, IsPage status (status.reasonPhrase ++ "\n") page ∧
    output'.written = output.written ++ page.take count ∧ (result = .ok .complete → page.take count = page) ∧
    ∀ e, result = .error e → output.writeAll page = (.error e, output') ∨
      ∃ written, output.writeAll page = (.ok (), written) ∧ written.flush = (.error e, output') ∧ page.take count = page
  accepting : (∀ call ∈ output.script, call = none) → result = .ok .complete
  result : result = .ok .complete ∨ ∃ e, result = .error e

theorem errorPage_ends {status : StatusCode}
    (h : status ∈ [StatusCode.badRequest, .notFound, .badGateway, .gatewayTimeout]) (connection : Connection) :
    ∃ result connection', errorPage status (status.reasonPhrase ++ "\n") connection = .done result connection' ∧
      EndsWithPage status connection.client.output result connection'.client.output := by
  have hpage := isPage_errorStatus h
  generalize pageHead status _ ++ ascii _ = page at hpage
  have haccepts := fun hscript => @Sink.writeAll_of_script connection.client.output hscript page
  unfold errorPage writeTextResponse
  rw [hpage.built]
  dsimp only
  rcases hwrite : connection.client.output.writeAll page with ⟨e | written, output⟩
  · obtain ⟨count, hcount⟩ := Sink.writeAll_error hwrite
    refine ⟨_, _, rfl, ⟨page, count, hpage, hcount, by simp, fun e' he => ?_⟩, fun hscript => ?_, Or.inr ⟨e, rfl⟩⟩
    · cases he
      exact Or.inl hwrite
    · obtain ⟨_, haccepted, -⟩ := haccepts hscript
      rw [hwrite] at haccepted
      cases haccepted
  · dsimp only
    have htake : page.take page.length = page := List.take_length
    rcases hflush : output.flush with ⟨e | flushed, output'⟩
    all_goals
      have hall : output'.written = connection.client.output.written ++ page.take page.length := by
        have hflushed := Sink.flush_written output
        rw [hflush] at hflushed
        rw [htake]
        exact hflushed.trans (Sink.writeAll_ok hwrite)
    · refine ⟨_, _, rfl, ⟨page, page.length, hpage, hall, by simp, fun e' he => ?_⟩, fun hscript => ?_, Or.inr ⟨e, rfl⟩⟩
      · cases he
        exact Or.inr ⟨output, hwrite, hflush, htake⟩
      · obtain ⟨_, haccepted, hrest⟩ := haccepts hscript
        rw [hwrite] at haccepted
        cases haccepted
        obtain ⟨_, hflushed⟩ := Sink.flush_of_script hrest
        rw [hflush] at hflushed
        cases hflushed
    · exact ⟨_, _, rfl, ⟨page, page.length, hpage, hall, fun _ => htake, fun e he => by cases he⟩, fun _ => rfl,
        Or.inl rfl⟩

/-! ### What follows an exchange that failed -/

/-- The status of the page for an error. -/
def pageStatus : ProxyError → StatusCode
  | .invalidClientBody _ => .badRequest
  | error => if error.isUpstreamTimeout then .gatewayTimeout else .badGateway

/-- The loop ends after an exchange that failed. It adds nothing to a response that was started or to a
client that could not be read, and answers every other error with a page. -/
inductive EndsAfter (error : ProxyError) (output : Sink) :
    Except IoError ConnectionOutcome → Sink → Prop
  | started (h : IsResponseStarted error) : EndsAfter error output (.ok .complete) output
  | clientRead {kind : ErrorKind} {message : String} (h : error = .clientRead kind message) :
      EndsAfter error output (.error ⟨kind, message⟩) output
  | page {result : Except IoError ConnectionOutcome} {output' : Sink} (hstarted : ¬IsResponseStarted error)
      (hread : ∀ kind message, error ≠ .clientRead kind message)
      (h : EndsWithPage (pageStatus error) output result output') : EndsAfter error output result output'

theorem afterExchange_error (request : Request) (error : ProxyError) (connection : Connection) :
    ∃ result connection', afterExchange request (.error error) connection = .done result connection' ∧
      EndsAfter error connection.client.output result connection'.client.output := by
  have hpage : ∀ status ∈ [StatusCode.badRequest, .notFound, .badGateway, .gatewayTimeout],
      status = pageStatus error → (∀ message, error ≠ .responseStarted message) →
      (∀ kind message, error ≠ .clientRead kind message) →
      ∃ result connection', errorPage status (status.reasonPhrase ++ "\n") connection = .done result connection' ∧
        EndsAfter error connection.client.output result connection'.client.output := by
    rintro status hstatus rfl hstarted hread
    obtain ⟨result, connection', hdone, hends⟩ := errorPage_ends hstatus connection
    refine ⟨result, connection', hdone, .page ?_ hread hends⟩
    intro hfacts
    obtain ⟨message, rfl⟩ := hfacts
    exact hstarted message rfl
  unfold afterExchange
  split
  · rename_i heq
    cases heq
  · rename_i message heq
    cases heq
    exact hpage .badRequest (by simp) rfl (by simp) (by simp)
  · rename_i kind message heq
    cases heq
    exact ⟨_, _, rfl, .clientRead rfl⟩
  · rename_i message heq
    cases heq
    exact ⟨_, _, rfl, .started ⟨message, rfl⟩⟩
  · rename_i error' hbody hread hstarted heq
    cases heq
    split
    · rename_i htimeout
      exact hpage .gatewayTimeout (by simp) (by simp [pageStatus, htimeout]) hstarted hread
    · rename_i htimeout
      exact hpage .badGateway (by simp) (by simp [pageStatus, htimeout]) hstarted hread

theorem handleConnectionLoop_of_done {environment : Environment} {connection connection' : Connection}
    {result : Except IoError ConnectionOutcome}
    (h : handleRequest environment connection = .done result connection') :
    handleConnectionLoop environment connection = (result, connection') := by
  rw [handleConnectionLoop]
  split
  · rename_i hnext
    rw [hnext] at h
    cases h
  · rename_i hdone
    rw [hdone] at h
    cases h
    rfl

theorem selectRoute_error {net : StdNet} {request : Request} {configuration : Config} {status : StatusCode}
    (h : selectRoute net request configuration = .error status) :
    status ∈ [StatusCode.badRequest, .notFound, .badGateway, .gatewayTimeout] := by
  unfold selectRoute at h
  split at h
  · cases h
    simp
  · split at h <;> cases h <;> simp

/-- Whatever the peers do and wherever a read or a write fails: an exchange whose error is not
`ResponseStarted` has sent complete interim heads and nothing else. And in the loop of
`handle_connection_io`, from any connection it can hold, a request that gets no route is answered by a
page, and one whose exchange fails as `EndsAfter` says; either way nothing follows and the loop ends. -/
theorem handleConnectionIo_oneFinalResponse :
    (∀ net route request bufferedBody clientIp proto state state' e,
      exchangeWithProto net route request bufferedBody clientIp proto state = (.error e, state') →
      ¬IsResponseStarted e → SentInterims state.client.output state'.client.output) ∧
    ∀ (environment : Environment) (connection : Connection) received input,
      readRequestHead connection.client.input connection.buffered = (.ok (some received), input) →
      (∀ status, selectRoute environment.net received.request environment.configuration = .error status →
        ∃ result connection', handleConnectionLoop environment connection = (result, connection') ∧
          EndsWithPage status connection.client.output result connection'.client.output) ∧
      ∀ route e state, selectRoute environment.net received.request environment.configuration = .ok route →
        exchangeWithProto environment.net route received.request received.bufferedBody environment.clientIp
          environment.forwardedProto
          { session := connection.session, network := connection.network,
            client := { connection.client with input } } = (.error e, state) →
        ∃ result connection', handleConnectionLoop environment connection = (result, connection') ∧
          EndsAfter e state.client.output result connection'.client.output := by
  refine ⟨?_, ?_⟩
  · intro net route request bufferedBody clientIp proto state state' e h hstarted
    exact exchangeWithProto_error hstarted h
  · intro environment connection received input hread
    refine ⟨?_, ?_⟩
    · intro status hroute
      obtain ⟨result, connection', hdone, hends⟩ := errorPage_ends (selectRoute_error hroute)
        { connection with client := { connection.client with input } }
      refine ⟨result, connection', handleConnectionLoop_of_done ?_, hends⟩
      rw [← hdone]
      simp only [handleRequest, hread, hroute]
    · intro route e state hroute hexchange
      obtain ⟨result, connection', hdone, hends⟩ := afterExchange_error received.request e
        { connection with client := state.client, session := state.session, network := state.network }
      refine ⟨result, connection', handleConnectionLoop_of_done ?_, hends⟩
      rw [← hdone]
      simp only [handleRequest, hread, hroute, hexchange]

/-- An upstream that answers with an interim head and then breaks off. -/
def brokenUpstream : Endpoint := ⟨Source.ofSegments [ascii "HTTP/1.1 103 E\r\n\r\nHTTP"], Sink.accepting []⟩

def brokenNetwork : Network := [.ok [⟨false, .ok brokenUpstream, .ok ()⟩]]

def brokenOutput : Sink := Sink.accepting (ascii "HTTP/1.1 103 E\r\n\r\n")

theorem handleConnectionIo_oneFinalResponse_broken :
    SentInterims (Sink.accepting []) brokenOutput ∧
    ∃ result connection',
      handleConnectionLoop helloEnvironment (Connection.start helloEnvironment helloClient brokenNetwork) =
        (result, connection') ∧
      EndsAfter .incompleteResponse brokenOutput result connection'.client.output := by
  obtain ⟨hexchange, hloop⟩ := handleConnectionIo_oneFinalResponse
  have hfailed : exchangeWithProto ipv4Net ⟨ascii "a", ⟨ascii "b", 80⟩⟩ helloRequest [] (.v4 #v[127, 0, 0, 1]) .http
      { session := Session.new 10, network := brokenNetwork, client := ⟨⟨[]⟩, Sink.accepting []⟩ } =
      (.error .incompleteResponse,
        { session := Session.new 10, network := [], client := ⟨⟨[]⟩, brokenOutput⟩ }) := by
    decide +kernel
  refine ⟨hexchange _ _ _ _ _ _ _ _ _ hfailed ?_, ?_⟩
  · intro hfacts
    obtain ⟨message, hmessage⟩ := hfacts
    cases hmessage
  · exact (hloop helloEnvironment (Connection.start helloEnvironment helloClient brokenNetwork)
      ⟨helloRequest, [], helloInput.length⟩ ⟨[]⟩ (by decide +kernel)).2 _ _ _ (by decide +kernel) hfailed

end BareProxy.Server
