import BareProxy.Proxy.Exchange
import BareProxy.Proxy.Forwarded
import BareProxy.Proxy.RequestFraming

/-!
# The connection kept for reuse

A session keeps an upstream connection after an exchange when the client connection can go on. The
connection is where its peer thinks it is when every byte read from it so far belongs to a response that
was forwarded. That holds over every run in which no exchange reads past its response while it looks for
the end of the final head, and in which every request passes the check of its `Upgrade` fields.
-/

namespace BareProxy.Proxy

open Http Config Reader

/-! ### One exchange -/

theorem sendBody_input {request : Request} {bufferedBody : Bytes} {client client' upstream upstream' : Endpoint}
    {result : Except ProxyError Bytes}
    (h : sendBody request bufferedBody client upstream = (result, client', upstream')) :
    upstream'.input = upstream.input := by
  unfold sendBody at h
  split at h
  · cases h
    rfl
  · split at h <;> cases h <;> rfl

theorem awaitContinue_forwards {request : Request} {requested : Option (List Bytes)} {buffered : Bytes}
    {client client₁ upstream upstream₁ : Endpoint} {reusable : Bool} {input : Source} {output : Sink}
    (h : awaitContinue request requested client upstream = (.ok (.continue buffered), client₁, upstream₁))
    (forwarded : ForwardedHttp request.method reusable upstream₁.input input client₁.output output buffered) :
    Nonempty (ForwardedHttp request.method reusable upstream.input input client.output output []) := by
  unfold awaitContinue at h
  split at h
  · split at h
    · cases h
    · rename_i upstream₂ hflush
      cases hloop : awaitContinueOrFinalResponse upstream₂.input client.output request.method requested with
      | mk outcome state =>
        rw [hloop] at h
        cases h
        rw [← (flushUpstream_written hflush).2]
        exact awaitContinueLoop_forwards hloop forwarded
  · cases h
    exact ⟨forwarded⟩

/-- An exchange that ends with `Http` has moved one response. -/
theorem exchangeOn_http {net : StdNet} {request : Request} {requested : Option (List Bytes)}
    {bufferedBody rest : Bytes} {clientIp : IpAddr} {proto : ForwardedProto} {reusable : Bool}
    {client client' upstream upstream' : Endpoint}
    (h : exchangeOn net request requested bufferedBody clientIp proto client upstream =
      (.ok (.response rest (.http reusable)), client', upstream')) :
    Nonempty (ForwardedHttp request.method reusable upstream.input upstream'.input client.output client'.output []) := by
  obtain ⟨head, output, buffered, client₁, upstream₁, client₂, upstream₂, upstream₃, -, -, hawait, hsend, hflush, hforward,
    -, -⟩ := exchangeOn_response_cases h
  obtain ⟨forwarded⟩ := forwardResponse_http hforward
  rw [(flushUpstream_written hflush).2, sendBody_input hsend, sendBody_output hsend] at forwarded
  have hforwarded := awaitContinue_forwards hawait forwarded
  exact hforwarded

/-! ### Runs of exchanges -/

/-- One call of `exchange_with_proto`, with the client and the network it meets. -/
structure ExchangeCall where
  route : Route
  request : Request
  bufferedBody : Bytes
  clientIp : IpAddr
  forwardedProto : ForwardedProto
  client : Endpoint
  network : Network

def ExchangeCall.run (net : StdNet) (call : ExchangeCall) (session : Session) :
    Except ProxyError ExchangeResult × ExchangeState :=
  exchangeWithProto net call.route call.request call.bufferedBody call.clientIp call.forwardedProto
    { session, network := call.network, client := call.client }

/-- What was read past the final head is no more than the body of the response. -/
def NoSurplus (requestMethod head rest : Bytes) : Prop :=
  ∀ sent body surplus, IsFinalResponse requestMethod False head sent body → rest = body ++ surplus → surplus = []

/-- The `Upgrade` fields of the request pass their check when a connection is kept, and the reads that complete a
final head after which the connection may be kept do not go past the response. -/
structure StaysInResponse (call : ExchangeCall) (session : Session) : Prop where
  upgrade : session.upstream = none ∨ ∃ requested, requestUpgradeProtocols call.request = .ok requested
  reads : ∀ stream network head rest,
    takeUpstream call.route.upstream.address session call.network = (.ok stream, network) →
    FinalHeadRead stream.input [] head rest → MayKeep head → NoSurplus call.request.method head rest

/-- The sessions reached by calls that all stay within their responses. -/
inductive SessionRun (net : StdNet) (upstreamTimeoutSeconds : Nat) : List ExchangeCall → Session → Prop
  | new : SessionRun net upstreamTimeoutSeconds [] (Session.new upstreamTimeoutSeconds)
  | call {calls : List ExchangeCall} {session : Session} {call : ExchangeCall}
      (hrun : SessionRun net upstreamTimeoutSeconds calls session) (hstays : StaysInResponse call session) :
      SessionRun net upstreamTimeoutSeconds (calls ++ [call]) (call.run net session).2.session

/-- An exchange that a kept connection has served: the request that was sent and the response that was
forwarded for it. -/
structure ServedExchange (net : StdNet) where
  call : ExchangeCall
  session : Session
  head : Bytes
  body : Bytes
  response : ForwardedResponse call.request.method False
  isHead : serializeRequestHead net call.request call.clientIp call.forwardedProto = .ok head
  isBody : IsRequestBody call.request body
  forwarded : (call.run net session).2.client.output.written = call.client.output.written ++ response.sent

/-- The whole life of a kept connection: it was opened by one of the calls, and since then exactly the
requests and the responses of these exchanges have gone over it. -/
structure AtBoundary (net : StdNet) (calls : List ExchangeCall) (opened stream : Endpoint)
    (served : List (ServedExchange net)) : Prop where
  wasOpened : ∃ call ∈ calls, ∃ network,
    call.network.openConnection call.route.upstream.address = (.ok opened, network)
  ofCalls : ∀ exchange ∈ served, exchange.call ∈ calls
  ne_nil : served ≠ []
  requests : stream.output.written =
    opened.output.written ++ served.flatMap fun exchange => exchange.head ++ exchange.body
  responses : pending opened.input = served.flatMap (fun exchange => exchange.response.received) ++ pending stream.input

/-- A kept connection is at a response boundary. -/
def KeptAtBoundary (net : StdNet) (calls : List ExchangeCall) (session : Session) : Prop :=
  ∀ connection, session.upstream = some connection →
    ∃ opened served, AtBoundary net calls opened connection.stream served

/-- A call that keeps a connection, when its request passed the check of its `Upgrade` fields. -/
theorem ExchangeCall.run_keeps {net : StdNet} {call : ExchangeCall} {session : Session}
    {requested : Option (List Bytes)} (hupgrade : requestUpgradeProtocols call.request = .ok requested)
    {connection : UpstreamConnection} (h : (call.run net session).2.session.upstream = some connection) :
    ∃ taken network rest, takeUpstream call.route.upstream.address session call.network = (.ok taken, network) ∧
      exchangeOn net call.request requested call.bufferedBody call.clientIp call.forwardedProto call.client taken =
        (.ok (.response rest (.http true)), (call.run net session).2.client, connection.stream) ∧
      (call.run net session).1 = .ok ⟨rest, true, false⟩ ∧ connection.address = call.route.upstream.address := by
  unfold ExchangeCall.run exchangeWithProto at h ⊢
  rw [hupgrade] at h ⊢
  dsimp only at h ⊢
  split at h
  · cases h
  · rename_i taken network htake
    split at h
    · cases h
    · cases h
    · rename_i rest reusable client stream hexchange
      cases reusable with
      | false => cases h
      | true =>
        cases h
        exact ⟨taken, network, rest, htake, hexchange, rfl, rfl⟩
    · cases h

/-- A call that keeps a connection where none was kept before has passed the check of its `Upgrade` fields. -/
theorem StaysInResponse.upgrade_ok {net : StdNet} {call : ExchangeCall} {session : Session}
    (hstays : StaysInResponse call session) {connection : UpstreamConnection}
    (h : (call.run net session).2.session.upstream = some connection) :
    ∃ requested, requestUpgradeProtocols call.request = .ok requested := by
  rcases hstays.upgrade with hnone | hok
  · cases hupgrade : requestUpgradeProtocols call.request with
    | ok requested => exact ⟨requested, rfl⟩
    | error e =>
      unfold ExchangeCall.run exchangeWithProto at h
      rw [hupgrade] at h
      dsimp only at h
      rw [hnone] at h
      cases h
  · exact hok

/-- What has gone over a connection that is kept. -/
theorem exchangeWithProto_keeps {net : StdNet} {call : ExchangeCall} {session : Session}
    {requested : Option (List Bytes)} (hupgrade : requestUpgradeProtocols call.request = .ok requested)
    {connection : UpstreamConnection} (h : (call.run net session).2.session.upstream = some connection) :
    ∃ taken network head body, takeUpstream call.route.upstream.address session call.network = (.ok taken, network) ∧
      serializeRequestHead net call.request call.clientIp call.forwardedProto = .ok head ∧
      IsRequestBody call.request body ∧
      connection.stream.output.written = taken.output.written ++ head ++ body ∧
      Nonempty (ForwardedHttp call.request.method true taken.input connection.stream.input call.client.output
        (call.run net session).2.client.output []) ∧
      ∃ result, (call.run net session).1 = .ok result ∧ result.clientReusable = true := by
  obtain ⟨taken, network, rest, htake, hexchange, hresult, -⟩ := ExchangeCall.run_keeps hupgrade h
  obtain ⟨head, body, hhead, hbody, -, hwritten, -⟩ := exchangeOn_response hexchange
  exact ⟨taken, network, head, body, htake, hhead, hbody, hwritten, exchangeOn_http hexchange, _, hresult, rfl⟩

/-- An exchange that stays within its response has read exactly the response. -/
theorem ForwardedHttp.exact {requestMethod : Bytes} {upstream upstream' : Source} {client client' : Sink}
    (forwarded : ForwardedHttp requestMethod true upstream upstream' client client' [])
    (h : ∀ head rest, FinalHeadRead upstream [] head rest → MayKeep head → NoSurplus requestMethod head rest) :
    ∃ response : ForwardedResponse requestMethod False,
      pending upstream = response.received ++ pending upstream' ∧ client'.written = client.written ++ response.sent := by
  obtain ⟨surplus, response, rest, hfinal, hsurplus, hkeep, hbytes, hwritten⟩ := forwarded
  have hend : ¬(true = false ∧ (Clean upstream → surplus ++ pending upstream' = [])) := by simp
  have hnil : surplus = [] := by
    rcases hsurplus with hnil | hrest
    · exact hnil
    · exact h _ _ hfinal (hkeep rfl) _ _ _ (response.isFinal.imp hend) hrest
  subst hnil
  exact ⟨response.imp hend, by simpa using hbytes, hwritten⟩

theorem takeUpstream_cases {address : Bytes} {session : Session} {network network' : Network} {taken : Endpoint}
    (h : takeUpstream address session network = (.ok taken, network')) :
    (∃ connection, session.upstream = some connection ∧ connection.stream = taken) ∨
      network.openConnection address = (.ok taken, network') := by
  unfold takeUpstream at h
  split at h
  · rename_i connection hconnection
    split at h
    · cases h
      exact Or.inl ⟨connection, hconnection, rfl⟩
    · exact Or.inr h
  · exact Or.inr h

/-- One more exchange on a connection that is at a boundary, or new, leaves it at a boundary. -/
theorem keptAtBoundary_call {net : StdNet} {calls : List ExchangeCall} {session : Session} {call : ExchangeCall}
    (hsession : KeptAtBoundary net calls session) (hstays : StaysInResponse call session) :
    KeptAtBoundary net (calls ++ [call]) (call.run net session).2.session := by
  intro connection hkept
  obtain ⟨requested, hupgrade⟩ := hstays.upgrade_ok hkept
  obtain ⟨taken, network, head, body, htake, hhead, hbody, hwritten, ⟨forwarded⟩, -⟩ :=
    exchangeWithProto_keeps hupgrade hkept
  obtain ⟨response, hbytes, hsent⟩ :=
    forwarded.exact fun head rest => hstays.reads taken network head rest htake
  let exchange : ServedExchange net := ⟨call, session, head, body, response, hhead, hbody, hsent⟩
  rcases takeUpstream_cases htake with ⟨pooled, hpooled, rfl⟩ | hopen
  · obtain ⟨opened, served, hboundary⟩ := hsession pooled hpooled
    refine ⟨opened, served ++ [exchange], ?_, ?_, by simp, ?_, ?_⟩
    · obtain ⟨first, hfirst, hopened⟩ := hboundary.wasOpened
      exact ⟨first, List.mem_append_left _ hfirst, hopened⟩
    · intro other hother
      rcases List.mem_append.1 hother with hother | hother
      · exact List.mem_append_left _ (hboundary.ofCalls other hother)
      · rw [List.mem_singleton.1 hother]
        exact List.mem_append_right _ (List.mem_singleton.2 rfl)
    · rw [hwritten, hboundary.requests]
      simp [exchange]
    · rw [hboundary.responses, hbytes]
      simp [exchange]
  · refine ⟨taken, [exchange], ⟨call, by simp, network, hopen⟩, by simp [exchange], by simp, ?_, ?_⟩
    · rw [hwritten]
      simp [exchange]
    · rw [hbytes]
      simp [exchange]

/-- In every session reached by calls that stay within their responses, the connection kept for reuse is at
a response boundary; and a further such call that fails, or does not let the client connection go on,
keeps no connection. -/
theorem exchangeWithProto_keptAtBoundary (net : StdNet) (upstreamTimeoutSeconds : Nat) {calls : List ExchangeCall}
    {session : Session} (hrun : SessionRun net upstreamTimeoutSeconds calls session) :
    KeptAtBoundary net calls session ∧
      ∀ call, StaysInResponse call session →
        (∀ result, (call.run net session).1 = .ok result → result.clientReusable = false) →
        (call.run net session).2.session.upstream = none := by
  refine ⟨?_, ?_⟩
  · induction hrun with
    | new =>
      intro connection hkept
      cases hkept
    | call hrun hstays ih => exact keptAtBoundary_call ih hstays
  · intro call hstays hends
    cases hkept : (call.run net session).2.session.upstream with
    | none => rfl
    | some connection =>
      obtain ⟨requested, hupgrade⟩ := hstays.upgrade_ok hkept
      obtain ⟨-, -, -, -, -, -, -, -, -, result, hok, hreusable⟩ := exchangeWithProto_keeps hupgrade hkept
      rw [hends result hok] at hreusable
      cases hreusable

/-! ### A run that stays within its response, and calls that do not -/

def helloCall (network : Network) : ExchangeCall where
  route := ⟨ascii "a", ⟨ascii "b", 80⟩⟩
  request := helloRequest
  bufferedBody := []
  clientIp := loopback
  forwardedProto := .http
  client := ⟨⟨[]⟩, Sink.accepting []⟩
  network := network

def noContent : Bytes := ascii "HTTP/1.1 204 N\r\n\r\n"

/-- The network that opens one connection, to an upstream that sends these bytes at once. -/
def answering (response : Bytes) : Network :=
  [.ok [⟨false, .ok ⟨Source.ofSegments [response], Sink.accepting []⟩, .ok ()⟩]]

theorem helloCall_stays : StaysInResponse (helloCall (answering noContent)) (Session.new 10) := by
  refine ⟨Or.inl rfl, ?_⟩
  intro stream network head rest htake hfinal _
  cases htake
  have hread : readResponseHead (Source.ofSegments [noContent]) [] = (.ok (noContent, []), ⟨[]⟩) := by decide +kernel
  have hrest : rest = [] := by
    cases hfinal with
    | final hread' hstatus hinterim =>
      rw [hread] at hread'
      cases hread'
      rfl
    | interim hread' hstatus hinterim hnext =>
      rw [hread] at hread'
      cases hread'
      have hcode : responseStatusCode noContent = .ok 204 := by decide +kernel
      rw [hcode] at hstatus
      cases hstatus
      cases hinterim
  subst hrest
  intro sent body surplus _ hsplit
  exact (List.append_eq_nil_iff.1 hsplit.symm).2

theorem exchangeWithProto_keptAtBoundary_hello :
    KeptAtBoundary ipv4Net [helloCall (answering noContent)]
      ((helloCall (answering noContent)).run ipv4Net (Session.new 10)).2.session :=
  (exchangeWithProto_keptAtBoundary ipv4Net 10 (.call .new helloCall_stays)).1

/-- A head ends at its first blank line, so there is only one at the front of a stream. -/
theorem IsResponseHead.unique {first second rest rest' : Bytes} (hfirst : IsResponseHead first)
    (hsecond : IsResponseHead second) (h : first ++ rest = second ++ rest') : first = second := by
  have hindex : some (first.length - 4) = some (second.length - 4) := by
    rw [← indexOfSub_append_left rest hfirst.blankLine, h, ← indexOfSub_append_left rest' hsecond.blankLine]
  have hfour := hfirst.four_le
  have hfour' := hsecond.four_le
  have hlength : first.length = second.length := by
    rw [Option.some.injEq] at hindex
    omega
  exact List.append_inj_left h hlength

theorem ForwardedResponse.four_le {requestMethod : Bytes} {atEnd : Prop}
    (response : ForwardedResponse requestMethod atEnd) : 4 ≤ response.received.length := by
  have hfour := response.isHead.four_le
  simp only [received, List.length_append]
  omega

/-- A stream that starts with a final head without a body starts with no other response. -/
theorem ForwardedResponse.received_bodiless {requestMethod head tail more : Bytes} {status : Nat}
    (response : ForwardedResponse requestMethod False) (hhead : IsResponseHead head)
    (hstatus : responseStatusCode head = .ok status) (hfinal : isInterimResponse status = false)
    (hbody : responseHasNoBody requestMethod status = true) (h : response.received ++ tail = head ++ more) :
    response.received = head := by
  obtain ⟨interims, final, sentHead, body, hinterims, hisHead, hisFinal⟩ := response
  unfold received at h ⊢
  dsimp only at h ⊢
  cases interims with
  | cons interim interims =>
    obtain ⟨hinterimHead, ⟨code, hcode, hinterim⟩, -⟩ := hinterims interim List.mem_cons_self
    simp only [List.flatMap_cons, List.append_assoc] at h
    rw [hinterimHead.unique hhead h, hstatus] at hcode
    cases hcode
    rw [hfinal] at hinterim
    cases hinterim
  | nil =>
    simp only [List.flatMap_nil, List.nil_append, List.append_assoc] at h ⊢
    have heq := hisHead.unique hhead h
    subst heq
    have hnone : ∀ code, responseStatusCode final = .ok code → responseHasNoBody requestMethod code ≠ false := by
      intro code hcode
      rw [hstatus] at hcode
      cases hcode
      rw [hbody]
      simp
    cases hisFinal with
    | bodiless => simp
    | chunked hcode hsome => exact absurd hsome (hnone _ hcode)
    | fixed hcode hsome => exact absurd hsome (hnone _ hcode)
    | toEnd hcode hsome => exact absurd hsome (hnone _ hcode)

def surplusCall : ExchangeCall := helloCall (answering (noContent ++ [88]))

/-- The byte after the response has been read and is lost. -/
theorem surplusCall_not_atBoundary :
    ¬KeptAtBoundary ipv4Net [surplusCall] (surplusCall.run ipv4Net (Session.new 10)).2.session := by
  intro hkept
  have hstream : (surplusCall.run ipv4Net (Session.new 10)).2.session.upstream =
      some ⟨ascii "b:80", ⟨⟨[]⟩, Sink.accepting helloHead⟩⟩ := by
    decide +kernel
  obtain ⟨opened, served, hboundary⟩ := hkept _ hstream
  obtain ⟨call, hcall, network, hopened⟩ := hboundary.wasOpened
  rw [List.mem_singleton.1 hcall] at hopened
  cases hopened
  have hresponses := hboundary.responses
  change noContent ++ [88] ++ [] = _ ++ [] at hresponses
  rw [List.append_nil, List.append_nil] at hresponses
  have hhead : IsResponseHead noContent := ⟨by decide, by decide +kernel, by decide +kernel⟩
  cases served with
  | nil => exact hboundary.ne_nil rfl
  | cons exchange served =>
    have hmethod : exchange.call.request.method = ascii "GET" := by
      rw [List.mem_singleton.1 (hboundary.ofCalls exchange List.mem_cons_self)]
      decide
    rw [List.flatMap_cons] at hresponses
    have hreceived : exchange.response.received = noContent :=
      exchange.response.received_bodiless hhead (by decide +kernel : responseStatusCode noContent = .ok 204)
        (by decide) (by rw [hmethod]; decide) hresponses.symm
    rw [hreceived, List.append_cancel_left_eq] at hresponses
    cases served with
    | nil => cases hresponses
    | cons second served =>
      have hfour := second.response.four_le
      have hlength := congrArg List.length hresponses
      simp only [List.flatMap_cons, List.length_append, List.length_singleton] at hlength
      omega

/-- The session after a response without a body, with the connection kept. -/
def keptSession : Session := ((helloCall (answering noContent)).run ipv4Net (Session.new 10)).2.session

/-- A request with an `Upgrade` field that its `Connection` field does not name. -/
def unnamedUpgradeCall : ExchangeCall :=
  { helloCall [] with
    request := { helloRequest with headers := helloRequest.headers ++ [⟨ascii "Upgrade", ascii "a"⟩] } }

/-- A connection is kept after a byte past the response was read and dropped, and one stays kept when an
exchange fails at the `Upgrade` fields of its request. -/
theorem exchangeWithProto_keeps_wrongly :
    ¬KeptAtBoundary ipv4Net [surplusCall] (surplusCall.run ipv4Net (Session.new 10)).2.session ∧
    (unnamedUpgradeCall.run ipv4Net keptSession).1 =
      .error (.invalidClientBody "Upgrade header requires Connection: Upgrade") ∧
    (unnamedUpgradeCall.run ipv4Net keptSession).2.session.upstream ≠ none :=
  ⟨surplusCall_not_atBoundary, by decide +kernel, by decide +kernel⟩

end BareProxy.Proxy
