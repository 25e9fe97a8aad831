import BareProxy.Http.Parse
import BareProxy.Proxy.Exchange
import BareProxy.Proxy.RequestFraming
import BareProxy.Server.Connection

/-!
# No client byte is lost on a keep-alive connection

The bytes of a connection sit in the carried buffer and in the unread stream. One pass of the loop cuts
a head and a body off the front of the two together, sends them upstream and carries the rest over, so
over a whole run the stream is the heads and bodies of the requests, in order, and then exactly what is
still carried or unread.
-/

namespace BareProxy.Server

open Http Proxy Reader

variable {ρ : Type} [Reader ρ]

/-- The head of a received request and the bytes after it are what was carried and read. -/
theorem readRequestHead_ok {reader reader' : ρ} {buffer : Bytes} {received : ReceivedRequest}
    (h : readRequestHead reader buffer = (.ok (some received), reader')) :
    ∃ head, parseRequestWithConsumed (head ++ received.bufferedBody) = .ok (received.request, head.length) ∧
      buffer ++ pending reader = head ++ received.bufferedBody ++ pending reader' ∧
      received.bytesRead = (head ++ received.bufferedBody).length ∧
      (head ++ received.bufferedBody).length ≤ max buffer.length maxRequestHeadSize := by
  fun_induction readRequestHead reader buffer with
  | case1 reader buffer request consumed hparse =>
    cases h
    obtain ⟨_, _, hends⟩ := parseRequestWithConsumed_ok hparse
    have hlen : (buffer.take consumed).length = consumed := by
      rw [List.length_take, Nat.min_eq_left hends.consumed_le_length]
    refine ⟨buffer.take consumed, ?_, ?_, ?_, ?_⟩
    · rw [List.take_append_drop, hlen]
      exact hparse
    · rw [List.take_append_drop]
    · rw [List.take_append_drop]
    · rw [List.take_append_drop]
      exact Nat.le_max_left _ _
  | case2 => cases h
  | case3 => cases h
  | case4 => cases h
  | case5 => cases h
  | case6 => cases h
  | case7 reader buffer error hparse hincomplete hshort capacity limit bytes reader₁ hread hne ih =>
    obtain ⟨head, hhead, hpending, hbytes, hbound⟩ := ih h
    obtain ⟨hpending₁, hle, -⟩ := read_ok hread
    refine ⟨head, hhead, ?_, hbytes, ?_⟩
    · rw [hpending₁, ← hpending, List.append_assoc]
    · simp only [List.length_append] at hbound ⊢
      omega

/-- A request that was relayed: the head as it was received, the head sent for it, and the body. -/
structure RelayedRequest where
  request : Request
  head : Bytes
  sent : Bytes
  body : Bytes

/-- A pass from `connection` to `connection'` relays this request and carries `carried` over: the head is
what the parser consumed, the body is framed as the request says, and the head sent for it and the body
are what was added to the stream that is kept. -/
structure Relays (environment : Environment) (connection connection' : Connection) (carried : Bytes)
    (relayed : RelayedRequest) : Prop where
  parsed : ∃ rest, parseRequestWithConsumed (relayed.head ++ rest) = .ok (relayed.request, relayed.head.length)
  body : IsRequestBody relayed.request relayed.body
  bytes : connection.buffered ++ pending connection.client.input =
    relayed.head ++ relayed.body ++ carried ++ pending connection'.client.input
  carried_le : carried.length ≤ max connection.buffered.length maxRequestHeadSize
  upstream : ∃ route taken stream upgraded,
    selectRoute environment.net relayed.request environment.configuration = .ok route ∧
    serializeRequestHead environment.net relayed.request environment.clientIp environment.forwardedProto =
      .ok relayed.sent ∧
    (takeUpstream route.upstream.address connection.session connection.network).1 = .ok taken ∧
    stream.output.written = taken.output.written ++ relayed.sent ++ relayed.body ∧
    keptUpstream connection'.session route.upstream.address upgraded stream

theorem errorPage_done (status : StatusCode) (body : String) (connection : Connection) :
    (∃ e connection', errorPage status body connection = .done (.error e) connection') ∨
      ∃ connection', errorPage status body connection = .done (.ok .complete) connection' := by
  unfold errorPage
  split
  · exact Or.inl ⟨_, _, rfl⟩
  · exact Or.inr ⟨_, rfl⟩

/-- After a page of its own the server neither goes on nor upgrades. -/
theorem errorPage_ne_next (status : StatusCode) (body : String) (connection connection' : Connection) :
    errorPage status body connection ≠ .next connection' := by
  intro h
  obtain ⟨_, _, hdone⟩ | ⟨_, hdone⟩ := errorPage_done status body connection
  · rw [hdone] at h
    cases h
  · rw [hdone] at h
    cases h

theorem errorPage_ne_upgraded (status : StatusCode) (body : String) (connection connection' : Connection)
    (session : Session) (carried : Bytes) :
    errorPage status body connection ≠ .done (.ok (.upgraded session carried)) connection' := by
  intro h
  obtain ⟨_, _, hdone⟩ | ⟨_, hdone⟩ := errorPage_done status body connection
  · rw [hdone] at h
    cases h
  · rw [hdone] at h
    cases h

theorem afterExchange_next {request : Request} {result : Except ProxyError ExchangeResult}
    {connection connection' : Connection} (h : afterExchange request result connection = .next connection') :
    ∃ exchanged, result = .ok exchanged ∧ exchanged.clientReusable = true ∧
      connection' = { connection with buffered := exchanged.bufferedClientBytes } := by
  unfold afterExchange at h
  split at h
  · rename_i exchanged
    split at h
    · cases h
    · split at h
      · rename_i hgoes
        cases h
        rw [Bool.and_eq_true] at hgoes
        exact ⟨exchanged, rfl, hgoes.2, rfl⟩
      · cases h
  · exact absurd h (errorPage_ne_next _ _ _ _)
  · cases h
  · cases h
  · split at h
    · exact absurd h (errorPage_ne_next _ _ _ _)
    · exact absurd h (errorPage_ne_next _ _ _ _)

theorem afterExchange_upgraded {request : Request} {result : Except ProxyError ExchangeResult}
    {connection connection' : Connection} {session : Session} {carried : Bytes}
    (h : afterExchange request result connection = .done (.ok (.upgraded session carried)) connection') :
    ∃ exchanged, result = .ok exchanged ∧ exchanged.upgraded = true ∧
      carried = exchanged.bufferedClientBytes ∧ session = connection.session ∧ connection' = connection := by
  unfold afterExchange at h
  split at h
  · rename_i exchanged
    split at h
    · rename_i hupgraded
      cases h
      exact ⟨exchanged, rfl, hupgraded, rfl, rfl, rfl⟩
    · split at h <;> cases h
  · exact absurd h (errorPage_ne_upgraded _ _ _ _ _ _)
  · cases h
  · cases h
  · split at h
    · exact absurd h (errorPage_ne_upgraded _ _ _ _ _ _)
    · exact absurd h (errorPage_ne_upgraded _ _ _ _ _ _)

/-- A received request whose exchange lets the connection go on, or upgrades it, was relayed. -/
theorem exchange_relays {environment : Environment} {connection connection' : Connection} {input : Source}
    {received : ReceivedRequest} {route : Config.Route} {exchanged : ExchangeResult} {state : ExchangeState}
    (hread : readRequestHead connection.client.input connection.buffered = (.ok (some received), input))
    (hroute : selectRoute environment.net received.request environment.configuration = .ok route)
    (hexchange : exchangeWithProto environment.net route received.request received.bufferedBody
      environment.clientIp environment.forwardedProto
      { session := connection.session, network := connection.network,
        client := { connection.client with input } } = (.ok exchanged, state))
    (hgoes : exchanged.clientReusable = true ∨ exchanged.upgraded = true)
    (hclient : connection'.client = state.client) (hsession : connection'.session = state.session) :
    ∃ relayed, Relays environment connection connection' exchanged.bufferedClientBytes relayed := by
  obtain ⟨head, hparse, hpending, -, hbound⟩ := readRequestHead_ok hread
  obtain ⟨sent, body, taken, stream, hsent, hbody, hbytes, htaken, hwritten, hkept, hsuffix⟩ :=
    exchangeWithProto_relays hexchange hgoes
  refine ⟨⟨received.request, head, sent, body⟩, ⟨_, hparse⟩, hbody, ?_, ?_, ?_⟩
  · rw [hpending, List.append_assoc, hbytes, hclient]
    simp only [List.append_assoc]
  · have hle := hsuffix.length_le
    rw [List.length_append] at hbound
    omega
  · rw [hsession]
    exact ⟨route, taken, stream, exchanged.upgraded, hroute, hsent, htaken, hwritten, hkept⟩

theorem handleRequest_next {environment : Environment} {connection connection' : Connection}
    (h : handleRequest environment connection = .next connection') :
    ∃ relayed, Relays environment connection connection' connection'.buffered relayed := by
  unfold handleRequest at h
  split at h
  · cases h
  · cases h
  · rename_i received input hread
    dsimp only at h
    split at h
    · exact absurd h (errorPage_ne_next _ _ _ _)
    · rename_i route hroute
      obtain ⟨exchanged, hok, hreusable, rfl⟩ := afterExchange_next h
      exact exchange_relays hread hroute (Prod.ext hok rfl) (Or.inl hreusable) rfl rfl

theorem handleRequest_upgraded {environment : Environment} {connection connection' : Connection}
    {session : Session} {carried : Bytes}
    (h : handleRequest environment connection = .done (.ok (.upgraded session carried)) connection') :
    session = connection'.session ∧ ∃ relayed, Relays environment connection connection' carried relayed := by
  unfold handleRequest at h
  split at h
  · cases h
  · cases h
  · rename_i received input hread
    dsimp only at h
    split at h
    · exact absurd h (errorPage_ne_upgraded _ _ _ _ _ _)
    · rename_i route hroute
      obtain ⟨exchanged, hok, hupgraded, rfl, rfl, rfl⟩ := afterExchange_upgraded h
      exact ⟨rfl, exchange_relays hread hroute (Prod.ext hok rfl) (Or.inr hupgraded) rfl rfl⟩

/-! ### Runs -/

/-- A pass that goes on has used up a head. -/
theorem handleRequest_decreases {environment : Environment} {connection connection' : Connection}
    (h : handleRequest environment connection = .next connection') :
    (connection'.buffered ++ pending connection'.client.input).length <
      (connection.buffered ++ pending connection.client.input).length := by
  obtain ⟨relayed, hrelays⟩ := handleRequest_next h
  obtain ⟨rest, hparse⟩ := hrelays.parsed
  obtain ⟨_, _, hends⟩ := parseRequestWithConsumed_ok hparse
  have hconsumed := hends.consumed
  rw [hrelays.bytes]
  simp only [List.length_append]
  omega

/-- The loop of `handle_connection_io`. -/
def handleConnectionLoop (environment : Environment) (connection : Connection) :
    Except IoError ConnectionOutcome × Connection :=
  match _h : handleRequest environment connection with
  | .next connection' => handleConnectionLoop environment connection'
  | .done result connection' => (result, connection')
termination_by (connection.buffered ++ pending connection.client.input).length
decreasing_by exact handleRequest_decreases _h

def handleConnectionIo (environment : Environment) (stream : Endpoint) (network : Network) :
    Except IoError ConnectionOutcome × Connection :=
  handleConnectionLoop environment (Connection.start environment stream network)

/-- The connections the loop goes through, with the requests it relays on the way. -/
inductive Run (environment : Environment) : Connection → List RelayedRequest → Connection → Prop
  | start (connection : Connection) : Run environment connection [] connection
  | pass {first second last : Connection} {relayed : RelayedRequest} {more : List RelayedRequest}
      (hpass : handleRequest environment first = .next second)
      (hrelays : Relays environment first second second.buffered relayed)
      (hrun : Run environment second more last) : Run environment first (relayed :: more) last

/-- `connection'` is what the loop holds after `n` more passes. -/
inductive Reaches (environment : Environment) : Nat → Connection → Connection → Prop
  | refl (connection : Connection) : Reaches environment 0 connection connection
  | next {n : Nat} {first second last : Connection} (hpass : handleRequest environment first = .next second)
      (hrest : Reaches environment n second last) : Reaches environment (n + 1) first last

/-- The heads and bodies of requests, in order. -/
def clientBytes (relayed : List RelayedRequest) : Bytes := relayed.flatMap fun request => request.head ++ request.body

theorem Reaches.run {environment : Environment} {n : Nat} {first last : Connection}
    (h : Reaches environment n first last) : ∃ relayed, relayed.length = n ∧ Run environment first relayed last := by
  induction h with
  | refl connection => exact ⟨[], rfl, .start connection⟩
  | next hpass hrest ih =>
    obtain ⟨more, hlen, hrun⟩ := ih
    obtain ⟨relayed, hrelays⟩ := handleRequest_next hpass
    exact ⟨relayed :: more, by simp [hlen], .pass hpass hrelays hrun⟩

/-- Over a run the stream is cut into the heads and bodies of the requests, and nothing else. -/
theorem Run.bytes {environment : Environment} {first last : Connection} {relayed : List RelayedRequest}
    (h : Run environment first relayed last) :
    first.buffered ++ pending first.client.input =
      clientBytes relayed ++ last.buffered ++ pending last.client.input := by
  induction h with
  | start connection => simp [clientBytes]
  | pass hpass hrelays hrun ih =>
    rw [hrelays.bytes, List.append_assoc, ih]
    simp [clientBytes]

theorem Run.carried_le {environment : Environment} {first last : Connection} {relayed : List RelayedRequest}
    (h : Run environment first relayed last) (hfirst : first.buffered.length ≤ maxRequestHeadSize) :
    last.buffered.length ≤ maxRequestHeadSize := by
  induction h with
  | start connection => exact hfirst
  | pass hpass hrelays hrun ih =>
    apply ih
    have := hrelays.carried_le
    omega

/-- A run of the loop ends with a pass that is its last. -/
theorem handleConnectionLoop_done {environment : Environment} {connection connection' : Connection}
    {result : Except IoError ConnectionOutcome}
    (h : handleConnectionLoop environment connection = (result, connection')) :
    ∃ n last, Reaches environment n connection last ∧ handleRequest environment last = .done result connection' := by
  fun_induction handleConnectionLoop environment connection with
  | case1 connection second hpass ih =>
    obtain ⟨n, last, hreaches, hdone⟩ := ih h
    exact ⟨n + 1, last, .next hpass hreaches, hdone⟩
  | case2 connection result' last hdone =>
    cases h
    exact ⟨0, connection, .refl connection, hdone⟩

/-- Whenever `handle_connection_io` goes on to a further request after `n` of them, the client's stream
is the heads and bodies of these requests, each relayed as `Relays` says, then the carried bytes, then
what is still unread. The same holds with the request that upgrades the connection when an upgrade is
returned. No more than one head's worth is ever carried. -/
theorem handleConnectionIo_relays (environment : Environment) (stream : Endpoint) (network : Network) :
    (∀ n connection, Reaches environment n (Connection.start environment stream network) connection →
      ∃ relayed, relayed.length = n ∧
        Run environment (Connection.start environment stream network) relayed connection ∧
        pending stream.input = clientBytes relayed ++ connection.buffered ++ pending connection.client.input ∧
        connection.buffered.length ≤ maxRequestHeadSize) ∧
      ∀ session carried connection',
        handleConnectionIo environment stream network = (.ok (.upgraded session carried), connection') →
          ∃ relayed connection last,
            Run environment (Connection.start environment stream network) relayed connection ∧
            Relays environment connection connection' carried last ∧
            pending stream.input = clientBytes (relayed ++ [last]) ++ carried ++ pending connection'.client.input ∧
            carried.length ≤ maxRequestHeadSize := by
  refine ⟨?_, ?_⟩
  · intro n connection hreaches
    obtain ⟨relayed, hlen, hrun⟩ := hreaches.run
    exact ⟨relayed, hlen, hrun, hrun.bytes, hrun.carried_le (Nat.zero_le _)⟩
  · intro session carried connection' h
    obtain ⟨n, connection, hreaches, hdone⟩ := handleConnectionLoop_done h
    obtain ⟨relayed, -, hrun⟩ := hreaches.run
    obtain ⟨-, last, hlast⟩ := handleRequest_upgraded hdone
    have hbytes : pending stream.input =
        clientBytes relayed ++ connection.buffered ++ pending connection.client.input := hrun.bytes
    refine ⟨relayed, connection, last, hrun, hlast, ?_, ?_⟩
    · rw [hbytes, List.append_assoc, hlast.bytes]
      simp [clientBytes]
    · have hcarried := hrun.carried_le (Nat.zero_le _)
      have hle := hlast.carried_le
      omega

def helloEnvironment : Environment where
  net := ipv4Net
  configuration := ⟨[⟨ascii "a", ⟨ascii "b", 80⟩⟩], 128, 30, 10, ascii "127.0.0.1:8443"⟩
  clientIp := loopback
  forwardedProto := .http

def helloClient : Endpoint := ⟨Source.ofSegments [helloInput], Sink.accepting []⟩

def noContentResponse : Bytes := ascii "HTTP/1.1 204 N\r\n\r\n"

/-- A request with a body, most of a second one in the same segment, and a byte more after it. -/
def pipelinedClient : Endpoint where
  input := Source.ofSegments
    [ascii "POST / HTTP/1.1\r\nHost: a\r\nContent-Length: 2\r\n\r\nhiGET / HTTP/1.1\r\n", ascii "Host: a\r\n\r\nX"]
  output := Sink.accepting []

/-- One connection, to an upstream that answers twice. -/
def answeringTwice : Network :=
  [.ok [⟨false, .ok ⟨Source.ofSegments [noContentResponse, noContentResponse], Sink.accepting []⟩, .ok ()⟩]]

def postHead : Bytes :=
  ascii "POST / HTTP/1.1\r\nHost: a\r\nContent-Length: 2\r\nX-Forwarded-For: 127.0.0.1\r\nX-Forwarded-Host: a\r\n" ++
    ascii "X-Forwarded-Proto: http\r\n\r\n"

def afterFirst : Connection where
  client := ⟨Source.ofSegments [ascii "Host: a\r\n\r\nX"], Sink.accepting noContentResponse⟩
  buffered := ascii "GET / HTTP/1.1\r\n"
  session := ⟨some ⟨ascii "b:80", ⟨Source.ofSegments [noContentResponse], Sink.accepting (postHead ++ ascii "hi")⟩⟩, none, 10⟩
  network := []

def afterSecond : Connection where
  client := ⟨⟨[]⟩, Sink.accepting (noContentResponse ++ noContentResponse)⟩
  buffered := ascii "X"
  session := ⟨some ⟨ascii "b:80", ⟨⟨[]⟩, Sink.accepting (postHead ++ ascii "hi" ++ helloHead)⟩⟩, none, 10⟩
  network := []

theorem handleConnectionIo_relays_pipelined :
    ∃ relayed, relayed.length = 2 ∧
      Run helloEnvironment (Connection.start helloEnvironment pipelinedClient answeringTwice) relayed afterSecond ∧
      pending pipelinedClient.input = clientBytes relayed ++ ascii "X" := by
  have hfirst : handleRequest helloEnvironment (Connection.start helloEnvironment pipelinedClient answeringTwice) =
      .next afterFirst := by decide +kernel
  have hsecond : handleRequest helloEnvironment afterFirst = .next afterSecond := by decide +kernel
  obtain ⟨relayed, hlen, hrun, hbytes, -⟩ :=
    (handleConnectionIo_relays helloEnvironment pipelinedClient answeringTwice).1 2 afterSecond
      (.next hfirst (.next hsecond (.refl _)))
  exact ⟨relayed, hlen, hrun, hbytes.trans (List.append_nil _)⟩

end BareProxy.Server
