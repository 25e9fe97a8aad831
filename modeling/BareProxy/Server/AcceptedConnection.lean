import BareProxy.Proxy.Switching
import BareProxy.Proxy.Tunnel
import BareProxy.Server.KeepAlive

/-!
# An accepted connection

`handle_accepted_connection` of `server.rs`: the loop over the requests of a client and, when one of them switches
protocols, the tunnel to its upstream. The tunnel is exact from the byte after the request that asked for it and from the
byte after the head of the 101 response, wherever the reads have cut the two streams.
-/

namespace BareProxy.Server

open Http Proxy Reader

def isClientIdleTimeout (error : IoError) : Bool := error.kind = .timedOut || error.kind = .wouldBlock

def isClientDisconnect (error : IoError) : Bool :=
  error.kind = .brokenPipe || error.kind = .connectionAborted || error.kind = .connectionReset ||
    error.kind = .notConnected || error.kind = .unexpectedEof

/-- What an accepted connection comes to. -/
inductive AcceptedConnection
  | closed (result : Except IoError Unit) (client : Endpoint)
  | tunnelling (tunnel : Tunnel)
  deriving DecidableEq

/-- The thread of a connection up to its tunnel, if there is one. A tunnel that cannot be started is only logged, and so is
the result of one that has ended. -/
def handleAcceptedConnection (environment : Environment) (setReadTimeout : Except IoError Unit) (calls : TunnelCalls)
    (stream : Endpoint) (network : Network) : AcceptedConnection :=
  match setReadTimeout with
  | .error error => .closed (.error error) stream
  | .ok () =>
    match handleConnectionIo environment stream network with
    | (.ok .complete, connection) => .closed (.ok ()) connection.client
    | (.ok (.upgraded session bufferedClientBytes), connection) =>
      match session.startTunnel calls connection.client bufferedClientBytes with
      | (.error _, _) => .closed (.ok ()) connection.client
      | (.ok tunnel, _) => .tunnelling tunnel
    | (.error error, connection) =>
      if isClientIdleTimeout error then .closed (.ok ()) connection.client
      else if error.kind = .invalidData then
        let (result, output) := writeTextResponse .badRequest "Bad Request\n" connection.client.output
        .closed result { connection.client with output }
      else if isClientDisconnect error then .closed (.ok ()) connection.client
      else .closed (.error error) connection.client

/-! ### The request that upgrades -/

/-- A request that was upgraded: the head as received and as sent, its body, the upstream it found and the response. -/
structure UpgradedRequest where
  request : Request
  head : Bytes
  sent : Bytes
  body : Bytes
  taken : Endpoint
  protocols : List Bytes
  response : SwitchedResponse protocols

def UpgradedRequest.bytes (upgraded : UpgradedRequest) : Bytes := upgraded.head ++ upgraded.body

/-- The pass that upgrades a connection: it takes the request off the client's stream and the response off the upstream's,
sends each on, and keeps the upstream for the tunnel with the bytes that it has read of the client's. -/
structure Upgrades (environment : Environment) (connection connection' : Connection) (carried : Bytes)
    (upgraded : UpgradedRequest) (upstream : Endpoint) : Prop where
  parsed : ∃ rest, parseRequestWithConsumed (upgraded.head ++ rest) = .ok (upgraded.request, upgraded.head.length)
  asked : requestUpgradeProtocols upgraded.request = .ok (some upgraded.protocols)
  body : IsRequestBody upgraded.request upgraded.body
  taken : ∃ route, selectRoute environment.net upgraded.request environment.configuration = .ok route ∧
    serializeRequestHead environment.net upgraded.request environment.clientIp environment.forwardedProto =
      .ok upgraded.sent ∧
    (takeUpstream route.upstream.address connection.session connection.network).1 = .ok upgraded.taken
  received : connection.buffered ++ pending connection.client.input =
    upgraded.bytes ++ carried ++ pending connection'.client.input
  sent : upstream.output.written = upgraded.taken.output.written ++ upgraded.sent ++ upgraded.body
  switched : Switches upgraded.response [] upgraded.taken.input upstream.input connection.client.output
    connection'.client.output
  kept : connection'.session.upgradedUpstream = some upstream

theorem handleRequest_upgrades {environment : Environment} {connection connection' : Connection} {session : Session}
    {carried : Bytes} (h : handleRequest environment connection = .done (.ok (.upgraded session carried)) connection') :
    session = connection'.session ∧ ∃ upgraded upstream, Upgrades environment connection connection' carried upgraded upstream := by
  unfold handleRequest at h
  split at h
  · cases h
  · cases h
  · rename_i received input hread
    dsimp only at h
    split at h
    · exact absurd h (errorPage_ne_upgraded _ _ _ _ _ _)
    · rename_i route hroute
      obtain ⟨exchanged, hok, hupgraded, rfl, rfl, rfl⟩ := afterExchange_upgraded h
      obtain ⟨head, hparse, hpending, -, -⟩ := readRequestHead_ok hread
      obtain ⟨protocols, sent, body, taken, stream, response, hasked, hsent, hbody, hbytes, htaken, hwritten, hkept, hswitches⟩ :=
        exchangeWithProto_upgraded (Prod.ext hok rfl) hupgraded
      refine ⟨rfl, ⟨received.request, head, sent, body, taken, protocols, response⟩, stream, ⟨_, hparse⟩, hasked, hbody,
        ⟨route, hroute, hsent, htaken⟩, ?_, hwritten, hswitches, hkept⟩
      rw [hpending, List.append_assoc, hbytes]
      simp only [UpgradedRequest.bytes, List.append_assoc]

/-! ### The tunnel -/

/-- The loop has ended with an upgrade, and the tunnel starts between its two streams. -/
theorem handleAcceptedConnection_tunnelling {environment : Environment} {setReadTimeout : Except IoError Unit}
    {calls : TunnelCalls} {stream : Endpoint} {network : Network} {tunnel : Tunnel}
    (h : handleAcceptedConnection environment setReadTimeout calls stream network = .tunnelling tunnel) :
    ∃ session carried connection' session',
      handleConnectionIo environment stream network = (.ok (.upgraded session carried), connection') ∧
      session.startTunnel calls connection'.client carried = (.ok tunnel, session') := by
  rw [handleAcceptedConnection.eq_def] at h
  split at h
  · cases h
  · split at h
    · cases h
    · rename_i session carried connection' hloop
      split at h
      · cases h
      · rename_i started session' hstart
        cases h
        exact ⟨session, carried, connection', session', hloop, hstart⟩
    · split at h
      · cases h
      · split at h
        · cases h
        · split at h
          · cases h
          · cases h

/-- What the two threads of a tunnel have done by some point, when the client sends `fromClient` and the upstream
`fromUpstream` to it. -/
structure TunnelMoves (tunnel : Tunnel) (toClient toUpstream fromClient fromUpstream : Bytes) (whole : Prop) : Prop where
  up : ∃ moved, moved <+: fromClient ∧ tunnel.clientToUpstream.copy.writer.written = toUpstream ++ moved ∧
    (tunnel.result = some (.ok ()) → whole → moved = fromClient)
  down : ∃ moved, moved <+: fromUpstream ∧ tunnel.upstreamToClient.copy.writer.written = toClient ++ moved ∧
    (tunnel.result = some (.ok ()) → whole → moved = fromUpstream)

theorem tunnelMoves_run {client upstream sent : Endpoint} {carried : Bytes} (hsent : sendBuffered carried upstream = .ok sent)
    (turns : List TunnelTurn) (toClient rest : Bytes) (hclient : client.output.written = toClient ++ rest) :
    TunnelMoves ((Tunnel.start client sent).run turns) toClient upstream.output.written (carried ++ pending client.input)
      (rest ++ pending upstream.input) (Copy.Segmented upstream.input ∧ Copy.Segmented client.input) := by
  obtain ⟨hinput, hwritten⟩ := sendBuffered_ok hsent
  have hrun := tunnelRun_start client sent turns
  refine ⟨?_, ?_⟩
  · obtain ⟨count, hcount⟩ := hrun.toUpstream
    refine ⟨carried ++ (pending client.input).take count, (List.prefix_append_right_inj carried).2 (List.take_prefix _ _), ?_,
      fun hresult hwhole => ?_⟩
    · rw [hcount, hwritten, List.append_assoc]
    · have hall := (hrun.complete hresult (by rw [hinput]; exact hwhole.1) hwhole.2).2
      rw [List.append_cancel_left (hcount.symm.trans hall)]
  · obtain ⟨count, hcount⟩ := hrun.toClient
    refine ⟨rest ++ (pending sent.input).take count, ?_, ?_, fun hresult hwhole => ?_⟩
    · rw [← hinput]
      exact (List.prefix_append_right_inj rest).2 (List.take_prefix _ _)
    · rw [hcount, hclient, List.append_assoc]
    · have hall := (hrun.complete hresult (by rw [hinput]; exact hwhole.1) hwhole.2).1
      rw [List.append_cancel_left (hcount.symm.trans hall), hinput]

/-- Whenever a connection has a tunnel, the client's stream is the requests that were relayed, the one that was upgraded and
then what belongs to the tunnel; the upstream's is the response that switches protocols and then what belongs to the tunnel.
Whoever of the two threads has which turn, each stream gets what belongs to it of the other one, in order, after what it got
before, and all of it when the tunnel ends without an error; with enough turns for each thread the tunnel ends. -/
theorem handleAcceptedConnection_tunnel {environment : Environment} {setReadTimeout : Except IoError Unit}
    {calls : TunnelCalls} {stream : Endpoint} {network : Network} {tunnel : Tunnel}
    (h : handleAcceptedConnection environment setReadTimeout calls stream network = .tunnelling tunnel) :
    ∃ relayed connection connection' carried upgraded upstream fromClient fromUpstream,
      Run environment (.start environment stream network) relayed connection ∧
      Upgrades environment connection connection' carried upgraded upstream ∧
      pending stream.input = clientBytes relayed ++ upgraded.bytes ++ fromClient ∧
      pending upgraded.taken.input = upgraded.response.received ++ fromUpstream ∧
      ∀ turns, TunnelMoves (tunnel.run turns) (connection.client.output.written ++ upgraded.response.sent)
          (upgraded.taken.output.written ++ upgraded.sent ++ upgraded.body) fromClient fromUpstream
          (Copy.Segmented upstream.input ∧ Copy.Segmented connection'.client.input) ∧
        (2 * size upstream.input + 3 ≤ turns.countP TunnelTurn.isUpstreamToClient →
          2 * size connection'.client.input + 2 ≤ turns.countP (fun turn => !turn.isUpstreamToClient) →
          ∃ result, (tunnel.run turns).result = some result) := by
  obtain ⟨session, carried, connection', session', hloop, hstart⟩ := handleAcceptedConnection_tunnelling h
  obtain ⟨n, connection, hreaches, hdone⟩ := handleConnectionLoop_done hloop
  obtain ⟨relayed, -, hrun⟩ := hreaches.run
  obtain ⟨rfl, upgraded, upstream, hupgrades⟩ := handleRequest_upgrades hdone
  obtain ⟨upstream', sent, hupstream, -, hsent, rfl⟩ := startTunnel_ok hstart
  obtain rfl : upstream = upstream' := Option.some.inj (hupgrades.kept.symm.trans hupstream)
  obtain ⟨rest, hrest, hwritten⟩ := hupgrades.switched
  have hbytes : pending stream.input =
      clientBytes relayed ++ connection.buffered ++ pending connection.client.input := hrun.bytes
  refine ⟨relayed, connection, connection', carried, upgraded, upstream, carried ++ pending connection'.client.input,
    rest ++ pending upstream.input, hrun, hupgrades, ?_, ?_, fun turns => ⟨?_, fun hdown hup => ?_⟩⟩
  · rw [hbytes, List.append_assoc, hupgrades.received]
    simp only [List.append_assoc]
  · rw [← List.append_assoc]
    exact hrest
  · have hmoves := tunnelMoves_run hsent turns _ _ hwritten
    rwa [hupgrades.sent] at hmoves
  · rw [← (sendBuffered_ok hsent).1] at hdown
    exact Option.isSome_iff_exists.1 (Tunnel.run_result_isSome hdown hup)

/-- A request for an upgrade, with two bytes that were sent before the answer. -/
def upgradeInput : Bytes := ascii "GET / HTTP/1.1\r\nHost: a\r\nConnection: Upgrade\r\nUpgrade: x\r\n\r\nhi"

def upgradeHead : Bytes :=
  ascii ("GET / HTTP/1.1\r\nHost: a\r\nUpgrade: x\r\nConnection: Upgrade\r\nX-Forwarded-For: 127.0.0.1\r\n" ++
    "X-Forwarded-Host: a\r\nX-Forwarded-Proto: http\r\n\r\n")

def upgradeClient : Endpoint := ⟨Source.ofSegments [upgradeInput, ascii "!"], Sink.accepting []⟩

def switchingHead : Bytes := ascii "HTTP/1.1 101 S\r\nUpgrade: x\r\nConnection: Upgrade\r\n\r\n"

def upgradeNetwork : Network :=
  [.ok [⟨false, .ok ⟨Source.ofSegments [switchingHead ++ ascii "yo"], Sink.accepting []⟩, .ok ()⟩]]

theorem handleAcceptedConnection_tunnel_hi :
    ∃ tunnel, handleAcceptedConnection helloEnvironment (.ok ()) ⟨.ok (), .ok (), .ok (), .ok (), .ok ()⟩ upgradeClient
        upgradeNetwork = .tunnelling tunnel ∧
      ∃ relayed upgraded fromClient, pending upgradeClient.input =
          clientBytes relayed ++ UpgradedRequest.bytes upgraded ++ fromClient ∧
        ∀ turns, ∃ moved, moved <+: fromClient ∧ (tunnel.run turns).clientToUpstream.copy.writer.written =
          upgraded.taken.output.written ++ upgraded.sent ++ upgraded.body ++ moved := by
  have htunnel : handleAcceptedConnection helloEnvironment (.ok ()) ⟨.ok (), .ok (), .ok (), .ok (), .ok ()⟩ upgradeClient
      upgradeNetwork = .tunnelling (.start ⟨Source.ofSegments [ascii "!"], Sink.accepting (switchingHead ++ ascii "yo")⟩
        ⟨⟨[]⟩, Sink.accepting (upgradeHead ++ ascii "hi")⟩) := by decide +kernel
  obtain ⟨relayed, _, _, _, upgraded, _, fromClient, _, -, -, hbytes, -, hmoves⟩ := handleAcceptedConnection_tunnel htunnel
  refine ⟨_, htunnel, relayed, upgraded, fromClient, hbytes, fun turns => ?_⟩
  obtain ⟨moved, hmoved, hwritten, -⟩ := (hmoves turns).1.up
  exact ⟨moved, hmoved, hwritten⟩

end BareProxy.Server
