import BareProxy.Base.Copy
import BareProxy.Base.Run
import BareProxy.Proxy.Session

/-!
# The tunnel of an upgraded connection

`tunnel_upgraded` of `proxy.rs`: after a 101 response one thread copies what the client sends to the upstream while
the other copies what the upstream sends to the client. They take turns in any order. A thread shuts its writer down
when its copy has ended; when the copy to the client fails, the client is shut down in both directions, and what of
its bytes the other thread still reads is up to the network.
-/

namespace BareProxy.Proxy

/-- What setting the timeouts and cloning the streams give. -/
structure TunnelCalls where
  clientTimeouts : Except IoError Unit
  upstreamTimeouts : Except IoError Unit
  cloneClientReader : Except IoError Unit
  cloneClientWriter : Except IoError Unit
  cloneUpstreamReader : Except IoError Unit

def tunnelError (source : IoError) : ProxyError := .tunnel source.message

/-- One direction of the tunnel: its copy, and whether its writer has been shut down. -/
structure CopyTunnelDirection where
  copy : Copy
  shutdown : Bool
  deriving DecidableEq

/-- `copy_tunnel_direction`. -/
def CopyTunnelDirection.step (direction : CopyTunnelDirection) : CopyTunnelDirection :=
  match direction.copy.result? with
  | none => { direction with copy := direction.copy.step }
  | some _ => { direction with shutdown := true }

structure Tunnel where
  upstreamToClient : CopyTunnelDirection
  clientToUpstream : CopyTunnelDirection
  clientShutdown : Bool
  deriving DecidableEq

def Tunnel.start (client upstream : Endpoint) : Tunnel where
  upstreamToClient := ⟨.start upstream.input client.output, false⟩
  clientToUpstream := ⟨.start client.input upstream.output, false⟩
  clientShutdown := false

/-- What the client sent too early goes to the upstream first. -/
def sendBuffered (bufferedClientBytes : Bytes) (upstream : Endpoint) : Except ProxyError Endpoint :=
  if bufferedClientBytes.isEmpty then .ok upstream
  else match upstream.output.writeAll bufferedClientBytes with
    | (.error source, _) => .error (tunnelError source)
    | (.ok (), output) =>
        match output.flush with
        | (.error source, _) => .error (tunnelError source)
        | (.ok (), output) => .ok { upstream with output }

/-- What comes before the two threads. -/
def Session.startTunnel (session : Session) (calls : TunnelCalls) (client : Endpoint) (bufferedClientBytes : Bytes) :
    Except ProxyError Tunnel × Session :=
  match session.upgradedUpstream with
  | none => (.error (.tunnel "no upgraded upstream connection is available"), session)
  | some upstream =>
      (do
        mapErr tunnelError calls.clientTimeouts
        mapErr tunnelError calls.upstreamTimeouts
        let upstream ← sendBuffered bufferedClientBytes upstream
        mapErr tunnelError calls.cloneClientReader
        mapErr tunnelError calls.cloneClientWriter
        mapErr tunnelError calls.cloneUpstreamReader
        return Tunnel.start client upstream,
      { session with upgradedUpstream := none })

/-- Whose turn it is. When the client is shut down, a reader still gets this many of its events. -/
inductive TunnelTurn
  | upstreamToClient (kept : Nat)
  | clientToUpstream
  deriving DecidableEq

namespace Tunnel

/-- The thread that started the tunnel copies first, then it waits for the other one. -/
def step (tunnel : Tunnel) : TunnelTurn → Tunnel
  | .clientToUpstream => { tunnel with clientToUpstream := tunnel.clientToUpstream.step }
  | .upstreamToClient kept =>
      match tunnel.upstreamToClient.copy.result?, tunnel.upstreamToClient.shutdown, tunnel.clientShutdown with
      | some (.error _), true, false =>
          let reader : Source := ⟨tunnel.clientToUpstream.copy.reader.events.take kept⟩
          { tunnel with
            clientToUpstream := { tunnel.clientToUpstream with copy := { tunnel.clientToUpstream.copy with reader } }
            clientShutdown := true }
      | _, _, _ => { tunnel with upstreamToClient := tunnel.upstreamToClient.step }

/-- The result, once both threads have ended. -/
def result (tunnel : Tunnel) : Option (Except ProxyError Unit) :=
  if tunnel.upstreamToClient.shutdown && tunnel.clientToUpstream.shutdown then
    match tunnel.upstreamToClient.copy.result?, tunnel.clientToUpstream.copy.result? with
    | some (.error source), some _ => if tunnel.clientShutdown then some (.error (tunnelError source)) else none
    | some (.ok _), some (.error source) => some (.error (tunnelError source))
    | some (.ok _), some (.ok _) => some (.ok ())
    | _, _ => none
  else none

def run (tunnel : Tunnel) (turns : List TunnelTurn) : Tunnel := turns.foldl step tunnel

end Tunnel

/-! ### Each direction on its own -/

def TunnelTurn.isUpstreamToClient : TunnelTurn → Bool
  | .upstreamToClient _ => true
  | .clientToUpstream => false

namespace CopyTunnelDirection

theorem step_copy (direction : CopyTunnelDirection) : direction.step.copy = direction.copy.step := by
  rw [step]
  split
  · rfl
  · rename_i hended
    exact (Copy.step_of_ended hended).symm

/-- The writer is shut down only after the copy. -/
def Valid (direction : CopyTunnelDirection) : Prop :=
  direction.shutdown = true → ∃ result, direction.copy.result? = some result

theorem Valid.step {direction : CopyTunnelDirection} (h : direction.Valid) : direction.step.Valid := by
  rw [CopyTunnelDirection.step]
  split
  · rename_i hnone
    intro hshutdown
    obtain ⟨result, hresult⟩ := h hshutdown
    rw [hnone] at hresult
    cases hresult
  · rename_i result hresult
    exact fun _ => ⟨result, hresult⟩

/-- A bound on the turns until the writer is shut down. -/
def remaining (direction : CopyTunnelDirection) : Nat :=
  direction.copy.remaining + if direction.shutdown then 0 else 1

theorem remaining_step (direction : CopyTunnelDirection) : direction.step.remaining ≤ direction.remaining - 1 := by
  rw [remaining, step, remaining]
  split
  · rename_i hnone
    have hne : direction.copy.remaining ≠ 0 := fun hzero => by
      obtain ⟨result, hresult⟩ := Copy.remaining_eq_zero.1 hzero
      rw [hnone] at hresult
      cases hresult
    have := Copy.remaining_step (Copy.step_spec direction.copy) hne
    dsimp only
    omega
  · rename_i result hresult
    rw [Copy.remaining_eq_zero.2 ⟨result, hresult⟩, if_pos rfl]
    exact Nat.zero_le _

end CopyTunnelDirection

/-! ### Taking turns -/

namespace Tunnel

/-- The direction with its source cut off. -/
def cutOff (kept : Nat) (direction : CopyTunnelDirection) : CopyTunnelDirection :=
  { direction with copy := { direction.copy with reader := ⟨direction.copy.reader.events.take kept⟩ } }

/-- What a turn can do. -/
inductive Step : Tunnel → TunnelTurn → Tunnel → Prop
  | upstreamToClient {tunnel : Tunnel} {kept : Nat}
      (hgoes : ∀ source, tunnel.upstreamToClient.copy.result? = some (.error source) →
        tunnel.upstreamToClient.shutdown = true → tunnel.clientShutdown = true) :
      Step tunnel (.upstreamToClient kept) { tunnel with upstreamToClient := tunnel.upstreamToClient.step }
  | clientToUpstream {tunnel : Tunnel} :
      Step tunnel .clientToUpstream { tunnel with clientToUpstream := tunnel.clientToUpstream.step }
  | shutDownClient {tunnel : Tunnel} {kept : Nat} {source : IoError}
      (hresult : tunnel.upstreamToClient.copy.result? = some (.error source))
      (hshutdown : tunnel.upstreamToClient.shutdown = true) (hopen : tunnel.clientShutdown = false) :
      Step tunnel (.upstreamToClient kept)
        { tunnel with clientToUpstream := cutOff kept tunnel.clientToUpstream, clientShutdown := true }

theorem step_spec (tunnel : Tunnel) (turn : TunnelTurn) : Step tunnel turn (tunnel.step turn) := by
  cases turn with
  | clientToUpstream => exact .clientToUpstream
  | upstreamToClient kept =>
      rw [step]
      split
      · rename_i source hresult hshutdown hopen
        exact .shutDownClient hresult hshutdown hopen
      · rename_i hother
        refine .upstreamToClient fun source hresult hshutdown => ?_
        by_contra hopen
        exact hother source hresult hshutdown (eq_false_of_ne_true hopen)

/-- A property of the tunnel that every turn keeps. -/
theorem run_invariant {P : Tunnel → Prop} (hstep : ∀ {tunnel turn tunnel'}, P tunnel → Step tunnel turn tunnel' → P tunnel')
    {tunnel : Tunnel} (h : P tunnel) (turns : List TunnelTurn) : P (tunnel.run turns) := by
  induction turns generalizing tunnel with
  | nil => exact h
  | cons turn turns ih => exact ih (hstep h (step_spec tunnel turn))

/-- The thread that copies to the client does nothing else to its direction, also when it shuts the client down. -/
theorem Step.upstreamToClient_eq {tunnel tunnel' : Tunnel} {turn : TunnelTurn} (h : Step tunnel turn tunnel') :
    tunnel'.upstreamToClient =
      if turn.isUpstreamToClient then tunnel.upstreamToClient.step else tunnel.upstreamToClient := by
  cases h with
  | upstreamToClient => rfl
  | clientToUpstream => rfl
  | shutDownClient hresult hshutdown hopen =>
      rw [TunnelTurn.isUpstreamToClient, if_pos rfl, CopyTunnelDirection.step, hresult]
      dsimp only
      rw [← hshutdown]

theorem run_upstreamToClient (tunnel : Tunnel) (turns : List TunnelTurn) :
    (tunnel.run turns).upstreamToClient.copy =
      Copy.step^[turns.countP TunnelTurn.isUpstreamToClient] tunnel.upstreamToClient.copy := by
  induction turns generalizing tunnel with
  | nil => rfl
  | cons turn turns ih =>
      have hstep := (step_spec tunnel turn).upstreamToClient_eq
      rw [show tunnel.run (turn :: turns) = (tunnel.step turn).run turns from rfl, ih, hstep]
      cases turn with
      | upstreamToClient kept =>
          rw [List.countP_cons_of_pos rfl, Function.iterate_succ_apply, ← CopyTunnelDirection.step_copy]
          rfl
      | clientToUpstream =>
          rw [List.countP_cons_of_neg Bool.false_ne_true]
          rfl

/-- The client is shut down only when the copy to it has failed. -/
def ShutDownOnError (tunnel : Tunnel) : Prop :=
  tunnel.clientShutdown = true → ∃ source, tunnel.upstreamToClient.copy.result? = some (.error source)

theorem ShutDownOnError.step {tunnel tunnel' : Tunnel} {turn : TunnelTurn} (h : ShutDownOnError tunnel)
    (hstep : Step tunnel turn tunnel') : ShutDownOnError tunnel' := by
  cases hstep with
  | upstreamToClient hgoes =>
      intro hclient
      obtain ⟨source, hsource⟩ := h hclient
      refine ⟨source, ?_⟩
      show tunnel.upstreamToClient.step.copy.result? = _
      rw [CopyTunnelDirection.step_copy, Copy.step_of_ended hsource, hsource]
  | clientToUpstream => exact h
  | shutDownClient hresult hshutdown hopen => exact fun _ => ⟨_, hresult⟩

/-- Until then the other direction is on its own as well. -/
theorem run_clientToUpstream {tunnel : Tunnel} {turns : List TunnelTurn} (h : (tunnel.run turns).clientShutdown = false) :
    (tunnel.run turns).clientToUpstream.copy =
      Copy.step^[turns.countP fun turn => !turn.isUpstreamToClient] tunnel.clientToUpstream.copy := by
  induction turns generalizing tunnel with
  | nil => rfl
  | cons turn turns ih =>
      have hnext : (tunnel.step turn).clientShutdown = false := by
        by_contra hclient
        have hkept := run_invariant (P := fun tunnel => tunnel.clientShutdown = true)
          (fun hclient hstep => by cases hstep <;> simp_all) (eq_true_of_ne_false hclient) turns
        exact Bool.false_ne_true (h.symm.trans hkept)
      rw [show tunnel.run (turn :: turns) = (tunnel.step turn).run turns from rfl, ih h]
      cases turn with
      | upstreamToClient kept =>
          rw [List.countP_cons_of_neg Bool.false_ne_true]
          have hstep := step_spec tunnel (.upstreamToClient kept)
          generalize tunnel.step (.upstreamToClient kept) = tunnel' at hstep hnext
          cases hstep with
          | upstreamToClient hgoes => rfl
          | shutDownClient hresult hshutdown hopen => exact absurd hnext.symm Bool.false_ne_true
      | clientToUpstream =>
          rw [List.countP_cons_of_pos rfl, Function.iterate_succ_apply, ← CopyTunnelDirection.step_copy]
          rfl

/-! ### The bytes -/

theorem pending_take (events : List ReadEvent) (kept : Nat) :
    Reader.pending (⟨events.take kept⟩ : Source) <+: Reader.pending (⟨events⟩ : Source) := by
  have happend := congrArg (List.flatMap Source.eventBytes) (List.take_append_drop kept events)
  rw [List.flatMap_append] at happend
  exact ⟨_, happend⟩

/-- What has gone to the client comes first in what the upstream sends. -/
theorem run_toClient (client upstream : Endpoint) (turns : List TunnelTurn) :
    ∃ count, ((start client upstream).run turns).upstreamToClient.copy.writer.written =
      client.output.written ++ (Reader.pending upstream.input).take count := by
  have hcopies := Function.Iterate.rec (Copy.Copies (Reader.pending upstream.input) client.output)
    (Copy.copies_start upstream.input client.output) (fun copy h => h.step copy.step_spec)
    (turns.countP TunnelTurn.isUpstreamToClient)
  rw [run_upstreamToClient]
  exact hcopies.written

/-- A copy to the upstream of what the client sends, or of what comes first in it. -/
def CopiesToUpstream (bytes : Bytes) (writer : Sink) (tunnel : Tunnel) : Prop :=
  ∃ fewer, fewer <+: bytes ∧ Copy.Copies fewer writer tunnel.clientToUpstream.copy

theorem CopiesToUpstream.step {bytes : Bytes} {writer : Sink} {tunnel tunnel' : Tunnel} {turn : TunnelTurn}
    (h : CopiesToUpstream bytes writer tunnel) (hstep : Step tunnel turn tunnel') :
    CopiesToUpstream bytes writer tunnel' := by
  obtain ⟨fewer, hfewer, hcopies⟩ := h
  cases hstep with
  | upstreamToClient hgoes => exact ⟨fewer, hfewer, hcopies⟩
  | clientToUpstream =>
      refine ⟨fewer, hfewer, ?_⟩
      rw [CopyTunnelDirection.step_copy]
      exact hcopies.step (Copy.step_spec _)
  | shutDownClient hresult hshutdown hopen =>
      obtain ⟨fewest, hfewest, hcut⟩ := hcopies.cutOff (pending_take _ _)
      exact ⟨fewest, hfewest.trans hfewer, hcut⟩

/-- What has gone to the upstream comes first in what the client sends, also when the client is shut down. -/
theorem run_toUpstream (client upstream : Endpoint) (turns : List TunnelTurn) :
    ∃ count, ((start client upstream).run turns).clientToUpstream.copy.writer.written =
      upstream.output.written ++ (Reader.pending client.input).take count := by
  have hstart : CopiesToUpstream (Reader.pending client.input) upstream.output (start client upstream) :=
    ⟨_, List.prefix_rfl, Copy.copies_start client.input upstream.output⟩
  obtain ⟨fewer, ⟨more, hmore⟩, hcopies⟩ := run_invariant CopiesToUpstream.step hstart turns
  obtain ⟨count, hcount⟩ := hcopies.written
  refine ⟨min count fewer.length, ?_⟩
  rw [hcount, ← hmore, List.take_append_of_le_length (Nat.min_le_right _ _), ← List.take_eq_take_min]

/-! ### The end -/

/-- Whether the client is still to be shut down. -/
def closing (tunnel : Tunnel) : Nat :=
  match tunnel.upstreamToClient.copy.result? with
  | some (.ok _) => 0
  | _ => if tunnel.clientShutdown then 0 else 1

theorem CopyTunnelDirection.remaining_eq_zero {direction : CopyTunnelDirection} :
    direction.remaining = 0 ↔ direction.shutdown = true ∧ ∃ result, direction.copy.result? = some result := by
  rw [CopyTunnelDirection.remaining, Nat.add_eq_zero_iff, Copy.remaining_eq_zero, and_comm]
  cases direction.shutdown <;> simp

theorem closing_eq_zero {tunnel : Tunnel} :
    tunnel.closing = 0 ↔ (∃ count, tunnel.upstreamToClient.copy.result? = some (.ok count)) ∨ tunnel.clientShutdown = true := by
  rw [closing]
  split
  · rename_i count hcount
    exact iff_of_true rfl (.inl ⟨count, hcount⟩)
  · rename_i hnot
    cases tunnel.clientShutdown <;> simp_all

/-- There is a result as soon as both threads have ended. -/
theorem result_isSome {tunnel : Tunnel} (hdown : tunnel.upstreamToClient.remaining = 0) (hclosing : tunnel.closing = 0)
    (hup : tunnel.clientToUpstream.remaining = 0) : tunnel.result.isSome = true := by
  obtain ⟨hdownShutdown, downResult, hdownResult⟩ := CopyTunnelDirection.remaining_eq_zero.1 hdown
  obtain ⟨hupShutdown, upResult, hupResult⟩ := CopyTunnelDirection.remaining_eq_zero.1 hup
  rw [closing_eq_zero, hdownResult] at hclosing
  rw [result, hdownShutdown, hupShutdown, hdownResult, hupResult]
  cases downResult with
  | ok count => cases upResult <;> rfl
  | error source =>
      obtain ⟨count, hcount⟩ | hclient := hclosing
      · cases hcount
      · rw [hclient]
        rfl

theorem size_take (events : List ReadEvent) (kept : Nat) :
    Reader.size (⟨events.take kept⟩ : Source) ≤ Reader.size (⟨events⟩ : Source) := by
  have hpending := (pending_take events kept).length_le
  have hevents := List.length_take_le' kept events
  exact Nat.add_le_add hevents hpending

theorem remaining_cutOff (kept : Nat) (direction : CopyTunnelDirection) :
    (cutOff kept direction).remaining ≤ direction.remaining := by
  have hsize : Reader.size (⟨direction.copy.reader.events.take kept⟩ : Source) ≤ Reader.size direction.copy.reader :=
    size_take _ _
  refine Nat.add_le_add_right ?_ _
  simp only [cutOff, Copy.remaining]
  split
  · omega
  · omega
  · exact le_rfl

/-- The copy to the client takes nothing back. -/
theorem closing_step (tunnel : Tunnel) :
    ({ tunnel with upstreamToClient := tunnel.upstreamToClient.step } : Tunnel).closing ≤ tunnel.closing := by
  by_cases hzero : tunnel.closing = 0
  · obtain ⟨count, hcount⟩ | hclient := closing_eq_zero.1 hzero
    · refine (closing_eq_zero.2 (.inl ⟨count, ?_⟩)).le.trans (Nat.zero_le _)
      show tunnel.upstreamToClient.step.copy.result? = _
      rw [CopyTunnelDirection.step_copy, Copy.step_of_ended hcount, hcount]
    · refine le_trans (Eq.le ?_) (Nat.zero_le _)
      exact closing_eq_zero.2 (.inr hclient)
  · refine Nat.le_trans ?_ (Nat.pos_of_ne_zero hzero)
    rw [closing]
    split
    · exact Nat.zero_le _
    · split
      · exact Nat.zero_le _
      · exact le_rfl

/-- Each turn brings its own thread closer to its end. -/
theorem Step.remaining {tunnel tunnel' : Tunnel} {turn : TunnelTurn} (h : Step tunnel turn tunnel') :
    tunnel'.upstreamToClient.remaining + tunnel'.closing ≤
        tunnel.upstreamToClient.remaining + tunnel.closing - (if turn.isUpstreamToClient then 1 else 0) ∧
      tunnel'.clientToUpstream.remaining ≤
        tunnel.clientToUpstream.remaining - (if turn.isUpstreamToClient then 0 else 1) := by
  cases h with
  | upstreamToClient hgoes =>
      refine ⟨?_, le_rfl⟩
      have hstep := tunnel.upstreamToClient.remaining_step
      have hclosing := closing_step tunnel
      by_cases hzero : tunnel.upstreamToClient.remaining = 0
      · obtain ⟨hshutdown, result, hresult⟩ := CopyTunnelDirection.remaining_eq_zero.1 hzero
        have hnone : tunnel.closing = 0 := by
          rw [closing_eq_zero]
          cases result with
          | ok count => exact .inl ⟨count, hresult⟩
          | error source => exact .inr (hgoes source hresult hshutdown)
        dsimp only [TunnelTurn.isUpstreamToClient]
        omega
      · rw [TunnelTurn.isUpstreamToClient, if_pos rfl]
        dsimp only
        omega
  | clientToUpstream => exact ⟨le_rfl, tunnel.clientToUpstream.remaining_step⟩
  | shutDownClient hresult hshutdown hopen =>
      refine ⟨?_, remaining_cutOff _ _⟩
      have hone : tunnel.closing = 1 := by
        rw [closing, hresult]
        dsimp only
        rw [if_neg (by rw [hopen]; exact Bool.false_ne_true)]
      rw [hone, closing_eq_zero.2 (.inr rfl)]
      exact le_rfl

/-- With enough turns for each thread, in whatever order, there is a result. -/
theorem run_result_isSome {tunnel : Tunnel} {turns : List TunnelTurn}
    (hdown : tunnel.upstreamToClient.remaining + tunnel.closing ≤ turns.countP TunnelTurn.isUpstreamToClient)
    (hup : tunnel.clientToUpstream.remaining ≤ turns.countP fun turn => !turn.isUpstreamToClient) :
    (tunnel.run turns).result.isSome = true := by
  induction turns generalizing tunnel with
  | nil =>
      obtain ⟨hremaining, hclosing⟩ := Nat.add_eq_zero_iff.1 (Nat.le_zero.1 hdown)
      exact result_isSome hremaining hclosing (Nat.le_zero.1 hup)
  | cons turn turns ih =>
      have hstep := (step_spec tunnel turn).remaining
      apply ih
      · cases turn with
        | upstreamToClient kept =>
            rw [List.countP_cons_of_pos rfl] at hdown
            exact hstep.1.trans (Nat.sub_le_of_le_add hdown)
        | clientToUpstream =>
            rw [List.countP_cons_of_neg Bool.false_ne_true] at hdown
            exact hstep.1.trans hdown
      · cases turn with
        | upstreamToClient kept =>
            rw [List.countP_cons_of_neg Bool.false_ne_true] at hup
            exact hstep.2.trans hup
        | clientToUpstream =>
            rw [List.countP_cons_of_pos rfl] at hup
            exact hstep.2.trans (Nat.sub_le_of_le_add hup)

end Tunnel

/-! ### The whole tunnel -/

theorem sendBuffered_ok {bufferedClientBytes : Bytes} {upstream sent : Endpoint}
    (h : sendBuffered bufferedClientBytes upstream = .ok sent) :
    sent.input = upstream.input ∧ sent.output.written = upstream.output.written ++ bufferedClientBytes := by
  rw [sendBuffered] at h
  split at h
  · rename_i hempty
    obtain rfl := Except.ok.inj h
    rw [List.isEmpty_iff.1 hempty, List.append_nil]
    exact ⟨rfl, rfl⟩
  · split at h
    · cases h
    · rename_i output hwrite
      split at h
      · cases h
      · rename_i flushed hflush
        obtain rfl := Except.ok.inj h
        have hwritten := Sink.flush_written output
        rw [hflush, Sink.writeAll_ok hwrite] at hwritten
        exact ⟨rfl, hwritten⟩

theorem startTunnel_ok {session session' : Session} {calls : TunnelCalls} {client : Endpoint}
    {bufferedClientBytes : Bytes} {tunnel : Tunnel}
    (h : session.startTunnel calls client bufferedClientBytes = (.ok tunnel, session')) :
    ∃ upstream sent, session.upgradedUpstream = some upstream ∧ session'.upgradedUpstream = none ∧
      sendBuffered bufferedClientBytes upstream = .ok sent ∧ tunnel = .start client sent := by
  rw [Session.startTunnel] at h
  split at h
  · cases h
  · rename_i upstream hupstream
    obtain ⟨hok, rfl⟩ := Prod.ext_iff.1 h
    obtain ⟨_, -, hok⟩ := bind_eq_ok.1 hok
    obtain ⟨_, -, hok⟩ := bind_eq_ok.1 hok
    obtain ⟨sent, hsent, hok⟩ := bind_eq_ok.1 hok
    obtain ⟨_, -, hok⟩ := bind_eq_ok.1 hok
    obtain ⟨_, -, hok⟩ := bind_eq_ok.1 hok
    obtain ⟨_, -, hok⟩ := bind_eq_ok.1 hok
    exact ⟨upstream, sent, hupstream, rfl, hsent, (Except.ok.inj hok).symm⟩

/-- The result of the tunnel from those of its two copies: the copy to the client counts first. -/
def tunnelResult : Except IoError Nat → Except IoError Nat → Except ProxyError Unit
  | .error source, _ => .error (tunnelError source)
  | .ok _, .error source => .error (tunnelError source)
  | .ok _, .ok _ => .ok ()

theorem result_eq_some {tunnel : Tunnel} {result : Except ProxyError Unit} (h : tunnel.result = some result) :
    ∃ down up, tunnel.upstreamToClient.copy.result? = some down ∧ tunnel.clientToUpstream.copy.result? = some up ∧
      result = tunnelResult down up := by
  rw [Tunnel.result] at h
  split at h
  · split at h
    · rename_i hdown hup
      split at h
      · exact ⟨_, _, hdown, hup, (Option.some.inj h).symm⟩
      · cases h
    · rename_i hdown hup
      exact ⟨_, _, hdown, hup, (Option.some.inj h).symm⟩
    · rename_i hdown hup
      exact ⟨_, _, hdown, hup, (Option.some.inj h).symm⟩
    · cases h
  · cases h

/-- What a run of the tunnel has done, whoever had which turn. A copy that has ended without an error has written all
that its reader brings; for the copy to the upstream only if the client has not been shut down, which happens when the
copy to it has failed. -/
structure TunnelRun (client upstream : Endpoint) (tunnel : Tunnel) : Prop where
  toClient : ∃ count, tunnel.upstreamToClient.copy.writer.written =
    client.output.written ++ (Reader.pending upstream.input).take count
  toUpstream : ∃ count, tunnel.clientToUpstream.copy.writer.written =
    upstream.output.written ++ (Reader.pending client.input).take count
  shutDown : tunnel.clientShutdown = true → ∃ source, tunnel.upstreamToClient.copy.result? = some (.error source)
  allToClient : ∀ count, tunnel.upstreamToClient.copy.result? = some (.ok count) → Copy.Segmented upstream.input →
    tunnel.upstreamToClient.copy.writer.written = client.output.written ++ Reader.pending upstream.input
  allToUpstream : ∀ count, tunnel.clientToUpstream.copy.result? = some (.ok count) → tunnel.clientShutdown = false →
    Copy.Segmented client.input →
      tunnel.clientToUpstream.copy.writer.written = upstream.output.written ++ Reader.pending client.input
  ended : ∀ result, tunnel.result = some result →
    ∃ down up, tunnel.upstreamToClient.copy = Copy.all upstream.input client.output ∧
      (Copy.all upstream.input client.output).result? = some down ∧
      (∀ count, down = .ok count → tunnel.clientToUpstream.copy = Copy.all client.input upstream.output) ∧
      tunnel.clientToUpstream.copy.result? = some up ∧ result = tunnelResult down up

theorem run_shutDownOnError (client upstream : Endpoint) (turns : List TunnelTurn) :
    ((Tunnel.start client upstream).run turns).ShutDownOnError :=
  Tunnel.run_invariant Tunnel.ShutDownOnError.step
    (show Tunnel.ShutDownOnError (.start client upstream) from fun hshut => absurd hshut Bool.false_ne_true) turns

theorem run_ended (client upstream : Endpoint) (turns : List TunnelTurn) (result : Except ProxyError Unit)
    (h : ((Tunnel.start client upstream).run turns).result = some result) :
    ∃ down up, ((Tunnel.start client upstream).run turns).upstreamToClient.copy =
        Copy.all upstream.input client.output ∧
      (Copy.all upstream.input client.output).result? = some down ∧
      (∀ count, down = .ok count →
        ((Tunnel.start client upstream).run turns).clientToUpstream.copy = Copy.all client.input upstream.output) ∧
      ((Tunnel.start client upstream).run turns).clientToUpstream.copy.result? = some up ∧
      result = tunnelResult down up := by
  obtain ⟨down, up, hdown, hup, hresult⟩ := result_eq_some h
  obtain ⟨down', hdown'⟩ := Copy.all_result upstream.input client.output
  have hcopy := Tunnel.run_upstreamToClient (.start client upstream) turns
  have hall : ((Tunnel.start client upstream).run turns).upstreamToClient.copy =
      Copy.all upstream.input client.output := by
    rw [hcopy] at hdown ⊢
    exact Copy.iterate_eq_of_ended hdown hdown'
  refine ⟨down, up, hall, hall ▸ hdown, ?_, hup, hresult⟩
  rintro count rfl
  have hopen : ((Tunnel.start client upstream).run turns).clientShutdown = false := by
    by_contra hclient
    obtain ⟨source, hsource⟩ := run_shutDownOnError client upstream turns (eq_true_of_ne_false hclient)
    rw [hdown] at hsource
    cases hsource
  obtain ⟨up', hup'⟩ := Copy.all_result client.input upstream.output
  rw [Tunnel.run_clientToUpstream hopen] at hup ⊢
  exact Copy.iterate_eq_of_ended hup hup'

theorem tunnelResult_eq_ok {down up : Except IoError Nat} (h : .ok () = tunnelResult down up) :
    (∃ count, down = .ok count) ∧ ∃ count, up = .ok count := by
  cases down with
  | error source => cases h
  | ok downCount =>
      cases up with
      | error source => cases h
      | ok upCount => exact ⟨⟨downCount, rfl⟩, upCount, rfl⟩

theorem tunnelRun_start (client upstream : Endpoint) (turns : List TunnelTurn) :
    TunnelRun client upstream ((Tunnel.start client upstream).run turns) where
  toClient := Tunnel.run_toClient client upstream turns
  toUpstream := Tunnel.run_toUpstream client upstream turns
  shutDown := run_shutDownOnError client upstream turns
  allToClient := by
    intro count hended hsegmented
    rw [Tunnel.run_upstreamToClient] at hended ⊢
    exact Copy.iterate_written hsegmented hended
  allToUpstream := by
    intro count hended hopen hsegmented
    rw [Tunnel.run_clientToUpstream hopen] at hended ⊢
    exact Copy.iterate_written hsegmented hended
  ended := run_ended client upstream turns

theorem TunnelRun.open_of_ok {client upstream : Endpoint} {tunnel : Tunnel} (h : TunnelRun client upstream tunnel)
    {count : Nat} (hdown : tunnel.upstreamToClient.copy.result? = some (.ok count)) : tunnel.clientShutdown = false := by
  by_contra hshut
  obtain ⟨source, hsource⟩ := h.shutDown (eq_true_of_ne_false hshut)
  rw [hdown] at hsource
  cases hsource

/-- When the tunnel ends without an error, both copies have written everything. -/
theorem TunnelRun.complete {client upstream : Endpoint} {tunnel : Tunnel} (h : TunnelRun client upstream tunnel)
    (hresult : tunnel.result = some (.ok ())) (hupstream : Copy.Segmented upstream.input)
    (hclient : Copy.Segmented client.input) :
    tunnel.upstreamToClient.copy.writer.written = client.output.written ++ Reader.pending upstream.input ∧
      tunnel.clientToUpstream.copy.writer.written = upstream.output.written ++ Reader.pending client.input := by
  obtain ⟨down, up, hdown, hup, hok⟩ := result_eq_some hresult
  obtain ⟨⟨downCount, rfl⟩, upCount, rfl⟩ := tunnelResult_eq_ok hok
  exact ⟨h.allToClient _ hdown hupstream, h.allToUpstream _ hup (h.open_of_ok hdown) hclient⟩

/-- Whoever has which turn: what has been written in each direction comes first in what is read there, after what the
client sent before the tunnel opened; a copy that has ended without an error has written everything, the one to the
upstream unless the client has been shut down because the copy to it failed. With enough turns for each thread there is
a result, and it is that of the two copies on their own, unless the copy to the client fails, which is then the
result. -/
theorem tunnelUpgraded_exact {session session' : Session} {calls : TunnelCalls} {client : Endpoint}
    {bufferedClientBytes : Bytes} {tunnel : Tunnel}
    (h : session.startTunnel calls client bufferedClientBytes = (.ok tunnel, session')) :
    ∃ upstream sent, session.upgradedUpstream = some upstream ∧ session'.upgradedUpstream = none ∧
      sent.input = upstream.input ∧ sent.output.written = upstream.output.written ++ bufferedClientBytes ∧
      ∀ turns, TunnelRun client sent (tunnel.run turns) ∧
        (2 * Reader.size upstream.input + 3 ≤ turns.countP TunnelTurn.isUpstreamToClient →
          2 * Reader.size client.input + 2 ≤ turns.countP (fun turn => !turn.isUpstreamToClient) →
          ∃ result, (tunnel.run turns).result = some result) := by
  obtain ⟨upstream, sent, hupstream, hsession, hsent, rfl⟩ := startTunnel_ok h
  obtain ⟨hinput, houtput⟩ := sendBuffered_ok hsent
  refine ⟨upstream, sent, hupstream, hsession, hinput, houtput, fun turns => ⟨tunnelRun_start client sent turns, ?_⟩⟩
  intro hdown hup
  rw [← hinput] at hdown
  exact Option.isSome_iff_exists.1 (Tunnel.run_result_isSome hdown hup)

/-- The client has sent two bytes before the tunnel opens and one after, and the upstream answers with one. -/
theorem tunnelUpgraded_exact_two :
    ∃ tunnel, Session.startTunnel ⟨none, some ⟨.ofSegments [[3]], .accepting []⟩, 30⟩ ⟨.ok (), .ok (), .ok (), .ok (), .ok ()⟩
        ⟨.ofSegments [[2]], .accepting []⟩ [0, 1] = (.ok tunnel, ⟨none, none, 30⟩) ∧
      ∀ turns, 7 ≤ turns.countP TunnelTurn.isUpstreamToClient →
        6 ≤ turns.countP (fun turn => !turn.isUpstreamToClient) →
          (∃ result, (tunnel.run turns).result = some result) ∧
            (tunnel.run turns).upstreamToClient.copy.writer.written = [3] ∧
            ∀ count, (tunnel.run turns).clientToUpstream.copy.result? = some (.ok count) →
              (tunnel.run turns).clientToUpstream.copy.writer.written = [0, 1, 2] := by
  refine ⟨_, rfl, fun turns hdown hup => ?_⟩
  obtain ⟨_, sent, hupstream, -, hinput, hwritten, hrun⟩ := tunnelUpgraded_exact
    (show Session.startTunnel ⟨none, some ⟨.ofSegments [[3]], .accepting []⟩, 30⟩
      ⟨.ok (), .ok (), .ok (), .ok (), .ok ()⟩ ⟨.ofSegments [[2]], .accepting []⟩ [0, 1] = (.ok _, ⟨none, none, 30⟩) from rfl)
  cases hupstream
  obtain ⟨hturns, hends⟩ := hrun turns
  obtain ⟨result, hresult⟩ := hends hdown hup
  obtain ⟨down, _, hall, hdownResult, -⟩ := hturns.ended result hresult
  rw [hinput] at hall hdownResult
  refine ⟨⟨result, hresult⟩, by rw [hall]; decide, fun count hcount => ?_⟩
  have hopen := @TunnelRun.open_of_ok _ _ _ hturns 1 (by rw [hall]; decide)
  have hsegmented : Copy.Segmented (.ofSegments [[2]]) := fun event hevent => by
    rw [List.mem_singleton.1 hevent]
    decide
  rw [hturns.allToUpstream count hcount hopen hsegmented, hwritten]
  decide

end BareProxy.Proxy
