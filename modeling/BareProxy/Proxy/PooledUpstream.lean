import BareProxy.Config.UpstreamAddress
import BareProxy.Proxy.Pooling

/-!
# The upstream of a kept connection

A connection is kept under the address of its upstream and looked up by an address. A record beside the session says for
which upstream the connection was opened: the network that a call leaves shows whether the call opened one. Over every run
of calls the record names the upstream that a call goes to whenever the call uses the connection again.
-/

namespace BareProxy.Proxy

open Http Config

/-- A session, and the upstream of the call that opened its connection. -/
structure TracedSession where
  session : Session
  openedFor : Option Upstream

def TracedSession.new (upstreamTimeoutSeconds : Nat) : TracedSession :=
  { session := Session.new upstreamTimeoutSeconds, openedFor := none }

/-- The call has asked the network for a connection. -/
def ExchangeCall.Opens (net : StdNet) (call : ExchangeCall) (session : Session) : Prop :=
  (call.run net session).2.network.length < call.network.length

instance (net : StdNet) (call : ExchangeCall) (session : Session) : Decidable (call.Opens net session) :=
  inferInstanceAs (Decidable (_ < _))

def TracedSession.call (net : StdNet) (traced : TracedSession) (call : ExchangeCall) : TracedSession where
  session := (call.run net traced.session).2.session
  openedFor := if call.Opens net traced.session then some call.route.upstream else traced.openedFor

/-- The kept connection has the address of the upstream that it was opened for. -/
def TracedSession.Consistent (traced : TracedSession) : Prop :=
  ∀ connection, traced.session.upstream = some connection →
    ∃ upstream, traced.openedFor = some upstream ∧ IsUpstream upstream ∧ connection.address = upstream.address

/-- A connection that was opened is missing in the network. -/
theorem openConnection_length {address : Bytes} {network network' : Network} {stream : Endpoint}
    (h : network.openConnection address = (.ok stream, network')) : network'.length < network.length := by
  cases network with
  | nil => cases h
  | cons resolution network =>
    obtain rfl := (Prod.mk.inj h).2
    exact Nat.lt_succ_self _

/-- A connection is taken from the session under its address, with the network as it was, or else opened. -/
theorem takeUpstream_ok {address : Bytes} {session : Session} {network network' : Network} {stream : Endpoint}
    (h : takeUpstream address session network = (.ok stream, network')) :
    (network' = network ∧ ∃ connection, session.upstream = some connection ∧ connection.address = address ∧
      connection.stream = stream) ∨ network'.length < network.length := by
  rw [takeUpstream.eq_def] at h
  split at h
  · rename_i connection hkept
    split at h
    · rename_i hsame
      cases h
      exact Or.inl ⟨rfl, connection, hkept, hsame, rfl⟩
    · exact Or.inr (openConnection_length h)
  · exact Or.inr (openConnection_length h)

/-- The network that a call leaves is the one left by taking the connection. -/
theorem ExchangeCall.run_network {net : StdNet} {call : ExchangeCall} {session : Session}
    {requested : Option (List Bytes)} (hupgrade : requestUpgradeProtocols call.request = .ok requested) :
    (call.run net session).2.network = (takeUpstream call.route.upstream.address session call.network).2 := by
  rw [ExchangeCall.run, exchangeWithProto.eq_def, hupgrade]
  dsimp only
  split
  · rename_i htake
    rw [htake]
  · rename_i htake
    rw [htake]
    split
    all_goals rfl

theorem TracedSession.Consistent.call {net : StdNet} {traced : TracedSession} (h : traced.Consistent) {call : ExchangeCall}
    (hcall : IsUpstream call.route.upstream) : (traced.call net call).Consistent := by
  intro connection hkept
  cases hupgrade : requestUpgradeProtocols call.request with
  | error error =>
    have hrun : (call.run net traced.session).2 =
        { session := traced.session, network := call.network, client := call.client } := by
      rw [ExchangeCall.run, exchangeWithProto, hupgrade]
    have hopens : ¬ call.Opens net traced.session := by
      rw [ExchangeCall.Opens, hrun]
      exact Nat.lt_irrefl _
    rw [TracedSession.call, hrun] at hkept
    rw [TracedSession.call, if_neg hopens]
    exact h connection hkept
  | ok requested =>
    obtain ⟨taken, network, _, htake, -, -, haddress⟩ := ExchangeCall.run_keeps hupgrade hkept
    have hnetwork := @ExchangeCall.run_network net call traced.session _ hupgrade
    rw [htake] at hnetwork
    have hopens : call.Opens net traced.session ↔ network.length < call.network.length := by
      unfold ExchangeCall.Opens
      rw [hnetwork]
    rw [TracedSession.call]
    obtain ⟨rfl, pooled, hpooled, hsame, -⟩ | hlength := takeUpstream_ok htake
    · rw [if_neg fun hopened => Nat.lt_irrefl _ (hopens.1 hopened)]
      obtain ⟨upstream, hopened, hupstream, hpooledAddress⟩ := h pooled hpooled
      exact ⟨upstream, hopened, hupstream, by rw [haddress, ← hsame, hpooledAddress]⟩
    · rw [if_pos (hopens.2 hlength)]
      exact ⟨_, rfl, hcall, haddress⟩

theorem TracedSession.Consistent.run {traced : TracedSession} (h : traced.Consistent) (net : StdNet)
    {calls : List ExchangeCall} (hcalls : ∀ call ∈ calls, IsUpstream call.route.upstream) :
    (calls.foldl (TracedSession.call net) traced).Consistent := by
  induction calls generalizing traced with
  | nil => exact h
  | cons call calls ih =>
    obtain ⟨hcall, hrest⟩ := List.forall_mem_cons.1 hcalls
    exact ih (h.call hcall) hrest

end BareProxy.Proxy
