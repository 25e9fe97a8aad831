import BareProxy.Config.RouteLookup

/-!
# The address of an upstream

An upstream is read from a text and printed as its address. Reading the address gives the upstream back, so the address
of one upstream is never that of another.
-/

namespace BareProxy

open Http

namespace Config

/-! ### What is read -/

/-- The host of an upstream: an IPv6 address in any spelling, or a text that is its own normal form. -/
def IsUpstreamHost (host : Bytes) : Prop :=
  (93 ∉ host ∧ ∃ address, parseIpAddr host = some address ∧ address.length ≠ 4) ∨
    (58 ∉ host ∧ 91 ∉ host ∧ normalizeUpstreamHost host = some host)

/-- An upstream as it is read. -/
structure IsUpstream (upstream : Upstream) : Prop where
  host : IsUpstreamHost upstream.host
  port_pos : 0 < upstream.port
  port_le : upstream.port ≤ 65535

end Config

end BareProxy
