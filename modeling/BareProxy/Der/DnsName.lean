import BareProxy.Base.Hostname
import BareProxy.Der.Reader

/-!
# DNS names

The names a certificate request may carry: a host name, or `*.` and a host name.
-/

namespace BareProxy.Der

/-- The name without its wildcard. No other `*` may stand in it. -/
def dnsNameHostname (dnsName : Bytes) : Except DerError Bytes :=
  match dnsName with
  | 42 :: 46 :: hostname => if hostname.isEmpty then .error .invalidDnsName else .ok hostname
  | _ => if 42 ∈ dnsName then .error .invalidDnsName else .ok dnsName

def validateDnsName (dnsName : Bytes) : Except DerError Unit := do
  ensure (!(dnsName.isEmpty || !isAscii dnsName || dnsName.length > 253 || dnsName.getLast? == some 46)) .invalidDnsName
  let hostname ← dnsNameHostname dnsName
  ensure ((hostname.splitOn 46).all fun label =>
    !label.isEmpty && label.length ≤ 63 && label.head? != some 45 && label.getLast? != some 45 &&
      label.all fun b => isAsciiAlphanumeric b || b == 45) .invalidDnsName

theorem dnsNameHostname_eq {name : Bytes} (hname : ¬ascii "*." <+: name) :
    dnsNameHostname name = if 42 ∈ name then .error .invalidDnsName else .ok name := by
  unfold dnsNameHostname
  split
  · rename_i hostname
    exact absurd ⟨hostname, rfl⟩ hname
  · rfl

/-- A name that does not start with `*.` is accepted exactly when it is a host name. -/
theorem validateDnsName_iff {name : Bytes} (hname : ¬ascii "*." <+: name) :
    validateDnsName name = .ok () ↔ IsHostname name := by
  rw [validateDnsName, dnsNameHostname_eq hname]
  simp only [bind_eq_ok, ensure_eq_ok, List.all_eq_true, isLabel_iff_hyphen]
  constructor
  · intro hfacts
    obtain ⟨_, hshape, hostname, hstar, hlabels⟩ := hfacts
    split at hstar
    · cases hstar
    · cases hstar
      simp only [Bool.not_eq_true', Bool.or_eq_false_iff, decide_eq_false_iff_not] at hshape
      exact ⟨by omega, hlabels⟩
  · intro h
    have hstar : 42 ∉ name := fun hmem => (hostnameByte_facts (h.chars hmem)).2.2.1 rfl
    refine ⟨⟨⟩, ?_, name, if_neg hstar, h.labels⟩
    simp [h.ne_nil, h.isAscii, h.getLast_ne_dot, h.short]

end BareProxy.Der
