import BareProxy.Config.Route
import BareProxy.Der.DnsName
import BareProxy.Tls.ClientHello

/-!
# The host names of every layer

The configuration, the request parser, the certificate requests and the TLS handshake each check host names with code
of their own. All of them accept the same names, up to the dot at the end, the wildcard and the addresses that some of
them single out, so a name that came in through one layer is a name to the next.
-/

namespace BareProxy

open Config Der Http Tls

/-! ### One syntax -/

theorem Config.isValidHostname_iff {name : Bytes} : isValidHostname name = true ↔ IsHostname name := by
  have hlabels : (name.splitOn 46).all isValidHostnameLabel = true ↔ ∀ label ∈ name.splitOn 46, IsLabel label := by
    rw [List.all_eq_true]
    exact forall₂_congr fun _ _ => isLabel_iff_alphanumeric
  rw [isValidHostname]
  constructor
  · intro h
    split at h
    · cases h
    · rename_i hshape
      simp only [Bool.or_eq_true, decide_eq_true_eq, not_or] at hshape
      exact ⟨by omega, hlabels.1 h⟩
  · intro h
    rw [if_neg]
    · exact hlabels.2 h.labels
    · simp [h.ne_nil, h.isAscii, h.short]

/-- `strip_suffix('.')`, or all of the name. -/
def withoutTrailingDot (name : Bytes) : Bytes := if name.getLast? = some 46 then name.dropLast else name

theorem Http.isValidAuthorityHostname_iff {name : Bytes} :
    isValidAuthorityHostname name = true ↔ IsHostname (withoutTrailingDot name) := by
  have hlabels : ((withoutTrailingDot name).splitOn 46).all isValidAuthorityHostnameLabel = true ↔
      ∀ label ∈ (withoutTrailingDot name).splitOn 46, IsLabel label := by
    rw [List.all_eq_true]
    exact forall₂_congr fun _ _ => isLabel_iff_alphanumeric
  show (if (withoutTrailingDot name).isEmpty || (withoutTrailingDot name).length > 253 then false
    else ((withoutTrailingDot name).splitOn 46).all isValidAuthorityHostnameLabel) = true ↔ _
  constructor
  · intro h
    split at h
    · cases h
    · rename_i hshape
      simp only [Bool.or_eq_true, decide_eq_true_eq, not_or] at hshape
      exact ⟨by omega, hlabels.1 h⟩
  · intro h
    rw [if_neg]
    · exact hlabels.2 h.labels
    · simp [h.ne_nil, h.short]

theorem Tls.isValidServerName_iff {name : Bytes} :
    isValidServerName name = true ↔ IsHostname name ∧ parsesAsIpAddr name = false := by
  have hlabels : ((name.splitOn 46).all fun label =>
      !label.isEmpty && label.length ≤ 63 && label.head? != some 45 && label.getLast? != some 45 &&
        label.all fun b => isAsciiAlphanumeric b || b == 45) = true ↔ ∀ label ∈ name.splitOn 46, IsLabel label := by
    rw [List.all_eq_true]
    exact forall₂_congr fun _ _ => isLabel_iff_hyphen
  rw [isValidServerName]
  constructor
  · intro h
    split at h
    · cases h
    · split at h
      · cases h
      · split at h
        · cases h
        · rename_i hshape
          simp only [Bool.or_eq_true, decide_eq_true_eq, not_or, Bool.not_eq_true] at hshape
          exact ⟨⟨by omega, hlabels.1 h⟩, hshape.2⟩
  · intro hfacts
    obtain ⟨h, hip⟩ := hfacts
    rw [if_neg (by simp [h.ne_nil, h.isAscii]), if_neg (by simp [validUtf8_of_isAscii h.isAscii]), if_neg]
    · exact hlabels.2 h.labels
    · simp [h.getLast_ne_dot, h.short, hip]

/-! ### From an accepted name to a route -/

section Lookup

variable {name : Bytes}

theorem normalizeHostname_of_isHostname (h : IsHostname (withoutTrailingDot name)) :
    normalizeHostname name = some (toAsciiLowercase (withoutTrailingDot name)) := by
  have hdots : name.rdropWhile (· == 46) = withoutTrailingDot name := by
    unfold withoutTrailingDot at h ⊢
    split at h
    · rename_i hlast
      obtain ⟨init, rfl⟩ := List.getLast?_eq_some_iff.1 hlast
      rw [if_pos hlast]
      rw [List.dropLast_concat] at h ⊢
      rw [List.rdropWhile_concat_pos _ _ _ (by decide)]
      exact h.rdropWhile_dot
    · rename_i hlast
      rw [if_neg hlast]
      exact h.rdropWhile_dot
  have hvalid : isValidHostname (withoutTrailingDot name) = true := isValidHostname_iff.2 h
  simp only [normalizeHostname, hdots, hvalid, Bool.not_true, Bool.false_eq_true, if_false]

theorem printable_of_isHostname (h : IsHostname (withoutTrailingDot name)) :
    ∀ b ∈ name, 33 ≤ b ∧ b < 128 ∧ b ≠ 58 := by
  intro b hb
  have hmem : b ∈ withoutTrailingDot name ∨ b = 46 := by
    unfold withoutTrailingDot
    split
    · rename_i hlast
      obtain ⟨init, rfl⟩ := List.getLast?_eq_some_iff.1 hlast
      rw [List.dropLast_concat]
      exact (List.mem_append.1 hb).imp id List.mem_singleton.1
    · exact Or.inl hb
  have hfacts := hostnameByte_facts (hmem.elim h.chars fun heq => Or.inr (Or.inr heq))
  exact ⟨hfacts.1, hfacts.2.1, hfacts.2.2.2⟩

section Request

variable {before after : Bytes} (hbefore : IsWhitespace before) (hafter : IsWhitespace after)
  (hprintable : ∀ b ∈ name, 33 ≤ b ∧ b < 128 ∧ b ≠ 58)

include hbefore hafter hprintable

/-- A host without a port, with white space around it. -/
theorem normalizeRequestHost_name (hne : name ≠ []) :
    normalizeRequestHost (before ++ name ++ after) = normalizeHostname name := by
  have hcolon : 58 ∉ name := fun hmem => (hprintable 58 hmem).2.2 rfl
  have htrim := trim_append hbefore hafter hne fun b hb => ⟨(hprintable b hb).1, (hprintable b hb).2.1⟩
  rw [normalizeRequestHost, htrim]
  simp only [List.isEmpty_iff, hne, if_false, rsplitOnce_eq_none hcolon]

/-- A host with a port. -/
theorem normalizeRequestHost_port {port : Bytes} (hport : isValidAuthorityPort port = true) :
    normalizeRequestHost (before ++ (name ++ 58 :: port) ++ after) = normalizeHostname name := by
  simp only [isValidAuthorityPort, Bool.and_eq_true, Bool.not_eq_true', List.isEmpty_eq_false_iff] at hport
  obtain ⟨⟨hnonempty, hdigits⟩, hnumber⟩ := hport
  have hcolon : 58 ∉ name := fun hmem => (hprintable 58 hmem).2.2 rfl
  have hdigit : ∀ b ∈ port, 33 ≤ b ∧ b < 128 ∧ b ≠ 42 ∧ b ≠ 58 := by
    intro b hb
    apply hostnameByte_facts
    left
    simp [isAsciiAlphanumeric, List.all_eq_true.1 hdigits b hb]
  have hsplit : rsplitOnce 58 (name ++ 58 :: port) = some (name, port) :=
    rsplitOnce_append (fun hmem => (hdigit 58 hmem).2.2.2 rfl) name
  have hne : name ++ 58 :: port ≠ [] := by simp
  have htrim : trim (before ++ (name ++ 58 :: port) ++ after) = name ++ 58 :: port := by
    apply trim_append hbefore hafter hne
    intro b hb
    rw [List.mem_append, List.mem_cons] at hb
    rcases hb with hb | rfl | hb
    · exact ⟨(hprintable b hb).1, (hprintable b hb).2.1⟩
    · decide
    · exact ⟨(hdigit b hb).1, (hdigit b hb).2.1⟩
  have hparsed : (parseU16 port).isNone = false := by
    rw [Option.isNone_eq_false_iff]
    exact hnumber
  rw [normalizeRequestHost, htrim]
  simp only [List.isEmpty_iff, hne, if_false, hsplit]
  rw [if_neg]
  simp [hcolon, hnonempty, hdigits, hparsed]

end Request

theorem normalizeRequestHost_of_isHostname (h : IsHostname (withoutTrailingDot name)) :
    normalizeRequestHost name = some (toAsciiLowercase (withoutTrailingDot name)) := by
  have hne : name ≠ [] := by
    rintro rfl
    exact h.ne_nil rfl
  have hname := normalizeRequestHost_name isWhitespace_nil isWhitespace_nil (printable_of_isHostname h) hne
  rw [List.nil_append, List.append_nil] at hname
  rw [hname, normalizeHostname_of_isHostname h]

theorem normalizeRequestHost_of_port {authority port : Bytes} (hsplit : rsplitOnce 58 authority = some (name, port))
    (h : IsHostname (withoutTrailingDot name)) (hport : isValidAuthorityPort port = true) :
    normalizeRequestHost authority = some (toAsciiLowercase (withoutTrailingDot name)) := by
  have hname := normalizeRequestHost_port isWhitespace_nil isWhitespace_nil (printable_of_isHostname h) hport
  rw [List.nil_append, List.append_nil] at hname
  rw [eq_append_of_rsplitOnce hsplit, hname, normalizeHostname_of_isHostname h]

theorem routeForHost_ne_invalidHost {config : Config} {host hostname : Bytes}
    (h : normalizeRequestHost host = some hostname) : routeForHost config host ≠ .error .invalidHost := by
  rw [routeForHost, h]
  cases hfind : config.routes.find? fun route => route.hostname = hostname <;> simp [okOr, hfind]

end Lookup

/-! ### Where the names come from -/

/-- A server name that was read from a handshake is a host name. -/
theorem isHostname_of_parseServerName {input name : Bytes} (h : parseServerName input = .ok (some name)) :
    IsHostname name := by
  obtain ⟨⟨serverNameList, outer⟩, -, h⟩ := bind_eq_ok.1 h
  obtain ⟨_, -, h⟩ := bind_eq_ok.1 h
  obtain ⟨_, -, h⟩ := bind_eq_ok.1 h
  obtain ⟨⟨seen, serverName⟩, hloop, h⟩ := bind_eq_ok.1 h
  cases h
  refine serverNameLoop.run_invariant (P := fun state => ∀ name, state.2 = some name → IsHostname name) ?_ ?_ hloop name
    rfl
  · intro state state' reader rest hkept hstep
    obtain ⟨⟨nameType, reader₁⟩, -, hstep⟩ := bind_eq_ok.1 hstep
    obtain ⟨⟨raw, reader₂⟩, -, hstep⟩ := bind_eq_ok.1 hstep
    obtain ⟨_, -, hstep⟩ := bind_eq_ok.1 hstep
    dsimp only at hstep
    split at hstep
    · obtain ⟨_, hvalid, hstep⟩ := bind_eq_ok.1 hstep
      obtain ⟨_, -, hstep⟩ := bind_eq_ok.1 hstep
      cases hstep
      intro name hname
      cases hname
      exact (isValidServerName_iff.1 (ensure_eq_ok.1 hvalid)).1.toAsciiLowercase
    · cases hstep
      exact hkept
  · intro name hnone
    cases hnone

/-- The host of a request that is no address in brackets is a host name, with or without a port. -/
theorem normalizeRequestHost_of_isValidHostAuthority {net : StdNet} {authority : Bytes}
    (h : isValidHostAuthority net authority = true) (hbracket : authority.head? ≠ some 91) :
    ∃ hostname, normalizeRequestHost authority = some hostname := by
  unfold isValidHostAuthority at h
  split at h
  · cases h
  · split at h
    · exact absurd rfl hbracket
    · split at h
      · cases h
      · split at h
        · rename_i hostname port hsplit
          split at h
          · cases h
          · split at h
            · cases h
            · rename_i hname
              rw [Bool.not_eq_true', Bool.not_eq_false] at hname
              exact ⟨_, normalizeRequestHost_of_port hsplit (isValidAuthorityHostname_iff.1 hname) h⟩
        · exact ⟨_, normalizeRequestHost_of_isHostname (isValidAuthorityHostname_iff.1 h)⟩

theorem withoutTrailingDot_of_isHostname {name : Bytes} (h : IsHostname name) : withoutTrailingDot name = name :=
  if_neg h.getLast_ne_dot

/-- The checkers agree, and no name that TLS or the request parser accepted is an invalid host to the routes. -/
theorem hostnameCheckers_agree :
    (∀ name, ¬ascii "*." <+: name → (isValidHostname name = true ↔ validateDnsName name = .ok ())) ∧
    (∀ name, isValidAuthorityHostname name = true ↔ isValidHostname (withoutTrailingDot name) = true) ∧
    (∀ name, isValidServerName name = true ↔ isValidHostname name = true ∧ parsesAsIpAddr name = false) ∧
    (∀ config name, isValidServerName name = true → routeForHost config name ≠ .error .invalidHost) ∧
    (∀ config input name, parseServerName input = .ok (some name) →
      routeForHost config name ≠ .error .invalidHost) ∧
    ∀ config net (request : Request) authority, request.host net = some authority → authority.head? ≠ some 91 →
      routeForHost config authority ≠ .error .invalidHost := by
  have hname : ∀ config name, IsHostname name → routeForHost config name ≠ .error .invalidHost := by
    intro config name h
    apply routeForHost_ne_invalidHost
    apply normalizeRequestHost_of_isHostname
    rwa [withoutTrailingDot_of_isHostname h]
  refine ⟨?_, ?_, ?_, ?_, ?_, ?_⟩
  · intro name hstar
    rw [isValidHostname_iff, validateDnsName_iff hstar]
  · intro name
    rw [isValidAuthorityHostname_iff, isValidHostname_iff]
  · intro name
    rw [isValidServerName_iff, isValidHostname_iff]
  · intro config name h
    exact hname config name (isValidServerName_iff.1 h).1
  · intro config input name h
    exact hname config name (isHostname_of_parseServerName h)
  · intro config net request authority h hbracket
    unfold Request.host at h
    split at h
    · split at h
      · rename_i hvalid
        cases h
        obtain ⟨hostname, hhost⟩ :=
          normalizeRequestHost_of_isValidHostAuthority (Bool.and_eq_true_iff.1 hvalid).2 hbracket
        exact routeForHost_ne_invalidHost hhost
      · cases h
    · cases h

/-- The dot, the wildcard and the address are what sets them apart. -/
example : isValidHostname (ascii "a.example") = true ∧ isValidHostname (ascii "a.example.") = false ∧
    isValidAuthorityHostname (ascii "a.example.") = true ∧ isValidAuthorityHostname (ascii "a.example..") = false ∧
    validateDnsName (ascii "*.example") = .ok () ∧ isValidHostname (ascii "127.0.0.1") = true := by
  decide

end BareProxy
