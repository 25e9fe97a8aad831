import BareProxy.Config.Hostname
import BareProxy.Config.LineOrder
import BareProxy.Http.Grammar

/-!
# Looking up a route

The configuration keeps the normal form of a hostname, and a request is looked up by the normal form of its host. Case,
dots at the end, a port and white space around it all change neither, so every way to spell the hostname of a line finds
the route of that line, and no other name finds any.
-/

namespace BareProxy

open Http

namespace Config

/-! ### The normal form -/

/-- The normal form is made of the lower case of the name. -/
theorem normalizeHostname_eq (name : Bytes) :
    normalizeHostname name =
      if isValidHostname ((toAsciiLowercase name).rdropWhile (· == 46)) then
        some ((toAsciiLowercase name).rdropWhile (· == 46))
      else none := by
  have hvalid : isValidHostname (toAsciiLowercase (name.rdropWhile (· == 46))) =
      isValidHostname (name.rdropWhile (· == 46)) := by
    rw [Bool.eq_iff_iff, isValidHostname_iff, isValidHostname_iff, isHostname_toAsciiLowercase]
  rw [← toAsciiLowercase_rdropWhile_dot, hvalid, normalizeHostname]
  cases isValidHostname (name.rdropWhile (· == 46)) <;> rfl

theorem normalizeHostname_congr {left right : Bytes} (h : eqIgnoreAsciiCase left right = true) :
    normalizeHostname left = normalizeHostname right := by
  rw [normalizeHostname_eq, eqIgnoreAsciiCase_iff.1 h, ← normalizeHostname_eq]

theorem normalizeHostname_dots (name : Bytes) (dots : Nat) :
    normalizeHostname (name ++ List.replicate dots 46) = normalizeHostname name := by
  have hdrop : (name ++ List.replicate dots 46).rdropWhile (· == 46) = name.rdropWhile (· == 46) := by
    induction dots with
    | zero => rw [List.replicate_zero, List.append_nil]
    | succ dots ih =>
      rw [List.replicate_succ', ← List.append_assoc, List.rdropWhile_concat_pos _ _ _ (by decide)]
      exact ih
  rw [normalizeHostname, normalizeHostname, hdrop]

/-- A normal form is its own. -/
theorem normalizeHostname_fixed {name hostname : Bytes} (h : normalizeHostname name = some hostname) :
    normalizeHostname hostname = some hostname := by
  rw [normalizeHostname_eq] at h
  split at h
  · rename_i hvalid
    have hhostname := Option.some.inj h
    rw [hhostname] at hvalid
    have hlower : toAsciiLowercase hostname = hostname := by
      rw [← hhostname, toAsciiLowercase_rdropWhile_dot, toAsciiLowercase_idem]
    rw [normalizeHostname_eq, hlower, (isValidHostname_iff.1 hvalid).rdropWhile_dot, if_pos hvalid]
  · cases h

theorem normalizeHostname_facts {name hostname : Bytes} (h : normalizeHostname name = some hostname) :
    name ≠ [] ∧ ∀ b ∈ name, 33 ≤ b ∧ b < 128 ∧ b ≠ 58 := by
  rw [normalizeHostname] at h
  split at h
  · cases h
  · rename_i hvalid
    rw [Bool.not_eq_true', Bool.not_eq_false] at hvalid
    have hhostname := isValidHostname_iff.1 hvalid
    constructor
    · rintro rfl
      exact hhostname.ne_nil rfl
    · intro b hb
      have hmem : b ∈ name.rdropWhile (· == 46) ∨ b = 46 := by
        rw [← List.rdropWhile_append_rtakeWhile (p := (· == 46)) (l := name), List.mem_append] at hb
        refine hb.imp id fun hb => ?_
        have hdot := List.mem_rtakeWhile_imp hb
        exact eq_of_beq hdot
      have hfacts := hostnameByte_facts (hmem.elim hhostname.chars fun heq => Or.inr (Or.inr heq))
      exact ⟨hfacts.1, hfacts.2.1, hfacts.2.2.2⟩

/-! ### Spellings of a host -/

/-- Nothing, or a colon and a decimal number of 16 bits. -/
def IsPortSuffix (s : Bytes) : Prop :=
  s = [] ∨ ∃ port, s = 58 :: port ∧ port ≠ [] ∧ (∀ b ∈ port, isAsciiDigit b = true) ∧ radixValue 10 port ≤ 65535

/-- The text in another case, with dots and a port behind it and white space around it. -/
def IsSpelling (text host : Bytes) : Prop :=
  ∃ before name dots port after, eqIgnoreAsciiCase name text = true ∧ IsWhitespace before ∧ IsWhitespace after ∧
    IsPortSuffix port ∧ host = before ++ (name ++ List.replicate dots 46 ++ port) ++ after

theorem isValidAuthorityPort_of_digits {port : Bytes} (hne : port ≠ []) (hdigits : ∀ b ∈ port, isAsciiDigit b = true)
    (hvalue : radixValue 10 port ≤ 65535) : isValidAuthorityPort port = true := by
  have hsign : port.head? ≠ some 43 := by
    intro hhead
    have hplus := hdigits 43 (List.mem_of_mem_head? hhead)
    revert hplus
    decide
  have hparse : parseU16 port = some (radixValue 10 port) :=
    (fromStrRadix_iff (by decide) hsign).2 ⟨isNumeral_ten.2 ⟨hne, hdigits⟩, rfl, hvalue⟩
  rw [isValidAuthorityPort, List.isEmpty_eq_false_iff.2 hne, List.all_eq_true.2 hdigits, hparse]
  rfl

/-- Every spelling has the normal form of the text. -/
theorem normalizeRequestHost_spelling {text hostname host : Bytes} (h : normalizeHostname text = some hostname)
    (hspelling : IsSpelling text host) : normalizeRequestHost host = some hostname := by
  obtain ⟨before, name, dots, port, after, hcase, hbefore, hafter, hport, rfl⟩ := hspelling
  have hname : normalizeHostname (name ++ List.replicate dots 46) = some hostname := by
    rw [normalizeHostname_dots, normalizeHostname_congr hcase, h]
  obtain ⟨hne, hprintable⟩ := normalizeHostname_facts hname
  rcases hport with rfl | ⟨digits, rfl, hnonempty, hdigits, hvalue⟩
  · rw [List.append_nil, normalizeRequestHost_name hbefore hafter hprintable hne, hname]
  · rw [normalizeRequestHost_port hbefore hafter hprintable
      (isValidAuthorityPort_of_digits hnonempty hdigits hvalue), hname]

/-! ### The lines of a text -/

def directives : List String :=
  ["tls_identity", "https_listen", "max_connections", "client_idle_timeout_seconds", "upstream_timeout_seconds"]

/-- A line for a route, with the two texts beside its arrow. -/
structure IsRouteLine (rawLine hostname upstream : Bytes) : Prop where
  ne_nil : trim (stripComment rawLine) ≠ []
  noDirective : ∀ directive ∈ directives, directiveValue directive (trim (stripComment rawLine)) = none
  split : splitOnce (ascii "->") (trim (stripComment rawLine)) = some (hostname, upstream)

theorem IsRouteLine.lineItem_eq {rawLine hostname upstream : Bytes} (h : IsRouteLine rawLine hostname upstream) :
    lineItem rawLine = (lineRoute (trim (stripComment rawLine))).map .route := by
  have hnone : ∀ directive ∈ directives, directiveValue directive (trim (stripComment rawLine)) = none := h.noDirective
  simp only [directives, List.forall_mem_cons] at hnone
  obtain ⟨htls, hlisten, hconnections, hidle, hupstream, -⟩ := hnone
  rw [lineItem]
  simp only [List.isEmpty_eq_false_iff.2 h.ne_nil, htls, hlisten, hconnections, hidle, hupstream, Bool.false_eq_true,
    if_false]

theorem lineRoute_eq_some {line : Bytes} {route : Route} (h : lineRoute line = some route) :
    ∃ hostname upstream, splitOnce (ascii "->") line = some (hostname, upstream) ∧
      normalizeHostname (trim hostname) = some route.hostname ∧ parseUpstream (trim upstream) = .ok route.upstream := by
  unfold lineRoute at h
  simp only [Option.bind_eq_bind, Option.bind_eq_some_iff] at h
  obtain ⟨⟨hostname, upstream⟩, hsplit, h⟩ := h
  split at h
  · cases h
  · simp only [Option.bind_eq_some_iff] at h
    obtain ⟨normal, hnormal, target, htarget, h⟩ := h
    cases h
    exact ⟨hostname, upstream, hsplit, hnormal, toOption_eq_some.1 htarget⟩

/-- What the lines of an accepted text say. -/
theorem parseWithTls_routes {text : Bytes} {config : Config} {files : List TlsIdentityFiles}
    (h : parseWithTls text = .ok (config, files)) :
    (∀ rawLine ∈ textLines text, (lineItem rawLine).isSome = true) ∧
      config.routes = ((textLines text).filterMap lineItem).filterMap LineItem.route? ∧
      config.routes.Pairwise fun left right => left.hostname ≠ right.hostname := by
  obtain ⟨state, hstate, hconfig⟩ := parseWithTls_eq_ok.1 h
  obtain ⟨hread, hpairwise, hafter⟩ := (addLine_collects.foldlM_ok List.Pairwise.nil).1 hstate
  rw [List.nil_append] at hpairwise hafter
  cases hconfig
  rw [hafter]
  exact ⟨hread, rfl, pairwise_hostname_ne hpairwise⟩

theorem lineItem_route {rawLine : Bytes} {route : Route} (h : lineItem rawLine = some (.route route)) :
    lineRoute (trim (stripComment rawLine)) = some route := by
  have hother : ∀ {α : Type} {parsed : Except Bytes α} {wrap : α → LineItem},
      (∀ value, wrap value ≠ .route route) → parsed.toOption.map wrap ≠ some (.route route) := by
    intro α parsed wrap hwrap hparsed
    obtain ⟨value, -, hvalue⟩ := Option.map_eq_some_iff.1 hparsed
    exact hwrap value hvalue
  unfold lineItem at h
  dsimp only at h
  split at h
  · cases h
  · split at h
    · exact absurd h (hother fun _ => by simp)
    · split at h
      · exact absurd h (hother fun _ => by simp)
      · split at h
        · exact absurd h (hother fun _ => by simp)
        · split at h
          · exact absurd h (hother fun _ => by simp)
          · split at h
            · exact absurd h (hother fun _ => by simp)
            · obtain ⟨added, hadded, hroute⟩ := Option.map_eq_some_iff.1 h
              cases hroute
              exact hadded

/-- Hostnames are stored once and in normal form; every spelling of the hostname of a line finds the upstream of that
line, and a host with another normal form finds nothing. -/
theorem routeForHost_spelling {text : Bytes} {config : Config} {files : List TlsIdentityFiles}
    (h : parseWithTls text = .ok (config, files)) :
    (config.routes.map Route.hostname).Nodup ∧
      (∀ route ∈ config.routes, normalizeHostname route.hostname = some route.hostname) ∧
      (∀ rawLine ∈ textLines text, ∀ hostname upstream, IsRouteLine rawLine hostname upstream →
        ∃ target, parseUpstream (trim upstream) = .ok target ∧
          ∀ host, IsSpelling (trim hostname) host →
            ∃ route, routeForHost config host = .ok route ∧ route.upstream = target) ∧
      ∀ host, (∀ route ∈ config.routes, normalizeRequestHost host ≠ some route.hostname) →
        ∀ route, routeForHost config host ≠ .ok route := by
  obtain ⟨hread, hroutes, hdistinct⟩ := parseWithTls_routes h
  refine ⟨List.pairwise_map.2 hdistinct, ?_, ?_, ?_⟩
  · intro route hroute
    rw [hroutes] at hroute
    obtain ⟨item, hitem, hsome⟩ := List.mem_filterMap.1 hroute
    obtain ⟨rawLine, -, hline⟩ := List.mem_filterMap.1 hitem
    obtain rfl : item = .route route := by
      cases item <;> cases hsome
      rfl
    obtain ⟨hostname, -, -, hnormal, -⟩ := lineRoute_eq_some (lineItem_route hline)
    exact normalizeHostname_fixed hnormal
  · intro rawLine hrawLine hostname upstream hrouteLine
    have hsome := hread rawLine hrawLine
    rw [hrouteLine.lineItem_eq, Option.isSome_map] at hsome
    obtain ⟨route, hlineRoute⟩ := Option.isSome_iff_exists.1 hsome
    obtain ⟨hostname', upstream', hsplit, hnormal, htarget⟩ := lineRoute_eq_some hlineRoute
    rw [hrouteLine.split] at hsplit
    cases hsplit
    refine ⟨route.upstream, htarget, ?_⟩
    intro host hspelling
    have hmem : route ∈ config.routes := by
      rw [hroutes]
      apply List.mem_filterMap.2
      refine ⟨.route route, List.mem_filterMap.2 ⟨rawLine, hrawLine, ?_⟩, rfl⟩
      rw [hrouteLine.lineItem_eq, hlineRoute]
      rfl
    refine ⟨route, ?_, rfl⟩
    have hfind : config.routes.find? (fun other => other.hostname = route.hostname) = some route := by
      apply find?_eq_some_of_unique hmem (decide_eq_true rfl)
      intro other hother hname
      have hsymm : Std.Symm fun left right : Route => left.hostname ≠ right.hostname := ⟨fun _ _ => Ne.symm⟩
      by_contra hne
      exact hdistinct.forall hother hmem hne (of_decide_eq_true hname)
    rw [routeForHost, normalizeRequestHost_spelling hnormal hspelling]
    dsimp only
    rw [hfind]
    rfl
  · intro host hother route hroute
    rw [routeForHost] at hroute
    split at hroute
    · cases hroute
    · rename_i hostname hnormal
      have hfind := okOr_eq_ok.1 hroute
      have hname := List.find?_some hfind
      rw [decide_eq_true_eq] at hname
      exact hother route (List.mem_of_find?_eq_some hfind) (by rw [hnormal, hname])

/-- Two routes, of which one is looked up by a spelling of its hostname. -/
def routesText : Bytes := ascii "Example.com. -> app:80 # main\nexample.org -> [::1]:90\n"

theorem routeForHost_spelling_port :
    ∃ config files route, parseWithTls routesText = .ok (config, files) ∧
      routeForHost config (ascii "\teXample.COM...:0443 ") = .ok route ∧ route.upstream = ⟨ascii "app", 80⟩ := by
  have hlines : ascii "Example.com. -> app:80 # main" ∈ textLines routesText := by decide +kernel
  have hrouteLine : IsRouteLine (ascii "Example.com. -> app:80 # main") (ascii "Example.com. ") (ascii " app:80") :=
    ⟨by decide +kernel, by decide +kernel, by decide +kernel⟩
  have htrim : trim (ascii "Example.com. ") = ascii "Example.com." := by decide +kernel
  have hspelling : IsSpelling (trim (ascii "Example.com. ")) (ascii "\teXample.COM...:0443 ") := by
    rw [htrim]
    refine ⟨[9], ascii "eXample.COM.", 2, ascii ":0443", [32], by decide, ⟨[[9]], by decide, rfl⟩, ⟨[[32]], by decide, rfl⟩,
      Or.inr ⟨ascii "0443", rfl, by decide, by decide, by decide⟩, rfl⟩
  have hparse : ∃ result, parseWithTls routesText = .ok result := by
    have hok : (parseWithTls routesText).isOk = true := by decide +kernel
    cases hresult : parseWithTls routesText with
    | ok result => exact ⟨result, rfl⟩
    | error error =>
      rw [hresult] at hok
      cases hok
  have hupstream : parseUpstream (trim (ascii " app:80")) = .ok ⟨ascii "app", 80⟩ := by decide +kernel
  obtain ⟨⟨config, files⟩, hparse⟩ := hparse
  obtain ⟨target, htarget, hlookup⟩ := (routeForHost_spelling hparse).2.2.1 _ hlines _ _ hrouteLine
  obtain ⟨route, hroute, hroutes⟩ := hlookup _ hspelling
  rw [hupstream] at htarget
  cases htarget
  exact ⟨config, files, route, hparse, hroute, hroutes⟩

end Config

end BareProxy
