import BareProxy.Base.Permutation
import BareProxy.Config.Parse

/-!
# The order of the lines

A line says one thing, whatever stands before it: nothing, a pair of identity files, a setting, or a route. A text is
accepted exactly when every line says something and no two lines conflict, and the configuration collects what the lines
say. Neither depends on the order of the lines.
-/

namespace BareProxy

namespace Config

/-! ### What a line says -/

inductive LineItem
  | blank
  | tlsIdentity (files : TlsIdentityFiles)
  | httpsListen (address : Bytes)
  | maxConnections (value : Nat)
  | clientIdleTimeout (seconds : Nat)
  | upstreamTimeout (seconds : Nat)
  | route (added : Route)

namespace LineItem

def tlsIdentity? : LineItem → Option TlsIdentityFiles
  | .tlsIdentity files => some files
  | _ => none

def httpsListen? : LineItem → Option Bytes
  | .httpsListen address => some address
  | _ => none

def maxConnections? : LineItem → Option Nat
  | .maxConnections value => some value
  | _ => none

def clientIdleTimeout? : LineItem → Option Nat
  | .clientIdleTimeout seconds => some seconds
  | _ => none

def upstreamTimeout? : LineItem → Option Nat
  | .upstreamTimeout seconds => some seconds
  | _ => none

def route? : LineItem → Option Route
  | .route added => some added
  | _ => none

/-- Two lines that a configuration cannot both have. -/
def Conflicts : LineItem → LineItem → Prop
  | .tlsIdentity left, .tlsIdentity right => left.sameFiles right = true
  | .httpsListen _, .httpsListen _ => True
  | .maxConnections _, .maxConnections _ => True
  | .clientIdleTimeout _, .clientIdleTimeout _ => True
  | .upstreamTimeout _, .upstreamTimeout _ => True
  | .route left, .route right => left.hostname = right.hostname
  | _, _ => False

end LineItem

theorem TlsIdentityFiles.sameFiles_comm (left right : TlsIdentityFiles) :
    left.sameFiles right = right.sameFiles left := by
  unfold sameFiles
  congr 1
  · exact Bool.beq_comm
  · exact Bool.beq_comm

theorem LineItem.Conflicts.symm {left right : LineItem} (h : left.Conflicts right) : right.Conflicts left := by
  cases left <;> cases right <;> simp_all [LineItem.Conflicts, TlsIdentityFiles.sameFiles_comm]

/-- The lines that give one of the settings, of which only one can stand. -/
structure IsSetting {α : Type} (setting? : LineItem → Option α) (wrap : α → LineItem) : Prop where
  conflicts : ∀ earlier value, earlier.Conflicts (wrap value) ↔ setting? earlier ≠ none
  eq_wrap : ∀ {item value}, setting? item = some value → item = wrap value

theorem isSetting_httpsListen : IsSetting LineItem.httpsListen? .httpsListen := by
  constructor
  · intro earlier value
    cases earlier <;> simp [LineItem.Conflicts, LineItem.httpsListen?]
  · intro item value h
    cases item <;> cases h
    rfl

theorem isSetting_maxConnections : IsSetting LineItem.maxConnections? .maxConnections := by
  constructor
  · intro earlier value
    cases earlier <;> simp [LineItem.Conflicts, LineItem.maxConnections?]
  · intro item value h
    cases item <;> cases h
    rfl

theorem isSetting_clientIdleTimeout : IsSetting LineItem.clientIdleTimeout? .clientIdleTimeout := by
  constructor
  · intro earlier value
    cases earlier <;> simp [LineItem.Conflicts, LineItem.clientIdleTimeout?]
  · intro item value h
    cases item <;> cases h
    rfl

theorem isSetting_upstreamTimeout : IsSetting LineItem.upstreamTimeout? .upstreamTimeout := by
  constructor
  · intro earlier value
    cases earlier <;> simp [LineItem.Conflicts, LineItem.upstreamTimeout?]
  · intro item value h
    cases item <;> cases h
    rfl

/-- The route a line spells. -/
def lineRoute (line : Bytes) : Option Route := do
  let (hostname, upstream) ← splitOnce (ascii "->") line
  if (indexOfSub (ascii "->") upstream).isSome then none
  else do
    let hostname ← normalizeHostname (trim hostname)
    let upstream ← (parseUpstream (trim upstream)).toOption
    some { hostname, upstream }

/-- What a line says, if it says anything. -/
def lineItem (rawLine : Bytes) : Option LineItem :=
  let line := trim (stripComment rawLine)
  if line.isEmpty then some .blank
  else match directiveValue "tls_identity" line with
  | some value => (parseTlsIdentityFiles value).toOption.map .tlsIdentity
  | none => match directiveValue "https_listen" line with
  | some value => (parseHttpsListenAddr value).toOption.map .httpsListen
  | none => match directiveValue "max_connections" line with
  | some value => (parseMaxConnections value).toOption.map .maxConnections
  | none => match directiveValue "client_idle_timeout_seconds" line with
  | some value => (parseClientIdleTimeoutSeconds value).toOption.map .clientIdleTimeout
  | none => match directiveValue "upstream_timeout_seconds" line with
  | some value => (parseUpstreamTimeoutSeconds value).toOption.map .upstreamTimeout
  | none => (lineRoute line).map .route

/-- What lines that say these things leave behind. -/
def ParseState.ofItems (items : List LineItem) : ParseState where
  routes := items.filterMap LineItem.route?
  tlsIdentityFiles := items.filterMap LineItem.tlsIdentity?
  hostnames := (items.filterMap LineItem.route?).map Route.hostname
  maxConnections := (items.filterMap LineItem.maxConnections?).getLast?.getD defaultMaxConnections
  maxConnectionsSet := !(items.filterMap LineItem.maxConnections?).isEmpty
  clientIdleTimeoutSeconds :=
    (items.filterMap LineItem.clientIdleTimeout?).getLast?.getD defaultClientIdleTimeoutSeconds
  clientIdleTimeoutSet := !(items.filterMap LineItem.clientIdleTimeout?).isEmpty
  upstreamTimeoutSeconds := (items.filterMap LineItem.upstreamTimeout?).getLast?.getD defaultUpstreamTimeoutSeconds
  upstreamTimeoutSet := !(items.filterMap LineItem.upstreamTimeout?).isEmpty
  httpsListenAddr := (items.filterMap LineItem.httpsListen?).getLast?.getD defaultHttpsListenAddr
  httpsListenSet := !(items.filterMap LineItem.httpsListen?).isEmpty

/-- The state after one more line. -/
def ParseState.add (state : ParseState) : LineItem → ParseState
  | .blank => state
  | .tlsIdentity files => { state with tlsIdentityFiles := state.tlsIdentityFiles ++ [files] }
  | .httpsListen address => { state with httpsListenAddr := address, httpsListenSet := true }
  | .maxConnections value => { state with maxConnections := value, maxConnectionsSet := true }
  | .clientIdleTimeout seconds => { state with clientIdleTimeoutSeconds := seconds, clientIdleTimeoutSet := true }
  | .upstreamTimeout seconds => { state with upstreamTimeoutSeconds := seconds, upstreamTimeoutSet := true }
  | .route added =>
      { state with routes := state.routes ++ [added], hostnames := state.hostnames ++ [added.hostname] }

theorem ParseState.ofItems_append (items : List LineItem) (added : LineItem) :
    ParseState.ofItems (items ++ [added]) = (ParseState.ofItems items).add added := by
  have hone : ∀ {α : Type} (setting? : LineItem → Option α),
      (items ++ [added]).filterMap setting? = items.filterMap setting? ++ (setting? added).toList := by
    intro α setting?
    rw [List.filterMap_append, List.filterMap_cons, List.filterMap_nil]
    cases setting? added <;> rfl
  cases added <;>
    simp [ParseState.ofItems, ParseState.add, hone, LineItem.route?, LineItem.tlsIdentity?, LineItem.maxConnections?,
      LineItem.clientIdleTimeout?, LineItem.upstreamTimeout?, LineItem.httpsListen?]

/-! ### One line -/

/-- The result takes exactly this item, and only when no earlier one conflicts. -/
def Adds (items : List LineItem) (item : Option LineItem) (result : Except Bytes ParseState) : Prop :=
  ∀ after, result = .ok after ↔
    ∃ added, item = some added ∧ (∀ earlier ∈ items, ¬ earlier.Conflicts added) ∧
      after = (ParseState.ofItems items).add added

/-- A setting is taken when no earlier line has set it. -/
theorem adds_setting {α : Type} {items : List LineItem} {directive : String} {parsed : Except Bytes α}
    {setting? : LineItem → Option α} {wrap : α → LineItem} {update : α → ParseState} (hsetting : IsSetting setting? wrap)
    (hupdate : ∀ value, update value = (ParseState.ofItems items).add (wrap value)) :
    Adds items (parsed.toOption.map wrap) (do
      let value ← setOnce directive (!(items.filterMap setting?).isEmpty) parsed
      .ok (update value)) := by
  intro after
  have hfree : ∀ value, (∀ earlier ∈ items, ¬ earlier.Conflicts (wrap value)) ↔
      (items.filterMap setting?).isEmpty = true := by
    intro value
    rw [List.isEmpty_iff, List.filterMap_eq_nil_iff]
    apply forall₂_congr
    intro earlier _
    rw [hsetting.conflicts, not_not]
  rw [bind_eq_ok]
  constructor
  · intro h
    obtain ⟨value, hvalue, hafter⟩ := h
    unfold setOnce at hvalue
    split at hvalue
    · cases hvalue
    · rename_i hunset
      refine ⟨wrap value, by rw [toOption_eq_some.2 hvalue]; rfl, (hfree value).2 (by simpa using hunset), ?_⟩
      rw [← hupdate]
      exact (Except.ok.inj hafter).symm
  · intro h
    obtain ⟨added, hadded, hfits, hafter⟩ := h
    obtain ⟨value, hvalue, hwrap⟩ := Option.map_eq_some_iff.1 hadded
    subst hwrap
    refine ⟨value, ?_, by rw [hafter, hupdate]⟩
    rw [setOnce, (hfree value).1 hfits]
    exact toOption_eq_some.1 hvalue

/-- A pair of files is taken when no earlier line names the same files. -/
theorem adds_tlsIdentity (items : List LineItem) (value : Bytes) :
    Adds items ((parseTlsIdentityFiles value).toOption.map .tlsIdentity)
      ((ParseState.ofItems items).addTlsIdentity value) := by
  intro after
  have hfree : ∀ files : TlsIdentityFiles, (∀ earlier ∈ items, ¬ earlier.Conflicts (.tlsIdentity files)) ↔
      (items.filterMap LineItem.tlsIdentity?).any (files.sameFiles ·) = false := by
    intro files
    rw [List.any_eq_false, List.forall_mem_filterMap]
    apply forall₂_congr
    intro earlier _
    cases earlier <;> simp [LineItem.Conflicts, LineItem.tlsIdentity?, TlsIdentityFiles.sameFiles_comm]
  unfold ParseState.addTlsIdentity
  rw [bind_eq_ok]
  constructor
  · intro h
    obtain ⟨files, hfiles, hafter⟩ := h
    split at hafter
    · cases hafter
    · rename_i hnew
      refine ⟨.tlsIdentity files, by rw [toOption_eq_some.2 hfiles]; rfl, (hfree files).2 ?_, ?_⟩
      · exact Bool.eq_false_iff.2 hnew
      · exact (Except.ok.inj hafter).symm
  · intro h
    obtain ⟨added, hadded, hfits, hafter⟩ := h
    obtain ⟨files, hfiles, hwrap⟩ := Option.map_eq_some_iff.1 hadded
    subst hwrap
    refine ⟨files, toOption_eq_some.1 hfiles, ?_⟩
    rw [if_neg, hafter]
    · rfl
    · exact Bool.eq_false_iff.1 ((hfree files).1 hfits)

theorem adds_route (items : List LineItem) (line : Bytes) :
    Adds items ((lineRoute line).map .route) ((ParseState.ofItems items).addRoute line) := by
  intro after
  have hfree : ∀ added : Route, (∀ earlier ∈ items, ¬ earlier.Conflicts (.route added)) ↔
      (ParseState.ofItems items).hostnames.contains added.hostname = false := by
    intro added
    rw [← Bool.not_eq_true, List.contains_iff_mem]
    show _ ↔ added.hostname ∉ (items.filterMap LineItem.route?).map Route.hostname
    constructor
    · intro h hmem
      obtain ⟨earlier, hearlier, hhostname⟩ := List.mem_map.1 hmem
      obtain ⟨item, hitem, hroute⟩ := List.mem_filterMap.1 hearlier
      cases item <;> cases hroute
      exact h _ hitem hhostname
    · intro h earlier hearlier hconflict
      cases earlier with
      | route first => exact h (List.mem_map.2 ⟨first, List.mem_filterMap.2 ⟨_, hearlier, rfl⟩, hconflict⟩)
      | _ => exact hconflict
  unfold ParseState.addRoute lineRoute
  cases splitOnce (ascii "->") line with
  | none => simp [okOr]
  | some parts =>
  obtain ⟨hostname, upstream⟩ := parts
  dsimp only [okOr_some, ok_bind, Option.bind_eq_bind, Option.bind_some]
  cases (indexOfSub (ascii "->") upstream).isSome with
  | true => simp
  | false =>
  cases normalizeHostname (trim hostname) with
  | none => simp [okOr]
  | some hostname =>
  dsimp only [okOr_some, ok_bind, Option.bind_some]
  rw [if_neg Bool.false_ne_true, if_neg Bool.false_ne_true]
  cases parseUpstream (trim upstream) with
  | error message =>
      dsimp only [error_bind, Except.toOption, Option.bind_none, Option.map_none]
      split <;> simp
  | ok upstream =>
      dsimp only [ok_bind, Except.toOption, Option.bind_some, Option.map_some]
      have hroute := hfree ⟨hostname, upstream⟩
      constructor
      · intro h
        split at h
        · cases h
        · rename_i hnew
          exact ⟨_, rfl, hroute.2 (Bool.eq_false_iff.2 hnew), (Except.ok.inj h).symm⟩
      · intro h
        obtain ⟨added, hadded, hfits, hafter⟩ := h
        have hadded := Option.some.inj hadded
        subst hadded
        rw [if_neg (Bool.eq_false_iff.1 (hroute.1 hfits)), hafter]
        rfl

/-- A line adds what it says unless an earlier line conflicts. -/
theorem adds_line (items : List LineItem) (rawLine : Bytes) :
    Adds items (lineItem rawLine) ((ParseState.ofItems items).addLine rawLine) := by
  unfold lineItem ParseState.addLine
  dsimp only
  generalize trim (stripComment rawLine) = line
  cases line.isEmpty with
  | true =>
      intro after
      rw [if_pos rfl, if_pos rfl]
      constructor
      · intro h
        exact ⟨.blank, rfl, fun earlier _ => by cases earlier <;> exact id, (Except.ok.inj h).symm⟩
      · intro h
        obtain ⟨added, hadded, -, hafter⟩ := h
        rw [hafter, ← Option.some.inj hadded]
        rfl
  | false =>
      rw [if_neg Bool.false_ne_true, if_neg Bool.false_ne_true]
      cases directiveValue "tls_identity" line with
      | some value => exact adds_tlsIdentity items value
      | none =>
      cases directiveValue "https_listen" line with
      | some value =>
          exact adds_setting isSetting_httpsListen fun _ => rfl
      | none =>
      cases directiveValue "max_connections" line with
      | some value =>
          exact adds_setting isSetting_maxConnections fun _ => rfl
      | none =>
      cases directiveValue "client_idle_timeout_seconds" line with
      | some value =>
          exact adds_setting isSetting_clientIdleTimeout fun _ => rfl
      | none =>
      cases directiveValue "upstream_timeout_seconds" line with
      | some value =>
          exact adds_setting isSetting_upstreamTimeout fun _ => rfl
      | none => exact adds_route items line

/-! ### The whole text -/

theorem addLine_collects :
    CollectsItems lineItem LineItem.Conflicts ParseState.ofItems ParseState.addLine := by
  intro items rawLine after
  simp only [adds_line items rawLine after, ParseState.ofItems_append]

theorem parseWithTls_eq_ok {text : Bytes} {result : Config × List TlsIdentityFiles} :
    parseWithTls text = .ok result ↔
      ∃ state, (textLines text).foldlM ParseState.addLine (ParseState.ofItems []) = .ok state ∧
        (state.config, state.tlsIdentityFiles) = result := by
  unfold parseWithTls
  rw [bind_eq_ok]
  apply exists_congr
  intro state
  apply and_congr
  · exact @foldlM_zipIdx_mapErr _ _ _ _ ParseState.addLine (fun index message => LineError.mk (index + 1) message)
      _ _ _ _
  · exact ⟨Except.ok.inj, congrArg _⟩

/-- Configurations that a running proxy cannot tell apart. -/
structure SameConfiguration (left right : Config × List TlsIdentityFiles) : Prop where
  maxConnections : left.1.maxConnections = right.1.maxConnections
  clientIdleTimeoutSeconds : left.1.clientIdleTimeoutSeconds = right.1.clientIdleTimeoutSeconds
  upstreamTimeoutSeconds : left.1.upstreamTimeoutSeconds = right.1.upstreamTimeoutSeconds
  httpsListenAddr : left.1.httpsListenAddr = right.1.httpsListenAddr
  tlsIdentityFiles : left.2.Perm right.2
  routeForHost : ∀ host, left.1.routeForHost host = right.1.routeForHost host

/-- No two routes of lines without a conflict have the same hostname. -/
theorem pairwise_hostname_ne {items : List LineItem}
    (hitems : items.Pairwise fun earlier later => ¬ earlier.Conflicts later) :
    (items.filterMap LineItem.route?).Pairwise fun left right => left.hostname ≠ right.hostname := by
  apply hitems.filterMap
  intro left right hfree first hfirst second hsecond
  cases left <;> cases hfirst
  cases right <;> cases hsecond
  exact hfree

/-- Lines without a conflict give the same configuration in every order. -/
theorem sameConfiguration_ofItems {items items' : List LineItem} (hperm : items.Perm items')
    (hitems : items.Pairwise fun earlier later => ¬ earlier.Conflicts later) :
    SameConfiguration ((ParseState.ofItems items).config, (ParseState.ofItems items).tlsIdentityFiles)
      ((ParseState.ofItems items').config, (ParseState.ofItems items').tlsIdentityFiles) := by
  have hsetting : ∀ {α : Type} {setting? : LineItem → Option α} {wrap : α → LineItem}, IsSetting setting? wrap →
      items.filterMap setting? = items'.filterMap setting? := by
    intro α setting? wrap hsetting
    apply eq_of_perm_of_pairwise_false (hperm.filterMap setting?)
    apply hitems.filterMap
    intro left right hfree first hfirst second hsecond
    apply hfree
    rw [hsetting.eq_wrap hsecond, hsetting.conflicts, hfirst]
    exact Option.some_ne_none first
  have hroutes := pairwise_hostname_ne hitems
  refine ⟨?_, ?_, ?_, ?_, hperm.filterMap LineItem.tlsIdentity?, ?_⟩
  · exact congrArg (fun found => found.getLast?.getD defaultMaxConnections) (hsetting isSetting_maxConnections)
  · exact congrArg (fun found => found.getLast?.getD defaultClientIdleTimeoutSeconds)
      (hsetting isSetting_clientIdleTimeout)
  · exact congrArg (fun found => found.getLast?.getD defaultUpstreamTimeoutSeconds) (hsetting isSetting_upstreamTimeout)
  · exact congrArg (fun found => found.getLast?.getD defaultHttpsListenAddr) (hsetting isSetting_httpsListen)
  · intro host
    unfold Config.routeForHost
    cases normalizeRequestHost host with
    | none => rfl
    | some hostname =>
        apply congrArg (okOr (RouteLookupError.notFound hostname))
        apply find?_eq_of_perm (hperm.filterMap LineItem.route?)
        intro left hleft right hright hleftName hrightName
        have hsymm : Std.Symm fun left right : Route => left.hostname ≠ right.hostname := ⟨fun _ _ => Ne.symm⟩
        by_contra hne
        apply hroutes.forall hleft hright hne
        exact (of_decide_eq_true hleftName).trans (of_decide_eq_true hrightName).symm

/-- The order of the lines does not decide whether a configuration is accepted, nor what it says. -/
theorem parseWithTls_perm {text text' : Bytes} (hperm : (textLines text).Perm (textLines text')) :
    ((∃ result, parseWithTls text = .ok result) ↔ ∃ result, parseWithTls text' = .ok result) ∧
      ∀ result result', parseWithTls text = .ok result → parseWithTls text' = .ok result' →
        SameConfiguration result result' := by
  have hread : ∀ {text text' : Bytes}, (textLines text).Perm (textLines text') → ∀ result,
      parseWithTls text = .ok result → ∃ result', parseWithTls text' = .ok result' ∧ SameConfiguration result result' := by
    intro text text' hperm result hresult
    obtain ⟨state, hstate, hconfig⟩ := parseWithTls_eq_ok.1 hresult
    obtain ⟨items, items', hitems, hother, hsame, hpairwise⟩ :=
      addLine_collects.foldlM_perm LineItem.Conflicts.symm hperm hstate
    refine ⟨_, parseWithTls_eq_ok.2 ⟨_, hother, rfl⟩, ?_⟩
    rw [← hconfig, hitems]
    exact sameConfiguration_ofItems hsame hpairwise
  refine ⟨⟨?_, ?_⟩, ?_⟩
  · intro h
    obtain ⟨result, hresult⟩ := h
    obtain ⟨result', hresult', -⟩ := hread hperm result hresult
    exact ⟨result', hresult'⟩
  · intro h
    obtain ⟨result, hresult⟩ := h
    obtain ⟨result', hresult', -⟩ := hread hperm.symm result hresult
    exact ⟨result', hresult'⟩
  · intro result result' hresult hresult'
    obtain ⟨found, hfound, hsame⟩ := hread hperm result hresult
    rw [hresult'] at hfound
    rwa [Except.ok.inj hfound]

theorem parseWithTls_perm_swap :
    ((∃ result, parseWithTls (ascii "max_connections = 7\na -> b:1\n") = .ok result) ↔
      ∃ result, parseWithTls (ascii "a -> b:1\nmax_connections = 7") = .ok result) ∧
      ∀ result result', parseWithTls (ascii "max_connections = 7\na -> b:1\n") = .ok result →
        parseWithTls (ascii "a -> b:1\nmax_connections = 7") = .ok result' → SameConfiguration result result' :=
  parseWithTls_perm (by decide)

end Config

end BareProxy
