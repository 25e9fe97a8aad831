import BareProxy.Proxy.Persistence
import BareProxy.Proxy.ResponseStarted

/-!
# An exchange that switches protocols

A 101 response to a request that asked for an upgrade. Its head goes to the client as the interim heads before it do, and
what was read past it follows as it is.
-/

namespace BareProxy.Proxy

open Http Config Reader

/-- A response that switches to one of the protocols: the interim heads and its own, as received and as sent. -/
structure SwitchedResponse (protocols : List Bytes) where
  interims : List (Bytes × Bytes)
  head : Bytes
  sentHead : Bytes
  isInterim : ∀ interim ∈ interims, IsInterim interim.1 interim.2
  isHead : IsResponseHead head
  isSwitching : responseStatusCode head = .ok 101
  isValid : validateSwitchingProtocolsResponse head protocols = .ok ()
  isSent : sanitizeResponseHead head (some (ascii "Upgrade")) false true = .ok sentHead

namespace SwitchedResponse

variable {protocols : List Bytes}

def received (response : SwitchedResponse protocols) : Bytes := response.interims.flatMap Prod.fst ++ response.head

def sent (response : SwitchedResponse protocols) : Bytes := response.interims.flatMap Prod.snd ++ response.sentHead

/-- The same response with one more interim head in front. -/
def cons (response : SwitchedResponse protocols) {head sentHead : Bytes} (h : IsInterim head sentHead) :
    SwitchedResponse protocols :=
  { response with
    interims := (head, sentHead) :: response.interims
    isInterim := by
      intro interim hmem
      obtain rfl | hmem := List.mem_cons.1 hmem
      · exact h
      · exact response.isInterim interim hmem }

@[simp] theorem received_cons (response : SwitchedResponse protocols) {head sentHead : Bytes}
    (h : IsInterim head sentHead) : (response.cons h).received = head ++ response.received :=
  List.append_assoc _ _ _

@[simp] theorem sent_cons (response : SwitchedResponse protocols) {head sentHead : Bytes}
    (h : IsInterim head sentHead) : (response.cons h).sent = sentHead ++ response.sent :=
  List.append_assoc _ _ _

end SwitchedResponse

variable {ρ : Type} [Reader ρ]

/-- From one state of the streams to the other the response came through, and what was read past it. -/
def Switches {protocols : List Bytes} (response : SwitchedResponse protocols) (buffered : Bytes) (upstream upstream' : ρ)
    (client client' : Sink) : Prop :=
  ∃ rest, buffered ++ pending upstream = response.received ++ rest ++ pending upstream' ∧
    client'.written = client.written ++ response.sent ++ rest

theorem Switches.interim {protocols : List Bytes} {response : SwitchedResponse protocols} {buffered head rest : Bytes}
    {upstream upstream₁ upstream' : ρ} {client client₁ client' : Sink} {status : Nat}
    (hread : readResponseHead upstream buffered = (.ok (head, rest), upstream₁))
    (hstatus : responseStatusCode head = .ok status) (hinterim : isInterimResponse status = true)
    (hforward : forwardInterimHead head client = (.ok (), client₁))
    (h : Switches response rest upstream₁ upstream' client₁ client') :
    ∃ response : SwitchedResponse protocols, Switches response buffered upstream upstream' client client' := by
  obtain ⟨hhead, hbytes, -⟩ := readResponseHead_ok hread
  obtain ⟨sent, hsent, hwritten⟩ := forwardInterimHead_ok hforward
  obtain ⟨more, hmore, hlast⟩ := h
  refine ⟨response.cons ⟨hhead, ⟨status, hstatus, hinterim⟩, hsent⟩, more, ?_, ?_⟩
  · rw [hbytes, List.append_assoc, hmore, SwitchedResponse.received_cons]
    simp only [List.append_assoc]
  · rw [hlast, hwritten, SwitchedResponse.sent_cons]
    simp only [List.append_assoc]

/-- The upgrade that was asked for is the one that is checked. -/
theorem forwardSwitchingProtocols_valid {head body : Bytes} {requested : Option (List Bytes)} {client client' : Sink}
    {outcome : ForwardResponseOutcome}
    (h : forwardSwitchingProtocols head body requested client = (.ok outcome, client')) :
    ∃ protocols, requested = some protocols ∧ validateSwitchingProtocolsResponse head protocols = .ok () := by
  rw [forwardSwitchingProtocols.eq_def] at h
  split at h
  · cases h
  · rename_i protocols
    split at h
    · cases h
    · rename_i hvalid
      exact ⟨protocols, rfl, hvalid⟩

theorem forwardResponse_upgraded {upstream upstream' : ρ} {client client' : Sink} {requestMethod buffered : Bytes}
    {requested : Option (List Bytes)}
    (h : forwardResponse upstream client requestMethod buffered requested = (.ok .upgraded, upstream', client')) :
    ∃ protocols, requested = some protocols ∧
      ∃ response : SwitchedResponse protocols, Switches response buffered upstream upstream' client client' := by
  fun_induction forwardResponse upstream client requestMethod buffered requested with
  | case1 => cases h
  | case2 => cases h
  | case3 upstream client buffered head rest upstream₁ hread outcome client₁ hswitch hstatus =>
    cases h
    obtain ⟨hhead, hbytes, -⟩ := readResponseHead_ok hread
    obtain ⟨-, sent, hsent, hwritten⟩ := forwardSwitchingProtocols_ok hswitch
    obtain ⟨protocols, hprotocols, hvalid⟩ := forwardSwitchingProtocols_valid hswitch
    exact ⟨protocols, hprotocols, ⟨[], head, sent, fun _ hmem => absurd hmem List.not_mem_nil, hhead, hstatus, hvalid,
      hsent⟩, rest, hbytes, hwritten⟩
  | case4 => cases h
  | case5 upstream client buffered head rest upstream₁ hread status hstatus _ hinterim client₁ hforward ih =>
    obtain ⟨protocols, hprotocols, response, hswitches⟩ := ih h
    exact ⟨protocols, hprotocols, hswitches.interim hread hstatus hinterim hforward⟩
  | case6 upstream client buffered head rest upstream₁ hread status hstatus _ hinterim hbody outcome client₁ hforward =>
    cases h
    exact absurd hforward forwardBodiless_ne_upgraded
  | case7 upstream client buffered head rest upstream₁ hread status hstatus _ hinterim hbody =>
    cases forwardWithBody_outcome h

/-- Waiting for 100 Continue forwards interim heads, and what follows completes the response. -/
theorem awaitContinueLoop_switches {protocols : List Bytes} {response : SwitchedResponse protocols}
    {upstream upstream₁ upstream' : ρ} {client client₁ client' : Sink} {requestMethod buffered rest : Bytes}
    {requested : Option (List Bytes)}
    (h : awaitContinueLoop upstream client requestMethod buffered requested = (.ok (.continue rest), upstream₁, client₁))
    (hswitches : Switches response rest upstream₁ upstream' client₁ client') :
    ∃ response : SwitchedResponse protocols, Switches response buffered upstream upstream' client client' := by
  fun_induction awaitContinueLoop upstream client requestMethod buffered requested with
  | case1 => cases h
  | case2 => cases h
  | case3 => cases h
  | case4 => cases h
  | case5 =>
    cases h
    exact hswitches.interim ‹readResponseHead _ _ = _› ‹responseStatusCode _ = _› (by decide)
      ‹forwardInterimHead _ _ = _›
  | case6 => cases h
  | case7 =>
    rename_i ih
    obtain ⟨response', hswitches'⟩ := ih h
    exact hswitches'.interim ‹readResponseHead _ _ = _› ‹responseStatusCode _ = _› ‹isInterimResponse _ = true›
      ‹forwardInterimHead _ _ = _›
  | case8 => cases h
  | case9 => cases h

theorem awaitContinue_switches {protocols : List Bytes} {response : SwitchedResponse protocols} {request : Request}
    {requested : Option (List Bytes)} {buffered : Bytes} {client client₁ upstream upstream₁ : Endpoint} {input : Source}
    {output : Sink}
    (h : awaitContinue request requested client upstream = (.ok (.continue buffered), client₁, upstream₁))
    (hswitches : Switches response buffered upstream₁.input input client₁.output output) :
    ∃ response : SwitchedResponse protocols, Switches response [] upstream.input input client.output output := by
  rw [awaitContinue] at h
  split at h
  · split at h
    · cases h
    · rename_i flushed hflush
      obtain ⟨-, hinput⟩ := flushUpstream_written hflush
      dsimp only at h
      cases hawait : awaitContinueOrFinalResponse flushed.input client.output request.method requested with
      | mk outcome rest =>
        rw [hawait] at h
        cases h
        rw [← hinput]
        exact awaitContinueLoop_switches hawait hswitches
  · cases h
    exact ⟨response, hswitches⟩

/-- The two streams around an exchange that switches protocols. -/
theorem exchangeOn_upgraded {net : StdNet} {request : Request} {requested : Option (List Bytes)}
    {bufferedBody rest : Bytes} {clientIp : IpAddr} {proto : ForwardedProto} {client client' upstream upstream' : Endpoint}
    (h : exchangeOn net request requested bufferedBody clientIp proto client upstream =
      (.ok (.response rest .upgraded), client', upstream')) :
    ∃ protocols, requested = some protocols ∧ ∃ response : SwitchedResponse protocols,
      Switches response [] upstream.input upstream'.input client.output client'.output := by
  obtain ⟨head, output, buffered, client₁, upstream₁, client₂, upstream₂, upstream₃, -, -, hawait, hsend, hflush, hforward,
    -, -⟩ := exchangeOn_response_cases h
  obtain ⟨protocols, hprotocols, response, hswitches⟩ := forwardResponse_upgraded hforward
  rw [(flushUpstream_written hflush).2, sendBody_input hsend, sendBody_output hsend] at hswitches
  have hexchanged := awaitContinue_switches hawait hswitches
  exact ⟨protocols, hprotocols, hexchanged⟩

/-- An exchange that switches protocols: what it has moved in both directions, and the upstream that it keeps. -/
theorem exchangeWithProto_upgraded {net : StdNet} {route : Route} {request : Request} {bufferedBody : Bytes}
    {clientIp : IpAddr} {proto : ForwardedProto} {state state' : ExchangeState} {result : ExchangeResult}
    (h : exchangeWithProto net route request bufferedBody clientIp proto state = (.ok result, state'))
    (hupgraded : result.upgraded = true) :
    ∃ protocols head body taken stream, ∃ response : SwitchedResponse protocols,
      requestUpgradeProtocols request = .ok (some protocols) ∧
      serializeRequestHead net request clientIp proto = .ok head ∧ IsRequestBody request body ∧
      bufferedBody ++ pending state.client.input = body ++ result.bufferedClientBytes ++ pending state'.client.input ∧
      (takeUpstream route.upstream.address state.session state.network).1 = .ok taken ∧
      stream.output.written = taken.output.written ++ head ++ body ∧
      state'.session.upgradedUpstream = some stream ∧
      Switches response [] taken.input stream.input state.client.output state'.client.output := by
  obtain ⟨requested, taken, network, exchanged, stream, hrequested, htake, hexchange, hcases⟩ := exchangeWithProto_ok h
  obtain ⟨-, rfl⟩ | ⟨rest, reusable, -, rfl, -⟩ | ⟨rest, rfl, rfl, hkept⟩ := hcases
  · cases hupgraded
  · cases hupgraded
  · obtain ⟨protocols, rfl, response, hswitches⟩ := exchangeOn_upgraded hexchange
    obtain ⟨head, body, hhead, hbody, hbytes, hwritten, -⟩ := exchangeOn_response hexchange
    exact ⟨protocols, head, body, taken, stream, response, hrequested, hhead, hbody, hbytes, by rw [htake], hwritten, hkept,
      hswitches⟩

end BareProxy.Proxy
