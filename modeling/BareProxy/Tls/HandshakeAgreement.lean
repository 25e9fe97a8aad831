import BareProxy.Tls.HandshakeExact

/-!
# What a handshake establishes

Whenever the server reaches a state for application data, it has shown the certificate of the identity for the name that
the client asked for, and the client has shown that it knows the keys.
-/

namespace BareProxy.Tls

open P256 Crypto Reader Conversation

/-! ### The transcript of a handshake -/

/-- Everything up to the server's Finished. -/
def serverTranscript (hellos : Bytes) (flight : Tls13ServerHelloFlight)
    (authentication : Tls13ServerAuthenticationFlight) : Bytes :=
  hellos ++ flight.serverHello ++ flight.encryptedExtensions ++ authenticationMessages (some authentication)

/-- What is shown by the end of a handshake: the certificate, the signature and the Finished of the identity, over a
flight from negotiation; the client's Finished over all of this, under its handshake keys; and the keys derived from it. -/
structure Shows (turns : Nat) (identity : TlsIdentity) (flight : Tls13ServerHelloFlight) (hellos : Bytes)
    (authentication : Tls13ServerAuthenticationFlight) (record : TlsCiphertextRecord) (state : Tls13ApplicationState) :
    Prop where
  negotiated : Negotiated flight hellos
  authenticated : ∃ flight', flight.Authenticated turns identity.certificateChain identity.signingKey authentication flight'
  finished : ∃ clientKey clientIv verifyData,
    deriveTls13TrafficKeyIv flight.clientHandshakeTrafficSecret = .ok (clientKey, clientIv) ∧
    tls13FinishedVerifyData flight.clientHandshakeTrafficSecret (sha256 (serverTranscript hellos flight authentication)) =
      .ok verifyData ∧
    OpensInOrder clientKey clientIv 0 [record] (handshakeMessage handshakeTypeFinished verifyData.toList)
  keys : ∃ keySchedule,
    deriveTls13ApplicationKeySchedule flight.mainSecret (sha256 (serverTranscript hellos flight authentication)) =
      .ok keySchedule ∧
    state.recordProtection = .new keySchedule.serverKey keySchedule.serverIv keySchedule.clientKey keySchedule.clientIv ∧
    state.negotiatedAlpn = flight.negotiatedAlpn

/-! ### From the server's side -/

/-- The chosen identity has the name or a wildcard over it. -/
theorem TlsIdentityStore.presents_of_select {store : TlsIdentityStore} {serverName : Bytes} {identity : TlsIdentity}
    (h : store.select serverName = some identity) :
    identity ∈ store.identities ∧ ∃ dnsName ∈ identity.dnsNames, Presents dnsName serverName := by
  obtain ⟨found, hmem, hmatches, hfound⟩ | ⟨-, hfind⟩ := store.select_cases serverName
  · rw [hfound] at h
    cases h
    obtain ⟨dnsName, hname, -, heq⟩ := TlsIdentity.matchesServerNameExactly_iff.1 hmatches
    exact ⟨hmem, dnsName, hname, Or.inl heq⟩
  · rw [hfind] at h
    have hmatches := List.find?_some h
    exact ⟨List.mem_of_find?_eq_some h, (TlsIdentity.matchesServerName_iff.1 hmatches).2⟩

/-- These records bring a ClientHello that asks for this name. -/
structure AsksFor (afterRetry : Bool) (records : List TlsPlaintextRecord) (message : Bytes) (clientHello : ClientHello)
    (serverName : Bytes) : Prop where
  carries : CarriesClientHello afterRetry records message
  parse_eq : parseClientHello message = .ok clientHello
  serverName_eq : clientHello.serverName = some serverName

/-- What is received and sent up to the ServerHello, with the flight and the transcript that the ClientHello ends which
it answers: one ClientHello for this name; or one, a HelloRetryRequest for it, and a second one for the same name. -/
inductive Asked (draws : List RandomDraw) (serverName : Bytes) : Tls13ServerHelloFlight → Bytes → Bytes → Bytes → Prop
  | once {records : List TlsPlaintextRecord} {message : Bytes} {clientHello : ClientHello}
      {flight : Tls13ServerHelloFlight} (hasks : AsksFor false records message clientHello serverName)
      (hanswer : negotiateTls13ServerFirstFlight draws message = some (.ok (.serverHello flight))) :
      Asked draws serverName flight message (records.flatMap TlsPlaintextRecord.wire)
        (handshakeRecord flight.serverHello ++ compatibilityRecord (!clientHello.legacySessionId.isEmpty))
  | twice {records₁ records₂ : List TlsPlaintextRecord} {message₁ message₂ : Bytes}
      {clientHello₁ clientHello₂ : ClientHello} {retry : Tls13HelloRetryFlight} {flight : Tls13ServerHelloFlight}
      (hasks : AsksFor false records₁ message₁ clientHello₁ serverName)
      (hretry : negotiateTls13ServerFirstFlight draws message₁ = some (.ok (.helloRetry retry)))
      (hasks' : AsksFor true records₂ message₂ clientHello₂ serverName)
      (hanswer : retry.continueWithClientHello draws message₂ = some (.ok flight)) :
      Asked draws serverName flight
        (handshakeMessage handshakeTypeMessageHash (sha256 message₁).toList ++ retry.helloRetryRequest ++ message₂)
        (records₁.flatMap TlsPlaintextRecord.wire ++ records₂.flatMap TlsPlaintextRecord.wire)
        (handshakeRecord retry.helloRetryRequest ++ compatibilityRecord (!clientHello₁.legacySessionId.isEmpty) ++
          handshakeRecord flight.serverHello)

theorem Asked.negotiated {draws : List RandomDraw} {serverName hellos received sent : Bytes}
    {flight : Tls13ServerHelloFlight} (h : Asked draws serverName flight hellos received sent) :
    Negotiated flight hellos := by
  cases h with
  | once _ hanswer => exact .firstFlight hanswer
  | twice _ hretry _ hanswer => exact .helloRetry hretry hanswer

theorem serverName_of_continue {draws : List RandomDraw} {message₁ message₂ : Bytes} {clientHello₁ : ClientHello}
    {retry : Tls13HelloRetryFlight} {flight : Tls13ServerHelloFlight}
    (hretry : negotiateTls13ServerFirstFlight draws message₁ = some (.ok (.helloRetry retry)))
    (hparse : parseClientHello message₁ = .ok clientHello₁)
    (hcontinue : retry.continueWithClientHello draws message₂ = some (.ok flight)) :
    ∃ clientHello₂, parseClientHello message₂ = .ok clientHello₂ ∧
      clientHello₂.serverName = clientHello₁.serverName := by
  obtain ⟨original, horiginal, ⟨_, hfirst, -⟩ | ⟨_, hfound, -, hflight⟩⟩ := negotiateTls13ServerFirstFlight_ok hretry
  · cases hfirst
  · cases hfound
    obtain ⟨second, hsecond, hvalid, -⟩ := continueWithClientHello_ok hcontinue
    rw [(helloRetryFlight_ok hflight).1] at hvalid
    have hfields := parsedFields_eq (acceptClientHello_ok horiginal) (acceptClientHello_ok hsecond)
      (validateRetryClientHello_ok hvalid).2.2
    rw [acceptClientHello_ok horiginal] at hparse
    cases hparse
    exact ⟨second, acceptClientHello_ok hsecond, hfields.1.symm⟩

theorem Hellos.asked {draws : List RandomDraw} {records : List TlsPlaintextRecord}
    {clientHello1 serverName received sent : Bytes} {clientHello : ClientHello} {flight : Tls13ServerHelloFlight}
    (h : Hellos draws (!clientHello.legacySessionId.isEmpty) clientHello1 flight received sent)
    (hasks : AsksFor false records clientHello1 clientHello serverName) :
    ∃ hellos, Asked draws serverName flight hellos (records.flatMap TlsPlaintextRecord.wire ++ received) sent := by
  cases h with
  | direct hanswer =>
    rw [List.append_nil]
    exact ⟨_, .once hasks hanswer⟩
  | retried hretry hcarries hcontinue =>
    obtain ⟨second, hsecond, hname⟩ := serverName_of_continue hretry hasks.parse_eq hcontinue
    exact ⟨_, .twice hasks hretry ⟨hcarries, hsecond, hname.trans hasks.serverName_eq⟩ hcontinue⟩

theorem completeHandshake_state {flight : Tls13ServerHelloFlight} {records : List TlsCiphertextRecord}
    {state : Tls13ApplicationState} (h : flight.completeHandshake records = .ok state) :
    ∃ keySchedule, deriveTls13ApplicationKeySchedule flight.mainSecret flight.transcript.hash = .ok keySchedule ∧
      state.recordProtection =
        .new keySchedule.serverKey keySchedule.serverIv keySchedule.clientKey keySchedule.clientIv ∧
      state.negotiatedAlpn = flight.negotiatedAlpn := by
  obtain ⟨_, -, h⟩ := bind_eq_ok.1 h
  obtain ⟨keySchedule, hkeySchedule, h⟩ := bind_eq_ok.1 h
  obtain ⟨_, -, h⟩ := bind_eq_ok.1 h
  obtain ⟨_, -, h⟩ := bind_eq_ok.1 h
  obtain ⟨_, -, h⟩ := bind_eq_ok.1 h
  cases h
  exact ⟨keySchedule, mapErr_eq_ok.1 hkeySchedule, rfl, rfl⟩

theorem ServerRunInvariant.transcriptHash_eq {flight flight' : Tls13ServerHelloFlight} {hellos : Bytes} {turns : Nat}
    {certificateChain : List Bytes} {signingKey : Scalar} {authentication : Tls13ServerAuthenticationFlight}
    (hinv : ServerRunInvariant flight' hellos (some authentication))
    (hauthenticated : flight.Authenticated turns certificateChain signingKey authentication flight') :
    flight'.transcript.hash = sha256 (serverTranscript hellos flight authentication) := by
  obtain ⟨_, hflight⟩ := hauthenticated.flight_eq
  have hsame : flight'.serverHello = flight.serverHello ∧ flight'.encryptedExtensions = flight.encryptedExtensions := by
    rw [hflight]
    exact ⟨rfl, rfl⟩
  rw [hinv.transcript_eq, TlsTranscript.hash_ofBytes, serverTranscript, hsame.1, hsame.2]

theorem Finishes.shows {turns : Nat} {identity : TlsIdentity} {flight : Tls13ServerHelloFlight}
    {state : Tls13ApplicationState} {hellos received sent : Bytes} (hnegotiated : Negotiated flight hellos)
    (h : Finishes turns identity flight state received sent) :
    ∃ authentication record, Shows turns identity flight hellos authentication record state ∧
      CarriesFinished record received ∧
      sent = (serverFlightCiphertexts flight authentication).flatMap TlsCiphertextRecord.serialize := by
  obtain ⟨authentication, flight', record, hauthenticate, hcarries, hcomplete, rfl⟩ := h
  have hinv := hnegotiated.runInvariant
  obtain ⟨_, hresult, -⟩ | ⟨_, hresult, -, hauthenticated⟩ :=
    Tls13ServerHelloFlight.authenticateServer_cases hinv.writeSequenceNumber_eq hauthenticate
  · cases hresult
  obtain ⟨_, hresult', -⟩ | ⟨_, hresult', hinv'⟩ := hinv.authenticateServer hauthenticate
  · cases hresult'
  cases hresult
  cases hresult'
  obtain ⟨next, hflight⟩ := hauthenticated.flight_eq
  have hhash := hinv'.transcriptHash_eq hauthenticated
  have hsecret : flight'.clientHandshakeTrafficSecret = flight.clientHandshakeTrafficSecret := by rw [hflight]
  obtain ⟨finishedKey, hkey, hverify⟩ := tls13FinishedVerifyData_eq flight'.clientHandshakeTrafficSecret
  have hopens := ((flight'.completeHandshake_isOk hinv'.readSequenceNumber_eq hkey).1 ⟨state, hcomplete⟩).2.2
  obtain ⟨keySchedule, hkeySchedule, hprotection, halpn⟩ := completeHandshake_state hcomplete
  have hread := hinv'.readKey_eq
  rw [hhash] at hopens hkeySchedule
  rw [hsecret] at hverify hread
  refine ⟨authentication, record, ⟨hnegotiated, ⟨flight', hauthenticated⟩, ⟨_, _, _, hread, hverify _, hopens⟩,
    keySchedule, ?_, hprotection, ?_⟩, hcarries, ?_⟩
  · rw [← hkeySchedule, hflight]
  · rw [halpn, hflight]
  · rw [serverFlightCiphertexts, serverFlightCiphertexts, hflight]

/-- Whenever the server reaches a state for application data, on whatever stream: what it received was a ClientHello for
a name that one of the identities presents and that has a route, after a HelloRetryRequest a second one for the same
name, and the client's Finished over the whole conversation; what it sent was the answer to these hellos and the flight
with the certificate of that identity, signed over the conversation; and the keys of the state are those of this
conversation. -/
theorem serverHandshake_establishes (draws : List RandomDraw) (turns : Nat) (identities : TlsIdentityStore)
    (configuration : Option Config) :
    Yields (serverHandshake draws turns identities configuration) fun outcome received sent =>
      ∀ state, outcome = some state →
        ∃ serverName identity flight hellos authentication record received₁ received₂ sent₁,
          identities.select serverName = some identity ∧
          identity ∈ identities.identities ∧ (∃ dnsName ∈ identity.dnsNames, Presents dnsName serverName) ∧
          hasRoute configuration serverName = true ∧ Asked draws serverName flight hellos received₁ sent₁ ∧
          Shows turns identity flight hellos authentication record state ∧ CarriesFinished record received₂ ∧
          received = received₁ ++ received₂ ∧
          sent = sent₁ ++ (serverFlightCiphertexts flight authentication).flatMap TlsCiphertextRecord.serialize := by
  apply (means_serverHandshake draws turns identities configuration).yields
  rintro _ _ _ hhandshake state rfl
  cases hhandshake with
  | @established _ _ _ identity flight _ _ _ _ _ hcarries hserved hhellos hfinishes =>
    obtain ⟨hparse, serverName, hname, hselect, hroute⟩ := hserved
    obtain ⟨hellos, hasked⟩ := hhellos.asked ⟨hcarries, hparse, hname⟩
    obtain ⟨authentication, record, hshows, hfinished, rfl⟩ := hfinishes.shows hasked.negotiated
    obtain ⟨hmem, hpresents⟩ := TlsIdentityStore.presents_of_select hselect
    exact ⟨serverName, identity, flight, hellos, authentication, record, _, _, _, hselect, hmem, hpresents, hroute, hasked,
      hshows, hfinished, (List.append_assoc _ _ _).symm, rfl⟩

end BareProxy.Tls
