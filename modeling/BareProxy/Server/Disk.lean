import BareProxy.Server.Reload
import BareProxy.Tls.IdentityFiles

/-!
# Serving from files

The start and the reloads with the files read from a disk, which may be another one at each of them. A server is always
on the files of one load, the last that succeeded: its configuration and its identities are from there. So a connection
that it establishes proves a name for which these files have a route, with a certificate and a key that are in them.
-/

namespace BareProxy.Server

open Tls Conversation

/-- The files, and what the network answers. -/
structure World where
  disk : Disk
  bind : Bytes → Except IoError Nat
  setNonblocking : TcpListener → Option IoError

def World.outside (world : World) (configPath : Bytes) : Outside TlsIdentityStore where
  loadWithTls := mapErr Config.ConfigError.text (Config.loadWithTls world.disk configPath)
  loadFiles := TlsIdentityStore.loadFiles world.disk
  bind := world.bind
  setNonblocking := world.setNonblocking

/-- The configuration and the identities are those of the files. -/
def World.Loads (world : World) (configPath : Bytes) (files : List Config.TlsIdentityFiles)
    (runtime : Runtime TlsIdentityStore) : Prop :=
  Config.loadWithTls world.disk configPath = .ok (runtime.configuration, files) ∧
    TlsIdentityStore.loadFiles world.disk files = .ok runtime.tlsIdentities

variable {world : World} {configPath : Bytes} {runtime : Runtime TlsIdentityStore}

theorem World.loads_of_outside {files : List Config.TlsIdentityFiles}
    (hload : (world.outside configPath).loadWithTls = .ok (runtime.configuration, files))
    (hfiles : (world.outside configPath).loadFiles files = .ok runtime.tlsIdentities) :
    world.Loads configPath files runtime :=
  ⟨mapErr_eq_ok.1 hload, hfiles⟩

theorem startProxy_ok {outside : Outside TlsIdentityStore} {listener : TcpListener}
    (h : startProxy outside = .ok (listener, runtime)) :
    ∃ tlsIdentityFiles, outside.loadWithTls = .ok (runtime.configuration, tlsIdentityFiles) ∧
      outside.loadFiles tlsIdentityFiles = .ok runtime.tlsIdentities := by
  rw [startProxy] at h
  split at h
  · cases h
  · rename_i configuration tlsIdentityFiles hload
    split at h
    · cases h
    · rename_i tlsIdentities hidentities
      dsimp only at h
      split at h
      · cases h
      · split at h
        · cases h
        · cases h
          exact ⟨tlsIdentityFiles, hload, hidentities⟩

/-! ### Runs -/

/-- The state after a start and some reloads. -/
def runtimeAfter (configPath : Bytes) (start : Runtime TlsIdentityStore) (reloads : List World) :
    Runtime TlsIdentityStore :=
  stateAfter reloadRuntimeConfiguration start (reloads.map fun world => world.outside configPath)

theorem runtimeAfter_append (start : Runtime TlsIdentityStore) (reloads : List World) (world : World) :
    runtimeAfter configPath start (reloads ++ [world]) =
      (reloadRuntimeConfiguration (runtimeAfter configPath start reloads) (world.outside configPath)).2 := by
  rw [runtimeAfter, List.map_append, stateAfter_append]
  rfl

/-- The last load that succeeded; every reload after it is refused, and would be again. -/
structure LastLoaded (configPath : Bytes) (worlds : List World) (runtime : Runtime TlsIdentityStore) (world : World)
    (files : List Config.TlsIdentityFiles) : Prop where
  last : ∃ front back, worlds = front ++ world :: back ∧
    ∀ later ∈ back, (reloadRuntimeConfiguration runtime (later.outside configPath)).1 = false
  loads : world.Loads configPath files runtime

theorem exists_lastLoaded {first : World} {listener : TcpListener} {start : Runtime TlsIdentityStore}
    (hstart : startProxy (first.outside configPath) = .ok (listener, start)) (reloads : List World) :
    ∃ world files, LastLoaded configPath (first :: reloads) (runtimeAfter configPath start reloads) world files := by
  induction reloads using List.reverseRecOn with
  | nil =>
    obtain ⟨files, hload, hfiles⟩ := startProxy_ok hstart
    exact ⟨first, files, ⟨[], [], rfl, fun _ h => absurd h List.not_mem_nil⟩, World.loads_of_outside hload hfiles⟩
  | append_singleton reloads next ih =>
    obtain ⟨world, files, ⟨front, back, hsplit, hback⟩, hloads⟩ := ih
    rw [runtimeAfter_append]
    cases hanswer : (reloadRuntimeConfiguration (runtimeAfter configPath start reloads) (next.outside configPath)).1 with
    | true =>
      obtain ⟨files', hload, hfiles⟩ := reloadRuntimeConfiguration_true hanswer
      exact ⟨next, files', ⟨first :: reloads, [], rfl, fun _ h => absurd h List.not_mem_nil⟩,
        World.loads_of_outside hload hfiles⟩
    | false =>
      rw [reloadRuntimeConfiguration_false hanswer]
      refine ⟨world, files, ⟨front, back ++ [next], ?_, ?_⟩, hloads⟩
      · rw [← List.cons_append, hsplit, List.append_assoc, List.cons_append]
      · intro later hlater
        rcases List.mem_append.1 hlater with hlater | hlater
        · exact hback later hlater
        · rw [List.mem_singleton.1 hlater]
          exact hanswer

/-! ### Connections -/

/-- What a client has asked for and been shown from these files by the end of its handshake. -/
def ShowsFiles (disk : Disk) (files : List Config.TlsIdentityFiles) (configuration : Config) (draws : List RandomDraw)
    (turns : Nat) (state : Tls13ApplicationState) (received sent : Bytes) : Prop :=
  ∃ serverName pair identity flight hellos authentication record received₁ received₂ sent₁,
    pair ∈ files ∧ HoldsIdentity disk pair identity ∧ (configuration.routeForHost serverName).isOk = true ∧
    Asked draws serverName flight hellos received₁ sent₁ ∧ Proves serverName hellos flight authentication ∧
    Shows turns identity flight hellos authentication record state ∧ CarriesFinished record received₂ ∧
    received = received₁ ++ received₂ ∧
    sent = sent₁ ++ (serverFlightCiphertexts flight authentication).flatMap TlsCiphertextRecord.serialize

theorem yields_showsFiles {disk : Disk} {files : List Config.TlsIdentityFiles} {store : TlsIdentityStore}
    (h : TlsIdentityStore.loadFiles disk files = .ok (some store)) (configuration : Config) (draws : List RandomDraw)
    (turns : Nat) :
    Yields (serverHandshake draws turns store (some configuration)) fun outcome received sent =>
      ∀ state, outcome = some state → ShowsFiles disk files configuration draws turns state received sent := by
  apply (means_serverHandshake draws turns store (some configuration)).yields
  rintro _ _ _ hhandshake state rfl
  cases hhandshake with
  | @established _ _ _ identity flight _ _ _ _ _ hcarries hserved hhellos hfinishes =>
    obtain ⟨hparse, serverName, hname, hselect, hroute⟩ := hserved
    obtain ⟨hellos, hasked⟩ := hhellos.asked ⟨hcarries, hparse, hname⟩
    obtain ⟨authentication, record, hshows, hfinished, rfl⟩ := hfinishes.shows hasked.negotiated
    obtain ⟨hmem, hpresents⟩ := TlsIdentityStore.presents_of_select hselect
    obtain ⟨pair, hpair, hholds⟩ := exists_of_forall₂ (TlsIdentityStore.loadFiles_eq_some.1 h) hmem
    obtain ⟨leaf, hcertified⟩ := hholds.certified
    exact ⟨serverName, pair, identity, flight, hellos, authentication, record, _, _, _, hpair, hholds, hroute, hasked,
      hshows.proves hcertified hpresents, hshows, hfinished, (List.append_assoc _ _ _).symm, rfl⟩

/-- After a start from files and any reloads, each with whatever is on the disk by then: the configuration and the
identities are those of one load, the last that succeeded; and whenever the server then establishes a connection, on
whatever stream, the client asked for a name for which there is a route in that configuration, and has been shown a
certificate from those files that has this name, and a signature over the conversation that checks with the key in it. -/
theorem servesLastLoaded {first : World} {listener : TcpListener} {start : Runtime TlsIdentityStore}
    (hstart : startProxy (first.outside configPath) = .ok (listener, start)) (reloads : List World) :
    ∃ world files,
      LastLoaded configPath (first :: reloads) (runtimeAfter configPath start reloads) world files ∧
      ∀ store, (runtimeAfter configPath start reloads).tlsIdentities = some store → ∀ draws turns,
        Yields (serverHandshake draws turns store (some (runtimeAfter configPath start reloads).configuration))
          fun outcome received sent => ∀ state, outcome = some state →
            ShowsFiles world.disk files (runtimeAfter configPath start reloads).configuration draws turns state
              received sent := by
  obtain ⟨world, files, hlast⟩ := exists_lastLoaded hstart reloads
  refine ⟨world, files, hlast, fun store hstore draws turns => ?_⟩
  have hfiles := hlast.loads.2
  rw [hstore] at hfiles
  exact @yields_showsFiles _ _ _ hfiles _ draws turns

/-- A configuration with one route and one identity. -/
def exampleConfiguration : Bytes := ascii "example.com -> 127.0.0.1:80\ntls_identity = cert.pem | key.pem\n"

def exampleFiles : Config.TlsIdentityFiles := ⟨ascii "/etc/cert.pem", ascii "/etc/key.pem"⟩

theorem parseWithTls_exampleConfiguration :
    (Config.parseWithTls exampleConfiguration).toOption.map Prod.snd = some [⟨ascii "cert.pem", ascii "key.pem"⟩] := by
  decide +kernel

def exampleWorld (certificatePem privateKeyPem : Bytes) : World where
  disk path :=
    if path = exampleFiles.certificatePath then .ok certificatePem
    else if path = exampleFiles.privateKeyPath then .ok privateKeyPem
    else .ok exampleConfiguration
  bind _ := .ok 0
  setNonblocking _ := none

theorem p256GeneratorMultiply_one : P256.p256GeneratorMultiply .one = .generator := by
  have hone : (P256.Residue.one : P256.Scalar).value.toNat = 1 := by decide
  rw [P256.p256GeneratorMultiply_eq, hone, one_nsmul, P256.P256Point.ofCurve_base]

theorem encodeP256Sec1PrivateKeyPem_one :
    ∃ pem, Der.encodeP256Sec1PrivateKeyPem .one = .ok pem ∧ validUtf8 pem = true := by
  have hvalid : (Der.encodeP256Sec1PrivateKeyPem .one).toOption.map validUtf8 = some true := by
    rw [Der.encodeP256Sec1PrivateKeyPem, Der.encodeP256Sec1PrivateKeyDer, if_neg (by decide), p256GeneratorMultiply_one]
    decide +kernel
  obtain ⟨pem, hpem, hvalid⟩ := Option.map_eq_some_iff.1 hvalid
  exact ⟨pem, toOption_eq_some.1 hpem, hvalid⟩

/-- The files of an identity for the example certificate. -/
theorem exists_storesIdentity : ∃ (identity : TlsIdentity) (certificatePem privateKeyPem : Bytes),
    identity.Issued Der.exampleCertificate [] ∧
      StoresIdentity (exampleWorld certificatePem privateKeyPem).disk exampleFiles identity := by
  have hcertificate : Der.exampleCertificate.der.toOption.map
      (fun der => (validUtf8 (Der.certificatePem der), decide (der.length ≤ Der.usizeMax))) = some (true, true) := by
    decide +kernel
  obtain ⟨der, hder, hfacts⟩ := Option.map_eq_some_iff.1 hcertificate
  obtain ⟨hvalid, hfits⟩ := Prod.mk.inj hfacts
  obtain ⟨pem, hpem, hpemValid⟩ := encodeP256Sec1PrivateKeyPem_one
  have hnothing (boundary : Bytes) : Der.IsForeign boundary [] := ⟨Or.inl rfl, fun _ h => absurd h List.not_mem_nil⟩
  have hread : ([] : Bytes) ++ Der.certificateBlocks [(der, [])] = Der.certificatePem der := by
    rw [Der.certificateBlocks, List.flatMap_singleton, List.append_nil, List.nil_append]
  have hkey : [] ++ pem ++ [] = pem := by rw [List.append_nil, List.nil_append]
  refine ⟨⟨[der], .one, [ascii "example.com"]⟩, Der.certificatePem der, pem, ⟨?_, rfl, List.cons_ne_nil _ _, ?_, ?_⟩,
    ⟨[], [(der, [])], hnothing _, ?_, rfl, ?_, ?_⟩, ⟨[], pem, [], hnothing _, hpem, ?_, ?_⟩⟩
  · exact .cons ⟨Der.exampleCertificate_wellFormed, toOption_eq_some.1 hder, of_decide_eq_true hfits⟩ .nil
  · exact (by decide : (P256.Residue.one : P256.Scalar) ≠ .zero)
  · exact p256GeneratorMultiply_one.symm
  · intro block hblock
    rw [List.mem_singleton.1 hblock]
    exact hnothing _
  · rw [hread]
    rfl
  · rw [hread]
    exact hvalid
  · rw [hkey]
    rfl
  · rw [hkey]
    exact hpemValid

/-- The files are gone. -/
def goneWorld : World where
  disk _ := .error ⟨.other, "No such file or directory (os error 2)"⟩
  bind _ := .ok 0
  setNonblocking _ := none

/-- A start with this certificate and its key, and a reload when the files are gone: the start is what is served. -/
theorem servesLastLoaded_example :
    ∃ (world : World) (start : Runtime TlsIdentityStore) (store : TlsIdentityStore) (listener : TcpListener),
      startProxy (world.outside (ascii "/etc/proxy.conf")) = .ok (listener, start) ∧
      (runtimeAfter (ascii "/etc/proxy.conf") start [goneWorld]).tlsIdentities = some store ∧
      ∃ files, world.Loads (ascii "/etc/proxy.conf") files start ∧ ∀ draws turns,
        Yields (serverHandshake draws turns store (some start.configuration)) fun outcome received sent =>
          ∀ state, outcome = some state →
            ShowsFiles world.disk files start.configuration draws turns state received sent := by
  obtain ⟨identity, certificatePem, privateKeyPem, hissued, hstores⟩ := exists_storesIdentity
  obtain ⟨⟨configuration, _⟩, hparse, rfl⟩ := Option.map_eq_some_iff.1 parseWithTls_exampleConfiguration
  rw [toOption_eq_some] at hparse
  obtain ⟨store, hstore⟩ : ∃ store : TlsIdentityStore, store.identities = [identity] :=
    ⟨⟨_, List.cons_ne_nil _ _, by rw [List.flatMap_singleton, hissued.dnsNames_eq]; decide⟩, rfl⟩
  have hload : Config.loadWithTls (exampleWorld certificatePem privateKeyPem).disk (ascii "/etc/proxy.conf") =
      .ok (configuration, [exampleFiles]) := by
    have hread : (exampleWorld certificatePem privateKeyPem).disk.readToString (ascii "/etc/proxy.conf") =
        .ok exampleConfiguration := Disk.readToString_eq_ok.2 ⟨rfl, by decide +kernel⟩
    rw [Config.loadWithTls, hread, mapErr_ok, ok_bind, hparse, mapErr_ok, ok_bind]
    rfl
  have hfiles : TlsIdentityStore.loadFiles (exampleWorld certificatePem privateKeyPem).disk [exampleFiles] =
      .ok (some store) := by
    rw [TlsIdentityStore.loadFiles_eq_some, hstore]
    exact .cons (hstores.holds hissued.certified) .nil
  have hstart : startProxy ((exampleWorld certificatePem privateKeyPem).outside (ascii "/etc/proxy.conf")) =
      .ok (⟨0, devListenAddr⟩, ⟨configuration, some ⟨0, configuration.httpsListenAddr⟩, some store⟩) := by
    have hload' : ((exampleWorld certificatePem privateKeyPem).outside (ascii "/etc/proxy.conf")).loadWithTls =
        .ok (configuration, [exampleFiles]) := by
      rw [World.outside, hload]
      rfl
    have hfiles' : ((exampleWorld certificatePem privateKeyPem).outside (ascii "/etc/proxy.conf")).loadFiles
        [exampleFiles] = .ok (some store) := hfiles
    rw [startProxy, hload']
    dsimp only
    rw [hfiles']
    rfl
  obtain ⟨last, files, hlast, hyields⟩ := servesLastLoaded hstart [goneWorld]
  obtain ⟨front, back, hsplit, -⟩ := hlast.last
  have hmem : last ∈ [exampleWorld certificatePem privateKeyPem, goneWorld] := by
    rw [hsplit]
    exact List.mem_append_right _ List.mem_cons_self
  have hsame : last = exampleWorld certificatePem privateKeyPem := by
    rcases List.mem_cons.1 hmem with hsame | hgone
    · exact hsame
    · obtain rfl := List.mem_singleton.1 hgone
      cases hlast.loads.1
  subst hsame
  exact ⟨_, _, store, _, hstart, rfl, files, hlast.loads, fun draws turns => @hyields store rfl draws turns⟩

end BareProxy.Server
