import BareProxy.Base.Run
import BareProxy.Base.Stream
import BareProxy.Config.Parse

/-!
# Reloading the configuration

`start_proxy` of `app.rs` up to the call of `serve`, and `reload_runtime_configuration` of `server.rs`. What the
file system and the network answer during one call is an `Outside`: any answer is allowed, so that every content
of the configuration file and of the identity files is covered. Logging is left out.
-/

namespace BareProxy.Server

/-- A listening socket, and the address it was bound to. -/
structure TcpListener where
  socket : Nat
  address : Bytes
  deriving DecidableEq, Repr

/-- The answers of one call: `load_with_tls` with the text of its error, `load_files`, the sockets that `bind`
makes, and the error of `set_nonblocking`. -/
structure Outside (Store : Type) where
  loadWithTls : Except String (Config × List Config.TlsIdentityFiles)
  loadFiles : List Config.TlsIdentityFiles → Except IoError (Option Store)
  bind : Bytes → Except IoError Nat
  setNonblocking : TcpListener → Option IoError

/-- What `serve_until_with_tls` keeps in its three variables. -/
structure Runtime (Store : Type) where
  configuration : Config
  httpsListener : Option TcpListener
  tlsIdentities : Option Store
  deriving DecidableEq

variable {Store : Type}

def bindListener (outside : Outside Store) (address : Bytes) : Except IoError TcpListener :=
  match outside.bind address with
  | .error error => .error error
  | .ok socket => .ok ⟨socket, address⟩

/-! ### Start -/

inductive AppError
  | config (message : String)
  | listenerBind (address : Bytes) (message : String)
  deriving DecidableEq, Repr

def devListenAddr : Bytes := ascii "127.0.0.1:8080"

/-- `start_proxy`: the listener and the state with which `serve` starts. -/
def startProxy (outside : Outside Store) : Except AppError (TcpListener × Runtime Store) :=
  match outside.loadWithTls with
  | .error error => .error (.config error)
  | .ok (configuration, tlsIdentityFiles) =>
    match outside.loadFiles tlsIdentityFiles with
    | .error error => .error (.config ("TLS identity error: " ++ error.message))
    | .ok tlsIdentities =>
      let tlsListener : Except AppError (Option TcpListener) :=
        if tlsIdentities.isSome then
          match bindListener outside configuration.httpsListenAddr with
          | .error error => .error (.listenerBind configuration.httpsListenAddr error.message)
          | .ok listener => .ok (some listener)
        else .ok none
      match tlsListener with
      | .error error => .error error
      | .ok httpsListener =>
        match bindListener outside devListenAddr with
        | .error error => .error (.listenerBind devListenAddr error.message)
        | .ok listener => .ok (listener, { configuration, httpsListener, tlsIdentities })

/-! ### Reload -/

/-- The listener for a replacement: bound and set up when it has to change, `none` when it stays. -/
def replacementHttpsListener (outside : Outside Store) (changed : Bool) (address : Bytes) :
    Except IoError (Option TcpListener) :=
  if changed then
    match bindListener outside address with
    | .error error => .error error
    | .ok listener =>
      match outside.setNonblocking listener with
      | some error => .error error
      | none => .ok (some listener)
  else .ok none

def reloadRuntimeConfiguration (runtime : Runtime Store) (outside : Outside Store) : Bool × Runtime Store :=
  match outside.loadWithTls with
  | .error _ => (false, runtime)
  | .ok (replacement, tlsIdentityFiles) =>
    match outside.loadFiles tlsIdentityFiles with
    | .error _ => (false, runtime)
    | .ok replacementTlsIdentities =>
      let httpsListenerChanged := replacementTlsIdentities.isSome &&
        (runtime.httpsListener.isNone || runtime.configuration.httpsListenAddr != replacement.httpsListenAddr)
      match replacementHttpsListener outside httpsListenerChanged replacement.httpsListenAddr with
      | .error _ => (false, runtime)
      | .ok replacementListener =>
        let httpsListener :=
          if replacementTlsIdentities.isNone then none
          else match replacementListener with
            | some listener => some listener
            | none => runtime.httpsListener
        (true, { configuration := replacement, httpsListener, tlsIdentities := replacementTlsIdentities })

/-! ### The state stays consistent -/

/-- There is a listener exactly when there are identities, and it is bound to the configured address. -/
structure Runtime.Consistent (runtime : Runtime Store) : Prop where
  isSome_iff : runtime.httpsListener.isSome = true ↔ runtime.tlsIdentities.isSome = true
  address_eq : ∀ listener, runtime.httpsListener = some listener →
    listener.address = runtime.configuration.httpsListenAddr

theorem bindListener_ok {outside : Outside Store} {address : Bytes} {listener : TcpListener}
    (h : bindListener outside address = .ok listener) : listener.address = address := by
  rw [bindListener] at h
  split at h
  · cases h
  · cases h
    rfl

theorem startProxy_consistent {outside : Outside Store} {listener : TcpListener} {runtime : Runtime Store}
    (h : startProxy outside = .ok (listener, runtime)) : runtime.Consistent := by
  rw [startProxy] at h
  split at h
  · cases h
  · rename_i configuration tlsIdentityFiles hload
    split at h
    · cases h
    · rename_i tlsIdentities hidentities
      dsimp only at h
      split at h
      · cases h
      · rename_i httpsListener hlistener
        split at h
        · cases h
        · cases h
          by_cases hsome : tlsIdentities.isSome = true
          · rw [if_pos hsome] at hlistener
            split at hlistener
            · cases hlistener
            · rename_i bound hbind
              cases hlistener
              refine ⟨by simp [hsome], ?_⟩
              intro listener hlistener
              cases hlistener
              exact bindListener_ok hbind
          · rw [if_neg hsome] at hlistener
            cases hlistener
            refine ⟨by simp [hsome], ?_⟩
            intro listener hlistener
            cases hlistener

/-- The listener for a replacement, when there is one. -/
theorem replacementHttpsListener_ok {outside : Outside Store} {changed : Bool} {address : Bytes}
    {replacement : Option TcpListener} (h : replacementHttpsListener outside changed address = .ok replacement) :
    (changed = true → ∃ listener, replacement = some listener ∧ listener.address = address) ∧
      (changed = false → replacement = none) := by
  rw [replacementHttpsListener] at h
  cases changed with
  | false =>
    cases h
    exact ⟨fun hchanged => absurd hchanged Bool.false_ne_true, fun _ => rfl⟩
  | true =>
    rw [if_pos rfl] at h
    split at h
    · cases h
    · rename_i listener hbind
      split at h
      · cases h
      · cases h
        exact ⟨fun _ => ⟨listener, rfl, bindListener_ok hbind⟩, fun hchanged => absurd hchanged.symm Bool.false_ne_true⟩

theorem reloadRuntimeConfiguration_false {runtime : Runtime Store} {outside : Outside Store}
    (h : (reloadRuntimeConfiguration runtime outside).1 = false) :
    (reloadRuntimeConfiguration runtime outside).2 = runtime := by
  rw [reloadRuntimeConfiguration] at h ⊢
  split at h
  · rfl
  · split at h
    · rfl
    · dsimp only at h ⊢
      split at h
      · rfl
      · cases h

theorem reloadRuntimeConfiguration_true {runtime : Runtime Store} {outside : Outside Store}
    (h : (reloadRuntimeConfiguration runtime outside).1 = true) :
    ∃ tlsIdentityFiles,
      outside.loadWithTls = .ok ((reloadRuntimeConfiguration runtime outside).2.configuration, tlsIdentityFiles) ∧
      outside.loadFiles tlsIdentityFiles = .ok (reloadRuntimeConfiguration runtime outside).2.tlsIdentities := by
  rw [reloadRuntimeConfiguration] at h ⊢
  split at h
  · cases h
  · rename_i replacement tlsIdentityFiles hload
    split at h
    · cases h
    · rename_i replacementTlsIdentities hidentities
      dsimp only at h ⊢
      split at h
      · cases h
      · exact ⟨tlsIdentityFiles, hload, hidentities⟩

/-- A listener that stays is the one of the same address, since it was bound to the address of its time. -/
theorem reloadRuntimeConfiguration_consistent {runtime : Runtime Store} (hruntime : runtime.Consistent)
    (outside : Outside Store) : (reloadRuntimeConfiguration runtime outside).2.Consistent := by
  rw [reloadRuntimeConfiguration]
  split
  · exact hruntime
  · rename_i replacement tlsIdentityFiles hload
    split
    · exact hruntime
    · rename_i replacementTlsIdentities hidentities
      dsimp only
      split
      · exact hruntime
      · rename_i replacementListener hlistener
        obtain ⟨hchanged, hkept⟩ := replacementHttpsListener_ok hlistener
        cases hsome : replacementTlsIdentities with
        | none => exact ⟨by simp, fun listener hlistener => by cases hlistener⟩
        | some identities =>
          rw [hsome, Option.isSome_some, Bool.true_and] at hchanged hkept
          cases hlistenerChanged : (runtime.httpsListener.isNone ||
              runtime.configuration.httpsListenAddr != replacement.httpsListenAddr) with
          | true =>
            obtain ⟨listener, rfl, haddress⟩ := hchanged hlistenerChanged
            refine ⟨by simp, ?_⟩
            intro other hother
            cases hother
            exact haddress
          | false =>
            rw [hkept hlistenerChanged]
            rw [Bool.or_eq_false_iff, bne_eq_false_iff_eq] at hlistenerChanged
            obtain ⟨hlistenerSome, haddress⟩ := hlistenerChanged
            refine ⟨by simpa using hlistenerSome, ?_⟩
            intro listener hsame
            rw [← haddress]
            exact hruntime.address_eq listener hsame

/-- After the start and any reloads: there is a listener exactly when there are identities, bound to the configured
address; the next reload leaves everything as it is when it returns false, and has installed the configuration and
the identities that were loaded when it returns true. -/
theorem reload_atomic {outside : Outside Store} {listener : TcpListener} {start : Runtime Store}
    (hstart : startProxy outside = .ok (listener, start)) (reloads : List (Outside Store)) :
    let runtime := stateAfter reloadRuntimeConfiguration start reloads
    (runtime.httpsListener.isSome = true ↔ runtime.tlsIdentities.isSome = true) ∧
    (∀ listener, runtime.httpsListener = some listener → listener.address = runtime.configuration.httpsListenAddr) ∧
    ∀ next, ((reloadRuntimeConfiguration runtime next).1 = false →
        (reloadRuntimeConfiguration runtime next).2 = runtime) ∧
      ((reloadRuntimeConfiguration runtime next).1 = true → ∃ tlsIdentityFiles,
        next.loadWithTls = .ok ((reloadRuntimeConfiguration runtime next).2.configuration, tlsIdentityFiles) ∧
        next.loadFiles tlsIdentityFiles = .ok (reloadRuntimeConfiguration runtime next).2.tlsIdentities) := by
  intro runtime
  have hconsistent : runtime.Consistent :=
    stateAfter_invariant (P := Runtime.Consistent) (fun _ outside h => reloadRuntimeConfiguration_consistent h outside)
      (startProxy_consistent hstart) reloads
  refine ⟨hconsistent.isSome_iff, hconsistent.address_eq, ?_⟩
  intro next
  exact ⟨reloadRuntimeConfiguration_false, reloadRuntimeConfiguration_true⟩

/-- The answers when there is one identity, and the sockets are numbered by the lengths of their addresses. -/
def oneIdentity (address : Bytes) : Outside Unit where
  loadWithTls := .ok (⟨[], 1, 1, 1, address⟩, [⟨ascii "c.pem", ascii "k.pem"⟩])
  loadFiles _ := .ok (some ())
  bind address := .ok address.length
  setNonblocking _ := none

/-- A start with an identity and a reload that moves the listener. -/
theorem reload_atomic_moved :
    startProxy (oneIdentity (ascii "127.0.0.1:8443")) = .ok (⟨14, devListenAddr⟩,
      ⟨⟨[], 1, 1, 1, ascii "127.0.0.1:8443"⟩, some ⟨14, ascii "127.0.0.1:8443"⟩, some ()⟩) ∧
    ∀ listener, (stateAfter reloadRuntimeConfiguration
        ⟨⟨[], 1, 1, 1, ascii "127.0.0.1:8443"⟩, some ⟨14, ascii "127.0.0.1:8443"⟩, some ()⟩
        [oneIdentity (ascii "0.0.0.0:443")]).httpsListener = some listener → listener.address = ascii "0.0.0.0:443" := by
  have hstart : startProxy (oneIdentity (ascii "127.0.0.1:8443")) = .ok (⟨14, devListenAddr⟩,
      ⟨⟨[], 1, 1, 1, ascii "127.0.0.1:8443"⟩, some ⟨14, ascii "127.0.0.1:8443"⟩, some ()⟩) := by decide
  exact ⟨hstart, (reload_atomic hstart [oneIdentity (ascii "0.0.0.0:443")]).2.1⟩

end BareProxy.Server
