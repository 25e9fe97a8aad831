import BareProxy.Server.Reload

/-!
# The accept loop

`serve_until_with_tls` of `server.rs` from the point where it enters its loop, together with the threads it
spawns. The accept thread goes from one of its atomic steps to the next; between any two of them a signal may
set a flag and workers may move on. An action says which of these happens and what the outside answers, and is
refused where the code does not offer it. The sleep between two polls and logging are left out.

A worker is known by the number of workers spawned before it. A scan of the workers may miss one that finishes
while it goes on, so the model lets a scan stop at any worker that is finished, or at none.
-/

namespace BareProxy.Server

inductive WorkerStatus
  /-- In the connection handler. -/
  | handling
  /-- After `fetch_sub`. -/
  | released
  | returned
  | panicked
  deriving DecidableEq, Repr

/-- `JoinHandle::is_finished`. -/
def WorkerStatus.isFinished : WorkerStatus → Bool
  | .returned | .panicked => true
  | _ => false

inductive ListenerKind
  | http
  | https
  deriving DecidableEq, Repr

/-- Where the accept thread is. -/
inductive Pc
  /-- Before `while !shutdown_requested.load()`. -/
  | checkShutdown
  /-- Before `reload_requested.swap(false)`. -/
  | checkReload
  | accept (listener : ListenerKind)
  /-- A connection was accepted; before `active_connections.load()`. -/
  | loadActive (listener : ListenerKind)
  | compare (listener : ListenerKind) (active : Nat)
  /-- Before `active_connections.fetch_add(1)`. -/
  | fetchAdd (listener : ListenerKind)
  | spawn (listener : ListenerKind)
  | reap
  /-- The reaping after the loop. -/
  | shutdownReap
  /-- The joins at the end. -/
  | drain
  | returned (result : Except IoError Unit)
  deriving DecidableEq

inductive AcceptOutcome
  | connection
  | error (error : IoError)
  deriving DecidableEq

inductive Action (Store : Type)
  | requestShutdown
  | requestReload
  /-- A worker ends its connection and gives back its slot. -/
  | release (worker : Nat)
  | finish (worker : Nat)
  /-- The connection handler of a worker panics. -/
  | panic (worker : Nat)
  /-- A step of the accept thread whose outcome is not left to the outside. -/
  | proceed
  /-- The step that looks for a reload, with what a reload would meet. -/
  | reload (outside : Outside Store)
  | accept (outcome : AcceptOutcome)
  /-- A scan of the workers, with the index where it stopped. -/
  | scan (index : Option Nat)

structure ServerState (Store : Type) where
  pc : Pc
  runtime : Runtime Store
  hasConfigPath : Bool
  shutdownRequested : Bool
  reloadRequested : Bool
  activeConnections : Nat
  /-- The vector of handles. -/
  workers : List Nat
  /-- One for each worker that was spawned. -/
  statuses : List WorkerStatus
  /-- The workers that were joined, in order. -/
  joined : List Nat
  /-- Whether `shutdown_requested` was read as true. -/
  shutdownObserved : Bool

def ServerState.enter {Store : Type} (runtime : Runtime Store) (hasConfigPath : Bool) : ServerState Store where
  pc := .checkShutdown
  runtime := runtime
  hasConfigPath := hasConfigPath
  shutdownRequested := false
  reloadRequested := false
  activeConnections := 0
  workers := []
  statuses := []
  joined := []
  shutdownObserved := false

/-- `Vec::swap_remove`: the last element takes the place. -/
def swapRemove {α : Type} (l : List α) (index : Nat) : List α :=
  match l.getLast? with
  | none => []
  | some last => if index + 1 = l.length then l.dropLast else l.dropLast.set index last

namespace ServerState

variable {Store : Type}

def afterListener (state : ServerState Store) : ListenerKind → Pc
  | .http => if state.runtime.httpsListener.isSome && state.runtime.tlsIdentities.isSome then .accept .https else .reap
  | .https => .reap

def setStatus (state : ServerState Store) (worker : Nat) (status : WorkerStatus) : ServerState Store :=
  { state with statuses := state.statuses.set worker status }

def join (state : ServerState Store) (worker : Nat) : ServerState Store :=
  { state with joined := state.joined ++ [worker] }

/-- One pass of `while let Some(index) = workers.iter().position(..)`. -/
def reapStep (state : ServerState Store) (next : Pc) : Option Nat → Option (ServerState Store)
  | none => some { state with pc := next }
  | some index =>
    match state.workers[index]? with
    | none => none
    | some worker =>
      if (state.statuses[worker]?.any WorkerStatus.isFinished) then
        some { state.join worker with workers := swapRemove state.workers index }
      else none

/-- The steps of the accept thread that have one outcome. -/
def proceed (state : ServerState Store) : Option (ServerState Store) :=
  match state.pc with
  | .checkShutdown =>
    if state.shutdownRequested then some { state with pc := .shutdownReap, shutdownObserved := true }
    else some { state with pc := .checkReload }
  | .loadActive listener => some { state with pc := .compare listener state.activeConnections }
  | .compare listener active =>
    if active ≥ state.runtime.configuration.maxConnections then some { state with pc := state.afterListener listener }
    else some { state with pc := .fetchAdd listener }
  | .fetchAdd listener => some { state with pc := .spawn listener, activeConnections := state.activeConnections + 1 }
  | .spawn listener =>
    some { state with
      pc := state.afterListener listener
      statuses := state.statuses ++ [.handling]
      workers := state.workers ++ [state.statuses.length] }
  | .drain =>
    match state.workers with
    | [] => some { state with pc := .returned (.ok ()) }
    | worker :: workers =>
      if (state.statuses[worker]?.any WorkerStatus.isFinished) then some { state.join worker with workers := workers }
      else none
  | _ => none

def step (state : ServerState Store) : Action Store → Option (ServerState Store)
  | .requestShutdown => some { state with shutdownRequested := true }
  | .requestReload => some { state with reloadRequested := true }
  | .release worker =>
    if state.statuses[worker]? = some .handling then
      some { state.setStatus worker .released with activeConnections := state.activeConnections - 1 }
    else none
  | .finish worker =>
    if state.statuses[worker]? = some .released then some (state.setStatus worker .returned) else none
  | .panic worker =>
    if state.statuses[worker]? = some .handling then some (state.setStatus worker .panicked) else none
  | .proceed => state.proceed
  | .reload outside =>
    if state.pc = .checkReload then
      if state.reloadRequested then
        let runtime :=
          if state.hasConfigPath then (reloadRuntimeConfiguration state.runtime outside).2 else state.runtime
        some { state with pc := .accept .http, reloadRequested := false, runtime }
      else some { state with pc := .accept .http }
    else none
  | .accept outcome =>
    match state.pc with
    | .accept listener =>
      match outcome with
      | .connection => some { state with pc := .loadActive listener }
      | .error error =>
        if error.kind = .wouldBlock then some { state with pc := state.afterListener listener }
        else some { state with pc := .returned (.error error) }
    | _ => none
  | .scan index =>
    match state.pc with
    | .reap => state.reapStep .checkShutdown index
    | .shutdownReap => state.reapStep .drain index
    | _ => none

def run (state : ServerState Store) (actions : List (Action Store)) : Option (ServerState Store) :=
  actions.foldlM step state

end ServerState

/-! ### The workers -/

theorem perm_swapRemove {α : Type} {l : List α} {index : Nat} {x : α} (h : l[index]? = some x) :
    (x :: swapRemove l index).Perm l := by
  obtain ⟨hindex, rfl⟩ := List.getElem?_eq_some_iff.1 h
  have hne : l ≠ [] := List.ne_nil_of_length_pos (Nat.zero_lt_of_lt hindex)
  have hlast : l.dropLast ++ [l.getLast hne] = l := List.dropLast_append_getLast hne
  rw [swapRemove, List.getLast?_eq_some_getLast hne]
  dsimp only
  split
  · rename_i hend
    have hx : l[index] = l.getLast hne := by
      rw [List.getLast_eq_getElem]
      congr 1
      omega
    rw [hx]
    have happend := (List.perm_append_singleton (l.getLast hne) l.dropLast).symm
    rwa [hlast] at happend
  · rename_i hend
    have hshort : index < l.dropLast.length := by
      rw [List.length_dropLast]
      omega
    have hx : l[index] = l.dropLast[index] := (List.getElem_dropLast hshort).symm
    have hset := List.set_perm_cons_eraseIdx hshort (l.getLast hne)
    have herase := List.getElem_cons_eraseIdx_perm hshort
    rw [← hx] at herase
    have hfirst : (l[index] :: l.dropLast.set index (l.getLast hne)).Perm (l.getLast hne :: l.dropLast) :=
      (hset.cons _).trans ((List.Perm.swap _ _ _).trans (herase.cons _))
    have hsecond : (l.getLast hne :: l.dropLast).Perm l := by
      have happend := (List.perm_append_singleton (l.getLast hne) l.dropLast).symm
      rwa [hlast] at happend
    exact hfirst.trans hsecond

/-! ### The invariant -/

def Pc.isLeaving : Pc → Bool
  | .shutdownReap | .drain | .returned _ => true
  | _ => false

def Action.isOutside {Store : Type} : Action Store → Bool
  | .requestShutdown | .requestReload | .release _ | .finish _ | .panic _ => true
  | _ => false

/-- An `accept` that fails for another reason than that no connection is waiting. -/
def Action.isAcceptFailure {Store : Type} : Action Store → Bool
  | .accept (.error error) => error.kind ≠ .wouldBlock
  | _ => false

namespace ServerState

variable {Store : Type} {state state' : ServerState Store}

/-- Every worker that was spawned is in the vector or was joined, once; the loop is left when the shutdown was
seen, and the function has returned when all are joined. -/
structure Inv (state : ServerState Store) : Prop where
  workers_perm : (state.workers ++ state.joined).Perm (List.range state.statuses.length)
  observed : state.shutdownObserved = state.pc.isLeaving
  returned : ∀ result, state.pc = .returned result → state.workers = []

/-- What signals and workers leave alone. -/
structure SameThread (state state' : ServerState Store) : Prop where
  pc : state'.pc = state.pc
  workers : state'.workers = state.workers
  joined : state'.joined = state.joined
  spawned : state'.statuses.length = state.statuses.length
  observed : state'.shutdownObserved = state.shutdownObserved

theorem step_sameThread {action : Action Store} (haction : action.isOutside = true)
    (h : state.step action = some state') : SameThread state state' := by
  cases action with
  | requestShutdown =>
    cases h
    exact ⟨rfl, rfl, rfl, rfl, rfl⟩
  | requestReload =>
    cases h
    exact ⟨rfl, rfl, rfl, rfl, rfl⟩
  | release worker =>
    rw [step] at h
    split at h
    · cases h
      exact ⟨rfl, rfl, rfl, List.length_set, rfl⟩
    · cases h
  | finish worker =>
    rw [step] at h
    split at h
    · cases h
      exact ⟨rfl, rfl, rfl, List.length_set, rfl⟩
    · cases h
  | panic worker =>
    rw [step] at h
    split at h
    · cases h
      exact ⟨rfl, rfl, rfl, List.length_set, rfl⟩
    · cases h
  | proceed => cases haction
  | reload outside => cases haction
  | accept outcome => cases haction
  | scan index => cases haction

theorem Inv.of_sameThread (h : state.Inv) (hsame : SameThread state state') : state'.Inv := by
  refine ⟨?_, ?_, ?_⟩
  · rw [hsame.workers, hsame.joined, hsame.spawned]
    exact h.workers_perm
  · rw [hsame.observed, hsame.pc]
    exact h.observed
  · rw [hsame.pc, hsame.workers]
    exact h.returned

theorem afterListener_inside (state : ServerState Store) (listener : ListenerKind) :
    (state.afterListener listener).isLeaving = false := by
  cases listener with
  | http =>
    rw [afterListener]
    split
    · rfl
    · rfl
  | https => rfl

theorem ne_returned_of_inside {pc : Pc} (h : pc.isLeaving = false) (result : Except IoError Unit) :
    pc ≠ .returned result := by
  rintro rfl
  cases h

theorem Inv.goto (h : state.Inv) {pc : Pc} (hpc : state.pc.isLeaving = false) (hnext : pc.isLeaving = false) :
    Inv { state with pc := pc } :=
  ⟨h.workers_perm, h.observed.trans (hpc.trans hnext.symm),
    fun result hresult => absurd hresult (ne_returned_of_inside hnext result)⟩

theorem perm_join {workers rest joined : List Nat} {worker count : Nat} (hrest : (worker :: rest).Perm workers)
    (h : (workers ++ joined).Perm (List.range count)) : (rest ++ (joined ++ [worker])).Perm (List.range count) := by
  have hmove : (rest ++ (joined ++ [worker])).Perm ((worker :: rest) ++ joined) := by
    rw [← List.append_assoc, List.cons_append]
    exact List.perm_append_singleton _ _
  exact hmove.trans ((hrest.append_right joined).trans h)

theorem reapStep_inv {next : Pc} {index : Option Nat} (hinv : state.Inv) (hnext : next.isLeaving = state.pc.isLeaving)
    (hreturned : ∀ result, next ≠ .returned result) (hpc : ∀ result, state.pc ≠ .returned result)
    (h : state.reapStep next index = some state') : state'.Inv := by
  cases index with
  | none =>
    cases h
    exact ⟨hinv.workers_perm, hinv.observed.trans hnext.symm, fun result hresult => absurd hresult (hreturned result)⟩
  | some index =>
    rw [reapStep] at h
    split at h
    · cases h
    · rename_i worker hworker
      split at h
      · cases h
        exact ⟨perm_join (perm_swapRemove hworker) hinv.workers_perm, hinv.observed,
          fun result hresult => absurd hresult (hpc result)⟩
      · cases h

theorem proceed_inv (hinv : state.Inv) (h : state.proceed = some state') : state'.Inv := by
  rw [proceed] at h
  split at h
  case h_1 hpc =>
    split at h
    · cases h
      exact ⟨hinv.workers_perm, rfl, fun result hresult => by cases hresult⟩
    · cases h
      exact hinv.goto (by rw [hpc]; rfl) rfl
  case h_2 listener hpc =>
    cases h
    exact hinv.goto (by rw [hpc]; rfl) rfl
  case h_3 listener active hpc =>
    have hinside : state.pc.isLeaving = false := by rw [hpc]; rfl
    split at h
    · cases h
      exact hinv.goto hinside (state.afterListener_inside listener)
    · cases h
      exact hinv.goto hinside rfl
  case h_4 listener hpc =>
    cases h
    have hnext : Inv { state with pc := .spawn listener } := hinv.goto (by rw [hpc]; rfl) rfl
    exact ⟨hnext.workers_perm, hnext.observed, hnext.returned⟩
  case h_5 listener hpc =>
    cases h
    have hinside := state.afterListener_inside listener
    refine ⟨?_, ?_, fun result hresult => absurd hresult (ne_returned_of_inside hinside result)⟩
    · -- the new worker gets the next number
      dsimp only
      rw [List.length_append, List.length_singleton, List.range_succ, List.append_assoc]
      refine List.Perm.trans ?_ (hinv.workers_perm.append_right [state.statuses.length])
      rw [List.append_assoc]
      exact (List.perm_append_comm).append_left _
    · dsimp only
      rw [hinside, hinv.observed, hpc]
      rfl
  case h_6 hpc =>
    split at h
    · rename_i hworkers
      cases h
      refine ⟨hinv.workers_perm, ?_, fun _ _ => hworkers⟩
      dsimp only
      rw [hinv.observed, hpc]
      rfl
    · rename_i worker workers hworkers
      split at h
      · cases h
        refine ⟨perm_join (hworkers ▸ List.Perm.refl _) hinv.workers_perm, hinv.observed, ?_⟩
        intro result hresult
        rw [join, hpc] at hresult
        cases hresult
      · cases h
  case h_7 => cases h

theorem step_inv {action : Action Store} (hinv : state.Inv) (haction : action.isAcceptFailure = false)
    (h : state.step action = some state') : state'.Inv := by
  cases action with
  | requestShutdown => exact hinv.of_sameThread (step_sameThread rfl h)
  | requestReload => exact hinv.of_sameThread (step_sameThread rfl h)
  | release worker => exact hinv.of_sameThread (step_sameThread rfl h)
  | finish worker => exact hinv.of_sameThread (step_sameThread rfl h)
  | panic worker => exact hinv.of_sameThread (step_sameThread rfl h)
  | proceed => exact proceed_inv hinv h
  | reload outside =>
    rw [step] at h
    split at h
    · rename_i hpc
      have hnext : Inv { state with pc := .accept .http } := hinv.goto (by rw [hpc]; rfl) rfl
      split at h
      · cases h
        exact ⟨hnext.workers_perm, hnext.observed, hnext.returned⟩
      · cases h
        exact hnext
    · cases h
  | accept outcome =>
    rw [step] at h
    split at h
    · rename_i listener hpc
      have hinside : state.pc.isLeaving = false := by rw [hpc]; rfl
      cases outcome with
      | connection =>
        cases h
        exact hinv.goto hinside rfl
      | error error =>
        have hkind : error.kind = .wouldBlock := by simpa [Action.isAcceptFailure] using haction
        dsimp only at h
        rw [if_pos hkind] at h
        cases h
        exact hinv.goto hinside (state.afterListener_inside listener)
    · cases h
  | scan index =>
    rw [step] at h
    split at h
    · rename_i hpc
      exact reapStep_inv hinv (by rw [hpc]; rfl) (by simp) (by simp [hpc]) h
    · rename_i hpc
      exact reapStep_inv hinv (by rw [hpc]; rfl) (by simp) (by simp [hpc]) h
    · cases h

/-! ### Whole runs -/

theorem enter_inv (runtime : Runtime Store) (hasConfigPath : Bool) : (enter runtime hasConfigPath).Inv :=
  ⟨List.Perm.refl _, rfl, fun result hresult => by cases hresult⟩

/-- The function has returned an error without having seen the shutdown. -/
def Failed (state : ServerState Store) : Prop :=
  (∃ error, state.pc = .returned (.error error)) ∧ state.shutdownObserved = false

theorem Failed.of_sameThread (h : state.Failed) (hsame : SameThread state state') : state'.Failed := by
  rw [Failed, hsame.pc, hsame.observed]
  exact h

theorem step_failed {action : Action Store} (hfailed : state.Failed) (h : state.step action = some state') :
    state'.Failed := by
  obtain ⟨error, hpc⟩ := hfailed.1
  cases action with
  | requestShutdown => exact hfailed.of_sameThread (step_sameThread rfl h)
  | requestReload => exact hfailed.of_sameThread (step_sameThread rfl h)
  | release worker => exact hfailed.of_sameThread (step_sameThread rfl h)
  | finish worker => exact hfailed.of_sameThread (step_sameThread rfl h)
  | panic worker => exact hfailed.of_sameThread (step_sameThread rfl h)
  | proceed =>
    rw [step, ServerState.proceed, hpc] at h
    cases h
  | reload outside =>
    rw [step, hpc] at h
    cases h
  | accept outcome =>
    rw [step, hpc] at h
    cases h
  | scan index =>
    rw [step, hpc] at h
    cases h

/-- An `accept` that fails ends the function there. -/
theorem step_acceptFailure {action : Action Store} (hinv : state.Inv) (haction : action.isAcceptFailure = true)
    (h : state.step action = some state') : state'.Failed := by
  cases action with
  | accept outcome =>
    cases outcome with
    | connection => cases haction
    | error error =>
      have hkind : error.kind ≠ .wouldBlock := by simpa [Action.isAcceptFailure] using haction
      rw [step] at h
      split at h
      · rename_i listener hpc
        dsimp only at h
        rw [if_neg hkind] at h
        cases h
        refine ⟨⟨error, rfl⟩, ?_⟩
        dsimp only
        rw [hinv.observed, hpc]
        rfl
      · cases h
  | requestShutdown => cases haction
  | requestReload => cases haction
  | release worker => cases haction
  | finish worker => cases haction
  | panic worker => cases haction
  | proceed => cases haction
  | reload outside => cases haction
  | scan index => cases haction

theorem run_failed {actions : List (Action Store)} {action : Action Store} (hinv : state.Inv)
    (hmem : action ∈ actions) (haction : action.isAcceptFailure = true) (h : state.run actions = some state') :
    state'.Failed := by
  induction actions generalizing state with
  | nil => cases hmem
  | cons first actions ih =>
    rw [run, List.foldlM_cons, Option.bind_eq_bind, Option.bind_eq_some_iff] at h
    obtain ⟨next, hnext, hrest⟩ := h
    by_cases hfirst : first.isAcceptFailure = true
    · exact foldlM_some_invariant (P := Failed) (fun _ _ _ _ => step_failed) (step_acceptFailure hinv hfirst hnext)
        hrest
    · refine ih (step_inv hinv (Bool.eq_false_iff.2 hfirst) hnext) ?_ hrest
      rcases List.mem_cons.1 hmem with rfl | hmem
      · exact absurd haction hfirst
      · exact hmem

end ServerState

/-- In every run from the entry of the loop: the function returns only after it saw the shutdown and joined every
worker it spawned once, exactly when no `accept` of the run fails for another reason than that no connection is
waiting. -/
theorem serveUntilWithTls_returns_iff {Store : Type} (runtime : Runtime Store) (hasConfigPath : Bool)
    {actions : List (Action Store)} {final : ServerState Store}
    (h : (ServerState.enter runtime hasConfigPath).run actions = some final) :
    (∀ result, final.pc = .returned result →
      final.shutdownObserved = true ∧ final.joined.Perm (List.range final.statuses.length)) ↔
    ∀ action ∈ actions, action.isAcceptFailure = false := by
  have henter := ServerState.enter_inv runtime hasConfigPath
  constructor
  · intro hreturns action hmem
    by_contra hfailure
    obtain ⟨⟨error, hpc⟩, hobserved⟩ := ServerState.run_failed henter hmem (Bool.eq_true_of_not_eq_false hfailure) h
    have hseen := (hreturns _ hpc).1
    rw [hobserved] at hseen
    cases hseen
  · intro hactions result hpc
    have hinv : final.Inv := foldlM_some_invariant
      (fun action hmem _ _ hinv => ServerState.step_inv hinv (hactions action hmem)) henter h
    refine ⟨?_, ?_⟩
    · rw [hinv.observed, hpc]
      rfl
    · have hperm := hinv.workers_perm
      rwa [hinv.returned result hpc, List.nil_append] at hperm

def oneConnection : Runtime Unit := ⟨⟨[], 1, 1, 1, []⟩, none, none⟩

/-- A worker is spawned, panics and is joined during the shutdown. -/
theorem serveUntilWithTls_returns_drained :
    ∃ final, (ServerState.enter oneConnection false).run
        [.proceed, .reload (oneIdentity []), .accept .connection, .proceed, .proceed, .proceed, .proceed,
          .requestShutdown, .scan none, .proceed, .scan none, .panic 0, .proceed, .proceed] = some final ∧
      final.pc = .returned (.ok ()) ∧ final.shutdownObserved = true ∧
      final.joined.Perm (List.range final.statuses.length) := by
  have hrun : ∃ final, (ServerState.enter oneConnection false).run
      [.proceed, .reload (oneIdentity []), .accept .connection, .proceed, .proceed, .proceed, .proceed,
        .requestShutdown, .scan none, .proceed, .scan none, .panic 0, .proceed, .proceed] = some final ∧
      final.pc = .returned (.ok ()) := ⟨_, rfl, rfl⟩
  obtain ⟨final, hfinal, hpc⟩ := hrun
  exact ⟨final, hfinal, hpc, (serveUntilWithTls_returns_iff oneConnection false hfinal).2 (by simp [Action.isAcceptFailure])
    (.ok ()) hpc⟩

/-- An aborted connection ends the server while a worker runs. -/
theorem serveUntilWithTls_connectionAborted :
    ∃ final, (ServerState.enter oneConnection false).run
        [.proceed, .reload (oneIdentity []), .accept .connection, .proceed, .proceed, .proceed, .proceed, .scan none,
          .proceed, .reload (oneIdentity []), .accept (.error ⟨.connectionAborted, "aborted"⟩)] = some final ∧
      final.pc = .returned (.error ⟨.connectionAborted, "aborted"⟩) ∧ final.shutdownObserved = false ∧
      final.statuses = [.handling] ∧ final.joined = [] :=
  ⟨_, rfl, rfl, rfl, rfl, rfl⟩

end BareProxy.Server
