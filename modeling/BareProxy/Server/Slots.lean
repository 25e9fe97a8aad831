import BareProxy.Server.AcceptLoop
import Mathlib.Data.List.Count

/-!
# Connection slots

`active_connections` against the workers that it stands for. The accept thread reads the counter, compares and adds in
three steps; what carries the limit across them is that the other threads only subtract.
-/

namespace BareProxy.Server

/-- The connection handler panics. -/
def Action.isPanic {Store : Type} : Action Store → Bool
  | .panic _ => true
  | _ => false

/-- A connection that was counted and has no thread yet. -/
def Pc.pending : Pc → Nat
  | .spawn _ => 1
  | _ => 0

/-- The accept thread is not between reading the counter and spawning. -/
def Pc.isIdle : Pc → Bool
  | .compare .. | .fetchAdd _ | .spawn _ => false
  | _ => true

/-- The thread has not executed its `fetch_sub`. -/
def WorkerStatus.holdsSlot : WorkerStatus → Bool
  | .handling | .panicked => true
  | _ => false

theorem Pc.pending_of_isIdle {pc : Pc} (h : pc.isIdle = true) : pc.pending = 0 := by
  cases pc with
  | spawn listener => cases h
  | _ => rfl

theorem countP_holdsSlot (statuses : List WorkerStatus) :
    statuses.countP WorkerStatus.holdsSlot = statuses.count .handling + statuses.count .panicked := by
  induction statuses with
  | nil => rfl
  | cons status statuses ih =>
      rw [List.countP_cons, List.count_cons, List.count_cons, ih]
      cases status with
      | handling => exact Nat.add_right_comm _ _ 1
      | released => rfl
      | returned => rfl
      | panicked => rfl

namespace ServerState

variable {Store : Type} {state state' : ServerState Store}

/-- The workers whose connection handler runs or is about to run. -/
def runningWorkers (state : ServerState Store) : Nat := state.statuses.count .handling + state.pc.pending

/-- The admitted workers that have not decremented the counter. -/
def holdingWorkers (state : ServerState Store) : Nat :=
  state.statuses.countP WorkerStatus.holdsSlot + state.pc.pending

def maxConnections (state : ServerState Store) : Nat := state.runtime.configuration.maxConnections

theorem holdingWorkers_eq (state : ServerState Store) :
    state.holdingWorkers = state.runningWorkers + state.statuses.count .panicked := by
  rw [holdingWorkers, countP_holdsSlot, runningWorkers]
  exact Nat.add_right_comm _ _ _

/-! ### One step -/

/-- What a step does to the counter and to the workers that it counts. -/
inductive SlotStep (state : ServerState Store) (action : Action Store) (state' : ServerState Store) : Prop
  /-- A step of the accept thread outside the admission of a connection. -/
  | idle (hpending : state.pc.pending = 0) (hpc : state'.pc.isIdle = true) (hstatuses : state'.statuses = state.statuses)
      (hcounter : state'.activeConnections = state.activeConnections)
  /-- Another thread does something that is not counted. -/
  | outside (hpc : state'.pc = state.pc) (hruntime : state'.runtime = state.runtime)
      (hstatuses : state'.statuses = state.statuses) (hcounter : state'.activeConnections = state.activeConnections)
  | load (listener : ListenerKind) (hpending : state.pc.pending = 0)
      (hpc : state'.pc = .compare listener state.activeConnections) (hstatuses : state'.statuses = state.statuses)
      (hcounter : state'.activeConnections = state.activeConnections)
  | compare (listener : ListenerKind) (active : Nat) (hpc : state.pc = .compare listener active)
      (hlimit : active < state.maxConnections) (hnext : state' = { state with pc := .fetchAdd listener })
  | fetchAdd (listener : ListenerKind) (hpc : state.pc = .fetchAdd listener)
      (hnext : state' = { state with pc := .spawn listener, activeConnections := state.activeConnections + 1 })
  | spawn (listener : ListenerKind) (hpc : state.pc = .spawn listener) (hidle : state'.pc.isIdle = true)
      (hstatuses : state'.statuses = state.statuses ++ [.handling])
      (hcounter : state'.activeConnections = state.activeConnections) (hruntime : state'.runtime = state.runtime)
  | release (worker : Nat) (hworker : state.statuses[worker]? = some .handling)
      (hnext : state' =
        { state.setStatus worker .released with activeConnections := state.activeConnections - 1 })
  | finish (worker : Nat) (hworker : state.statuses[worker]? = some .released)
      (hnext : state' = state.setStatus worker .returned)
  | panic (worker : Nat) (haction : action = .panic worker) (hworker : state.statuses[worker]? = some .handling)
      (hnext : state' = state.setStatus worker .panicked)

theorem afterListener_isIdle (state : ServerState Store) (listener : ListenerKind) :
    (state.afterListener listener).isIdle = true := by
  cases listener with
  | http =>
      rw [afterListener]
      split
      · rfl
      · rfl
  | https => rfl

theorem slotStep_reapStep {action : Action Store} {next : Pc} {index : Option Nat} (hidle : state.pc.isIdle = true)
    (hnext : next.isIdle = true) (h : state.reapStep next index = some state') : SlotStep state action state' := by
  have hpending := Pc.pending_of_isIdle hidle
  cases index with
  | none =>
      cases h
      exact .idle hpending hnext rfl rfl
  | some index =>
      rw [reapStep] at h
      split at h
      · cases h
      · split at h
        · cases h
          exact .idle hpending hidle rfl rfl
        · cases h

theorem slotStep_proceed {action : Action Store} (h : state.proceed = some state') : SlotStep state action state' := by
  rw [proceed] at h
  split at h
  case h_1 hpc =>
    have hpending : state.pc.pending = 0 := by rw [hpc]; rfl
    split at h
    · cases h
      exact .idle hpending rfl rfl rfl
    · cases h
      exact .idle hpending rfl rfl rfl
  case h_2 listener hpc =>
    cases h
    exact .load listener (by rw [hpc]; rfl) rfl rfl rfl
  case h_3 listener active hpc =>
    split at h
    · cases h
      exact .idle (by rw [hpc]; rfl) (state.afterListener_isIdle listener) rfl rfl
    · rename_i hlimit
      cases h
      exact .compare listener active hpc (Nat.not_le.1 hlimit) rfl
  case h_4 listener hpc =>
    cases h
    exact .fetchAdd listener hpc rfl
  case h_5 listener hpc =>
    cases h
    exact .spawn listener hpc (state.afterListener_isIdle listener) rfl rfl rfl
  case h_6 hpc =>
    have hidle : state.pc.isIdle = true := by rw [hpc]; rfl
    split at h
    · cases h
      exact .idle (Pc.pending_of_isIdle hidle) rfl rfl rfl
    · split at h
      · cases h
        exact .idle (Pc.pending_of_isIdle hidle) hidle rfl rfl
      · cases h
  case h_7 => cases h

theorem slotStep_of_step {action : Action Store} (h : state.step action = some state') :
    SlotStep state action state' := by
  cases action with
  | requestShutdown =>
      cases h
      exact .outside rfl rfl rfl rfl
  | requestReload =>
      cases h
      exact .outside rfl rfl rfl rfl
  | release worker =>
      rw [step] at h
      split at h
      · rename_i hworker
        cases h
        exact .release worker hworker rfl
      · cases h
  | finish worker =>
      rw [step] at h
      split at h
      · rename_i hworker
        cases h
        exact .finish worker hworker rfl
      · cases h
  | panic worker =>
      rw [step] at h
      split at h
      · rename_i hworker
        cases h
        exact .panic worker rfl hworker rfl
      · cases h
  | proceed => exact slotStep_proceed h
  | reload outside =>
      rw [step] at h
      split at h
      · rename_i hpc
        have hpending : state.pc.pending = 0 := by rw [hpc]; rfl
        split at h
        · cases h
          exact .idle hpending rfl rfl rfl
        · cases h
          exact .idle hpending rfl rfl rfl
      · cases h
  | accept outcome =>
      rw [step] at h
      split at h
      · rename_i listener hpc
        have hpending : state.pc.pending = 0 := by rw [hpc]; rfl
        cases outcome with
        | connection =>
            cases h
            exact .idle hpending rfl rfl rfl
        | error error =>
            dsimp only at h
            split at h
            · cases h
              exact .idle hpending (state.afterListener_isIdle listener) rfl rfl
            · cases h
              exact .idle hpending rfl rfl rfl
      · cases h
  | scan index =>
      rw [step] at h
      split at h
      · rename_i hpc
        exact slotStep_reapStep (by rw [hpc]; rfl) rfl h
      · rename_i hpc
        exact slotStep_reapStep (by rw [hpc]; rfl) rfl h
      · cases h

/-! ### The invariant -/

/-- The counter counts the workers that hold a slot. What the thread read bounds it from above until the thread adds
to it. -/
structure SlotInv (state : ServerState Store) : Prop where
  counter_eq : state.activeConnections = state.holdingWorkers
  compare_le : ∀ listener active, state.pc = .compare listener active → state.activeConnections ≤ active
  fetchAdd_lt : ∀ listener, state.pc = .fetchAdd listener → state.activeConnections < state.maxConnections
  spawn_le : ∀ listener, state.pc = .spawn listener → state.activeConnections ≤ state.maxConnections

/-- Away from an admission only the count matters. -/
theorem SlotInv.of_isIdle (hcounter : state.activeConnections = state.holdingWorkers) (hidle : state.pc.isIdle = true) :
    state.SlotInv := by
  refine ⟨hcounter, fun listener active hpc => ?_, fun listener hpc => ?_, fun listener hpc => ?_⟩
  · rw [hpc] at hidle
    cases hidle
  · rw [hpc] at hidle
    cases hidle
  · rw [hpc] at hidle
    cases hidle

theorem enter_slotInv (runtime : Runtime Store) (hasConfigPath : Bool) : (enter runtime hasConfigPath).SlotInv :=
  .of_isIdle rfl rfl

/-- Steps of other threads that do not raise the counter keep the bounds. -/
theorem SlotInv.of_le (hinv : state.SlotInv) (hcounter : state'.activeConnections = state'.holdingWorkers)
    (hle : state'.activeConnections ≤ state.activeConnections) (hpc : state'.pc = state.pc)
    (hruntime : state'.runtime = state.runtime) : state'.SlotInv := by
  have hmax : state'.maxConnections = state.maxConnections := by rw [maxConnections, hruntime, maxConnections]
  refine ⟨hcounter, fun listener active h => ?_, fun listener h => ?_, fun listener h => ?_⟩
  · exact hle.trans (hinv.compare_le listener active (hpc ▸ h))
  · rw [hmax]
    exact hle.trans_lt (hinv.fetchAdd_lt listener (hpc ▸ h))
  · rw [hmax]
    exact hle.trans (hinv.spawn_le listener (hpc ▸ h))

theorem countP_setStatus {worker : Nat} {old new : WorkerStatus} {p : WorkerStatus → Bool}
    (h : state.statuses[worker]? = some old) :
    (state.setStatus worker new).statuses.countP p + (if p old then 1 else 0) =
      state.statuses.countP p + (if p new then 1 else 0) := by
  obtain ⟨hworker, hold⟩ := List.getElem?_eq_some_iff.1 h
  have hpositive := List.boole_getElem_le_countP (p := p) hworker
  show (state.statuses.set worker new).countP p + _ = _
  rw [List.countP_set hworker]
  rw [hold] at hpositive ⊢
  omega

theorem holdingWorkers_pos {worker : Nat} (h : state.statuses[worker]? = some .handling) : 0 < state.holdingWorkers := by
  have hmem := List.mem_of_getElem? h
  have hpos : 0 < state.statuses.countP WorkerStatus.holdsSlot := List.countP_pos_iff.2 ⟨_, hmem, rfl⟩
  exact Nat.lt_of_lt_of_le hpos (Nat.le_add_right _ _)

theorem SlotStep.slotInv {action : Action Store} (hinv : state.SlotInv) (h : SlotStep state action state') :
    state'.SlotInv := by
  have hcount := hinv.counter_eq
  rw [holdingWorkers] at hcount
  cases h with
  | idle hpending hidle hstatuses hcounter =>
      refine .of_isIdle ?_ hidle
      rw [hcounter, holdingWorkers, hstatuses, Pc.pending_of_isIdle hidle, hcount, hpending]
  | outside hpc hruntime hstatuses hcounter =>
      refine hinv.of_le ?_ hcounter.le hpc hruntime
      rw [hcounter, holdingWorkers, hstatuses, hpc, hcount]
  | load listener hpending hpc hstatuses hcounter =>
      refine ⟨?_, fun found active hfound => ?_, fun found hfound => ?_, fun found hfound => ?_⟩
      · rw [hcounter, holdingWorkers, hstatuses, hpc, hcount, hpending]
        rfl
      · rw [hpc] at hfound
        cases hfound
        exact hcounter.le
      · rw [hpc] at hfound
        cases hfound
      · rw [hpc] at hfound
        cases hfound
  | compare listener active hpc hlimit hnext =>
      subst hnext
      refine ⟨?_, fun _ _ hfound => Pc.noConfusion hfound, fun _ _ => ?_, fun _ hfound => Pc.noConfusion hfound⟩
      · rw [holdingWorkers]
        rw [hpc] at hcount
        exact hcount
      · exact (hinv.compare_le listener active hpc).trans_lt hlimit
  | fetchAdd listener hpc hnext =>
      subst hnext
      refine ⟨?_, fun _ _ hfound => Pc.noConfusion hfound, fun _ hfound => Pc.noConfusion hfound, fun _ _ => ?_⟩
      · rw [hpc] at hcount
        show state.activeConnections + 1 = _
        rw [hcount]
        rfl
      · exact hinv.fetchAdd_lt listener hpc
  | spawn listener hpc hidle hstatuses hcounter hruntime =>
      refine .of_isIdle ?_ hidle
      rw [hcounter, holdingWorkers, hstatuses, List.countP_append, Pc.pending_of_isIdle hidle, hcount, hpc]
      rfl
  | release worker hworker hnext =>
      subst hnext
      refine hinv.of_le ?_ (Nat.sub_le _ _) rfl rfl
      have hset := @countP_setStatus _ _ _ _ .released WorkerStatus.holdsSlot hworker
      simp only [WorkerStatus.holdsSlot, if_true, Bool.false_eq_true, if_false] at hset
      show state.activeConnections - 1 = (state.setStatus worker .released).statuses.countP _ + state.pc.pending
      omega
  | finish worker hworker hnext =>
      subst hnext
      refine hinv.of_le ?_ le_rfl rfl rfl
      have hset := @countP_setStatus _ _ _ _ .returned WorkerStatus.holdsSlot hworker
      simp only [WorkerStatus.holdsSlot, Bool.false_eq_true, if_false] at hset
      show state.activeConnections = (state.setStatus worker .returned).statuses.countP _ + state.pc.pending
      omega
  | panic worker haction hworker hnext =>
      subst hnext
      refine hinv.of_le ?_ le_rfl rfl rfl
      have hset := @countP_setStatus _ _ _ _ .panicked WorkerStatus.holdsSlot hworker
      simp only [WorkerStatus.holdsSlot, if_true] at hset
      show state.activeConnections = (state.setStatus worker .panicked).statuses.countP _ + state.pc.pending
      omega

theorem run_slotInv {runtime : Runtime Store} {hasConfigPath : Bool} {actions : List (Action Store)}
    (h : (enter runtime hasConfigPath).run actions = some state) : state.SlotInv :=
  foldlM_some_invariant (fun _ _ _ _ hinv hstep => (slotStep_of_step hstep).slotInv hinv)
    (enter_slotInv runtime hasConfigPath) h

/-! ### Panics -/

theorem SlotStep.panicked_eq {action : Action Store} (hpanic : action.isPanic = false)
    (h : SlotStep state action state') : state'.statuses.count .panicked = state.statuses.count .panicked := by
  cases h with
  | idle hpending hidle hstatuses hcounter => rw [hstatuses]
  | outside hpc hruntime hstatuses hcounter => rw [hstatuses]
  | load listener hpending hpc hstatuses hcounter => rw [hstatuses]
  | compare listener active hpc hlimit hnext => rw [hnext]
  | fetchAdd listener hpc hnext => rw [hnext]
  | spawn listener hpc hidle hstatuses hcounter hruntime =>
      rw [hstatuses, List.count_append]
      rfl
  | release worker hworker hnext =>
      rw [hnext]
      exact @countP_setStatus _ _ _ _ .released (· == .panicked) hworker
  | finish worker hworker hnext =>
      rw [hnext]
      exact @countP_setStatus _ _ _ _ .returned (· == .panicked) hworker
  | panic worker haction hworker hnext =>
      rw [haction] at hpanic
      cases hpanic

theorem step_panicked {action : Action Store} (hpanic : action.isPanic = true)
    (h : state.step action = some state') :
    state'.statuses.count .panicked = state.statuses.count .panicked + 1 := by
  cases action with
  | panic worker =>
      rw [step] at h
      split at h
      · rename_i hworker
        cases h
        exact @countP_setStatus _ _ _ _ .panicked (· == .panicked) hworker
      · cases h
  | _ => cases hpanic

/-- Every panic of a run leaves a worker that has panicked. -/
theorem run_panicked {actions : List (Action Store)} (h : state.run actions = some state') :
    state'.statuses.count .panicked = state.statuses.count .panicked + actions.countP Action.isPanic := by
  induction actions generalizing state with
  | nil =>
      cases h
      rfl
  | cons action actions ih =>
      rw [run, List.foldlM_cons, Option.bind_eq_bind, Option.bind_eq_some_iff] at h
      obtain ⟨next, hnext, hrest⟩ := h
      rw [ih hrest, List.countP_cons]
      by_cases hpanic : action.isPanic = true
      · rw [step_panicked hpanic hnext, if_pos hpanic, Nat.add_assoc, Nat.add_comm 1]
      · rw [(slotStep_of_step hnext).panicked_eq (Bool.eq_false_iff.2 hpanic), if_neg hpanic, Nat.add_zero]

/-- The counter is off by the number of panics. -/
theorem run_counter {runtime : Runtime Store} {hasConfigPath : Bool} {actions : List (Action Store)}
    (h : (enter runtime hasConfigPath).run actions = some state) :
    state.activeConnections = state.runningWorkers + actions.countP Action.isPanic := by
  rw [(run_slotInv h).counter_eq, holdingWorkers_eq, run_panicked h]
  show _ + (0 + _) = _
  rw [Nat.zero_add]

end ServerState

open ServerState

/-- In every state that a run reaches: when the accept thread admits a connection, by counting it or by spawning its
worker, the running workers are within the limit then in force; the counter is the number of admitted workers that have
not decremented it; and it is positive when a worker does. -/
theorem connectionLimit_respected {Store : Type} {runtime : Runtime Store} {hasConfigPath : Bool}
    {actions : List (Action Store)} {state : ServerState Store}
    (h : (enter runtime hasConfigPath).run actions = some state) :
    (∀ listener next, state.pc = .fetchAdd listener ∨ state.pc = .spawn listener →
      state.step .proceed = some next → next.runningWorkers ≤ next.maxConnections) ∧
    state.activeConnections = state.holdingWorkers ∧
    ∀ worker next, state.step (.release worker) = some next → 0 < state.activeConnections := by
  have hinv := run_slotInv h
  refine ⟨?_, hinv.counter_eq, ?_⟩
  · intro listener next hpc hstep
    have hnext : next.SlotInv := (slotStep_of_step hstep).slotInv hinv
    have hrunning : next.runningWorkers ≤ next.activeConnections := by
      rw [hnext.counter_eq, holdingWorkers_eq]
      exact Nat.le_add_right _ _
    refine hrunning.trans ?_
    rcases hpc with hpc | hpc
    · rw [step, ServerState.proceed, hpc] at hstep
      cases hstep
      exact hnext.spawn_le listener rfl
    · rw [step, ServerState.proceed, hpc] at hstep
      cases hstep
      exact hinv.spawn_le listener hpc
  · intro worker next hstep
    rw [step] at hstep
    split at hstep
    · rename_i hworker
      rw [hinv.counter_eq]
      exact holdingWorkers_pos hworker
    · cases hstep

/-- The first connection is about to be counted. -/
theorem connectionLimit_respected_first :
    ∃ state next, (enter oneConnection false).run
        [.proceed, .reload (oneIdentity []), .accept .connection, .proceed, .proceed] = some state ∧
      state.step .proceed = some next ∧ next.runningWorkers ≤ next.maxConnections ∧
      state.activeConnections = state.holdingWorkers := by
  have hrun : ∃ state, (enter oneConnection false).run
      [.proceed, .reload (oneIdentity []), .accept .connection, .proceed, .proceed] = some state ∧
      state.pc = .fetchAdd .http := ⟨_, rfl, rfl⟩
  obtain ⟨state, hstate, hpc⟩ := hrun
  obtain ⟨next, hnext⟩ : ∃ next, state.step .proceed = some next := by
    rw [step, ServerState.proceed, hpc]
    exact ⟨_, rfl⟩
  obtain ⟨hlimit, hcounter, -⟩ := connectionLimit_respected hstate
  exact ⟨state, next, hstate, hnext, hlimit .http next (.inl hpc) hnext, hcounter⟩

/-- In every state that a run reaches, the counter is the number of running workers, and it is zero once all workers
have ended, exactly when no connection handler of the run has panicked. -/
theorem activeConnections_eq_running_iff {Store : Type} {runtime : Runtime Store} {hasConfigPath : Bool}
    {actions : List (Action Store)} {state : ServerState Store}
    (h : (enter runtime hasConfigPath).run actions = some state) :
    (state.activeConnections = state.runningWorkers ↔ ∀ action ∈ actions, action.isPanic = false) ∧
    (state.pc.pending = 0 → (∀ status ∈ state.statuses, status.isFinished = true) →
      (state.activeConnections = 0 ↔ ∀ action ∈ actions, action.isPanic = false)) := by
  have hpanics : actions.countP Action.isPanic = 0 ↔ ∀ action ∈ actions, action.isPanic = false := by
    simp only [List.countP_eq_zero, Bool.not_eq_true]
  have hcounter := run_counter h
  refine ⟨?_, ?_⟩
  · rw [← hpanics, hcounter]
    exact Nat.add_eq_left
  · intro hpending hended
    have hrunning : state.runningWorkers = 0 := by
      rw [runningWorkers, hpending, Nat.add_zero, List.count_eq_zero]
      intro hmem
      cases hended _ hmem
    rw [← hpanics, hcounter, hrunning, Nat.zero_add]

/-- Without a panic the slot comes back. -/
theorem activeConnections_eq_running_returned :
    ∃ state, (enter oneConnection false).run
        [.proceed, .reload (oneIdentity []), .accept .connection, .proceed, .proceed, .proceed, .proceed, .release 0,
          .finish 0, .scan (some 0)] = some state ∧
      state.joined = [0] ∧ state.activeConnections = state.runningWorkers ∧ state.activeConnections = 0 := by
  have hrun : ∃ state, (enter oneConnection false).run
      [.proceed, .reload (oneIdentity []), .accept .connection, .proceed, .proceed, .proceed, .proceed, .release 0,
        .finish 0, .scan (some 0)] = some state ∧ state.joined = [0] ∧ state.pc.pending = 0 ∧
        state.statuses = [.returned] := ⟨_, rfl, rfl, rfl, rfl⟩
  obtain ⟨state, hstate, hjoined, hpending, hstatuses⟩ := hrun
  obtain ⟨hcounter, hempty⟩ := activeConnections_eq_running_iff hstate
  refine ⟨state, hstate, hjoined, hcounter.2 (by simp [Action.isPanic]),
    (hempty hpending ?_).2 (by simp [Action.isPanic])⟩
  rw [hstatuses]
  decide

/-- The only worker panics and is joined: its slot stays taken and the next connection is turned away. -/
theorem activeConnections_panic :
    ∃ state, (enter oneConnection false).run
        [.proceed, .reload (oneIdentity []), .accept .connection, .proceed, .proceed, .proceed, .proceed, .panic 0,
          .scan (some 0), .scan none, .proceed, .reload (oneIdentity []), .accept .connection, .proceed, .proceed] =
        some state ∧
      state.pc = .reap ∧ state.workers = [] ∧ state.joined = [0] ∧ state.statuses = [.panicked] ∧
      state.runningWorkers = 0 ∧ state.activeConnections = 1 ∧ state.maxConnections = 1 :=
  ⟨_, rfl, rfl, rfl, rfl, rfl, rfl, rfl, rfl⟩

end BareProxy.Server
