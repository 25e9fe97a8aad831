import BareProxy.Base.Result

/-!
# Dialogues

A dialogue is a computation over a state, such as a connection: it changes the state and succeeds or fails, and it has no
result at all when it asks for more of an input than there is. Its bind is the `?` of the source.

States that a dialogue cannot tell apart give it the same result, and what holds of the parts of a dialogue in this sense
holds of the whole.
-/

namespace BareProxy

/-- A computation that changes a state, may fail, and may run out of input. -/
def Dialogue (σ ε α : Type) : Type := σ → Option (Except ε α × σ)

namespace Dialogue

variable {σ ε α β : Type}

def bind (dialogue : Dialogue σ ε α) (next : α → Dialogue σ ε β) : Dialogue σ ε β := fun state =>
  match dialogue state with
  | none => none
  | some (.error error, state) => some (.error error, state)
  | some (.ok value, state) => next value state

instance : Monad (Dialogue σ ε) where
  pure value := fun state => some (.ok value, state)
  bind := bind

/-- A result that does not look at the state. -/
def ofOption (result : Option (Except ε α)) : Dialogue σ ε α := fun state => result.map (·, state)

def ofExcept (result : Except ε α) : Dialogue σ ε α := ofOption (some result)

/-- A step that always has a result. -/
def step (run : σ → Except ε α × σ) : Dialogue σ ε α := fun state => some (run state)

/-! ### Runs -/

section Runs

variable {dialogue : Dialogue σ ε α} {next : α → Dialogue σ ε β} {state state' : σ}

/-- A run that succeeds has gone through both parts. -/
theorem bind_eq_ok {value' : β} :
    (dialogue >>= next) state = some (.ok value', state') ↔
      ∃ value between, dialogue state = some (.ok value, between) ∧ next value between = some (.ok value', state') := by
  show bind dialogue next state = _ ↔ _
  rw [bind]
  rcases dialogue state with _ | ⟨error | value, between⟩ <;> simp

/-- After a first part that succeeds the second one decides. -/
theorem bind_of_ok {value : α} {between : σ} (h : dialogue state = some (.ok value, between)) :
    (dialogue >>= next) state = next value between := by
  show bind dialogue next state = _
  rw [bind, h]

theorem bind_of_error {error : ε} (h : dialogue state = some (.error error, state')) :
    (dialogue >>= next) state = some (.error error, state') := by
  show bind dialogue next state = _
  rw [bind, h]

theorem ofOption_eq_ok {result : Option (Except ε α)} {value : α} :
    ofOption result state = some (.ok value, state') ↔ result = some (.ok value) ∧ state' = state := by
  rcases result with _ | error | value <;> simp [ofOption, eq_comm]

theorem ofExcept_eq_ok {result : Except ε α} {value : α} :
    ofExcept result state = some (.ok value, state') ↔ result = .ok value ∧ state' = state := by
  rw [ofExcept, ofOption_eq_ok, Option.some.injEq]

theorem step_eq {run : σ → Except ε α × σ} {result : Except ε α} :
    step run state = some (result, state') ↔ run state = (result, state') := by
  rw [step, Option.some.injEq]

end Runs

/-! ### States that cannot be told apart -/

/-- Results that are equal, with states that are still related. -/
def Alike (related : σ → σ → Prop) : Option (Except ε α × σ) → Option (Except ε α × σ) → Prop
  | none, none => True
  | some (result, state), some (result', state') => result = result' ∧ related state state'
  | _, _ => False

/-- Related states make no difference to a dialogue, and it leaves them related. -/
def Respects (related : σ → σ → Prop) (dialogue : Dialogue σ ε α) : Prop :=
  ∀ state state', related state state' → Alike related (dialogue state) (dialogue state')

section Respects

variable {related : σ → σ → Prop}

theorem respects_pure (value : α) : Respects related (pure value : Dialogue σ ε α) := fun _ _ h => ⟨rfl, h⟩

theorem respects_ofOption (result : Option (Except ε α)) : Respects related (ofOption result) := by
  intro state state' h
  cases result with
  | none => trivial
  | some result => exact ⟨rfl, h⟩

theorem respects_ofExcept (result : Except ε α) : Respects related (ofExcept result) := respects_ofOption _

theorem respects_step {run : σ → Except ε α × σ}
    (h : ∀ state state', related state state' →
      (run state).1 = (run state').1 ∧ related (run state).2 (run state').2) : Respects related (step run) := h

/-- The whole respects what its parts respect. -/
theorem Respects.bind {dialogue : Dialogue σ ε α} {next : α → Dialogue σ ε β} (hdialogue : Respects related dialogue)
    (hnext : ∀ value, Respects related (next value)) : Respects related (dialogue >>= next) := by
  intro state state' h
  have hfirst := hdialogue state state' h
  show Alike related (Dialogue.bind dialogue next state) (Dialogue.bind dialogue next state')
  rw [Dialogue.bind, Dialogue.bind]
  match hrun : dialogue state, hrun' : dialogue state' with
  | none, none => trivial
  | some (.error error, between), some (result', between') =>
    rw [hrun, hrun'] at hfirst
    obtain ⟨rfl, hbetween⟩ := hfirst
    exact ⟨rfl, hbetween⟩
  | some (.ok value, between), some (result', between') =>
    rw [hrun, hrun'] at hfirst
    obtain ⟨rfl, hbetween⟩ := hfirst
    exact hnext value between between' hbetween
  | none, some _ =>
    rw [hrun, hrun'] at hfirst
    exact hfirst.elim
  | some _, none =>
    rw [hrun, hrun'] at hfirst
    exact hfirst.elim

end Respects

end Dialogue

end BareProxy
