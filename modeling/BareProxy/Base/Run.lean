import Mathlib.Data.List.Basic

/-!
# Runs of a machine

A machine takes an input in a state, gives an output and goes to the next state. These rules carry what one
step keeps to any number of steps.
-/

namespace BareProxy

universe u v w

section Run

variable {σ : Type u} {ι : Type v} {ο : Type w} (step : σ → ι → ο × σ)

/-- The state after some inputs. -/
def stateAfter (s : σ) (inputs : List ι) : σ := inputs.foldl (fun s input => (step s input).2) s

/-- The outputs of a run. -/
def outputsOf (s : σ) : List ι → List ο
  | [] => []
  | input :: inputs => (step s input).1 :: outputsOf (step s input).2 inputs

@[simp] theorem stateAfter_nil (s : σ) : stateAfter step s [] = s := rfl

@[simp] theorem stateAfter_cons (s : σ) (input : ι) (inputs : List ι) :
    stateAfter step s (input :: inputs) = stateAfter step (step s input).2 inputs := rfl

theorem stateAfter_append (s : σ) (front back : List ι) :
    stateAfter step s (front ++ back) = stateAfter step (stateAfter step s front) back := List.foldl_append

theorem outputsOf_append (s : σ) (front back : List ι) :
    outputsOf step s (front ++ back) = outputsOf step s front ++ outputsOf step (stateAfter step s front) back := by
  induction front generalizing s with
  | nil => rfl
  | cons input front ih => rw [List.cons_append, outputsOf, outputsOf, ih, List.cons_append, stateAfter_cons]

variable {step} {P : σ → Prop}

/-- What every step keeps, a run keeps. -/
theorem stateAfter_invariant (hstep : ∀ s input, P s → P (step s input).2) {s : σ} (hs : P s) (inputs : List ι) :
    P (stateAfter step s inputs) := by
  induction inputs generalizing s with
  | nil => exact hs
  | cons input inputs ih => exact ih (hstep s input hs)

/-- What holds after a run and not before it was brought about by one of the steps. -/
theorem exists_step_of_stateAfter {s : σ} {inputs : List ι} (hs : ¬ P s) (h : P (stateAfter step s inputs)) :
    ∃ front input back, inputs = front ++ input :: back ∧ ¬ P (stateAfter step s front) ∧
      P (step (stateAfter step s front) input).2 := by
  induction inputs generalizing s with
  | nil => exact absurd h hs
  | cons input inputs ih =>
    by_cases hnext : P (step s input).2
    · exact ⟨[], input, inputs, rfl, hs, hnext⟩
    · obtain ⟨front, found, back, rfl, hbefore, hafter⟩ := ih hnext h
      exact ⟨input :: front, found, back, rfl, hbefore, hafter⟩

/-- Machines whose states are related, step by step and with the same outputs, have the same runs. -/
theorem outputsOf_simulation {σ' : Type u} {step' : σ' → ι → ο × σ'} {related : σ → σ' → Prop}
    (hstep : ∀ s s' input, related s s' → (step s input).1 = (step' s' input).1 ∧
      related (step s input).2 (step' s' input).2)
    {s : σ} {s' : σ'} (hs : related s s') (inputs : List ι) : outputsOf step s inputs = outputsOf step' s' inputs := by
  induction inputs generalizing s s' with
  | nil => rfl
  | cons input inputs ih =>
    obtain ⟨houtput, hnext⟩ := hstep s s' input hs
    rw [outputsOf, outputsOf, houtput, ih hnext]

end Run

section Partial

variable {σ : Type u} {ι : Type v} {step : σ → ι → Option σ} {P : σ → Prop}

/-- What every step that is not refused keeps, a run of such steps keeps. -/
theorem foldlM_some_invariant {s s' : σ} {inputs : List ι}
    (hstep : ∀ input ∈ inputs, ∀ s s', P s → step s input = some s' → P s') (hs : P s)
    (h : inputs.foldlM step s = some s') : P s' := by
  induction inputs generalizing s with
  | nil =>
    cases h
    exact hs
  | cons input inputs ih =>
    rw [List.foldlM_cons, Option.bind_eq_bind, Option.bind_eq_some_iff] at h
    obtain ⟨next, hnext, hrest⟩ := h
    exact ih (fun other hother => hstep other (List.mem_cons_of_mem _ hother))
      (hstep input List.mem_cons_self s next hs hnext) hrest

/-- Steps that are not refused where an invariant holds, and keep it, make a run that is not refused. -/
theorem foldlM_eq_some_foldl {next : σ → ι → σ} (hstep : ∀ s input, P s → step s input = some (next s input))
    (hnext : ∀ s input, P s → P (next s input)) {s : σ} (hs : P s) (inputs : List ι) :
    inputs.foldlM step s = some (inputs.foldl next s) := by
  induction inputs generalizing s with
  | nil => rfl
  | cons input inputs ih =>
    rw [List.foldlM_cons, hstep s input hs, List.foldl_cons, ← ih (hnext s input hs)]
    rfl

end Partial

end BareProxy
