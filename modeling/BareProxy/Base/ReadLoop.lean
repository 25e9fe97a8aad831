import BareProxy.Base.Bytes
import BareProxy.Base.Result

/-!
# Loops over a reader

`while reader.remaining() != 0`: a step that takes something off the front of the input, repeated until
nothing is left. A step that succeeds has to get shorter, so the loop ends.
-/

namespace BareProxy

/-- The body of such a loop. -/
structure ReadLoop (ε σ : Type) where
  step : σ → Bytes → Except ε (σ × Bytes)
  step_shorter : ∀ {s s' : σ} {reader rest : Bytes}, step s reader = .ok (s', rest) → rest.length < reader.length

namespace ReadLoop

variable {ε σ : Type} (loop : ReadLoop ε σ)

def run (s : σ) (reader : Bytes) : Except ε σ :=
  if reader = [] then .ok s
  else
    match _h : loop.step s reader with
    | .error e => .error e
    | .ok (s', rest) => run s' rest
termination_by reader.length
decreasing_by exact loop.step_shorter _h

variable {loop}

@[simp] theorem run_nil (s : σ) : loop.run s [] = .ok s := by
  rw [run, if_pos rfl]

theorem run_of_step {s s' : σ} {reader rest : Bytes} (h : loop.step s reader = .ok (s', rest)) :
    loop.run s reader = loop.run s' rest := by
  have hne : reader ≠ [] := by
    rintro rfl
    exact absurd (loop.step_shorter h) (Nat.not_lt_zero _)
  rw [run, if_neg hne]
  split
  · rename_i e he
    rw [h] at he
    cases he
  · rename_i s₁ rest₁ hstep
    rw [h] at hstep
    cases hstep
    rfl

/-- What every step keeps of the state and of what is left to read, the loop keeps to the end. -/
theorem run_invariant_rest {P : σ → Bytes → Prop} {s s' : σ} {reader : Bytes}
    (hstep : ∀ {s s' : σ} {reader rest : Bytes}, P s reader → loop.step s reader = .ok (s', rest) → P s' rest)
    (hs : P s reader) (h : loop.run s reader = .ok s') : P s' [] := by
  fun_induction run loop s reader with
  | case1 s =>
    cases h
    exact hs
  | case2 => cases h
  | case3 s reader hne s₁ rest hnext ih => exact ih (hstep hs hnext) h

/-- What every step keeps, the loop keeps. -/
theorem run_invariant {P : σ → Prop} {s s' : σ} {reader : Bytes}
    (hstep : ∀ {s s' : σ} {reader rest : Bytes}, P s → loop.step s reader = .ok (s', rest) → P s') (hs : P s)
    (h : loop.run s reader = .ok s') : P s' := run_invariant_rest (P := fun s _ => P s) hstep hs h

end ReadLoop

end BareProxy
