import BareProxy.Base.ReadLoop

/-!
# Code that indexes

Indices, slices and differences that stop the program where they leave the bounds, and a reader that keeps the whole
input and an offset into it. Such code is compared with code that hands on what is left to read: the two refine each
other step by step, and then the bounds are never left.
-/

namespace BareProxy

/-- What ends a computation early: an error of its own, or a panic. -/
inductive Stop (ε : Type)
  | error (error : ε)
  | outOfBounds
  deriving DecidableEq, Repr

/-- `map_err` does not catch a panic. -/
def Stop.map {ε ε' : Type} (f : ε → ε') : Stop ε → Stop ε'
  | .error e => .error (f e)
  | .outOfBounds => .outOfBounds

namespace Indexed

variable {ε ε' α β γ δ : Type}

/-- A computation that does not index. -/
def lift (result : Except ε α) : Except (Stop ε) α := mapErr Stop.error result

def index (l : List α) (i : Nat) : Except (Stop ε) α := okOr .outOfBounds l[i]?

/-- `&l[start..stop]`. -/
def slice (l : List α) (start stop : Nat) : Except (Stop ε) (List α) :=
  if start ≤ stop ∧ stop ≤ l.length then .ok ((l.take stop).drop start) else .error .outOfBounds

/-- A difference that must not be negative. -/
def subtract (left right : Nat) : Except (Stop ε) Nat :=
  if right ≤ left then .ok (left - right) else .error .outOfBounds

/-- `usize::checked_add`, with eight bytes. -/
def checkedAddUsize (left right : Nat) : Option Nat := if left + right ≤ u64Max then some (left + right) else none

/-! ### Refinement -/

/-- The code that indexes does what the model does, up to how results are represented. -/
def Refines (R : α → β → Prop) (code : Except (Stop ε) α) : Except ε β → Prop
  | .ok b => ∃ a, code = .ok a ∧ R a b
  | .error e => code = .error (.error e)

namespace Refines

variable {R : α → β → Prop} {S : γ → δ → Prop} {code : Except (Stop ε) α} {model : Except ε β}

theorem of_ok {a : α} {b : β} (h : R a b) : Refines (ε := ε) R (.ok a) (.ok b) := ⟨a, rfl, h⟩

theorem lift (result : Except ε α) : Refines Eq (lift result) result := by
  cases result with
  | error e => rfl
  | ok a => exact ⟨a, rfl, rfl⟩

theorem bind {next : α → Except (Stop ε) γ} {nextModel : β → Except ε δ} (h : Refines R code model)
    (hnext : ∀ a b, R a b → model = .ok b → Refines S (next a) (nextModel b)) :
    Refines S (code >>= next) (model >>= nextModel) := by
  cases model with
  | error e =>
    rw [show code = .error (.error e) from h]
    rfl
  | ok b =>
    obtain ⟨a, rfl, hab⟩ := h
    exact hnext a b hab rfl

/-- The same result on both sides, before what may differ. -/
theorem bind_eq {model : Except ε α} {next : α → Except (Stop ε) γ} {nextModel : α → Except ε δ} (h : Refines Eq code model)
    (hnext : ∀ a, model = .ok a → Refines S (next a) (nextModel a)) : Refines S (code >>= next) (model >>= nextModel) :=
  h.bind fun a b hab hmodel => by
    subst hab
    exact hnext a hmodel

theorem bind_lift {result : Except ε α} {next : α → Except (Stop ε) γ} {nextModel : α → Except ε δ}
    (hnext : ∀ a, result = .ok a → Refines S (next a) (nextModel a)) :
    Refines S (Indexed.lift result >>= next) (result >>= nextModel) := (lift result).bind_eq hnext

theorem mapErr {f : ε → ε'} (h : Refines R code model) :
    Refines R (mapErr (Stop.map f) code) (mapErr f model) := by
  cases model with
  | error e =>
    rw [show code = .error (.error e) from h]
    rfl
  | ok b =>
    obtain ⟨a, rfl, hab⟩ := h
    exact ⟨a, rfl, hab⟩

theorem eq_lift {model : Except ε α} (h : Refines Eq code model) : code = Indexed.lift model := by
  cases model with
  | error e => exact h
  | ok b =>
    obtain ⟨a, rfl, rfl⟩ := h
    rfl

end Refines

/-- What does not index does not panic. -/
theorem lift_ne_outOfBounds (result : Except ε α) : lift result ≠ .error .outOfBounds := by
  cases result with
  | error e => exact fun h => by cases h
  | ok a => exact fun h => by cases h

@[simp] theorem lift_ok (a : α) : lift (ε := ε) (.ok a) = .ok a := rfl

@[simp] theorem lift_error (e : ε) : lift (.error e : Except ε α) = .error (.error e) := rfl

/-- A check that comes first on both sides. -/
theorem ensure_bind_eq {p : Prop} [Decidable p] (error : ε) {code : Except (Stop ε) α} {model : Except ε α}
    (h : ¬p → code = lift model) :
    (lift (ensure.{0} (¬p) error) >>= fun _ => code) = lift (if p then .error error else model) := by
  by_cases hp : p
  · rw [ensure, if_neg (not_not_intro hp), if_pos hp]
    rfl
  · rw [ensure_of hp, if_neg hp, lift_ok, ok_bind, h hp]

theorem slice_eq {l : List α} {start stop : Nat} (h : start ≤ stop) (h' : stop ≤ l.length) :
    slice (ε := ε) l start stop = .ok ((l.drop start).take (stop - start)) := by
  rw [slice, if_pos ⟨h, h'⟩, List.drop_take]

theorem subtract_eq {left right : Nat} (h : right ≤ left) : subtract (ε := ε) left right = .ok (left - right) :=
  if_pos h

end Indexed

open Indexed

/-! ### Readers -/

structure OffsetReader where
  input : Bytes
  offset : Nat

namespace OffsetReader

variable {ε : Type}

def new (input : Bytes) : OffsetReader := { input, offset := 0 }

def remaining (reader : OffsetReader) : Except (Stop ε) Nat := subtract reader.input.length reader.offset

def readExact (truncated : ε) (length : Nat) (reader : OffsetReader) : Except (Stop ε) (Bytes × OffsetReader) := do
  let stop ← lift (okOr truncated (checkedAddUsize reader.offset length))
  lift (ensure (stop ≤ reader.input.length) truncated)
  let value ← slice reader.input reader.offset stop
  return (value, { reader with offset := stop })

/-- The offset is inside the input, which fits into memory, and `rest` is what comes behind it. -/
structure HasRest (reader : OffsetReader) (rest : Bytes) : Prop where
  within : reader.offset ≤ reader.input.length
  fits : reader.input.length ≤ u64Max
  rest : reader.input.drop reader.offset = rest

/-- The same result, and a reader that has the rest behind it. -/
def Follows {α : Type} (result : α × OffsetReader) (model : α × Bytes) : Prop :=
  result.1 = model.1 ∧ result.2.HasRest model.2

/-- Bytes that were read fit into memory too. -/
def Reads (result : Bytes × OffsetReader) (model : Bytes × Bytes) : Prop :=
  Follows result model ∧ model.1.length ≤ u64Max

variable {reader : OffsetReader} {rest : Bytes}

theorem HasRest.new {input : Bytes} (h : input.length ≤ u64Max) : (OffsetReader.new input).HasRest input :=
  ⟨Nat.zero_le _, h, rfl⟩

theorem HasRest.length (h : reader.HasRest rest) : rest.length = reader.input.length - reader.offset := by
  rw [← h.rest, List.length_drop]

theorem HasRest.remaining (h : reader.HasRest rest) : reader.remaining (ε := ε) = .ok rest.length := by
  rw [OffsetReader.remaining, subtract_eq h.within, h.length]

theorem HasRest.readExact (h : reader.HasRest rest) (truncated : ε) (length : Nat) :
    Refines Reads (reader.readExact truncated length)
      (if rest.length < length then .error truncated else .ok (rest.take length, rest.drop length)) := by
  have hwithin := h.within
  have hfits := h.fits
  have hlength := h.length
  rw [OffsetReader.readExact, checkedAddUsize]
  by_cases hshort : rest.length < length
  · rw [if_pos hshort]
    -- the sum overflows, or it lies behind the end
    by_cases hsum : reader.offset + length ≤ u64Max
    · rw [if_pos hsum, okOr_some, lift_ok, ok_bind, ensure, if_neg (by omega)]
      rfl
    · rw [if_neg hsum]
      rfl
  · rw [if_neg hshort, if_pos (by omega), okOr_some, lift_ok, ok_bind, ensure_of (by omega), lift_ok, ok_bind]
    refine ⟨(rest.take length, { reader with offset := reader.offset + length }), ?_, ⟨rfl, ?_, hfits, ?_⟩, ?_⟩
    · show (slice reader.input reader.offset (reader.offset + length) >>= fun value => pure (value, _)) = _
      rw [slice_eq (by omega) (by omega), ok_bind, Nat.add_sub_cancel_left, h.rest, pure_eq_ok]
    · show reader.offset + length ≤ reader.input.length
      omega
    · rw [← h.rest, List.drop_drop]
    · rw [List.length_take]
      omega

theorem readExact_advances {truncated : ε} {length : Nat} {reader reader' : OffsetReader} {value : Bytes}
    (h : reader.readExact truncated length = .ok (value, reader')) :
    reader'.input.length - reader'.offset + length = reader.input.length - reader.offset := by
  obtain ⟨stop, hstop, h⟩ := bind_eq_ok.1 h
  obtain ⟨_, hend, h⟩ := bind_eq_ok.1 h
  obtain ⟨_, -, h⟩ := bind_eq_ok.1 h
  cases h
  rw [lift, mapErr_eq_ok, okOr_eq_ok, checkedAddUsize, Option.ite_none_right_eq_some] at hstop
  rw [lift, mapErr_eq_ok, ensure_eq_ok] at hend
  obtain ⟨-, hstop⟩ := hstop
  have hsum : reader.offset + length = stop := Option.some.inj hstop
  show reader.input.length - stop + length = reader.input.length - reader.offset
  omega

end OffsetReader

/-! ### Loops -/

/-- The body of `while reader.remaining() != 0` over such a reader. -/
structure OffsetLoop (ε σ : Type) where
  step : σ → OffsetReader → Except (Stop ε) (σ × OffsetReader)
  step_advances : ∀ {s s' : σ} {reader reader' : OffsetReader}, step s reader = .ok (s', reader') →
    reader'.input.length - reader'.offset < reader.input.length - reader.offset

namespace OffsetLoop

variable {ε σ : Type} (loop : OffsetLoop ε σ)

def run (s : σ) (reader : OffsetReader) : Except (Stop ε) σ :=
  match reader.remaining with
  | .error stop => .error stop
  | .ok remaining =>
    if remaining = 0 then .ok s
    else
      match _h : loop.step s reader with
      | .error stop => .error stop
      | .ok (s', reader') => run s' reader'
termination_by reader.input.length - reader.offset
decreasing_by exact loop.step_advances _h

/-- A loop refines another when its steps do. -/
theorem run_refines (model : ReadLoop ε σ)
    (hstep : ∀ (s : σ) {reader : OffsetReader} {rest : Bytes}, reader.HasRest rest →
      Refines OffsetReader.Follows (loop.step s reader) (model.step s rest))
    (s : σ) {reader : OffsetReader} {rest : Bytes} (h : reader.HasRest rest) :
    Refines Eq (loop.run s reader) (model.run s rest) := by
  fun_induction ReadLoop.run model s rest generalizing reader with
  | case1 s =>
    rw [run, h.remaining]
    exact .of_ok rfl
  | case2 s rest hne e hnext =>
    have hfirst := hstep s h
    rw [hnext] at hfirst
    rw [run, h.remaining]
    dsimp only
    rw [if_neg (by rwa [List.length_eq_zero_iff])]
    split
    · rename_i stop hstop
      rw [hstop] at hfirst
      cases hfirst
      rfl
    · rename_i next hok
      rw [hok] at hfirst
      cases hfirst
  | case3 s rest hne s' rest' hnext ih =>
    obtain ⟨⟨s₁, reader₁⟩, hfirst, rfl, hrest⟩ : ∃ next, loop.step s reader = .ok next ∧ _ := by
      have hfirst := hstep s h
      rw [hnext] at hfirst
      exact hfirst
    rw [run, h.remaining]
    dsimp only
    rw [if_neg (by rwa [List.length_eq_zero_iff])]
    split
    · rename_i stop hstop
      rw [hfirst] at hstop
      cases hstop
    · rename_i s₂ reader₂ hok
      rw [hfirst] at hok
      cases hok
      exact ih hrest

end OffsetLoop

end BareProxy
