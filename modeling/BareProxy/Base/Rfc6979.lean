import BareProxy.Base.Bytes

/-!
# The candidates of RFC 6979

A key and a value that a MAC moves on, seeded with the private key and the hash of the message. Where the order has
as many bits as the MAC, every candidate is one value, and a candidate that is turned down moves the state on. What is
accepted is the first candidate that passes.
-/

namespace BareProxy.Rfc6979

structure State where
  key : Bytes
  value : Bytes
  deriving DecidableEq

variable (mac : Bytes → Bytes → Bytes)

/-- A new key from the value, a separating octet and the seed, and the value under that key. -/
def State.update (state : State) (separator : Byte) (seed : Bytes) : State :=
  let key := mac state.key (state.value ++ separator :: seed)
  ⟨key, mac key state.value⟩

/-- Steps b to g. -/
def start (size : Nat) (seed : Bytes) : State :=
  (State.update mac ⟨List.replicate size 0, List.replicate size 1⟩ 0x00 seed).update mac 0x01 seed

/-- Step h.2: the next candidate. -/
def State.generate (state : State) : State := ⟨state.key, mac state.key state.value⟩

/-- The state before the candidate with this number. -/
def before (size : Nat) (seed : Bytes) : Nat → State
  | 0 => start mac size seed
  | i + 1 => ((before size seed i).generate mac).update mac 0x00 []

def candidate (size : Nat) (seed : Bytes) (i : Nat) : Bytes := ((before mac size seed i).generate mac).value

/-! ### The first one that passes -/

section First

variable {α : Type} {pass : Nat → Option α}

/-- The number of the first candidate that passes, and what it gives. -/
def IsFirst (pass : Nat → Option α) (i : Nat) (a : α) : Prop := pass i = some a ∧ ∀ j < i, pass j = none

/-- After candidates that are turned down the search is the same one further on. -/
theorem isFirst_iff_of_before {count i : Nat} {a : α} (h : ∀ j < count, pass j = none) :
    IsFirst pass i a ↔ ∃ k, i = k + count ∧ IsFirst (fun j => pass (j + count)) k a := by
  constructor
  · intro hfirst
    have hcount : count ≤ i := by
      by_contra hlt
      have hnone := h i (Nat.not_le.1 hlt)
      rw [hfirst.1] at hnone
      cases hnone
    obtain ⟨k, rfl⟩ := Nat.exists_eq_add_of_le' hcount
    exact ⟨k, rfl, hfirst.1, fun j hj => hfirst.2 _ (Nat.add_lt_add_right hj count)⟩
  · rintro ⟨k, rfl, hpass, hbefore⟩
    refine ⟨hpass, fun j hj => ?_⟩
    by_cases hcount : j < count
    · exact h j hcount
    · obtain ⟨l, rfl⟩ := Nat.exists_eq_add_of_le' (Nat.not_lt.1 hcount)
      exact hbefore l (Nat.lt_of_add_lt_add_right hj)

theorem isFirst_zero {a : α} (h : pass 0 = some a) : IsFirst pass 0 a := ⟨h, fun _ hj => absurd hj (Nat.not_lt_zero _)⟩

/-- Where a candidate passes there is a first one. -/
theorem exists_isFirst {i : Nat} {a : α} (h : pass i = some a) : ∃ k ≤ i, ∃ b, IsFirst pass k b := by
  induction i using Nat.strong_induction_on generalizing a with
  | _ i ih =>
      by_cases hbefore : ∃ j < i, ∃ b, pass j = some b
      · obtain ⟨j, hj, b, hb⟩ := hbefore
        obtain ⟨k, hk, hfirst⟩ := ih j hj hb
        exact ⟨k, hk.trans hj.le, hfirst⟩
      · refine ⟨i, le_rfl, a, h, fun j hj => Option.eq_none_iff_forall_ne_some.2 fun b hb => ?_⟩
        exact hbefore ⟨j, hj, b, hb⟩

/-- No candidate before one that passes is the first. -/
theorem IsFirst.le {i j : Nat} {a b : α} (hi : IsFirst pass i a) (hj : pass j = some b) : i ≤ j := by
  by_contra hlt
  have hnone := hi.2 j (Nat.not_le.1 hlt)
  rw [hj] at hnone
  cases hnone

theorem IsFirst.unique {i j : Nat} {a b : α} (hi : IsFirst pass i a) (hj : IsFirst pass j b) : i = j ∧ a = b := by
  obtain rfl := Nat.le_antisymm (hi.le hj.1) (hj.le hi.1)
  exact ⟨rfl, Option.some.inj (hi.1.symm.trans hj.1)⟩

end First

end BareProxy.Rfc6979
