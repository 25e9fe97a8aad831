import Mathlib.Data.List.Basic

/-!
# Encodings that end by themselves

An encoding whose end shows without what follows can be split off the front of any longer string, so a string of
such encodings stands for one list only.
-/

namespace BareProxy

variable {α β : Type} {P : α → Prop} {f : α → List β}

/-- Of two strings that begin with an encoding of a good value and are equal, the values are equal and so is the rest. -/
def PrefixFree (P : α → Prop) (f : α → List β) : Prop :=
  ∀ a b x y, P a → P b → f a ++ x = f b ++ y → a = b ∧ x = y

theorem PrefixFree.flatMap_injective (h : PrefixFree P f) (hne : ∀ a, P a → f a ≠ []) {l l' : List α}
    (hl : ∀ a ∈ l, P a) (hl' : ∀ a ∈ l', P a) (heq : l.flatMap f = l'.flatMap f) : l = l' := by
  induction l generalizing l' with
  | nil =>
      cases l' with
      | nil => rfl
      | cons b l' =>
          rw [List.flatMap_nil, List.flatMap_cons] at heq
          exact absurd (List.append_eq_nil_iff.1 heq.symm).1 (hne b (hl' b List.mem_cons_self))
  | cons a l ih =>
      cases l' with
      | nil =>
          rw [List.flatMap_nil, List.flatMap_cons] at heq
          exact absurd (List.append_eq_nil_iff.1 heq).1 (hne a (hl a List.mem_cons_self))
      | cons b l' =>
          rw [List.flatMap_cons, List.flatMap_cons] at heq
          obtain ⟨rfl, hrest⟩ := h a b _ _ (hl a List.mem_cons_self) (hl' b List.mem_cons_self) heq
          rw [ih (fun c hc => hl c (List.mem_cons_of_mem _ hc)) (fun c hc => hl' c (List.mem_cons_of_mem _ hc)) hrest]

end BareProxy
