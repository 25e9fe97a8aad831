import BareProxy.Base.Result

/-!
# Reading in any order

A reader that takes one input after the other, collects what each says, and refuses an input only for what it is or for a
conflict with an input before it. Whether it takes all of a list does not depend on the order of the list, and neither
does what it collects.
-/

namespace BareProxy

universe u v w

variable {ε : Type u} {σ ι α : Type v} {β : Type w}

/-- One step takes what the input says, unless something before it conflicts. -/
def CollectsItems (item : α → Option ι) (conflicts : ι → ι → Prop) (ofItems : List ι → σ) (step : σ → α → Except ε σ) :
    Prop :=
  ∀ items a after, step (ofItems items) a = .ok after ↔
    ∃ added, item a = some added ∧ (∀ earlier ∈ items, ¬ conflicts earlier added) ∧ after = ofItems (items ++ [added])

variable {item : α → Option ι} {conflicts : ι → ι → Prop} {ofItems : List ι → σ} {step : σ → α → Except ε σ}

/-- A whole list is taken when every input says something and no two of them conflict. -/
theorem CollectsItems.foldlM_ok (h : CollectsItems item conflicts ofItems step) {items : List ι} {l : List α} {after : σ}
    (hitems : items.Pairwise fun earlier later => ¬ conflicts earlier later) :
    l.foldlM step (ofItems items) = .ok after ↔
      (∀ a ∈ l, (item a).isSome = true) ∧
        (items ++ l.filterMap item).Pairwise (fun earlier later => ¬ conflicts earlier later) ∧
          after = ofItems (items ++ l.filterMap item) := by
  induction l generalizing items with
  | nil =>
      rw [List.foldlM_nil, pure_eq_ok, Except.ok.injEq, List.filterMap_nil, List.append_nil]
      constructor
      · intro hafter
        exact ⟨fun _ hmem => absurd hmem List.not_mem_nil, hitems, hafter.symm⟩
      · intro hall
        exact hall.2.2.symm
  | cons a l ih =>
      rw [List.foldlM_cons, bind_eq_ok]
      have happend : ∀ added, (items ++ [added]).Pairwise (fun earlier later => ¬ conflicts earlier later) ↔
          ∀ earlier ∈ items, ¬ conflicts earlier added := by
        intro added
        rw [List.pairwise_append]
        simp [hitems]
      constructor
      · intro hrun
        obtain ⟨between, hstep, hrest⟩ := hrun
        obtain ⟨added, hadded, hfits, hbetween⟩ := (h items a between).1 hstep
        rw [hbetween, ih ((happend added).2 hfits)] at hrest
        rw [List.filterMap_cons_some hadded]
        rw [List.append_assoc, List.singleton_append] at hrest
        refine ⟨?_, hrest.2⟩
        intro other hmem
        obtain hhead | htail := List.mem_cons.1 hmem
        · rw [hhead, hadded]
          rfl
        · exact hrest.1 other htail
      · intro hall
        obtain ⟨hread, hpairwise, hafter⟩ := hall
        obtain ⟨added, hadded⟩ := Option.isSome_iff_exists.1 (hread a List.mem_cons_self)
        rw [List.filterMap_cons_some hadded, ← List.singleton_append, ← List.append_assoc] at hpairwise hafter
        have hfirst := (List.pairwise_append.1 hpairwise).1
        refine ⟨ofItems (items ++ [added]), (h items a _).2 ⟨added, hadded, (happend added).1 hfirst, rfl⟩, ?_⟩
        rw [ih hfirst]
        exact ⟨fun other hmem => hread other (List.mem_cons_of_mem a hmem), hpairwise, hafter⟩

theorem CollectsItems.foldlM_perm (h : CollectsItems item conflicts ofItems step)
    (hsymm : ∀ {left right}, conflicts left right → conflicts right left) {l l' : List α} (hperm : l.Perm l') {after : σ}
    (hrun : l.foldlM step (ofItems []) = .ok after) :
    ∃ items items', after = ofItems items ∧ l'.foldlM step (ofItems []) = .ok (ofItems items') ∧ items.Perm items' ∧
      items.Pairwise fun earlier later => ¬ conflicts earlier later := by
  obtain ⟨hread, hpairwise, hafter⟩ := (h.foldlM_ok List.Pairwise.nil).1 hrun
  rw [List.nil_append] at hpairwise hafter
  have hitems := hperm.filterMap item
  refine ⟨l.filterMap item, l'.filterMap item, hafter, ?_, hitems, hpairwise⟩
  rw [h.foldlM_ok List.Pairwise.nil, List.nil_append]
  refine ⟨fun a hmem => hread a (hperm.mem_iff.2 hmem), ?_, rfl⟩
  exact (hitems.pairwise_iff fun hne hconflict => hne (hsymm hconflict)).1 hpairwise

theorem eq_of_perm_of_pairwise_false {l l' : List β} (hperm : l.Perm l') (h : l.Pairwise fun _ _ => False) : l = l' := by
  apply List.Perm.eq_of_pairwise _ h ((hperm.pairwise_iff id).1 h) hperm
  intro left right _ _ hfalse
  exact hfalse.elim

theorem find?_eq_some_of_unique {p : β → Bool} {l : List β} {entry : β} (hmem : entry ∈ l) (hentry : p entry = true)
    (hunique : ∀ other ∈ l, p other = true → other = entry) : l.find? p = some entry := by
  cases hfind : l.find? p with
  | none => exact absurd hentry (List.find?_eq_none.1 hfind entry hmem)
  | some found => rw [hunique found (List.mem_of_find?_eq_some hfind) (List.find?_some hfind)]

/-- What is found in a list does not depend on its order when at most one entry can be found. -/
theorem find?_eq_of_perm {p : β → Bool} {l l' : List β} (hperm : l.Perm l')
    (hunique : ∀ left ∈ l, ∀ right ∈ l, p left = true → p right = true → left = right) : l.find? p = l'.find? p := by
  cases hfind : l.find? p with
  | none =>
      apply Eq.symm
      rw [List.find?_eq_none] at hfind ⊢
      intro entry hmem
      exact hfind entry (hperm.mem_iff.2 hmem)
  | some found =>
      have hmem := List.mem_of_find?_eq_some hfind
      have hfound : p found = true := List.find?_some hfind
      apply Eq.symm
      apply find?_eq_some_of_unique (hperm.mem_iff.1 hmem) hfound
      intro other hother hlooked
      exact hunique other (hperm.mem_iff.2 hother) found hmem hlooked hfound

end BareProxy
