import Mathlib.Data.List.Basic
import Mathlib.Data.List.Forall2

/-!
# Results

A `Result` of the source is an `Except`. These rules take a successful computation apart.
-/

namespace BareProxy

universe u v

variable {ε : Type u} {α β : Type v}

/-- A bind succeeds exactly when both parts do. -/
theorem bind_eq_ok {x : Except ε α} {f : α → Except ε β} {b : β} :
    x >>= f = .ok b ↔ ∃ a, x = .ok a ∧ f a = .ok b := by
  cases x with
  | error e => simp [bind, Except.bind]
  | ok a => simp [bind, Except.bind]

@[simp] theorem ok_bind (a : α) (f : α → Except ε β) : (Except.ok a >>= f) = f a := rfl

@[simp] theorem error_bind (e : ε) (f : α → Except ε β) : (Except.error e >>= f) = .error e := rfl

@[simp] theorem pure_eq_ok (a : α) : (pure a : Except ε α) = .ok a := rfl

/-- `Option::ok_or`. -/
def okOr (error : ε) : Option α → Except ε α
  | some a => .ok a
  | none => .error error

@[simp] theorem okOr_some (e : ε) (a : α) : okOr e (some a) = .ok a := rfl

theorem toOption_eq_some {result : Except ε α} {a : α} : result.toOption = some a ↔ result = .ok a := by
  cases result <;> simp [Except.toOption]

theorem okOr_eq_ok {e : ε} {o : Option α} {a : α} : okOr e o = .ok a ↔ o = some a := by
  cases o with
  | none => simp [okOr]
  | some b => simp [okOr]

/-- `if !p { return Err(error) }`. -/
def ensure (p : Prop) [Decidable p] (error : ε) : Except ε PUnit.{v + 1} := if p then .ok ⟨⟩ else .error error

theorem ensure_eq_ok {p : Prop} [Decidable p] {error : ε} {u : PUnit.{v + 1}} : ensure p error = .ok u ↔ p := by
  rw [ensure]
  split <;> simp_all

theorem ensure_of {p : Prop} [Decidable p] (h : p) (error : ε) : ensure.{u, v} p error = .ok ⟨⟩ := if_pos h

/-- `map_err`. -/
def mapErr {ε ε' α : Type} (f : ε → ε') : Except ε α → Except ε' α
  | .ok a => .ok a
  | .error error => .error (f error)

@[simp] theorem mapErr_ok {ε ε' α : Type} (f : ε → ε') (a : α) : mapErr f (.ok a) = .ok a := rfl

@[simp] theorem mapErr_error {ε ε' α : Type} (f : ε → ε') (error : ε) :
    mapErr f (.error error : Except ε α) = .error (f error) := rfl

theorem mapErr_eq_ok {ε ε' α : Type} {f : ε → ε'} {result : Except ε α} {a : α} :
    mapErr f result = .ok a ↔ result = .ok a := by
  cases result <;> simp

/-- What each step of a fold keeps, the whole fold keeps. -/
theorem foldlM_invariant {γ : Type v} {p : β → Prop} {f : β → γ → Except ε β} {l : List γ} {b b' : β}
    (hstep : ∀ c ∈ l, ∀ b b', p b → f b c = .ok b' → p b') (hb : p b) (h : l.foldlM f b = .ok b') : p b' := by
  induction l generalizing b with
  | nil =>
    cases h
    exact hb
  | cons c l ih =>
    rw [List.foldlM_cons, bind_eq_ok] at h
    obtain ⟨b₁, hb₁, hrest⟩ := h
    exact ih (fun c' hc' => hstep c' (List.mem_cons_of_mem _ hc')) (hstep c List.mem_cons_self b b₁ hb hb₁) hrest

/-- A fold that looks for one value that all items have: it succeeds when they agree, also with what was there before. -/
theorem foldlM_agree {γ : Type v} {f : Option β → γ → Except ε (Option β)} {r : γ → β → Prop}
    (hf : ∀ before c after, f before c = .ok after ↔ ∃ b, r c b ∧ after = some b ∧ (before = none ∨ before = some b))
    {l : List γ} {before after : Option β} :
    l.foldlM f before = .ok after ↔
      (l = [] ∧ after = before) ∨
        ∃ b, l ≠ [] ∧ after = some b ∧ (before = none ∨ before = some b) ∧ ∀ c ∈ l, r c b := by
  induction l generalizing before with
  | nil =>
    rw [List.foldlM_nil, pure_eq_ok, Except.ok.injEq]
    constructor
    · rintro rfl
      exact Or.inl ⟨rfl, rfl⟩
    · rintro (⟨-, rfl⟩ | ⟨b, hne, -⟩)
      · rfl
      · exact absurd rfl hne
  | cons c l ih =>
    rw [List.foldlM_cons, bind_eq_ok]
    constructor
    · intro hfacts
      obtain ⟨mid, hmid, hrest⟩ := hfacts
      obtain ⟨b, hb, rfl, hbefore⟩ := (hf before c mid).1 hmid
      refine Or.inr ⟨b, List.cons_ne_nil _ _, ?_⟩
      rcases ih.1 hrest with ⟨rfl, rfl⟩ | ⟨b', -, rfl, hsame, hall⟩
      · exact ⟨rfl, hbefore, fun c' hc' => by rw [List.mem_singleton.1 hc']; exact hb⟩
      · obtain rfl : b = b' := by simpa using hsame
        refine ⟨rfl, hbefore, fun c' hc' => ?_⟩
        rcases List.mem_cons.1 hc' with rfl | hc'
        · exact hb
        · exact hall c' hc'
    · rintro (⟨hnil, -⟩ | ⟨b, -, rfl, hbefore, hall⟩)
      · exact absurd hnil (List.cons_ne_nil _ _)
      · refine ⟨some b, (hf before c _).2 ⟨b, hall c List.mem_cons_self, rfl, hbefore⟩, ih.2 ?_⟩
        by_cases hl : l = []
        · exact Or.inl ⟨hl, rfl⟩
        · exact Or.inr ⟨b, hl, rfl, Or.inr rfl, fun c' hc' => hall c' (List.mem_cons_of_mem _ hc')⟩

/-- A fold of folds is one fold. -/
theorem foldlM_flatMap {γ δ : Type v} (f : β → δ → Except ε β) (g : γ → List δ) (l : List γ) (b : β) :
    l.foldlM (fun b c => (g c).foldlM f b) b = (l.flatMap g).foldlM f b := by
  induction l generalizing b with
  | nil => rfl
  | cons c l ih =>
    rw [List.foldlM_cons, List.flatMap_cons, List.foldlM_append]
    exact congrArg _ (funext ih)

/-- A loop without a state succeeds when every turn does. -/
theorem forM_eq_ok {γ : Type v} {f : γ → Except ε PUnit.{v + 1}} {l : List γ} :
    l.forM f = .ok ⟨⟩ ↔ ∀ a ∈ l, f a = .ok ⟨⟩ := by
  induction l with
  | nil => simp
  | cons a l ih =>
    have hcons : (a :: l).forM f = (f a >>= fun _ => l.forM f) := rfl
    rw [hcons, bind_eq_ok, List.forall_mem_cons, ← ih]
    constructor
    · intro h
      obtain ⟨_, hfirst, hrest⟩ := h
      exact ⟨hfirst, hrest⟩
    · intro h
      exact ⟨⟨⟩, h.1, h.2⟩

/-- A loop that collects its results succeeds when every turn does. -/
theorem mapM_eq_ok {γ : Type v} {f : γ → Except ε β} {l : List γ} {bs : List β} :
    l.mapM f = .ok bs ↔ List.Forall₂ (fun c b => f c = .ok b) l bs := by
  induction l generalizing bs with
  | nil =>
    rw [List.mapM_nil, pure_eq_ok, List.forall₂_nil_left_iff, Except.ok.injEq]
    exact eq_comm
  | cons c l ih =>
    rw [List.mapM_cons, bind_eq_ok, List.forall₂_cons_left_iff]
    constructor
    · intro h
      obtain ⟨b, hb, hrest⟩ := h
      obtain ⟨bs', hbs', h⟩ := bind_eq_ok.1 hrest
      exact ⟨b, bs', hb, ih.1 hbs', (Except.ok.inj h).symm⟩
    · intro h
      obtain ⟨b, bs', hb, hbs', rfl⟩ := h
      exact ⟨b, hb, bind_eq_ok.2 ⟨bs', ih.2 hbs', rfl⟩⟩

/-- Each result of such a loop is that of one of the turns. -/
theorem exists_of_forall₂ {r : α → β → Prop} {l : List α} {l' : List β} (h : List.Forall₂ r l l') {b : β} (hb : b ∈ l') :
    ∃ a ∈ l, r a b := by
  induction h with
  | nil => cases hb
  | cons hr _ ih =>
    rcases List.mem_cons.1 hb with rfl | hb
    · exact ⟨_, List.mem_cons_self, hr⟩
    · obtain ⟨a, ha, hra⟩ := ih hb
      exact ⟨a, List.mem_cons_of_mem _ ha, hra⟩

/-- Items on which the fold does nothing can be left out. -/
theorem foldlM_filter_of_skip {γ : Type v} {f : β → γ → Except ε β} {p : γ → Bool} {l : List γ}
    (hskip : ∀ c ∈ l, p c = false → ∀ b, f b c = .ok b) (b : β) : (l.filter p).foldlM f b = l.foldlM f b := by
  induction l generalizing b with
  | nil => rfl
  | cons c l ih =>
    have hrest := ih fun c' hc' => hskip c' (List.mem_cons_of_mem _ hc')
    cases hc : p c with
    | true =>
      rw [List.filter_cons_of_pos hc, List.foldlM_cons, List.foldlM_cons]
      exact congrArg _ (funext hrest)
    | false =>
      rw [List.filter_cons_of_neg (by simp [hc]), List.foldlM_cons, hskip c List.mem_cons_self hc b, ok_bind]
      exact hrest b

/-- A fold that does nothing on any item. -/
theorem foldlM_of_skip {γ : Type v} {f : β → γ → Except ε β} {l : List γ} (hskip : ∀ c ∈ l, ∀ b, f b c = .ok b) (b : β) :
    l.foldlM f b = .ok b := by
  have hnone := foldlM_filter_of_skip (p := fun _ => false) (fun c hc _ => hskip c hc) b
  rw [List.filter_false] at hnone
  exact hnone.symm

/-- A fold that checks each item and appends what it makes of it. -/
theorem foldlM_push_iff {γ δ : Type v} {f : List δ → γ → Except ε (List δ)} {r : γ → Prop} {g : γ → δ} {l : List γ}
    (hf : ∀ c ∈ l, ∀ before after, f before c = .ok after ↔ r c ∧ after = before ++ [g c]) {before after : List δ} :
    l.foldlM f before = .ok after ↔ (∀ c ∈ l, r c) ∧ after = before ++ l.map g := by
  induction l generalizing before with
  | nil =>
    rw [List.foldlM_nil, pure_eq_ok, Except.ok.injEq, List.map_nil, List.append_nil]
    exact ⟨fun h => ⟨by simp, h.symm⟩, fun h => h.2.symm⟩
  | cons c l ih =>
    have hrest : ∀ {before}, l.foldlM f before = .ok after ↔ (∀ c ∈ l, r c) ∧ after = before ++ l.map g :=
      ih fun c' hc' => hf c' (List.mem_cons_of_mem _ hc')
    rw [List.foldlM_cons, bind_eq_ok, List.forall_mem_cons]
    constructor
    · intro h
      obtain ⟨mid, hmid, h⟩ := h
      obtain ⟨hc, rfl⟩ := (hf c List.mem_cons_self before mid).1 hmid
      obtain ⟨hall, rfl⟩ := hrest.1 h
      exact ⟨⟨hc, hall⟩, by rw [List.map_cons, List.append_assoc, List.singleton_append]⟩
    · intro h
      obtain ⟨⟨hc, hall⟩, rfl⟩ := h
      refine ⟨_, (hf c List.mem_cons_self before _).2 ⟨hc, rfl⟩, hrest.2 ⟨hall, ?_⟩⟩
      rw [List.map_cons, List.append_assoc, List.singleton_append]

/-- Numbers that only mark where an error arose do not decide success. -/
theorem foldlM_zipIdx_mapErr {ε ε' β γ : Type} {f : β → γ → Except ε β} {wrap : Nat → ε → ε'} {l : List γ} {k : Nat}
    {b b' : β} :
    (l.zipIdx k).foldlM (fun b entry => mapErr (wrap entry.2) (f b entry.1)) b = .ok b' ↔ l.foldlM f b = .ok b' := by
  induction l generalizing k b with
  | nil => simp only [List.zipIdx_nil, List.foldlM_nil, pure_eq_ok, Except.ok.injEq]
  | cons c l ih => simp only [List.zipIdx_cons, List.foldlM_cons, bind_eq_ok, mapErr_eq_ok, ih]

/-- Runs an operation on one input after the other, up to the first that fails. -/
def runAll {σ γ : Type v} (op : σ → γ → Except ε β × σ) (s : σ) : List γ → Except ε (List β) × σ
  | [] => (.ok [], s)
  | input :: inputs =>
    match op s input with
    | (.error e, s) => (.error e, s)
    | (.ok output, s) =>
      match runAll op s inputs with
      | (.error e, s) => (.error e, s)
      | (.ok outputs, s) => (.ok (output :: outputs), s)

section RunAll

variable {σ γ : Type v} {op : σ → γ → Except ε β × σ} {s s' : σ}

/-- A run succeeds exactly when its first step does and the rest does from there. -/
theorem runAll_cons_ok {input : γ} {inputs : List γ} {outputs : List β} :
    runAll op s (input :: inputs) = (.ok outputs, s') ↔
      ∃ output more s₁, op s input = (.ok output, s₁) ∧ runAll op s₁ inputs = (.ok more, s') ∧
        outputs = output :: more := by
  rw [runAll]
  constructor
  · intro h
    split at h
    · cases h
    · rename_i output s₁ hop
      split at h
      · cases h
      · rename_i more s₂ hrest
        cases h
        exact ⟨output, more, s₁, hop, hrest, rfl⟩
  · intro hfacts
    obtain ⟨output, more, s₁, hop, hrest, rfl⟩ := hfacts
    simp only [hop, hrest]

/-- Runs that follow each other are one run. -/
theorem runAll_append_ok {s₁ s₂ : σ} {inputs inputs' : List γ} {outputs outputs' : List β}
    (h : runAll op s inputs = (.ok outputs, s₁)) (h' : runAll op s₁ inputs' = (.ok outputs', s₂)) :
    runAll op s (inputs ++ inputs') = (.ok (outputs ++ outputs'), s₂) := by
  induction inputs generalizing s outputs with
  | nil =>
    cases h
    exact h'
  | cons input inputs ih =>
    obtain ⟨output, more, next, hfirst, hrest, rfl⟩ := runAll_cons_ok.1 h
    exact runAll_cons_ok.2 ⟨output, more ++ outputs', next, hfirst, ih hrest, rfl⟩

end RunAll

end BareProxy
