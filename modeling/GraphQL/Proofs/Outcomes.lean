import Mathlib.Data.List.Forall2

/-! When a computation that may refuse gives a result, and with what it refuses.

A chain of computations refuses with the first refusal in it, and nothing that
stands behind that refusal is looked at. `mapM_eq_error` says so of a list: some
item refuses, and every item in front of it was accepted. -/
namespace GraphQL.Outcome

variable {ε α β : Type}

/-! ### One computation after another -/

theorem map_eq_ok {f : α → β} {x : Except ε α} {b : β} :
    f <$> x = .ok b ↔ ∃ a, x = .ok a ∧ f a = b := by
  cases x <;> simp [Functor.map, Except.map]

theorem map_eq_error {f : α → β} {x : Except ε α} {e : ε} :
    f <$> x = .error e ↔ x = .error e := by
  cases x <;> simp [Functor.map, Except.map]

theorem bind_eq_ok {x : Except ε α} {f : α → Except ε β} {b : β} :
    x >>= f = .ok b ↔ ∃ a, x = .ok a ∧ f a = .ok b := by
  cases x <;> simp [bind, Except.bind]

theorem bind_eq_error {x : Except ε α} {f : α → Except ε β} {e : ε} :
    x >>= f = .error e ↔ x = .error e ∨ ∃ a, x = .ok a ∧ f a = .error e := by
  cases x <;> simp [bind, Except.bind]

/-! ### A list of computations -/

/-- A list is accepted with the results of its items, in order. -/
theorem mapM_eq_ok {f : α → Except ε β} {items : List α} {results : List β} :
    items.mapM f = .ok results ↔ List.Forall₂ (fun a b => f a = .ok b) items results := by
  induction items generalizing results with
  | nil =>
    rw [List.mapM_nil, List.forall₂_nil_left_iff]
    exact ⟨fun h => (Except.ok.inj h).symm, fun h => h ▸ rfl⟩
  | cons a rest ih =>
    rw [List.mapM_cons, bind_eq_ok, List.forall₂_cons_left_iff]
    constructor
    · intro h
      obtain ⟨b, hb, h⟩ := h
      obtain ⟨bs, hbs, h⟩ := bind_eq_ok.mp h
      exact ⟨b, bs, hb, ih.mp hbs, (Except.ok.inj h).symm⟩
    · intro h
      obtain ⟨b, bs, hb, hbs, rfl⟩ := h
      exact ⟨b, hb, bind_eq_ok.mpr ⟨bs, ih.mpr hbs, rfl⟩⟩

/-- Every item has a partner exactly when the list has a list of partners. -/
theorem exists_forall₂ {R : α → β → Prop} {items : List α} :
    (∃ partners, List.Forall₂ R items partners) ↔ ∀ a ∈ items, ∃ b, R a b := by
  induction items with
  | nil => simp
  | cons a rest ih =>
    rw [List.forall_mem_cons, ← ih]
    constructor
    · intro h
      obtain ⟨partners, h⟩ := h
      obtain ⟨b, bs, hb, hbs, -⟩ := List.forall₂_cons_left_iff.mp h
      exact ⟨⟨b, hb⟩, bs, hbs⟩
    · intro h
      obtain ⟨⟨b, hb⟩, bs, hbs⟩ := h
      exact ⟨b :: bs, .cons hb hbs⟩

/-- A list is refused with the first refusal of an item. -/
theorem mapM_eq_error {f : α → Except ε β} {items : List α} {e : ε} :
    items.mapM f = .error e ↔ ∃ earlier a later, items = earlier ++ a :: later ∧
      (∀ x ∈ earlier, ∃ b, f x = .ok b) ∧ f a = .error e := by
  induction items with
  | nil =>
    constructor
    · intro h
      cases h
    · intro h
      obtain ⟨earlier, a, later, h, -⟩ := h
      simp at h
  | cons x rest ih =>
    rw [List.mapM_cons, bind_eq_error]
    constructor
    · intro h
      rcases h with h | ⟨b, hb, h⟩
      · exact ⟨[], x, rest, rfl, List.forall_mem_nil _, h⟩
      · have htail : rest.mapM f = .error e := by
          rcases bind_eq_error.mp h with h | ⟨_, _, h⟩
          · exact h
          · cases h
        obtain ⟨earlier, a, later, rfl, hearlier, ha⟩ := ih.mp htail
        exact ⟨x :: earlier, a, later, rfl, List.forall_mem_cons.mpr ⟨⟨b, hb⟩, hearlier⟩, ha⟩
    · intro h
      obtain ⟨earlier, a, later, h, hearlier, ha⟩ := h
      cases earlier with
      | nil =>
        obtain ⟨rfl, -⟩ := List.cons.inj h
        exact .inl ha
      | cons y ys =>
        obtain ⟨rfl, rfl⟩ := List.cons.inj h
        obtain ⟨⟨b, hb⟩, hys⟩ := List.forall_mem_cons.mp hearlier
        exact .inr ⟨b, hb, bind_eq_error.mpr (.inl (ih.mpr ⟨ys, a, later, rfl, hys, ha⟩))⟩

/-- Once every item has been accepted by a first computation, a second one over the
results is both of them one item at a time. -/
theorem mapM_bind_of_forall₂ {γ : Type} {f : α → Except ε β} {g : β → Except ε γ} {items : List α}
    {results : List β} (h : List.Forall₂ (fun a b => f a = .ok b) items results) :
    (items.mapM fun a => f a >>= g) = results.mapM g := by
  induction h with
  | nil => rfl
  | cons ha _ ih =>
    rw [List.mapM_cons, List.mapM_cons, ha, ih]
    rfl

/-- Two lists of computations whose results differ by a function, item by item. -/
theorem mapM_map_of_forall₂ {γ δ : Type} {f : α → Except ε β} {g : γ → Except ε δ} {h : β → δ}
    {items : List α} {others : List γ}
    (hall : List.Forall₂ (fun a c => g c = h <$> f a) items others) :
    others.mapM g = List.map h <$> items.mapM f := by
  induction hall with
  | nil => rfl
  | @cons a c items others hac _ ih =>
    rw [List.mapM_cons, List.mapM_cons, hac, ih]
    cases f a with
    | error e => rfl
    | ok b =>
      cases items.mapM f <;> rfl

/-- Two computations over a list, one after the other, refuse with the first refusal
of the first, and only if there is none with the first refusal of the second. -/
theorem mapM_mapM_eq_error {γ : Type} {f : α → Except ε β} {g : β → Except ε γ} {items : List α}
    {e : ε} :
    (items.mapM f >>= fun results => results.mapM g) = .error e ↔
      items.mapM f = .error e ∨
        (∀ a ∈ items, ∃ b, f a = .ok b) ∧ (items.mapM fun a => f a >>= g) = .error e := by
  rw [bind_eq_error, ← exists_forall₂]
  simp only [mapM_eq_ok]
  refine or_congr_right ⟨fun h => ?_, fun h => ?_⟩
  · obtain ⟨results, hresults, h⟩ := h
    exact ⟨⟨results, hresults⟩, (mapM_bind_of_forall₂ hresults).trans h⟩
  · obtain ⟨⟨results, hresults⟩, h⟩ := h
    exact ⟨results, hresults, (mapM_bind_of_forall₂ hresults).symm.trans h⟩

end GraphQL.Outcome
