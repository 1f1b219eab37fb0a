import GraphQL.Proofs.Productions

/-! Which values build: exactly those that conform to a production.

`Json.Conforms` reads the table of productions and has no mention of building. A value
conforms to a kind when it has the kind's tag, what stands at each property of the
kind's production is what is required there, children conforming in turn, and its
location's tokens are in order where it has both. -/
namespace GraphQL

/-- The value is a fragment of a kind. -/
inductive Json.Conforms : Kind → Json → Prop
  | fragment {k : Kind} {v : Json}
      (tagged : v.member? "kind" = some (.string k.production.tag))
      (properties : ∀ p ∈ k.production.properties,
        p.requirement.MetBy Json.Conforms (v.property? p.name))
      (ordered : v.Ordered) : Conforms k v

theorem Json.conforms_iff {v : Json} {k : Kind} :
    v.Conforms k ↔ v.Tagged k ∧
      (∀ s ∈ grammar k, s.shape.Filled Json.Conforms (v.property? s.property)) ∧ v.Ordered := by
  rw [← Kind.properties_metBy_iff, Tagged, ← k.production_tag]
  constructor
  · intro h
    cases h with
    | fragment tagged properties ordered => exact ⟨tagged, properties, ordered⟩
  · intro h
    exact .fragment h.1 h.2.1 h.2.2

/-- With every kind served, what builds to a kind is what conforms to it. -/
theorem Context.builds_iff_conforms (cx : Context) (served : ∀ k, cx.Serves k) (v : Json)
    (k : Kind) : cx.Builds k v ↔ v.Conforms k := by
  -- Children may be of any kind, so the claim is about all kinds at once.
  induction v using Json.childInduction generalizing k with
  | step v ih =>
    rw [cx.builds_iff, Json.conforms_iff]
    have hslot (s : Slot) : s.shape.Filled cx.Builds (v.property? s.property) ↔
        s.shape.Filled Json.Conforms (v.property? s.property) := by
      constructor
      · intro h
        exact h.mono fun c hc j => (ih c ⟨s.property, hc⟩ j).mp
      · intro h
        exact h.mono fun c hc j => (ih c ⟨s.property, hc⟩ j).mpr
    simp only [hslot, served k, true_and]

/-- **A value builds, over any document, exactly when it conforms to some kind.** -/
theorem ofJson_isOk_iff_conforms (source : Source) (v : Json) :
    (∃ n, Node.ofJson source v = .ok n) ↔ ∃ k, v.Conforms k := by
  have hserved := Context.standard_serves source
  constructor
  · intro h
    obtain ⟨⟨k, t⟩, ht⟩ := h
    exact ⟨k, (Context.builds_iff_conforms _ hserved v k).mp ⟨t, ht⟩⟩
  · intro h
    obtain ⟨k, hk⟩ := h
    obtain ⟨t, ht⟩ := (Context.builds_iff_conforms _ hserved v k).mpr hk
    exact ⟨⟨k, t⟩, ht⟩

end GraphQL
