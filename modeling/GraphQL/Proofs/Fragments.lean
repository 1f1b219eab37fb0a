import GraphQL.Build

/-! Fragments as plain JSON values.

`Json.Tagged` and `Json.property?` say of any value what `Fragment` says of an
object whose kind has been found: the kind it names, and what stands at a
property, null counting as nothing. `Context.build_served` is the whole of
building in these terms: a fragment of a kind that is served is read off the
values at its properties, and nothing else of it is looked at.

A value may stand in a child slot of another, alone or as an item of an array
there. That relation is well founded, so what holds of a fragment whenever it
holds of the values in its child slots holds of every value
(`Json.childInduction`). -/
namespace GraphQL

namespace Json

/-! ### Kinds and properties -/

/-- The value of a property; null counts as none. -/
def property? (v : Json) (property : String) : Option Json :=
  match v.member? property with
  | some .null => none
  | value => value

/-- The value names a kind. -/
def Tagged (v : Json) (k : Kind) : Prop := v.member? kindProperty = some (.string k.tag)

theorem Tagged.unique {v : Json} {j k : Kind} (hj : v.Tagged j) (hk : v.Tagged k) : j = k := by
  have htag : j.tag = k.tag := Json.string.inj (Option.some.inj (hj.symm.trans hk))
  have hsome : some j = some k := by rw [← Kind.ofTag?_tag, htag, Kind.ofTag?_tag]
  exact Option.some.inj hsome

/-- A value names a kind, or its tag is no kind's, or it has no tag. -/
theorem tagged_cases (v : Json) :
    (∃ k, v.Tagged k) ∨
      (∃ tag, v.member? kindProperty = some (.string tag) ∧ Kind.ofTag? tag = none) ∨
      ∀ tag, v.member? kindProperty ≠ some (.string tag) := by
  by_cases h : ∃ tag, v.member? kindProperty = some (.string tag)
  · obtain ⟨tag, htag⟩ := h
    cases hk : Kind.ofTag? tag with
    | none => exact .inr (.inl ⟨tag, htag, hk⟩)
    | some k => exact .inl ⟨k, by rw [Tagged, htag, Kind.tag_of_ofTag? hk]⟩
  · exact .inr (.inr fun tag htag => h ⟨tag, htag⟩)

theorem property?_eq_some {v c : Json} {property : String} :
    v.property? property = some c ↔ v.member? property = some c ∧ c ≠ .null := by
  unfold property?
  split
  · next h =>
    constructor
    · intro hc
      cases hc
    · intro hc
      have hnull : c = .null := Option.some.inj (hc.1.symm.trans h)
      exact absurd hnull hc.2
  · next h =>
    constructor
    · intro hc
      exact ⟨hc, fun hnull => h (hnull ▸ hc)⟩
    · exact And.left

theorem property?_of_ne_null {v c : Json} {property : String} (h : v.member? property = some c)
    (hc : c ≠ .null) : v.property? property = some c := property?_eq_some.mpr ⟨h, hc⟩

theorem property?_congr {v w : Json} {property : String}
    (h : w.member? property = v.member? property) : w.property? property = v.property? property := by
  unfold property?
  rw [h]

/-- Rewriting what stands at a property, and keeping null apart from the rest,
rewrites the property. -/
theorem property?_map {v w : Json} {property : String} {f : Json → Json}
    (hnull : ∀ c, f c = .null ↔ c = .null)
    (h : w.member? property = (v.member? property).map f) :
    w.property? property = (v.property? property).map f := by
  cases hv : v.member? property with
  | none =>
    rw [hv] at h
    unfold property?
    rw [hv, h]
    rfl
  | some c =>
    rw [hv] at h
    by_cases hc : c = .null
    · subst hc
      have hw : w.member? property = some .null := by rw [h, Option.map_some, (hnull _).mpr rfl]
      unfold property?
      rw [hv, hw]
      rfl
    · rw [property?_of_ne_null hv hc, property?_of_ne_null h fun hf => hc ((hnull c).mp hf)]
      rfl

/-! ### Children -/

/-- A value stands at a property alone, or as an item of the array there. -/
inductive Stands : Json → Option Json → Prop
  | alone {c : Json} : Stands c (some c)
  | item {c : Json} {items : List Json} (mem : c ∈ items) : Stands c (some (.array items))

/-- A value that some child slot of another may hold. -/
def Child (c v : Json) : Prop := ∃ property, Stands c (v.property? property)

theorem sizeOf_member {v c : Json} {property : String} (h : v.member? property = some c) :
    sizeOf c < sizeOf v := by
  cases v with
  | object members =>
    have hlookup : members.lookup property = some c := h
    obtain ⟨before, after, rfl, -⟩ := List.lookup_eq_some_iff.mp hlookup
    have hmem : (property, c) ∈ before ++ (property, c) :: after :=
      List.mem_append_right before (List.mem_cons_self ..)
    have hlt := List.sizeOf_lt_of_mem hmem
    simp only [Json.object.sizeOf_spec, Prod.mk.sizeOf_spec] at hlt ⊢
    omega
  | _ => cases h

theorem sizeOf_child {c v : Json} (h : Child c v) : sizeOf c < sizeOf v := by
  obtain ⟨property, hstands⟩ := h
  generalize hvalue : v.property? property = value at hstands
  cases hstands with
  | alone => exact sizeOf_member (property?_eq_some.mp hvalue).1
  | @item items mem =>
    have harray := sizeOf_member (property?_eq_some.mp hvalue).1
    have hitem := List.sizeOf_lt_of_mem mem
    simp only [Json.array.sizeOf_spec] at harray
    omega

theorem child_wellFounded : WellFounded Child :=
  Subrelation.wf sizeOf_child (measure (sizeOf : Json → Nat)).wf

/-- What passes from the values in a value's child slots to the value itself holds
of every value. -/
@[elab_as_elim]
theorem childInduction {motive : Json → Prop}
    (step : ∀ v, (∀ c, Child c v → motive c) → motive v) (v : Json) : motive v :=
  child_wellFounded.induction v step

end Json

/-! ### Reading a production -/

theorem Entries.relabel_self {slots : List Slot} (es : Entries slots)
    (h : slots.map (·.shape) = slots.map (·.shape)) : es.relabel h = es := by
  induction slots with
  | nil =>
    cases es
    rfl
  | cons s rest ih =>
    cases es with
    | cons e es => exact congrArg (Entries.cons e) (ih es (List.cons.inj h).2)

/-- A tree of kind `k`: the slots of its production in order, and last its location. -/
def Tree.read (k : Kind) (source : Source) (part? : String → Option Part) :
    Except BuildError (Tree k) := do
  let entries ← Entries.read k part? (grammar k)
  let location ← Site.location ⟨k, locationProperty⟩ source
    ((part? locationProperty).map (·.value))
  return .node entries location

/-- An arm reads the production of its kind. -/
theorem Area.read_eq {a : Area} {k : Kind} {arm : Arm k} (h : a.arm? k = some arm)
    (source : Source) (part? : String → Option Part) :
    arm.read source part? = Tree.read k source part? := by
  have hslots := Area.slots_eq_grammar h
  obtain ⟨slots, fits⟩ := arm
  change slots = grammar k at hslots
  subst hslots
  unfold Arm.read Tree.read
  simp only [Entries.relabel_self]

/-! ### Building in terms of kinds and properties -/

namespace Context

/-- What a fragment's slots are read from: the part at each property. -/
def partOf (cx : Context) (v : Json) (property : String) : Option Part :=
  (v.property? property).map cx.part

theorem map_part_value (cx : Context) (value : Option Json) :
    (value.map cx.part).map (·.value) = value := by
  cases value with
  | none => rfl
  | some v => exact congrArg some (cx.part_value v)

/-- The registry has a builder for the kind, and that builder builds it. -/
def Serves (cx : Context) (k : Kind) : Prop :=
  ∃ b, cx.registry.dispatch k = .ok b ∧ b.builds k = true

/-- The standard builders serve every kind. -/
theorem standard_serves (source : Source) (k : Kind) : (Context.mk .standard source).Serves k := by
  cases k <;> exact ⟨_, rfl, rfl⟩

theorem build_tagged (cx : Context) {v : Json} {k : Kind} (h : v.Tagged k) :
    cx.build v =
      (cx.registry.dispatch k).bind fun b => b.build k cx.source (cx.partOf v) := by
  cases v with
  | object members =>
    have hlookup : members.lookup kindProperty = some (.string k.tag) := h
    have hkind : Fragment.kindOf members = .ok k := by
      simp only [Fragment.kindOf, hlookup, Kind.ofTag?_tag]
    rw [build_eq]
    simp only [Fragment.ofJson, hkind]
    rfl
  | _ => cases h

/-- Building a fragment of a served kind is reading its production. -/
theorem build_served (cx : Context) {v : Json} {k : Kind} (hs : cx.Serves k) (h : v.Tagged k) :
    cx.build v = Node.mk k <$> Tree.read k cx.source (cx.partOf v) := by
  obtain ⟨b, hb, hbuilds⟩ := hs
  obtain ⟨arm, harm⟩ := Option.isSome_iff_exists.mp hbuilds
  rw [cx.build_tagged h, hb]
  show b.build k cx.source (cx.partOf v) = _
  simp only [Builder.build, harm, Area.read_eq harm]

/-- Fragments of other kinds are refused by their tag. -/
theorem build_unserved (cx : Context) {v : Json} {k : Kind} (hs : ¬ cx.Serves k)
    (h : v.Tagged k) : cx.build v = .error (.unknownKind k.tag) := by
  rw [cx.build_tagged h]
  unfold Registry.dispatch
  cases hc : cx.registry.claimant? k with
  | none => rfl
  | some b =>
    have hnone : b.area.arm? k = none := by
      rw [← Option.not_isSome_iff_eq_none]
      intro hbuilds
      exact hs ⟨b, by simp only [Registry.dispatch, hc], hbuilds⟩
    show b.build k cx.source (cx.partOf v) = _
    simp only [Builder.build, hnone]

theorem build_unknown (cx : Context) {v : Json} {tag : String}
    (h : v.member? kindProperty = some (.string tag)) (hk : Kind.ofTag? tag = none) :
    cx.build v = .error (.unknownKind tag) := by
  cases v with
  | object members =>
    have hlookup : members.lookup kindProperty = some (.string tag) := h
    rw [build_eq]
    simp only [Fragment.ofJson, Fragment.kindOf, hlookup, hk]
    rfl
  | _ => cases h

theorem build_malformed (cx : Context) {v : Json}
    (h : ∀ tag, v.member? kindProperty ≠ some (.string tag)) :
    cx.build v = .error .malformedFragment := by
  cases v with
  | object members =>
    have hkind : Fragment.kindOf members = .error .malformedFragment := by
      unfold Fragment.kindOf
      split
      · next tag htag => exact absurd htag (h tag)
      · rfl
    rw [build_eq]
    simp only [Fragment.ofJson, hkind]
    rfl
  | _ => rfl

end Context

end GraphQL
