import GraphQL.Proofs.Scalars

/-! What a fragment has to be to be read, and what is read from it.

`Context.Fills` says which entry the value of a property stands for.
`Context.build_eq_ok` puts all of a fragment together: a value builds to a tree
exactly when it names the tree's kind, the value at each property fills the tree's
entry and the tokens are the tree's location. `Shape.Filled` is the same without
the entries, over any notion of what a child is, and `Context.builds_iff` says in
these terms which values build at all. -/
namespace GraphQL

/-! ### Filling a slot -/

/-- The value of a property is what its shape asks for, where `Child` says which
values are children of which kind. Every item of a sequence is what a required
child has to be, so a null item fills nothing. -/
inductive Shape.Filled (Child : Kind → Json → Prop) : Shape → Option Json → Prop
  | scalar {s : Scalar} {value : Option Json} {x : s.Value} (reads : s.Reads value x) :
      Filled Child (.scalar s) value
  | required {c : Class} {k : Kind} {v : Json} (admits : c.Admits k) (child : Child k v) :
      Filled Child (.required c) (some v)
  | absent {c : Class} : Filled Child (.optional c) none
  | present {c : Class} {k : Kind} {v : Json} (admits : c.Admits k) (child : Child k v) :
      Filled Child (.optional c) (some v)
  | noItems {c : Class} : Filled Child (.sequence c) none
  | items {c : Class} {items : List Json}
      (each : ∀ v ∈ items, Filled Child (.required c) (some v)) :
      Filled Child (.sequence c) (some (.array items))

/-- The entry that the value of a property stands for. -/
inductive Context.Fills (cx : Context) : {shape : Shape} → Option Json → Entry shape → Prop
  | scalar {s : Scalar} {value : Option Json} {x : s.Value} (reads : s.Reads value x) :
      cx.Fills value (.scalar x)
  | required {c : Class} {k : Kind} {v : Json} {t : Tree k} (admits : c.Admits k)
      (built : cx.build v = .ok ⟨k, t⟩) :
      cx.Fills (some v) (.required admits t)
  | absent {c : Class} : cx.Fills none (.absent (c := c))
  | present {c : Class} {k : Kind} {v : Json} {t : Tree k} (admits : c.Admits k)
      (built : cx.build v = .ok ⟨k, t⟩) :
      cx.Fills (some v) (.present admits t)
  | noItems {c : Class} : cx.Fills none (.sequence (c := c) .nil)
  | items {c : Class} {items : List Json} {children : Trees c}
      (built : List.Forall₂ (fun v n => cx.build v = .ok n.1) items children.toList) :
      cx.Fills (some (.array items)) (.sequence children)

/-- Some tree of the kind is built from the value. -/
def Context.Builds (cx : Context) (k : Kind) (v : Json) : Prop :=
  ∃ t : Tree k, cx.build v = .ok ⟨k, t⟩

/-- A slot that holds for one notion of a child holds for another that takes the
values standing there as children of the same kinds. -/
theorem Shape.Filled.mono {P Q : Kind → Json → Prop} {shape : Shape} {value : Option Json}
    (h : shape.Filled P value)
    (hPQ : ∀ c, Json.Stands c value → ∀ k, P k c → Q k c) : shape.Filled Q value := by
  cases h with
  | scalar reads => exact .scalar reads
  | required admits child => exact .required admits (hPQ _ .alone _ child)
  | absent => exact .absent
  | present admits child => exact .present admits (hPQ _ .alone _ child)
  | noItems => exact .noItems
  | items each =>
    refine .items fun v hv => ?_
    cases each v hv with
    | required admits child => exact .required admits (hPQ v (.item hv) _ child)

/-! ### Reading children -/

namespace Site

variable {site : Site} {c : Class}

theorem accept_admitted {n : Node} (h : c.Admits n.kind) : site.accept c n = .ok ⟨n, h⟩ := by
  cases c with
  | any => rfl
  | only k => exact dif_pos h

theorem accept_refused (site : Site) {n : Node} (h : ¬ c.Admits n.kind) :
    ∃ k, c = .only k ∧
      site.accept c n = .error (.unexpectedKind site.kind site.property k n.kind) := by
  cases c with
  | any => exact absurd trivial h
  | only k => exact ⟨k, rfl, dif_neg h⟩

theorem accept_eq_ok {n : Node} {m : Node.Of c} : site.accept c n = .ok m ↔ m.1 = n := by
  constructor
  · intro h
    by_cases hn : c.Admits n.kind
    · rw [accept_admitted hn] at h
      cases h
      rfl
    · obtain ⟨k, -, hk⟩ := accept_refused site hn
      rw [hk] at h
      cases h
  · intro h
    subst h
    exact accept_admitted m.2

theorem childOf?_some (cx : Context) (v : Json) :
    site.childOf? c (some (cx.part v)) = some <$> (cx.build v >>= site.accept c) := by
  show (some <$> cx.build v) >>= _ = _
  cases cx.build v <;> rfl

theorem childOf_some (cx : Context) (v : Json) :
    site.childOf c (some (cx.part v)) = cx.build v >>= site.accept c := by
  unfold childOf
  rw [childOf?_some]
  cases cx.build v >>= site.accept c <;> rfl

/-- A child is taken as what it builds to. -/
theorem child_eq_ok {cx : Context} {v : Json} {m : Node.Of c} :
    (cx.build v >>= site.accept c) = .ok m ↔ cx.build v = .ok m.1 := by
  simp only [Outcome.bind_eq_ok, accept_eq_ok]
  constructor
  · intro h
    obtain ⟨n, hn, rfl⟩ := h
    exact hn
  · intro h
    exact ⟨m.1, h, rfl⟩

/-- All items of an array are built before the class is asked about any of them. -/
theorem childrenOf_array (cx : Context) (items : List Json) :
    site.childrenOf c (some (cx.part (.array items))) =
      items.mapM cx.build >>= fun nodes => nodes.mapM (site.accept c) := by
  show (cx.results items).mapM id >>= _ = _
  rw [cx.results_eq_map, List.mapM_map]
  rfl

theorem childrenOf_not_array (cx : Context) {v : Json} (h : ∀ items, v ≠ .array items) :
    site.childrenOf c (some (cx.part v)) = .error (site.invalid "array of fragments") := by
  cases v with
  | array items => exact absurd rfl (h items)
  | _ => rfl

theorem childOf_eq_ok {cx : Context} {value : Option Json} {m : Node.Of c} :
    site.childOf c (value.map cx.part) = .ok m ↔ ∃ v, value = some v ∧ cx.build v = .ok m.1 := by
  cases value with
  | none =>
    constructor
    · intro h
      cases h
    · intro h
      obtain ⟨v, hv, -⟩ := h
      cases hv
  | some v =>
    rw [Option.map_some, childOf_some, child_eq_ok]
    simp

theorem childOf?_eq_ok {cx : Context} {value : Option Json} {m? : Option (Node.Of c)} :
    site.childOf? c (value.map cx.part) = .ok m? ↔
      value = none ∧ m? = none ∨ ∃ v m, value = some v ∧ m? = some m ∧ cx.build v = .ok m.1 := by
  cases value with
  | none =>
    have hnone : site.childOf? c (Option.map cx.part none) = .ok none := rfl
    rw [hnone]
    simp [eq_comm]
  | some v =>
    rw [Option.map_some, childOf?_some, Outcome.map_eq_ok]
    simp only [child_eq_ok]
    constructor
    · intro h
      obtain ⟨m, hm, rfl⟩ := h
      exact .inr ⟨v, m, rfl, rfl, hm⟩
    · intro h
      rcases h with ⟨h, -⟩ | ⟨w, m, hw, rfl, hm⟩
      · cases h
      · cases hw
        exact ⟨m, hm, rfl⟩

theorem childrenOf_array_eq_ok {cx : Context} {items : List Json} {nodes : List (Node.Of c)} :
    site.childrenOf c (some (cx.part (.array items))) = .ok nodes ↔
      List.Forall₂ (fun v n => cx.build v = .ok n.1) items nodes := by
  rw [childrenOf_array, Outcome.bind_eq_ok]
  simp only [Outcome.mapM_eq_ok, accept_eq_ok]
  rw [← List.forall₂_map_right_iff (R := fun v n => cx.build v = .ok n)]
  constructor
  · intro h
    obtain ⟨built, hbuilt, haccept⟩ := h
    have hnodes : built = nodes.map (·.1) := by
      rw [← List.forall₂_eq_eq_eq, List.forall₂_map_right_iff]
      exact haccept.imp fun _ _ hm => hm.symm
    exact hnodes ▸ hbuilt
  · intro h
    exact ⟨_, h, List.forall₂_map_left_iff.mpr (List.forall₂_same.mpr fun _ _ => rfl)⟩

theorem childrenOf_eq_ok {cx : Context} {value : Option Json} {nodes : List (Node.Of c)} :
    site.childrenOf c (value.map cx.part) = .ok nodes ↔
      value = none ∧ nodes = [] ∨ ∃ items, value = some (.array items) ∧
        List.Forall₂ (fun v n => cx.build v = .ok n.1) items nodes := by
  cases value with
  | none =>
    have hnone : site.childrenOf c (Option.map cx.part none) = .ok [] := rfl
    rw [hnone]
    simp [eq_comm]
  | some v =>
    rw [Option.map_some]
    by_cases harray : ∃ items, v = .array items
    · obtain ⟨items, rfl⟩ := harray
      rw [childrenOf_array_eq_ok]
      simp
    · rw [childrenOf_not_array cx fun items h => harray ⟨items, h⟩]
      constructor
      · intro h
        cases h
      · intro h
        rcases h with ⟨h, -⟩ | ⟨items, h, -⟩
        · cases h
        · exact absurd ⟨items, Option.some.inj h⟩ harray

/-- Reading a slot gives the entry that the value there stands for. -/
theorem entry_eq_ok (cx : Context) {shape : Shape} {value : Option Json} {e : Entry shape} :
    site.entry (value.map cx.part) shape = .ok e ↔ cx.Fills value e := by
  cases shape with
  | scalar s =>
    show Entry.scalar <$> site.scalar ((value.map cx.part).map (·.value)) s = .ok e ↔ _
    rw [cx.map_part_value, Outcome.map_eq_ok]
    simp only [scalar_eq_ok]
    constructor
    · intro h
      obtain ⟨x, hx, rfl⟩ := h
      exact .scalar hx
    · intro h
      cases h with
      | scalar reads => exact ⟨_, reads, rfl⟩
  | required c =>
    show Entry.ofChild <$> site.childOf c (value.map cx.part) = .ok e ↔ _
    simp only [Outcome.map_eq_ok, childOf_eq_ok]
    constructor
    · intro h
      obtain ⟨n, ⟨v, rfl, hn⟩, rfl⟩ := h
      exact .required n.2 hn
    · intro h
      cases h with
      | required admits built => exact ⟨⟨_, admits⟩, ⟨_, rfl, built⟩, rfl⟩
  | optional c =>
    show Entry.ofChild? <$> site.childOf? c (value.map cx.part) = .ok e ↔ _
    simp only [Outcome.map_eq_ok, childOf?_eq_ok]
    constructor
    · intro h
      obtain ⟨n?, ⟨rfl, rfl⟩ | ⟨v, n, rfl, rfl, hn⟩, rfl⟩ := h
      · exact .absent
      · exact .present n.2 hn
    · intro h
      cases h with
      | absent => exact ⟨none, .inl ⟨rfl, rfl⟩, rfl⟩
      | present admits built => exact ⟨_, .inr ⟨_, ⟨_, admits⟩, rfl, rfl, built⟩, rfl⟩
  | sequence c =>
    show (fun nodes => Entry.sequence (.ofList nodes)) <$> site.childrenOf c (value.map cx.part) =
      .ok e ↔ _
    simp only [Outcome.map_eq_ok, childrenOf_eq_ok]
    constructor
    · intro h
      obtain ⟨nodes, ⟨rfl, rfl⟩ | ⟨items, rfl, hnodes⟩, rfl⟩ := h
      · exact .noItems
      · exact .items (by rw [Trees.toList_ofList]; exact hnodes)
    · intro h
      cases h with
      | noItems => exact ⟨[], .inl ⟨rfl, rfl⟩, rfl⟩
      | items built => exact ⟨_, .inr ⟨_, rfl, built⟩, by rw [Trees.ofList_toList]⟩

end Site

/-- A slot is filled when there is an entry that its value stands for. -/
theorem Context.filled_iff (cx : Context) {shape : Shape} {value : Option Json} :
    shape.Filled cx.Builds value ↔ ∃ e : Entry shape, cx.Fills value e := by
  constructor
  · intro h
    cases h with
    | scalar reads => exact ⟨_, .scalar reads⟩
    | required admits child =>
      obtain ⟨t, ht⟩ := child
      exact ⟨_, .required admits ht⟩
    | absent => exact ⟨_, .absent⟩
    | present admits child =>
      obtain ⟨t, ht⟩ := child
      exact ⟨_, .present admits ht⟩
    | noItems => exact ⟨_, .noItems⟩
    | @items c items each =>
      have hbuilt : ∀ v ∈ items, ∃ n : Node.Of c, cx.build v = .ok n.1 := by
        intro v hv
        cases each v hv with
        | required admits child =>
          obtain ⟨t, ht⟩ := child
          exact ⟨⟨⟨_, t⟩, admits⟩, ht⟩
      obtain ⟨nodes, hnodes⟩ := Outcome.exists_forall₂.mpr hbuilt
      exact ⟨.sequence (.ofList nodes), .items (by rw [Trees.toList_ofList]; exact hnodes)⟩
  · intro h
    obtain ⟨e, he⟩ := h
    cases he with
    | scalar reads => exact .scalar reads
    | required admits built => exact .required admits ⟨_, built⟩
    | absent => exact .absent
    | present admits built => exact .present admits ⟨_, built⟩
    | noItems => exact .noItems
    | items built =>
      refine .items fun v hv => ?_
      obtain ⟨n, hn⟩ := Outcome.exists_forall₂.mp ⟨_, built⟩ v hv
      exact .required n.2 ⟨n.1.tree, hn⟩

/-! ### Reading a production -/

namespace Entries

/-- Every entry is in a relation with its slot. -/
def Each (P : (s : Slot) → Entry s.shape → Prop) : {slots : List Slot} → Entries slots → Prop
  | _, .nil => True
  | s :: _, .cons e es => P s e ∧ es.Each P

theorem exists_each {P : (s : Slot) → Entry s.shape → Prop} {slots : List Slot} :
    (∃ es : Entries slots, es.Each P) ↔ ∀ s ∈ slots, ∃ e, P s e := by
  induction slots with
  | nil => exact ⟨fun _ => List.forall_mem_nil _, fun _ => ⟨.nil, trivial⟩⟩
  | cons s rest ih =>
    rw [List.forall_mem_cons, ← ih]
    constructor
    · intro h
      obtain ⟨es, hes⟩ := h
      cases es with
      | cons e es => exact ⟨⟨e, hes.1⟩, es, hes.2⟩
    · intro h
      obtain ⟨⟨e, he⟩, es, hes⟩ := h
      exact ⟨.cons e es, he, hes⟩

theorem read_eq_ok {k : Kind} {part? : String → Option Part} {slots : List Slot}
    {es : Entries slots} :
    Entries.read k part? slots = .ok es ↔
      es.Each fun s e => Site.entry ⟨k, s.property⟩ (part? s.property) s.shape = .ok e := by
  induction slots with
  | nil =>
    cases es
    exact ⟨fun _ => trivial, fun _ => rfl⟩
  | cons s rest ih =>
    cases es with
    | cons e es =>
      rw [Entries.read, Outcome.bind_eq_ok]
      constructor
      · intro h
        obtain ⟨a, ha, h⟩ := h
        obtain ⟨as, has, h⟩ := Outcome.bind_eq_ok.mp h
        cases h
        exact ⟨ha, ih.mp has⟩
      · intro h
        exact ⟨e, h.1, Outcome.bind_eq_ok.mpr ⟨es, ih.mpr h.2, rfl⟩⟩

end Entries

namespace Context

/-- The entries that a fragment's properties stand for. -/
def FillsAll (cx : Context) (v : Json) {slots : List Slot} (es : Entries slots) : Prop :=
  es.Each fun s e => cx.Fills (v.property? s.property) e

theorem read_partOf (cx : Context) {k : Kind} {v : Json} {slots : List Slot} {es : Entries slots} :
    Entries.read k (cx.partOf v) slots = .ok es ↔ cx.FillsAll v es := by
  rw [Entries.read_eq_ok]
  simp only [partOf, Site.entry_eq_ok, FillsAll]

/-- Some entries are read from a fragment when each of their slots is filled. -/
theorem exists_fillsAll (cx : Context) {v : Json} {slots : List Slot} :
    (∃ es : Entries slots, cx.FillsAll v es) ↔
      ∀ s ∈ slots, s.shape.Filled cx.Builds (v.property? s.property) := by
  simp only [FillsAll, Entries.exists_each, filled_iff]

/-! ### Building a fragment -/

/-- What builds names the kind it is built to, and the kind is served. -/
theorem tagged_of_build (cx : Context) {v : Json} {n : Node} (h : cx.build v = .ok n) :
    v.Tagged n.kind ∧ cx.Serves n.kind := by
  rcases v.tagged_cases with ⟨k, hk⟩ | ⟨tag, htag, hno⟩ | hno
  · by_cases hs : cx.Serves k
    · rw [cx.build_served hs hk, Outcome.map_eq_ok] at h
      obtain ⟨t, -, rfl⟩ := h
      exact ⟨hk, hs⟩
    · rw [cx.build_unserved hs hk] at h
      cases h
  · rw [cx.build_unknown htag hno] at h
    cases h
  · rw [cx.build_malformed hno] at h
    cases h

/-- Building a value gives the tree of the kind it names, with the entries that its
properties stand for and the location that its tokens stand for. -/
theorem build_eq_ok (cx : Context) {v : Json} {k : Kind} {es : Entries (grammar k)}
    {l : Option Location} :
    cx.build v = .ok ⟨k, .node es l⟩ ↔
      cx.Serves k ∧ v.Tagged k ∧ cx.FillsAll v es ∧ cx.Locates v l := by
  by_cases hk : cx.Serves k ∧ v.Tagged k
  · rw [cx.build_served hk.1 hk.2, Outcome.map_eq_ok]
    simp only [Tree.read, Outcome.bind_eq_ok, read_partOf]
    rw [partOf, cx.map_part_value]
    constructor
    · intro h
      obtain ⟨t, ⟨as, has, a, ha, ht⟩, h⟩ := h
      cases ht
      cases h
      exact ⟨hk.1, hk.2, has, Site.location_eq_ok.mp ha⟩
    · intro h
      exact ⟨_, ⟨es, h.2.2.1, l, Site.location_eq_ok.mpr h.2.2.2, rfl⟩, rfl⟩
  · refine ⟨fun h => ?_, fun h => absurd ⟨h.1, h.2.1⟩ hk⟩
    have := cx.tagged_of_build h
    exact absurd ⟨this.2, this.1⟩ hk

/-- A value builds to some tree of a kind when it names the kind, its properties
fill the kind's slots and its tokens are in order. -/
theorem builds_iff (cx : Context) {k : Kind} {v : Json} :
    cx.Builds k v ↔
      cx.Serves k ∧ v.Tagged k ∧
        (∀ s ∈ grammar k, s.shape.Filled cx.Builds (v.property? s.property)) ∧ v.Ordered := by
  rw [← exists_fillsAll, ← cx.exists_locates]
  constructor
  · intro h
    obtain ⟨⟨es, l⟩, h⟩ := h
    obtain ⟨hs, hk, hes, hl⟩ := cx.build_eq_ok.mp h
    exact ⟨hs, hk, ⟨es, hes⟩, l, hl⟩
  · intro h
    obtain ⟨hs, hk, ⟨es, hes⟩, l, hl⟩ := h
    exact ⟨.node es l, cx.build_eq_ok.mpr ⟨hs, hk, hes, hl⟩⟩

end Context

end GraphQL
