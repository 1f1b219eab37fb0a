import GraphQL.Node.View
import GraphQL.Proofs.Reading

/-! Type references, and the named type inside them.

A list type and a non-null type are layers: each has one child, of any kind. `Tree.inside`
are the nodes on the way inward through the layers of a tree, down to the first that is none.
The named type inside a tree is looked for by walking that way, one node a round, without
knowing how far it leads. The walk is at just the nodes of `inside`, ends at the last of them
and finds what `Tree.named?` is (`Node.passes_inside`).

A fragment made of layers is built from inside, each layer around what the next was built to
(`Context.build_wraps`). So the nodes inside are what the fragments inside were built to, and
there are as many as there are layers. -/
namespace GraphQL

/-- The kinds that are layers around another node. -/
def Kind.wraps : Kind → Bool
  | .listType | .nonNullType => true
  | _ => false

theorem Kind.wraps_iff {k : Kind} : k.wraps = true ↔ k = .listType ∨ k = .nonNullType := by
  cases k <;> decide

/-! ### The way inward -/

namespace Tree

/-- The nodes inside the layers of a tree, from its own child inward. -/
def inside : {k : Kind} → Tree k → List Node
  | .listType, .node (.cons (.required _ child) .nil) _ => ⟨_, child⟩ :: child.inside
  | .nonNullType, .node (.cons (.required _ child) .nil) _ => ⟨_, child⟩ :: child.inside
  | _, _ => []
termination_by structural _ t => t

/-- A layer has a child. Inside are the child and all that is inside the child, and the named
type inside is the child's. -/
theorem exists_wrapped : {k : Kind} → (t : Tree k) → k.wraps = true → ∃ inner,
    t.wrapped? = some inner ∧ t.inside = inner :: inner.tree.inside ∧
      t.named? = inner.tree.named?
  | .listType, .node (.cons (.required _ child) .nil) _, _ => ⟨⟨_, child⟩, rfl, rfl, rfl⟩
  | .nonNullType, .node (.cons (.required _ child) .nil) _, _ => ⟨⟨_, child⟩, rfl, rfl, rfl⟩

/-- Nothing is inside any other tree, which may be a named type itself. -/
theorem not_wrapped {k : Kind} (t : Tree k) (h : k.wraps = false) :
    t.wrapped? = none ∧ t.inside = [] ∧ t.named? = (Node.mk k t).as? .namedType := by
  cases t
  cases k with
  | listType | nonNullType => cases h
  | _ => exact ⟨rfl, rfl, rfl⟩

end Tree

namespace Node

/-! ### The walk -/

/-- One round of the walk: at a named type it ends, from a layer it goes on to the child, and
at any other node it ends with nothing found. -/
def round (n : Node) : Node ⊕ Option (Tree .namedType) :=
  match n.as? .namedType, n.tree.wrapped? with
  | some t, _ => .inr (some t)
  | none, some inner => .inl inner
  | none, none => .inr none

/-- The node at which the walk is after some rounds, or what it has ended with. -/
def walk : Nat → Node → Node ⊕ Option (Tree .namedType)
  | 0, n => .inl n
  | rounds + 1, n =>
    match n.round with
    | .inl inner => inner.walk rounds
    | .inr found => .inr found

/-- The walk is at some nodes in turn, one a round, and has ended after the round at the last. -/
structure Passes (n : Node) (nodes : List Node) (found : Option (Tree .namedType)) : Prop where
  passed : ∀ i m, nodes[i]? = some m → n.walk i = .inl m
  ended : n.walk nodes.length = .inr found

theorem round_of_wraps {n inner : Node} (hk : n.kind.wraps = true)
    (h : n.tree.wrapped? = some inner) : n.round = .inl inner := by
  have has : n.as? .namedType = none := by
    apply dif_neg
    intro hnamed
    rw [hnamed] at hk
    cases hk
  rw [round, has, h]

theorem round_of_not_wraps {n : Node} (hk : n.kind.wraps = false) :
    n.round = .inr (n.as? .namedType) := by
  rw [round, (n.tree.not_wrapped hk).1]
  cases n.as? .namedType <;> rfl

theorem Passes.here {n : Node} {found : Option (Tree .namedType)} (h : n.round = .inr found) :
    n.Passes [n] found where
  passed i m hi := by
    cases i with
    | zero =>
      obtain rfl : n = m := Option.some.inj hi
      rfl
    | succ i => cases hi
  ended := by rw [List.length_singleton, walk, h]

theorem Passes.inward {n inner : Node} {nodes : List Node} {found : Option (Tree .namedType)}
    (h : n.round = .inl inner) (hinner : inner.Passes nodes found) :
    n.Passes (n :: nodes) found where
  passed i m hi := by
    cases i with
    | zero =>
      obtain rfl : n = m := Option.some.inj hi
      rfl
    | succ i =>
      rw [walk, h]
      exact hinner.passed i m hi
  ended := by
    rw [List.length_cons, walk, h]
    exact hinner.ended

/-- **From every node the walk comes to an end**: it is over when it has been at all the nodes
inside, and finds the named type among them if there is one. -/
theorem passes_inside (n : Node) : n.Passes (n :: n.tree.inside) n.tree.named? := by
  cases hk : n.kind.wraps with
  | true =>
    obtain ⟨inner, hwrapped, hcons, hnamed⟩ := n.tree.exists_wrapped hk
    rw [hcons, hnamed]
    exact .inward (round_of_wraps hk hwrapped) inner.passes_inside
  | false =>
    obtain ⟨-, hnil, hnamed⟩ := n.tree.not_wrapped hk
    rw [hnil, hnamed]
    exact .here (round_of_not_wraps hk)
-- There is one node less inside the child.
termination_by n.tree.inside.length
decreasing_by
  rw [hcons]
  exact Nat.lt_succ_self _

end Node

/-! ### Building layers -/

/-- A fragment consists of some layers, the outermost first, around another fragment. Each has
the next as its type. -/
inductive Json.Wraps : Json → List Json → Json → Prop
  | bare {x : Json} : Wraps x [] x
  | layer {v w x : Json} {k : Kind} {layers : List Json} (tagged : v.Tagged k)
      (wraps : k.wraps = true) (type : v.property? "type" = some w) (rest : Wraps w layers x) :
      Wraps v (v :: layers) x

namespace Context

variable {cx : Context}

/-- A built node is of the kind that its fragment names and of no other. -/
theorem as?_build {v : Json} {n : Node} (h : cx.build v = .ok n) (k : Kind) :
    (v.Tagged k → ∃ t, n = ⟨k, t⟩ ∧ n.as? k = some t) ∧ (¬ v.Tagged k → n.as? k = none) := by
  have htag := (cx.tagged_of_build h).1
  constructor
  · intro hk
    obtain ⟨j, t⟩ := n
    obtain rfl : j = k := htag.unique hk
    exact ⟨t, rfl, Node.as?_mk j t⟩
  · intro hk
    exact dif_neg fun hj : n.kind = k => hk (hj ▸ htag)

/-- A layer is built around what stands inside it, unless its tokens are out of order. -/
theorem build_layer {v w : Json} {k : Kind} {inner : Node} (served : cx.Serves k)
    (tagged : v.Tagged k) (wraps : k.wraps = true) (type : v.property? "type" = some w)
    (ordered : v.Ordered) (h : cx.build w = .ok inner) :
    ∃ t : Tree k, cx.build v = .ok ⟨k, t⟩ ∧ t.wrapped? = some inner := by
  obtain ⟨l, hl⟩ := (cx.exists_locates v).mpr ordered
  obtain ⟨j, child⟩ := inner
  have hfill : cx.Fills (v.property? "type") (.required (c := .any) trivial child) := by
    rw [type]
    exact .required _ h
  rcases Kind.wraps_iff.mp wraps with rfl | rfl
  · exact ⟨.node (.cons (.required trivial child) .nil) l,
      cx.build_eq_ok.mpr ⟨served, tagged, ⟨hfill, trivial⟩, hl⟩, rfl⟩
  · exact ⟨.node (.cons (.required trivial child) .nil) l,
      cx.build_eq_ok.mpr ⟨served, tagged, ⟨hfill, trivial⟩, hl⟩, rfl⟩

/-- Layers are built around what their innermost fragment was built to. What the fragments on
the way were built to is found inside, in order. -/
theorem build_wraps (served : ∀ k, cx.Serves k) {v x : Json} {layers : List Json}
    {innermost : Node} (h : v.Wraps layers x) (bare : innermost.kind.wraps = false)
    (ordered : ∀ layer ∈ layers, layer.Ordered) (hx : cx.build x = .ok innermost) :
    ∃ n, cx.build v = .ok n ∧ n.tree.named? = innermost.as? .namedType ∧
      List.Forall₂ (fun c m => cx.build c = .ok m) (layers ++ [x]) (n :: n.tree.inside) := by
  induction h with
  | bare =>
    obtain ⟨-, hinside, hnamed⟩ := innermost.tree.not_wrapped bare
    refine ⟨innermost, hx, hnamed, ?_⟩
    rw [hinside]
    exact .cons hx .nil
  | layer tagged wraps type _ ih =>
    obtain ⟨hordered, hrest⟩ := List.forall_mem_cons.mp ordered
    obtain ⟨m, hm, hnamed, hinside⟩ := ih hrest hx
    obtain ⟨t, ht, hwrapped⟩ := build_layer (served _) tagged wraps type hordered hm
    obtain ⟨inner, hinner, hcons, hsame⟩ := t.exists_wrapped wraps
    obtain rfl : m = inner := Option.some.inj (hwrapped.symm.trans hinner)
    refine ⟨_, ht, hsame.trans hnamed, .cons ht ?_⟩
    show List.Forall₂ _ _ t.inside
    rw [hcons]
    exact hinside

end Context

/-- **What is found inside a built type reference is what its innermost fragment was built to.**
Around a fragment that builds, layers build if their tokens are in order. A named type is
found inside them, and no node of another kind. The walk that looks for it begins at the
outermost layer's child, is in turn at what each fragment further inside was built to, and
is over after as many rounds as there are layers. -/
theorem named?_ofJson {source : Source} {v x : Json} {layers : List Json} {innermost : Node}
    (h : v.Wraps layers x) (nonempty : layers ≠ [])
    (bare : ¬ x.Tagged .listType ∧ ¬ x.Tagged .nonNullType)
    (ordered : ∀ layer ∈ layers, layer.Ordered)
    (hx : Node.ofJson source x = .ok innermost) :
    ∃ n inner, Node.ofJson source v = .ok n ∧ n.tree.wrapped? = some inner ∧
      (x.Tagged .namedType → ∃ t, innermost = ⟨.namedType, t⟩ ∧ n.tree.named? = some t) ∧
      (¬ x.Tagged .namedType → n.tree.named? = none) ∧
      List.Forall₂ (fun c m => Node.ofJson source c = .ok m) (layers.tail ++ [x]) n.tree.inside ∧
      n.tree.inside.length = layers.length ∧ inner.Passes n.tree.inside n.tree.named? := by
  have hbare : innermost.kind.wraps = false := by
    have htag : x.Tagged innermost.kind := (Context.tagged_of_build _ hx).1
    rw [Bool.eq_false_iff]
    intro hwraps
    rcases Kind.wraps_iff.mp hwraps with hk | hk
    · exact bare.1 (hk ▸ htag)
    · exact bare.2 (hk ▸ htag)
  obtain ⟨n, hn, hnamed, hinside⟩ :=
    Context.build_wraps (Context.standard_serves source) h hbare ordered hx
  obtain ⟨hfound, hnothing⟩ := Context.as?_build hx .namedType
  rw [← hnamed] at hfound hnothing
  cases h with
  | bare => exact absurd rfl nonempty
  | @layer _ _ _ k rest tagged wraps =>
    have hkind : n.kind = k := (Context.tagged_of_build _ hn).1.unique tagged
    obtain ⟨inner, hwrapped, hcons, hsame⟩ := n.tree.exists_wrapped (hkind ▸ wraps)
    have hpasses : inner.Passes n.tree.inside n.tree.named? := by
      rw [hcons, hsame]
      exact inner.passes_inside
    -- All but the outermost fragment are inside.
    have hinside : List.Forall₂ (fun c m => Node.ofJson source c = .ok m) (rest ++ [x])
        n.tree.inside := (List.forall₂_cons.mp hinside).2
    have hlength : n.tree.inside.length = rest.length + 1 := by
      rw [← hinside.length_eq, List.length_append, List.length_singleton]
    exact ⟨n, inner, hn, hwrapped, hfound, hnothing, hinside, hlength, hpasses⟩

/-- A list of non-null items that is not null itself. Its tokens are in order, and the inner
layers have none. -/
theorem named?_ofJson_threeLayers :
    let layer (kind : String) (type loc : Json) : Json :=
      .object [("type", type), ("loc", loc), ("kind", .string kind)]
    let x : Json := .object [("kind", .string "NamedType"),
      ("name", .object [("kind", .string "Name"), ("value", .string "Int")])]
    let item := layer "NonNullType" x (.bool true)
    let list := layer "ListType" item .null
    let v := layer "NonNullType" list (.object [("startToken", .nat 3), ("endToken", .nat 10)])
    let source : Source := .ofBody "a: [Int!]!"
    v.Wraps [v, list, item] x ∧ (¬ x.Tagged .listType ∧ ¬ x.Tagged .nonNullType) ∧
      (∀ layer ∈ [v, list, item], layer.Ordered) ∧
      ∃ n inner t, Node.ofJson source x = .ok ⟨.namedType, t⟩ ∧ Node.ofJson source v = .ok n ∧
        n.tree.wrapped? = some inner ∧ n.tree.named? = some t ∧ inner.walk 3 = .inr (some t) := by
  intro layer x item list v source
  have hwraps : v.Wraps [v, list, item] x :=
    .layer (k := .nonNullType) rfl rfl rfl <| .layer (k := .listType) rfl rfl rfl <|
      .layer (k := .nonNullType) rfl rfl rfl .bare
  have hx : x.Tagged .namedType := rfl
  have hbare : ¬ x.Tagged .listType ∧ ¬ x.Tagged .nonNullType := by
    constructor
    · intro h
      cases hx.unique h
    · intro h
      cases hx.unique h
  have hordered : ∀ layer ∈ [v, list, item], layer.Ordered := by
    have hspans : v.span? = some (3, 10) ∧ list.span? = none ∧ item.span? = none := by decide
    simp [Json.Ordered, hspans]
  obtain ⟨m, hm⟩ : ∃ m, Node.ofJson source x = .ok m := ⟨_, rfl⟩
  obtain ⟨n, inner, hn, hinner, hnamed, -, -, hlength, hpasses⟩ :=
    named?_ofJson hwraps (List.cons_ne_nil _ _) hbare hordered hm
  obtain ⟨t, rfl, ht⟩ := hnamed hx
  have hended := hpasses.ended
  rw [hlength, ht] at hended
  exact ⟨hwraps, hbare, hordered, n, inner, t, hm, hn, hinner, ht, hended⟩

-- A list of something that is no type.
example : (Node.ofJson (.ofBody "[null]") (.object [("kind", .string "ListType"),
    ("type", .object [("kind", .string "NullValue")])])).map (·.tree.named?) = .ok none := rfl

end GraphQL
