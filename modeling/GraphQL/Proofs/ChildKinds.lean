import GraphQL.Proofs.FirstFault

/-! Reading children of one kind.

What stands at a property can be read as children of any kind or as children of one
kind (`Readings`), and the second is the first with a look at the kinds behind it
(`Refines`). In a sequence that look comes when all items have been built: a refusal of
any item goes before the kind of every other, and the first node of another kind is
reported only if there is none. A child that may be left out and one that may not are read
alike, but where nothing stands. -/
namespace GraphQL

theorem Node.mk_tree {k : Kind} (n : Node.Of (.only k)) : Node.mk k n.tree = n.1 := by
  obtain ⟨⟨j, t⟩, h⟩ := n
  have hkind : j = k := h
  subst hkind
  rfl

/-- A tree as a child that has to have its kind. -/
def Node.Of.ofTree {k : Kind} (t : Tree k) : Node.Of (.only k) := ⟨⟨k, t⟩, Eq.refl k⟩

/-- What is read at a property: a child that may be there, a child that has to be, and
a sequence. -/
structure Readings (α : Type) where
  child? : Except BuildError (Option α)
  child : Except BuildError α
  children : Except BuildError (List α)

namespace Site

/-- What is read as nodes of any kind. -/
def readings (site : Site) (p : Option Part) : Readings Node where
  child? := site.child? p
  child := site.child p
  children := site.children p

/-- What is read as trees of one kind. -/
def readingsOf (site : Site) (k : Kind) (p : Option Part) : Readings (Tree k) where
  child? := (fun child => child.map Node.Of.tree) <$> site.childOf? (.only k) p
  child := Node.Of.tree <$> site.childOf (.only k) p
  children := (fun nodes => nodes.map Node.Of.tree) <$> site.childrenOf (.only k) p

/-- The node at a property has another kind than `k`. -/
def unexpected (site : Site) (k : Kind) (n : Node) : BuildError :=
  .unexpectedKind site.kind site.property k n.kind

/-- Reading children of kind `k` at a site is reading children of any kind and then
looking at their kinds; `absent` tells that nothing stands there. -/
structure Refines (site : Site) (k : Kind) (absent : Prop) (typed : Readings (Tree k))
    (untyped : Readings Node) : Prop where
  children_ok : ∀ ts, typed.children = .ok ts ↔
    ∃ ns, untyped.children = .ok ns ∧ (∀ n ∈ ns, n.kind = k) ∧ ts.map (Node.mk k) = ns
  children_error : ∀ e, untyped.children = .error e → typed.children = .error e
  /-- Of the nodes of other kinds the first is reported. -/
  children_unexpected : ∀ ns, untyped.children = .ok ns → (∃ n ∈ ns, n.kind ≠ k) →
    ∃ n, ns.find? (fun n => n.kind ≠ k) = some n ∧ typed.children = .error (site.unexpected k n)
  child_ok : ∀ t, typed.child = .ok t ↔ untyped.child = .ok ⟨k, t⟩
  child_error : ∀ e, untyped.child = .error e → typed.child = .error e
  child_unexpected : ∀ n, untyped.child = .ok n → n.kind ≠ k →
    typed.child = .error (site.unexpected k n)
  child?_ok : ∀ t?, typed.child? = .ok t? ↔ untyped.child? = .ok (t?.map (Node.mk k))
  child?_error : ∀ e, untyped.child? = .error e → typed.child? = .error e
  child?_unexpected : ∀ n, untyped.child? = .ok (some n) → n.kind ≠ k →
    typed.child? = .error (site.unexpected k n)
  of_absent : absent → typed.child? = .ok none ∧ typed.child = .error site.missing
  of_present : ¬ absent → typed.child? = some <$> typed.child

variable {site : Site} {k : Kind}

/-! ### Looking at the kinds of nodes -/

theorem accept_unexpected {n : Node} (h : n.kind ≠ k) :
    site.accept (.only k) n = .error (site.unexpected k n) :=
  accept_eq_error.mpr ⟨k, rfl, h, rfl⟩

theorem mapM_accept_eq_ok {c : Class} {nodes : List Node} {ms : List (Node.Of c)} :
    nodes.mapM (site.accept c) = .ok ms ↔ ms.map (·.1) = nodes := by
  rw [Outcome.mapM_eq_ok]
  simp only [accept_eq_ok]
  rw [← List.forall₂_map_right_iff (R := fun n m => m = n), ← List.forall₂_eq_eq_eq]
  exact ⟨fun h => h.flip, fun h => h.flip⟩

/-- The first node of another kind is reported. -/
theorem mapM_accept_eq_error {nodes : List Node} (h : ∃ n ∈ nodes, n.kind ≠ k) :
    ∃ n, nodes.find? (fun n => n.kind ≠ k) = some n ∧
      nodes.mapM (site.accept (.only k)) = .error (site.unexpected k n) := by
  have hsome : (nodes.find? fun n => n.kind ≠ k).isSome = true := by
    simpa [List.find?_isSome] using h
  obtain ⟨n, hn⟩ := Option.isSome_iff_exists.mp hsome
  obtain ⟨hkind, earlier, later, rfl, hearlier⟩ := List.find?_eq_some_iff_append.mp hn
  refine ⟨n, hn, Outcome.mapM_eq_error.mpr ⟨earlier, n, later, rfl, ?_, ?_⟩⟩
  · intro m hm
    have hm : m.kind = k := by simpa using hearlier m hm
    exact ⟨_, accept_admitted (c := .only k) hm⟩
  · exact accept_unexpected (by simpa using hkind)

/-- Nodes of one kind are the nodes of some trees. -/
theorem exists_trees {nodes : List Node} {ts : List (Tree k)} :
    (∃ ms : List (Node.Of (.only k)), ms.map (·.1) = nodes ∧ ms.map Node.Of.tree = ts) ↔
      (∀ n ∈ nodes, n.kind = k) ∧ ts.map (Node.mk k) = nodes := by
  constructor
  · intro h
    obtain ⟨ms, rfl, rfl⟩ := h
    refine ⟨List.forall_mem_map.mpr fun m _ => m.2, ?_⟩
    rw [List.map_map]
    exact List.map_congr_left fun m _ => Node.mk_tree m
  · intro h
    obtain ⟨-, rfl⟩ := h
    refine ⟨ts.map Node.Of.ofTree, ?_, ?_⟩
    · rw [List.map_map]
      rfl
    · rw [List.map_map]
      exact List.map_id ts

/-! ### Readings of one kind -/

theorem childrenOf_readingsOf (p : Option Part) :
    (site.readingsOf k p).children = (fun nodes => nodes.map Node.Of.tree) <$>
      (site.children p >>= fun nodes => nodes.mapM (site.accept (.only k))) := rfl

theorem childOf_readingsOf (p : Option Part) :
    (site.readingsOf k p).child =
      Node.Of.tree <$> (site.child p >>= site.accept (.only k)) := by
  have h : site.childOf (.only k) p = site.child p >>= site.accept (.only k) := by
    cases p with
    | none => rfl
    | some p =>
      show ((some <$> p.node) >>= _) >>= _ = ((some <$> p.node) >>= _) >>= _
      cases p.node with
      | error e => rfl
      | ok n =>
        show (some <$> site.accept (.only k) n) >>= site.require = site.accept (.only k) n
        cases site.accept (.only k) n <;> rfl
  exact congrArg (Node.Of.tree <$> ·) h

/-- Where something stands, a child that may be there is read as one that has to be. -/
theorem child?_some (p : Part) : site.child? (some p) = some <$> site.child (some p) := by
  show some <$> p.node = some <$> ((some <$> p.node) >>= _)
  cases p.node <;> rfl

theorem childOf?_readingsOf_some (p : Part) :
    (site.readingsOf k (some p)).child? = some <$> (site.readingsOf k (some p)).child := by
  rw [childOf_readingsOf]
  show _ <$> ((some <$> p.node) >>= _) = some <$> Node.Of.tree <$> (((some <$> p.node) >>= _) >>= _)
  cases p.node with
  | error e => rfl
  | ok n =>
    show _ <$> some <$> site.accept (.only k) n = some <$> Node.Of.tree <$> site.accept (.only k) n
    cases site.accept (.only k) n <;> rfl

theorem childrenOf_eq_ok_iff (p : Option Part) (ts : List (Tree k)) :
    (site.readingsOf k p).children = .ok ts ↔
      ∃ ns, site.children p = .ok ns ∧ (∀ n ∈ ns, n.kind = k) ∧ ts.map (Node.mk k) = ns := by
  rw [childrenOf_readingsOf, Outcome.map_eq_ok]
  simp only [Outcome.bind_eq_ok, mapM_accept_eq_ok, ← exists_trees]
  constructor
  · intro h
    obtain ⟨ms, ⟨ns, hns, hms⟩, hts⟩ := h
    exact ⟨ns, hns, ms, hms, hts⟩
  · intro h
    obtain ⟨ns, hns, ms, hms, hts⟩ := h
    exact ⟨ms, ⟨ns, hns, hms⟩, hts⟩

theorem childOf_eq_ok_iff (p : Option Part) (t : Tree k) :
    (site.readingsOf k p).child = .ok t ↔ site.child p = .ok ⟨k, t⟩ := by
  rw [childOf_readingsOf, Outcome.map_eq_ok]
  simp only [Outcome.bind_eq_ok, accept_eq_ok]
  constructor
  · intro h
    obtain ⟨m, ⟨n, hn, rfl⟩, rfl⟩ := h
    rw [hn, Node.mk_tree]
  · intro h
    exact ⟨.ofTree t, ⟨_, h, rfl⟩, rfl⟩

section
variable {p : Option Part} {n : Node} {e : BuildError}

theorem childOf_error (h : site.child p = .error e) : (site.readingsOf k p).child = .error e := by
  rw [childOf_readingsOf, h]
  rfl

theorem childOf_unexpected (hn : site.child p = .ok n) (h : n.kind ≠ k) :
    (site.readingsOf k p).child = .error (site.unexpected k n) := by
  rw [childOf_readingsOf, hn]
  exact Outcome.map_eq_error.mpr (accept_unexpected h)

end

/-- Whatever stands at a property, the readings of one kind refine those of any kind. -/
theorem readingsOf_refines (site : Site) (k : Kind) (p : Option Part) :
    site.Refines k (p = none) (site.readingsOf k p) (site.readings p) where
  children_ok := childrenOf_eq_ok_iff p
  children_error e h := by
    have h : site.children p = .error e := h
    rw [childrenOf_readingsOf, h]
    rfl
  children_unexpected ns hns h := by
    have hns : site.children p = .ok ns := hns
    obtain ⟨n, hn, he⟩ : ∃ n, ns.find? (fun n => n.kind ≠ k) = some n ∧
        ns.mapM (site.accept (.only k)) = .error (site.unexpected k n) := mapM_accept_eq_error h
    rw [childrenOf_readingsOf, hns]
    exact ⟨n, hn, Outcome.map_eq_error.mpr he⟩
  child_ok := childOf_eq_ok_iff p
  child_error _ := childOf_error
  child_unexpected _ := childOf_unexpected
  child?_ok t? := by
    cases p with
    | none =>
      show Except.ok none = .ok t? ↔ Except.ok none = .ok (t?.map (Node.mk k))
      cases t? <;> simp
    | some p =>
      rw [childOf?_readingsOf_some, Outcome.map_eq_ok]
      simp only [childOf_eq_ok_iff]
      show _ ↔ site.child? (some p) = _
      rw [child?_some, Outcome.map_eq_ok]
      cases t? <;> simp
  child?_error e h := by
    cases p with
    | none => cases h
    | some p =>
      have h : site.child? (some p) = .error e := h
      rw [child?_some, Outcome.map_eq_error] at h
      rw [childOf?_readingsOf_some, Outcome.map_eq_error]
      exact childOf_error h
  child?_unexpected n hn h := by
    cases p with
    | none => cases hn
    | some p =>
      have hn : site.child? (some p) = .ok (some n) := hn
      rw [child?_some, Outcome.map_eq_ok] at hn
      obtain ⟨m, hm, hmn⟩ := hn
      obtain rfl := Option.some.inj hmn
      rw [childOf?_readingsOf_some, Outcome.map_eq_error]
      exact childOf_unexpected hm h
  of_absent h := by
    subst h
    exact ⟨rfl, rfl⟩
  of_present h := by
    cases p with
    | none => exact absurd rfl h
    | some p => exact childOf?_readingsOf_some p

end Site

namespace Fragment

/-- A property is left out or null. -/
def Lacks (f : Fragment) (property : String) : Prop :=
  f.members.lookup property = none ∨ f.members.lookup property = some .null

theorem get?_eq_none {f : Fragment} {property : String} :
    f.get? property = none ↔ f.Lacks property := by
  unfold get? Lacks
  cases f.members.lookup property with
  | none => simp
  | some v => cases v <;> simp

-- The first item has another kind. The second does not build, and that is what is reported.
example (site : Site) :
    let items := [.ok ⟨.nullValue, .node .nil none⟩, .error .malformedFragment]
    (site.readingsOf .name (some ⟨.null, .error .malformedFragment, some items⟩)).children =
      .error .malformedFragment := rfl

end Fragment

end GraphQL
