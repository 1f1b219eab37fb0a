import GraphQL.Grammar
import GraphQL.Source

/-! Syntax trees.

A tree of kind `k` has one entry per slot of `grammar k`, each of the slot's shape,
and possibly a location. Shapes are part of the types, so a tree that does not
follow the grammar cannot be written down. A `Node` is a tree together with its
kind. -/
namespace GraphQL

mutual
inductive Tree : Kind → Type
  | node {k : Kind} (entries : Entries (grammar k)) (location : Option Location) : Tree k

/-- One entry per slot. -/
inductive Entries : List Slot → Type
  | nil : Entries []
  | cons {s : Slot} {rest : List Slot} (entry : Entry s.shape) (entries : Entries rest) :
      Entries (s :: rest)

/-- What a slot of some shape holds. -/
inductive Entry : Shape → Type
  | scalar {s : Scalar} (value : s.Value) : Entry (.scalar s)
  | required {c : Class} {k : Kind} (admits : c.Admits k) (child : Tree k) : Entry (.required c)
  | absent {c : Class} : Entry (.optional c)
  | present {c : Class} {k : Kind} (admits : c.Admits k) (child : Tree k) : Entry (.optional c)
  | sequence {c : Class} (children : Trees c) : Entry (.sequence c)

/-- Children of a class, in order. -/
inductive Trees : Class → Type
  | nil {c : Class} : Trees c
  | cons {c : Class} {k : Kind} (admits : c.Admits k) (child : Tree k) (rest : Trees c) : Trees c
end

/-- A tree of any kind. -/
structure Node where
  kind : Kind
  tree : Tree kind

/-- A node that a slot of class `c` may hold. -/
def Node.Of (c : Class) : Type := { n : Node // c.Admits n.kind }

/-! ### Parts of a tree -/

namespace Tree

def entries {k : Kind} : Tree k → Entries (grammar k)
  | .node entries _ => entries

def location? {k : Kind} : Tree k → Option Location
  | .node _ location => location

end Tree

/-- The entry of a slot, if it is one of these slots. -/
def Entries.get? (s : Slot) : {slots : List Slot} → Entries slots → Option (Entry s.shape)
  | _, .nil => none
  | t :: _, .cons entry rest => if h : t = s then some (h ▸ entry) else rest.get? s

/-- The entry of a slot, if the tree's kind has it. -/
def Tree.get? {k : Kind} (t : Tree k) (s : Slot) : Option (Entry s.shape) := t.entries.get? s

namespace Entry

def child {c : Class} : Entry (.required c) → Node.Of c
  | .required admits child => ⟨⟨_, child⟩, admits⟩

def child? {c : Class} : Entry (.optional c) → Option (Node.Of c)
  | .absent => none
  | .present admits child => some ⟨⟨_, child⟩, admits⟩

def ofChild {c : Class} (n : Node.Of c) : Entry (.required c) := .required n.2 n.1.tree

def ofChild? {c : Class} : Option (Node.Of c) → Entry (.optional c)
  | none => .absent
  | some n => .present n.2 n.1.tree

end Entry

namespace Trees

def toList {c : Class} : Trees c → List (Node.Of c)
  | .nil => []
  | .cons admits child rest => ⟨⟨_, child⟩, admits⟩ :: rest.toList

def ofList {c : Class} : List (Node.Of c) → Trees c
  | [] => .nil
  | n :: rest => .cons n.2 n.1.tree (ofList rest)

theorem toList_ofList {c : Class} (nodes : List (Node.Of c)) : (ofList nodes).toList = nodes := by
  induction nodes with
  | nil => rfl
  | cons n rest ih => exact congrArg (n :: ·) ih

theorem ofList_toList {c : Class} : (trees : Trees c) → ofList trees.toList = trees
  | .nil => rfl
  | .cons admits child rest => congrArg (Trees.cons admits child) (ofList_toList rest)

/-- Induction along the children, as along a list. -/
@[elab_as_elim]
theorem listInduction {c : Class} {motive : Trees c → Prop} (nil : motive .nil)
    (cons : ∀ {k : Kind} (admits : c.Admits k) (child : Tree k) (rest : Trees c),
      motive rest → motive (.cons admits child rest))
    (trees : Trees c) : motive trees := by
  rw [← ofList_toList trees]
  induction trees.toList with
  | nil => exact nil
  | cons n rest ih => exact cons n.2 n.1.tree _ ih

end Trees

def Entry.children {c : Class} : Entry (.sequence c) → List (Node.Of c)
  | .sequence children => children.toList

/-! ### Nodes -/

namespace Node

/-- Where the node stands in its document; nodes built by hand have no location. -/
def location? (n : Node) : Option Location := n.tree.location?

def isDefinition (n : Node) : Bool := n.kind.isDefinition

/-- The tree of a node that has kind `k`. -/
def as? (k : Kind) (n : Node) : Option (Tree k) :=
  if h : n.kind = k then some (h ▸ n.tree) else none

theorem as?_mk (k : Kind) (t : Tree k) : as? k ⟨k, t⟩ = some t := by simp [as?]

end Node

/-- The tree of a node that can only have kind `k`. -/
def Node.Of.tree {k : Kind} (n : Node.Of (.only k)) : Tree k :=
  have h : n.1.kind = k := n.2
  h ▸ n.1.tree

/-! ### Trees built by hand -/

/-- A name without a location. -/
def Tree.name (value : String) : Tree .name :=
  .node (.cons (.scalar (s := .text) value) .nil) none

/-- A reference to a named type, without locations. -/
def Tree.namedType (value : String) : Tree .namedType :=
  .node (.cons (.required rfl (.name value)) .nil) none

/-- The text of a name. -/
def Tree.text : Tree .name → String
  | .node (.cons (.scalar value) .nil) _ => value

end GraphQL
