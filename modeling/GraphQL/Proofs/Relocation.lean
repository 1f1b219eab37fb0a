import GraphQL.Node

/-! The locations of a tree, and trees that differ in nothing else.

`relocate` passes every location of a tree, at any depth, through a function that
may drop it. A tree without locations (`Node.bare`) and a tree moved to another
document (`Location.over`) are both made this way, and a function that keeps every
location of a tree keeps the tree (`Tree.relocate_eq_self`). -/
namespace GraphQL

mutual
/-- The locations in a tree, its own first. -/
def Tree.locations : {k : Kind} → Tree k → List Location
  | _, .node entries location => location.toList ++ entries.locations
termination_by structural _ t => t

def Entries.locations : {slots : List Slot} → Entries slots → List Location
  | _, .nil => []
  | _, .cons entry rest => entry.locations ++ rest.locations
termination_by structural _ es => es

def Entry.locations : {shape : Shape} → Entry shape → List Location
  | _, .scalar _ => []
  | _, .required _ child => child.locations
  | _, .absent => []
  | _, .present _ child => child.locations
  | _, .sequence children => children.locations
termination_by structural _ e => e

def Trees.locations : {c : Class} → Trees c → List Location
  | _, .nil => []
  | _, .cons _ child rest => child.locations ++ rest.locations
termination_by structural _ ts => ts
end

section
variable (f : Location → Option Location)

mutual
/-- The tree with every location replaced by what the function makes of it. -/
def Tree.relocate : {k : Kind} → Tree k → Tree k
  | _, .node entries location => .node entries.relocate (location.bind f)
termination_by structural _ t => t

def Entries.relocate : {slots : List Slot} → Entries slots → Entries slots
  | _, .nil => .nil
  | _, .cons entry rest => .cons entry.relocate rest.relocate
termination_by structural _ es => es

def Entry.relocate : {shape : Shape} → Entry shape → Entry shape
  | _, .scalar value => .scalar value
  | _, .required admits child => .required admits child.relocate
  | _, .absent => .absent
  | _, .present admits child => .present admits child.relocate
  | _, .sequence children => .sequence children.relocate
termination_by structural _ e => e

def Trees.relocate : {c : Class} → Trees c → Trees c
  | _, .nil => .nil
  | _, .cons admits child rest => .cons admits child.relocate rest.relocate
termination_by structural _ ts => ts
end

end

namespace Node

def locations (n : Node) : List Location := n.tree.locations

def relocate (f : Location → Option Location) (n : Node) : Node := ⟨n.kind, n.tree.relocate f⟩

/-- The node with every location in it removed. -/
def bare (n : Node) : Node := n.relocate fun _ => none

theorem Of.admits_relocate (f : Location → Option Location) {c : Class} (n : Node.Of c) :
    c.Admits (n.1.relocate f).kind := n.2

def Of.relocate (f : Location → Option Location) {c : Class} (n : Node.Of c) : Node.Of c :=
  ⟨n.1.relocate f, n.admits_relocate f⟩

end Node

/-- The same span of another document. -/
def Location.over (source : Source) (l : Location) : Location := { l with source := source }

theorem Trees.toList_relocate (f : Location → Option Location) {c : Class} (ts : Trees c) :
    (ts.relocate f).toList = ts.toList.map (Node.Of.relocate f) := by
  induction ts using Trees.listInduction with
  | nil => rfl
  | cons _ _ rest ih => exact congrArg (_ :: ·) ih

theorem Trees.ofList_relocate (f : Location → Option Location) {c : Class} (nodes : List (Node.Of c)) :
    Trees.ofList (nodes.map (Node.Of.relocate f)) = (Trees.ofList nodes).relocate f := by
  induction nodes with
  | nil => rfl
  | cons n rest ih => exact congrArg (Trees.cons n.2 (n.1.tree.relocate f)) ih

section
variable {f : Location → Option Location}

/-! ### The locations that are left -/

mutual
theorem Tree.locations_relocate : {k : Kind} → (t : Tree k) →
    (t.relocate f).locations = t.locations.filterMap f
  | _, .node entries location => by
    have hlocation : (location.bind f).toList = location.toList.filterMap f := by
      cases location with
      | none => rfl
      | some l => cases h : f l <;> simp [h]
    rw [Tree.relocate, Tree.locations, Tree.locations, hlocation, entries.locations_relocate,
      List.filterMap_append]

theorem Entries.locations_relocate : {slots : List Slot} → (es : Entries slots) →
    (es.relocate f).locations = es.locations.filterMap f
  | _, .nil => rfl
  | _, .cons entry rest => by
    rw [Entries.relocate, Entries.locations, Entries.locations, entry.locations_relocate,
      rest.locations_relocate, List.filterMap_append]

theorem Entry.locations_relocate : {shape : Shape} → (e : Entry shape) →
    (e.relocate f).locations = e.locations.filterMap f
  | _, .scalar _ => rfl
  | _, .required _ child => child.locations_relocate
  | _, .absent => rfl
  | _, .present _ child => child.locations_relocate
  | _, .sequence children => children.locations_relocate

theorem Trees.locations_relocate : {c : Class} → (ts : Trees c) →
    (ts.relocate f).locations = ts.locations.filterMap f
  | _, .nil => rfl
  | _, .cons _ child rest => by
    rw [Trees.relocate, Trees.locations, Trees.locations, child.locations_relocate,
      rest.locations_relocate, List.filterMap_append]
end

theorem Node.locations_bare (n : Node) : n.bare.locations = [] := by
  have h : n.bare.locations = n.locations.filterMap fun _ => none := n.tree.locations_relocate
  exact h.trans (List.filterMap_eq_nil_iff.mpr fun _ _ => rfl)

/-! ### Keeping every location -/

mutual
theorem Tree.relocate_eq_self : {k : Kind} → (t : Tree k) → (∀ l ∈ t.locations, f l = some l) →
    t.relocate f = t
  | _, .node entries location, h => by
    have hlocation : location.bind f = location := by
      cases location with
      | none => rfl
      | some l => exact h l (List.mem_append_left _ (List.mem_singleton_self l))
    rw [Tree.relocate, hlocation,
      entries.relocate_eq_self fun l hl => h l (List.mem_append_right _ hl)]

theorem Entries.relocate_eq_self : {slots : List Slot} → (es : Entries slots) →
    (∀ l ∈ es.locations, f l = some l) → es.relocate f = es
  | _, .nil, _ => rfl
  | _, .cons entry rest, h => by
    rw [Entries.relocate, entry.relocate_eq_self fun l hl => h l (List.mem_append_left _ hl),
      rest.relocate_eq_self fun l hl => h l (List.mem_append_right _ hl)]

theorem Entry.relocate_eq_self : {shape : Shape} → (e : Entry shape) →
    (∀ l ∈ e.locations, f l = some l) → e.relocate f = e
  | _, .scalar _, _ => rfl
  | _, .required _ child, h => by rw [Entry.relocate, child.relocate_eq_self h]
  | _, .absent, _ => rfl
  | _, .present _ child, h => by rw [Entry.relocate, child.relocate_eq_self h]
  | _, .sequence children, h => by rw [Entry.relocate, children.relocate_eq_self h]

theorem Trees.relocate_eq_self : {c : Class} → (ts : Trees c) →
    (∀ l ∈ ts.locations, f l = some l) → ts.relocate f = ts
  | _, .nil, _ => rfl
  | _, .cons _ child rest, h => by
    rw [Trees.relocate, child.relocate_eq_self fun l hl => h l (List.mem_append_left _ hl),
      rest.relocate_eq_self fun l hl => h l (List.mem_append_right _ hl)]
end

end

/-- Keeping every location keeps the node. -/
theorem Node.relocate_some (n : Node) : n.relocate some = n :=
  congrArg (Node.mk n.kind) (n.tree.relocate_eq_self fun _ _ => rfl)

end GraphQL
