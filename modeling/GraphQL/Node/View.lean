import GraphQL.Node
import GraphQL.Node.Json

/-! Views: what nodes of different kinds have in common.

A kind has a view when its production has the view's slot, so whether a tree has a
name, a description, directives, fields or types is read off the grammar table.
Views of kinds without the slot are none. -/
namespace GraphQL

theorem Entries.get?_isSome (s : Slot) : {slots : List Slot} → (entries : Entries slots) →
    (entries.get? s).isSome = slots.contains s
  | _, .nil => rfl
  | t :: _, .cons entry rest => by
    unfold Entries.get?
    by_cases h : t = s
    · subst h
      simp
    · have h' : (s == t) = false := beq_eq_false_iff_ne.mpr (Ne.symm h)
      simp only [h, ↓reduceDIte, List.contains_cons, h', Bool.false_or]
      exact get?_isSome s rest

namespace Tree

/-- A tree has the entries that its production has slots for. -/
theorem get?_isSome {k : Kind} (t : Tree k) (s : Slot) :
    (t.get? s).isSome = (grammar k).contains s := Entries.get?_isSome s t.entries

/-! ### Names and descriptions -/

/-- The name, of kinds that always have one. -/
def name? {k : Kind} (t : Tree k) : Option (Tree .name) :=
  (t.get? .name).map fun (e : Entry (.required (.only .name))) => e.child.tree

/-- The description, if any, of kinds that may have one. -/
def description? {k : Kind} (t : Tree k) : Option (Option (Tree .stringValue)) :=
  (t.get? .description).map fun (e : Entry (.optional (.only .stringValue))) =>
    e.child?.map Node.Of.tree

/-- The characters of a string literal. -/
def content : Tree .stringValue → String
  | .node (.cons (.scalar value) _) _ => value

/-- The name under which a field's value is written in a response: its alias, or
else its own. -/
def responseKey : Tree .field → String
  | .node (.cons responseAlias (.cons name _)) _ =>
    let responseAlias : Entry (.optional (.only .name)) := responseAlias
    let name : Entry (.required (.only .name)) := name
    (responseAlias.child?.getD name.child).tree.text

/-! ### Sequences -/

/-- The children in a slot for sequences of kind `j`. -/
def childrenAt? {k : Kind} (t : Tree k) (property : String) (j : Kind) : Option (List (Tree j)) :=
  (t.get? (.sequence property j)).map fun (e : Entry (.sequence (.only j))) =>
    e.children.map Node.Of.tree

def directives? {k : Kind} (t : Tree k) : Option (List (Tree .directive)) :=
  t.childrenAt? "directives" .directive

/-- The fields of objects and interfaces. -/
def fields? {k : Kind} (t : Tree k) : Option (List (Tree .fieldDefinition)) :=
  t.childrenAt? "fields" .fieldDefinition

/-- The fields of input objects. -/
def inputFields? {k : Kind} (t : Tree k) : Option (List (Tree .inputValueDefinition)) :=
  t.childrenAt? "fields" .inputValueDefinition

/-- The members of unions, and the interfaces of objects. -/
def types? {k : Kind} (t : Tree k) : Option (List (Tree .namedType)) :=
  (t.childrenAt? "types" .namedType).or (t.childrenAt? "interfaces" .namedType)

/-- The first of some trees with a name. -/
def find? {k : Kind} (trees : List (Tree k)) (name : String) : Option (Tree k) :=
  trees.find? fun t => t.name?.any (·.text == name)

/-- The names of some trees, in order. -/
def names {k : Kind} (trees : List (Tree k)) : List String :=
  trees.filterMap fun t => t.name?.map text

/-! ### Type references -/

/-- The type inside a list type or a non-null type. -/
def wrapped? : {k : Kind} → Tree k → Option Node
  | .listType, .node (.cons (.required _ child) .nil) _ => some ⟨_, child⟩
  | .nonNullType, .node (.cons (.required _ child) .nil) _ => some ⟨_, child⟩
  | _, _ => none

/-- The named type inside any number of list and non-null types, if they end in one. -/
def named? : {k : Kind} → Tree k → Option (Tree .namedType)
  | .namedType, t => some t
  | .listType, .node (.cons (.required _ child) .nil) _ => child.named?
  | .nonNullType, .node (.cons (.required _ child) .nil) _ => child.named?
  | _, _ => none
termination_by structural _ t => t

end Tree

end GraphQL
