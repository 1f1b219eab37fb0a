import GraphQL.Node.View
import GraphQL.Proofs.ChildKinds
import GraphQL.Proofs.RoundTrip

/-! Views of nodes that were built.

What a view sees of a node is a sequence of its children, and `View.property?` says which
property of its fragment that sequence was built from: of an object type the fields are
those at `fields` and the types those at `interfaces`. The children are what the items
there build to, one by one and in order (`childrenAt?_build`). A child has the name that its
item has (`name?_build`), so a look-up by name finds what the first item of that name
builds to, and the names are the items' names. -/
namespace GraphQL

/-! ### Which kinds have which view -/

/-- What the children of a node may be seen as. -/
inductive View
  | directives | fields | inputFields | types
deriving DecidableEq, Repr

namespace View

/-- The kind of all that a view sees. -/
def kind : View → Kind
  | .directives => .directive
  | .fields => .fieldDefinition
  | .inputFields => .inputValueDefinition
  | .types => .namedType

/-- The property that a view sees, of the kinds that have the view. -/
def property? : View → Kind → Option String
  | .directives, .operationDefinition | .directives, .variableDefinition | .directives, .field
  | .directives, .fragmentSpread | .directives, .inlineFragment | .directives, .fragmentDefinition
  | .directives, .schemaDefinition | .directives, .scalarTypeDefinition
  | .directives, .objectTypeDefinition | .directives, .fieldDefinition
  | .directives, .inputValueDefinition | .directives, .interfaceTypeDefinition
  | .directives, .unionTypeDefinition | .directives, .enumTypeDefinition
  | .directives, .enumValueDefinition | .directives, .inputObjectTypeDefinition
  | .directives, .schemaExtension | .directives, .scalarTypeExtension
  | .directives, .objectTypeExtension | .directives, .interfaceTypeExtension
  | .directives, .unionTypeExtension | .directives, .enumTypeExtension
  | .directives, .inputObjectTypeExtension => some "directives"
  | .fields, .objectTypeDefinition | .fields, .interfaceTypeDefinition
  | .fields, .objectTypeExtension | .fields, .interfaceTypeExtension
  | .inputFields, .inputObjectTypeDefinition | .inputFields, .inputObjectTypeExtension =>
    some "fields"
  | .types, .unionTypeDefinition | .types, .unionTypeExtension => some "types"
  | .types, .objectTypeDefinition | .types, .objectTypeExtension => some "interfaces"
  | _, _ => none

/-- The slots that a view looks for, the first of which counts. -/
def slots : View → List Slot
  | .directives => [.directives]
  | .fields => [.fields]
  | .inputFields => [.inputFields]
  | .types => [.members, .interfaces]

theorem property?_eq (w : View) (k : Kind) :
    w.property? k = (w.slots.find? (grammar k).contains).map (·.property) := by
  cases w <;> cases k <;> rfl

/-- The kinds that have a view have a slot for what it sees. -/
theorem mem_grammar {w : View} {k : Kind} {property : String}
    (h : w.property? k = some property) : .sequence property w.kind ∈ grammar k := by
  rw [property?_eq, Option.map_eq_some_iff] at h
  obtain ⟨s, hs, rfl⟩ := h
  have hslot : ∀ s ∈ w.slots, .sequence s.property w.kind = s := by cases w <;> decide
  rw [hslot s (List.mem_of_find?_eq_some hs)]
  exact List.contains_iff_mem.mp (List.find?_some hs)

/-- All that is seen has a name. -/
theorem name_mem_grammar (w : View) : .name ∈ grammar w.kind := by cases w <;> decide

end View

namespace Tree

variable {k : Kind} (t : Tree k)

/-- What a tree is seen as. -/
def view? : (w : View) → Option (List (Tree w.kind))
  | .directives => t.directives?
  | .fields => t.fields?
  | .inputFields => t.inputFields?
  | .types => t.types?

theorem childrenAt?_isSome (property : String) (j : Kind) :
    (t.childrenAt? property j).isSome = (grammar k).contains (.sequence property j) :=
  Option.isSome_map.trans (t.get?_isSome _)

theorem childrenAt?_eq_none {property : String} {j : Kind}
    (h : (grammar k).contains (.sequence property j) = false) :
    t.childrenAt? property j = none := by
  rw [← Option.not_isSome_iff_eq_none, childrenAt?_isSome, h]
  exact Bool.false_ne_true

/-- A view sees the children at its property. -/
theorem view?_eq (w : View) :
    t.view? w = (w.property? k).bind fun property => t.childrenAt? property w.kind := by
  have hone {s : Slot} {property : String} {j : Kind} (hs : .sequence property j = s) :
      t.childrenAt? property j =
        (([s].find? (grammar k).contains).map (·.property)).bind fun p => t.childrenAt? p j := by
    subst hs
    cases h : (grammar k).contains (.sequence property j) with
    | false =>
      rw [t.childrenAt?_eq_none h, List.find?_cons, h]
      rfl
    | true =>
      rw [List.find?_cons, h]
      rfl
  rw [View.property?_eq]
  cases w with
  | directives => exact hone rfl
  | fields => exact hone rfl
  | inputFields => exact hone rfl
  | types =>
    show (t.childrenAt? "types" .namedType).or (t.childrenAt? "interfaces" .namedType) = _
    cases h : (grammar k).contains .members with
    | false =>
      rw [t.childrenAt?_eq_none h, Option.none_or, View.slots, List.find?_cons, h]
      exact hone rfl
    | true =>
      obtain ⟨ts, hts⟩ := Option.isSome_iff_exists.mp ((t.childrenAt?_isSome _ _).trans h)
      rw [hts, Option.some_or, View.slots, List.find?_cons, h]
      exact hts.symm

end Tree

/-! ### What views see of built nodes -/

/-- The items of the array that stands at a property, if one does. -/
def Json.itemsAt (v : Json) (property : String) : List Json :=
  match v.property? property with
  | some (.array items) => items
  | _ => []

/-- The text of a fragment's name. -/
def Json.nameText? (v : Json) : Option String :=
  match (v.property? "name").bind (·.property? "value") with
  | some (.string x) => some x
  | _ => none

theorem Entries.Each.get? {P : (s : Slot) → Entry s.shape → Prop} {slots : List Slot}
    {es : Entries slots} (h : es.Each P) {s : Slot} (hs : s ∈ slots) :
    ∃ e, es.get? s = some e ∧ P s e := by
  induction slots with
  | nil => cases hs
  | cons t rest ih =>
    cases es with
    | cons e es =>
      by_cases ht : t = s
      · subst ht
        exact ⟨e, dif_pos rfl, h.1⟩
      · obtain ⟨a, ha, hP⟩ := ih h.2 ((List.mem_cons.mp hs).resolve_left (Ne.symm ht))
        exact ⟨a, (dif_neg ht).trans ha, hP⟩

namespace Context

variable {cx : Context} {v : Json} {k j : Kind} {t : Tree k}

/-- What stands at a slot of a fragment that builds is what the tree has there, and what is
written for the tree. -/
theorem get?_build (h : cx.build v = .ok ⟨k, t⟩) {s : Slot} (hs : s ∈ grammar k) :
    ∃ e, t.get? s = some e ∧ cx.Fills (v.property? s.property) e ∧
      t.toJson.property? s.property = e.json? := by
  obtain ⟨es, l⟩ := t
  obtain ⟨-, -, hfills, -⟩ := cx.build_eq_ok.mp h
  obtain ⟨e, he, hfill⟩ := Entries.Each.get? hfills hs
  obtain ⟨e', he', hjson⟩ := Entries.Each.get? (Tree.property?_toJson es l) hs
  cases he.symm.trans he'
  exact ⟨e, he, hfill, hjson⟩

/-- A built name has the text that its fragment has. -/
theorem property?_value_of_build : {t : Tree .name} → cx.build v = .ok ⟨.name, t⟩ →
    v.property? "value" = some (.string t.text)
  | .node (.cons (.scalar x) .nil) l, h => by
    obtain ⟨-, -, ⟨hfill, -⟩, -⟩ := cx.build_eq_ok.mp h
    change cx.Fills (v.property? "value") (.scalar (s := .text) x) at hfill
    generalize v.property? "value" = value at hfill ⊢
    cases hfill with
    | scalar reads =>
      cases reads
      rfl

/-- A built tree has the name that its fragment has. -/
theorem name?_build (h : cx.build v = .ok ⟨k, t⟩) (hk : .name ∈ grammar k) :
    t.name?.map Tree.text = v.nameText? ∧ v.nameText?.isSome := by
  obtain ⟨e, he, hfill, -⟩ := get?_build h hk
  have hname : t.name? = some (Entry.child (c := .only .name) e).tree :=
    congrArg (Option.map fun e : Entry (.required (.only .name)) => e.child.tree) he
  change @Fills cx (.required (.only .name)) _ e at hfill
  generalize hvalue : v.property? Slot.name.property = value at hfill
  cases hfill with
  | @required _ j w name admits built =>
    obtain rfl : j = .name := admits
    have hproperty : v.property? "name" = some w := hvalue
    have htext : v.nameText? = some name.text := by
      unfold Json.nameText?
      rw [hproperty, Option.bind_some, property?_value_of_build built]
    rw [htext, hname]
    exact ⟨rfl, rfl⟩

/-- The children in a slot for sequences are what the items there build to, and are written
in their order. -/
theorem childrenAt?_build (h : cx.build v = .ok ⟨k, t⟩) {property : String}
    (hslot : .sequence property j ∈ grammar k) : ∃ ts, t.childrenAt? property j = some ts ∧
      (v.property? property = none ∨ ∃ items, v.property? property = some (.array items)) ∧
      List.Forall₂ (fun c u => cx.build c = .ok ⟨j, u⟩) (v.itemsAt property) ts ∧
      t.toJson.property? property = some (.array (ts.map Tree.toJson)) := by
  obtain ⟨e, he, hfill, hjson⟩ := get?_build h hslot
  change @Fills cx (.sequence (.only j)) (v.property? property) e at hfill
  have hts : t.childrenAt? property j = some ((Entry.children (c := .only j) e).map Node.Of.tree) :=
    congrArg (Option.map fun e : Entry (.sequence (.only j)) => e.children.map Node.Of.tree) he
  refine ⟨_, hts, ?_⟩
  unfold Json.itemsAt
  generalize v.property? property = value at hfill ⊢
  cases hfill with
  | noItems => exact ⟨.inl rfl, .nil, hjson⟩
  | @items _ items children built =>
    refine ⟨.inr ⟨items, rfl⟩, ?_, ?_⟩
    · refine List.forall₂_map_right_iff.mpr (built.imp fun c n hn => ?_)
      rw [Node.mk_tree, hn]
    · have htree (n : Node.Of (.only j)) : n.1.toJson = n.tree.toJson := by
        rw [← Node.mk_tree n]
        rfl
      refine hjson.trans (congrArg (fun vs => some (Json.array vs)) ?_)
      rw [children.toJsons_eq_map, List.map_map]
      exact List.map_congr_left fun n _ => htree n

end Context

/-! ### Looking up by name -/

/-- In two lists whose items are related one by one, the first items found are related. -/
theorem rel_find? {α β : Type} {R : α → β → Prop} {p : α → Bool} {q : β → Bool} {as : List α}
    {bs : List β} (h : List.Forall₂ R as bs) (hpq : ∀ a b, R a b → p a = q b) :
    Option.Rel R (as.find? p) (bs.find? q) := by
  induction h with
  | nil => exact .none
  | @cons a b as bs hab _ ih =>
    rw [List.find?_cons, List.find?_cons, hpq a b hab]
    cases q b with
    | true => exact .some hab
    | false => exact ih

section
variable {cx : Context} {j : Kind} {items : List Json} {ts : List (Tree j)}
  (h : List.Forall₂ (fun c t => cx.build c = .ok ⟨j, t⟩) items ts) (hj : .name ∈ grammar j)
include h hj

/-- A look-up finds what the first item of the name builds to, and nothing if there is none. -/
theorem Context.find?_build (x : String) :
    Option.Rel (fun c t => cx.build c = .ok ⟨j, t⟩) (items.find? (·.nameText? == some x))
      (Tree.find? ts x) := by
  refine rel_find? h fun c t ht => ?_
  rw [← (name?_build ht hj).1]
  cases t.name? <;> rfl

/-- The names seen are those of the items, in order and with repetitions. -/
theorem Context.names_build : (Tree.names ts).map some = items.map Json.nameText? := by
  induction h with
  | nil => rfl
  | @cons c t _ _ ht _ ih =>
    obtain ⟨hname, hsome⟩ := name?_build ht hj
    obtain ⟨x, hx⟩ := Option.isSome_iff_exists.mp hsome
    rw [hx] at hname
    rw [Tree.names, List.filterMap_cons, hname, List.map_cons, List.map_cons, hx]
    exact congrArg _ ih

end

/-- What is seen at a property of a node that was built from a value. -/
structure Sees (source : Source) (v : Json) (n : Node) (property : String) {j : Kind}
    (ts : List (Tree j)) : Prop where
  /-- Nothing but an array can stand there. -/
  array : v.property? property = none ∨ ∃ items, v.property? property = some (.array items)
  /-- What the items build to, in order. -/
  built : List.Forall₂ (fun c t => Node.ofJson source c = .ok ⟨j, t⟩) (v.itemsAt property) ts
  /-- What the first item of a name builds to, if there is one. -/
  found : ∀ x, Option.Rel (fun c t => Node.ofJson source c = .ok ⟨j, t⟩)
    ((v.itemsAt property).find? (·.nameText? == some x)) (Tree.find? ts x)
  names : (Tree.names ts).map some = (v.itemsAt property).map Json.nameText?
  written : n.toJson.member? property = some (.array (ts.map Tree.toJson))

/-- **Views see the node that was built**: of each kind that has a view, what the array at
the view's property builds to, name by name and as it is written; of any other kind,
nothing. -/
theorem view?_ofJson {source : Source} {v : Json} {n : Node} (h : Node.ofJson source v = .ok n)
    (w : View) :
    (∀ property, w.property? n.kind = some property →
        ∃ ts, n.tree.view? w = some ts ∧ Sees source v n property ts) ∧
      (w.property? n.kind = none → n.tree.view? w = none) := by
  constructor
  · intro property hproperty
    have hslot := View.mem_grammar hproperty
    obtain ⟨ts, hts, harray, hbuilt, hwritten⟩ := Context.childrenAt?_build h hslot
    have hview : n.tree.view? w = some ts := by rw [Tree.view?_eq, hproperty, Option.bind_some, hts]
    have hname := w.name_mem_grammar
    exact ⟨ts, hview, harray, hbuilt, Context.find?_build hbuilt hname,
      Context.names_build hbuilt hname, (Json.property?_eq_some.mp hwritten).1⟩
  · intro hproperty
    rw [Tree.view?_eq, hproperty, Option.bind_none]

/-- An object type with an interface and two fields of one name. -/
theorem view?_ofJson_repeatedField :
    let named (x : String) : Json := .object [("kind", .string "Name"), ("value", .string x)]
    let type (x : String) : Json := .object [("kind", .string "NamedType"), ("name", named x)]
    let field (x y : String) : Json :=
      .object [("kind", .string "FieldDefinition"), ("type", type y), ("name", named x)]
    let v : Json := .object [("kind", .string "ObjectTypeDefinition"), ("name", named "T"),
      ("interfaces", .array [type "I"]), ("directives", .null),
      ("fields", .array [field "a" "Int", field "b" "Int", field "a" "Boolean"])]
    let source : Source := .ofBody "type T implements I { a: Int b: Int a: Boolean }"
    ∃ n, Node.ofJson source v = .ok n ∧
      (∃ ts, n.tree.view? .fields = some ts ∧ Sees source v n "fields" ts ∧
        (Tree.names ts).map some = [some "a", some "b", some "a"]) ∧
      (∃ ts, n.tree.view? .types = some ts ∧ Sees source v n "interfaces" ts) ∧
      n.tree.view? .inputFields = none := by
  intro named type field v source
  obtain ⟨n, h, hkind⟩ : ∃ n, Node.ofJson source v = .ok n ∧ n.kind = .objectTypeDefinition :=
    ⟨_, rfl, rfl⟩
  have hproperty (w : View) : w.property? n.kind = w.property? .objectTypeDefinition := by
    rw [hkind]
  obtain ⟨fields, hfields, hsees⟩ := (view?_ofJson h .fields).1 "fields" (hproperty .fields)
  refine ⟨n, h, ⟨fields, hfields, hsees, hsees.names.trans (by decide)⟩, ?_, ?_⟩
  · exact (view?_ofJson h .types).1 "interfaces" (hproperty .types)
  · exact (view?_ofJson h .inputFields).2 (hproperty .inputFields)

end GraphQL
