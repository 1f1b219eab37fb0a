import GraphQL.Proofs.Reading

/-! What fragments have to look like, kind by kind.

`Kind.production` is written down for fragments, not for nodes, readers or writers:
the tag that a fragment of the kind has and what it has to have at each property. What
builds and what becomes of it in building are specified against this table, so that
it meets the builders' arms and the nodes' records only in `Kind.production_tag` and
`Kind.production_slots`, which compare the three row by row. -/
namespace GraphQL

/-- What a fragment has to have at a property. -/
inductive Requirement
  | text
  | numeral
  | boolean
  | flag
  | operation
  | child (c : Class)
  | childIfAny (c : Class)
  | children (c : Class)
deriving DecidableEq, Repr

namespace Requirement

def one (k : Kind) : Requirement := .child (.only k)
def oneIfAny (k : Kind) : Requirement := .childIfAny (.only k)
def many (k : Kind) : Requirement := .children (.only k)

/-- What stands at a property, if anything does, is what is required there, where
`Child` says which values are children of which kind. -/
inductive MetBy (Child : Kind → Json → Prop) : Requirement → Option Json → Prop
  | text (t : String) : MetBy Child .text (some (.string t))
  | literal (t : String) : MetBy Child .numeral (some (.string t))
  | number (n : Number) : MetBy Child .numeral (some (.number n))
  | boolean (b : Bool) : MetBy Child .boolean (some (.bool b))
  | flag (b : Bool) : MetBy Child .flag (some (.bool b))
  | noFlag : MetBy Child .flag none
  | query : MetBy Child .operation (some (.string "query"))
  | mutation : MetBy Child .operation (some (.string "mutation"))
  | subscription : MetBy Child .operation (some (.string "subscription"))
  | child {c : Class} {k : Kind} {v : Json} (admits : c.Admits k) (conforms : Child k v) :
      MetBy Child (.child c) (some v)
  | childIfAny {c : Class} {k : Kind} {v : Json} (admits : c.Admits k) (conforms : Child k v) :
      MetBy Child (.childIfAny c) (some v)
  | noChild {c : Class} : MetBy Child (.childIfAny c) none
  /-- Every item, null ones included, has to be a child. -/
  | children {c : Class} {items : List Json} (each : ∀ v ∈ items, MetBy Child (.child c) (some v)) :
      MetBy Child (.children c) (some (.array items))
  | noChildren {c : Class} : MetBy Child (.children c) none

end Requirement

structure Property where
  name : String
  requirement : Requirement
deriving DecidableEq, Repr

/-- A fragment's tag and what it has to have besides: its properties in order, the
location apart. -/
structure Production where
  tag : String
  properties : List Property
deriving DecidableEq, Repr

open Requirement in
def Kind.production : Kind → Production
  | .name => ⟨"Name", [⟨"value", text⟩]⟩
  | .document => ⟨"Document", [⟨"definitions", children .any⟩]⟩
  | .operationDefinition => ⟨"OperationDefinition",
    [⟨"operation", operation⟩, ⟨"name", oneIfAny .name⟩,
     ⟨"variableDefinitions", many .variableDefinition⟩, ⟨"directives", many .directive⟩,
     ⟨"selectionSet", one .selectionSet⟩]⟩
  | .variableDefinition => ⟨"VariableDefinition",
    [⟨"variable", one .variable⟩, ⟨"type", child .any⟩, ⟨"defaultValue", childIfAny .any⟩,
     ⟨"directives", many .directive⟩]⟩
  | .variable => ⟨"Variable", [⟨"name", one .name⟩]⟩
  | .selectionSet => ⟨"SelectionSet", [⟨"selections", children .any⟩]⟩
  | .field => ⟨"Field",
    [⟨"alias", oneIfAny .name⟩, ⟨"name", one .name⟩, ⟨"arguments", many .argument⟩,
     ⟨"directives", many .directive⟩, ⟨"selectionSet", oneIfAny .selectionSet⟩]⟩
  | .argument => ⟨"Argument", [⟨"name", one .name⟩, ⟨"value", child .any⟩]⟩
  | .fragmentSpread => ⟨"FragmentSpread", [⟨"name", one .name⟩, ⟨"directives", many .directive⟩]⟩
  | .inlineFragment => ⟨"InlineFragment",
    [⟨"typeCondition", oneIfAny .namedType⟩, ⟨"directives", many .directive⟩,
     ⟨"selectionSet", one .selectionSet⟩]⟩
  | .fragmentDefinition => ⟨"FragmentDefinition",
    [⟨"name", one .name⟩, ⟨"variableDefinitions", many .variableDefinition⟩,
     ⟨"typeCondition", one .namedType⟩, ⟨"directives", many .directive⟩,
     ⟨"selectionSet", one .selectionSet⟩]⟩
  | .intValue => ⟨"IntValue", [⟨"value", numeral⟩]⟩
  | .floatValue => ⟨"FloatValue", [⟨"value", numeral⟩]⟩
  | .stringValue => ⟨"StringValue", [⟨"value", text⟩, ⟨"block", flag⟩]⟩
  | .booleanValue => ⟨"BooleanValue", [⟨"value", boolean⟩]⟩
  | .nullValue => ⟨"NullValue", []⟩
  | .enumValue => ⟨"EnumValue", [⟨"value", text⟩]⟩
  | .listValue => ⟨"ListValue", [⟨"values", children .any⟩]⟩
  | .objectValue => ⟨"ObjectValue", [⟨"fields", many .objectField⟩]⟩
  | .objectField => ⟨"ObjectField", [⟨"name", one .name⟩, ⟨"value", child .any⟩]⟩
  | .directive => ⟨"Directive", [⟨"name", one .name⟩, ⟨"arguments", many .argument⟩]⟩
  | .namedType => ⟨"NamedType", [⟨"name", one .name⟩]⟩
  | .listType => ⟨"ListType", [⟨"type", child .any⟩]⟩
  | .nonNullType => ⟨"NonNullType", [⟨"type", child .any⟩]⟩
  | .schemaDefinition => ⟨"SchemaDefinition",
    [⟨"directives", many .directive⟩, ⟨"operationTypes", many .operationTypeDefinition⟩]⟩
  | .operationTypeDefinition => ⟨"OperationTypeDefinition",
    [⟨"operation", operation⟩, ⟨"type", one .namedType⟩]⟩
  | .scalarTypeDefinition => ⟨"ScalarTypeDefinition",
    [⟨"description", oneIfAny .stringValue⟩, ⟨"name", one .name⟩, ⟨"directives", many .directive⟩]⟩
  | .objectTypeDefinition => ⟨"ObjectTypeDefinition",
    [⟨"description", oneIfAny .stringValue⟩, ⟨"name", one .name⟩, ⟨"interfaces", many .namedType⟩,
     ⟨"directives", many .directive⟩, ⟨"fields", many .fieldDefinition⟩]⟩
  | .fieldDefinition => ⟨"FieldDefinition",
    [⟨"description", oneIfAny .stringValue⟩, ⟨"name", one .name⟩,
     ⟨"arguments", many .inputValueDefinition⟩, ⟨"type", child .any⟩,
     ⟨"directives", many .directive⟩]⟩
  | .inputValueDefinition => ⟨"InputValueDefinition",
    [⟨"description", oneIfAny .stringValue⟩, ⟨"name", one .name⟩, ⟨"type", child .any⟩,
     ⟨"defaultValue", childIfAny .any⟩, ⟨"directives", many .directive⟩]⟩
  | .interfaceTypeDefinition => ⟨"InterfaceTypeDefinition",
    [⟨"description", oneIfAny .stringValue⟩, ⟨"name", one .name⟩, ⟨"directives", many .directive⟩,
     ⟨"fields", many .fieldDefinition⟩]⟩
  | .unionTypeDefinition => ⟨"UnionTypeDefinition",
    [⟨"description", oneIfAny .stringValue⟩, ⟨"name", one .name⟩, ⟨"directives", many .directive⟩,
     ⟨"types", many .namedType⟩]⟩
  | .enumTypeDefinition => ⟨"EnumTypeDefinition",
    [⟨"description", oneIfAny .stringValue⟩, ⟨"name", one .name⟩, ⟨"directives", many .directive⟩,
     ⟨"values", many .enumValueDefinition⟩]⟩
  | .enumValueDefinition => ⟨"EnumValueDefinition",
    [⟨"description", oneIfAny .stringValue⟩, ⟨"name", one .name⟩, ⟨"directives", many .directive⟩]⟩
  | .inputObjectTypeDefinition => ⟨"InputObjectTypeDefinition",
    [⟨"description", oneIfAny .stringValue⟩, ⟨"name", one .name⟩, ⟨"directives", many .directive⟩,
     ⟨"fields", many .inputValueDefinition⟩]⟩
  | .directiveDefinition => ⟨"DirectiveDefinition",
    [⟨"description", oneIfAny .stringValue⟩, ⟨"name", one .name⟩,
     ⟨"arguments", many .inputValueDefinition⟩, ⟨"locations", many .name⟩]⟩
  | .schemaExtension => ⟨"SchemaExtension",
    [⟨"directives", many .directive⟩, ⟨"operationTypes", many .operationTypeDefinition⟩]⟩
  | .scalarTypeExtension => ⟨"ScalarTypeExtension",
    [⟨"name", one .name⟩, ⟨"directives", many .directive⟩]⟩
  | .objectTypeExtension => ⟨"ObjectTypeExtension",
    [⟨"name", one .name⟩, ⟨"interfaces", many .namedType⟩, ⟨"directives", many .directive⟩,
     ⟨"fields", many .fieldDefinition⟩]⟩
  | .interfaceTypeExtension => ⟨"InterfaceTypeExtension",
    [⟨"name", one .name⟩, ⟨"directives", many .directive⟩, ⟨"fields", many .fieldDefinition⟩]⟩
  | .unionTypeExtension => ⟨"UnionTypeExtension",
    [⟨"name", one .name⟩, ⟨"directives", many .directive⟩, ⟨"types", many .namedType⟩]⟩
  | .enumTypeExtension => ⟨"EnumTypeExtension",
    [⟨"name", one .name⟩, ⟨"directives", many .directive⟩, ⟨"values", many .enumValueDefinition⟩]⟩
  | .inputObjectTypeExtension => ⟨"InputObjectTypeExtension",
    [⟨"name", one .name⟩, ⟨"directives", many .directive⟩, ⟨"fields", many .inputValueDefinition⟩]⟩

/-! ### Productions and the grammar -/

/-- The shape of what a requirement asks for. -/
def Requirement.shape : Requirement → Shape
  | .text => .scalar .text
  | .numeral => .scalar .numeral
  | .boolean => .scalar .boolean
  | .flag => .scalar .flag
  | .operation => .scalar .operation
  | .child c => .required c
  | .childIfAny c => .optional c
  | .children c => .sequence c

def Property.slot (p : Property) : Slot := ⟨p.name, p.requirement.shape⟩

theorem Kind.production_tag (k : Kind) : k.production.tag = k.tag := by cases k <;> rfl

/-- **What is required of fragments is what nodes are made of**: the same properties in
the same order, each of the shape that a node holds there. -/
theorem Kind.production_slots (k : Kind) :
    k.production.properties.map Property.slot = grammar k := by cases k <;> rfl

/-- An operation's tag is one of three strings. -/
theorem Operation.metBy_tag {Child : Kind → Json → Prop} (o : Operation) :
    Requirement.MetBy Child .operation (some (.string o.tag)) := by
  cases o with
  | query => exact .query
  | mutation => exact .mutation
  | subscription => exact .subscription

section
variable {Child : Kind → Json → Prop} {r : Requirement} {value : Option Json}

/-- What is required at a property fills a slot of its shape. -/
theorem Requirement.MetBy.filled (h : r.MetBy Child value) : r.shape.Filled Child value := by
  cases h with
  | text t => exact .scalar (.text t)
  | literal t => exact .scalar (.literal t)
  | number n => exact .scalar (.number n)
  | boolean b => exact .scalar (.boolean b)
  | flag b => exact .scalar (.flag b)
  | noFlag => exact .scalar .unset
  | query => exact .scalar (.operation .query)
  | mutation => exact .scalar (.operation .mutation)
  | subscription => exact .scalar (.operation .subscription)
  | child admits conforms => exact .required admits conforms
  | childIfAny admits conforms => exact .present admits conforms
  | noChild => exact .absent
  | children each =>
    refine .items fun v hv => ?_
    cases each v hv with
    | child admits conforms => exact .required admits conforms
  | noChildren => exact .noItems

/-- What fills a slot is what is required of its shape. -/
theorem Requirement.metBy_of_filled (h : r.shape.Filled Child value) : r.MetBy Child value := by
  cases r with
  | text =>
    cases h with
    | scalar reads =>
      cases reads with
      | text => exact .text _
  | numeral =>
    cases h with
    | scalar reads =>
      cases reads with
      | literal => exact .literal _
      | number => exact .number _
  | boolean =>
    cases h with
    | scalar reads =>
      cases reads with
      | boolean => exact .boolean _
  | flag =>
    cases h with
    | scalar reads =>
      cases reads with
      | flag => exact .flag _
      | unset => exact .noFlag
  | operation =>
    cases h with
    | scalar reads =>
      cases reads with
      | operation => exact Operation.metBy_tag _
  | child c =>
    cases h with
    | required admits child => exact .child admits child
  | childIfAny c =>
    cases h with
    | absent => exact .noChild
    | present admits child => exact .childIfAny admits child
  | children c =>
    cases h with
    | noItems => exact .noChildren
    | items each =>
      refine .children fun v hv => ?_
      cases each v hv with
      | required admits child => exact .child admits child

end

/-- All that a production requires is there just where all slots of the grammar are
filled. -/
theorem Kind.properties_metBy_iff {Child : Kind → Json → Prop} {k : Kind} {v : Json} :
    (∀ p ∈ k.production.properties, p.requirement.MetBy Child (v.property? p.name)) ↔
      ∀ s ∈ grammar k, s.shape.Filled Child (v.property? s.property) := by
  rw [← k.production_slots, List.forall_mem_map]
  exact forall₂_congr fun p _ => ⟨fun h => h.filled, Requirement.metBy_of_filled⟩

end GraphQL
