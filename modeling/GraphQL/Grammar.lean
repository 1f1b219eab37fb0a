import GraphQL.Kind

/-! The grammar table: what a node of each kind is made of.

A production is a list of slots, in the order in which a node declares them. A slot
is a property and the shape of what it holds: one scalar, one child that must or
may be there, or a sequence of children. A class says which kinds a child may have.
The location that every node may carry is not a slot.

What the builders read and what a node is written as are tables of their own
(`Area.arm?` and `Kind.record`), which have to agree with this one
(`Area.slots_eq_grammar` and `Kind.record_eq`). -/
namespace GraphQL

/-- The operation types a document or a schema has roots for. -/
inductive Operation
  | query | mutation | subscription
deriving DecidableEq, Repr

namespace Operation

def tag : Operation → String
  | .query => "query"
  | .mutation => "mutation"
  | .subscription => "subscription"

def ofTag? : String → Option Operation
  | "query" => some .query
  | "mutation" => some .mutation
  | "subscription" => some .subscription
  | _ => none

theorem ofTag?_tag (o : Operation) : ofTag? o.tag = some o := by cases o <;> rfl

theorem tag_of_ofTag? {tag : String} {o : Operation} (h : ofTag? tag = some o) : o.tag = tag := by
  unfold ofTag? at h
  split at h <;> cases h <;> rfl

end Operation

/-- Which kinds a child may have. -/
inductive Class
  | any
  | only (kind : Kind)
deriving DecidableEq, Repr

namespace Class

def Admits : Class → Kind → Prop
  | .any, _ => True
  | .only k, j => j = k

instance : (c : Class) → (k : Kind) → Decidable (c.Admits k)
  | .any, _ => isTrue trivial
  | .only k, j => inferInstanceAs (Decidable (j = k))

end Class

/-- The scalars a property may hold. -/
inductive Scalar
  /-- A string. -/
  | text
  /-- A numeric literal: a string, or a number that is kept as its text. -/
  | numeral
  /-- A boolean that must be there. -/
  | boolean
  /-- A boolean that is false where it is left out. -/
  | flag
  /-- The tag of an operation type. -/
  | operation
deriving DecidableEq, Repr

/-- What a node keeps of a scalar. -/
def Scalar.Value : Scalar → Type
  | .text | .numeral => String
  | .boolean | .flag => Bool
  | .operation => Operation

inductive Shape
  | scalar (s : Scalar)
  | required (c : Class)
  | optional (c : Class)
  | sequence (c : Class)
deriving DecidableEq, Repr

structure Slot where
  property : String
  shape : Shape
deriving DecidableEq, Repr

/-! ### Slots that several productions share -/

namespace Slot

def required (property : String) (k : Kind) : Slot := ⟨property, .required (.only k)⟩
def optional (property : String) (k : Kind) : Slot := ⟨property, .optional (.only k)⟩
def sequence (property : String) (k : Kind) : Slot := ⟨property, .sequence (.only k)⟩

def value (s : Scalar) : Slot := ⟨"value", .scalar s⟩
def operation : Slot := ⟨"operation", .scalar .operation⟩
def name : Slot := required "name" .name
def responseAlias : Slot := optional "alias" .name
def description : Slot := optional "description" .stringValue
def directives : Slot := sequence "directives" .directive
def arguments : Slot := sequence "arguments" .argument
def inputs : Slot := sequence "arguments" .inputValueDefinition
def variableDefinitions : Slot := sequence "variableDefinitions" .variableDefinition
def selectionSet : Slot := required "selectionSet" .selectionSet
def fields : Slot := sequence "fields" .fieldDefinition
def inputFields : Slot := sequence "fields" .inputValueDefinition
def interfaces : Slot := sequence "interfaces" .namedType
def members : Slot := sequence "types" .namedType
def enumValues : Slot := sequence "values" .enumValueDefinition
def operationTypes : Slot := sequence "operationTypes" .operationTypeDefinition
def anyType : Slot := ⟨"type", .required .any⟩
def anyValue : Slot := ⟨"value", .required .any⟩
def defaultValue : Slot := ⟨"defaultValue", .optional .any⟩

end Slot

open Slot in
/-- The production of each kind. -/
def grammar : Kind → List Slot
  | .name => [value .text]
  | .document => [⟨"definitions", .sequence .any⟩]
  | .operationDefinition =>
    [operation, optional "name" .name, variableDefinitions, directives, selectionSet]
  | .variableDefinition => [required "variable" .variable, anyType, defaultValue, directives]
  | .variable => [name]
  | .selectionSet => [⟨"selections", .sequence .any⟩]
  | .field => [responseAlias, name, arguments, directives, optional "selectionSet" .selectionSet]
  | .argument => [name, anyValue]
  | .fragmentSpread => [name, directives]
  | .inlineFragment => [optional "typeCondition" .namedType, directives, selectionSet]
  | .fragmentDefinition =>
    [name, variableDefinitions, required "typeCondition" .namedType, directives, selectionSet]
  | .intValue | .floatValue => [value .numeral]
  | .stringValue => [value .text, ⟨"block", .scalar .flag⟩]
  | .booleanValue => [value .boolean]
  | .nullValue => []
  | .enumValue => [value .text]
  | .listValue => [⟨"values", .sequence .any⟩]
  | .objectValue => [sequence "fields" .objectField]
  | .objectField => [name, anyValue]
  | .directive => [name, arguments]
  | .namedType => [name]
  | .listType | .nonNullType => [anyType]
  | .schemaDefinition => [directives, operationTypes]
  | .operationTypeDefinition => [operation, required "type" .namedType]
  | .scalarTypeDefinition => [description, name, directives]
  | .objectTypeDefinition => [description, name, interfaces, directives, fields]
  | .fieldDefinition => [description, name, inputs, anyType, directives]
  | .inputValueDefinition => [description, name, anyType, defaultValue, directives]
  | .interfaceTypeDefinition => [description, name, directives, fields]
  | .unionTypeDefinition => [description, name, directives, members]
  | .enumTypeDefinition => [description, name, directives, enumValues]
  | .enumValueDefinition => [description, name, directives]
  | .inputObjectTypeDefinition => [description, name, directives, inputFields]
  | .directiveDefinition => [description, name, inputs, sequence "locations" .name]
  | .schemaExtension => [directives, operationTypes]
  | .scalarTypeExtension => [name, directives]
  | .objectTypeExtension => [name, interfaces, directives, fields]
  | .interfaceTypeExtension => [name, directives, fields]
  | .unionTypeExtension => [name, directives, members]
  | .enumTypeExtension => [name, directives, enumValues]
  | .inputObjectTypeExtension => [name, directives, inputFields]

/-! ### Properties of the table -/

/-- The property that names a fragment's kind. -/
def kindProperty : String := "kind"

/-- The property that holds a node's location. -/
def locationProperty : String := "loc"

/-- No production names a property twice, and none names the kind or the location. -/
theorem grammar_properties_nodup (k : Kind) :
    (kindProperty :: locationProperty :: (grammar k).map (·.property)).Nodup := by
  cases k <;> decide

theorem location_not_mem_properties (k : Kind) :
    locationProperty ∉ (grammar k).map (·.property) :=
  (List.nodup_cons.mp (List.nodup_cons.mp (grammar_properties_nodup k)).2).1

theorem grammar_property_ne {k : Kind} {s : Slot} (hs : s ∈ grammar k) :
    s.property ≠ kindProperty ∧ s.property ≠ locationProperty := by
  have hmem : s.property ∈ (grammar k).map (·.property) := List.mem_map_of_mem hs
  have hkind := (List.nodup_cons.mp (grammar_properties_nodup k)).1
  constructor
  · intro h
    apply hkind
    rw [← h]
    exact List.mem_cons_of_mem _ hmem
  · intro h
    apply location_not_mem_properties k
    rw [← h]
    exact hmem

end GraphQL
