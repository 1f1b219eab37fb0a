/-! The kinds of syntax nodes.

A kind is one production of the grammar. Its tag names it in fragments and in
serialized nodes. The order of declaration is the order of `Kind.all`. -/
namespace GraphQL

inductive Kind
  | name | document | operationDefinition | variableDefinition | variable | selectionSet | field
  | argument | fragmentSpread | inlineFragment | fragmentDefinition
  | intValue | floatValue | stringValue | booleanValue | nullValue | enumValue | listValue
  | objectValue | objectField | directive
  | namedType | listType | nonNullType
  | schemaDefinition | operationTypeDefinition | scalarTypeDefinition | objectTypeDefinition
  | fieldDefinition | inputValueDefinition | interfaceTypeDefinition | unionTypeDefinition
  | enumTypeDefinition | enumValueDefinition | inputObjectTypeDefinition | directiveDefinition
  | schemaExtension | scalarTypeExtension | objectTypeExtension | interfaceTypeExtension
  | unionTypeExtension | enumTypeExtension | inputObjectTypeExtension
deriving DecidableEq, Repr

namespace Kind

/-- Every kind, in order of declaration. -/
def all : List Kind := [
  .name, .document, .operationDefinition, .variableDefinition, .variable, .selectionSet,
  .field, .argument, .fragmentSpread, .inlineFragment, .fragmentDefinition,
  .intValue, .floatValue, .stringValue, .booleanValue, .nullValue, .enumValue, .listValue,
  .objectValue, .objectField, .directive,
  .namedType, .listType, .nonNullType,
  .schemaDefinition, .operationTypeDefinition, .scalarTypeDefinition, .objectTypeDefinition,
  .fieldDefinition, .inputValueDefinition, .interfaceTypeDefinition, .unionTypeDefinition,
  .enumTypeDefinition, .enumValueDefinition, .inputObjectTypeDefinition, .directiveDefinition,
  .schemaExtension, .scalarTypeExtension, .objectTypeExtension, .interfaceTypeExtension,
  .unionTypeExtension, .enumTypeExtension, .inputObjectTypeExtension]

def tag : Kind → String
  | .name => "Name"
  | .document => "Document"
  | .operationDefinition => "OperationDefinition"
  | .variableDefinition => "VariableDefinition"
  | .variable => "Variable"
  | .selectionSet => "SelectionSet"
  | .field => "Field"
  | .argument => "Argument"
  | .fragmentSpread => "FragmentSpread"
  | .inlineFragment => "InlineFragment"
  | .fragmentDefinition => "FragmentDefinition"
  | .intValue => "IntValue"
  | .floatValue => "FloatValue"
  | .stringValue => "StringValue"
  | .booleanValue => "BooleanValue"
  | .nullValue => "NullValue"
  | .enumValue => "EnumValue"
  | .listValue => "ListValue"
  | .objectValue => "ObjectValue"
  | .objectField => "ObjectField"
  | .directive => "Directive"
  | .namedType => "NamedType"
  | .listType => "ListType"
  | .nonNullType => "NonNullType"
  | .schemaDefinition => "SchemaDefinition"
  | .operationTypeDefinition => "OperationTypeDefinition"
  | .scalarTypeDefinition => "ScalarTypeDefinition"
  | .objectTypeDefinition => "ObjectTypeDefinition"
  | .fieldDefinition => "FieldDefinition"
  | .inputValueDefinition => "InputValueDefinition"
  | .interfaceTypeDefinition => "InterfaceTypeDefinition"
  | .unionTypeDefinition => "UnionTypeDefinition"
  | .enumTypeDefinition => "EnumTypeDefinition"
  | .enumValueDefinition => "EnumValueDefinition"
  | .inputObjectTypeDefinition => "InputObjectTypeDefinition"
  | .directiveDefinition => "DirectiveDefinition"
  | .schemaExtension => "SchemaExtension"
  | .scalarTypeExtension => "ScalarTypeExtension"
  | .objectTypeExtension => "ObjectTypeExtension"
  | .interfaceTypeExtension => "InterfaceTypeExtension"
  | .unionTypeExtension => "UnionTypeExtension"
  | .enumTypeExtension => "EnumTypeExtension"
  | .inputObjectTypeExtension => "InputObjectTypeExtension"

/-- The kind with a tag. -/
def ofTag? (tag : String) : Option Kind := all.find? (·.tag == tag)

/-- The place of a kind in `all`. -/
def index (k : Kind) : Nat := all.idxOf k

/-- Kinds in order of declaration, repetitions kept. -/
def sort (kinds : List Kind) : List Kind := kinds.mergeSort fun a b => a.index ≤ b.index

theorem mem_all (k : Kind) : k ∈ all := by cases k <;> decide

theorem nodup_all : all.Nodup := by decide

theorem ofTag?_tag (k : Kind) : ofTag? k.tag = some k := by cases k <;> decide

theorem tag_of_ofTag? {tag : String} {k : Kind} (h : ofTag? tag = some k) : k.tag = tag := by
  have := List.find?_some h
  simpa using this

end Kind

/-! ### Areas of the grammar -/

/-- The areas into which the grammar's productions are grouped. -/
inductive Area
  | executable | values | typeReferences | typeSystem | typeExtensions
deriving DecidableEq, Repr

namespace Area

def all : List Area := [.executable, .values, .typeReferences, .typeSystem, .typeExtensions]

def name : Area → String
  | .executable => "executable"
  | .values => "values"
  | .typeReferences => "type-references"
  | .typeSystem => "type-system"
  | .typeExtensions => "type-extensions"

def ofName? (name : String) : Option Area := all.find? (·.name == name)

end Area

/-- The kinds that the builder of an area claims. -/
def Area.kinds : Area → List Kind
  | .executable => [
    .name, .document, .operationDefinition, .variableDefinition, .variable, .selectionSet,
    .field, .argument, .fragmentSpread, .inlineFragment, .fragmentDefinition]
  | .values => [
    .intValue, .floatValue, .stringValue, .booleanValue, .nullValue, .enumValue, .listValue,
    .objectValue, .objectField, .directive]
  | .typeReferences => [.namedType, .listType, .nonNullType]
  | .typeSystem => [
    .schemaDefinition, .operationTypeDefinition, .scalarTypeDefinition, .objectTypeDefinition,
    .fieldDefinition, .inputValueDefinition, .interfaceTypeDefinition, .unionTypeDefinition,
    .enumTypeDefinition, .enumValueDefinition, .inputObjectTypeDefinition, .directiveDefinition]
  | .typeExtensions => [
    .schemaExtension, .scalarTypeExtension, .objectTypeExtension, .interfaceTypeExtension,
    .unionTypeExtension, .enumTypeExtension, .inputObjectTypeExtension]

/-- Definitions, as opposed to the parts they are made of. -/
def Kind.isDefinition : Kind → Bool
  | .operationDefinition | .fragmentDefinition | .schemaDefinition | .scalarTypeDefinition
  | .objectTypeDefinition | .interfaceTypeDefinition | .unionTypeDefinition | .enumTypeDefinition
  | .inputObjectTypeDefinition | .directiveDefinition | .schemaExtension | .scalarTypeExtension
  | .objectTypeExtension | .interfaceTypeExtension | .unionTypeExtension | .enumTypeExtension
  | .inputObjectTypeExtension => true
  | _ => false

end GraphQL
