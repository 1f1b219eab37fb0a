import GraphQL.Grammar
import GraphQL.Json

/-! How nodes of each kind are written.

A record gives the tag that a node is written with and, for each property that the
node declares, the name it is written under and whether it is left out where there
is nothing. A property that is not left out is null there. -/
namespace GraphQL

/-- How one property is written. -/
structure Member where
  name : String
  leftOut : Bool
deriving DecidableEq, Repr

namespace Member

def always (name : String) : Member := ⟨name, false⟩
def ifAny (name : String) : Member := ⟨name, true⟩

/-- The property as written, given its value if there is one. -/
def write (m : Member) : Option Json → List (String × Json)
  | some v => [(m.name, v)]
  | none => if m.leftOut then [] else [(m.name, .null)]

end Member

structure Record where
  tag : String
  members : List Member
deriving DecidableEq, Repr

namespace Record

/-- The properties as written, given the value of each. -/
def write (r : Record) (values : List (Option Json)) : List (String × Json) :=
  (List.zipWith Member.write r.members values).flatten

end Record

open Member in
/-- The record of each kind. The location, which every kind has last, is not listed. -/
def Kind.record : Kind → Record
  | .name => ⟨"Name", [always "value"]⟩
  | .document => ⟨"Document", [always "definitions"]⟩
  | .operationDefinition => ⟨"OperationDefinition",
    [always "operation", ifAny "name", always "variableDefinitions", always "directives",
     always "selectionSet"]⟩
  | .variableDefinition => ⟨"VariableDefinition",
    [always "variable", always "type", ifAny "defaultValue", always "directives"]⟩
  | .variable => ⟨"Variable", [always "name"]⟩
  | .selectionSet => ⟨"SelectionSet", [always "selections"]⟩
  | .field => ⟨"Field",
    [ifAny "alias", always "name", always "arguments", always "directives", ifAny "selectionSet"]⟩
  | .argument => ⟨"Argument", [always "name", always "value"]⟩
  | .fragmentSpread => ⟨"FragmentSpread", [always "name", always "directives"]⟩
  | .inlineFragment => ⟨"InlineFragment",
    [ifAny "typeCondition", always "directives", always "selectionSet"]⟩
  | .fragmentDefinition => ⟨"FragmentDefinition",
    [always "name", always "variableDefinitions", always "typeCondition", always "directives",
     always "selectionSet"]⟩
  | .intValue => ⟨"IntValue", [always "value"]⟩
  | .floatValue => ⟨"FloatValue", [always "value"]⟩
  | .stringValue => ⟨"StringValue", [always "value", always "block"]⟩
  | .booleanValue => ⟨"BooleanValue", [always "value"]⟩
  | .nullValue => ⟨"NullValue", []⟩
  | .enumValue => ⟨"EnumValue", [always "value"]⟩
  | .listValue => ⟨"ListValue", [always "values"]⟩
  | .objectValue => ⟨"ObjectValue", [always "fields"]⟩
  | .objectField => ⟨"ObjectField", [always "name", always "value"]⟩
  | .directive => ⟨"Directive", [always "name", always "arguments"]⟩
  | .namedType => ⟨"NamedType", [always "name"]⟩
  | .listType => ⟨"ListType", [always "type"]⟩
  | .nonNullType => ⟨"NonNullType", [always "type"]⟩
  | .schemaDefinition => ⟨"SchemaDefinition", [always "directives", always "operationTypes"]⟩
  | .operationTypeDefinition => ⟨"OperationTypeDefinition", [always "operation", always "type"]⟩
  | .scalarTypeDefinition => ⟨"ScalarTypeDefinition",
    [ifAny "description", always "name", always "directives"]⟩
  | .objectTypeDefinition => ⟨"ObjectTypeDefinition",
    [ifAny "description", always "name", always "interfaces", always "directives", always "fields"]⟩
  | .fieldDefinition => ⟨"FieldDefinition",
    [ifAny "description", always "name", always "arguments", always "type", always "directives"]⟩
  | .inputValueDefinition => ⟨"InputValueDefinition",
    [ifAny "description", always "name", always "type", ifAny "defaultValue", always "directives"]⟩
  | .interfaceTypeDefinition => ⟨"InterfaceTypeDefinition",
    [ifAny "description", always "name", always "directives", always "fields"]⟩
  | .unionTypeDefinition => ⟨"UnionTypeDefinition",
    [ifAny "description", always "name", always "directives", always "types"]⟩
  | .enumTypeDefinition => ⟨"EnumTypeDefinition",
    [ifAny "description", always "name", always "directives", always "values"]⟩
  | .enumValueDefinition => ⟨"EnumValueDefinition",
    [ifAny "description", always "name", always "directives"]⟩
  | .inputObjectTypeDefinition => ⟨"InputObjectTypeDefinition",
    [ifAny "description", always "name", always "directives", always "fields"]⟩
  | .directiveDefinition => ⟨"DirectiveDefinition",
    [ifAny "description", always "name", always "arguments", always "locations"]⟩
  | .schemaExtension => ⟨"SchemaExtension", [always "directives", always "operationTypes"]⟩
  | .scalarTypeExtension => ⟨"ScalarTypeExtension", [always "name", always "directives"]⟩
  | .objectTypeExtension => ⟨"ObjectTypeExtension",
    [always "name", always "interfaces", always "directives", always "fields"]⟩
  | .interfaceTypeExtension => ⟨"InterfaceTypeExtension",
    [always "name", always "directives", always "fields"]⟩
  | .unionTypeExtension => ⟨"UnionTypeExtension",
    [always "name", always "directives", always "types"]⟩
  | .enumTypeExtension => ⟨"EnumTypeExtension",
    [always "name", always "directives", always "values"]⟩
  | .inputObjectTypeExtension => ⟨"InputObjectTypeExtension",
    [always "name", always "directives", always "fields"]⟩

/-! ### Records and the grammar -/

/-- A slot as it ought to be written: under its property, and left out just where it
may be empty and is. -/
def Slot.member : Slot → Member
  | ⟨property, .optional _⟩ => .ifAny property
  | ⟨property, _⟩ => .always property

/-- **Every record writes its kind's production**: under the kind's tag, the properties
that a node of the kind is made of, in their order. -/
theorem Kind.record_eq (k : Kind) : k.record = ⟨k.tag, (grammar k).map Slot.member⟩ := by
  cases k <;> rfl

end GraphQL
