import GraphQL.Grammar

/-! What the builders read.

The builder of an area has an arm for each kind it can build: the slots that it
reads, in order, the location being read after them. An arm fits the production of
its kind, slot by slot of one shape; that it reads each slot at the property of that
name is no part of its type, and is proved in `Area.slots_eq_grammar`. -/
namespace GraphQL

/-- What a builder reads to build a kind. -/
structure Arm (k : Kind) where
  slots : List Slot
  /-- What is read at each slot is what a node of the kind holds in its place. -/
  fits : slots.map (·.shape) = (grammar k).map (·.shape)

namespace Arm

open Slot (required optional sequence)

/-! ### Slots that hold no child of a single kind -/

def text (property : String) : Slot := ⟨property, .scalar .text⟩
def numeral (property : String) : Slot := ⟨property, .scalar .numeral⟩
def boolean (property : String) : Slot := ⟨property, .scalar .boolean⟩
def flag (property : String) : Slot := ⟨property, .scalar .flag⟩
def operation (property : String) : Slot := ⟨property, .scalar .operation⟩
def requiredAny (property : String) : Slot := ⟨property, .required .any⟩
def optionalAny (property : String) : Slot := ⟨property, .optional .any⟩
def sequenceAny (property : String) : Slot := ⟨property, .sequence .any⟩

/-! ### One table per builder -/

/-- Documents, operations, selections and fragments. -/
def executable? : (k : Kind) → Option (Arm k)
  | .name => some ⟨[text "value"], rfl⟩
  | .document => some ⟨[sequenceAny "definitions"], rfl⟩
  | .operationDefinition => some ⟨[operation "operation", optional "name" .name,
      sequence "variableDefinitions" .variableDefinition, sequence "directives" .directive,
      required "selectionSet" .selectionSet], rfl⟩
  | .variableDefinition => some ⟨[required "variable" .variable, requiredAny "type",
      optionalAny "defaultValue", sequence "directives" .directive], rfl⟩
  | .variable => some ⟨[required "name" .name], rfl⟩
  | .selectionSet => some ⟨[sequenceAny "selections"], rfl⟩
  | .field => some ⟨[optional "alias" .name, required "name" .name, sequence "arguments" .argument,
      sequence "directives" .directive, optional "selectionSet" .selectionSet], rfl⟩
  | .argument => some ⟨[required "name" .name, requiredAny "value"], rfl⟩
  | .fragmentSpread => some ⟨[required "name" .name, sequence "directives" .directive], rfl⟩
  | .inlineFragment => some ⟨[optional "typeCondition" .namedType,
      sequence "directives" .directive, required "selectionSet" .selectionSet], rfl⟩
  | .fragmentDefinition => some ⟨[required "name" .name,
      sequence "variableDefinitions" .variableDefinition, required "typeCondition" .namedType,
      sequence "directives" .directive, required "selectionSet" .selectionSet], rfl⟩
  | _ => none

/-- Literal values, input objects and directives. -/
def values? : (k : Kind) → Option (Arm k)
  | .intValue => some ⟨[numeral "value"], rfl⟩
  | .floatValue => some ⟨[numeral "value"], rfl⟩
  | .stringValue => some ⟨[text "value", flag "block"], rfl⟩
  | .booleanValue => some ⟨[boolean "value"], rfl⟩
  | .nullValue => some ⟨[], rfl⟩
  | .enumValue => some ⟨[text "value"], rfl⟩
  | .listValue => some ⟨[sequenceAny "values"], rfl⟩
  | .objectValue => some ⟨[sequence "fields" .objectField], rfl⟩
  | .objectField => some ⟨[required "name" .name, requiredAny "value"], rfl⟩
  | .directive => some ⟨[required "name" .name, sequence "arguments" .argument], rfl⟩
  | _ => none

/-- Type references. -/
def typeReferences? : (k : Kind) → Option (Arm k)
  | .namedType => some ⟨[required "name" .name], rfl⟩
  | .listType => some ⟨[requiredAny "type"], rfl⟩
  | .nonNullType => some ⟨[requiredAny "type"], rfl⟩
  | _ => none

/-- Schema and type definitions. -/
def typeSystem? : (k : Kind) → Option (Arm k)
  | .schemaDefinition => some ⟨[sequence "directives" .directive,
      sequence "operationTypes" .operationTypeDefinition], rfl⟩
  | .operationTypeDefinition => some ⟨[operation "operation", required "type" .namedType], rfl⟩
  | .scalarTypeDefinition => some ⟨[optional "description" .stringValue, required "name" .name,
      sequence "directives" .directive], rfl⟩
  | .objectTypeDefinition => some ⟨[optional "description" .stringValue, required "name" .name,
      sequence "interfaces" .namedType, sequence "directives" .directive,
      sequence "fields" .fieldDefinition], rfl⟩
  | .fieldDefinition => some ⟨[optional "description" .stringValue, required "name" .name,
      sequence "arguments" .inputValueDefinition, requiredAny "type",
      sequence "directives" .directive], rfl⟩
  | .inputValueDefinition => some ⟨[optional "description" .stringValue, required "name" .name,
      requiredAny "type", optionalAny "defaultValue", sequence "directives" .directive], rfl⟩
  | .interfaceTypeDefinition => some ⟨[optional "description" .stringValue, required "name" .name,
      sequence "directives" .directive, sequence "fields" .fieldDefinition], rfl⟩
  | .unionTypeDefinition => some ⟨[optional "description" .stringValue, required "name" .name,
      sequence "directives" .directive, sequence "types" .namedType], rfl⟩
  | .enumTypeDefinition => some ⟨[optional "description" .stringValue, required "name" .name,
      sequence "directives" .directive, sequence "values" .enumValueDefinition], rfl⟩
  | .enumValueDefinition => some ⟨[optional "description" .stringValue, required "name" .name,
      sequence "directives" .directive], rfl⟩
  | .inputObjectTypeDefinition => some ⟨[optional "description" .stringValue,
      required "name" .name, sequence "directives" .directive,
      sequence "fields" .inputValueDefinition], rfl⟩
  | .directiveDefinition => some ⟨[optional "description" .stringValue, required "name" .name,
      sequence "arguments" .inputValueDefinition, sequence "locations" .name], rfl⟩
  | _ => none

/-- Schema and type extensions: the definitions without their descriptions. -/
def typeExtensions? : (k : Kind) → Option (Arm k)
  | .schemaExtension => some ⟨[sequence "directives" .directive,
      sequence "operationTypes" .operationTypeDefinition], rfl⟩
  | .scalarTypeExtension => some ⟨[required "name" .name, sequence "directives" .directive], rfl⟩
  | .objectTypeExtension => some ⟨[required "name" .name, sequence "interfaces" .namedType,
      sequence "directives" .directive, sequence "fields" .fieldDefinition], rfl⟩
  | .interfaceTypeExtension => some ⟨[required "name" .name, sequence "directives" .directive,
      sequence "fields" .fieldDefinition], rfl⟩
  | .unionTypeExtension => some ⟨[required "name" .name, sequence "directives" .directive,
      sequence "types" .namedType], rfl⟩
  | .enumTypeExtension => some ⟨[required "name" .name, sequence "directives" .directive,
      sequence "values" .enumValueDefinition], rfl⟩
  | .inputObjectTypeExtension => some ⟨[required "name" .name, sequence "directives" .directive,
      sequence "fields" .inputValueDefinition], rfl⟩
  | _ => none

end Arm

namespace Area

/-- The arm of an area's builder for a kind, if it has one. -/
def arm? : Area → (k : Kind) → Option (Arm k)
  | .executable => Arm.executable?
  | .values => Arm.values?
  | .typeReferences => Arm.typeReferences?
  | .typeSystem => Arm.typeSystem?
  | .typeExtensions => Arm.typeExtensions?

/-- **Every arm reads its kind's production**: the properties that a node of the kind
is made of, in their order and each as what it holds. -/
theorem slots_eq_grammar {a : Area} {k : Kind} {arm : Arm k} (h : a.arm? k = some arm) :
    arm.slots = grammar k := by
  cases a <;> cases k <;> cases h <;> rfl

/-- A builder has arms for just the kinds it claims. -/
theorem arm?_isSome (a : Area) (k : Kind) : (a.arm? k).isSome = a.kinds.contains k := by
  cases a <;> cases k <;> rfl

end Area

end GraphQL
