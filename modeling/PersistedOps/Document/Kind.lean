/-!
The kinds of syntax node a GraphQL document is made of, the attributes each kind has, and which of
them a traversal walks.
-/

namespace PersistedOps

/-- The attributes of nodes, in the order in which a node lists them. -/
inductive Attribute where
  | description | operation | aliasName | name | value | block | var | type | defaultValue
  | variableDefinitions | typeCondition | arguments | values | fields | directives | selectionSet
  | selections | definitions | interfaces | types | repeatable | locations | operationTypes
  | memberName | fieldName | argumentName
deriving DecidableEq, Repr, Inhabited

namespace Attribute

/-- The name with underscores. -/
def snake : Attribute → String
  | description => "description"
  | operation => "operation"
  | aliasName => "alias"
  | name => "name"
  | value => "value"
  | block => "block"
  | var => "variable"
  | type => "type"
  | defaultValue => "default_value"
  | variableDefinitions => "variable_definitions"
  | typeCondition => "type_condition"
  | arguments => "arguments"
  | values => "values"
  | fields => "fields"
  | directives => "directives"
  | selectionSet => "selection_set"
  | selections => "selections"
  | definitions => "definitions"
  | interfaces => "interfaces"
  | types => "types"
  | repeatable => "repeatable"
  | locations => "locations"
  | operationTypes => "operation_types"
  | memberName => "member_name"
  | fieldName => "field_name"
  | argumentName => "argument_name"

/-- The name with humps. -/
def camel : Attribute → String
  | description => "description"
  | operation => "operation"
  | aliasName => "alias"
  | name => "name"
  | value => "value"
  | block => "block"
  | var => "variable"
  | type => "type"
  | defaultValue => "defaultValue"
  | variableDefinitions => "variableDefinitions"
  | typeCondition => "typeCondition"
  | arguments => "arguments"
  | values => "values"
  | fields => "fields"
  | directives => "directives"
  | selectionSet => "selectionSet"
  | selections => "selections"
  | definitions => "definitions"
  | interfaces => "interfaces"
  | types => "types"
  | repeatable => "repeatable"
  | locations => "locations"
  | operationTypes => "operationTypes"
  | memberName => "memberName"
  | fieldName => "fieldName"
  | argumentName => "argumentName"

def all : List Attribute := [
  .description, .operation, .aliasName, .name, .value, .block, .var, .type, .defaultValue,
  .variableDefinitions, .typeCondition, .arguments, .values, .fields, .directives, .selectionSet,
  .selections, .definitions, .interfaces, .types, .repeatable, .locations, .operationTypes,
  .memberName, .fieldName, .argumentName]

theorem mem_all (a : Attribute) : a ∈ all := by cases a <;> decide

/-- The place of an attribute in the listing order. -/
def rank (a : Attribute) : Nat := a.ctorIdx

/-- The attribute of a name with underscores. -/
def ofSnake? (name : String) : Option Attribute := all.find? fun a => a.snake == name

end Attribute

/-- The kinds of node: those of executable documents, their constant variants, the abstract kinds,
and those of type systems. -/
inductive Kind where
  | document | operationDefinition | fragmentDefinition | variableDefinition | selectionSet
  | field | fragmentSpread | inlineFragment | argument | directive | name | var | intValue
  | floatValue | stringValue | booleanValue | nullValue | enumValue | listValue | objectValue
  | objectField | namedType | listType | nonNullType | constArgument | constDirective
  | constListValue | constObjectField | constObjectValue | definition | executableDefinition
  | selection | value | type | argumentCoordinate | directiveArgumentCoordinate
  | directiveCoordinate | directiveDefinition | directiveExtension | enumTypeDefinition
  | enumTypeExtension | enumValueDefinition | fieldDefinition | inputObjectTypeDefinition
  | inputObjectTypeExtension | inputValueDefinition | interfaceTypeDefinition
  | interfaceTypeExtension | memberCoordinate | objectTypeDefinition | objectTypeExtension
  | operationTypeDefinition | scalarTypeDefinition | scalarTypeExtension | schemaDefinition
  | schemaExtension | typeCoordinate | typeDefinition | typeExtension | typeSystemDefinition
  | unionTypeDefinition | unionTypeExtension
deriving DecidableEq, Repr, Inhabited

namespace Kind

/-- The name a document gives the kind. -/
def label : Kind → String
  | document => "Document"
  | operationDefinition => "OperationDefinition"
  | fragmentDefinition => "FragmentDefinition"
  | variableDefinition => "VariableDefinition"
  | selectionSet => "SelectionSet"
  | field => "Field"
  | fragmentSpread => "FragmentSpread"
  | inlineFragment => "InlineFragment"
  | argument => "Argument"
  | directive => "Directive"
  | .name => "Name"
  | var => "Variable"
  | intValue => "IntValue"
  | floatValue => "FloatValue"
  | stringValue => "StringValue"
  | booleanValue => "BooleanValue"
  | nullValue => "NullValue"
  | enumValue => "EnumValue"
  | listValue => "ListValue"
  | objectValue => "ObjectValue"
  | objectField => "ObjectField"
  | namedType => "NamedType"
  | listType => "ListType"
  | nonNullType => "NonNullType"
  | constArgument => "ConstArgument"
  | constDirective => "ConstDirective"
  | constListValue => "ConstListValue"
  | constObjectField => "ConstObjectField"
  | constObjectValue => "ConstObjectValue"
  | definition => "Definition"
  | executableDefinition => "ExecutableDefinition"
  | selection => "Selection"
  | value => "Value"
  | type => "Type"
  | argumentCoordinate => "ArgumentCoordinate"
  | directiveArgumentCoordinate => "DirectiveArgumentCoordinate"
  | directiveCoordinate => "DirectiveCoordinate"
  | directiveDefinition => "DirectiveDefinition"
  | directiveExtension => "DirectiveExtension"
  | enumTypeDefinition => "EnumTypeDefinition"
  | enumTypeExtension => "EnumTypeExtension"
  | enumValueDefinition => "EnumValueDefinition"
  | fieldDefinition => "FieldDefinition"
  | inputObjectTypeDefinition => "InputObjectTypeDefinition"
  | inputObjectTypeExtension => "InputObjectTypeExtension"
  | inputValueDefinition => "InputValueDefinition"
  | interfaceTypeDefinition => "InterfaceTypeDefinition"
  | interfaceTypeExtension => "InterfaceTypeExtension"
  | memberCoordinate => "MemberCoordinate"
  | objectTypeDefinition => "ObjectTypeDefinition"
  | objectTypeExtension => "ObjectTypeExtension"
  | operationTypeDefinition => "OperationTypeDefinition"
  | scalarTypeDefinition => "ScalarTypeDefinition"
  | scalarTypeExtension => "ScalarTypeExtension"
  | schemaDefinition => "SchemaDefinition"
  | schemaExtension => "SchemaExtension"
  | typeCoordinate => "TypeCoordinate"
  | typeDefinition => "TypeDefinition"
  | typeExtension => "TypeExtension"
  | typeSystemDefinition => "TypeSystemDefinition"
  | unionTypeDefinition => "UnionTypeDefinition"
  | unionTypeExtension => "UnionTypeExtension"

def all : List Kind := [
  .document, .operationDefinition, .fragmentDefinition, .variableDefinition, .selectionSet,
  .field, .fragmentSpread, .inlineFragment, .argument, .directive, .name, .var, .intValue,
  .floatValue, .stringValue, .booleanValue, .nullValue, .enumValue, .listValue, .objectValue,
  .objectField, .namedType, .listType, .nonNullType, .constArgument, .constDirective,
  .constListValue, .constObjectField, .constObjectValue, .definition, .executableDefinition,
  .selection, .value, .type, .argumentCoordinate, .directiveArgumentCoordinate,
  .directiveCoordinate, .directiveDefinition, .directiveExtension, .enumTypeDefinition,
  .enumTypeExtension, .enumValueDefinition, .fieldDefinition, .inputObjectTypeDefinition,
  .inputObjectTypeExtension, .inputValueDefinition, .interfaceTypeDefinition,
  .interfaceTypeExtension, .memberCoordinate, .objectTypeDefinition, .objectTypeExtension,
  .operationTypeDefinition, .scalarTypeDefinition, .scalarTypeExtension, .schemaDefinition,
  .schemaExtension, .typeCoordinate, .typeDefinition, .typeExtension, .typeSystemDefinition,
  .unionTypeDefinition, .unionTypeExtension]

theorem mem_all (k : Kind) : k ∈ all := by cases k <;> decide

/-- The kind of a label. -/
def ofLabel? (label : String) : Option Kind := all.find? fun k => k.label == label

/-- The attributes a node of the kind has. -/
def attributes : Kind → List Attribute
  | .document => [.definitions]
  | .operationDefinition =>
    [.description, .operation, .name, .variableDefinitions, .directives, .selectionSet]
  | .fragmentDefinition =>
    [.description, .name, .variableDefinitions, .typeCondition, .directives, .selectionSet]
  | .variableDefinition => [.description, .var, .type, .defaultValue, .directives]
  | .selectionSet => [.selections]
  | .field => [.aliasName, .name, .arguments, .directives, .selectionSet]
  | .fragmentSpread | .directiveExtension | .scalarTypeExtension | .typeExtension =>
    [.name, .directives]
  | .inlineFragment => [.typeCondition, .directives, .selectionSet]
  | .argument | .objectField | .constArgument | .constObjectField => [.name, .value]
  | .directive | .constDirective => [.name, .arguments]
  | .name | .intValue | .floatValue | .booleanValue | .enumValue => [.value]
  | .var | .namedType | .directiveCoordinate | .typeCoordinate => [.name]
  | .stringValue => [.value, .block]
  | .nullValue | .definition | .value | .type | .typeSystemDefinition => []
  | .listValue | .constListValue => [.values]
  | .objectValue | .constObjectValue => [.fields]
  | .listType | .nonNullType => [.type]
  | .executableDefinition =>
    [.description, .name, .variableDefinitions, .directives, .selectionSet]
  | .selection => [.directives]
  | .argumentCoordinate => [.name, .fieldName, .argumentName]
  | .directiveArgumentCoordinate => [.name, .argumentName]
  | .directiveDefinition =>
    [.description, .name, .arguments, .directives, .repeatable, .locations]
  | .enumTypeDefinition => [.description, .name, .values, .directives]
  | .enumTypeExtension => [.name, .values, .directives]
  | .enumValueDefinition | .scalarTypeDefinition | .typeDefinition =>
    [.description, .name, .directives]
  | .fieldDefinition => [.description, .name, .type, .arguments, .directives]
  | .inputObjectTypeDefinition => [.description, .name, .fields, .directives]
  | .inputObjectTypeExtension => [.name, .fields, .directives]
  | .inputValueDefinition => [.description, .name, .type, .defaultValue, .directives]
  | .interfaceTypeDefinition | .objectTypeDefinition =>
    [.description, .name, .fields, .directives, .interfaces]
  | .interfaceTypeExtension | .objectTypeExtension => [.name, .fields, .directives, .interfaces]
  | .memberCoordinate => [.name, .memberName]
  | .operationTypeDefinition => [.operation, .type]
  | .schemaDefinition => [.description, .directives, .operationTypes]
  | .schemaExtension => [.directives, .operationTypes]
  | .unionTypeDefinition => [.description, .name, .directives, .types]
  | .unionTypeExtension => [.name, .directives, .types]

/-- A kind without its constant variant: constant kinds behave as the kinds they restrict. -/
def base : Kind → Kind
  | .constArgument => .argument
  | .constDirective => .directive
  | .constListValue => .listValue
  | .constObjectField => .objectField
  | .constObjectValue => .objectValue
  | k => k

/-- The attributes a traversal walks, in its order. -/
def visited (k : Kind) : List Attribute :=
  match k.base with
  | .document => [.definitions]
  | .operationDefinition =>
    [.description, .name, .variableDefinitions, .directives, .selectionSet]
  | .fragmentDefinition =>
    [.description, .name, .variableDefinitions, .typeCondition, .directives, .selectionSet]
  | .variableDefinition => [.description, .var, .type, .defaultValue, .directives]
  | .selectionSet => [.selections]
  | .field => [.aliasName, .name, .arguments, .directives, .selectionSet]
  | .fragmentSpread | .directiveExtension | .scalarTypeExtension => [.name, .directives]
  | .inlineFragment => [.typeCondition, .directives, .selectionSet]
  | .argument | .objectField => [.name, .value]
  | .directive => [.name, .arguments]
  | .var | .namedType | .directiveCoordinate | .typeCoordinate => [.name]
  | .listValue => [.values]
  | .objectValue => [.fields]
  | .listType | .nonNullType | .operationTypeDefinition => [.type]
  | .argumentCoordinate => [.name, .fieldName, .argumentName]
  | .directiveArgumentCoordinate => [.name, .argumentName]
  | .directiveDefinition => [.description, .name, .arguments, .directives, .locations]
  | .enumTypeDefinition => [.description, .name, .directives, .values]
  | .enumTypeExtension => [.name, .directives, .values]
  | .enumValueDefinition | .scalarTypeDefinition => [.description, .name, .directives]
  | .fieldDefinition => [.description, .name, .arguments, .type, .directives]
  | .inputObjectTypeDefinition => [.description, .name, .directives, .fields]
  | .inputObjectTypeExtension => [.name, .directives, .fields]
  | .inputValueDefinition => [.description, .name, .type, .defaultValue, .directives]
  | .interfaceTypeDefinition | .objectTypeDefinition =>
    [.description, .name, .interfaces, .directives, .fields]
  | .interfaceTypeExtension | .objectTypeExtension => [.name, .interfaces, .directives, .fields]
  | .memberCoordinate => [.name, .memberName]
  | .schemaDefinition => [.description, .directives, .operationTypes]
  | .schemaExtension => [.directives, .operationTypes]
  | .unionTypeDefinition => [.description, .name, .directives, .types]
  | .unionTypeExtension => [.name, .directives, .types]
  | _ => []

theorem visited_subset (k : Kind) : ∀ a ∈ k.visited, a ∈ k.attributes := by
  cases k <;> decide

end Kind

end PersistedOps
