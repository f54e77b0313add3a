import FlowClients.Descriptor

/-!
Why a set of schema files is not accepted.
-/

namespace FlowClients

inductive Rejection
  | fileAddedTwice (name : String)
  | definedTwice (fullName : String)
  | definedInFile (fullName file : String)
  | camelCaseConflict (first second : String)
  | enumWithoutValues
  | firstEnumValueNotZero
  | importNotAdded (name : String)
  | importIndex
  | fieldNumber (number : Int)
  | reservedFieldNumber (number : Int) (range : NumberRange)
  | extensionFieldNumber (number : Int) (range : NumberRange)
  | typeNameMissing (path : List Nat)
  | oneofIndex
  | fieldNumberUsed (number : Int)
  | jsonNameUsed (name : String)
  | notAnExtensionNumber (fullName : String) (number : Int)
  | reservedEnumNumber (number : Int) (range : NumberRange)
  | enumNumberUsed (number : Int)
  | undefinedName (name : String)
  | undefinedInScope (name fullName : String)
  | notMessage (fullName : String)
  | notFieldType (fullName : String)
  | defaultValue (value kind : String)

def Rejection.message : Rejection → String
  | .fileAddedTwice name => s!"a different file named '{name}' has already been added"
  | .definedTwice fullName => s!"name '{fullName}' is defined twice"
  | .definedInFile fullName file => s!"name '{fullName}' is already defined in file '{file}'"
  | .camelCaseConflict first second =>
    s!"camel-case name of field '{first}' conflicts with field '{second}'"
  | .enumWithoutValues => "enums must have at least one value"
  | .firstEnumValueNotZero => "the first value for proto3 enums must be 0"
  | .importNotAdded name => s!"imported file '{name}' has not been added"
  | .importIndex => "invalid import index"
  | .fieldNumber number => s!"invalid field number '{number}'"
  | .reservedFieldNumber number range =>
    s!"field number '{number}' conflicts with reserved range '{range.first} to {range.last - 1}'"
  | .extensionFieldNumber number range =>
    s!"field number '{number}' conflicts with extension range '{range.first} to {range.last - 1}'"
  | .typeNameMissing path =>
    "missing required field at [" ++ ", ".intercalate (path.map toString) ++ "]"
  | .oneofIndex => "invalid oneof index"
  | .fieldNumberUsed number => s!"field number '{number}' is already used"
  | .jsonNameUsed name => s!"a field with JSON name '{name}' is already defined"
  | .notAnExtensionNumber fullName number =>
    s!"message '{fullName}' does not define '{number}' as an extension number"
  | .reservedEnumNumber number range =>
    s!"enum number '{number}' conflicts with reserved range '{range.first} to {range.last}'"
  | .enumNumberUsed number => s!"enum number '{number}' has already been used"
  | .undefinedName name => s!"name '{name}' is not defined"
  | .undefinedInScope name fullName => s!"'{name}' resolves to '{fullName}', which is not defined"
  | .notMessage fullName => s!"'{fullName}' is not a message type"
  | .notFieldType fullName => s!"'{fullName}' is not a message or enum type"
  | .defaultValue value kind => s!"invalid default value '{value}' for type '{kind}'"

end FlowClients
