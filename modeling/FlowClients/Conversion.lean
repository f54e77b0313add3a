import FlowClients.Outline

/-!
The expressions that convert a field between memory and wire. A serializer reads the in-memory
member, a deserializer the wire member; an absent wire value becomes an empty text, zero, false, an
empty list or null, and a single date is always constructed.
-/

namespace FlowClients

/-- A function that converts one value. -/
inductive Converter
  | dateToText
  | textToDate
  /-- The serializer of a model. -/
  | toWire (model : String)
  /-- The deserializer of a model. -/
  | fromWire (model : String)
deriving DecidableEq

inductive Constant
  | undefined
  | null
  | emptyText
  | zero
  | no
  | emptyList
deriving DecidableEq

inductive Expr
  /-- A member of the object that is converted. -/
  | member (key : String)
  | constant (value : Constant)
  | convert (converter : Converter) (value : Expr)
  | convertEach (converter : Converter) (values : Expr)
  /-- The second expression if the first is neither null nor undefined, else the third. -/
  | ifPresent (tested present absent : Expr)
deriving DecidableEq

def serializerName (model : String) : String := model ++ "ToJSON"

def deserializerName (model : String) : String := "JSONTo" ++ model

/-- The converter as a function value. -/
def Converter.text : Converter → String
  | .dateToText => "(n) => n.toISOString()"
  | .textToDate => "(n) => new Date(n)"
  | .toWire model => serializerName model
  | .fromWire model => deserializerName model

/-- The converter applied to an argument. -/
def Converter.applied (argument : String) : Converter → String
  | .dateToText => argument ++ ".toISOString()"
  | .textToDate => "new Date(" ++ argument ++ ")"
  | .toWire model => serializerName model ++ "(" ++ argument ++ ")"
  | .fromWire model => deserializerName model ++ "(" ++ argument ++ ")"

def Constant.text : Constant → String
  | .undefined => "undefined"
  | .null => "null"
  | .emptyText => "\"\""
  | .zero => "0"
  | .no => "false"
  | .emptyList => "[]"

/-- The object that is converted is called `m`. -/
def Expr.text : Expr → String
  | .member key => "m." ++ key
  | .constant value => value.text
  | .convert converter value => converter.applied value.text
  | .convertEach converter values => values.text ++ ".map(" ++ converter.text ++ ")"
  | .ifPresent tested present absent =>
    tested.text ++ " != null ? " ++ present.text ++ " : " ++ absent.text

/-- What stands for an absent wire value of a scalar type; other types have nothing to stand for it.
-/
def absentScalar? (type : String) : Option Constant :=
  if type = "string" then some .emptyText
  else if type = "number" then some .zero
  else if type = "boolean" then some .no
  else none

namespace Field

/-- The type that the declaration of the model gives the field: single messages may be null. -/
def memberType (field : Field) : String :=
  if field.isMessage && !field.isRepeated then "?" ++ field.type else field.type

def serializer? (field : Field) : Option Converter :=
  if field.holdsDates then some .dateToText
  else if field.isMessage then some (.toWire field.singleType)
  else none

def deserializer? (field : Field) : Option Converter :=
  if field.holdsDates then some .textToDate
  else if field.isMessage then some (.fromWire field.singleType)
  else none

/-- The wire value of the field. -/
def serialized (field : Field) : Expr :=
  let value := Expr.member field.name
  match field.serializer?, field.isRepeated with
  | none, _ => value
  | some converter, true => .convertEach converter value
  | some converter, false => .ifPresent value (.convert converter value) (.constant .undefined)

/-- The in-memory value of the field. -/
def deserialized (field : Field) : Expr :=
  let value := Expr.member field.wireName
  if field.isRepeated then
    .ifPresent value
      (match field.deserializer? with
        | some converter => .convertEach converter value
        | none => value)
      (.constant .emptyList)
  else if field.holdsDates then .convert .textToDate value
  else match field.deserializer? with
    | some converter => .ifPresent value (.convert converter value) (.constant .null)
    | none => match absentScalar? field.type with
      | some absent => .ifPresent value value (.constant absent)
      | none => value

end Field

end FlowClients
