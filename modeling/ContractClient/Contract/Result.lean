import ContractClient.Abi.Decoding
import ContractClient.Abi.Named
import ContractClient.Error
import ContractClient.Interface.Entry

namespace ContractClient

/-! Results of read-only calls. -/

/-- The outputs of a function: none, one, or several, which have names if all of
them are declared with one. -/
inductive ReturnValue where
  | empty
  | single (value : AbiValue)
  | tuple (values : List AbiValue)
  | named (values : NamedValues)

namespace ReturnValue

def ofOutputs (outputs : List Parameter) (values : List AbiValue) : ReturnValue :=
  match values with
  | [] => .empty
  | [value] => .single value
  | several =>
      if outputs.all fun parameter => !parameter.name.isEmpty then
        .named (NamedValues.ofPairs ((outputs.map Parameter.name).zip several))
      else .tuple several

def toJson : ReturnValue → Json
  | .empty => .null
  | .single value => value.toJson
  | .tuple values => .array (values.map AbiValue.toJson)
  | .named values => values.toJson

end ReturnValue

namespace FunctionEntry

def takeOutput (type : AbiType) : AbiDecoding.Step AbiValue := fun cursor =>
  match AbiValue.ofNoData? type with
  | some value => .ok (value, cursor)
  | none => AbiDecoding.take type cursor

/-- Take the values of outputs one after the other. Each output's type is looked
at only when its turn comes. -/
def takeOutputs : List Parameter → AbiDecoding.Cursor → Except OutputError (List AbiValue)
  | [], _ => .ok []
  | parameter :: rest, cursor =>
      match parameter.resolve with
      | .error reason => .error (.type reason)
      | .ok type =>
          match takeOutput type cursor with
          | .error reason => .error (.data reason)
          | .ok (value, next) =>
              match takeOutputs rest next with
              | .error reason => .error reason
              | .ok values => .ok (value :: values)

/-- The values of the outputs in the data that a call returned. No data at all
is a sign that there is no contract. -/
def outputValues (entry : FunctionEntry) (output : Bytes) :
    Except OutputError (List AbiValue) :=
  if output.isEmpty && !entry.outputs.isEmpty then .error .noData
  else takeOutputs entry.outputs (AbiDecoding.Cursor.start output)

def decodeOutput (entry : FunctionEntry) (output : Bytes) : Except ContractError ReturnValue :=
  match entry.outputValues output with
  | .error reason => .error (.decoding entry.signature reason)
  | .ok values => .ok (ReturnValue.ofOutputs entry.outputs values)

end FunctionEntry

end ContractClient
