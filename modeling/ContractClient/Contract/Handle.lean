import ContractClient.Dialogue
import ContractClient.Interface.Resolution
import ContractClient.Text.Quoted

namespace ContractClient

/-! Contract handles: an interface, and where and as whom it is used. What a built
transaction leaves open is filled in by the node, see `TransactionRequest.fill`;
handles with another way to fill it in are not covered. -/

structure Contract where
  interface : Interface
  address : Option Address
  bytecode : Option Bytes
  endpoint : Option Endpoint
  /-- The account that sends where the user names none. -/
  defaultAccount : Option Address

namespace Contract

def node (contract : Contract) : Except ContractError Endpoint :=
  match contract.endpoint with
  | some endpoint => .ok endpoint
  | none => .error .notInitialized

/-! ## Entries -/

def findFunction (contract : Contract) (identifier : String) (positional : List Json)
    (keywords : List (String × Json)) : Except ContractError FunctionEntry :=
  contract.interface.resolveFunction (Identifier.parse identifier) positional keywords

def findEvent (contract : Contract) (identifier : String) : Except ContractError EventEntry :=
  contract.interface.resolveEvent (Identifier.parse identifier)

/-! ## Summary -/

def optionText (render : α → String) : Option α → String
  | some value => "Some(" ++ render value ++ ")"
  | none => "None"

def summary (contract : Contract) : String :=
  "Contract \x7b address: " ++ optionText FixedBytes.toHex contract.address ++
    ", functions: " ++ toString contract.interface.functions.length ++
    ", events: " ++ toString contract.interface.events.length ++
    ", bytecode: " ++ optionText (fun code => toString code.length) contract.bytecode ++
    ", transport: " ++
    optionText (fun endpoint => Text.Quoted.text endpoint.url) contract.endpoint ++ " \x7d"

end Contract

end ContractClient
