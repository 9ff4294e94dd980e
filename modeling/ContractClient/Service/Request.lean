import ContractClient.Address.Validation
import ContractClient.Block
import ContractClient.Error
import ContractClient.Filter.Options
import ContractClient.Json.Record
import ContractClient.Quantity
import ContractClient.Transaction.Request

namespace ContractClient

/-! Tools and what they are asked for. Arguments of the wrong shape are no request
at all; texts in them are looked at later. -/

inductive Tool where
  | callFunction
  | estimateGas
  | buildTransaction
  | sendTransaction
  | getLogs
  | createFilter
  | pollFilter
  | uninstallFilter
deriving DecidableEq, Repr

namespace Tool

def all : List Tool :=
  [.buildTransaction, .callFunction, .createFilter, .estimateGas, .getLogs, .pollFilter,
    .sendTransaction, .uninstallFilter]

def name : Tool → String
  | .callFunction => "call_function"
  | .estimateGas => "estimate_gas"
  | .buildTransaction => "build_transaction"
  | .sendTransaction => "send_transaction"
  | .getLogs => "get_logs"
  | .createFilter => "create_filter"
  | .pollFilter => "poll_filter"
  | .uninstallFilter => "uninstall_filter"

def description : Tool → String
  | .callFunction =>
      "Call a contract function read-only (eth_call) and return its decoded result"
  | .estimateGas => "Estimate gas for a contract function call"
  | .buildTransaction =>
      "Build an unsigned transaction for a contract function with chain id, gas and gas price " ++
        "filled in"
  | .sendTransaction =>
      "Send a contract function transaction from a node-managed account (eth_sendTransaction)"
  | .getLogs => "Query historical logs of a contract event and decode them"
  | .createFilter =>
      "Install a node-side filter for a contract event; poll it with poll_filter"
  | .pollFilter => "Fetch and decode new entries of a filter created with create_filter"
  | .uninstallFilter =>
      "Remove a filter created with create_filter from the server and the node"

def named? (name : String) : Option Tool :=
  all.find? fun tool => tool.name = name

end Tool

/-! ## Requests -/

/-- Which contract a request is about: one that is configured, or one at an
address, with or without its interface. An interface alone makes a contract
without an address. -/
structure ContractTarget where
  contract : Option String
  address : Option String
  interface : Option Json
  network : Option String

structure FunctionRequest where
  target : ContractTarget
  function : String
  positional : List Json
  keywords : List (String × Json)
  sender : Option String
  value : Option String
  gas : Option Nat
  gasPrice : Option String
  block : Option String
  /-- Whether offchain lookups are answered; they are unless this says no. -/
  offchain : Option Bool

structure EventRequest where
  target : ContractTarget
  event : String
  arguments : List (String × Json)
  fromBlock : Option String
  toBlock : Option String
  blockHash : Option String

structure PollRequest where
  filter : String
  network : Option String
  /-- Ask for all logs of the filter and not only for new ones. -/
  all : Bool

structure UninstallRequest where
  filter : String
  network : Option String

inductive ToolCall where
  | callFunction (request : FunctionRequest)
  | estimateGas (request : FunctionRequest)
  | buildTransaction (request : FunctionRequest)
  | sendTransaction (request : FunctionRequest)
  | getLogs (request : EventRequest)
  | createFilter (request : EventRequest)
  | pollFilter (request : PollRequest)
  | uninstallFilter (request : UninstallRequest)

/-! ## Reading -/

def Json.asGiven? (value : Json) : Option Json :=
  some value

namespace ContractTarget

def ofMembers? (members : List (String × Json)) : Option ContractTarget := do
  let contract ← Json.nullableMember? "contract" Json.asText? members
  let address ← Json.nullableMember? "address" Json.asText? members
  let interface ← Json.nullableMember? "abi" Json.asGiven? members
  let network ← Json.nullableMember? "network" Json.asText? members
  some ⟨contract, address, interface, network⟩

end ContractTarget

namespace FunctionRequest

def ofMembers? (members : List (String × Json)) : Option FunctionRequest := do
  let target ← ContractTarget.ofMembers? members
  let function ← Json.requiredMember? "function" Json.asText? members
  let positional ← Json.optionalMember? "args" Json.asItems? [] members
  let keywords ← Json.optionalMember? "kwargs" Json.asMembers? [] members
  let sender ← Json.nullableMember? "from" Json.asText? members
  let value ← Json.nullableMember? "value" Json.asText? members
  let gas ← Json.nullableMember? "gas" Json.asNat? members
  let gasPrice ← Json.nullableMember? "gas_price" Json.asText? members
  let block ← Json.nullableMember? "block" Json.asText? members
  let offchain ← Json.nullableMember? "ccip_read" Json.asBool? members
  some ⟨target, function, positional, keywords, sender, value, gas, gasPrice, block, offchain⟩

end FunctionRequest

namespace EventRequest

def ofMembers? (members : List (String × Json)) : Option EventRequest := do
  let target ← ContractTarget.ofMembers? members
  let event ← Json.requiredMember? "event" Json.asText? members
  let arguments ← Json.optionalMember? "filters" Json.asMembers? [] members
  let fromBlock ← Json.nullableMember? "from_block" Json.asText? members
  let toBlock ← Json.nullableMember? "to_block" Json.asText? members
  let blockHash ← Json.nullableMember? "block_hash" Json.asText? members
  some ⟨target, event, arguments, fromBlock, toBlock, blockHash⟩

end EventRequest

namespace PollRequest

def ofMembers? (members : List (String × Json)) : Option PollRequest := do
  let filter ← Json.requiredMember? "filter_id" Json.asText? members
  let network ← Json.nullableMember? "network" Json.asText? members
  let all ← Json.optionalMember? "all" Json.asBool? false members
  some ⟨filter, network, all⟩

end PollRequest

namespace UninstallRequest

def ofMembers? (members : List (String × Json)) : Option UninstallRequest := do
  let filter ← Json.requiredMember? "filter_id" Json.asText? members
  let network ← Json.nullableMember? "network" Json.asText? members
  some ⟨filter, network⟩

end UninstallRequest

def Tool.call? (tool : Tool) (arguments : List (String × Json)) : Option ToolCall :=
  match tool with
  | .callFunction => (FunctionRequest.ofMembers? arguments).map .callFunction
  | .estimateGas => (FunctionRequest.ofMembers? arguments).map .estimateGas
  | .buildTransaction => (FunctionRequest.ofMembers? arguments).map .buildTransaction
  | .sendTransaction => (FunctionRequest.ofMembers? arguments).map .sendTransaction
  | .getLogs => (EventRequest.ofMembers? arguments).map .getLogs
  | .createFilter => (EventRequest.ofMembers? arguments).map .createFilter
  | .pollFilter => (PollRequest.ofMembers? arguments).map .pollFilter
  | .uninstallFilter => (UninstallRequest.ofMembers? arguments).map .uninstallFilter

/-! ## Looking at the texts -/

inductive RequestError where
  | address (error : AddressError)
  | quantity (error : QuantityError)
  | gasPriceRange (text : String)
  | block (field : String) (error : BlockError)
  | noTag (field : String)
  | blockHash (error : HexError)
deriving DecidableEq, Repr

def RequestError.message : RequestError → String
  | .address error => error.message
  | .quantity error => error.message
  | .gasPriceRange text => "gas_price " ++ text ++ " is out of range"
  | .block field error => field ++ ": " ++ error.message
  | .noTag field => field ++ " must be a block number or tag"
  | .blockHash error => "block_hash: " ++ error.message

def readGiven (read : String → Except ε α) : Option String → Except ε (Option α)
  | none => .ok none
  | some text =>
      match read text with
      | .ok value => .ok (some value)
      | .error reason => .error reason

namespace FunctionRequest

def readSender (text : String) : Except RequestError Address :=
  (Address.validate text).mapError .address

def readQuantity (text : String) : Except RequestError Nat :=
  (Quantity.parse text).mapError .quantity

/-- A gas price has at most 128 bits. -/
def readGasPrice (text : String) : Except RequestError Nat :=
  match readQuantity text with
  | .error reason => .error reason
  | .ok price => if price < Width.limit 128 then .ok price else .error (.gasPriceRange text)

def transaction (request : FunctionRequest) : Except RequestError TransactionOptions := do
  let sender ← readGiven readSender request.sender
  let value ← readGiven readQuantity request.value
  let gasPrice ← readGiven readGasPrice request.gasPrice
  .ok { TransactionOptions.empty with sender, value, gas := request.gas, gasPrice }

def readBlock (field text : String) : Except RequestError BlockId :=
  (BlockId.parse text).mapError (.block field)

def blockId (request : FunctionRequest) : Except RequestError (Option BlockId) :=
  readGiven (readBlock "block") request.block

end FunctionRequest

namespace EventRequest

/-- The tag or number in a field that takes no hash. -/
def readTag (field text : String) : Except RequestError BlockTag :=
  match FunctionRequest.readBlock field text with
  | .error reason => .error reason
  | .ok (.atTag tag) => .ok tag
  | .ok (.atHash _) => .error (.noTag field)

def readHash (text : String) : Except RequestError Word :=
  (FixedBytes.ofHex 32 text).mapError .blockHash

def options (request : EventRequest) : Except RequestError FilterOptions := do
  let blockHash ← readGiven readHash request.blockHash
  let fromBlock ← readGiven (readTag "from_block") request.fromBlock
  let toBlock ← readGiven (readTag "to_block") request.toBlock
  .ok { FilterOptions.empty with arguments := request.arguments, fromBlock, toBlock, blockHash }

end EventRequest

end ContractClient
