import ContractClient.Block
import ContractClient.Contract.Handle
import ContractClient.Interface.Arguments
import ContractClient.Transaction.Defaults

namespace ContractClient

/-! Deployments: the bytecode of a contract and the arguments of its constructor. -/

structure Deployment where
  contract : Contract
  bytecode : Bytes
  positional : List Json
  keywords : List (String × Json)

namespace Interface

/-- The encoded arguments of the constructor. Without a declared constructor there
are none. -/
def encodeConstructor (interface : Interface) (positional : List Json)
    (keywords : List (String × Json)) : Except ContractError Bytes :=
  match interface.constructor with
  | some entry =>
      match Arguments.encode entry.inputs positional keywords with
      | .ok encoded => .ok encoded
      | .error reason => .error (.encoding entry.signature reason)
  | none =>
      if positional.isEmpty && keywords.isEmpty then .ok []
      else .error (.encoding (Parameter.signature "constructor" []) .noConstructorArguments)

end Interface

namespace Deployment

def data (deployment : Deployment) : Except ContractError Bytes :=
  match deployment.contract.interface.encodeConstructor deployment.positional
      deployment.keywords with
  | .ok encoded => .ok (deployment.bytecode ++ encoded)
  | .error reason => .error reason

end Deployment

/-- A deployment of the contract's bytecode; its arguments are checked at once. -/
def Contract.deploy (contract : Contract) (positional : List Json)
    (keywords : List (String × Json)) : Except ContractError Deployment :=
  match contract.bytecode with
  | none => .error .noBytecode
  | some bytecode =>
      let deployment : Deployment := ⟨contract, bytecode, positional, keywords⟩
      match deployment.data with
      | .ok _ => .ok deployment
      | .error reason => .error reason

namespace Deployment

def transaction (deployment : Deployment) (options : TransactionOptions) :
    Except ContractError TransactionRequest :=
  if options.target.isSome then .error (.conflictingParams .target)
  else
    match deployment.data with
    | .error reason => .error reason
    | .ok data => options.merge none data deployment.contract.defaultAccount

def dispatch (deployment : Deployment) (options : TransactionOptions) :
    Except ContractError (TransactionRequest × Endpoint) :=
  match deployment.transaction options with
  | .error reason => .error reason
  | .ok request =>
      match deployment.contract.node with
      | .error reason => .error reason
      | .ok endpoint => .ok (request, endpoint)

def transact (deployment : Deployment) (options : TransactionOptions) :
    Dialogue (Except ContractError Word) :=
  match deployment.dispatch options with
  | .error reason => .done (.error reason)
  | .ok (request, endpoint) =>
      Dialogue.request endpoint .sendTransaction [request.toJson] (Json.asFixedBytes? 32)

def estimateGas (deployment : Deployment) (options : TransactionOptions)
    (block : Option BlockId) : Dialogue (Except ContractError Nat) :=
  match deployment.dispatch options with
  | .error reason => .done (.error reason)
  | .ok (request, endpoint) =>
      Dialogue.request endpoint .estimateGas
        (request.toJson :: block.toList.map BlockId.toJson) Json.asQuantity64?

def buildTransaction (deployment : Deployment) (options : TransactionOptions) :
    Dialogue (Except ContractError TransactionRequest) :=
  match deployment.dispatch options with
  | .error reason => .done (.error reason)
  | .ok (request, endpoint) => request.fill endpoint

end Deployment

end ContractClient
