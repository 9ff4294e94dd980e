import ContractClient.Error
import ContractClient.Json.Basic
import ContractClient.Numeral

namespace ContractClient

/-! Transactions: what a user sets of one, and what a node is told. -/

/-- What a user may set of a transaction. The target and the data are derived from
the contract and may be set only where it has none. -/
structure TransactionOptions where
  sender : Option Address
  target : Option Address
  value : Option Nat
  gas : Option Nat
  gasPrice : Option Nat
  maxFeePerGas : Option Nat
  maxPriorityFeePerGas : Option Nat
  data : Option Bytes
  nonce : Option Nat
  chainId : Option Nat
deriving DecidableEq

def TransactionOptions.empty : TransactionOptions :=
  ⟨none, none, none, none, none, none, none, none, none, none⟩

/-- What a node is told of a transaction. A deployment has no target. These are the
members that a client sets or reads; others that nodes know, such as access lists,
are never set. -/
structure TransactionRequest where
  sender : Option Address
  target : Option Address
  value : Option Nat
  gas : Option Nat
  gasPrice : Option Nat
  maxFeePerGas : Option Nat
  maxPriorityFeePerGas : Option Nat
  nonce : Option Nat
  chainId : Option Nat
  input : Bytes
deriving DecidableEq

namespace TransactionRequest

def optionalMember (name : String) (render : α → Json) (field : Option α) :
    List (String × Json) :=
  field.toList.map fun value => (name, render value)

def quantity (number : Nat) : Json :=
  .string (Numeral.toQuantity number)

/-- The form of a transaction in a request. The call data is stated twice, under
its older name as well. -/
def toJson (request : TransactionRequest) : Json :=
  Json.ofPairs
    (optionalMember "from" (fun account => .string account.toHex) request.sender ++
      optionalMember "to" (fun account => .string account.toHex) request.target ++
      optionalMember "value" quantity request.value ++
      optionalMember "gas" quantity request.gas ++
      optionalMember "gasPrice" quantity request.gasPrice ++
      optionalMember "maxFeePerGas" quantity request.maxFeePerGas ++
      optionalMember "maxPriorityFeePerGas" quantity request.maxPriorityFeePerGas ++
      optionalMember "nonce" quantity request.nonce ++
      optionalMember "chainId" quantity request.chainId ++
      [("input", .string (Bytes.toHex request.input)),
       ("data", .string (Bytes.toHex request.input))])

/-- Some field states what the sender pays for gas. -/
def hasFee (request : TransactionRequest) : Bool :=
  request.gasPrice.isSome || request.maxFeePerGas.isSome || request.maxPriorityFeePerGas.isSome

end TransactionRequest

/-- The transaction of a call: what the user sets, laid over the values derived
from the contract. -/
def TransactionOptions.merge (options : TransactionOptions) (target : Option Address)
    (input : Bytes) (defaultSender : Option Address) :
    Except ContractError TransactionRequest :=
  if options.data.isSome then .error (.conflictingParams .data)
  else if target.isSome && options.target.isSome then .error (.conflictingParams .target)
  else
    .ok
      { sender := options.sender.or defaultSender
        target := target.or options.target
        value := options.value
        gas := options.gas
        gasPrice := options.gasPrice
        maxFeePerGas := options.maxFeePerGas
        maxPriorityFeePerGas := options.maxPriorityFeePerGas
        nonce := options.nonce
        chainId := options.chainId
        input := input }

end ContractClient
