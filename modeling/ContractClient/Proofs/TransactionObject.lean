import ContractClient.Proofs.Members
import ContractClient.Transaction.Request

/-! Transactions as objects. A node finds every field under its own name, and a field
that is not set is not found. -/

namespace ContractClient

namespace TransactionRequest

theorem lookup_optionalMember (name other : String) (render : α → Json) (field : Option α)
    (members : List (String × Json)) :
    Json.lookup name
        ((optionalMember other render field).foldl
          (fun members pair => Json.insertMember pair.1 pair.2 members) members) =
      if name = other then (field.map render).or (Json.lookup name members)
      else Json.lookup name members := by
  cases field with
  | none => simp [optionalMember]
  | some value => simp [optionalMember, Json.lookup_insertMember]

/-- The object states the transaction, with the call data under both of its names. -/
structure StatedBy (request : TransactionRequest) (object : Json) : Prop where
  sender : object.member? "from" = request.sender.map fun account => .string account.toHex
  target : object.member? "to" = request.target.map fun account => .string account.toHex
  value : object.member? "value" = request.value.map quantity
  gas : object.member? "gas" = request.gas.map quantity
  gasPrice : object.member? "gasPrice" = request.gasPrice.map quantity
  maxFeePerGas : object.member? "maxFeePerGas" = request.maxFeePerGas.map quantity
  maxPriorityFeePerGas :
    object.member? "maxPriorityFeePerGas" = request.maxPriorityFeePerGas.map quantity
  nonce : object.member? "nonce" = request.nonce.map quantity
  chainId : object.member? "chainId" = request.chainId.map quantity
  input : object.member? "input" = some (.string (Bytes.toHex request.input))
  data : object.member? "data" = some (.string (Bytes.toHex request.input))

theorem statedBy_toJson (request : TransactionRequest) : request.StatedBy request.toJson := by
  constructor <;>
    simp [toJson, Json.ofPairs, Json.membersOf, Json.member?, lookup_optionalMember,
      Json.lookup_insertMember, Json.lookup]

end TransactionRequest

end ContractClient
