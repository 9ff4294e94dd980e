import ContractClient.Dialogue
import ContractClient.Node.Reply
import ContractClient.Transaction.Request

namespace ContractClient.TransactionRequest

/-! Defaults of transactions. What a signer needs and the user left open is asked
of a node: the chain, then a gas price if no fee is set, then the gas, which is
estimated for the transaction with all else filled in. A nonce is left to the
signer. -/

/-- Without a value nothing is transferred. -/
def fillValue (request : TransactionRequest) : TransactionRequest :=
  { request with value := some (request.value.getD 0) }

def fillChainId (endpoint : Endpoint) (request : TransactionRequest) :
    Dialogue (Except ContractError TransactionRequest) :=
  match request.chainId with
  | some _ => .done (.ok request)
  | none =>
      Dialogue.request endpoint .chainId [] fun reply =>
        reply.asQuantity64?.map fun chain => { request with chainId := some chain }

def fillFee (endpoint : Endpoint) (request : TransactionRequest) :
    Dialogue (Except ContractError TransactionRequest) :=
  if request.hasFee then .done (.ok request)
  else
    Dialogue.request endpoint .gasPrice [] fun reply =>
      (reply.asQuantity? (Width.limit 128)).map fun price => { request with gasPrice := some price }

def fillGas (endpoint : Endpoint) (request : TransactionRequest) :
    Dialogue (Except ContractError TransactionRequest) :=
  match request.gas with
  | some _ => .done (.ok request)
  | none =>
      Dialogue.request endpoint .estimateGas [request.toJson] fun reply =>
        reply.asQuantity64?.map fun gas => { request with gas := some gas }

def fill (endpoint : Endpoint) (request : TransactionRequest) :
    Dialogue (Except ContractError TransactionRequest) :=
  (fillChainId endpoint request.fillValue).andThen fun identified =>
    (fillFee endpoint identified).andThen fun priced => fillGas endpoint priced

end ContractClient.TransactionRequest
