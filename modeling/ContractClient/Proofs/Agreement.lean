import ContractClient.Proofs.Calls
import ContractClient.Proofs.Dispatching
import ContractClient.Proofs.TransactionDefaults
import ContractClient.Proofs.TransactionObject

/-! The operations of a bound function are about one transaction: what is estimated or
built is what is called or sent. -/

namespace ContractClient.BoundFunction

open Dialogue

/-- Every operation ends at once with its refusal. -/
structure Refused (bound : BoundFunction) (options : TransactionOptions)
    (refusal : Operation → ContractError) : Prop where
  call : ∀ block override offchain,
    bound.call ⟨options, block, override, offchain⟩ = .done (.error (refusal .call))
  transact : bound.transact options = .done (.error (refusal .transact))
  estimateGas : ∀ block, bound.estimateGas options block = .done (.error (refusal .estimateGas))
  buildTransaction :
    bound.buildTransaction options = .done (.error (refusal .buildTransaction))

theorem refused_of_dispatch {bound : BoundFunction} {options : TransactionOptions}
    {refusal : Operation → ContractError}
    (refused : ∀ operation, bound.dispatch options operation = .error (refusal operation)) :
    bound.Refused options refusal where
  call := by
    intro block override offchain
    rw [BoundFunction.call, refused]
  transact := by rw [BoundFunction.transact, refused]
  estimateGas := by
    intro block
    rw [BoundFunction.estimateGas, refused]
  buildTransaction := by rw [BoundFunction.buildTransaction, refused]

/-- Every operation states the same transaction to the node. What is built has the
fields of that transaction that are set, and of the others only those that a node is
asked for. -/
structure Sends (bound : BoundFunction) (options : TransactionOptions) (endpoint : Endpoint)
    (transaction : TransactionRequest) (respondent : Respondent σ) (state : σ) : Prop where
  call : ∀ block override offchain, ∃ later,
    (bound.call ⟨options, block, override, offchain⟩).questions respondent state =
      .node endpoint .call (transaction.toJson :: block.toJson :: override.toList) :: later
  transact : (bound.transact options).questions respondent state =
    [.node endpoint .sendTransaction [transaction.toJson]]
  estimateGas : ∀ block, (bound.estimateGas options block).questions respondent state =
    [.node endpoint .estimateGas (transaction.toJson :: block.toList.map BlockId.toJson)]
  buildTransaction : ∀ built,
    ((bound.buildTransaction options).run respondent state).1 = .ok built →
      transaction.Completes built

theorem sends_of_dispatch {bound : BoundFunction} {options : TransactionOptions}
    {ready : Dispatch} (dispatched : ∀ operation, bound.dispatch options operation = .ok ready)
    (respondent : Respondent σ) (state : σ) :
    bound.Sends options ready.endpoint ready.request respondent state where
  call := by
    intro block override offchain
    rw [BoundFunction.call, dispatched]
    exact ⟨_, rfl⟩
  transact := by
    rw [BoundFunction.transact, dispatched]
    exact questions_request ..
  estimateGas := by
    intro block
    rw [BoundFunction.estimateGas, dispatched]
    exact questions_request ..
  buildTransaction := by
    intro built succeeded
    rw [BoundFunction.buildTransaction, dispatched] at succeeded
    exact TransactionRequest.completes_fill (Prod.ext succeeded rfl)

/-- The four operations are all refused, for one reason or all for want of a target, or
they are all about one transaction, which states the options as they are, laid over the
call data, the address and the default account of the contract. -/
theorem operations_agree (bound : BoundFunction) (options : TransactionOptions)
    (respondent : Respondent σ) (state : σ) :
    (∃ refusal, bound.Refused options refusal ∧
      ((∃ reason, ∀ operation, refusal operation = reason) ∨
        ∀ operation : Operation, refusal operation =
          .missingAddress (operation.text ++ " " ++ bound.target.toText))) ∨
    ∃ endpoint input transaction,
      bound.contract.endpoint = some endpoint ∧ bound.callData = .ok input ∧
      transaction = options.request bound.contract.address input bound.contract.defaultAccount ∧
      transaction.target.isSome = true ∧ transaction.StatedBy transaction.toJson ∧
      bound.Sends options endpoint transaction respondent state := by
  rcases bound.dispatch_agrees options with ⟨reason, refused⟩ | refused | ⟨ready, dispatched⟩
  · exact .inl ⟨fun _ => reason, refused_of_dispatch refused, .inl ⟨reason, fun _ => rfl⟩⟩
  · exact .inl ⟨_, refused_of_dispatch refused, .inr fun _ => rfl⟩
  · right
    rcases eq_of_dispatch (dispatched .call) with ⟨prepared, stated, targeted, connected⟩
    exact ⟨ready.endpoint, ready.request.input, ready.request, connected,
      callData_of_prepare prepared, stated, targeted, ready.request.statedBy_toJson,
      sends_of_dispatch dispatched respondent state⟩

theorem operations_agree_relay :
    relay.Sends .empty ⟨"http://localhost:8545", 30000⟩
      (TransactionOptions.empty.request (some relayAddress) [] none) redirecting () := by
  rcases operations_agree relay .empty redirecting () with
    ⟨_, refused, _⟩ | ⟨endpoint, input, transaction, connected, encoded, rfl, _, _, sends⟩
  · cases refused.transact
  · cases connected
    cases encoded
    exact sends

end ContractClient.BoundFunction
