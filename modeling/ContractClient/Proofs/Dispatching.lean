import ContractClient.Contract.Deployment
import ContractClient.Contract.Function
import ContractClient.Proofs.Traversal

/-! What operations prepare before their first request. The operations of a bound
function prepare the same transaction; only the refusal for want of a target names
the operation. -/

namespace ContractClient

open Traversal

namespace TransactionOptions

def request (options : TransactionOptions) (target : Option Address) (input : Bytes)
    (defaultSender : Option Address) : TransactionRequest where
  sender := options.sender.or defaultSender
  target := target.or options.target
  value := options.value
  gas := options.gas
  gasPrice := options.gasPrice
  maxFeePerGas := options.maxFeePerGas
  maxPriorityFeePerGas := options.maxPriorityFeePerGas
  nonce := options.nonce
  chainId := options.chainId
  input := input

theorem request_of_merge {options : TransactionOptions} {target : Option Address} {input : Bytes}
    {defaultSender : Option Address} {request : TransactionRequest}
    (merged : options.merge target input defaultSender = .ok request) :
    request = options.request target input defaultSender := by
  rw [merge] at merged
  split at merged
  · cases merged
  · split at merged <;> cases merged
    rfl

end TransactionOptions

theorem Contract.node_eq_ok_iff {contract : Contract} {endpoint : Endpoint} :
    contract.node = .ok endpoint ↔ contract.endpoint = some endpoint := by
  rw [node]
  cases contract.endpoint <;> simp

namespace BoundFunction

theorem prepare_function {bound : BoundFunction} {identifier : Identifier}
    (directed : bound.target = .function identifier) :
    bound.prepare =
      (bound.contract.interface.resolveFunction identifier bound.positional bound.keywords).bind
        fun entry => (entry.encodeCall bound.positional bound.keywords).map (some entry, ·) := by
  simp only [prepare, directed]
  cases bound.contract.interface.resolveFunction identifier bound.positional bound.keywords with
  | error reason => rfl
  | ok entry =>
      dsimp only [Except.bind]
      cases entry.encodeCall bound.positional bound.keywords <;> rfl

theorem callData_of_prepare {bound : BoundFunction} {entry : Option FunctionEntry}
    {data : Bytes} (prepared : bound.prepare = .ok (entry, data)) :
    bound.callData = .ok data := by
  rw [callData, prepared]

theorem transaction_eq_bind (bound : BoundFunction) (options : TransactionOptions)
    (data : Bytes) (operation : Operation) :
    bound.transaction options data operation =
      (options.merge bound.contract.address data bound.contract.defaultAccount).bind fun request =>
        if request.target.isSome then .ok request
        else .error (.missingAddress (operation.text ++ " " ++ bound.target.toText)) := by
  rw [transaction]
  cases options.merge bound.contract.address data bound.contract.defaultAccount with
  | error reason => rfl
  | ok request =>
      dsimp only [Except.bind]
      cases request.target <;> rfl

theorem dispatch_eq_bind (bound : BoundFunction) (options : TransactionOptions)
    (operation : Operation) :
    bound.dispatch options operation = bound.prepare.bind fun prepared =>
      (bound.transaction options prepared.2 operation).bind fun request =>
        bound.contract.node.map fun endpoint => ⟨prepared.1, request, endpoint⟩ := by
  rw [dispatch]
  cases bound.prepare with
  | error reason => rfl
  | ok prepared =>
      dsimp only [Except.bind]
      cases bound.transaction options prepared.2 operation with
      | error reason => rfl
      | ok request => cases bound.contract.node <;> rfl

theorem eq_of_transaction {bound : BoundFunction} {options : TransactionOptions} {data : Bytes}
    {operation : Operation} {request : TransactionRequest}
    (stated : bound.transaction options data operation = .ok request) :
    request = options.request bound.contract.address data bound.contract.defaultAccount ∧
      request.target.isSome = true := by
  rw [transaction_eq_bind] at stated
  rcases bind_eq_ok_iff.mp stated with ⟨merged, same, guarded⟩
  rcases guard_eq_ok_iff.mp guarded with ⟨targeted, rfl⟩
  exact ⟨TransactionOptions.request_of_merge same, targeted⟩

theorem eq_of_dispatch {bound : BoundFunction} {options : TransactionOptions}
    {operation : Operation} {ready : Dispatch}
    (dispatched : bound.dispatch options operation = .ok ready) :
    bound.prepare = .ok (ready.entry, ready.request.input) ∧
      ready.request = options.request bound.contract.address ready.request.input
        bound.contract.defaultAccount ∧
      ready.request.target.isSome = true ∧
      bound.contract.endpoint = some ready.endpoint := by
  rw [dispatch_eq_bind] at dispatched
  rcases bind_eq_ok_iff.mp dispatched with ⟨prepared, encoded, dispatched⟩
  rcases bind_eq_ok_iff.mp dispatched with ⟨request, stated, dispatched⟩
  rcases map_eq_ok_iff.mp dispatched with ⟨endpoint, connected, rfl⟩
  rcases eq_of_transaction stated with ⟨rfl, targeted⟩
  exact ⟨encoded, rfl, targeted, Contract.node_eq_ok_iff.mp connected⟩

/-- Either all operations are refused, for the same reason or all for want of a target,
or all have the same ready. -/
theorem dispatch_agrees (bound : BoundFunction) (options : TransactionOptions) :
    (∃ reason, ∀ operation, bound.dispatch options operation = .error reason) ∨
    (∀ operation : Operation, bound.dispatch options operation =
      .error (.missingAddress (operation.text ++ " " ++ bound.target.toText))) ∨
    ∃ ready, ∀ operation, bound.dispatch options operation = .ok ready := by
  simp only [dispatch_eq_bind, transaction_eq_bind]
  cases bound.prepare with
  | error reason => exact .inl ⟨reason, fun _ => rfl⟩
  | ok prepared =>
      dsimp only [Except.bind]
      cases options.merge bound.contract.address prepared.2 bound.contract.defaultAccount with
      | error reason => exact .inl ⟨reason, fun _ => rfl⟩
      | ok request =>
          by_cases targeted : request.target.isSome = true
          · simp only [if_pos targeted]
            cases bound.contract.node with
            | error reason => exact .inl ⟨reason, fun _ => rfl⟩
            | ok endpoint => exact .inr (.inr ⟨_, fun _ => rfl⟩)
          · simp only [if_neg targeted]
            exact .inr (.inl fun _ => trivial)

end BoundFunction

namespace Deployment

theorem eq_of_transaction {deployment : Deployment} {options : TransactionOptions}
    {request : TransactionRequest} (stated : deployment.transaction options = .ok request) :
    ∃ data, deployment.data = .ok data ∧
      request = options.request none data deployment.contract.defaultAccount := by
  rw [transaction] at stated
  split at stated
  · cases stated
  · split at stated
    · cases stated
    · next data encoded =>
        exact ⟨data, encoded, TransactionOptions.request_of_merge stated⟩

theorem dispatch_eq_bind (deployment : Deployment) (options : TransactionOptions) :
    deployment.dispatch options = (deployment.transaction options).bind fun request =>
      deployment.contract.node.map fun endpoint => (request, endpoint) := by
  rw [dispatch]
  cases deployment.transaction options with
  | error reason => rfl
  | ok request => cases deployment.contract.node <;> rfl

theorem eq_of_dispatch {deployment : Deployment} {options : TransactionOptions}
    {request : TransactionRequest} {endpoint : Endpoint}
    (dispatched : deployment.dispatch options = .ok (request, endpoint)) :
    ∃ data, deployment.data = .ok data ∧
      request = options.request none data deployment.contract.defaultAccount := by
  rw [dispatch_eq_bind] at dispatched
  rcases bind_eq_ok_iff.mp dispatched with ⟨stated, same, dispatched⟩
  rcases map_eq_ok_iff.mp dispatched with ⟨endpoint, connected, ready⟩
  cases ready
  exact eq_of_transaction same

end Deployment

end ContractClient
