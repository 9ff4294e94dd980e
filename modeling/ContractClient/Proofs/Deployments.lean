import ContractClient.Proofs.ArgumentEncoding
import ContractClient.Proofs.TransactionDefaults
import ContractClient.Proofs.TransactionObject

/-! Deployments. The arguments of the constructor are checked once; from then on it is settled
what is deployed, and the options of a transaction can only add to it. -/

namespace ContractClient

open Dialogue

/-! ## Arguments -/

def Interface.constructorInputs (interface : Interface) : List Parameter :=
  match interface.constructor with
  | some entry => entry.inputs
  | none => []

section Arguments

variable {positional : List Json} {keywords : List (String × Json)} {data : Bytes}

theorem Arguments.encode_nil_eq_ok_iff :
    encode [] positional keywords = .ok data ↔ positional = [] ∧ keywords = [] ∧ data = [] := by
  cases keywords with
  | nil =>
      cases positional with
      | nil =>
          have nothing : encode [] [] [] = .ok [] := rfl
          simp [nothing, eq_comm]
      | cons argument positional => simp [encode, merge, coerce]
  | cons keyword keywords =>
      cases positional with
      | nil => simp [encode, merge, checkKeywords, positionOf?]
      | cons argument positional => simp [encode, merge]

theorem Interface.encodeConstructor_eq_ok_iff {interface : Interface} :
    interface.encodeConstructor positional keywords = .ok data ↔
      Arguments.encode interface.constructorInputs positional keywords = .ok data := by
  rw [encodeConstructor, constructorInputs]
  cases interface.constructor with
  | none =>
      simp only [Arguments.encode_nil_eq_ok_iff]
      cases positional <;> cases keywords <;> simp [eq_comm]
  | some entry => cases found : Arguments.encode entry.inputs positional keywords <;> simp [found]

end Arguments

/-- The bytecode and the values of the constructor's arguments. -/
structure Contract.Deploys (contract : Contract) (positional : List Json)
    (keywords : List (String × Json)) (bytecode : Bytes) (values : List AbiValue) : Prop where
  bytecode : contract.bytecode = some bytecode
  arguments : ∃ merged,
    Arguments.merge contract.interface.constructorInputs positional keywords = .ok merged ∧
      Arguments.coerce contract.interface.constructorInputs merged = .ok values

section Deploys

variable {contract : Contract} {positional : List Json} {keywords : List (String × Json)}
  {bytecode data : Bytes} {values : List AbiValue} {deployment : Deployment}

theorem Contract.Deploys.eq_nil (deploys : contract.Deploys positional keywords bytecode values)
    (undeclared : contract.interface.constructor = none) :
    positional = [] ∧ keywords = [] ∧ AbiValue.encodeSequence values = [] := by
  rcases deploys.arguments with ⟨merged, merges, coerced⟩
  rw [Interface.constructorInputs, undeclared] at merges coerced
  exact Arguments.encode_nil_eq_ok_iff.mp
    (Arguments.encode_eq_ok_iff.mpr ⟨merged, values, merges, coerced, rfl⟩)

theorem Deployment.data_eq_ok_iff :
    deployment.data = .ok data ↔ ∃ values,
      data = deployment.bytecode ++ AbiValue.encodeSequence values ∧
      ∃ merged, Arguments.merge deployment.contract.interface.constructorInputs
          deployment.positional deployment.keywords = .ok merged ∧
        Arguments.coerce deployment.contract.interface.constructorInputs merged = .ok values := by
  constructor
  · intro encoded
    rw [Deployment.data] at encoded
    split at encoded
    · next arguments found =>
        cases encoded
        rw [Interface.encodeConstructor_eq_ok_iff, Arguments.encode_eq_ok_iff] at found
        rcases found with ⟨merged, values, merges, coerced, rfl⟩
        exact ⟨values, rfl, merged, merges, coerced⟩
    · cases encoded
  · intro settled
    rcases settled with ⟨values, rfl, merged, merges, coerced⟩
    have found := Interface.encodeConstructor_eq_ok_iff.mpr
      (Arguments.encode_eq_ok_iff.mpr ⟨merged, values, merges, coerced, rfl⟩)
    simp only [Deployment.data, found]

theorem Contract.deploy_eq_ok_iff :
    contract.deploy positional keywords = .ok deployment ↔ ∃ bytecode values,
      contract.Deploys positional keywords bytecode values ∧
        deployment = ⟨contract, bytecode, positional, keywords⟩ := by
  rw [deploy]
  cases present : contract.bytecode with
  | none =>
      simp only [reduceCtorEq, false_iff]
      intro settled
      rcases settled with ⟨bytecode, values, deploys, _⟩
      cases present.symm.trans deploys.bytecode
  | some bytecode =>
      constructor
      · dsimp only
        intro accepted
        split at accepted
        · next data encoded =>
            cases accepted
            rcases Deployment.data_eq_ok_iff.mp encoded with ⟨values, _, arguments⟩
            exact ⟨bytecode, values, ⟨present, arguments⟩, rfl⟩
        · cases accepted
      · intro settled
        rcases settled with ⟨code, values, deploys, rfl⟩
        cases present.symm.trans deploys.bytecode
        have encoded : Deployment.data ⟨contract, bytecode, positional, keywords⟩ = _ :=
          Deployment.data_eq_ok_iff.mpr ⟨values, rfl, deploys.arguments⟩
        simp only [encoded]

theorem Contract.deploy_fails_iff :
    (∃ reason, contract.deploy positional keywords = .error reason) ↔
      contract.bytecode = none ∨ ∀ merged values,
        Arguments.merge contract.interface.constructorInputs positional keywords = .ok merged →
          Arguments.coerce contract.interface.constructorInputs merged ≠ .ok values := by
  constructor
  · intro fails
    rcases fails with ⟨reason, failed⟩
    cases present : contract.bytecode with
    | none => exact .inl rfl
    | some bytecode =>
        refine .inr fun merged values merges coerced => ?_
        have accepted := deploy_eq_ok_iff.mpr
          ⟨bytecode, values, ⟨present, merged, merges, coerced⟩, rfl⟩
        cases failed.symm.trans accepted
  · intro lacking
    refine Traversal.exists_error_of_ne_ok fun deployment accepted => ?_
    rcases deploy_eq_ok_iff.mp accepted with ⟨bytecode, values, deploys, _⟩
    rcases deploys.arguments with ⟨merged, merges, coerced⟩
    rcases lacking with absent | uncoerced
    · cases absent.symm.trans deploys.bytecode
    · exact uncoerced merged values merges coerced

end Deploys

/-! ## Operations -/

/-- The transaction has no target and carries the data, and so does the object that states
it. -/
structure TransactionRequest.Carries (transaction : TransactionRequest) (data : Bytes) : Prop where
  target : transaction.target = none
  input : transaction.input = data
  statedTarget : transaction.toJson.member? "to" = none
  statedInput : transaction.toJson.member? "input" = some (.string (Bytes.toHex data))
  statedData : transaction.toJson.member? "data" = some (.string (Bytes.toHex data))

theorem TransactionRequest.carries_input {transaction : TransactionRequest}
    (untargeted : transaction.target = none) : transaction.Carries transaction.input := by
  have stated := transaction.statedBy_toJson
  exact ⟨untargeted, rfl, by rw [stated.target, untargeted]; rfl, stated.input, stated.data⟩

theorem TransactionRequest.Carries.of_completes {transaction built : TransactionRequest}
    {data : Bytes} (carries : transaction.Carries data) (completes : transaction.Completes built) :
    built.Carries data := by
  rcases completes with ⟨value, chainId, gas, gasPrice, rfl⟩
  cases carries.input
  exact carries_input carries.target

namespace Deployment

structure Refused (deployment : Deployment) (options : TransactionOptions)
    (refusal : ContractError) : Prop where
  transact : deployment.transact options = .done (.error refusal)
  estimateGas : ∀ block, deployment.estimateGas options block = .done (.error refusal)
  buildTransaction : deployment.buildTransaction options = .done (.error refusal)

/-- Every operation states the transaction to the node, and what is built completes it. -/
structure Sends (deployment : Deployment) (options : TransactionOptions) (endpoint : Endpoint)
    (transaction : TransactionRequest) (respondent : Respondent σ) (state : σ) : Prop where
  transact : (deployment.transact options).questions respondent state =
    [.node endpoint .sendTransaction [transaction.toJson]]
  estimateGas : ∀ block, (deployment.estimateGas options block).questions respondent state =
    [.node endpoint .estimateGas (transaction.toJson :: block.toList.map BlockId.toJson)]
  buildTransaction : ∀ built,
    ((deployment.buildTransaction options).run respondent state).1 = .ok built →
      transaction.Completes built

section Operations

variable {deployment : Deployment} {options : TransactionOptions} {data : Bytes}
  {endpoint : Endpoint} {transaction : TransactionRequest} {refusal : ContractError}

theorem refused_of_dispatch (refused : deployment.dispatch options = .error refusal) :
    deployment.Refused options refusal where
  transact := by rw [Deployment.transact, refused]
  estimateGas := by
    intro block
    rw [Deployment.estimateGas, refused]
  buildTransaction := by rw [Deployment.buildTransaction, refused]

theorem sends_of_dispatch (dispatched : deployment.dispatch options = .ok (transaction, endpoint))
    (respondent : Respondent σ) (state : σ) :
    deployment.Sends options endpoint transaction respondent state where
  transact := by
    rw [Deployment.transact, dispatched]
    exact questions_request ..
  estimateGas := by
    intro block
    rw [Deployment.estimateGas, dispatched]
    exact questions_request ..
  buildTransaction := by
    intro built succeeded
    rw [Deployment.buildTransaction, dispatched] at succeeded
    exact TransactionRequest.completes_fill (Prod.ext succeeded rfl)

theorem dispatch_of_data (encoded : deployment.data = .ok data) (options : TransactionOptions) :
    deployment.dispatch options =
      if options.target.isSome then .error (.conflictingParams .target)
      else if options.data.isSome then .error (.conflictingParams .data)
      else deployment.contract.node.map fun endpoint =>
        (options.request none data deployment.contract.defaultAccount, endpoint) := by
  rw [dispatch_eq_bind, Deployment.transaction, encoded]
  split
  · rfl
  · next untargeted =>
      dsimp only
      rw [TransactionOptions.merge]
      split
      · rfl
      · rw [if_neg (by simp)]
        rfl

/-- The result is none of the failures that the check of the data rules out. -/
structure Checked (result : Except ContractError α) : Prop where
  bytecode : result ≠ .error .noBytecode
  encoding : ∀ signature reason, result ≠ .error (.encoding signature reason)

theorem checked_of_not_refuses {result : Except ContractError α} (accepted : ¬ Refuses result) :
    Checked result := by
  constructor
  · rintro rfl
    exact accepted (refuses_error_iff.mpr rfl)
  · rintro signature reason rfl
    exact accepted (refuses_error_iff.mpr rfl)

theorem fault_of_dispatch (encoded : deployment.data = .ok data)
    (refused : deployment.dispatch options = .error refusal) :
    (∃ field, refusal = .conflictingParams field) ∨ refusal = .notInitialized := by
  rw [dispatch_of_data encoded] at refused
  split at refused
  · cases refused
    exact .inl ⟨_, rfl⟩
  · split at refused
    · cases refused
      exact .inl ⟨_, rfl⟩
    · have unconnected := Traversal.map_eq_error_iff.mp refused
      rw [Contract.node] at unconnected
      split at unconnected <;> cases unconnected
      exact .inr rfl

theorem checked_operations (encoded : deployment.data = .ok data) (options : TransactionOptions)
    (block : Option BlockId) (respondent : Respondent σ) (state : σ) :
    Checked ((deployment.transact options).run respondent state).1 ∧
      Checked ((deployment.estimateGas options block).run respondent state).1 ∧
      Checked ((deployment.buildTransaction options).run respondent state).1 := by
  -- What is refused is refused before any request; what is not ends with what the node says.
  cases dispatched : deployment.dispatch options with
  | error reason =>
      have refused := refused_of_dispatch dispatched
      rw [refused.transact, refused.estimateGas, refused.buildTransaction]
      rcases fault_of_dispatch encoded dispatched with ⟨field, rfl⟩ | rfl <;>
        exact ⟨⟨nofun, nofun⟩, ⟨nofun, nofun⟩, ⟨nofun, nofun⟩⟩
  | ok ready =>
      rcases ready with ⟨transaction, endpoint⟩
      rw [Deployment.transact, Deployment.estimateGas, Deployment.buildTransaction, dispatched]
      exact ⟨checked_of_not_refuses (requesting_request respondent _ _ _ _ state).not_refuses,
        checked_of_not_refuses (requesting_request respondent _ _ _ _ state).not_refuses,
        checked_of_not_refuses (transaction.requesting_fill respondent endpoint state).not_refuses⟩

end Operations

end Deployment

/-- Deploying fails exactly if there is no bytecode or the arguments are not those of the
constructor. What is accepted settles what every transaction carries: the bytecode and the
encoded arguments. After that only the options can conflict or a node be missing. -/
theorem Contract.deployed_as_checked (contract : Contract) (positional : List Json)
    (keywords : List (String × Json)) (respondent : Respondent σ) (state : σ) :
    ((∃ reason, contract.deploy positional keywords = .error reason) ↔
      contract.bytecode = none ∨ ∀ merged values,
        Arguments.merge contract.interface.constructorInputs positional keywords = .ok merged →
          Arguments.coerce contract.interface.constructorInputs merged ≠ .ok values) ∧
    ∀ deployment, contract.deploy positional keywords = .ok deployment →
      ∃ bytecode values, contract.Deploys positional keywords bytecode values ∧
        (contract.interface.constructor = none →
          positional = [] ∧ keywords = [] ∧ AbiValue.encodeSequence values = []) ∧
        (∀ options block,
          Deployment.Checked ((deployment.transact options).run respondent state).1 ∧
          Deployment.Checked ((deployment.estimateGas options block).run respondent state).1 ∧
          Deployment.Checked ((deployment.buildTransaction options).run respondent state).1) ∧
        (∀ options, options.target.isSome = true →
          deployment.Refused options (.conflictingParams .target)) ∧
        (∀ options, options.target = none → options.data.isSome = true →
          deployment.Refused options (.conflictingParams .data)) ∧
        ∀ options, options.target = none → options.data = none →
          (contract.endpoint = none → deployment.Refused options .notInitialized) ∧
          ∀ endpoint, contract.endpoint = some endpoint → ∃ transaction,
            transaction = options.request none (bytecode ++ AbiValue.encodeSequence values)
              contract.defaultAccount ∧
            transaction.Carries (bytecode ++ AbiValue.encodeSequence values) ∧
            deployment.Sends options endpoint transaction respondent state ∧
            ∀ built, ((deployment.buildTransaction options).run respondent state).1 = .ok built →
              built.Carries (bytecode ++ AbiValue.encodeSequence values) := by
  refine ⟨deploy_fails_iff, ?_⟩
  intro deployment accepted
  rcases deploy_eq_ok_iff.mp accepted with ⟨bytecode, values, deploys, rfl⟩
  have encoded : Deployment.data ⟨contract, bytecode, positional, keywords⟩ = _ :=
    Deployment.data_eq_ok_iff.mpr ⟨values, rfl, deploys.arguments⟩
  have dispatch := Deployment.dispatch_of_data encoded
  refine ⟨bytecode, values, deploys, deploys.eq_nil, ?_, ?_, ?_, ?_⟩
  · intro options block
    exact Deployment.checked_operations encoded options block respondent state
  · intro options targeted
    exact Deployment.refused_of_dispatch (by rw [dispatch, if_pos targeted])
  · intro options untargeted given
    exact Deployment.refused_of_dispatch (by rw [dispatch, untargeted, given]; rfl)
  · intro options untargeted absent
    let data := bytecode ++ AbiValue.encodeSequence values
    have carries : (options.request none data contract.defaultAccount).Carries data :=
      TransactionRequest.carries_input untargeted
    have prepared := dispatch options
    rw [untargeted, absent, Contract.node] at prepared
    refine ⟨fun unconnected => ?_, fun endpoint connected => ?_⟩
    · exact Deployment.refused_of_dispatch (by rw [prepared, unconnected]; rfl)
    · rw [connected] at prepared
      have sends := Deployment.sends_of_dispatch prepared respondent state
      exact ⟨_, rfl, carries, sends, fun built succeeded =>
        carries.of_completes (sends.buildTransaction built succeeded)⟩

def Contract.minting : Contract where
  interface := { Interface.empty with
    constructor := some ⟨[⟨"supply", "uint256", none, []⟩], .nonpayable⟩ }
  address := none
  bytecode := some [0x60, 0x80, 0x60, 0x40]
  endpoint := some ⟨"http://localhost:8545", 30000⟩
  defaultAccount := none

theorem Contract.deployed_as_checked_minting :
    let deployment : Deployment := ⟨minting, [0x60, 0x80, 0x60, 0x40], [.string "7"], []⟩
    minting.deploy [.string "7"] [] = .ok deployment ∧
      (deployment.transact .empty).questions (.ofNodes fun _ _ => .ok .null) () =
        [.node ⟨"http://localhost:8545", 30000⟩ .sendTransaction
          [(TransactionOptions.empty.request none
            ([0x60, 0x80, 0x60, 0x40] ++ AbiValue.encodeSequence [.uint 7 256]) none).toJson]] ∧
      deployment.Refused { TransactionOptions.empty with data := some [] }
        (.conflictingParams .data) := by
  intro deployment
  have merges : Arguments.merge minting.interface.constructorInputs [.string "7"] [] =
      .ok [.string "7"] := by rfl
  have coerced : Arguments.coerce minting.interface.constructorInputs [.string "7"] =
      .ok [.uint 7 256] := by rfl
  have accepted : minting.deploy [.string "7"] [] = .ok deployment :=
    deploy_eq_ok_iff.mpr ⟨_, _, ⟨rfl, _, merges, coerced⟩, rfl⟩
  rcases deployed_as_checked minting [.string "7"] [] (.ofNodes fun _ _ => .ok .null) ()
    with ⟨_, settled⟩
  rcases settled deployment accepted with ⟨bytecode, values, deploys, _, _, _, conflicts, sends⟩
  rcases deploys with ⟨present, merged, merges', coerced'⟩
  cases present
  cases merges.symm.trans merges'
  cases coerced.symm.trans coerced'
  rcases (sends .empty rfl rfl).2 _ rfl with ⟨transaction, same, _, sends, _⟩
  subst same
  exact ⟨accepted, sends.transact, conflicts _ rfl rfl⟩

end ContractClient
