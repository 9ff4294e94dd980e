import ContractClient.Proofs.TransactionDefaults

/-! What filling in a transaction results in. A transaction that has been filled in lacks
nothing, and filling it in again asks nothing. -/

namespace ContractClient.TransactionRequest

open Dialogue

/-! ## What lacks nothing -/

/-- A transaction that lacks nothing but, at most, a nonce. -/
structure Filled (request : TransactionRequest) : Prop where
  value : request.value.isSome = true
  chain : request.chainId.isSome = true
  fee : request.hasFee = true
  gas : request.gas.isSome = true

theorem Filled.fill_eq {request : TransactionRequest} (filled : request.Filled)
    (endpoint : Endpoint) : request.fill endpoint = .done (.ok request) := by
  rcases Option.isSome_iff_exists.mp filled.value with ⟨value, transferred⟩
  rcases Option.isSome_iff_exists.mp filled.chain with ⟨chain, identified⟩
  rcases Option.isSome_iff_exists.mp filled.gas with ⟨gas, limited⟩
  have kept : request.fillValue = request := by
    rw [fillValue, transferred, Option.getD_some, ← transferred]
  have known : fillChainId endpoint request = .done (.ok request) := by
    rw [fillChainId, identified]
  have priced : fillFee endpoint request = .done (.ok request) := if_pos filled.fee
  have estimated : fillGas endpoint request = .done (.ok request) := by
    rw [fillGas, limited]
  rw [fill, kept, known, andThen, done_bind]
  simp only [priced, estimated, andThen, done_bind]

theorem Completes.value {request completed : TransactionRequest}
    (completes : request.fillValue.Completes completed) :
    completed.value = some (request.value.getD 0) := by
  rcases completes with ⟨value, chainId, gas, gasPrice, rfl⟩
  rfl

theorem Due.keeps_fee {request next : TransactionRequest} {inquiry : Inquiry} {reply : Json}
    (due : request.Due inquiry) (read : inquiry.accept reply = some next)
    (fee : request.hasFee = true) : next.gasPrice = request.gasPrice ∧ next.hasFee = true := by
  cases due with
  | chain unset | gas chain fee unset =>
      rcases Option.map_eq_some_iff.mp read with ⟨number, _, rfl⟩
      exact ⟨rfl, fee⟩
  | fee chain unset => cases fee.symm.trans unset

theorem Due.lacks {request : TransactionRequest} {inquiry : Inquiry} (due : request.Due inquiry)
    (chain : request.chainId.isSome = true) (fee : request.hasFee = true) :
    request.gas = none := by
  cases due with
  | chain unset => cases (congrArg Option.isSome unset).symm.trans chain
  | fee chain unset => cases fee.symm.trans unset
  | gas chain fee unset => exact unset

namespace Filling

variable {endpoint : Endpoint} {request completed : TransactionRequest}
  {exchanges before later : List (Exchange σ)} {exchange : Exchange σ}
  {result : Except ContractError TransactionRequest}

theorem lacks_nothing (filling : Filling endpoint request exchanges result)
    (succeeded : result = .ok completed) :
    completed.chainId.isSome = true ∧ completed.hasFee = true ∧ completed.gas.isSome = true := by
  induction filling with
  | settled chain fee gas => cases succeeded; exact ⟨chain, fee, gas⟩
  | failed | unread => cases succeeded
  | replied due read rest induction => exact induction succeeded

theorem gasPrice_eq (filling : Filling endpoint request exchanges result)
    (succeeded : result = .ok completed) (fee : request.hasFee = true) :
    completed.gasPrice = request.gasPrice := by
  induction filling with
  | settled => cases succeeded; rfl
  | failed | unread => cases succeeded
  | replied due read rest induction =>
      have kept := due.keeps_fee read fee
      exact (induction succeeded kept.2).trans kept.1

theorem exists_stage (filling : Filling endpoint request exchanges result)
    (parts : exchanges = before ++ exchange :: later) :
    ∃ stage, request.Completes stage ∧ Filling endpoint stage (exchange :: later) result := by
  -- A run that ends with its first exchange has nothing after it, so only a reply that was
  -- read can stand before another exchange.
  induction before generalizing request exchanges with
  | nil =>
      subst parts
      exact ⟨request, .refl request, filling⟩
  | cons earlier before induction =>
      cases filling with
      | settled => cases parts
      | failed | unread => cases before <;> cases parts
      | replied due read rest =>
          rcases induction rest (List.cons.inj parts).2 with ⟨stage, completes, filling⟩
          exact ⟨stage, (due.completes read).trans completes, filling⟩

theorem result_eq (filling : Filling endpoint request exchanges result)
    (chain : request.chainId.isSome = true) (fee : request.hasFee = true)
    (gas : request.gas.isSome = true) : result = .ok request := by
  cases filling with
  | settled => rfl
  | failed due | unread due | replied due =>
      rw [due.lacks chain fee] at gas
      cases gas

end Filling

/-- What follows the answer to an inquiry. A failure or a reply that cannot be read ends the
run; one that can be read goes into the result, and ends the run if nothing else is open. -/
inductive Ensues (inquiry : Inquiry) (later : List (Exchange σ))
    (result : Except ContractError TransactionRequest) : Except TransportError Json → Prop
  | failed {error : TransportError} (last : later = [])
      (reported : result = .error (.transport error)) : Ensues inquiry later result (.error error)
  | unread {reply : Json} (unreadable : inquiry.accept reply = none) (last : later = [])
      (reported : result = .error (.transport .deserialization)) :
      Ensues inquiry later result (.ok reply)
  | replied {reply : Json} {next : TransactionRequest} (read : inquiry.accept reply = some next)
      (settled : later = [] → result = .ok next)
      (kept : ∀ completed, result = .ok completed → next.Completes completed) :
      Ensues inquiry later result (.ok reply)

section Results

variable {endpoint : Endpoint} {request : TransactionRequest} {later : List (Exchange σ)}
  {exchange : Exchange σ} {result : Except ContractError TransactionRequest}

theorem Filling.ensues (filling : Filling endpoint request (exchange :: later) result) :
    ∃ inquiry answer after, request.Due inquiry ∧
      exchange = ⟨.node endpoint inquiry.method inquiry.parameters, answer, after⟩ ∧
      Ensues inquiry later result answer := by
  cases filling with
  | failed due => exact ⟨_, _, _, due, rfl, .failed rfl rfl⟩
  | unread due unreadable => exact ⟨_, _, _, due, rfl, .unread unreadable rfl rfl⟩
  | replied due read rest =>
      refine ⟨_, _, _, due, rfl, .replied read ?_ fun completed => rest.completes⟩
      intro last
      subst last
      cases rest with
      | settled => rfl

theorem Filling.estimate (filling : Filling endpoint request (exchange :: later) result)
    (estimates : exchange.method? = some .estimateGas) :
    exchange.question = .node endpoint .estimateGas [request.toJson] ∧
      request.chainId.isSome = true ∧ request.hasFee = true ∧ request.gas = none ∧
      ∀ completed, result = .ok completed → request = { completed with gas := none } := by
  cases filling with
  | failed due | unread due =>
      cases due with
      | chain | fee => cases estimates
      | gas chain fee unset => exact ⟨rfl, chain, fee, unset, nofun⟩
  | replied due read rest =>
      cases due with
      | chain | fee => cases estimates
      | gas chain fee unset =>
          refine ⟨rfl, chain, fee, unset, fun completed succeeded => ?_⟩
          rcases Option.map_eq_some_iff.mp read with ⟨gas, _, rfl⟩
          cases (rest.result_eq chain fee rfl).symm.trans succeeded
          rw [← unset]

end Results

/-- Filling in asks, in order, for the chain, a fee and the gas as far as they are open, each
time about the transaction as it is by then; the first answer that is of no use ends it with
its error. What it results in has what was set unchanged, has no fee beside one that was set,
lacks nothing, and is left as it is by filling it in again. -/
theorem fill_settles (respondent : Respondent σ) (endpoint : Endpoint)
    (request : TransactionRequest) (state : σ) :
    (∃ asked,
      ((request.fill endpoint).exchanges respondent state).map Exchange.method? =
          asked.map some ∧
        asked <+: request.openMethods ∧ (asked = [] → request.openMethods = []) ∧
        (((request.fill endpoint).run respondent state).1.isOk = true →
          asked = request.openMethods)) ∧
    (∀ before exchange later,
      (request.fill endpoint).exchanges respondent state = before ++ exchange :: later →
        ∃ stage inquiry answer after, request.fillValue.Completes stage ∧ stage.Due inquiry ∧
          exchange = ⟨.node endpoint inquiry.method inquiry.parameters, answer, after⟩ ∧
          Ensues inquiry later ((request.fill endpoint).run respondent state).1 answer) ∧
    (∀ exchange ∈ (request.fill endpoint).exchanges respondent state,
      exchange.method? = some .estimateGas →
        ∃ stage : TransactionRequest,
          exchange.question = .node endpoint .estimateGas [stage.toJson] ∧
          request.Completes stage ∧ stage.value.isSome = true ∧ stage.chainId.isSome = true ∧
          stage.hasFee = true ∧ stage.gas = none ∧
          ∀ completed, ((request.fill endpoint).run respondent state).1 = .ok completed →
            stage = { completed with gas := none }) ∧
    (∀ completed, ((request.fill endpoint).run respondent state).1 = .ok completed →
      request.Completes completed ∧ completed.value = some (request.value.getD 0) ∧
        completed.Filled ∧
        (request.hasFee = true → completed.gasPrice = request.gasPrice ∧
          completed.maxFeePerGas = request.maxFeePerGas ∧
          completed.maxPriorityFeePerGas = request.maxPriorityFeePerGas) ∧
        ∀ elsewhere, completed.fill elsewhere = .done (.ok completed)) := by
  have filling := filling_fill respondent endpoint request state
  have valued := completes_fillValue request
  refine ⟨(requesting_fill respondent endpoint request state).asked, ?_, ?_, ?_⟩
  · intro before exchange later parts
    rcases filling.exists_stage parts with ⟨stage, completes, rest⟩
    rcases rest.ensues with ⟨inquiry, answer, after, due, same, ensues⟩
    exact ⟨stage, inquiry, answer, after, completes, due, same, ensues⟩
  · intro exchange member estimates
    rcases List.append_of_mem member with ⟨before, later, parts⟩
    rcases filling.exists_stage parts with ⟨stage, completes, rest⟩
    rcases rest.estimate estimates with ⟨same, chain, fee, gas, all⟩
    exact ⟨stage, same, valued.trans completes, by rw [completes.value]; rfl, chain, fee, gas,
      all⟩
  · intro completed succeeded
    have completes := filling.completes succeeded
    have lacks := filling.lacks_nothing succeeded
    have filled : completed.Filled :=
      ⟨by rw [completes.value]; rfl, lacks.1, lacks.2.1, lacks.2.2⟩
    refine ⟨valued.trans completes, completes.value, filled, ?_, filled.fill_eq⟩
    intro fee
    refine ⟨filling.gasPrice_eq succeeded fee, ?_⟩
    rcases completes with ⟨value, chainId, gas, gasPrice, rfl⟩
    exact ⟨rfl, rfl⟩

def capped : TransactionRequest :=
  ⟨none, none, none, none, none, some 30, none, none, none, []⟩

def estimating : Respondent Unit :=
  .ofNodes fun
    | _, .chainId => .ok (.string "0x1")
    | _, .estimateGas => .ok (.string "0x5208")
    | _, _ => .error (.timeout 30000)

theorem fill_settles_capped :
    let endpoint : Endpoint := ⟨"http://localhost:8545", 30000⟩
    let completed := { capped with value := some 0, gas := some 21000, chainId := some 1 }
    ((capped.fill endpoint).run estimating ()).1 = .ok completed ∧ completed.gasPrice = none ∧
      completed.fill endpoint = .done (.ok completed) ∧
      ∃ exchange ∈ (capped.fill endpoint).exchanges estimating (),
        exchange.question =
          .node endpoint .estimateGas [{ completed with gas := none }.toJson] := by
  intro endpoint completed
  have ended : ((capped.fill endpoint).run estimating ()).1 = .ok completed := rfl
  let estimate : Exchange Unit :=
    ⟨.node endpoint .estimateGas [{ completed with gas := none }.toJson], .ok (.string "0x5208"),
      ()⟩
  have exchanges : (capped.fill endpoint).exchanges estimating () =
      [⟨.node endpoint .chainId [], .ok (.string "0x1"), ()⟩, estimate] := rfl
  have member : estimate ∈ (capped.fill endpoint).exchanges estimating () := by
    rw [exchanges]
    exact .tail _ (.head _)
  rcases fill_settles estimating endpoint capped () with ⟨_, _, estimates, succeeds⟩
  rcases succeeds completed ended with ⟨_, _, _, unpriced, again⟩
  rcases estimates estimate member rfl with ⟨stage, asked, _, _, _, _, _, same⟩
  rw [same completed ended] at asked
  exact ⟨ended, (unpriced rfl).1, again endpoint, estimate, member, asked⟩

end ContractClient.TransactionRequest
