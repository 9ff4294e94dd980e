import ContractClient.Proofs.Calls
import ContractClient.Proofs.Dispatching
import ContractClient.Proofs.TransactionDefaults

/-! Operations of contract handles fail fast. A failure of the input is found before
any request, and a failed request is the end: nothing is tried again, and no failure
is passed over except for a lookup that a call follows. -/

namespace ContractClient

open Dialogue

/-! ## Calls -/

namespace OffchainLookup

section Following

variable {respondent : Respondent σ} {endpoint : Endpoint} {context : List Json}
  {redirects : Nat} {request : TransactionRequest} {lookup : OffchainLookup} {state : σ}
  {exchanges : List (Exchange σ)} {result : Except ContractError Json}

theorem Following.not_refuses
    (following : Following respondent endpoint context redirects request lookup state exchanges
      result) : ¬ Refuses result := by
  induction following with
  | exhausted | foreign | failed => simp [refuses_error_iff, ContractError.isOfInput]
  | unanswered own asking =>
      rcases asking.error_of_lookup with ⟨why, rfl⟩
      simp [refuses_error_iff, ContractError.isOfInput]
  | replied => exact not_refuses_ok _
  | redirected _ _ _ _ _ induction => exact induction

theorem Following.failsFast {fatal : TransportError → Prop}
    (following : Following respondent endpoint context redirects request lookup state exchanges
      result)
    (plain : ∀ error, fatal error → ofError? error = none) :
    Exchange.FailsFast fatal result exchanges := by
  induction following with
  | exhausted | foreign => trivial
  | unanswered own asking =>
      exact Exchange.failsFast_of_answered fun _ => asking.failure_of_mem
  | replied own asking =>
      exact Exchange.failsFast_append (fun _ => asking.failure_of_mem) ⟨nofun, trivial⟩
  | failed own asking =>
      refine Exchange.failsFast_append (fun _ => asking.failure_of_mem) ⟨?_, trivial⟩
      intro error failed _
      cases failed
      exact ⟨rfl, rfl⟩
  | redirected own asking answered another rest induction =>
      refine Exchange.failsFast_append (fun _ => asking.failure_of_mem) ⟨?_, induction⟩
      intro error failed deadly
      cases failed
      cases another.symm.trans (plain _ deadly)

theorem Following.eq_nil_of_foreign
    (following : Following respondent endpoint context redirects request lookup state exchanges
      result)
    (other : request.target ≠ some lookup.sender) : exchanges = [] := by
  cases following with
  | exhausted | foreign => rfl
  | unanswered own | replied own | failed own | redirected own => exact absurd own other

end Following

end OffchainLookup

namespace BoundFunction

section Calling

variable {respondent : Respondent σ} {bound : BoundFunction} {options : CallOptions} {state : σ}
  {exchanges : List (Exchange σ)} {result : Except ContractError ReturnValue}

theorem not_refuses_bind_readOutput {reply : Except ContractError Json}
    (entry : Option FunctionEntry) (accepted : ¬ Refuses reply) :
    ¬ Refuses (reply.bind (readOutput entry)) := by
  cases reply with
  | error reason =>
      rw [refuses_error_iff] at accepted
      rwa [Except.bind, refuses_error_iff]
  | ok reply => exact not_refuses_readOutput entry reply

theorem Calling.eq_nil_of_refuses
    (calling : Calling respondent bound options state exchanges result)
    (refused : Refuses result) : exchanges = [] := by
  cases calling with
  | refused => rfl
  | replied => exact absurd refused (not_refuses_readOutput _ _)
  | failed => simp [refuses_error_iff, ContractError.isOfInput] at refused
  | followed _ _ _ _ following =>
      exact absurd refused (not_refuses_bind_readOutput _ following.not_refuses)

theorem Calling.failsFast
    (calling : Calling respondent bound options state exchanges result) :
    Exchange.FailsFast
      (fun error => ¬ (options.offchain = true ∧ (OffchainLookup.ofError? error).isSome = true))
      result exchanges := by
  cases calling with
  | refused => trivial
  | replied => exact ⟨nofun, trivial⟩
  | failed =>
      refine ⟨?_, trivial⟩
      intro error failed _
      cases failed
      exact ⟨rfl, rfl⟩
  | followed _ _ enabled carried following =>
      refine ⟨?_, Exchange.FailsFast.bind _ (following.failsFast ?_)⟩
      · intro error failed deadly
        cases failed
        exact absurd ⟨enabled, by rw [carried]; rfl⟩ deadly
      · intro error deadly
        simpa [enabled] using deadly

theorem Calling.asked_one
    (calling : Calling respondent bound options state exchanges result)
    (accepted : ¬ Refuses result)
    (unfollowed : ∀ exchange ∈ exchanges, ∀ lookup, exchange.lookup? = some lookup →
      options.offchain = true →
      bound.contract.address.or options.transaction.target ≠ some lookup.sender) :
    exchanges.map Exchange.method? = [some .call] := by
  cases calling with
  | refused dispatched =>
      exact absurd (refuses_error_iff.mpr (isOfInput_of_dispatch dispatched)) accepted
  | replied | failed => rfl
  | followed dispatched _ enabled carried following =>
      have other := unfollowed _ (.head _) _ carried enabled
      rw [following.eq_nil_of_foreign (by rwa [(eq_of_dispatch dispatched).2.1])]
      rfl

end Calling

end BoundFunction

/-! ## Operations -/

def TransactionOptions.openMethods (options : TransactionOptions) : List Method :=
  (options.request none [] none).openMethods

theorem TransactionOptions.openMethods_of_request {options : TransactionOptions}
    {target : Option Address} {input : Bytes} {defaultSender : Option Address}
    {request : TransactionRequest} (stated : request = options.request target input defaultSender) :
    request.openMethods = options.openMethods := by
  rw [stated]
  rfl

/-- The operations of contract handles that may ask a node. -/
inductive ContractWork where
  | call (bound : BoundFunction) (options : CallOptions)
  | transact (bound : BoundFunction) (options : TransactionOptions)
  | estimateGas (bound : BoundFunction) (options : TransactionOptions) (block : Option BlockId)
  | buildTransaction (bound : BoundFunction) (options : TransactionOptions)
  | deploy (deployment : Deployment) (options : TransactionOptions)
  | estimateDeployment (deployment : Deployment) (options : TransactionOptions)
      (block : Option BlockId)
  | buildDeployment (deployment : Deployment) (options : TransactionOptions)
  | getLogs (event : ContractEvent) (options : FilterOptions)
  | createFilter (event : ContractEvent) (options : FilterOptions)
  | deployFilter (builder : FilterBuilder) (endpoint : Endpoint)

namespace ContractWork

abbrev Result : ContractWork → Type
  | call .. => ReturnValue
  | transact .. | deploy .. => Word
  | estimateGas .. | estimateDeployment .. => Nat
  | buildTransaction .. | buildDeployment .. => TransactionRequest
  | getLogs .. => List DecodedEvent
  | createFilter .. | deployFilter .. => LiveFilter

def perform : (work : ContractWork) → Dialogue (Except ContractError work.Result)
  | call bound options => bound.call options
  | transact bound options => bound.transact options
  | estimateGas bound options block => bound.estimateGas options block
  | buildTransaction bound options => bound.buildTransaction options
  | deploy deployment options => deployment.transact options
  | estimateDeployment deployment options block => deployment.estimateGas options block
  | buildDeployment deployment options => deployment.buildTransaction options
  | getLogs event options => event.getLogs options
  | createFilter event options => event.createFilter options
  | deployFilter builder endpoint => builder.deploy endpoint

/-- The failures that need not be the end: those of a call that carry a lookup. -/
def Tolerates : ContractWork → TransportError → Prop
  | call _ options, error =>
      options.offchain = true ∧ (OffchainLookup.ofError? error).isSome = true
  | _, _ => False

def Follows : ContractWork → TransportError → Prop
  | call bound options, error =>
      options.offchain = true ∧ ∃ lookup, OffchainLookup.ofError? error = some lookup ∧
        bound.contract.address.or options.transaction.target = some lookup.sender
  | _, _ => False

def methods : ContractWork → List Method
  | call .. => [.call]
  | transact .. | deploy .. => [.sendTransaction]
  | estimateGas .. | estimateDeployment .. => [.estimateGas]
  | buildTransaction _ options | buildDeployment _ options => options.openMethods
  | getLogs .. => [.getLogs]
  | createFilter .. | deployFilter .. => [.newFilter]

/-- The requests that are sent: all that are due, but where a transaction is built a
failure leaves out the later ones. -/
def Asks : (work : ContractWork) → Except ContractError work.Result → List Method → Prop
  | buildTransaction _ options, result, asked | buildDeployment _ options, result, asked =>
      asked <+: options.openMethods ∧ (asked = [] → options.openMethods = []) ∧
        (result.isOk = true → asked = options.openMethods)
  | work, _, asked => asked = work.methods

/-- The ways in which operations go. -/
inductive Going (respondent : Respondent σ) (state : σ) : (work : ContractWork) →
    List (Exchange σ) → Except ContractError work.Result → Prop
  | refused {work : ContractWork} {reason : ContractError} (fault : reason.isOfInput = true) :
      Going respondent state work [] (.error reason)
  | called {bound : BoundFunction} {options : CallOptions} {exchanges : List (Exchange σ)}
      {result : Except ContractError ReturnValue}
      (calling : bound.Calling respondent options state exchanges result) :
      Going respondent state (.call bound options) exchanges result
  | requested {work : ContractWork} {exchanges : List (Exchange σ)}
      {result : Except ContractError work.Result}
      (requesting : Requesting work.methods exchanges result) :
      Going respondent state work exchanges result

theorem going_perform (work : ContractWork) (respondent : Respondent σ) (state : σ) :
    Going respondent state work (work.perform.exchanges respondent state)
      (work.perform.run respondent state).1 := by
  cases work with
  | call bound options => exact .called (BoundFunction.calling_call respondent bound options state)
  | transact bound options | estimateGas bound options block =>
      simp only [perform, BoundFunction.transact, BoundFunction.estimateGas]
      split
      · next refused => exact .refused (BoundFunction.isOfInput_of_dispatch refused)
      · exact .requested (requesting_request respondent _ _ _ _ state)
  | buildTransaction bound options =>
      simp only [perform, BoundFunction.buildTransaction]
      split
      · next refused => exact .refused (BoundFunction.isOfInput_of_dispatch refused)
      · next ready dispatched =>
          have stated := (BoundFunction.eq_of_dispatch dispatched).2.1
          have filling := ready.request.requesting_fill respondent ready.endpoint state
          rw [TransactionOptions.openMethods_of_request stated] at filling
          exact .requested filling
  | deploy deployment options | estimateDeployment deployment options block =>
      simp only [perform, Deployment.transact, Deployment.estimateGas]
      split
      · next refused => exact .refused (Deployment.isOfInput_of_dispatch refused)
      · exact .requested (requesting_request respondent _ _ _ _ state)
  | buildDeployment deployment options =>
      simp only [perform, Deployment.buildTransaction]
      split
      · next refused => exact .refused (Deployment.isOfInput_of_dispatch refused)
      · next request endpoint dispatched =>
          rcases Deployment.eq_of_dispatch dispatched with ⟨data, _, stated⟩
          have filling := request.requesting_fill respondent endpoint state
          rw [TransactionOptions.openMethods_of_request stated] at filling
          exact .requested filling
  | getLogs event options =>
      simp only [perform, ContractEvent.getLogs]
      split
      · next refused => exact .refused (FilterBuilder.isOfInput_of_build refused)
      · split
        · next refused => exact .refused (Contract.isOfInput_of_node refused)
        · refine .requested (requesting_request_andThen ?_ state)
          intro reply logs after read
          exact .settled (event.event.not_refuses_decodeLogs logs)
  | createFilter event options =>
      simp only [perform, ContractEvent.createFilter]
      split
      · exact .refused rfl
      · split
        · next refused => exact .refused (Contract.isOfInput_of_node refused)
        · rw [FilterBuilder.deploy]
          split
          · next refused => exact .refused (FilterBuilder.isOfInput_of_build refused)
          · exact .requested (requesting_request respondent _ _ _ _ state)
  | deployFilter builder endpoint =>
      simp only [perform, FilterBuilder.deploy]
      split
      · next refused => exact .refused (FilterBuilder.isOfInput_of_build refused)
      · exact .requested (requesting_request respondent _ _ _ _ state)

section Going

variable {respondent : Respondent σ} {state : σ} {work : ContractWork}
  {exchanges : List (Exchange σ)} {result : Except ContractError work.Result}

theorem Going.eq_nil_of_refuses (going : Going respondent state work exchanges result)
    (refused : Refuses result) : exchanges = [] := by
  cases going with
  | refused => rfl
  | called calling => exact calling.eq_nil_of_refuses refused
  | requested requesting => exact absurd refused requesting.not_refuses

theorem Going.failsFast (going : Going respondent state work exchanges result) :
    Exchange.FailsFast (fun error => ¬ work.Tolerates error) result exchanges := by
  cases going with
  | refused => trivial
  | called calling => exact calling.failsFast
  | requested requesting => exact requesting.failsFast _

theorem Going.asked (going : Going respondent state work exchanges result)
    (accepted : ¬ Refuses result)
    (unfollowed : ∀ exchange ∈ exchanges, ∀ error, exchange.failure? = some error →
      ¬ work.Follows error) :
    ∃ asked, exchanges.map Exchange.method? = asked.map some ∧ work.Asks result asked := by
  cases going with
  | refused fault => exact absurd (refuses_error_iff.mpr fault) accepted
  | called calling =>
      refine ⟨[.call], calling.asked_one accepted ?_, rfl⟩
      intro exchange member lookup found enabled own
      rcases Option.bind_eq_some_iff.mp found with ⟨error, failed, carried⟩
      exact unfollowed exchange member error failed ⟨enabled, lookup, carried, own⟩
  | requested requesting =>
      cases work with
      | buildTransaction | buildDeployment => exact requesting.asked
      | call | transact | estimateGas | deploy | estimateDeployment | getLogs | createFilter
      | deployFilter => exact ⟨[_], requesting.asked_one, rfl⟩

end Going

/-- A failure of the input asks nothing. A failed request, unless it is a call's and
carries a lookup that may be followed, is the last and its error is the result. An
operation that is not refused, and follows no lookup, sends the requests that are due and
asks nothing else. -/
theorem fails_fast (work : ContractWork) (respondent : Respondent σ) (state : σ) :
    (Refuses (work.perform.run respondent state).1 →
      work.perform.exchanges respondent state = []) ∧
    (∀ before exchange after error,
      work.perform.exchanges respondent state = before ++ exchange :: after →
        exchange.failure? = some error → ¬ work.Tolerates error →
          after = [] ∧ (work.perform.run respondent state).1 = .error (.transport error)) ∧
    (¬ Refuses (work.perform.run respondent state).1 →
      (∀ exchange ∈ work.perform.exchanges respondent state, ∀ error,
        exchange.failure? = some error → ¬ work.Follows error) →
      ∃ asked, (work.perform.exchanges respondent state).map Exchange.method? = asked.map some ∧
        work.Asks (work.perform.run respondent state).1 asked) := by
  have going := going_perform work respondent state
  refine ⟨going.eq_nil_of_refuses, ?_, going.asked⟩
  intro before exchange after error split failed deadly
  have failsFast := going.failsFast
  rw [split] at failsFast
  exact failsFast.last failed deadly

def unpriced : Respondent Unit
  | .node _ .chainId _, state => (.ok (.string "0x1"), state)
  | .node .., state => (.error (.timeout 30000), state)
  | .gateway .., state => (.error (.unavailable "offline"), state)
  | .fetch _, state => (.error (.unsent "offline"), state)
  | .load _, state => (.error .missing, state)
  | .store .., state => ((), state)

theorem fails_fast_unpriced :
    ((buildTransaction .relay .empty).perform.run unpriced ()).1 =
      .error (.transport (.timeout 30000)) := by
  let endpoint : Endpoint := ⟨"http://localhost:8545", 30000⟩
  have exchanges : (buildTransaction .relay .empty).perform.exchanges unpriced () =
      [⟨.node endpoint .chainId [], .ok (.string "0x1"), ()⟩] ++
        ⟨.node endpoint .gasPrice [], .error (.timeout 30000), ()⟩ :: [] := rfl
  rcases fails_fast (.buildTransaction .relay .empty) unpriced () with ⟨_, stops, _⟩
  exact (stops _ _ _ _ exchanges rfl id).2

end ContractWork

end ContractClient
