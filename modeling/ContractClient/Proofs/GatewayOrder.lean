import ContractClient.Proofs.OffchainFollowing

/-! The order in which gateways are asked. The gateways of a lookup are asked one after the other,
in the order of its list, until one of them answers or refuses. The last answer decides what
becomes of the lookup, and where it is no response the contract is not called back. -/

namespace ContractClient

def Exchange.gatewayAnswer? : Exchange σ → Option (Except GatewayError Bytes)
  | ⟨.gateway .., answer, _⟩ => some answer
  | _ => none

namespace OffchainLookup

open Dialogue

def isUnavailable : Except GatewayError Bytes → Bool
  | .error (.unavailable _) => true
  | _ => false

/-- What the last answer of its gateways makes of a lookup. -/
def settle : Option (Except GatewayError Bytes) → Except ContractError Bytes
  | none => .error (.offchainLookup .noUrls)
  | some (.ok response) => .ok response
  | some (.error (.rejected reason)) | some (.error (.unavailable reason)) =>
      .error (.offchainLookup (.gateway reason))

/-- Gateways are asked in the order of the list, each once, as far as the first whose answer
is not that it is unavailable. The last answer settles the outcome; `earlier` is the one before
these. -/
structure FailsOver (lookup : OffchainLookup) (earlier : Option (Except GatewayError Bytes))
    (urls : List String) (asked : List (Exchange σ)) (answers : List (Except GatewayError Bytes))
    (outcome : Except ContractError Bytes) : Prop where
  inOrder : asked.map Exchange.question = (urls.take answers.length).map lookup.gatewayQuestion
  answered : asked.map Exchange.gatewayAnswer? = answers.map some
  goesOn : ∀ answer ∈ answers.dropLast, isUnavailable answer = true
  stops : answers.length < urls.length →
    ∃ answer, answers.getLast? = some answer ∧ isUnavailable answer = false
  settled : outcome = settle (answers.getLast?.or earlier)

section Asking

variable {respondent : Respondent σ} {lookup : OffchainLookup} {urls : List String}
  {state after : σ} {asked : List (Exchange σ)} {outcome : Except ContractError Bytes}

theorem failsOver_nil (earlier : Option (Except GatewayError Bytes)) :
    lookup.FailsOver earlier [] ([] : List (Exchange σ)) [] (settle earlier) :=
  ⟨rfl, rfl, by simp, by simp, rfl⟩

theorem failsOver_singleton {url : String} {answer : Except GatewayError Bytes}
    (given : isUnavailable answer = false) (earlier : Option (Except GatewayError Bytes)) :
    lookup.FailsOver earlier (url :: urls) [⟨lookup.gatewayQuestion url, answer, after⟩] [answer]
      (settle (some answer)) :=
  ⟨rfl, rfl, by simp, fun _ => ⟨answer, rfl, given⟩, rfl⟩

theorem FailsOver.cons {url : String} {answer : Except GatewayError Bytes}
    {answers : List (Except GatewayError Bytes)}
    (rest : lookup.FailsOver (some answer) urls asked answers outcome)
    (unavailable : isUnavailable answer = true) (earlier : Option (Except GatewayError Bytes)) :
    lookup.FailsOver earlier (url :: urls) (⟨lookup.gatewayQuestion url, answer, after⟩ :: asked)
      (answer :: answers) outcome where
  inOrder := congrArg (lookup.gatewayQuestion url :: ·) rest.inOrder
  answered := congrArg (some answer :: ·) rest.answered
  goesOn := by
    rcases answers with _ | ⟨next, others⟩
    · simp
    · rw [List.dropLast_cons_cons, List.forall_mem_cons]
      exact ⟨unavailable, rest.goesOn⟩
  stops := by
    intro left
    rcases rest.stops (Nat.lt_of_succ_lt_succ left) with ⟨last, found, given⟩
    exact ⟨last, by rw [List.getLast?_cons, found]; rfl, given⟩
  settled := by
    rw [rest.settled, List.getLast?_cons]
    cases answers.getLast? <;> rfl

theorem Asking.failsOver {failure : Option String}
    (asking : Asking respondent lookup failure urls state asked outcome after) :
    ∃ answers, lookup.FailsOver (failure.map fun reason => .error (.unavailable reason)) urls
      asked answers outcome := by
  induction asking with
  | unnamed | exhausted => exact ⟨[], failsOver_nil _⟩
  | responded | rejected => exact ⟨_, failsOver_singleton rfl _⟩
  | unavailable _ _ induction =>
      rcases induction with ⟨answers, rest⟩
      exact ⟨_, rest.cons rfl _⟩

end Asking

/-! ## Callbacks -/

section Following

variable {respondent : Respondent σ} {lookup : OffchainLookup} {state after : σ}
  {request : TransactionRequest}

theorem follow_of_unanswered {reason : ContractError}
    (ended : (lookup.askGateways none lookup.urls).run respondent state = (.error reason, after))
    (own : request.target = some lookup.sender) (endpoint : Endpoint) (context : List Json)
    (redirects : Nat) :
    (follow endpoint context (redirects + 1) request lookup).exchanges respondent state =
        (lookup.askGateways none lookup.urls).exchanges respondent state ∧
      ((follow endpoint context (redirects + 1) request lookup).run respondent state).1 =
        .error reason := by
  rw [follow_own own, exchanges_andThen_error ended, run_andThen_error ended]
  exact ⟨rfl, rfl⟩

theorem methods_follow_of_unanswered {reason : ContractError}
    (ended : (lookup.askGateways none lookup.urls).run respondent state = (.error reason, after))
    (endpoint : Endpoint) (context : List Json) (redirects : Nat) (request : TransactionRequest) :
    (follow endpoint context redirects request lookup).methods respondent state = [] := by
  rcases redirects with _ | redirects
  · rfl
  · by_cases own : request.target = some lookup.sender
    · rw [methods, (follow_of_unanswered ended own endpoint context redirects).1]
      exact (asking_askGateways respondent lookup none lookup.urls state).filterMap_method
    · rw [follow, if_neg own]
      rfl

theorem questions_follow_of_answered {response : Bytes}
    (ended : (lookup.askGateways none lookup.urls).run respondent state = (.ok response, after))
    (own : request.target = some lookup.sender) (endpoint : Endpoint) (context : List Json)
    (redirects : Nat) :
    ∃ later, (follow endpoint context (redirects + 1) request lookup).questions respondent state =
      (lookup.askGateways none lookup.urls).questions respondent state ++
        callQuestion endpoint context (lookup.callback response request) :: later := by
  rw [follow_own own, questions_eq_map, exchanges_andThen_ok ended, List.map_append,
    ← questions_eq_map]
  exact ⟨_, rfl⟩

end Following

/-- The gateways of a lookup are asked in the order of its list, each once, for what the lookup
asks of them, as far as the first that does not answer that it is unavailable. The outcome is
its response or its refusal, or else the last reason to be unavailable. Only a response is
handed to the contract. -/
theorem gateways_fail_over (respondent : Respondent σ) (lookup : OffchainLookup) (state : σ) :
    (∃ answers, lookup.FailsOver none lookup.urls
      ((lookup.askGateways none lookup.urls).exchanges respondent state) answers
      ((lookup.askGateways none lookup.urls).run respondent state).1) ∧
    (∀ reason, ((lookup.askGateways none lookup.urls).run respondent state).1 = .error reason →
      ∀ endpoint context redirects request,
        (follow endpoint context redirects request lookup).methods respondent state = [] ∧
        (request.target = some lookup.sender →
          (follow endpoint context (redirects + 1) request lookup).exchanges respondent state =
              (lookup.askGateways none lookup.urls).exchanges respondent state ∧
            ((follow endpoint context (redirects + 1) request lookup).run respondent state).1 =
              .error reason)) ∧
    ∀ response, ((lookup.askGateways none lookup.urls).run respondent state).1 = .ok response →
      ∀ endpoint context redirects request, request.target = some lookup.sender →
        ∃ later,
          (follow endpoint context (redirects + 1) request lookup).questions respondent state =
            (lookup.askGateways none lookup.urls).questions respondent state ++
              callQuestion endpoint context (lookup.callback response request) :: later := by
  have asking := asking_askGateways respondent lookup none lookup.urls state
  rcases ended : (lookup.askGateways none lookup.urls).run respondent state with ⟨outcome, after⟩
  rw [ended] at asking
  refine ⟨asking.failsOver, ?_, ?_⟩
  · rintro reason rfl endpoint context redirects request
    exact ⟨methods_follow_of_unanswered ended endpoint context redirects request,
      fun own => follow_of_unanswered ended own endpoint context redirects⟩
  · rintro response rfl endpoint context redirects request own
    exact questions_follow_of_answered ended own endpoint context redirects

def mirroredLookup : OffchainLookup :=
  ⟨FixedBytes.ofNat 20 7, ["https://one.example", "https://two.example", "https://three.example"],
    [1], FixedBytes.ofNat 4 9, [2]⟩

def refusing : Respondent Unit
  | .node .., state => (.error (.http "offline"), state)
  | .gateway template .., state =>
      (.error (if template = "https://two.example" then .rejected "404" else .unavailable "502"),
        state)
  | .fetch _, state => (.error (.unsent "offline"), state)
  | .load _, state => (.error .missing, state)
  | .store .., state => ((), state)

theorem gateways_fail_over_refused :
    ((mirroredLookup.askGateways none mirroredLookup.urls).exchanges refusing ()).map
        Exchange.question =
      ["https://one.example", "https://two.example"].map mirroredLookup.gatewayQuestion ∧
    ∀ endpoint context request, request.target = some mirroredLookup.sender →
      ((follow endpoint context maxRedirects request mirroredLookup).run refusing ()).1 =
        .error (.offchainLookup (.gateway "404")) := by
  rcases gateways_fail_over refusing mirroredLookup () with
    ⟨⟨answers, failsOver⟩, unanswered, _⟩
  constructor
  · have count : answers.length = 2 := by
      have both := congrArg List.length failsOver.answered
      rw [List.length_map, List.length_map] at both
      exact both.symm
    have asked := failsOver.inOrder
    rw [count] at asked
    exact asked
  · intro endpoint context request own
    exact ((unanswered _ rfl endpoint context 3 request).2 own).2

end OffchainLookup

end ContractClient
