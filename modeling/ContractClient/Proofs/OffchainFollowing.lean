import ContractClient.Offchain.Following
import ContractClient.Proofs.Conversations

/-! How offchain lookups are followed. The gateways of a lookup are asked in
order, and a response leads to a callback, whose failure may carry the next lookup.
`Asking` and `Following` list the ways in which this can go, with the exchanges and
the outcome of each; what holds of all conversations is proved by induction on them. -/

namespace ContractClient

def Exchange.lookup? (exchange : Exchange σ) : Option OffchainLookup :=
  exchange.failure?.bind OffchainLookup.ofError?

theorem Exchange.lookup?_failed {endpoint : Endpoint} {method : Method} {parameters : List Json}
    {error : TransportError} {after : σ} :
    Exchange.lookup? ⟨.node endpoint method parameters, .error error, after⟩ =
      OffchainLookup.ofError? error := rfl

namespace OffchainLookup

open Dialogue

/-! ## Gateways -/

abbrev gatewayQuestion (lookup : OffchainLookup) (url : String) : Question :=
  .gateway url lookup.sender lookup.callData

/-- The ways in which gateways are asked. `failure` is why the gateways before
the listed ones gave no response. -/
inductive Asking (respondent : Respondent σ) (lookup : OffchainLookup) :
    (failure : Option String) → (urls : List String) → σ → List (Exchange σ) →
      Except ContractError Bytes → σ → Prop
  | unnamed {state : σ} :
      Asking respondent lookup none [] state [] (.error (.offchainLookup .noUrls)) state
  | exhausted {state : σ} {reason : String} :
      Asking respondent lookup (some reason) [] state []
        (.error (.offchainLookup (.gateway reason))) state
  | responded {failure : Option String} {url : String} {urls : List String} {state after : σ}
      {response : Bytes}
      (answered : respondent (lookup.gatewayQuestion url) state = (.ok response, after)) :
      Asking respondent lookup failure (url :: urls) state
        [⟨lookup.gatewayQuestion url, .ok response, after⟩] (.ok response) after
  | rejected {failure : Option String} {url : String} {urls : List String} {state after : σ}
      {reason : String}
      (answered : respondent (lookup.gatewayQuestion url) state =
        (.error (.rejected reason), after)) :
      Asking respondent lookup failure (url :: urls) state
        [⟨lookup.gatewayQuestion url, .error (.rejected reason), after⟩]
        (.error (.offchainLookup (.gateway reason))) after
  | unavailable {failure : Option String} {url : String} {urls : List String}
      {state between after : σ} {reason : String} {later : List (Exchange σ)}
      {outcome : Except ContractError Bytes}
      (answered : respondent (lookup.gatewayQuestion url) state =
        (.error (.unavailable reason), between))
      (rest : Asking respondent lookup (some reason) urls between later outcome after) :
      Asking respondent lookup failure (url :: urls) state
        (⟨lookup.gatewayQuestion url, .error (.unavailable reason), between⟩ :: later)
        outcome after

theorem asking_askGateways (respondent : Respondent σ) (lookup : OffchainLookup)
    (failure : Option String) (urls : List String) (state : σ) :
    Asking respondent lookup failure urls state
      ((lookup.askGateways failure urls).exchanges respondent state)
      ((lookup.askGateways failure urls).run respondent state).1
      ((lookup.askGateways failure urls).run respondent state).2 := by
  induction urls generalizing failure state with
  | nil =>
      cases failure with
      | none => exact .unnamed
      | some reason => exact .exhausted
  | cons url rest induction =>
      rcases answered : respondent (lookup.gatewayQuestion url) state with ⟨answer, between⟩
      rw [askGateways, run_ask answered, exchanges_ask answered]
      rcases answer with (reason | reason) | response
      · exact .rejected answered
      · exact .unavailable answered (induction (some reason) between)
      · exact .responded answered

section Asking

variable {respondent : Respondent σ} {lookup : OffchainLookup} {failure : Option String}
  {urls : List String} {state after : σ} {asked : List (Exchange σ)}

theorem Asking.question_of_mem {outcome : Except ContractError Bytes}
    (asking : Asking respondent lookup failure urls state asked outcome after) :
    ∀ exchange ∈ asked, ∃ url ∈ urls, exchange.question = lookup.gatewayQuestion url := by
  induction asking with
  | unnamed | exhausted => simp
  | responded | rejected => simp
  | unavailable _ _ induction =>
      intro exchange member
      rcases List.mem_cons.mp member with rfl | member
      · exact ⟨_, by simp, rfl⟩
      · rcases induction exchange member with ⟨url, named, same⟩
        exact ⟨url, by simp [named], same⟩

theorem Asking.failure_of_mem {outcome : Except ContractError Bytes}
    (asking : Asking respondent lookup failure urls state asked outcome after)
    {exchange : Exchange σ} (member : exchange ∈ asked) : exchange.failure? = none := by
  rcases asking.question_of_mem exchange member with ⟨url, _, same⟩
  rcases exchange with ⟨question, answer, between⟩
  cases same
  rfl

theorem Asking.filterMap_method {outcome : Except ContractError Bytes}
    (asking : Asking respondent lookup failure urls state asked outcome after) :
    asked.filterMap Exchange.method? = [] := by
  rw [List.filterMap_eq_nil_iff]
  intro exchange member
  rcases asking.question_of_mem exchange member with ⟨url, _, same⟩
  rw [Exchange.method?, same]

theorem Asking.response_of_getLast {response : Bytes}
    (asking : Asking respondent lookup failure urls state asked (.ok response) after) :
    asked.getLast?.bind Exchange.response? = some response := by
  generalize ended : Except.ok response = outcome at asking
  induction asking with
  | unnamed | exhausted | rejected => cases ended
  | responded =>
      cases ended
      rfl
  | unavailable _ _ induction =>
      have last := induction ended
      rw [List.getLast?_cons]
      rcases found : List.getLast? _ with _ | exchange
      · simp [found] at last
      · simpa [found] using last

theorem Asking.error_of_lookup {reason : ContractError}
    (asking : Asking respondent lookup failure urls state asked (.error reason) after) :
    ∃ why, reason = .offchainLookup why := by
  generalize ended : Except.error reason = outcome at asking
  induction asking with
  | unnamed | exhausted | rejected =>
      cases ended
      exact ⟨_, rfl⟩
  | responded => cases ended
  | unavailable _ _ induction => exact induction ended

/-- Some gateway responds, and those before it neither respond nor refuse. -/
def Answerable (respondent : Respondent σ) (lookup : OffchainLookup) : List String → σ → Prop
  | [], _ => False
  | url :: rest, state =>
      match respondent (lookup.gatewayQuestion url) state with
      | (.ok _, _) => True
      | (.error (.rejected _), _) => False
      | (.error (.unavailable _), after) => Answerable respondent lookup rest after

theorem Asking.responds {outcome : Except ContractError Bytes}
    (asking : Asking respondent lookup failure urls state asked outcome after)
    (answerable : Answerable respondent lookup urls state) :
    ∃ response, outcome = .ok response := by
  induction asking with
  | unnamed | exhausted => cases answerable
  | responded => exact ⟨_, rfl⟩
  | rejected answered =>
      rw [Answerable, answered] at answerable
      cases answerable
  | unavailable answered _ induction =>
      rw [Answerable, answered] at answerable
      exact induction answerable

end Asking

/-! ## Callbacks -/

/-- The request that hands a response to the contract: all but the call data of the
request before it is kept. -/
def callback (lookup : OffchainLookup) (response : Bytes) (request : TransactionRequest) :
    TransactionRequest :=
  { request with input := lookup.callbackData response }

abbrev callQuestion (endpoint : Endpoint) (context : List Json) (request : TransactionRequest) :
    Question :=
  .node endpoint .call (request.toJson :: context)

theorem follow_own {request : TransactionRequest} {lookup : OffchainLookup}
    (own : request.target = some lookup.sender) (endpoint : Endpoint) (context : List Json)
    (redirects : Nat) :
    follow endpoint context (redirects + 1) request lookup =
      (lookup.askGateways none lookup.urls).andThen fun response =>
        .ask (callQuestion endpoint context (lookup.callback response request)) fun
          | .ok reply => .done (.ok reply)
          | .error error =>
              match ofError? error with
              | some next =>
                  follow endpoint context redirects (lookup.callback response request) next
              | none => .done (.error (.transport error)) := by
  rw [follow, if_pos own]
  refine congrArg (Dialogue.andThen _) (funext fun response => ?_)
  refine congrArg (Dialogue.ask _) (funext fun answer => ?_)
  rcases answer with error | reply
  · dsimp only
    cases ofError? error <;> rfl
  · rfl

/-- The ways in which a lookup is followed. -/
inductive Following (respondent : Respondent σ) (endpoint : Endpoint) (context : List Json) :
    (redirects : Nat) → TransactionRequest → OffchainLookup → σ → List (Exchange σ) →
      Except ContractError Json → Prop
  | exhausted {request : TransactionRequest} {lookup : OffchainLookup} {state : σ} :
      Following respondent endpoint context 0 request lookup state []
        (.error (.offchainLookup (.tooManyRedirects maxRedirects)))
  | foreign {redirects : Nat} {request : TransactionRequest} {lookup : OffchainLookup} {state : σ}
      (other : request.target ≠ some lookup.sender) :
      Following respondent endpoint context (redirects + 1) request lookup state []
        (.error (.offchainLookup (.foreignSender lookup.sender)))
  | unanswered {redirects : Nat} {request : TransactionRequest} {lookup : OffchainLookup}
      {state after : σ} {asked : List (Exchange σ)} {reason : ContractError}
      (own : request.target = some lookup.sender)
      (asking : Asking respondent lookup none lookup.urls state asked (.error reason) after) :
      Following respondent endpoint context (redirects + 1) request lookup state asked
        (.error reason)
  | replied {redirects : Nat} {request : TransactionRequest} {lookup : OffchainLookup}
      {state between after : σ} {asked : List (Exchange σ)} {response : Bytes} {reply : Json}
      (own : request.target = some lookup.sender)
      (asking : Asking respondent lookup none lookup.urls state asked (.ok response) between)
      (answered : respondent (callQuestion endpoint context (lookup.callback response request))
        between = (.ok reply, after)) :
      Following respondent endpoint context (redirects + 1) request lookup state
        (asked ++ [⟨callQuestion endpoint context (lookup.callback response request),
          .ok reply, after⟩])
        (.ok reply)
  | failed {redirects : Nat} {request : TransactionRequest} {lookup : OffchainLookup}
      {state between after : σ} {asked : List (Exchange σ)} {response : Bytes}
      {error : TransportError} (own : request.target = some lookup.sender)
      (asking : Asking respondent lookup none lookup.urls state asked (.ok response) between)
      (answered : respondent (callQuestion endpoint context (lookup.callback response request))
        between = (.error error, after))
      (plain : ofError? error = none) :
      Following respondent endpoint context (redirects + 1) request lookup state
        (asked ++ [⟨callQuestion endpoint context (lookup.callback response request),
          .error error, after⟩])
        (.error (.transport error))
  | redirected {redirects : Nat} {request : TransactionRequest} {lookup next : OffchainLookup}
      {state between after : σ} {asked later : List (Exchange σ)} {response : Bytes}
      {error : TransportError} {result : Except ContractError Json}
      (own : request.target = some lookup.sender)
      (asking : Asking respondent lookup none lookup.urls state asked (.ok response) between)
      (answered : respondent (callQuestion endpoint context (lookup.callback response request))
        between = (.error error, after))
      (another : ofError? error = some next)
      (rest : Following respondent endpoint context redirects (lookup.callback response request)
        next after later result) :
      Following respondent endpoint context (redirects + 1) request lookup state
        (asked ++ ⟨callQuestion endpoint context (lookup.callback response request),
          .error error, after⟩ :: later)
        result

theorem following_follow (respondent : Respondent σ) (endpoint : Endpoint) (context : List Json)
    (redirects : Nat) (request : TransactionRequest) (lookup : OffchainLookup) (state : σ) :
    Following respondent endpoint context redirects request lookup state
      ((follow endpoint context redirects request lookup).exchanges respondent state)
      ((follow endpoint context redirects request lookup).run respondent state).1 := by
  induction redirects generalizing request lookup state with
  | zero => exact .exhausted
  | succ redirects induction =>
      by_cases own : request.target = some lookup.sender
      · rw [follow_own own]
        have asking := asking_askGateways respondent lookup none lookup.urls state
        rcases ended : (lookup.askGateways none lookup.urls).run respondent state with
          ⟨reason | response, between⟩
        · rw [ended] at asking
          rw [run_andThen_error ended, exchanges_andThen_error ended]
          exact .unanswered own asking
        · rw [ended] at asking
          rw [run_andThen_ok ended, exchanges_andThen_ok ended]
          rcases answered : respondent
              (callQuestion endpoint context (lookup.callback response request)) between with
            ⟨error | reply, after⟩
          · rw [run_ask answered, exchanges_ask answered]
            cases another : ofError? error with
            | none =>
                simp only [another]
                exact .failed own asking answered another
            | some next =>
                simp only [another]
                exact .redirected own asking answered another (induction _ next after)
          · rw [run_ask answered, exchanges_ask answered]
            exact .replied own asking answered
      · rw [follow, if_neg own]
        exact .foreign own

/-! ## What a call may ask -/

/-- The lookup that the latest request of a history failed with. Gateways that were
asked since then do not change it. -/
def latestLookup? (history : List (Exchange σ)) : Option OffchainLookup :=
  (history.filter fun exchange => exchange.method?.isSome).getLast?.bind Exchange.lookup?

theorem latestLookup?_request {history : List (Exchange σ)} {exchange : Exchange σ}
    (request : exchange.method?.isSome = true) :
    latestLookup? (history ++ [exchange]) = exchange.lookup? := by
  simp [latestLookup?, request]

theorem latestLookup?_gateways {history asked : List (Exchange σ)}
    (gateways : asked.filterMap Exchange.method? = []) :
    latestLookup? (history ++ asked) = latestLookup? history := by
  have none : asked.filter (fun exchange => exchange.method?.isSome) = [] := by
    simpa [List.filter_eq_nil_iff, List.filterMap_eq_nil_iff] using gateways
  rw [latestLookup?, List.filter_append, none, List.append_nil, latestLookup?]

/-- What may be asked in the course of a call: first the call itself; then, if lookups
are followed and the latest request failed with a lookup of the called contract, a
gateway that the lookup names, or the callback with the response just received. -/
inductive CallStep (endpoint : Endpoint) (context : List Json) (request : TransactionRequest)
    (offchain : Bool) (history : List (Exchange σ)) : Question → Prop
  | first (nothing : history = []) :
      CallStep endpoint context request offchain history
        (.node endpoint .call (request.toJson :: context))
  | gateway {lookup : OffchainLookup} {url : String} (followed : offchain = true)
      (latest : latestLookup? history = some lookup)
      (own : request.target = some lookup.sender) (named : url ∈ lookup.urls) :
      CallStep endpoint context request offchain history
        (.gateway url lookup.sender lookup.callData)
  | callback {lookup : OffchainLookup} {response : Bytes} (followed : offchain = true)
      (latest : latestLookup? history = some lookup)
      (own : request.target = some lookup.sender)
      (received : history.getLast?.bind Exchange.response? = some response) :
      CallStep endpoint context request offchain history
        (.node endpoint .call
          ({ request with
              input := lookup.callbackFunction.bytes ++
                AbiValue.encodeSequence [.bytes response, .bytes lookup.extraData] }.toJson ::
            context))

section Following

variable {respondent : Respondent σ} {endpoint : Endpoint} {context : List Json}
  {redirects : Nat} {request current : TransactionRequest} {lookup : OffchainLookup}
  {state after : σ} {history exchanges : List (Exchange σ)}
  {result : Except ContractError Json}

theorem Asking.justified {failure : Option String} {outcome : Except ContractError Bytes}
    (asking : Asking respondent lookup failure lookup.urls state exchanges outcome after)
    (latest : latestLookup? history = some lookup)
    (own : request.target = some lookup.sender) :
    Exchange.Justified (CallStep endpoint context request true) history exchanges := by
  have questions := asking.question_of_mem
  have gateways := asking.filterMap_method
  clear asking
  induction exchanges generalizing history with
  | nil => trivial
  | cons exchange rest induction =>
      rcases questions exchange (by simp) with ⟨url, named, same⟩
      have unchanged : latestLookup? (history ++ [exchange]) = some lookup := by
        rw [latestLookup?_gateways, latest]
        simp [Exchange.method?, same]
      refine ⟨?_, induction unchanged (fun other member => questions other (by simp [member])) ?_⟩
      · rw [same]
        exact .gateway rfl latest own named
      · simpa [Exchange.method?, same] using gateways

theorem Asking.callStep {failure : Option String} {response data : Bytes}
    (asking : Asking respondent lookup failure lookup.urls state exchanges (.ok response) after)
    (latest : latestLookup? history = some lookup)
    (own : request.target = some lookup.sender) :
    CallStep endpoint context request true (history ++ exchanges)
      (callQuestion endpoint context
        (lookup.callback response { request with input := data })) := by
  refine .callback rfl ?_ own ?_
  · rw [latestLookup?_gateways asking.filterMap_method, latest]
  · have responds := asking.response_of_getLast
    rw [List.getLast?_append]
    cases last : exchanges.getLast? with
    | none => simp [last] at responds
    | some exchange => simpa [last] using responds

/-- Following keeps to what a call may ask. Each redirect leaves the latest lookup in
the history, and of the request only the call data has changed since the first. -/
theorem Following.justified {data : Bytes}
    (following : Following respondent endpoint context redirects current lookup state exchanges
      result)
    (kept : current = { request with input := data })
    (latest : latestLookup? history = some lookup) :
    Exchange.Justified (CallStep endpoint context request true) history exchanges := by
  induction following generalizing history data with
  | exhausted | foreign => trivial
  | unanswered own asking => exact asking.justified latest (by rw [← own, kept])
  | replied own asking answered | failed own asking answered plain =>
      subst kept
      exact Exchange.justified_append_iff.mpr
        ⟨asking.justified latest own, asking.callStep latest own, trivial⟩
  | redirected own asking answered another rest induction =>
      subst kept
      refine Exchange.justified_append_iff.mpr
        ⟨asking.justified latest own, asking.callStep latest own, induction rfl ?_⟩
      rw [latestLookup?_request rfl]
      exact another

theorem Following.length_methods_le
    (following : Following respondent endpoint context redirects current lookup state exchanges
      result) :
    (exchanges.filterMap Exchange.method?).length ≤ redirects := by
  induction following with
  | exhausted | foreign => simp
  | unanswered own asking => simp [asking.filterMap_method]
  | replied own asking answered | failed own asking answered plain =>
      simp [asking.filterMap_method, Exchange.method?]
  | redirected own asking answered another rest induction =>
      rw [List.filterMap_append, asking.filterMap_method, List.nil_append, List.filterMap_cons]
      exact Nat.succ_le_succ induction

def Redirects (respondent : Respondent σ) (target : Option Address) (exchange : Exchange σ) :
    Prop :=
  ∃ lookup, exchange.lookup? = some lookup ∧ target = some lookup.sender ∧
    lookup.Answerable respondent lookup.urls exchange.after

theorem Following.exhausts
    (following : Following respondent endpoint context redirects current lookup state exchanges
      result)
    (own : current.target = some lookup.sender)
    (answerable : lookup.Answerable respondent lookup.urls state)
    (redirect : ∀ exchange ∈ exchanges, exchange.method?.isSome = true →
      Redirects respondent current.target exchange) :
    (exchanges.filterMap Exchange.method?).length = redirects ∧
      result = .error (.offchainLookup (.tooManyRedirects maxRedirects)) := by
  induction following with
  | exhausted => exact ⟨rfl, rfl⟩
  | foreign other => exact absurd own other
  | unanswered _ asking =>
      rcases asking.responds answerable with ⟨response, responded⟩
      cases responded
  | replied _ asking answered =>
      rcases redirect _ (List.mem_append_right _ (.head _)) rfl with ⟨next, found, _⟩
      cases found
  | failed _ asking answered plain =>
      rcases redirect _ (List.mem_append_right _ (.head _)) rfl with ⟨next, found, _⟩
      rw [Exchange.lookup?_failed, plain] at found
      cases found
  | redirected _ asking answered another rest induction =>
      rcases redirect _ (List.mem_append_right _ (.head _)) rfl with
        ⟨next, found, ownNext, answerableNext⟩
      rw [Exchange.lookup?_failed, another] at found
      cases found
      rcases induction ownNext answerableNext
        (fun exchange member => redirect exchange (by simp [member])) with ⟨count, failed⟩
      refine ⟨?_, failed⟩
      rw [List.filterMap_append, asking.filterMap_method, List.nil_append, List.filterMap_cons]
      exact congrArg Nat.succ count

end Following

end OffchainLookup

end ContractClient
