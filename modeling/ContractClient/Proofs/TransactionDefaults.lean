import ContractClient.Proofs.Requests
import ContractClient.Transaction.Defaults

/-! Filling in a transaction: what a node is asked for it, and what becomes of it. What is
asked next depends only on what is open, and a reply settles what was asked for. -/

namespace ContractClient.TransactionRequest

open Dialogue

/-! ## Filled-in transactions -/

/-- The transaction with some of its open fields filled in. What is set is kept, and
only the value, the chain and what is paid for gas are filled in. -/
def Completes (request completed : TransactionRequest) : Prop :=
  ∃ value chainId gas gasPrice,
    completed = { request with
      value := request.value.or value
      chainId := request.chainId.or chainId
      gas := request.gas.or gas
      gasPrice := request.gasPrice.or gasPrice }

theorem Completes.refl (request : TransactionRequest) : request.Completes request :=
  ⟨none, none, none, none, by simp only [Option.or_none]⟩

theorem Completes.trans {first second third : TransactionRequest}
    (earlier : first.Completes second) (later : second.Completes third) :
    first.Completes third := by
  rcases earlier with ⟨value, chainId, gas, gasPrice, rfl⟩
  rcases later with ⟨value', chainId', gas', gasPrice', rfl⟩
  exact ⟨value.or value', chainId.or chainId', gas.or gas', gasPrice.or gasPrice',
    by simp only [Option.or_assoc]⟩

theorem completes_fillValue (request : TransactionRequest) :
    request.Completes request.fillValue := by
  refine ⟨some 0, none, none, none, ?_⟩
  have given : request.value.or (some 0) = some (request.value.getD 0) := by
    cases request.value <;> rfl
  simp only [fillValue, given, Option.or_none]

/-! ## Inquiries -/

structure Inquiry where
  method : Method
  parameters : List Json
  accept : Json → Option TransactionRequest

def chainInquiry (request : TransactionRequest) : Inquiry where
  method := .chainId
  parameters := []
  accept reply := reply.asQuantity64?.map fun chain => { request with chainId := some chain }

def feeInquiry (request : TransactionRequest) : Inquiry where
  method := .gasPrice
  parameters := []
  accept reply := (reply.asQuantity? (Width.limit 128)).map fun price =>
    { request with gasPrice := some price }

def gasInquiry (request : TransactionRequest) : Inquiry where
  method := .estimateGas
  parameters := [request.toJson]
  accept reply := reply.asQuantity64?.map fun gas => { request with gas := some gas }

/-- What is asked next: the chain, then a fee if none is set, then the gas. -/
inductive Due (request : TransactionRequest) : Inquiry → Prop
  | chain (unset : request.chainId = none) : Due request request.chainInquiry
  | fee (chain : request.chainId.isSome = true) (unset : request.hasFee = false) :
      Due request request.feeInquiry
  | gas (chain : request.chainId.isSome = true) (fee : request.hasFee = true)
      (unset : request.gas = none) : Due request request.gasInquiry

theorem Due.completes {request next : TransactionRequest} {inquiry : Inquiry} {reply : Json}
    (due : request.Due inquiry) (read : inquiry.accept reply = some next) :
    request.Completes next := by
  cases due with
  | chain unset =>
      rcases Option.map_eq_some_iff.mp read with ⟨chain, _, rfl⟩
      exact ⟨none, some chain, none, none, by simp [unset]⟩
  | fee chain unset =>
      rcases Option.map_eq_some_iff.mp read with ⟨price, _, rfl⟩
      have unpriced : request.gasPrice = none := by
        simp only [hasFee, Bool.or_eq_false_iff, Option.isSome_eq_false_iff,
          Option.isNone_iff_eq_none] at unset
        exact unset.1.1
      exact ⟨none, none, none, some price, by simp [unpriced]⟩
  | gas chain fee unset =>
      rcases Option.map_eq_some_iff.mp read with ⟨gas, _, rfl⟩
      exact ⟨none, none, some gas, none, by simp [unset]⟩

/-! ## Runs -/

/-- The ways in which inquiries go, with the exchanges and the result of each. -/
inductive Filling (endpoint : Endpoint) : TransactionRequest → List (Exchange σ) →
    Except ContractError TransactionRequest → Prop
  | settled {request : TransactionRequest} (chain : request.chainId.isSome = true)
      (fee : request.hasFee = true) (gas : request.gas.isSome = true) :
      Filling endpoint request [] (.ok request)
  | failed {request : TransactionRequest} {inquiry : Inquiry} {error : TransportError} {after : σ}
      (due : request.Due inquiry) :
      Filling endpoint request
        [⟨.node endpoint inquiry.method inquiry.parameters, .error error, after⟩]
        (.error (.transport error))
  | unread {request : TransactionRequest} {inquiry : Inquiry} {reply : Json} {after : σ}
      (due : request.Due inquiry) (unreadable : inquiry.accept reply = none) :
      Filling endpoint request
        [⟨.node endpoint inquiry.method inquiry.parameters, .ok reply, after⟩]
        (.error (.transport .deserialization))
  | replied {request next : TransactionRequest} {inquiry : Inquiry} {reply : Json} {after : σ}
      {later : List (Exchange σ)} {result : Except ContractError TransactionRequest}
      (due : request.Due inquiry) (read : inquiry.accept reply = some next)
      (rest : Filling endpoint next later result) :
      Filling endpoint request
        (⟨.node endpoint inquiry.method inquiry.parameters, .ok reply, after⟩ :: later) result

section Runs

variable {respondent : Respondent σ} {endpoint : Endpoint}

def Inquiry.ask (endpoint : Endpoint) (inquiry : Inquiry) :
    Dialogue (Except ContractError TransactionRequest) :=
  Dialogue.request endpoint inquiry.method inquiry.parameters inquiry.accept

theorem filling_ask_andThen {request : TransactionRequest} {inquiry : Inquiry}
    {step : TransactionRequest → Dialogue (Except ContractError TransactionRequest)}
    (due : request.Due inquiry)
    (later : ∀ reply next after, inquiry.accept reply = some next →
      Filling endpoint next ((step next).exchanges respondent after)
        ((step next).run respondent after).1) (state : σ) :
    Filling endpoint request (((inquiry.ask endpoint).andThen step).exchanges respondent state)
      (((inquiry.ask endpoint).andThen step).run respondent state).1 := by
  rcases answered : respondent (.node endpoint inquiry.method inquiry.parameters) state with
    ⟨error | reply, after⟩
  · rw [Inquiry.ask, Dialogue.request, andThen, ask_bind, run_ask answered,
      exchanges_ask answered]
    exact .failed due
  · rw [Inquiry.ask, Dialogue.request, andThen, ask_bind, run_ask answered,
      exchanges_ask answered]
    cases found : inquiry.accept reply with
    | none =>
        simp only [found]
        exact .unread due found
    | some next =>
        simp only [found]
        exact .replied due found (later reply next after found)

theorem filling_fillGas (request : TransactionRequest) (chain : request.chainId.isSome = true)
    (fee : request.hasFee = true) (state : σ) :
    Filling endpoint request ((fillGas endpoint request).exchanges respondent state)
      ((fillGas endpoint request).run respondent state).1 := by
  cases given : request.gas with
  | some gas =>
      simp only [fillGas, given]
      exact .settled chain fee (by rw [given]; rfl)
  | none =>
      have asks : fillGas endpoint request =
          (request.gasInquiry.ask endpoint).andThen fun next => .done (.ok next) := by
        rw [andThen_ok, fillGas, given]
        rfl
      rw [asks]
      refine filling_ask_andThen (.gas chain fee given) (fun reply next after read => ?_) state
      rcases Option.map_eq_some_iff.mp read with ⟨gas, _, rfl⟩
      exact .settled chain fee rfl

theorem filling_fillFee {request : TransactionRequest} (chain : request.chainId.isSome = true)
    (state : σ) :
    Filling endpoint request
      (((fillFee endpoint request).andThen (fillGas endpoint)).exchanges respondent state)
      (((fillFee endpoint request).andThen (fillGas endpoint)).run respondent state).1 := by
  rw [fillFee]
  cases given : request.hasFee with
  | true =>
      rw [if_pos rfl]
      exact filling_fillGas request chain given state
  | false =>
      rw [if_neg Bool.false_ne_true]
      refine filling_ask_andThen (.fee chain given) (fun reply next after read => ?_) state
      rcases Option.map_eq_some_iff.mp read with ⟨price, _, rfl⟩
      exact filling_fillGas { request with gasPrice := some price } chain rfl after

theorem filling_fill (respondent : Respondent σ) (endpoint : Endpoint)
    (request : TransactionRequest) (state : σ) :
    Filling endpoint request.fillValue ((request.fill endpoint).exchanges respondent state)
      ((request.fill endpoint).run respondent state).1 := by
  rw [fill, fillChainId]
  cases given : request.fillValue.chainId with
  | some chain => exact filling_fillFee (by rw [given]; rfl) state
  | none =>
      refine filling_ask_andThen (.chain given) (fun reply next after read => ?_) state
      rcases Option.map_eq_some_iff.mp read with ⟨chain, _, rfl⟩
      exact filling_fillFee rfl after

end Runs

/-! ## Requests -/

def openMethods (request : TransactionRequest) : List Method :=
  (if request.chainId.isNone then [.chainId] else []) ++
    ((if request.hasFee then [] else [.gasPrice]) ++
      if request.gas.isNone then [.estimateGas] else [])

theorem Due.openMethods_eq {request : TransactionRequest} {inquiry : Inquiry}
    (due : request.Due inquiry) : ∃ methods, request.openMethods = inquiry.method :: methods ∧
      ∀ reply next, inquiry.accept reply = some next → next.openMethods = methods := by
  cases due with
  | chain unset =>
      refine ⟨_, by rw [openMethods, unset]; rfl, ?_⟩
      intro reply next read
      rcases Option.map_eq_some_iff.mp read with ⟨chain, _, rfl⟩
      rfl
  | fee chain unset =>
      rcases Option.isSome_iff_exists.mp chain with ⟨chain, identified⟩
      refine ⟨_, by rw [openMethods, identified, unset]; rfl, ?_⟩
      intro reply next read
      rcases Option.map_eq_some_iff.mp read with ⟨price, _, rfl⟩
      rw [openMethods, identified]
      rfl
  | gas chain fee unset =>
      rcases Option.isSome_iff_exists.mp chain with ⟨chain, identified⟩
      refine ⟨[], by rw [openMethods, identified, fee, unset]; rfl, ?_⟩
      intro reply next read
      rcases Option.map_eq_some_iff.mp read with ⟨gas, _, rfl⟩
      have priced : hasFee { request with gas := some gas } = true := fee
      rw [openMethods, priced, identified]
      rfl

theorem Filling.requesting {endpoint : Endpoint} {request : TransactionRequest}
    {exchanges : List (Exchange σ)} {result : Except ContractError TransactionRequest}
    (filling : Filling endpoint request exchanges result) :
    Requesting request.openMethods exchanges result := by
  induction filling with
  | @settled request chain fee gas =>
      rcases Option.isSome_iff_exists.mp chain with ⟨chain, identified⟩
      rcases Option.isSome_iff_exists.mp gas with ⟨gas, limited⟩
      have nothing : request.openMethods = [] := by rw [openMethods, identified, fee, limited]; rfl
      rw [nothing]
      exact .settled (not_refuses_ok request)
  | failed due =>
      rcases due.openMethods_eq with ⟨methods, open_eq, _⟩
      rw [open_eq]
      exact .failed
  | unread due unreadable =>
      rcases due.openMethods_eq with ⟨methods, open_eq, _⟩
      rw [open_eq]
      exact .unread
  | replied due read rest induction =>
      rcases due.openMethods_eq with ⟨methods, open_eq, remaining⟩
      rw [open_eq]
      rw [remaining _ _ read] at induction
      exact .replied induction

theorem requesting_fill (respondent : Respondent σ) (endpoint : Endpoint)
    (request : TransactionRequest) (state : σ) :
    Requesting request.openMethods ((request.fill endpoint).exchanges respondent state)
      ((request.fill endpoint).run respondent state).1 :=
  (filling_fill respondent endpoint request state).requesting

/-! ## Results -/

theorem Filling.completes {endpoint : Endpoint} {request completed : TransactionRequest}
    {exchanges : List (Exchange σ)} {result : Except ContractError TransactionRequest}
    (filling : Filling endpoint request exchanges result) (succeeded : result = .ok completed) :
    request.Completes completed := by
  induction filling with
  | settled => cases succeeded; exact .refl _
  | failed | unread => cases succeeded
  | replied due read rest induction => exact (due.completes read).trans (induction succeeded)

theorem completes_fill {respondent : Respondent σ} {endpoint : Endpoint}
    {request completed : TransactionRequest} {state after : σ}
    (filled : (request.fill endpoint).run respondent state = (.ok completed, after)) :
    request.Completes completed :=
  (completes_fillValue request).trans
    ((filling_fill respondent endpoint request state).completes (congrArg Prod.fst filled))

end ContractClient.TransactionRequest
