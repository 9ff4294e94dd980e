import ContractClient.Proofs.Conversations
import ContractClient.Proofs.Refusals

/-! Requests that are sent one after the other. The first that fails ends the work,
and its error is the result. -/

namespace ContractClient

/-! ## Failures -/

namespace Exchange

variable {fatal : TransportError → Prop} {result : Except ContractError α}

/-- A fatal failure of a request is followed by nothing and is the result. -/
def FailsFast (fatal : TransportError → Prop) (result : Except ContractError α) :
    List (Exchange σ) → Prop
  | [] => True
  | exchange :: rest =>
      (∀ error, exchange.failure? = some error → fatal error →
        rest = [] ∧ result = .error (.transport error)) ∧ FailsFast fatal result rest

theorem failsFast_append {first second : List (Exchange σ)}
    (answered : ∀ exchange ∈ first, exchange.failure? = none)
    (rest : FailsFast fatal result second) : FailsFast fatal result (first ++ second) := by
  induction first with
  | nil => exact rest
  | cons exchange first induction =>
      refine ⟨?_, induction fun other member => answered other (.tail _ member)⟩
      intro error failed
      cases (answered exchange (.head _)).symm.trans failed

theorem failsFast_of_answered {exchanges : List (Exchange σ)}
    (answered : ∀ exchange ∈ exchanges, exchange.failure? = none) :
    FailsFast fatal result exchanges := by
  rw [← List.append_nil exchanges]
  exact failsFast_append answered trivial

theorem FailsFast.last {before after : List (Exchange σ)} {exchange : Exchange σ}
    {error : TransportError}
    (failsFast : FailsFast fatal result (before ++ exchange :: after))
    (failed : exchange.failure? = some error) (deadly : fatal error) :
    after = [] ∧ result = .error (.transport error) := by
  induction before with
  | nil => exact failsFast.1 error failed deadly
  | cons _ before induction => exact induction failsFast.2

theorem FailsFast.bind {exchanges : List (Exchange σ)} (read : α → Except ContractError β)
    (failsFast : FailsFast fatal result exchanges) :
    FailsFast fatal (result.bind read) exchanges := by
  induction exchanges with
  | nil => trivial
  | cons exchange rest induction =>
      refine ⟨?_, induction failsFast.2⟩
      intro error failed deadly
      rcases failsFast.1 error failed deadly with ⟨nothing, same⟩
      exact ⟨nothing, by rw [same]; rfl⟩

end Exchange

/-! ## Sequences of requests -/

/-- The ways in which requests for the listed methods go, with the exchanges and the
result of each. -/
inductive Requesting : List Method → List (Exchange σ) → Except ContractError α → Prop
  | settled {result : Except ContractError α} (accepted : ¬ Refuses result) :
      Requesting [] [] result
  | failed {endpoint : Endpoint} {method : Method} {parameters : List Json}
      {methods : List Method} {error : TransportError} {after : σ} :
      Requesting (method :: methods) [⟨.node endpoint method parameters, .error error, after⟩]
        (.error (.transport error))
  | unread {endpoint : Endpoint} {method : Method} {parameters : List Json}
      {methods : List Method} {reply : Json} {after : σ} :
      Requesting (method :: methods) [⟨.node endpoint method parameters, .ok reply, after⟩]
        (.error (.transport .deserialization))
  | replied {endpoint : Endpoint} {method : Method} {parameters : List Json}
      {methods : List Method} {reply : Json} {after : σ} {later : List (Exchange σ)}
      {result : Except ContractError α} (rest : Requesting methods later result) :
      Requesting (method :: methods)
        (⟨.node endpoint method parameters, .ok reply, after⟩ :: later) result

section Requesting

variable {methods : List Method} {exchanges : List (Exchange σ)}
  {result : Except ContractError α}

theorem Requesting.not_refuses (requesting : Requesting methods exchanges result) :
    ¬ Refuses result := by
  induction requesting with
  | settled accepted => exact accepted
  | failed | unread => simp [refuses_error_iff, ContractError.isOfInput]
  | replied _ induction => exact induction

theorem Requesting.failsFast (requesting : Requesting methods exchanges result)
    (fatal : TransportError → Prop) : Exchange.FailsFast fatal result exchanges := by
  induction requesting with
  | settled => trivial
  | failed =>
      refine ⟨?_, trivial⟩
      intro error failed _
      cases failed
      exact ⟨rfl, rfl⟩
  | unread => exact ⟨nofun, trivial⟩
  | replied _ induction => exact ⟨nofun, induction⟩

theorem Requesting.asked (requesting : Requesting methods exchanges result) :
    ∃ asked, exchanges.map Exchange.method? = asked.map some ∧ asked <+: methods ∧
      (asked = [] → methods = []) ∧ (result.isOk = true → asked = methods) := by
  induction requesting with
  | settled => exact ⟨[], rfl, List.nil_prefix, fun _ => rfl, fun _ => rfl⟩
  | failed | unread => exact ⟨[_], rfl, ⟨_, rfl⟩, nofun, nofun⟩
  | replied _ induction =>
      rcases induction with ⟨asked, same, due, _, complete⟩
      refine ⟨_ :: asked, ?_, (List.prefix_cons_inj _).mpr due, nofun, ?_⟩
      · rw [List.map_cons, same]
        rfl
      · intro succeeded
        rw [complete succeeded]

theorem Requesting.asked_one {method : Method}
    (requesting : Requesting [method] exchanges result) :
    exchanges.map Exchange.method? = [some method] := by
  rcases requesting.asked with ⟨asked, same, due, nonempty, _⟩
  rw [same]
  rcases List.prefix_cons_iff.mp due with none | ⟨rest, rfl, nothing⟩
  · cases nonempty none
  · rw [List.prefix_nil.mp nothing]
    rfl

end Requesting

/-! ## Dialogues that send requests -/

section Dialogues

open Dialogue

variable {respondent : Respondent σ} {endpoint : Endpoint} {method : Method}
  {methods : List Method} {parameters : List Json} {read : Json → Option α}

theorem requesting_request_andThen {step : α → Dialogue (Except ContractError β)}
    (later : ∀ reply value after, read reply = some value →
      Requesting methods ((step value).exchanges respondent after)
        ((step value).run respondent after).1) (state : σ) :
    Requesting (method :: methods)
      (((request endpoint method parameters read).andThen step).exchanges respondent state)
      (((request endpoint method parameters read).andThen step).run respondent state).1 := by
  rcases answered : respondent (.node endpoint method parameters) state with
    ⟨error | reply, after⟩
  · rw [request, andThen, ask_bind, run_ask answered, exchanges_ask answered]
    exact .failed
  · rw [request, andThen, ask_bind, run_ask answered, exchanges_ask answered]
    cases found : read reply with
    | none =>
        simp only [found]
        exact .unread
    | some value =>
        simp only [found]
        exact .replied (later reply value after found)

theorem requesting_request (respondent : Respondent σ) (endpoint : Endpoint) (method : Method)
    (parameters : List Json) (read : Json → Option α) (state : σ) :
    Requesting [method] ((request endpoint method parameters read).exchanges respondent state)
      ((request endpoint method parameters read).run respondent state).1 := by
  rw [← andThen_ok (request endpoint method parameters read)]
  exact requesting_request_andThen (fun _ value _ _ => .settled (not_refuses_ok value)) state

end Dialogues

end ContractClient
