import ContractClient.Dialogue

/-! Conversations. From outside, a run of a dialogue is the list of its questions
with the answers they got. What a dialogue does to the world is stated about its
conversations with every respondent. -/

namespace ContractClient

structure Exchange (σ : Type) where
  question : Question
  answer : question.Answer
  /-- The state of the respondent behind the answer. -/
  after : σ

namespace Exchange

def method? (exchange : Exchange σ) : Option Method :=
  match exchange.question with
  | .node _ method _ => some method
  | _ => none

def failure? : Exchange σ → Option TransportError
  | ⟨.node .., .error error, _⟩ => some error
  | _ => none

def response? : Exchange σ → Option Bytes
  | ⟨.gateway .., .ok response, _⟩ => some response
  | _ => none

/-- Every question is allowed after what went before it; `history` is what went
before all of them. -/
def Justified (allowed : List (Exchange σ) → Question → Prop) (history : List (Exchange σ)) :
    List (Exchange σ) → Prop
  | [] => True
  | exchange :: rest =>
      allowed history exchange.question ∧ Justified allowed (history ++ [exchange]) rest

theorem justified_append_iff {allowed : List (Exchange σ) → Question → Prop}
    {history first second : List (Exchange σ)} :
    Justified allowed history (first ++ second) ↔
      Justified allowed history first ∧ Justified allowed (history ++ first) second := by
  induction first generalizing history with
  | nil => simp [Justified]
  | cons exchange rest induction =>
      rw [List.cons_append, Justified, Justified, induction, and_assoc, List.append_assoc,
        List.singleton_append]

theorem Justified.allowed {allowed : List (Exchange σ) → Question → Prop}
    {history before after : List (Exchange σ)} {exchange : Exchange σ}
    (justified : Justified allowed history (before ++ exchange :: after)) :
    allowed (history ++ before) exchange.question :=
  (justified_append_iff.mp justified).2.1

end Exchange

namespace Dialogue

variable {respondent : Respondent σ} {state after : σ}

def Respondent.ofNodes (reply : Endpoint → Method → Except TransportError Json) : Respondent Unit
  | .node endpoint method _, state => (reply endpoint method, state)
  | .gateway .., state => (.error (.unavailable "offline"), state)
  | .fetch _, state => (.error (.unsent "offline"), state)
  | .load _, state => (.error .missing, state)
  | .store .., state => ((), state)

/-! ## Exchanges of a run -/

def exchanges (respondent : Respondent σ) : Dialogue α → σ → List (Exchange σ)
  | done _, _ => []
  | ask question next, state =>
      let (answer, after) := respondent question state
      ⟨question, answer, after⟩ :: (next answer).exchanges respondent after

def methods (respondent : Respondent σ) (dialogue : Dialogue α) (state : σ) : List Method :=
  (dialogue.exchanges respondent state).filterMap Exchange.method?

theorem run_ask {question : Question} {answer : question.Answer}
    (answered : respondent question state = (answer, after))
    (next : question.Answer → Dialogue α) :
    (ask question next).run respondent state = (next answer).run respondent after := by
  rw [run, answered]

theorem exchanges_ask {question : Question} {answer : question.Answer}
    (answered : respondent question state = (answer, after))
    (next : question.Answer → Dialogue α) :
    (ask question next).exchanges respondent state =
      ⟨question, answer, after⟩ :: (next answer).exchanges respondent after := by
  rw [exchanges, answered]

theorem questions_request (respondent : Respondent σ) (endpoint : Endpoint) (method : Method)
    (parameters : List Json) (read : Json → Option α) (state : σ) :
    (request endpoint method parameters read).questions respondent state =
      [.node endpoint method parameters] := by
  rw [request, questions]
  rcases respondent (.node endpoint method parameters) state with ⟨error | reply, after⟩
  · rfl
  · cases found : read reply <;> simp [found, questions]

theorem questions_eq_map (respondent : Respondent σ) (dialogue : Dialogue α) (state : σ) :
    dialogue.questions respondent state =
      (dialogue.exchanges respondent state).map Exchange.question := by
  induction dialogue generalizing state with
  | done result => rfl
  | ask question next induction => exact congrArg (question :: ·) (induction _ _)

theorem answer_of_mem {dialogue : Dialogue α} {exchange : Exchange σ}
    (member : exchange ∈ dialogue.exchanges respondent state) :
    ∃ before, respondent exchange.question before = (exchange.answer, exchange.after) := by
  induction dialogue generalizing state with
  | done result => cases member
  | ask question next induction =>
      rcases List.mem_cons.mp member with rfl | member
      · exact ⟨state, rfl⟩
      · exact induction _ member

theorem exchanges_bind (dialogue : Dialogue α) (step : α → Dialogue β) (state : σ) :
    (dialogue.bind step).exchanges respondent state =
      dialogue.exchanges respondent state ++
        (step (dialogue.run respondent state).1).exchanges respondent
          (dialogue.run respondent state).2 := by
  induction dialogue generalizing state with
  | done result => rfl
  | ask question next induction =>
      simp only [ask_bind, exchanges, run, List.cons_append]
      exact congrArg _ (induction _ _)

theorem run_map (dialogue : Dialogue α) (change : α → β) (state : σ) :
    (dialogue.map change).run respondent state =
      (change (dialogue.run respondent state).1, (dialogue.run respondent state).2) := by
  induction dialogue generalizing state with
  | done result => rfl
  | ask question next induction => exact induction _ _

theorem exchanges_map (dialogue : Dialogue α) (change : α → β) (state : σ) :
    (dialogue.map change).exchanges respondent state = dialogue.exchanges respondent state := by
  induction dialogue generalizing state with
  | done result => rfl
  | ask question next induction =>
      simp only [map, exchanges]
      exact congrArg _ (induction _ _)

/-! ## Questions that may come up -/

/-- Whatever the answers are, every question of the dialogue is allowed. -/
def Asks (allowed : Question → Prop) : Dialogue α → Prop
  | done _ => True
  | ask question next => allowed question ∧ ∀ answer, (next answer).Asks allowed

section Asks

variable {allowed : Question → Prop}

theorem Asks.bind {dialogue : Dialogue α} {step : α → Dialogue β} (asks : dialogue.Asks allowed)
    (later : ∀ result, (step result).Asks allowed) : (dialogue.bind step).Asks allowed := by
  induction dialogue with
  | done result => exact later result
  | ask question next induction => exact ⟨asks.1, fun answer => induction answer (asks.2 answer)⟩

theorem Asks.map {dialogue : Dialogue α} (asks : dialogue.Asks allowed) (change : α → β) :
    (dialogue.map change).Asks allowed := by
  induction dialogue with
  | done result => trivial
  | ask question next induction => exact ⟨asks.1, fun answer => induction answer (asks.2 answer)⟩

theorem Asks.question_of_mem {dialogue : Dialogue α} (asks : dialogue.Asks allowed)
    {exchange : Exchange σ} (member : exchange ∈ dialogue.exchanges respondent state) :
    allowed exchange.question := by
  induction dialogue generalizing state with
  | done result => cases member
  | ask question next induction =>
      rcases List.mem_cons.mp member with rfl | member
      · exact asks.1
      · exact induction _ (asks.2 _) member

end Asks

/-! ## Work that may fail -/

section AndThen

variable {dialogue : Dialogue (Except ε α)} {step : α → Dialogue (Except ε β)}

theorem run_andThen_ok {value : α}
    (ended : dialogue.run respondent state = (.ok value, after)) :
    (dialogue.andThen step).run respondent state = (step value).run respondent after := by
  rw [andThen, run_bind, ended]

theorem run_andThen_error {reason : ε}
    (ended : dialogue.run respondent state = (.error reason, after)) :
    (dialogue.andThen step).run respondent state = (.error reason, after) := by
  rw [andThen, run_bind, ended]
  rfl

theorem exchanges_andThen_ok {value : α}
    (ended : dialogue.run respondent state = (.ok value, after)) :
    (dialogue.andThen step).exchanges respondent state =
      dialogue.exchanges respondent state ++ (step value).exchanges respondent after := by
  rw [andThen, exchanges_bind, ended]

theorem exchanges_andThen_error {reason : ε}
    (ended : dialogue.run respondent state = (.error reason, after)) :
    (dialogue.andThen step).exchanges respondent state =
      dialogue.exchanges respondent state := by
  rw [andThen, exchanges_bind, ended]
  exact List.append_nil _

theorem andThen_ok (dialogue : Dialogue (Except ε α)) :
    (dialogue.andThen fun value => done (.ok value)) = dialogue := by
  induction dialogue with
  | done result => cases result <;> rfl
  | ask question next induction => exact congrArg (ask question) (funext induction)

theorem run_andThen_done (read : α → Except ε β) :
    (dialogue.andThen fun value => done (read value)).run respondent state =
      ((dialogue.run respondent state).1.bind read, (dialogue.run respondent state).2) := by
  rcases ended : dialogue.run respondent state with ⟨reason | value, after⟩
  · rw [run_andThen_error ended]
    rfl
  · rw [run_andThen_ok ended]
    rfl

theorem exchanges_andThen_done (read : α → Except ε β) :
    (dialogue.andThen fun value => done (read value)).exchanges respondent state =
      dialogue.exchanges respondent state := by
  rcases ended : dialogue.run respondent state with ⟨reason | value, after⟩
  · rw [exchanges_andThen_error ended]
  · rw [exchanges_andThen_ok ended]
    exact List.append_nil _

end AndThen

theorem run_request_eq_ok {endpoint : Endpoint} {method : Method} {parameters : List Json}
    {read : Json → Option α} {value : α}
    (ended : (request endpoint method parameters read).run respondent state =
      (.ok value, after)) : ∃ reply, read reply = some value := by
  rcases answered : respondent (.node endpoint method parameters) state with
    ⟨error | reply, between⟩
  · cases (run_ask answered _).symm.trans ended
  · have replied := (run_ask answered _).symm.trans ended
    cases found : read reply with
    | none => simp [found, run] at replied
    | some other =>
        simp only [found, run, Prod.mk.injEq, Except.ok.injEq] at replied
        exact ⟨reply, by rw [found, replied.1]⟩

end Dialogue

end ContractClient
