import ContractClient.Error
import ContractClient.Json.Basic
import ContractClient.Node.Method

namespace ContractClient

/-! Work that depends on the world outside is written as a dialogue: it either
ends with a result or asks one question and goes on with the answer. Nothing
happens while a dialogue is written down. A respondent gives the answers, so what
is asked, and in which order, can be reasoned about for all answers at once. -/

inductive GatewayError where
  /-- The lookup itself is refused; no other gateway is asked. -/
  | rejected (reason : String)
  /-- The gateway gave no usable answer; the next one is asked. -/
  | unavailable (reason : String)
deriving DecidableEq, Repr

inductive FetchError where
  | unsent (reason : String)
  | unreadable (reason : String)
deriving DecidableEq, Repr

structure FileError where
  reason : String
deriving DecidableEq, Repr

def FileError.missing : FileError := ⟨"No such file or directory (os error 2)"⟩

inductive Question where
  | node (endpoint : Endpoint) (method : Method) (parameters : List Json)
  | gateway (template : String) (sender : Address) (callData : Bytes)
  | fetch (url : String)
  | load (path : String)
  /-- Write a file; what comes of it is not told. -/
  | store (path content : String)

abbrev Question.Answer : Question → Type
  | .node .. => Except TransportError Json
  | .gateway .. => Except GatewayError Bytes
  | .fetch _ => Except FetchError Json
  | .load _ => Except FileError String
  | .store .. => Unit

inductive Dialogue (α : Type) where
  | done (result : α)
  | ask (question : Question) (next : question.Answer → Dialogue α)

namespace Dialogue

/-! ## Composition -/

def bind : Dialogue α → (α → Dialogue β) → Dialogue β
  | done result, step => step result
  | ask question next, step => ask question fun answer => (next answer).bind step

def map (change : α → β) : Dialogue α → Dialogue β
  | done result => done (change result)
  | ask question next => ask question fun answer => (next answer).map change

/-- Go on with the result of a dialogue that may fail; a failure is the end. -/
def andThen (dialogue : Dialogue (Except ε α)) (step : α → Dialogue (Except ε β)) :
    Dialogue (Except ε β) :=
  dialogue.bind fun
    | .ok result => step result
    | .error reason => done (.error reason)

/-- Ask a node and read its reply; a reply that cannot be read is a failure. -/
def request (endpoint : Endpoint) (method : Method) (parameters : List Json)
    (read : Json → Option α) : Dialogue (Except ContractError α) :=
  ask (.node endpoint method parameters) fun
    | .error error => done (.error (.transport error))
    | .ok reply =>
        match read reply with
        | some value => done (.ok value)
        | none => done (.error (.transport .deserialization))

@[simp] theorem done_bind (result : α) (step : α → Dialogue β) :
    (done result).bind step = step result := rfl

@[simp] theorem ask_bind (question : Question) (next : question.Answer → Dialogue α)
    (step : α → Dialogue β) :
    (ask question next).bind step = ask question fun answer => (next answer).bind step := rfl

/-! ## Running -/

/-- Answers every question and keeps a state of its own from one to the next. -/
def Respondent (σ : Type) : Type :=
  (question : Question) → σ → question.Answer × σ

def run (respondent : Respondent σ) : Dialogue α → σ → α × σ
  | done result, state => (result, state)
  | ask question next, state =>
      let (answer, after) := respondent question state
      (next answer).run respondent after

def questions (respondent : Respondent σ) : Dialogue α → σ → List Question
  | done _, _ => []
  | ask question next, state =>
      let (answer, after) := respondent question state
      question :: (next answer).questions respondent after

theorem run_bind (respondent : Respondent σ) (dialogue : Dialogue α) (step : α → Dialogue β)
    (state : σ) :
    (dialogue.bind step).run respondent state =
      (step (dialogue.run respondent state).1).run respondent
        (dialogue.run respondent state).2 := by
  induction dialogue generalizing state with
  | done result => rfl
  | ask question next induction => exact induction _ _

end Dialogue

end ContractClient
