import ContractClient.Proofs.Binding
import ContractClient.Proofs.FailingFast

/-! Naming functions. A handle hands out a function for every identifier that its interface
declares, and for no other. What is bound to the function is the declaration that the identifier
is resolved to, so naming it first and finding its declaration at once come to the same. -/

namespace ContractClient

open Dialogue

namespace Interface

variable {interface : Interface} {identifier : Identifier}

theorem resolveFunction_of_undeclared (undeclared : interface.declares identifier = false)
    (positional : List Json) (keywords : List (String × Json)) :
    interface.resolveFunction identifier positional keywords =
      .error (.notFound .function identifier.toText) := by
  cases identifier with
  | plain name =>
      rw [declares, Bool.not_eq_false', List.isEmpty_iff] at undeclared
      simp only [resolveFunction, undeclared]
  | signature text =>
      rw [declares, Option.isSome_eq_false_iff, Option.isNone_iff_eq_none] at undeclared
      simp only [resolveFunction, undeclared]
  | selector bytes =>
      rw [declares, Option.isSome_eq_false_iff, Option.isNone_iff_eq_none] at undeclared
      simp only [resolveFunction, undeclared]
  | topic => rfl

theorem resolveFunction_of_declared (declared : interface.declares identifier = true)
    (positional : List Json) (keywords : List (String × Json)) (kind : EntryKind)
    (text : String) :
    interface.resolveFunction identifier positional keywords ≠ .error (.notFound kind text) := by
  intro missing
  cases identifier with
  | plain name =>
      rw [declares, Bool.not_eq_true', List.isEmpty_eq_false_iff] at declared
      simp only [resolveFunction] at missing
      split at missing
      · next none => exact declared none
      · cases missing
      · split at missing <;> cases missing
  | signature | selector =>
      rcases Option.isSome_iff_exists.mp declared with ⟨entry, found⟩
      simp only [resolveFunction, found] at missing
      cases missing
  | topic => cases declared

end Interface

/-! ## Naming and binding -/

namespace Contract

variable {contract : Contract} {text : String} {positional : List Json}
  {keywords : List (String × Json)}

theorem bind_function (contract : Contract) (text : String) (positional : List Json)
    (keywords : List (String × Json)) :
    ((contract.function text).bind fun function => function.bind positional keywords) =
      (contract.findFunction text positional keywords).map fun entry =>
        ⟨contract, .function (Identifier.parse text), positional, keywords, some entry⟩ := by
  rw [function, findFunction]
  by_cases declared : contract.interface.declares (Identifier.parse text) = true
  · rw [if_pos declared]
    simp only [Except.bind, ContractFunction.bind]
    cases contract.interface.resolveFunction (Identifier.parse text) positional keywords <;> rfl
  · rw [if_neg declared,
      Interface.resolveFunction_of_undeclared (by simpa using declared)]
    rfl

theorem callFunction_eq (contract : Contract) (options : CallOptions) (text : String)
    (positional : List Json) (keywords : List (String × Json)) :
    contract.callFunction options text positional keywords =
      match (contract.function text).bind fun function => function.bind positional keywords with
      | .error reason => .done (.error reason)
      | .ok bound => bound.call options := by
  rw [callFunction]
  cases contract.function text with
  | error reason => rfl
  | ok function => rfl

end Contract

/-! ## Functions that are declared -/

inductive ContractWork.IsOf (bound : BoundFunction) : ContractWork → Prop
  | call (options : CallOptions) : IsOf bound (.call bound options)
  | transact (options : TransactionOptions) : IsOf bound (.transact bound options)
  | estimateGas (options : TransactionOptions) (block : Option BlockId) :
      IsOf bound (.estimateGas bound options block)
  | buildTransaction (options : TransactionOptions) :
      IsOf bound (.buildTransaction bound options)

theorem ContractWork.IsOf.dispatch_of_refuses {bound : BoundFunction} {work : ContractWork}
    (own : work.IsOf bound) {respondent : Respondent σ} {state : σ} {reason : ContractError}
    (fault : reason.isOfInput = true)
    (failed : (work.perform.run respondent state).1 = .error reason) :
    ∃ options operation, bound.dispatch options operation = .error reason := by
  have refused : Refuses (work.perform.run respondent state).1 := ⟨reason, failed, fault⟩
  cases own with
  | call options =>
      have calling := bound.calling_call respondent options state
      have nothing := calling.eq_nil_of_refuses refused
      simp only [perform] at failed
      rw [failed, nothing] at calling
      cases calling with
      | refused dispatched => exact ⟨_, _, dispatched⟩
  | transact options | estimateGas options block =>
      simp only [perform, BoundFunction.transact, BoundFunction.estimateGas] at failed refused
      split at refused
      · next dispatched =>
          rw [dispatched] at failed
          cases failed
          exact ⟨_, _, dispatched⟩
      · exact absurd refused (requesting_request respondent _ _ _ _ state).not_refuses
  | buildTransaction options =>
      simp only [perform, BoundFunction.buildTransaction] at failed refused
      split at refused
      · next dispatched =>
          rw [dispatched] at failed
          cases failed
          exact ⟨_, _, dispatched⟩
      · next ready _ =>
          have filling := ready.request.requesting_fill respondent ready.endpoint state
          exact absurd refused filling.not_refuses

/-- Nothing that is done with the function fails because no such declaration is there. -/
structure ContractFunction.StaysFound (function : ContractFunction) : Prop where
  bind : ∀ positional keywords kind text,
    function.bind positional keywords ≠ .error (.notFound kind text)
  rebind : ∀ earlier earlierKeywords bound, function.Reaches earlier earlierKeywords bound →
    ∀ positional keywords kind text, bound.rebind positional keywords ≠ .error (.notFound kind text)
  perform : ∀ positional keywords bound, function.Reaches positional keywords bound →
    ∀ work : ContractWork, work.IsOf bound →
      ∀ (σ : Type) (respondent : Respondent σ) (state : σ) (kind : EntryKind) (text : String),
        (work.perform.run respondent state).1 ≠ .error (.notFound kind text)

theorem Contract.staysFound_of_function {contract : Contract} {text : String}
    {function : ContractFunction} (named : contract.function text = .ok function) :
    function.StaysFound := by
  rw [Contract.function] at named
  split at named
  · next declared =>
      cases named
      have binds : ∀ positional keywords kind name,
          ContractFunction.bind ⟨contract, .function (Identifier.parse text)⟩ positional keywords ≠
            .error (.notFound kind name) := by
        intro positional keywords kind name missing
        simp only [ContractFunction.bind] at missing
        split at missing
        · cases missing
        · next unresolved =>
            cases missing
            exact Interface.resolveFunction_of_declared declared _ _ _ _ unresolved
      refine ⟨binds, ?_, ?_⟩
      · intro earlier earlierKeywords bound reaches positional keywords kind name
        -- What is bound keeps its contract and its target: to bind it anew is to bind the function.
        rw [BoundFunction.rebind, ← (ContractFunction.eq_of_bind reaches.bind_eq).1]
        exact binds positional keywords kind name
      · intro positional keywords bound reaches work own σ respondent state kind name failed
        rcases own.dispatch_of_refuses rfl failed with ⟨options, operation, refused⟩
        have unresolved := BoundFunction.isOfResolution_of_dispatch reaches.bind_eq refused
        cases unresolved
  · cases named

/-- To name a function and bind it to arguments comes to the same as to find its declaration
for them: both give the declaration, or both fail and for the same reason. A function that was
named once is never missing later, and where it cannot be found a call by its name asks nothing. -/
theorem Contract.naming_agrees (contract : Contract) (text : String) (positional : List Json)
    (keywords : List (String × Json)) :
    (∀ entry, contract.findFunction text positional keywords = .ok entry ↔
      ∃ function bound, contract.function text = .ok function ∧
        function.bind positional keywords = .ok bound ∧ bound.entry = some entry) ∧
    (∀ reason, contract.findFunction text positional keywords = .error reason ↔
      contract.function text = .error reason ∨
        ∃ function, contract.function text = .ok function ∧
          function.bind positional keywords = .error reason) ∧
    (∀ function, contract.function text = .ok function → function.StaysFound) ∧
    ∀ options reason, contract.findFunction text positional keywords = .error reason →
      contract.callFunction options text positional keywords = .done (.error reason) := by
  have bound := contract.bind_function text positional keywords
  refine ⟨?_, ?_, fun function named => staysFound_of_function named, ?_⟩
  · intro entry
    constructor
    · intro found
      rw [found] at bound
      rcases Traversal.bind_eq_ok_iff.mp bound with ⟨function, named, binds⟩
      exact ⟨function, _, named, binds, rfl⟩
    · rintro ⟨function, given, named, binds, held⟩
      rw [Traversal.bind_eq_ok_iff.mpr ⟨function, named, binds⟩] at bound
      rcases Traversal.map_eq_ok_iff.mp bound.symm with ⟨other, found, rfl⟩
      cases held
      exact found
  · intro reason
    rw [← Traversal.map_eq_error_iff, ← bound, Traversal.bind_eq_error_iff]
  · intro options reason missing
    rw [callFunction_eq, bound, missing]
    rfl

def setterContract : Contract :=
  ⟨Interface.setters, none, none, none, none⟩

theorem Contract.naming_agrees_setters :
    (∃ function bound, setterContract.function " set " = .ok function ∧
      function.bind [.boolean true] [] = .ok bound ∧ bound.signature = "set(bool)") ∧
    ∃ function, setterContract.function " set " = .ok function ∧ function.StaysFound ∧
      setterContract.callFunction .default " set " [] [] =
        .done (.error (.noMatchingOverload "set" 0 ["set(uint8)", "set(bool)"])) := by
  constructor
  · have found : setterContract.findFunction " set " [.boolean true] [] =
        .ok ⟨"set", [⟨"value", "bool", none, []⟩], [], .nonpayable⟩ := rfl
    rcases ((setterContract.naming_agrees " set " [.boolean true] []).1 _).mp found with
      ⟨function, bound, named, binds, held⟩
    refine ⟨function, bound, named, binds, ?_⟩
    rw [BoundFunction.signature, held]
    rfl
  · rcases setterContract.naming_agrees " set " [] [] with ⟨_, _, stays, fails⟩
    exact ⟨_, rfl, stays _ rfl, fails .default _ rfl⟩

end ContractClient
