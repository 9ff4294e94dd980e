import ContractClient.Contract.Event
import ContractClient.Proofs.Dispatching

/-! Failures are of two sorts: those of the input, and those that an answer leads to.
What prepares an operation fails in the first way only, what reads an answer in the
second way only. -/

namespace ContractClient

open Traversal

/-- The input is at fault, or the handle that it was given to. -/
def ContractError.isOfInput : ContractError → Bool
  | .notInitialized | .missingAddress _ | .noBytecode | .notFound .. | .noMatchingOverload ..
  | .ambiguousOverload .. | .encoding .. | .conflictingParams _ | .invalidFilter _ => true
  | .decoding .. | .logDecode .. | .malformedLogs _ | .offchainLookup _ | .transport _ => false

def Refuses (result : Except ContractError α) : Prop :=
  ∃ reason, result = .error reason ∧ reason.isOfInput = true

theorem refuses_error_iff {reason : ContractError} :
    Refuses (.error reason : Except ContractError α) ↔ reason.isOfInput = true := by
  simp [Refuses]

theorem not_refuses_ok (value : α) : ¬ Refuses (.ok value) := by
  simp [Refuses]

/-! ## Preparations -/

section Preparations

variable {reason : ContractError}

theorem Interface.isOfInput_of_resolveFunction {interface : Interface} {identifier : Identifier}
    {positional : List Json} {keywords : List (String × Json)}
    (refused : interface.resolveFunction identifier positional keywords = .error reason) :
    reason.isOfInput = true := by
  cases identifier with
  | selector | signature =>
      simp only [resolveFunction] at refused
      split at refused <;> cases refused
      rfl
  | topic =>
      cases refused
      rfl
  | plain name =>
      simp only [resolveFunction] at refused
      split at refused
      · cases refused
        rfl
      · cases refused
      · split at refused <;> cases refused <;> rfl

theorem FunctionEntry.isOfInput_of_encodeCall {entry : FunctionEntry} {positional : List Json}
    {keywords : List (String × Json)}
    (refused : entry.encodeCall positional keywords = .error reason) :
    reason.isOfInput = true := by
  rw [encodeCall] at refused
  split at refused <;> cases refused
  rfl

theorem TransactionOptions.isOfInput_of_merge {options : TransactionOptions}
    {target : Option Address} {input : Bytes} {sender : Option Address}
    (refused : options.merge target input sender = .error reason) :
    reason.isOfInput = true := by
  rw [merge] at refused
  split at refused
  · cases refused
    rfl
  · split at refused <;> cases refused
    rfl

theorem Contract.isOfInput_of_node {contract : Contract} (refused : contract.node = .error reason) :
    reason.isOfInput = true := by
  rw [node] at refused
  split at refused <;> cases refused
  rfl

theorem BoundFunction.isOfInput_of_prepare {bound : BoundFunction}
    (refused : bound.prepare = .error reason) : reason.isOfInput = true := by
  cases directed : bound.target with
  | function identifier =>
      rw [prepare_function directed] at refused
      rcases bind_eq_error_iff.mp refused with unresolved | ⟨entry, _, refused⟩
      · exact Interface.isOfInput_of_resolveFunction unresolved
      · exact FunctionEntry.isOfInput_of_encodeCall (map_eq_error_iff.mp refused)
  | fallback | receive =>
      rw [prepare, directed] at refused
      cases refused

theorem BoundFunction.isOfInput_of_transaction {bound : BoundFunction}
    {options : TransactionOptions} {data : Bytes} {operation : Operation}
    (refused : bound.transaction options data operation = .error reason) :
    reason.isOfInput = true := by
  rw [transaction_eq_bind] at refused
  rcases bind_eq_error_iff.mp refused with conflicting | ⟨request, _, refused⟩
  · exact TransactionOptions.isOfInput_of_merge conflicting
  · split at refused <;> cases refused
    rfl

theorem BoundFunction.isOfInput_of_dispatch {bound : BoundFunction}
    {options : TransactionOptions} {operation : Operation}
    (refused : bound.dispatch options operation = .error reason) : reason.isOfInput = true := by
  rw [dispatch_eq_bind] at refused
  rcases bind_eq_error_iff.mp refused with unprepared | ⟨prepared, _, refused⟩
  · exact isOfInput_of_prepare unprepared
  · rcases bind_eq_error_iff.mp refused with unaddressed | ⟨request, _, refused⟩
    · exact isOfInput_of_transaction unaddressed
    · exact Contract.isOfInput_of_node (map_eq_error_iff.mp refused)

theorem Deployment.isOfInput_of_data {deployment : Deployment}
    (refused : deployment.data = .error reason) : reason.isOfInput = true := by
  rw [data, Interface.encodeConstructor] at refused
  split at refused
  · cases refused
  · next unencoded =>
      cases refused
      split at unencoded
      · split at unencoded <;> cases unencoded
        rfl
      · split at unencoded <;> cases unencoded
        rfl

theorem Deployment.isOfInput_of_transaction {deployment : Deployment}
    {options : TransactionOptions} (refused : deployment.transaction options = .error reason) :
    reason.isOfInput = true := by
  rw [transaction] at refused
  split at refused
  · cases refused
    rfl
  · split at refused
    · next unencoded =>
        cases refused
        exact isOfInput_of_data unencoded
    · exact TransactionOptions.isOfInput_of_merge refused

theorem Deployment.isOfInput_of_dispatch {deployment : Deployment}
    {options : TransactionOptions} (refused : deployment.dispatch options = .error reason) :
    reason.isOfInput = true := by
  rw [dispatch_eq_bind] at refused
  rcases bind_eq_error_iff.mp refused with conflicting | ⟨request, _, refused⟩
  · exact isOfInput_of_transaction conflicting
  · exact Contract.isOfInput_of_node (map_eq_error_iff.mp refused)

theorem FilterBuilder.isOfInput_of_build {builder : FilterBuilder}
    (refused : builder.build = .error reason) : reason.isOfInput = true := by
  rw [build] at refused
  split at refused <;> cases refused
  rfl

end Preparations

/-! ## Answers -/

theorem BoundFunction.not_refuses_readOutput (entry : Option FunctionEntry) (reply : Json) :
    ¬ Refuses (readOutput entry reply) := by
  rw [readOutput]
  split
  · simp [refuses_error_iff, ContractError.isOfInput]
  · split
    · rw [FunctionEntry.decodeOutput]
      split
      · simp [refuses_error_iff, ContractError.isOfInput]
      · exact not_refuses_ok _
    · exact not_refuses_ok _

theorem EventEntry.not_refuses_decodeLog (event : EventEntry) (log : LogEntry) :
    ¬ Refuses (event.decodeLog log) := by
  rw [decodeLog]
  split
  · simp [refuses_error_iff, ContractError.isOfInput]
  · exact not_refuses_ok _

theorem EventEntry.not_refuses_decodeLogs (event : EventEntry) (logs : List LogEntry) :
    ¬ Refuses (event.decodeLogs logs) := by
  induction logs with
  | nil => exact not_refuses_ok _
  | cons log rest induction =>
      rw [decodeLogs]
      split
      · next undecoded =>
          have read := event.not_refuses_decodeLog log
          rw [undecoded, refuses_error_iff] at read
          rwa [refuses_error_iff]
      · split
        · next undecoded =>
            rw [undecoded, refuses_error_iff] at induction
            rwa [refuses_error_iff]
        · exact not_refuses_ok _

end ContractClient
