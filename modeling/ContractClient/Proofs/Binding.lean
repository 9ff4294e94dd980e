import ContractClient.Proofs.Dispatching
import ContractClient.Proofs.Overloads

/-! Bound functions. Binding resolves a target for the arguments that are given, and
dispatching resolves it once more for the arguments that are held. Both find the same
declaration, however often the function has been bound anew. -/

namespace ContractClient

open Traversal

/-- The declaration that is meant is missing, or is not told from others. -/
def ContractError.isOfResolution : ContractError → Bool
  | .notFound .. | .noMatchingOverload .. | .ambiguousOverload .. => true
  | _ => false

theorem Interface.acceptable_of_resolveFunction {interface : Interface} {name : String}
    {positional : List Json} {keywords : List (String × Json)} {entry : FunctionEntry}
    (shared : 2 ≤ (interface.functionsNamed name).length)
    (resolved : interface.resolveFunction (.plain name) positional keywords = .ok entry) :
    entry.Acceptable positional keywords := by
  rw [resolveFunction_of_shared shared] at resolved
  split at resolved
  · next chosen only =>
      cases resolved
      have member : entry ∈ interface.acceptable name positional keywords := by
        rw [only]
        exact .head _
      exact of_decide_eq_true (List.mem_filter.mp member).2
  · cases resolved
  · cases resolved

theorem FunctionEntry.encoding_of_encodeCall {entry : FunctionEntry} {positional : List Json}
    {keywords : List (String × Json)} {reason : ContractError}
    (refused : entry.encodeCall positional keywords = .error reason) :
    ∃ why, reason = .encoding entry.signature why := by
  rw [encodeCall] at refused
  split at refused
  · cases refused
  · next why _ =>
      cases refused
      exact ⟨why, rfl⟩

/-! ## Binding -/

namespace ContractFunction

theorem bind_eq_ok_iff {function : ContractFunction} {positional : List Json}
    {keywords : List (String × Json)} {bound : BoundFunction} :
    function.bind positional keywords = .ok bound ↔
      (∃ identifier entry, function.target = .function identifier ∧
        function.contract.interface.resolveFunction identifier positional keywords = .ok entry ∧
        bound = ⟨function.contract, function.target, positional, keywords, some entry⟩) ∨
      ((function.target = .fallback ∨ function.target = .receive) ∧
        positional = [] ∧ keywords = [] ∧
        bound = ⟨function.contract, function.target, positional, keywords, none⟩) := by
  rcases function with ⟨contract, identifier | _ | _⟩
  · dsimp only [bind]
    cases resolved : contract.interface.resolveFunction identifier positional keywords with
    | error reason => simp [resolved]
    | ok entry => simp [resolved, eq_comm]
  · cases positional <;> cases keywords <;> simp [bind, eq_comm]
  · cases positional <;> cases keywords <;> simp [bind, eq_comm]

theorem eq_of_bind {function : ContractFunction} {positional : List Json}
    {keywords : List (String × Json)} {bound : BoundFunction}
    (binds : function.bind positional keywords = .ok bound) :
    function = ⟨bound.contract, bound.target⟩ ∧ bound.positional = positional ∧
      bound.keywords = keywords := by
  rcases bind_eq_ok_iff.mp binds with ⟨_, _, _, _, rfl⟩ | ⟨_, _, _, rfl⟩
  · exact ⟨rfl, rfl, rfl⟩
  · exact ⟨rfl, rfl, rfl⟩

/-- What binding a function, and binding anew what comes of it, leads to. The arguments are
those that were given last. -/
inductive Reaches (function : ContractFunction) :
    List Json → List (String × Json) → BoundFunction → Prop
  | bind {positional : List Json} {keywords : List (String × Json)} {bound : BoundFunction}
      (binds : function.bind positional keywords = .ok bound) :
      Reaches function positional keywords bound
  | rebind {earlier positional : List Json} {earlierKeywords keywords : List (String × Json)}
      {between bound : BoundFunction}
      (reaches : Reaches function earlier earlierKeywords between)
      (rebinds : between.rebind positional keywords = .ok bound) :
      Reaches function positional keywords bound

theorem Reaches.bind_eq {function : ContractFunction} {positional : List Json}
    {keywords : List (String × Json)} {bound : BoundFunction}
    (reaches : function.Reaches positional keywords bound) :
    function.bind positional keywords = .ok bound := by
  induction reaches with
  | bind binds => exact binds
  | rebind _ rebinds induction =>
      -- What is bound keeps its contract and its target: to bind it anew is to bind the function.
      rw [(eq_of_bind induction).1]
      exact rebinds

end ContractFunction

namespace BoundFunction

/-! ## Call data -/

/-- The function is bound to a declaration: its target means that declaration for the
arguments that are held, and its call data is made for that declaration. -/
structure HoldsDeclaration (bound : BoundFunction) (identifier : Identifier)
    (entry : FunctionEntry) : Prop where
  directed : bound.target = .function identifier
  held : bound.entry = some entry
  resolved : bound.contract.interface.resolveFunction identifier bound.positional
    bound.keywords = .ok entry
  encoded : ∀ data, bound.callData = .ok data ↔ ∃ merged values,
    Arguments.merge entry.inputs bound.positional bound.keywords = .ok merged ∧
      Arguments.coerce entry.inputs merged = .ok values ∧
      data = entry.selector.bytes ++ AbiValue.encodeSequence values
  refused : ∀ reason, bound.callData = .error reason →
    ∃ why, reason = .encoding bound.signature why
  shared : ∀ name, identifier = .plain name →
    2 ≤ (bound.contract.interface.functionsNamed name).length →
      ∃ data, bound.callData = .ok data

/-- The function is bound to an entry without a name. -/
structure HoldsNothing (bound : BoundFunction) : Prop where
  directed : bound.target = .fallback ∨ bound.target = .receive
  held : bound.entry = none
  positional : bound.positional = []
  keywords : bound.keywords = []
  encoded : bound.callData = .ok []

variable {bound : BoundFunction} {identifier : Identifier} {entry : FunctionEntry}

theorem callData_eq_map (bound : BoundFunction) :
    bound.callData = bound.prepare.map Prod.snd := by
  rw [callData]
  cases bound.prepare <;> rfl

theorem prepare_of_resolved (directed : bound.target = .function identifier)
    (resolved : bound.contract.interface.resolveFunction identifier bound.positional
      bound.keywords = .ok entry) :
    bound.prepare =
      (entry.encodeCall bound.positional bound.keywords).map (some entry, ·) := by
  rw [prepare_function directed, resolved]
  rfl

theorem callData_of_resolved (directed : bound.target = .function identifier)
    (resolved : bound.contract.interface.resolveFunction identifier bound.positional
      bound.keywords = .ok entry) :
    bound.callData = entry.encodeCall bound.positional bound.keywords := by
  rw [callData_eq_map, prepare_of_resolved directed resolved]
  cases entry.encodeCall bound.positional bound.keywords <;> rfl

theorem holdsDeclaration_of_resolved (directed : bound.target = .function identifier)
    (held : bound.entry = some entry)
    (resolved : bound.contract.interface.resolveFunction identifier bound.positional
      bound.keywords = .ok entry) :
    bound.HoldsDeclaration identifier entry where
  directed := directed
  held := held
  resolved := resolved
  encoded := by
    intro data
    rw [callData_of_resolved directed resolved, FunctionEntry.encodeCall_eq_ok_iff]
    simp only [Arguments.encode_eq_ok_iff]
    constructor
    · rintro ⟨_, ⟨merged, values, merges, coerced, rfl⟩, rfl⟩
      exact ⟨merged, values, merges, coerced, rfl⟩
    · rintro ⟨merged, values, merges, coerced, rfl⟩
      exact ⟨_, ⟨merged, values, merges, coerced, rfl⟩, rfl⟩
  refused := by
    intro reason refused
    rw [callData_of_resolved directed resolved] at refused
    have signed : bound.signature = entry.signature := by rw [signature, held]
    rw [signed]
    exact FunctionEntry.encoding_of_encodeCall refused
  shared := by
    rintro name rfl several
    rw [callData_of_resolved directed resolved]
    exact (Interface.acceptable_of_resolveFunction several resolved).2

/-! ## Dispatching -/

theorem isOfResolution_of_transaction {options : TransactionOptions} {data : Bytes}
    {operation : Operation} {reason : ContractError}
    (refused : bound.transaction options data operation = .error reason) :
    reason.isOfResolution = false := by
  rw [transaction_eq_bind] at refused
  rcases bind_eq_error_iff.mp refused with conflicting | ⟨request, _, untargeted⟩
  · rw [TransactionOptions.merge] at conflicting
    split at conflicting
    · cases conflicting
      rfl
    · split at conflicting <;> cases conflicting
      rfl
  · split at untargeted <;> cases untargeted
    rfl

section Bound

variable {function : ContractFunction} {positional : List Json}
  {keywords : List (String × Json)} (binds : function.bind positional keywords = .ok bound)

include binds

theorem holds_of_bind :
    (∃ identifier entry, bound.HoldsDeclaration identifier entry) ∨ bound.HoldsNothing := by
  rcases ContractFunction.bind_eq_ok_iff.mp binds with
    ⟨identifier, entry, directed, resolved, rfl⟩ | ⟨unnamed, rfl, rfl, rfl⟩
  · exact .inl ⟨identifier, entry, holdsDeclaration_of_resolved directed rfl resolved⟩
  · refine .inr ⟨unnamed, rfl, rfl, rfl, ?_⟩
    rcases unnamed with directed | directed <;> simp only [callData, prepare, directed]

theorem prepare_of_bind :
    (∃ signature why, bound.prepare = .error (.encoding signature why)) ∨
      ∃ data, bound.prepare = .ok (bound.entry, data) := by
  rcases ContractFunction.bind_eq_ok_iff.mp binds with
    ⟨identifier, entry, directed, resolved, rfl⟩ | ⟨unnamed, rfl, rfl, rfl⟩
  · rw [prepare_of_resolved directed resolved]
    cases encoded : entry.encodeCall positional keywords with
    | error reason =>
        rcases FunctionEntry.encoding_of_encodeCall encoded with ⟨why, rfl⟩
        exact .inl ⟨entry.signature, why, rfl⟩
    | ok data => exact .inr ⟨data, rfl⟩
  · refine .inr ⟨[], ?_⟩
    rcases unnamed with directed | directed <;> simp only [prepare, directed]

theorem isOfResolution_of_dispatch {options : TransactionOptions} {operation : Operation}
    {reason : ContractError} (refused : bound.dispatch options operation = .error reason) :
    reason.isOfResolution = false := by
  rw [dispatch_eq_bind] at refused
  rcases bind_eq_error_iff.mp refused with unprepared | ⟨prepared, _, refused⟩
  · rcases prepare_of_bind binds with ⟨signature, why, failed⟩ | ⟨data, prepared⟩
    · cases failed.symm.trans unprepared
      rfl
    · cases prepared.symm.trans unprepared
  · rcases bind_eq_error_iff.mp refused with unstated | ⟨request, _, unconnected⟩
    · exact isOfResolution_of_transaction unstated
    · have failed := map_eq_error_iff.mp unconnected
      rw [Contract.node] at failed
      split at failed <;> cases failed
      rfl

theorem entry_of_prepare {entry : Option FunctionEntry} {data : Bytes}
    (prepared : bound.prepare = .ok (entry, data)) : entry = bound.entry := by
  rcases prepare_of_bind binds with ⟨signature, why, failed⟩ | ⟨other, found⟩
  · cases failed.symm.trans prepared
  · cases found.symm.trans prepared
    rfl

end Bound

/-- However often a function is bound anew, its target resolves to the declaration that is
held, and nothing but that declaration decides on the call data. A dispatch never fails to
resolve, and it is about the declaration that is held. -/
theorem bound_consistently {function : ContractFunction} {positional : List Json}
    {keywords : List (String × Json)} {bound : BoundFunction}
    (reaches : function.Reaches positional keywords bound) :
    function = ⟨bound.contract, bound.target⟩ ∧ bound.positional = positional ∧
      bound.keywords = keywords ∧
      ((∃ identifier entry, bound.HoldsDeclaration identifier entry) ∨ bound.HoldsNothing) ∧
      ∀ options operation,
        (∃ reason, bound.dispatch options operation = .error reason ∧
          reason.isOfResolution = false) ∨
        ∃ ready, bound.dispatch options operation = .ok ready ∧ ready.entry = bound.entry := by
  rcases ContractFunction.eq_of_bind reaches.bind_eq with ⟨same, given, named⟩
  refine ⟨same, given, named, holds_of_bind reaches.bind_eq, ?_⟩
  intro options operation
  cases dispatched : bound.dispatch options operation with
  | error reason =>
      exact .inl ⟨reason, rfl, isOfResolution_of_dispatch reaches.bind_eq dispatched⟩
  | ok ready =>
      exact .inr ⟨ready, rfl, entry_of_prepare reaches.bind_eq (eq_of_dispatch dispatched).1⟩

def setter : ContractFunction :=
  ⟨⟨Interface.setters, none, none, none, none⟩, .function (.plain "set")⟩

def setNumber : FunctionEntry :=
  ⟨"set", [⟨"value", "uint8", none, []⟩], [], .nonpayable⟩

theorem bound_consistently_rebound :
    ∃ bound, setter.Reaches [] [("value", .string "7")] bound ∧ bound.entry = some setNumber ∧
      bound.callData = .ok (setNumber.selector.bytes ++ AbiValue.encodeSequence [.uint 7 8]) := by
  have flag : setter.bind [.boolean true] [] = .ok ⟨setter.contract, setter.target,
      [.boolean true], [], some ⟨"set", [⟨"value", "bool", none, []⟩], [], .nonpayable⟩⟩ := rfl
  have number : setter.bind [] [("value", .string "7")] = .ok ⟨setter.contract, setter.target,
      [], [("value", .string "7")], some setNumber⟩ := rfl
  have reaches := ContractFunction.Reaches.rebind (.bind flag) number
  refine ⟨_, reaches, rfl, ?_⟩
  rcases bound_consistently reaches with ⟨_, _, _, ⟨identifier, entry, holds⟩ | holds, _⟩
  · cases holds.held
    exact (holds.encoded _).mpr ⟨_, _, rfl, rfl, rfl⟩
  · cases holds.held

end BoundFunction

end ContractClient
