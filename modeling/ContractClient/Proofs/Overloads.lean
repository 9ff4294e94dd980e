import ContractClient.Interface.Resolution
import ContractClient.Proofs.ArgumentEncoding

/-! Resolution of overloaded names. A declaration is acceptable for given
arguments if there are as many parameters and its call can be encoded. Which
declaration a shared name means, and how it fails to mean one, is decided by the
acceptable declarations alone. -/

namespace ContractClient

namespace FunctionEntry

/-- The declaration has as many parameters as there are arguments, and encodes a
call with them. -/
def Acceptable (positional : List Json) (keywords : List (String × Json))
    (entry : FunctionEntry) : Prop :=
  entry.inputs.length = positional.length + keywords.length ∧
    ∃ data, entry.encodeCall positional keywords = .ok data

theorem accepts_iff {positional : List Json} {keywords : List (String × Json)}
    {entry : FunctionEntry} :
    entry.accepts positional keywords = true ↔ entry.Acceptable positional keywords := by
  have encodes : (∃ data, entry.encodeCall positional keywords = .ok data) ↔
      ∃ merged, Arguments.merge entry.inputs positional keywords = .ok merged ∧
        Arguments.isEncodable entry.inputs merged = true := by
    simp only [encodeCall_eq_ok_iff, Arguments.encode_eq_ok_iff, Arguments.isEncodable_iff]
    constructor
    · rintro ⟨_, _, ⟨merged, values, merges, coerces, _⟩, _⟩
      exact ⟨merged, merges, values, coerces⟩
    · rintro ⟨merged, merges, values, coerces⟩
      exact ⟨_, _, ⟨merged, values, merges, coerces, rfl⟩, rfl⟩
  rw [Acceptable, encodes, accepts, Bool.and_eq_true, beq_iff_eq]
  cases Arguments.merge entry.inputs positional keywords <;> simp

instance (positional : List Json) (keywords : List (String × Json)) (entry : FunctionEntry) :
    Decidable (entry.Acceptable positional keywords) :=
  decidable_of_iff _ accepts_iff

end FunctionEntry

/-! ## Members that pass a test -/

section Filter

variable {α : Type} {test : α → Prop} [DecidablePred test] {members : List α}

theorem filter_eq_singleton_iff {only : α} :
    members.filter (fun member => decide (test member)) = [only] ↔
      ∃ before after, members = before ++ only :: after ∧ test only ∧
        ∀ other ∈ before ++ after, ¬test other := by
  rw [List.filter_eq_cons_iff]
  simp only [decide_eq_true_iff, List.filter_eq_nil_iff]
  constructor
  · rintro ⟨before, after, split, noneBefore, passes, noneAfter⟩
    refine ⟨before, after, split, passes, fun other member => ?_⟩
    rcases List.mem_append.mp member with member | member
    · exact noneBefore other member
    · exact noneAfter other member
  · rintro ⟨before, after, split, passes, others⟩
    exact ⟨before, after, split, fun other member => others other (by simp [member]), passes,
      fun other member => others other (by simp [member])⟩

theorem two_le_length_filter_iff :
    2 ≤ (members.filter fun member => decide (test member)).length ↔
      ∃ before first between second after,
        members = before ++ first :: between ++ second :: after ∧ test first ∧ test second := by
  constructor
  · intro several
    rcases left : members.filter (fun member => decide (test member)) with
      _ | ⟨first, _ | ⟨second, rest⟩⟩
    · rw [left] at several
      simp at several
    · rw [left] at several
      simp at several
    · rcases List.filter_eq_cons_iff.mp left with ⟨before, behind, split, _, firstPasses, left⟩
      rcases List.filter_eq_cons_iff.mp left with ⟨between, after, rfl, _, secondPasses, _⟩
      refine ⟨before, first, between, second, after, ?_, ?_, ?_⟩
      · simp [split]
      · exact of_decide_eq_true firstPasses
      · exact of_decide_eq_true secondPasses
  · rintro ⟨before, first, between, second, after, rfl, firstPasses, secondPasses⟩
    simp only [List.filter_append, List.filter_cons, firstPasses, secondPasses, decide_true,
      if_true, List.length_append, List.length_cons]
    omega

end Filter

namespace Interface

variable {interface : Interface} {name : String} {positional : List Json}
  {keywords : List (String × Json)}

def acceptable (interface : Interface) (name : String) (positional : List Json)
    (keywords : List (String × Json)) : List FunctionEntry :=
  (interface.functionsNamed name).filter fun entry =>
    decide (entry.Acceptable positional keywords)

theorem filter_accepts :
    (interface.functionsNamed name).filter (FunctionEntry.accepts positional keywords) =
      interface.acceptable name positional keywords := by
  apply List.filter_congr
  intro entry _
  rw [Bool.eq_iff_iff, FunctionEntry.accepts_iff, decide_eq_true_iff]

theorem resolveFunction_of_shared (shared : 2 ≤ (interface.functionsNamed name).length) :
    interface.resolveFunction (.plain name) positional keywords =
      match interface.acceptable name positional keywords with
      | [chosen] => .ok chosen
      | [] =>
          .error (.noMatchingOverload name (positional.length + keywords.length)
            ((interface.functionsNamed name).map FunctionEntry.signature))
      | survivors => .error (.ambiguousOverload name (survivors.map FunctionEntry.signature)) := by
  rw [resolveFunction, ← filter_accepts]
  rcases candidates : interface.functionsNamed name with _ | ⟨first, _ | ⟨second, rest⟩⟩
  · rw [candidates] at shared
    simp at shared
  · rw [candidates] at shared
    simp at shared
  · rfl

/-- Of the declarations that share a name, resolution gives the only acceptable
one, counted by position; it reports all of them if none is acceptable, and
exactly the acceptable ones if there are several. -/
theorem resolveFunction_shared_iff (shared : 2 ≤ (interface.functionsNamed name).length) :
    (∀ entry, interface.resolveFunction (.plain name) positional keywords = .ok entry ↔
      ∃ before after, interface.functionsNamed name = before ++ entry :: after ∧
        entry.Acceptable positional keywords ∧
        ∀ other ∈ before ++ after, ¬other.Acceptable positional keywords) ∧
    (interface.resolveFunction (.plain name) positional keywords =
        .error (.noMatchingOverload name (positional.length + keywords.length)
          ((interface.functionsNamed name).map FunctionEntry.signature)) ↔
      ∀ entry ∈ interface.functionsNamed name, ¬entry.Acceptable positional keywords) ∧
    (interface.resolveFunction (.plain name) positional keywords =
        .error (.ambiguousOverload name
          ((interface.acceptable name positional keywords).map FunctionEntry.signature)) ↔
      ∃ before first between second after,
        interface.functionsNamed name = before ++ first :: between ++ second :: after ∧
          first.Acceptable positional keywords ∧ second.Acceptable positional keywords) := by
  have one : ∀ entry, interface.acceptable name positional keywords = [entry] ↔ _ :=
    fun _ => filter_eq_singleton_iff
  have none : interface.acceptable name positional keywords = [] ↔
      ∀ entry ∈ interface.functionsNamed name, ¬entry.Acceptable positional keywords := by
    simp [acceptable]
  have several : 2 ≤ (interface.acceptable name positional keywords).length ↔ _ :=
    two_le_length_filter_iff
  rw [resolveFunction_of_shared shared, ← several, ← none]
  simp only [← one]
  rcases interface.acceptable name positional keywords with _ | ⟨first, _ | ⟨second, rest⟩⟩
  · simp
  · simp
  · simp

def setters : Interface :=
  { empty with
    functions :=
      [⟨"set", [⟨"value", "uint8", none, []⟩], [], .nonpayable⟩,
       ⟨"set", [⟨"value", "bool", none, []⟩], [], .nonpayable⟩] }

theorem resolveFunction_shared_flag :
    2 ≤ (setters.functionsNamed "set").length ∧
      setters.resolveFunction (.plain "set") [.boolean true] [] =
        .ok ⟨"set", [⟨"value", "bool", none, []⟩], [], .nonpayable⟩ := by
  have shared : 2 ≤ (setters.functionsNamed "set").length := by decide
  refine ⟨shared, ((resolveFunction_shared_iff shared).1 _).mpr
    ⟨[⟨"set", [⟨"value", "uint8", none, []⟩], [], .nonpayable⟩], [], rfl, ?_, ?_⟩⟩
  · decide
  · decide

end Interface

end ContractClient
