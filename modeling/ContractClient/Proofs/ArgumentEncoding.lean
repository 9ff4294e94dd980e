import ContractClient.Interface.Arguments
import ContractClient.Proofs.Typing

/-! Encoding of arguments. Coerced values always have the shapes of their
parameters, so encoding fails only where merging or coercing does. -/

namespace ContractClient

theorem Parameter.resolveType_eq_ok_iff {parameter : Parameter} {type : AbiType} :
    parameter.resolveType = .ok type ↔ parameter.resolve = .ok type := by
  rw [resolveType]
  cases parameter.resolve <;> simp

namespace Arguments

theorem coerceFrom_typed {inputs : List Parameter} {arguments : List Json}
    {values : List AbiValue} {position : Nat} (count : inputs.length = arguments.length)
    (coerced : coerceFrom position inputs arguments = .ok values) :
    List.Forall₂ (fun parameter value => ∃ type, parameter.resolve = .ok type ∧
      AbiValue.HasType value type) inputs values := by
  induction inputs generalizing arguments values position with
  | nil =>
      rw [coerceFrom] at coerced
      · cases coerced
        exact .nil
      · simp
  | cons parameter inputs induction =>
      rcases arguments with _ | ⟨argument, arguments⟩
      · simp at count
      · rw [coerceFrom] at coerced
        split at coerced
        · cases coerced
        · next type resolved =>
            split at coerced
            · cases coerced
            · next value read =>
                split at coerced
                · cases coerced
                · next others rest =>
                    cases coerced
                    have found := Parameter.resolveType_eq_ok_iff.mp resolved
                    refine .cons ⟨type, found, AbiValue.ofJson_hasType read⟩ ?_
                    exact induction (by simpa using count) rest

theorem coerce_typed {inputs : List Parameter} {arguments : List Json}
    {values : List AbiValue} (coerced : coerce inputs arguments = .ok values) :
    List.Forall₂ (fun parameter value => ∃ type, parameter.resolve = .ok type ∧
      AbiValue.HasType value type) inputs values := by
  rw [coerce] at coerced
  split at coerced
  · cases coerced
  · next count => exact coerceFrom_typed (Decidable.not_not.mp count) coerced

theorem matchParameters_of_coerce {inputs : List Parameter} {arguments : List Json}
    {values : List AbiValue} (coerced : coerce inputs arguments = .ok values) :
    matchParameters inputs values = true := by
  have typed := coerce_typed coerced
  clear coerced
  induction typed with
  | nil => rfl
  | cons head _ induction =>
      rcases head with ⟨type, found, typed⟩
      simp only [matchParameters, found, typed.matchesType, induction, Bool.and_self]

theorem encodeTyped_of_coerce {inputs : List Parameter} {arguments : List Json}
    {values : List AbiValue} (coerced : coerce inputs arguments = .ok values) :
    encodeTyped inputs values = .ok (AbiValue.encodeSequence values) := by
  rw [encodeTyped, matchParameters_of_coerce coerced, if_pos rfl]

theorem isEncodable_iff {inputs : List Parameter} {arguments : List Json} :
    isEncodable inputs arguments = true ↔ ∃ values, coerce inputs arguments = .ok values := by
  rw [isEncodable]
  cases coerce inputs arguments <;> simp

/-- Arguments are encoded exactly if they merge and the merged ones coerce: the
shape check in between never stops them. -/
theorem encode_eq_ok_iff {inputs : List Parameter} {positional : List Json}
    {keywords : List (String × Json)} {data : Bytes} :
    encode inputs positional keywords = .ok data ↔
      ∃ merged values, merge inputs positional keywords = .ok merged ∧
        coerce inputs merged = .ok values ∧ data = AbiValue.encodeSequence values := by
  rw [encode]
  cases merge inputs positional keywords with
  | error reason => simp
  | ok merged =>
      cases coerced : coerce inputs merged with
      | error reason => simp [coerced]
      | ok values =>
          simp [coerced, encodeTyped_of_coerce coerced, eq_comm]

end Arguments

theorem FunctionEntry.encodeCall_eq_ok_iff {entry : FunctionEntry} {positional : List Json}
    {keywords : List (String × Json)} {data : Bytes} :
    entry.encodeCall positional keywords = .ok data ↔
      ∃ encoded, Arguments.encode entry.inputs positional keywords = .ok encoded ∧
        data = entry.selector.bytes ++ encoded := by
  rw [encodeCall]
  cases Arguments.encode entry.inputs positional keywords <;> simp [eq_comm]

end ContractClient
