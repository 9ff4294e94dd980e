import ContractClient.Contract.Deployment
import ContractClient.Proofs.ArgumentEncoding

/-! Call data and deployment data. Coerced arguments belong to the types of their
parameters down to the last range, so the encoder, which compares counts and
shapes once more, has nothing left to refuse. -/

namespace ContractClient

theorem Arguments.encode_ne_typeMismatch (inputs : List Parameter) (positional : List Json)
    (keywords : List (String × Json)) :
    encode inputs positional keywords ≠ .error .typeMismatch := by
  rw [encode]
  cases merge inputs positional keywords with
  | error reason => simp
  | ok merged =>
      cases coerced : coerce inputs merged with
      | error reason => simp [coerced]
      | ok values => simp [coerced, encodeTyped_of_coerce coerced]

/-! ## Functions -/

namespace FunctionEntry

variable {entry : FunctionEntry} {positional merged : List Json}
  {keywords : List (String × Json)} {values : List AbiValue}

theorem encodeCall_of_coerce
    (merges : Arguments.merge entry.inputs positional keywords = .ok merged)
    (coerced : Arguments.coerce entry.inputs merged = .ok values) :
    entry.encodeCall positional keywords =
      .ok (entry.selector.bytes ++ AbiValue.encodeSequence values) :=
  encodeCall_eq_ok_iff.mpr
    ⟨_, Arguments.encode_eq_ok_iff.mpr ⟨merged, values, merges, coerced, rfl⟩, rfl⟩

theorem encodeCall_ne_typeMismatch (entry : FunctionEntry) (positional : List Json)
    (keywords : List (String × Json)) (signature : String) :
    entry.encodeCall positional keywords ≠ .error (.encoding signature .typeMismatch) := by
  rw [encodeCall]
  cases encoded : Arguments.encode entry.inputs positional keywords with
  | ok data => simp
  | error reason =>
      intro same
      cases same
      exact Arguments.encode_ne_typeMismatch _ _ _ encoded

end FunctionEntry

/-! ## Deployments -/

theorem Interface.encodeConstructor_ne_typeMismatch (interface : Interface)
    (positional : List Json) (keywords : List (String × Json)) (signature : String) :
    interface.encodeConstructor positional keywords ≠
      .error (.encoding signature .typeMismatch) := by
  rw [encodeConstructor]
  cases interface.constructor with
  | none =>
      by_cases none : (positional.isEmpty && keywords.isEmpty) = true
      · simp [none]
      · simp [none]
  | some entry =>
      cases encoded : Arguments.encode entry.inputs positional keywords with
      | ok data => simp [encoded]
      | error reason =>
          simp only [encoded]
          intro same
          cases same
          exact Arguments.encode_ne_typeMismatch _ _ _ encoded

namespace Deployment

variable {deployment : Deployment} {entry : ConstructorEntry} {merged : List Json}
  {values : List AbiValue}

theorem data_of_coerce (declared : deployment.contract.interface.constructor = some entry)
    (merges : Arguments.merge entry.inputs deployment.positional deployment.keywords =
      .ok merged)
    (coerced : Arguments.coerce entry.inputs merged = .ok values) :
    deployment.data = .ok (deployment.bytecode ++ AbiValue.encodeSequence values) := by
  have encoded : Arguments.encode entry.inputs deployment.positional deployment.keywords =
      .ok (AbiValue.encodeSequence values) :=
    Arguments.encode_eq_ok_iff.mpr ⟨merged, values, merges, coerced, rfl⟩
  simp only [data, Interface.encodeConstructor, declared, encoded]

theorem data_ne_typeMismatch (deployment : Deployment) (signature : String) :
    deployment.data ≠ .error (.encoding signature .typeMismatch) := by
  rw [data]
  cases encoded : deployment.contract.interface.encodeConstructor deployment.positional
      deployment.keywords with
  | ok arguments => simp
  | error reason =>
      intro same
      cases same
      exact Interface.encodeConstructor_ne_typeMismatch _ _ _ _ encoded

end Deployment

/-! ## Soundness of coercion -/

namespace Arguments

/-- Coercion gives values of the type asked for. So arguments that merge and
coerce are values of their parameters' types and are always encoded, in a call as
in a deployment, and neither ever fails on the shape of a value. -/
theorem coercion_sound :
    (∀ {type : AbiType} {components : List Parameter} {json : Json} {value : AbiValue},
      AbiValue.ofJson type components json = .ok value → AbiValue.HasType value type) ∧
    (∀ {inputs : List Parameter} {arguments : List Json} {values : List AbiValue},
      coerce inputs arguments = .ok values →
        List.Forall₂ (fun parameter value => ∃ type, parameter.resolve = .ok type ∧
          AbiValue.HasType value type) inputs values ∧
        encodeTyped inputs values = .ok (AbiValue.encodeSequence values)) ∧
    (∀ {entry : FunctionEntry} {positional merged : List Json}
      {keywords : List (String × Json)} {values : List AbiValue},
      merge entry.inputs positional keywords = .ok merged →
      coerce entry.inputs merged = .ok values →
        entry.encodeCall positional keywords =
          .ok (entry.selector.bytes ++ AbiValue.encodeSequence values)) ∧
    (∀ {deployment : Deployment} {entry : ConstructorEntry} {merged : List Json}
      {values : List AbiValue},
      deployment.contract.interface.constructor = some entry →
      merge entry.inputs deployment.positional deployment.keywords = .ok merged →
      coerce entry.inputs merged = .ok values →
        deployment.data = .ok (deployment.bytecode ++ AbiValue.encodeSequence values)) ∧
    (∀ (entry : FunctionEntry) (positional : List Json) (keywords : List (String × Json))
      (signature : String),
      entry.encodeCall positional keywords ≠ .error (.encoding signature .typeMismatch)) ∧
    ∀ (deployment : Deployment) (signature : String),
      deployment.data ≠ .error (.encoding signature .typeMismatch) := by
  refine ⟨AbiValue.ofJson_hasType, ?_, FunctionEntry.encodeCall_of_coerce,
    Deployment.data_of_coerce, FunctionEntry.encodeCall_ne_typeMismatch,
    Deployment.data_ne_typeMismatch⟩
  intro inputs arguments values coerced
  exact ⟨coerce_typed coerced, encodeTyped_of_coerce coerced⟩

def bounds : Parameter :=
  ⟨"bounds", "tuple", none, [⟨"low", "int16", none, []⟩, ⟨"marks", "uint8[]", none, []⟩]⟩

def boundsGiven : Json :=
  .object [("low", .string "-32768"), ("marks", .array [.string "0xff", .string "0"])]

def boundsValue : AbiValue :=
  .tuple [.int (-32768) 16, .array [.uint 255 8, .uint 0 8]]

theorem coercion_sound_bounds :
    coerce [bounds] [boundsGiven] = .ok [boundsValue] ∧
      AbiValue.HasType boundsValue (.tuple [.int 16, .array (.uint 8)]) ∧
      FunctionEntry.encodeCall ⟨"mark", [bounds], [], .nonpayable⟩ [] [("bounds", boundsGiven)] =
        .ok ((FunctionEntry.selector ⟨"mark", [bounds], [], .nonpayable⟩).bytes ++
          AbiValue.encodeSequence [boundsValue]) := by
  have merges : merge [bounds] [] [("bounds", boundsGiven)] = .ok [boundsGiven] := by rfl
  have coerced : coerce [bounds] [boundsGiven] = .ok [boundsValue] := by rfl
  have read : AbiValue.ofJson (.tuple [.int 16, .array (.uint 8)]) bounds.components
      boundsGiven = .ok boundsValue := by rfl
  exact ⟨coerced, coercion_sound.1 read, coercion_sound.2.2.1 merges coerced⟩

end Arguments

end ContractClient
