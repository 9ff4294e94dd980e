import ContractClient.Abi.Coercion
import ContractClient.Proofs.Traversal

/-! What coercion takes for a value, type by type. Each type has one equivalence:
a JSON value is coerced exactly if it has the stated form, and to the stated
value. All else about coercion is said through these. -/

namespace ContractClient

/-! ## Ranges -/

namespace Coercion

theorem fitsUnsigned_iff {number width : Nat} :
    fitsUnsigned number width = true ↔ number < Width.limit width := by
  simp [fitsUnsigned]

theorem fitsSigned_iff {number : Int} {width : Nat} :
    fitsSigned number width = true ↔
      -(Width.limit (width - 1) : Int) ≤ number ∧ number < Width.limit (width - 1) := by
  unfold fitsSigned
  split
  · rw [decide_eq_true_eq]
    omega
  · rw [decide_eq_true_eq]
    omega

theorem each_eq_mapM (step : Json → Except CoercionError AbiValue) (items : List Json) :
    each step items = items.mapM step := by
  induction items with
  | nil => rfl
  | cons item rest induction =>
      rw [each, List.mapM_cons, induction]
      cases step item with
      | error reason => rfl
      | ok value => cases rest.mapM step <;> rfl

theorem each_eq_ok_iff {step : Json → Except CoercionError AbiValue} {items : List Json}
    {values : List AbiValue} :
    each step items = .ok values ↔
      List.Forall₂ (fun item value => step item = .ok value) items values := by
  rw [each_eq_mapM]
  exact Traversal.mapM_eq_ok_iff

end Coercion

/-! ## Value types -/

namespace AbiValue

open Coercion

variable {components : List Parameter} {json : Json} {value : AbiValue}

attribute [local simp] ofJson

theorem ofJson_address_eq_ok_iff :
    ofJson .address components json = .ok value ↔
      ∃ account, Coercion.account json = .ok account ∧ value = .address account := by
  rw [ofJson, Traversal.map_eq_ok_iff]

theorem ofJson_bool_eq_ok_iff :
    ofJson .bool components json = .ok value ↔
      ∃ flag, json = .boolean flag ∧ value = .bool flag := by
  cases json with
  | boolean flag => simp [eq_comm]
  | _ => simp

theorem ofJson_uint_eq_ok_iff {width : Nat} :
    ofJson (.uint width) components json = .ok value ↔
      ∃ number, unsigned json = .ok number ∧ number < Width.limit width ∧
        value = .uint number width := by
  rw [ofJson]
  cases unsigned json with
  | error reason => simp
  | ok number =>
      simp only [fitsUnsigned_iff, Traversal.guard_eq_ok_iff, Except.ok.injEq, exists_eq_left']

theorem ofJson_int_eq_ok_iff {width : Nat} :
    ofJson (.int width) components json = .ok value ↔
      ∃ number, signed json = .ok number ∧ -(Width.limit (width - 1) : Int) ≤ number ∧
        number < Width.limit (width - 1) ∧ value = .int number width := by
  rw [ofJson]
  cases signed json with
  | error reason => simp
  | ok number =>
      simp only [fitsSigned_iff, Traversal.guard_eq_ok_iff, Except.ok.injEq, exists_eq_left',
        and_assoc]

theorem ofJson_fixedBytes_eq_ok_iff {size : Nat} :
    ofJson (.fixedBytes size) components json = .ok value ↔
      ∃ content, hexBytes json = .ok content ∧ content.length = size ∧
        value = .fixedBytes (FixedBytes.ofBytesPadded 32 content) size := by
  rw [ofJson]
  cases hexBytes json with
  | error reason => simp
  | ok content =>
      simp only [Traversal.guard_eq_ok_iff, Except.ok.injEq, exists_eq_left']

theorem ofJson_function_eq_ok_iff :
    ofJson .function components json = .ok value ↔
      ∃ pointer : FixedBytes 24, hexBytes json = .ok pointer.bytes ∧
        value = .function pointer := by
  rw [ofJson]
  cases hexBytes json with
  | error reason => simp
  | ok content =>
      by_cases sized : content.length = 24
      · simp only [FixedBytes.ofBytes?, sized, dite_true, Except.ok.injEq]
        constructor
        · rintro rfl
          exact ⟨⟨content, sized⟩, rfl, rfl⟩
        · rintro ⟨pointer, rfl, rfl⟩
          rfl
      · simp only [FixedBytes.ofBytes?, sized, dite_false, reduceCtorEq, Except.ok.injEq,
          false_iff]
        rintro ⟨pointer, rfl, _⟩
        exact sized pointer.length_bytes

/-! ## Contents -/

theorem ofJson_bytes_eq_ok_iff :
    ofJson .bytes components json = .ok value ↔
      ∃ content, hexBytes json = .ok content ∧ value = .bytes content := by
  rw [ofJson, Traversal.map_eq_ok_iff]

theorem ofJson_string_eq_ok_iff :
    ofJson .string components json = .ok value ↔
      ∃ text, json = .string text ∧ value = .string text := by
  cases json with
  | string text => simp [eq_comm]
  | _ => simp

/-! ## Arrays and tuples -/

theorem ofJson_array_eq_ok_iff {item : AbiType} :
    ofJson (.array item) components json = .ok value ↔
      ∃ items values, json = .array items ∧
        List.Forall₂ (fun json value => ofJson item components json = .ok value) items values ∧
        value = .array values := by
  cases json with
  | array items => simp [Traversal.map_eq_ok_iff, each_eq_ok_iff]
  | _ => simp

theorem ofJson_fixedArray_eq_ok_iff {item : AbiType} {length : Nat} :
    ofJson (.fixedArray item length) components json = .ok value ↔
      ∃ items values, json = .array items ∧ items.length = length ∧
        List.Forall₂ (fun json value => ofJson item components json = .ok value) items values ∧
        value = .fixedArray values := by
  cases json with
  | array items =>
      by_cases count : items.length = length
      · simp [Traversal.map_eq_ok_iff, each_eq_ok_iff, count]
      · simp [count]
  | _ => simp

theorem ofJson_tuple_eq_ok_iff {types : List AbiType} :
    ofJson (.tuple types) components json = .ok value ↔
      ∃ items values, tupleItems json components types.length = .ok items ∧
        items.length = types.length ∧ ofJsonEach types components items = .ok values ∧
        value = .tuple values := by
  rw [ofJson]
  cases tupleItems json components types.length with
  | error reason => simp
  | ok items =>
      by_cases arity : items.length = types.length
      · simp [arity, Traversal.map_eq_ok_iff]
      · simp [arity]

def firstComponents : List Parameter → List Parameter
  | [] => []
  | component :: _ => component.components

theorem ofJsonEach_cons_eq_ok_iff {type : AbiType} {types : List AbiType} {item : Json}
    {items : List Json} {values : List AbiValue} :
    ofJsonEach (type :: types) components (item :: items) = .ok values ↔
      ∃ value others, ofJson type (firstComponents components) item = .ok value ∧
        ofJsonEach types components.tail items = .ok others ∧ values = value :: others := by
  cases components with
  | nil =>
      rw [ofJsonEach, firstComponents, List.tail_nil]
      cases ofJson type [] item with
      | error reason => simp
      | ok value => cases ofJsonEach types [] items <;> simp [eq_comm]
  | cons component rest =>
      rw [ofJsonEach, firstComponents, List.tail_cons]
      cases ofJson type component.components item with
      | error reason => simp
      | ok value => cases ofJsonEach types rest items <;> simp [eq_comm]

end AbiValue

end ContractClient
