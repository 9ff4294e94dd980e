import ContractClient.Proofs.HexText
import ContractClient.Proofs.Numerals
import ContractClient.Proofs.Typing

/-! Values survive JSON. The JSON form of a value holds no type, and still the
type alone is enough to read the value back: a decoded result can be given as an
argument or asked for in a filter. -/

namespace ContractClient.AbiValue

theorem toJsonAll_eq_map (values : List AbiValue) : toJsonAll values = values.map toJson := by
  induction values with
  | nil => rfl
  | cons value rest induction => rw [toJsonAll, induction, List.map_cons]

theorem ofBytesPadded_take {word : Word} {size : Nat}
    (padded : word.bytes.drop size = List.replicate (32 - size) 0) :
    FixedBytes.ofBytesPadded 32 (word.bytes.take size) = word := by
  rcases word with ⟨bytes, count⟩
  have restored : (bytes.take size ++ List.replicate 32 0).take 32 = bytes := by
    have width : (bytes.take size).length = min size 32 := by rw [List.length_take, count]
    rw [List.take_append, List.take_replicate, List.take_of_length_le (by omega), width]
    have room : min (32 - min size 32) 32 = 32 - size := by omega
    rw [room, ← padded]
    exact List.take_append_drop size bytes
  simp only [FixedBytes.ofBytesPadded, restored]

theorem ofJsonEach_toJson {values : List AbiValue} {types : List AbiType}
    (returns : List.Forall₂
      (fun value type => ∀ components, ofJson type components value.toJson = .ok value)
      values types)
    (components : List Parameter) :
    ofJsonEach types components (values.map toJson) = .ok values := by
  induction returns generalizing components with
  | nil => rfl
  | @cons value type values types first _ induction =>
      rw [List.map_cons, ofJsonEach_cons_eq_ok_iff]
      exact ⟨value, values, first _, induction _, rfl⟩

theorem ofJson_toJson_of_admitted {value : AbiValue} {type : AbiType} (admitted : type.Admitted)
    (typed : HasType value type) (components : List Parameter) :
    ofJson type components value.toJson = .ok value := by
  induction typed generalizing components with
  | @address account =>
      exact ofJson_address_eq_ok_iff.mpr ⟨account, Coercion.account_toChecksum account, rfl⟩
  | @bool flag => exact ofJson_bool_eq_ok_iff.mpr ⟨flag, rfl, rfl⟩
  | @uint number width fits =>
      cases admitted with
      | uint positive bounded whole =>
          have wide := Nat.lt_of_lt_of_le fits (Width.limit_le_limit bounded)
          exact ofJson_uint_eq_ok_iff.mpr ⟨number, Coercion.unsigned_toString wide, fits, rfl⟩
  | @int number width low high =>
      cases admitted with
      | int positive bounded whole =>
          have wide : Width.limit (width - 1) ≤ Width.limit 255 :=
            Width.limit_le_limit (by omega)
          have read : Coercion.signed (.string (toString number)) = .ok number :=
            Coercion.signed_toString (by omega) (by omega)
          exact ofJson_int_eq_ok_iff.mpr ⟨number, read, low, high, rfl⟩
  | @fixedBytes word size padded =>
      cases admitted with
      | fixedBytes positive bounded =>
          refine ofJson_fixedBytes_eq_ok_iff.mpr
            ⟨word.bytes.take size, Coercion.hexBytes_toHex _, ?_, ?_⟩
          · rw [List.length_take, word.length_bytes, Nat.min_eq_left bounded]
          · rw [ofBytesPadded_take padded]
  | @bytes content =>
      exact ofJson_bytes_eq_ok_iff.mpr ⟨content, Coercion.hexBytes_toHex content, rfl⟩
  | @string text => exact ofJson_string_eq_ok_iff.mpr ⟨text, rfl, rfl⟩
  | @function pointer =>
      exact ofJson_function_eq_ok_iff.mpr
        ⟨pointer, Coercion.hexBytes_toHex pointer.bytes, rfl⟩
  | @array values item items returns =>
      cases admitted with
      | array admitted =>
          refine ofJson_array_eq_ok_iff.mpr
            ⟨values.map toJson, values, by rw [toJson, toJsonAll_eq_map], ?_, rfl⟩
          rw [List.forall₂_map_left_iff, List.forall₂_same]
          exact fun value member => returns value member admitted components
  | @fixedArray values item length count items returns =>
      cases admitted with
      | fixedArray admitted =>
          refine ofJson_fixedArray_eq_ok_iff.mpr
            ⟨values.map toJson, values, by rw [toJson, toJsonAll_eq_map], ?_, ?_, rfl⟩
          · rw [List.length_map, count]
          · rw [List.forall₂_map_left_iff, List.forall₂_same]
            exact fun value member => returns value member admitted components
  | @tuple values types arity items returns =>
      cases admitted with
      | tuple admitted =>
          refine ofJson_tuple_eq_ok_iff.mpr ⟨values.map toJson, values, ?_, ?_, ?_, rfl⟩
          · rw [toJson, toJsonAll_eq_map, Coercion.tupleItems]
          · rw [List.length_map, arity]
          · refine ofJsonEach_toJson (List.forall₂_iff_zip.mpr ⟨arity, ?_⟩) components
            intro value type member components
            exact returns _ member (admitted type (List.of_mem_zip member).2) components

/-- Coercing the JSON form of a value to its type gives the value again, for all types of the
language and so for every type that stands in a text. -/
theorem ofJson_toJson {value : AbiValue} {type : AbiType} (typed : HasType value type)
    (components : List Parameter) :
    (type.Admitted → ofJson type components value.toJson = .ok value) ∧
      ∀ text, AbiType.parse? text = some type →
        ofJson type components value.toJson = .ok value := by
  constructor
  · exact fun admitted => ofJson_toJson_of_admitted admitted typed components
  · exact fun text parsed =>
      ofJson_toJson_of_admitted (AbiType.parse?_admitted parsed) typed components

theorem ofJson_toJson_least :
    AbiType.parse? "(int256,uint8[2])" = some (.tuple [.int 256, .fixedArray (.uint 8) 2]) ∧
      AbiType.Admitted (.tuple [.int 256, .fixedArray (.uint 8) 2]) ∧
      HasType (.tuple [.int (-(Width.limit 255 : Int)) 256, .fixedArray [.uint 0 8, .uint 255 8]])
        (.tuple [.int 256, .fixedArray (.uint 8) 2]) ∧
      ofJson (.tuple [.int 256, .fixedArray (.uint 8) 2]) []
          (toJson (.tuple [.int (-(Width.limit 255 : Int)) 256,
            .fixedArray [.uint 0 8, .uint 255 8]])) =
        .ok (.tuple [.int (-(Width.limit 255 : Int)) 256,
          .fixedArray [.uint 0 8, .uint 255 8]]) := by
  have parsed : AbiType.parse? "(int256,uint8[2])" =
      some (.tuple [.int 256, .fixedArray (.uint 8) 2]) := by
    have read : TypeText.parse? "(int256,uint8[2])" =
        some (.tuple [.named "int256" [], .named "uint8" [some 2]] []) := by
      rw [TypeText.parse?, TypeText.maxDepth]
      rfl
    rw [AbiType.parse?, read]
    rfl
  have typed : HasType
      (.tuple [.int (-(Width.limit 255 : Int)) 256, .fixedArray [.uint 0 8, .uint 255 8]])
      (.tuple [.int 256, .fixedArray (.uint 8) 2]) := by
    refine hasType_tuple_iff.mpr (.cons (.int ?_ ?_) (.cons (.fixedArray rfl ?_) .nil))
    · decide
    · decide
    · intro value member
      simp only [List.mem_cons, List.not_mem_nil, or_false] at member
      rcases member with rfl | rfl
      · exact .uint (by decide)
      · exact .uint (by decide)
  exact ⟨parsed, AbiType.parse?_admitted parsed, typed, (ofJson_toJson typed []).2 _ parsed⟩

end ContractClient.AbiValue
