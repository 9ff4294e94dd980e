import ContractClient.Proofs.Coercion
import ContractClient.Proofs.Types

/-! Typing of values. `AbiValue.HasType` says which values a type has, down to the
range of every number and the zeros behind every fixed byte string; the shape
check of the encoder, `AbiValue.matchesType`, is coarser. Coercion gives values
of the type that it was asked for. -/

namespace ContractClient

namespace AbiValue

/-- The value belongs to the type. -/
inductive HasType : AbiValue → AbiType → Prop
  | address {account : Address} : HasType (.address account) .address
  | bool {flag : Bool} : HasType (.bool flag) .bool
  | uint {number width : Nat} (fits : number < Width.limit width) :
      HasType (.uint number width) (.uint width)
  | int {number : Int} {width : Nat} (low : -(Width.limit (width - 1) : Int) ≤ number)
      (high : number < Width.limit (width - 1)) : HasType (.int number width) (.int width)
  | fixedBytes {word : Word} {size : Nat}
      (padded : word.bytes.drop size = List.replicate (32 - size) 0) :
      HasType (.fixedBytes word size) (.fixedBytes size)
  | bytes {content : Bytes} : HasType (.bytes content) .bytes
  | string {text : String} : HasType (.string text) .string
  | function {pointer : FixedBytes 24} : HasType (.function pointer) .function
  | array {values : List AbiValue} {item : AbiType}
      (items : ∀ value ∈ values, HasType value item) : HasType (.array values) (.array item)
  | fixedArray {values : List AbiValue} {item : AbiType} {length : Nat}
      (count : values.length = length) (items : ∀ value ∈ values, HasType value item) :
      HasType (.fixedArray values) (.fixedArray item length)
  | tuple {values : List AbiValue} {types : List AbiType} (arity : values.length = types.length)
      (items : ∀ pair ∈ values.zip types, HasType pair.1 pair.2) :
      HasType (.tuple values) (.tuple types)

theorem hasType_tuple_iff {values : List AbiValue} {types : List AbiType} :
    HasType (.tuple values) (.tuple types) ↔ List.Forall₂ HasType values types := by
  rw [List.forall₂_iff_zip]
  constructor
  · intro typed
    cases typed with
    | tuple arity items => exact ⟨arity, fun member => items _ member⟩
  · rintro ⟨arity, items⟩
    exact .tuple arity fun _ member => items member

/-! ## Shape -/

theorem allMatch_iff {values : List AbiValue} {type : AbiType} :
    allMatch values type = true ↔ ∀ value ∈ values, value.matchesType type = true := by
  induction values with
  | nil => simp [allMatch]
  | cons value rest induction => simp [allMatch, induction]

theorem eachMatches_iff {values : List AbiValue} {types : List AbiType} :
    eachMatches values types = true ↔
      List.Forall₂ (fun value type => value.matchesType type = true) values types := by
  induction values generalizing types with
  | nil => cases types <;> simp [eachMatches]
  | cons value rest induction => cases types <;> simp [eachMatches, induction]

theorem HasType.matchesType {value : AbiValue} {type : AbiType} (typed : HasType value type) :
    value.matchesType type = true := by
  induction typed with
  | address | bool | bytes | string | function => rfl
  | uint | int | fixedBytes => simp [AbiValue.matchesType]
  | array _ shapes => simpa [AbiValue.matchesType, allMatch_iff] using shapes
  | fixedArray count _ shapes =>
      simpa [AbiValue.matchesType, allMatch_iff, count] using shapes
  | tuple arity _ shapes =>
      rw [AbiValue.matchesType, eachMatches_iff, List.forall₂_iff_zip]
      exact ⟨arity, fun member => shapes _ member⟩

/-! ## Coercion -/

theorem drop_ofBytesPadded (content : Bytes) :
    (FixedBytes.ofBytesPadded 32 content).bytes.drop content.length =
      List.replicate (32 - content.length) 0 := by
  simp only [FixedBytes.ofBytesPadded, List.drop_take, List.drop_left]
  rw [List.take_replicate, Nat.min_eq_left (Nat.sub_le 32 content.length)]

theorem ofJsonEach_hasType {types : List AbiType} {components : List Parameter}
    {items : List Json} {values : List AbiValue}
    (sound : ∀ type ∈ types, ∀ {components json value},
      ofJson type components json = .ok value → HasType value type)
    (arity : items.length = types.length)
    (read : ofJsonEach types components items = .ok values) :
    List.Forall₂ HasType values types := by
  induction types generalizing components items values with
  | nil =>
      rw [ofJsonEach] at read
      cases read
      exact .nil
  | cons type rest induction =>
      rcases items with _ | ⟨item, items⟩
      · simp at arity
      · rcases ofJsonEach_cons_eq_ok_iff.mp read with ⟨value, others, first, tail, rfl⟩
        refine .cons (sound type (by simp) first) ?_
        exact induction (fun each member => sound each (by simp [member]))
          (by simpa using arity) tail

theorem ofJson_hasType {type : AbiType} {components : List Parameter} {json : Json}
    {value : AbiValue} (read : ofJson type components json = .ok value) :
    HasType value type := by
  induction type using AbiType.induction_on generalizing components json value with
  | address =>
      rcases ofJson_address_eq_ok_iff.mp read with ⟨_, _, rfl⟩
      exact .address
  | bool =>
      rcases ofJson_bool_eq_ok_iff.mp read with ⟨_, _, rfl⟩
      exact .bool
  | uint width =>
      rcases ofJson_uint_eq_ok_iff.mp read with ⟨_, _, fits, rfl⟩
      exact .uint fits
  | int width =>
      rcases ofJson_int_eq_ok_iff.mp read with ⟨_, _, low, high, rfl⟩
      exact .int low high
  | fixedBytes size =>
      rcases ofJson_fixedBytes_eq_ok_iff.mp read with ⟨content, _, rfl, rfl⟩
      exact .fixedBytes (drop_ofBytesPadded content)
  | bytes =>
      rcases ofJson_bytes_eq_ok_iff.mp read with ⟨_, _, rfl⟩
      exact .bytes
  | string =>
      rcases ofJson_string_eq_ok_iff.mp read with ⟨_, _, rfl⟩
      exact .string
  | function =>
      rcases ofJson_function_eq_ok_iff.mp read with ⟨_, _, rfl⟩
      exact .function
  | array item sound =>
      rcases ofJson_array_eq_ok_iff.mp read with ⟨items, values, _, steps, rfl⟩
      refine .array fun value member => ?_
      rcases Traversal.exists_of_mem_right steps member with ⟨_, _, found⟩
      exact sound found
  | fixedArray item length sound =>
      rcases ofJson_fixedArray_eq_ok_iff.mp read with ⟨items, values, _, count, steps, rfl⟩
      refine .fixedArray (steps.length_eq ▸ count) fun value member => ?_
      rcases Traversal.exists_of_mem_right steps member with ⟨_, _, found⟩
      exact sound found
  | tuple types sound =>
      rcases ofJson_tuple_eq_ok_iff.mp read with ⟨items, values, _, arity, each, rfl⟩
      exact hasType_tuple_iff.mpr (ofJsonEach_hasType sound arity each)

end AbiValue

end ContractClient
