import ContractClient.Proofs.AbiRoundTrip

/-! Topics of nested values. An array or tuple is represented by the hash of its leaves,
one behind the other: words as they are, and texts and byte strings filled up with zeros
to whole words. So nothing but the leaves counts, and where all of them are words, what is
hashed is the encoding of the value. -/

namespace ContractClient

theorem FixedBytes.bytes_injective {size : Nat} :
    Function.Injective (@FixedBytes.bytes size) := by
  rintro ⟨bytes, _⟩ ⟨others, _⟩ same
  cases same
  rfl

/-! ## Leaves -/

/-- What stands at the ends of a nested value. -/
inductive TopicLeaf where
  | word (word : Word)
  | content (bytes : Bytes)

namespace TopicLeaf

/-- The bytes that stand for a leaf: those of a word, or those of a content with the fewest
zeros behind them that make whole words. -/
inductive Fills : TopicLeaf → Bytes → Prop
  | word {word : Word} : Fills (.word word) word.bytes
  | content {bytes : Bytes} {zeros : Nat} (few : zeros < 32)
      (whole : 32 ∣ bytes.length + zeros) :
      Fills (.content bytes) (bytes ++ List.replicate zeros 0)

def filled : TopicLeaf → Bytes
  | .word held => held.bytes
  | .content bytes => Bytes.padRight bytes

theorem fills_iff {leaf : TopicLeaf} {bytes : Bytes} : leaf.Fills bytes ↔ bytes = leaf.filled := by
  constructor
  · intro fills
    cases fills with
    | word => rfl
    | @content bytes zeros few whole =>
        have least : zeros = (32 - bytes.length % 32) % 32 := by omega
        rw [filled, Bytes.padRight, least]
  · rintro rfl
    cases leaf with
    | word held => exact .word
    | content bytes => exact .content (Nat.mod_lt _ (by decide)) (by omega)

theorem forall₂_fills_iff {leaves : List TopicLeaf} {pieces : List Bytes} :
    List.Forall₂ Fills leaves pieces ↔ pieces = leaves.map filled := by
  induction leaves generalizing pieces with
  | nil => exact List.forall₂_nil_left_iff
  | cons leaf rest induction =>
      simp only [List.forall₂_cons_left_iff, induction, fills_iff, List.map_cons]
      constructor
      · rintro ⟨_, _, rfl, rfl, rfl⟩
        rfl
      · rintro rfl
        exact ⟨_, _, rfl, rfl, rfl⟩

theorem dvd_length_filled (leaf : TopicLeaf) : 32 ∣ leaf.filled.length := by
  cases leaf with
  | word held => exact ⟨1, held.length_bytes⟩
  | content bytes =>
      rw [filled, Bytes.padRight, List.length_append, List.length_replicate]
      omega

theorem dvd_length_flatMap_filled (leaves : List TopicLeaf) :
    32 ∣ (leaves.flatMap filled).length := by
  induction leaves with
  | nil => exact Nat.dvd_zero 32
  | cons leaf rest induction =>
      rw [List.flatMap_cons, List.length_append]
      exact Nat.dvd_add leaf.dvd_length_filled induction

end TopicLeaf

namespace AbiValue

open AbiEncoding

mutual
def leaves : AbiValue → List TopicLeaf
  | .string text => [.content (Bytes.ofText text)]
  | .bytes content => [.content content]
  | .array items | .fixedArray items | .tuple items => allLeaves items
  | value => value.word?.toList.map .word

def allLeaves : List AbiValue → List TopicLeaf
  | [] => []
  | value :: rest => value.leaves ++ allLeaves rest
end

example : leaves (.array [.array [.bool true, .bool false], .array [.string "a"]]) =
    leaves (.tuple [.bool true, .fixedArray [.bool false], .string "a"]) := rfl

theorem allLeaves_eq_flatMap (values : List AbiValue) :
    allLeaves values = values.flatMap leaves := by
  induction values with
  | nil => rfl
  | cons value rest induction => rw [allLeaves, induction, List.flatMap_cons]

theorem encodeAllInPlace_eq_flatMap (values : List AbiValue) :
    encodeAllInPlace values = values.flatMap encodeInPlace := by
  induction values with
  | nil => rfl
  | cons value rest induction => rw [encodeAllInPlace, induction, List.flatMap_cons]

theorem encodeAllInPlace_eq_filled {values : List AbiValue}
    (each : ∀ value ∈ values, value.encodeInPlace = value.leaves.flatMap TopicLeaf.filled) :
    encodeAllInPlace values = (allLeaves values).flatMap TopicLeaf.filled := by
  rw [encodeAllInPlace_eq_flatMap, allLeaves_eq_flatMap, List.flatMap_assoc]
  exact List.flatMap_congr each

theorem HasType.encodeInPlace_eq_filled {value : AbiValue} {type : AbiType}
    (typed : HasType value type) :
    value.encodeInPlace = value.leaves.flatMap TopicLeaf.filled := by
  induction typed with
  | address | bool | uint | int | fixedBytes | function =>
      simp [encodeInPlace, leaves, word?, TopicLeaf.filled]
  | bytes | string => simp [encodeInPlace, leaves, TopicLeaf.filled]
  | array _ each | fixedArray _ _ each =>
      rw [encodeInPlace, leaves]
      exact encodeAllInPlace_eq_filled each
  | @tuple values types arity _ each =>
      rw [encodeInPlace, leaves]
      refine encodeAllInPlace_eq_filled fun value member => ?_
      rcases Traversal.exists_mem_zip arity member with ⟨type, paired⟩
      exact each _ paired

theorem HasType.dvd_length_encodeInPlace {value : AbiValue} {type : AbiType}
    (typed : HasType value type) : 32 ∣ value.encodeInPlace.length := by
  rw [typed.encodeInPlace_eq_filled]
  exact TopicLeaf.dvd_length_flatMap_filled _

/-! ## Static values -/

theorem heads_of_static {values : List AbiValue} (static : anyDynamic values = false)
    (offset : Nat) : heads offset (values.map part) = values.flatMap encodeBody := by
  induction values generalizing offset with
  | nil => rfl
  | cons value rest induction =>
      rw [anyDynamic, Bool.or_eq_false_iff] at static
      rw [List.map_cons, heads, List.flatMap_cons, part, static.1, if_neg Bool.false_ne_true,
        induction static.2]

theorem assemble_of_static {values : List AbiValue} (static : anyDynamic values = false) :
    assemble (values.map part) = values.flatMap encodeBody := by
  rw [assemble, heads_of_static static, tails_of_static static, List.append_nil]

theorem encode_of_static {value : AbiValue} (static : value.isDynamic = false) :
    value.encode = value.encodeBody := by
  have alone : anyDynamic [value] = false := by rw [anyDynamic, anyDynamic, static]; rfl
  rw [encode, encodeSequence, encodeParts_eq_map, assemble_of_static alone, List.flatMap_cons,
    List.flatMap_nil, List.append_nil]

theorem assemble_eq_encodeAllInPlace {values : List AbiValue}
    (each : ∀ value ∈ values, value.isDynamic = false ∧ value.encodeBody = value.encodeInPlace) :
    anyDynamic values = false ∧ assemble (encodeParts values) = encodeAllInPlace values := by
  have static : anyDynamic values = false := by
    rw [anyDynamic_eq_any, List.any_eq_false]
    exact fun value member => by simp [(each value member).1]
  rw [encodeParts_eq_map, assemble_of_static static, encodeAllInPlace_eq_flatMap]
  exact ⟨static, List.flatMap_congr fun value member => (each value member).2⟩

theorem HasType.encodeBody_of_static {value : AbiValue} {type : AbiType}
    (typed : HasType value type) (static : type.isDynamic = false) :
    value.isDynamic = false ∧ value.encodeBody = value.encodeInPlace := by
  induction typed with
  | address | bool | uint | int | fixedBytes | function =>
      exact ⟨rfl, by simp [encodeBody, encodeInPlace, word?, word, FixedBytes.ofNat]⟩
  | bytes | string | array => cases static
  | fixedArray _ _ each =>
      rw [AbiValue.isDynamic, encodeBody, encodeInPlace]
      exact assemble_eq_encodeAllInPlace fun value member => each value member static
  | @tuple values types arity _ each =>
      rw [AbiType.isDynamic, AbiType.anyDynamic_eq_any, List.any_eq_false] at static
      rw [AbiValue.isDynamic, encodeBody, encodeInPlace]
      refine assemble_eq_encodeAllInPlace fun value member => ?_
      rcases Traversal.exists_mem_zip arity member with ⟨type, paired⟩
      exact each _ paired (by simpa using static type (List.of_mem_zip paired).2)

theorem HasType.encode_of_static {value : AbiValue} {type : AbiType}
    (typed : HasType value type) (static : type.isDynamic = false) :
    value.encode = value.encodeInPlace := by
  rcases typed.encodeBody_of_static static with ⟨inPlace, body⟩
  rw [AbiValue.encode_of_static inPlace, body]

theorem HasType.encode_of_fitsWord {value : AbiValue} {type : AbiType}
    (typed : HasType value type) (fits : type.fitsWord = true) :
    value.encode = value.topic.bytes := by
  have parts := typed.part_of_fitsWord fits
  rw [part, AbiEncoding.Part.mk.injEq] at parts
  rw [AbiValue.encode_of_static parts.1, parts.2]

/-! ## Topics -/

/-- The rule for the topics of indexed arguments. A value that fits one word is its own topic;
a text or byte string is hashed as it is; of an array or tuple the leaves are hashed, one behind
the other. -/
inductive Represents : AbiType → AbiValue → Word → Prop
  | word {type : AbiType} {value : AbiValue} {topic : Word} (fits : type.fitsWord = true)
      (own : topic.bytes = value.encode) : Represents type value topic
  | string {text : String} : Represents .string (.string text) (keccak256 (Bytes.ofText text))
  | bytes {content : Bytes} : Represents .bytes (.bytes content) (keccak256 content)
  | nested {type : AbiType} {value : AbiValue} {pieces : List Bytes}
      (nested : (type.isArray || type.isTuple) = true)
      (filled : List.Forall₂ TopicLeaf.Fills value.leaves pieces) :
      Represents type value (keccak256 pieces.flatten)

theorem topic_of_nested {value : AbiValue} {type : AbiType} (typed : HasType value type)
    (nested : (type.isArray || type.isTuple) = true) :
    value.topic = keccak256 value.encodeInPlace := by
  cases typed with
  | array | fixedArray | tuple => rfl
  | address | bool | uint | int | fixedBytes | bytes | string | function => cases nested

theorem represents_iff {value : AbiValue} {type : AbiType} {topic : Word}
    (typed : HasType value type) : Represents type value topic ↔ topic = value.topic := by
  constructor
  · intro represents
    cases represents with
    | word fits own =>
        rw [typed.encode_of_fitsWord fits] at own
        exact FixedBytes.bytes_injective own
    | string | bytes => rfl
    | nested nested filled =>
        rw [TopicLeaf.forall₂_fills_iff] at filled
        rw [topic_of_nested typed nested, typed.encodeInPlace_eq_filled, filled, List.flatMap]
  · rintro rfl
    cases type with
    | address | bool | uint | int | fixedBytes | function =>
        exact .word rfl (typed.encode_of_fitsWord rfl).symm
    | string =>
        cases typed
        exact .string
    | bytes =>
        cases typed
        exact .bytes
    | array | fixedArray | tuple =>
        rw [topic_of_nested typed rfl, typed.encodeInPlace_eq_filled]
        exact .nested rfl (TopicLeaf.forall₂_fills_iff.mpr rfl)

/-- The topic of a value follows the rule. What is hashed for an array or tuple makes up whole
words and depends on the leaves alone; where all leaves are words, it is the encoding of the
value. -/
theorem topic_follows_rule {value : AbiValue} {type : AbiType} (typed : HasType value type) :
    (∀ topic, Represents type value topic ↔ topic = value.topic) ∧
    ((type.isArray || type.isTuple) = true → value.topic = keccak256 value.encodeInPlace) ∧
    32 ∣ value.encodeInPlace.length ∧
    (∀ {other : AbiValue} {otherType : AbiType}, HasType other otherType →
      other.leaves = value.leaves → other.encodeInPlace = value.encodeInPlace) ∧
    (type.isDynamic = false → value.encodeInPlace = value.encode) := by
  refine ⟨fun _ => represents_iff typed, topic_of_nested typed, typed.dvd_length_encodeInPlace,
    ?_, fun static => (typed.encode_of_static static).symm⟩
  intro other otherType otherTyped same
  rw [otherTyped.encodeInPlace_eq_filled, same, typed.encodeInPlace_eq_filled]

def memo : AbiValue :=
  .tuple [.string "ab", .array [.fixedArray [.uint 1 8, .uint 2 8]]]

def memoType : AbiType :=
  .tuple [.string, .array (.fixedArray (.uint 8) 2)]

theorem topic_follows_rule_memo :
    HasType memo memoType ∧
      memo.topic = keccak256
        [Bytes.ofText "ab" ++ List.replicate 30 0, word 1, word 2].flatten := by
  have marks : HasType (.fixedArray [.uint 1 8, .uint 2 8]) (.fixedArray (.uint 8) 2) := by
    refine .fixedArray rfl fun value member => ?_
    simp only [List.mem_cons, List.not_mem_nil, or_false] at member
    rcases member with rfl | rfl
    · exact .uint (by decide)
    · exact .uint (by decide)
  have rows : HasType (.array [.fixedArray [.uint 1 8, .uint 2 8]])
      (.array (.fixedArray (.uint 8) 2)) :=
    .array fun value member => List.mem_singleton.mp member ▸ marks
  have typed : HasType memo memoType := hasType_tuple_iff.mpr (.cons .string (.cons rows .nil))
  have filled : List.Forall₂ TopicLeaf.Fills memo.leaves
      [Bytes.ofText "ab" ++ List.replicate 30 0, word 1, word 2] :=
    .cons (.content (by decide) (by decide +kernel)) (.cons .word (.cons .word .nil))
  exact ⟨typed, (((topic_follows_rule typed).1 _).mp (.nested rfl filled)).symm⟩

end AbiValue

end ContractClient
