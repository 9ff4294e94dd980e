import ContractClient.Proofs.Layout
import ContractClient.Proofs.Utf8

/-! Decoding undoes encoding. A value is read back wherever its part stands in a
window, as long as the decoder may enter as many windows as the value is nested
deep and all offsets fit the bits that it looks at. -/

namespace ContractClient

open AbiEncoding AbiDecoding

/-! ## Steps of the decoder -/

namespace AbiDecoding

variable {cursor : Cursor}

theorem takeWord_of_prefix {word : Word}
    (found : word.bytes <+: cursor.window.drop cursor.position) :
    takeWord cursor = .ok (word, { cursor with position := cursor.position + 32 }) := by
  have here := List.prefix_iff_eq_take.mp found
  rw [word.length_bytes] at here
  rw [takeWord, ← here]
  simp [FixedBytes.ofBytes?, word.length_bytes]

theorem takeOffset_of_prefix {number : Nat} (small : number < Width.limit 64)
    (found : AbiEncoding.word number <+: cursor.window.drop cursor.position) :
    takeOffset cursor = .ok (number, { cursor with position := cursor.position + 32 }) := by
  have whole : number < Width.limit (8 * 32) :=
    Nat.lt_of_lt_of_le small (Width.limit_le_limit (by decide))
  have taken : takeWord cursor =
      .ok (FixedBytes.ofNat 32 number, { cursor with position := cursor.position + 32 }) :=
    takeWord_of_prefix found
  rw [takeOffset, taken]
  simp only [FixedBytes.toNat_ofNat whole, Nat.mod_eq_of_lt small]

theorem child_of_le {offset : Nat} (room : cursor.depth < maxDepth)
    (inside : offset ≤ cursor.window.length) :
    child cursor offset = .ok ⟨cursor.window.drop offset, 0, cursor.depth + 1⟩ := by
  rw [child, if_neg (Nat.not_le.mpr room), if_pos inside]

theorem takeIndirection_of_standsAt {body : Bytes} (small : cursor.window.length < Width.limit 64)
    (room : cursor.depth < maxDepth)
    (stands : StandsAt cursor.window cursor.position ⟨true, body⟩) :
    ∃ window, body <+: window ∧ window.length ≤ cursor.window.length ∧
      takeIndirection cursor =
        .ok (⟨window, 0, cursor.depth + 1⟩, { cursor with position := cursor.position + 32 }) := by
  cases stands with
  | @behind _ offset pointed inside found =>
      refine ⟨cursor.window.drop offset, found, by simp, ?_⟩
      rw [takeIndirection, takeOffset_of_prefix (by omega) pointed]
      simp only [child, if_neg (Nat.not_le.mpr room), if_pos inside]

theorem takeContent_of_standsAt {content : Bytes} (small : cursor.window.length < Width.limit 64)
    (room : cursor.depth < maxDepth)
    (stands : StandsAt cursor.window cursor.position
      ⟨true, AbiEncoding.word content.length ++ Bytes.padRight content⟩) :
    takeContent cursor = .ok (content, { cursor with position := cursor.position + 32 }) := by
  rcases takeIndirection_of_standsAt small room stands with ⟨window, begins, shorter, entered⟩
  have whole : AbiEncoding.word content.length ++ Bytes.padRight content <+: window.drop 0 := begins
  rcases append_prefix_drop_iff.mp whole with ⟨count, padded⟩
  rw [length_word, Nat.zero_add, Bytes.padRight] at padded
  have found := (append_prefix_drop_iff.mp padded).1
  have enough : 32 + content.length ≤ window.length := by
    have first := length_le_of_prefix_drop (Nat.zero_le _) count
    rw [length_word] at first
    exact length_le_of_prefix_drop first found
  have counted : takeOffset ⟨window, 0, cursor.depth + 1⟩ =
      .ok (content.length, ⟨window, 32, cursor.depth + 1⟩) :=
    takeOffset_of_prefix (by omega) count
  rw [takeContent, entered]
  simp only [counted, takeBytes, if_pos enough, ← List.prefix_iff_eq_take.mp found]

theorem takeGroup_of_standsAt {dynamic : Bool} {items : Step (List AbiValue)}
    {values : List AbiValue} {parts : List Part}
    (small : cursor.window.length < Width.limit 64) (room : cursor.depth < maxDepth)
    (reads : ∀ window : Bytes, window.length ≤ cursor.window.length →
      StandFrom window 0 parts →
        items ⟨window, 0, cursor.depth + 1⟩ =
          .ok (values, ⟨window, headsLength parts, cursor.depth + 1⟩))
    (inPlace : dynamic = false → tails parts = [] ∧ 0 < (assemble parts).length)
    (stands : StandsAt cursor.window cursor.position ⟨dynamic, assemble parts⟩) :
    takeGroup dynamic items cursor = .ok (values,
      { cursor with
        position := cursor.position + Part.headLength ⟨dynamic, assemble parts⟩ }) := by
  cases dynamic with
  | true =>
      rcases takeIndirection_of_standsAt small room stands with
        ⟨window, begins, shorter, entered⟩
      rw [takeGroup, if_pos rfl, entered]
      simp only [reads window shorter (standFrom_of_assemble begins)]
      rfl
  | false =>
      rcases inPlace rfl with ⟨noTails, some⟩
      have exactly : (assemble parts).length = headsLength parts := by
        rw [assemble, noTails, List.append_nil, length_heads]
      cases stands with
      | inPlace found =>
          have inside : cursor.position ≤ cursor.window.length := by
            have short := found.length_le
            rw [exactly, List.length_drop] at short
            omega
          rw [takeGroup, if_neg (by decide), child_of_le room inside]
          simp only [reads _ (by simp) (standFrom_of_assemble found)]
          simp [Part.headLength, exactly]

end AbiDecoding

/-! ## Values -/

namespace AbiValue

def part (value : AbiValue) : Part :=
  ⟨value.isDynamic, value.encodeBody⟩

theorem encodeParts_eq_map (values : List AbiValue) : encodeParts values = values.map part := by
  induction values with
  | nil => rfl
  | cons value rest induction => rw [encodeParts, induction]; rfl

mutual
/-- How many windows the decoder is inside of, at most, while it reads a value. -/
def windows : AbiValue → Nat
  | .bytes _ | .string _ => 1
  | .array items => mostWindows items + 2
  | .fixedArray items | .tuple items => mostWindows items + 1
  | _ => 0

def mostWindows : List AbiValue → Nat
  | [] => 0
  | value :: rest => max value.windows (mostWindows rest)
end

/-- Wherever the value stands, decoding at the type gives it back. -/
def ReadsBack (value : AbiValue) (type : AbiType) : Prop :=
  ∀ cursor : Cursor, cursor.window.length < Width.limit 64 →
    cursor.depth + value.windows ≤ maxDepth →
    StandsAt cursor.window cursor.position value.part →
      take type cursor = .ok (value,
        { cursor with position := cursor.position + value.part.headLength })

theorem takeEach_of_standFrom {values : List AbiValue} {types : List AbiType}
    (returns : List.Forall₂ ReadsBack values types) (cursor : Cursor)
    (small : cursor.window.length < Width.limit 64)
    (room : cursor.depth + mostWindows values ≤ maxDepth)
    (stand : StandFrom cursor.window cursor.position (values.map part)) :
    takeEach types cursor = .ok (values,
      { cursor with position := cursor.position + headsLength (values.map part) }) := by
  induction returns generalizing cursor with
  | nil => rfl
  | @cons value type values types first _ induction =>
      rw [mostWindows] at room
      cases stand with
      | cons here others =>
          have rest := induction
            ⟨cursor.window, cursor.position + value.part.headLength, cursor.depth⟩ small
            (by dsimp only; omega) others
          rw [takeEach, first cursor small (by omega) here]
          simp [rest, headsLength, Nat.add_assoc]

theorem takeMany_of_standFrom {values : List AbiValue} {item : AbiType}
    (returns : ∀ value ∈ values, ReadsBack value item) (cursor : Cursor)
    (small : cursor.window.length < Width.limit 64)
    (room : cursor.depth + mostWindows values ≤ maxDepth)
    (stand : StandFrom cursor.window cursor.position (values.map part)) :
    takeMany (take item) values.length cursor = .ok (values,
      { cursor with position := cursor.position + headsLength (values.map part) }) := by
  induction values generalizing cursor with
  | nil => rfl
  | cons value rest induction =>
      rw [mostWindows] at room
      cases stand with
      | cons here others =>
          have more := induction (fun other member => returns other (by simp [member]))
            ⟨cursor.window, cursor.position + value.part.headLength, cursor.depth⟩ small
            (by dsimp only; omega) others
          rw [List.length_cons, takeMany, returns value (by simp) cursor small (by omega) here]
          simp [more, headsLength, Nat.add_assoc]

/-! ## Sizes -/

theorem length_body_add_le (part : Part) (rest : List Part) :
    part.body.length + (assemble rest).length ≤ (assemble (part :: rest)).length := by
  simp only [assemble, List.length_append, length_heads, headsLength, tails, Part.headLength]
  split
  · rw [List.length_append]
    omega
  · omega

theorem mul_length_le_assemble {values : List AbiValue} {words : Nat}
    (each : ∀ value ∈ values, 32 * words ≤ value.encodeBody.length) :
    32 * (values.length * words) ≤ (assemble (values.map part)).length := by
  induction values with
  | nil => simp
  | cons value rest induction =>
      have first := each value (by simp)
      have others := induction fun other member => each other (by simp [member])
      have both := length_body_add_le value.part (rest.map part)
      rw [List.length_cons, Nat.add_mul, List.map_cons]
      change value.encodeBody.length + _ ≤ _ at both
      omega

theorem totalWords_le_assemble {values : List AbiValue} {types : List AbiType}
    (each : List.Forall₂ (fun value type => 32 * type.minimumWords ≤ value.encodeBody.length)
      values types) :
    32 * AbiType.totalWords types ≤ (assemble (values.map part)).length := by
  induction each with
  | nil => simp [AbiType.totalWords]
  | @cons value type values types first _ induction =>
      have both := length_body_add_le value.part (values.map part)
      rw [AbiType.totalWords, List.map_cons]
      change value.encodeBody.length + _ ≤ _ at both
      omega

theorem HasType.part_of_fitsWord {value : AbiValue} {type : AbiType} (typed : HasType value type)
    (fits : type.fitsWord = true) : value.part = ⟨false, value.topic.bytes⟩ := by
  cases typed with
  | address | bool | uint | int | fixedBytes | function => rfl
  | bytes | string | array | fixedArray | tuple => cases fits

theorem HasType.minimumWords_le {value : AbiValue} {type : AbiType} (typed : HasType value type) :
    32 * type.minimumWords ≤ value.encodeBody.length := by
  induction typed with
  | address => exact Nat.le_of_eq (Word.ofAddress _).length_bytes.symm
  | bool => exact Nat.le_of_eq (length_word _).symm
  | uint => exact Nat.le_of_eq (length_word _).symm
  | int => exact Nat.le_of_eq (Word.ofInt _).length_bytes.symm
  | @fixedBytes word => exact Nat.le_of_eq word.length_bytes.symm
  | @function pointer => simp [AbiType.minimumWords, encodeBody, pointer.length_bytes]
  | bytes | string | array => simp [AbiType.minimumWords, encodeBody, length_word]
  | @fixedArray values item length count _ each =>
      rw [AbiType.minimumWords, encodeBody, encodeParts_eq_map, ← count]
      exact mul_length_le_assemble each
  | @tuple values types arity _ each =>
      rw [AbiType.minimumWords, encodeBody, encodeParts_eq_map]
      exact totalWords_le_assemble (List.forall₂_iff_zip.mpr ⟨arity, fun member => each _ member⟩)

end AbiValue

/-! ## Types whose values take up data -/

namespace AbiType

/-- Every value of the type takes up data: no tuple in it is empty, and no array
has a fixed length of zero. -/
inductive Solid : AbiType → Prop
  | word {type : AbiType} (fits : type.fitsWord = true) : Solid type
  | bytes : Solid .bytes
  | string : Solid .string
  | array {item : AbiType} (items : Solid item) : Solid (.array item)
  | fixedArray {item : AbiType} {length : Nat} (some : 0 < length) (items : Solid item) :
      Solid (.fixedArray item length)
  | tuple {types : List AbiType} (some : types ≠ []) (items : ∀ item ∈ types, Solid item) :
      Solid (.tuple types)

theorem Solid.minimumWords_pos {type : AbiType} (solid : type.Solid) : 0 < type.minimumWords := by
  induction solid with
  | @word type fits =>
      cases type with
      | address | bool | uint | int | fixedBytes | function => exact Nat.one_pos
      | bytes | string | array | fixedArray | tuple => cases fits
  | bytes | string | array => exact Nat.one_pos
  | fixedArray some _ positive => exact Nat.mul_pos some positive
  | @tuple types some _ each =>
      rcases types with _ | ⟨first, rest⟩
      · exact absurd rfl some
      · rw [minimumWords, totalWords]
        exact Nat.add_pos_left (each first (by simp)) _

theorem Solid.ofNoData?_eq_none {type : AbiType} (solid : type.Solid) :
    AbiValue.ofNoData? type = none := by
  induction solid with
  | @word type fits =>
      cases type with
      | address | bool | uint | int | fixedBytes | function => rfl
      | bytes | string | array | fixedArray | tuple => cases fits
  | bytes | string => rfl
  | array _ none => rw [AbiValue.ofNoData?, none]; rfl
  | fixedArray _ _ none => rw [AbiValue.ofNoData?, none]; rfl
  | @tuple types some _ each =>
      rcases types with _ | ⟨first, rest⟩
      · exact absurd rfl some
      · rw [AbiValue.ofNoData?, AbiValue.ofNoDataAll?, each first (by simp)]
        rfl

theorem anyDynamic_eq_any (types : List AbiType) : anyDynamic types = types.any isDynamic := by
  induction types with
  | nil => rfl
  | cons type rest induction => rw [anyDynamic, induction, List.any_cons]

end AbiType

namespace AbiValue

theorem anyDynamic_eq_any (values : List AbiValue) :
    anyDynamic values = values.any isDynamic := by
  induction values with
  | nil => rfl
  | cons value rest induction => rw [anyDynamic, induction, List.any_cons]

theorem HasType.isDynamic {value : AbiValue} {type : AbiType} (typed : HasType value type)
    (solid : type.Solid) : value.isDynamic = type.isDynamic := by
  induction typed with
  | address | bool | uint | int | fixedBytes | bytes | string | function | array => rfl
  | @fixedArray values item length count _ each =>
      cases solid with
      | word fits => cases fits
      | fixedArray some solid =>
          rw [AbiValue.isDynamic, AbiType.isDynamic, anyDynamic_eq_any, Bool.eq_iff_iff,
            List.any_eq_true]
          constructor
          · rintro ⟨value, member, dynamic⟩
            rw [← each value member solid, dynamic]
          · intro dynamic
            have member : values[0] ∈ values := List.getElem_mem (by omega)
            exact ⟨values[0], member, (each _ member solid).trans dynamic⟩
  | @tuple values types arity items each =>
      cases solid with
      | word fits => cases fits
      | tuple some solid =>
          have same : List.Forall₂ (fun value type => value.isDynamic = type.isDynamic)
              values types :=
            List.forall₂_iff_zip.mpr ⟨arity, fun member =>
              each _ member (solid _ (List.of_mem_zip member).2)⟩
          rw [AbiValue.isDynamic, AbiType.isDynamic, anyDynamic_eq_any,
            AbiType.anyDynamic_eq_any]
          clear arity items each some solid
          induction same with
          | nil => rfl
          | cons head _ induction => rw [List.any_cons, List.any_cons, head, induction]

theorem tails_of_static {values : List AbiValue} (static : anyDynamic values = false) :
    tails (values.map part) = [] := by
  induction values with
  | nil => rfl
  | cons value rest induction =>
      rw [anyDynamic, Bool.or_eq_false_iff] at static
      simp [tails, part, static.1, induction static.2]

/-! ## Reading back -/

theorem readsBack_of_fitsWord {value : AbiValue} {type : AbiType} (admitted : type.Admitted)
    (typed : HasType value type) (fits : type.fitsWord = true) : ReadsBack value type := by
  intro cursor small room stands
  have step : take type = takeValue fun word => ofWord word type := by
    cases type with
    | address | bool | uint | int | fixedBytes | function => rfl
    | bytes | string | array | fixedArray | tuple => cases fits
  rw [typed.part_of_fitsWord fits] at stands ⊢
  cases stands with
  | inPlace found =>
      rw [step, takeValue, takeWord_of_prefix found]
      simp [ofWord_topic admitted typed fits, Part.headLength, value.topic.length_bytes]

theorem readsBack_bytes (content : Bytes) : ReadsBack (.bytes content) .bytes := by
  intro cursor small room stands
  have read := takeContent_of_standsAt small room stands
  rw [take, mapStep, read]
  rfl

theorem readsBack_string (text : String) : ReadsBack (.string text) .string := by
  intro cursor small room stands
  have read := takeContent_of_standsAt small room stands
  rw [take, mapStep, read]
  simp only [Text.decodeLossy_ofText]
  rfl

theorem readsBack_array {values : List AbiValue} {item : AbiType} (solid : item.Solid)
    (typed : ∀ value ∈ values, HasType value item)
    (returns : ∀ value ∈ values, ReadsBack value item) :
    ReadsBack (.array values) (.array item) := by
  intro cursor small room stands
  rw [windows] at room
  have here : StandsAt cursor.window cursor.position
      ⟨true, word values.length ++ assemble (encodeParts values)⟩ := stands
  rw [encodeParts_eq_map] at here
  rcases takeIndirection_of_standsAt small (by omega) here with
    ⟨window, begins, shorter, entered⟩
  have whole : word values.length ++ assemble (values.map part) <+: window.drop 0 := begins
  rcases append_prefix_drop_iff.mp whole with ⟨count, contents⟩
  rw [length_word, Nat.zero_add] at contents
  have start : 32 ≤ window.length := by
    have first := length_le_of_prefix_drop (Nat.zero_le _) count
    rwa [length_word] at first
  have fits := length_le_of_prefix_drop start contents
  have least := mul_length_le_assemble fun value member => (typed value member).minimumWords_le
  have many : values.length * 1 ≤ values.length * item.minimumWords :=
    Nat.mul_le_mul_left _ solid.minimumWords_pos
  have counted : takeOffset ⟨window, 0, cursor.depth + 1⟩ =
      .ok (values.length, ⟨window, 32, cursor.depth + 1⟩) :=
    takeOffset_of_prefix (by omega) count
  have behind : child ⟨window, 32, cursor.depth + 1⟩ 32 =
      .ok ⟨window.drop 32, 0, cursor.depth + 2⟩ := child_of_le (by dsimp only; omega) start
  have enough : ¬ (window.drop 32).length / 32 < item.minimumWords * values.length := by
    rw [List.length_drop, Nat.mul_comm]
    omega
  have read := takeMany_of_standFrom returns ⟨window.drop 32, 0, cursor.depth + 2⟩
    (by rw [List.length_drop]; omega) (by dsimp only; omega) (standFrom_of_assemble contents)
  rw [take, mapStep, takeArray, entered]
  simp only [counted, behind, if_neg enough, read]
  rcases values with _ | ⟨first, rest⟩
  · rfl
  · rfl

theorem takeGroup_of_values {values : List AbiValue} {items : Step (List AbiValue)}
    {cursor : Cursor} (small : cursor.window.length < Width.limit 64)
    (room : cursor.depth + (mostWindows values + 1) ≤ maxDepth)
    (some : 0 < (assemble (values.map part)).length)
    (reads : ∀ inner : Cursor, inner.window.length < Width.limit 64 →
      inner.depth + mostWindows values ≤ maxDepth →
      StandFrom inner.window inner.position (values.map part) →
        items inner = .ok (values,
          { inner with position := inner.position + headsLength (values.map part) }))
    (stands : StandsAt cursor.window cursor.position
      ⟨anyDynamic values, assemble (values.map part)⟩) :
    takeGroup (anyDynamic values) items cursor = .ok (values,
      { cursor with position := cursor.position +
          Part.headLength ⟨anyDynamic values, assemble (values.map part)⟩ }) := by
  refine takeGroup_of_standsAt small (by omega) ?_ ?_ stands
  · intro window shorter stand
    have read := reads ⟨window, 0, cursor.depth + 1⟩ (by dsimp only; omega)
      (by dsimp only; omega) stand
    simpa using read
  · intro static
    exact ⟨tails_of_static static, some⟩

theorem readsBack_fixedArray {values : List AbiValue} {item : AbiType} {length : Nat}
    (solid : AbiType.Solid (.fixedArray item length))
    (typed : HasType (.fixedArray values) (.fixedArray item length))
    (returns : ∀ value ∈ values, ReadsBack value item) :
    ReadsBack (.fixedArray values) (.fixedArray item length) := by
  intro cursor small room stands
  rw [windows] at room
  have dynamic := typed.isDynamic solid
  have body := typed.minimumWords_le
  have positive := solid.minimumWords_pos
  rw [AbiValue.isDynamic, AbiType.isDynamic] at dynamic
  rw [encodeBody, encodeParts_eq_map] at body
  have parts : part (.fixedArray values) =
      ⟨anyDynamic values, assemble (values.map part)⟩ := by
    rw [part, AbiValue.isDynamic, encodeBody, encodeParts_eq_map]
  rw [parts] at stands ⊢
  cases typed with
  | fixedArray count items =>
      subst count
      have read := takeGroup_of_values small room (by omega)
        (fun inner small room stand => takeMany_of_standFrom returns inner small room stand) stands
      rw [take, mapStep, ← dynamic, read]

theorem readsBack_tuple {values : List AbiValue} {types : List AbiType}
    (solid : AbiType.Solid (.tuple types)) (typed : HasType (.tuple values) (.tuple types))
    (returns : List.Forall₂ ReadsBack values types) :
    ReadsBack (.tuple values) (.tuple types) := by
  intro cursor small room stands
  rw [windows] at room
  have dynamic := typed.isDynamic solid
  have body := typed.minimumWords_le
  have positive := solid.minimumWords_pos
  rw [AbiValue.isDynamic, AbiType.isDynamic] at dynamic
  rw [encodeBody, encodeParts_eq_map] at body
  have parts : part (.tuple values) = ⟨anyDynamic values, assemble (values.map part)⟩ := by
    rw [part, AbiValue.isDynamic, encodeBody, encodeParts_eq_map]
  rw [parts] at stands ⊢
  have read := takeGroup_of_values small room (by omega)
    (fun inner small room stand => takeEach_of_standFrom returns inner small room stand) stands
  rw [take, mapStep, ← dynamic, read]

theorem HasType.readsBack {value : AbiValue} {type : AbiType} (typed : HasType value type)
    (admitted : type.Admitted) (solid : type.Solid) : ReadsBack value type := by
  induction typed with
  | address => exact readsBack_of_fitsWord admitted .address rfl
  | bool => exact readsBack_of_fitsWord admitted .bool rfl
  | uint fits => exact readsBack_of_fitsWord admitted (.uint fits) rfl
  | int low high => exact readsBack_of_fitsWord admitted (.int low high) rfl
  | fixedBytes padded => exact readsBack_of_fitsWord admitted (.fixedBytes padded) rfl
  | function => exact readsBack_of_fitsWord admitted .function rfl
  | bytes => exact readsBack_bytes _
  | string => exact readsBack_string _
  | @array values item items each =>
      cases admitted with
      | array admitted =>
          cases solid with
          | word fits => cases fits
          | array solid =>
              exact readsBack_array solid items fun value member =>
                each value member admitted solid
  | @fixedArray values item length count items each =>
      cases admitted with
      | fixedArray admitted =>
          refine readsBack_fixedArray solid (.fixedArray count items) fun value member => ?_
          cases solid with
          | word fits => cases fits
          | fixedArray some solid => exact each value member admitted solid
  | @tuple values types arity items each =>
      cases admitted with
      | tuple admitted =>
          refine readsBack_tuple solid (.tuple arity items)
            (List.forall₂_iff_zip.mpr ⟨arity, fun {value type} member => ?_⟩)
          have listed : type ∈ types := (List.of_mem_zip member).2
          cases solid with
          | word fits => cases fits
          | tuple some solid => exact each _ member (admitted type listed) (solid type listed)

/-- Decoding an encoded sequence gives the values again, unless they are nested
deeper than the decoder goes, or reach further than its offsets. -/
theorem decodeSequence_encodeSequence {values : List AbiValue} {types : List AbiType}
    (typed : List.Forall₂ HasType values types)
    (admitted : ∀ type ∈ types, type.Admitted) (solid : ∀ type ∈ types, type.Solid)
    (small : (encodeSequence values).length < Width.limit 64)
    (shallow : mostWindows values ≤ maxDepth) :
    decodeSequence types (encodeSequence values) = .ok values := by
  have returns : List.Forall₂ ReadsBack values types := by
    have pairs := List.forall₂_iff_zip.mp typed
    refine List.forall₂_iff_zip.mpr ⟨pairs.1, fun {value type} member => ?_⟩
    have listed : type ∈ types := (List.of_mem_zip member).2
    exact (pairs.2 member).readsBack (admitted type listed) (solid type listed)
  have whole : encodeSequence values = assemble (values.map part) := by
    rw [encodeSequence, encodeParts_eq_map]
  have stand : StandFrom (encodeSequence values) 0 (values.map part) := by
    rw [whole]
    exact standFrom_of_assemble List.prefix_rfl
  have read := takeEach_of_standFrom returns (Cursor.start (encodeSequence values)) small
    (by rw [Cursor.start, Nat.zero_add]; exact shallow) stand
  rw [decodeSequence, read]

end AbiValue

end ContractClient
