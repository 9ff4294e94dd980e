import ContractClient.Block
import ContractClient.Bytecode
import ContractClient.Interface.Identifier
import ContractClient.Proofs.AddressTexts
import ContractClient.Proofs.Coercion
import ContractClient.Quantity

/-! Markers of hexadecimal texts in either case. Behind `0X` a text is read as it is behind `0x`:
as an address, bytecode, an amount, a block, a selector or a topic, and as a value of every type
but the signed integers, whose reader knows the lower-case marker only. -/

namespace ContractClient

/-! ## Marked texts -/

namespace Text

/-- The reader takes the same from the text behind either marker, or fails behind both. What it
says of a failure quotes the text, and so differs. -/
def ReadAlike (read : String → Except ε α) (rest : String) : Prop :=
  ∀ result, read ("0x" ++ rest) = .ok result ↔ read ("0X" ++ rest) = .ok result

theorem toList_lower (rest : String) : ("0x" ++ rest).toList = '0' :: 'x' :: rest.toList := by
  simp

theorem toList_upper (rest : String) : ("0X" ++ rest).toList = '0' :: 'X' :: rest.toList := by
  simp

theorem isEmpty_lower (rest : String) : ("0x" ++ rest).isEmpty = false := by
  rw [← Bool.not_eq_true, String.isEmpty_iff, ← String.toList_eq_nil_iff, toList_lower]
  exact List.cons_ne_nil _ _

theorem isEmpty_upper (rest : String) : ("0X" ++ rest).isEmpty = false := by
  rw [← Bool.not_eq_true, String.isEmpty_iff, ← String.toList_eq_nil_iff, toList_upper]
  exact List.cons_ne_nil _ _

theorem dropBlanks_append_of_printed {first : Char} (printed : isBlank first = false)
    (before after : List Char) :
    dropBlanks (before ++ first :: after) = dropBlanks before ++ first :: after := by
  have stops : (first :: after).dropWhile isBlank = first :: after :=
    List.dropWhile_cons_of_neg (by simp [printed])
  rw [dropBlanks, dropBlanks, List.dropWhile_append, stops]
  split
  · next none => rw [List.isEmpty_iff.mp none, List.nil_append]
  · rfl

theorem trimBlanks_marked {mark : Char} (printed : isBlank mark = false) (rest : List Char) :
    trimBlanks ('0' :: mark :: rest) = '0' :: mark :: (dropBlanks rest.reverse).reverse := by
  have front : dropBlanks ('0' :: mark :: rest) = '0' :: mark :: rest :=
    dropBlanks_append_of_printed (by decide) [] (mark :: rest)
  have back : dropBlanks (rest.reverse ++ [mark, '0']) = dropBlanks rest.reverse ++ [mark, '0'] :=
    dropBlanks_append_of_printed printed rest.reverse ['0']
  rw [trimBlanks, front]
  simp only [List.reverse_cons, List.append_assoc, List.singleton_append]
  rw [back]
  simp

theorem exists_trim_marked (rest : String) :
    ∃ kept, trim ("0x" ++ rest) = "0x" ++ kept ∧ trim ("0X" ++ rest) = "0X" ++ kept := by
  refine ⟨String.ofList (dropBlanks rest.toList.reverse).reverse, ?_, ?_⟩
  · apply String.toList_injective
    rw [trim, String.toList_ofList, toList_lower, trimBlanks_marked (by decide), toList_lower,
      String.toList_ofList]
  · apply String.toList_injective
    rw [trim, String.toList_ofList, toList_upper, trimBlanks_marked (by decide), toList_upper,
      String.toList_ofList]

end Text

section Marked

variable (rest : String)

theorem stripHexMarker_lower : stripHexMarker ("0x" ++ rest).toList = some rest.toList := by
  rw [Text.toList_lower, stripHexMarker]

theorem stripHexMarker_upper : stripHexMarker ("0X" ++ rest).toList = some rest.toList := by
  rw [Text.toList_upper, stripHexMarker]

theorem Bytes.ofText_lower : ofText ("0x" ++ rest) = 48 :: 120 :: ofText rest := by
  rw [ofText_eq_flatMap, ofText_eq_flatMap, Text.toList_lower]
  rfl

theorem Bytes.ofText_upper : ofText ("0X" ++ rest) = 48 :: 88 :: ofText rest := by
  rw [ofText_eq_flatMap, ofText_eq_flatMap, Text.toList_upper]
  rfl

theorem FixedBytes.ofHex_upper (size : Nat) :
    ofHex size ("0X" ++ rest) = ofHex size ("0x" ++ rest) := by
  rw [ofHex, ofHex, Bytes.ofText_lower, Bytes.ofText_upper]
  rfl

end Marked

theorem FixedBytes.ofHex_of_marker {size : Nat} {text : String} {digits : List Char}
    (stripped : stripHexMarker text.toList = some digits) :
    ofHex size text = ofHex size ("0x" ++ String.ofList digits) := by
  rcases Address.stripHexMarker_eq_some stripped with ⟨mark, marked, rfl | rfl⟩
  · have same : text = "0x" ++ String.ofList digits := by
      rw [← String.toList_inj, marked, Text.toList_lower, String.toList_ofList]
    rw [same]
  · have same : text = "0X" ++ String.ofList digits := by
      rw [← String.toList_inj, marked, Text.toList_upper, String.toList_ofList]
    rw [same, ofHex_upper]

/-! ## Readers of texts -/

theorem Address.readAlike_validate (rest : String) : Text.ReadAlike validate rest := by
  intro result
  rcases Text.exists_trim_marked rest with ⟨kept, lower, upper⟩
  simp only [validate, lower, upper, Text.isEmpty_lower, Text.isEmpty_upper, stripHexMarker_lower,
    stripHexMarker_upper, FixedBytes.ofHex_upper, Bool.false_eq_true, if_false]
  split
  · simp
  · split
    · simp
    · cases FixedBytes.ofHex 20 ("0x" ++ kept) <;> simp

theorem Bytecode.readAlike_ofText (rest : String) : Text.ReadAlike ofText rest := by
  intro result
  rcases Text.exists_trim_marked rest with ⟨kept, lower, upper⟩
  simp only [ofText, lower, upper, stripHexMarker_lower, stripHexMarker_upper]
  split
  · simp
  · cases Hex.decode (Bytes.ofText (String.ofList kept.toList)) <;> simp

theorem Quantity.readAlike_parse (rest : String) : Text.ReadAlike parse rest := by
  intro result
  rcases Text.exists_trim_marked rest with ⟨kept, lower, upper⟩
  simp only [parse, lower, upper, Text.isEmpty_lower, Text.isEmpty_upper, stripHexMarker_lower,
    stripHexMarker_upper, Bool.false_eq_true, if_false]
  cases Numeral.readUnsigned 16 kept.toList <;> simp

theorem BlockTag.ofWord?_of_marker {text digits : List Char}
    (stripped : stripHexMarker text = some digits) : ofWord? (Text.lowerAscii text) = none := by
  rcases Address.stripHexMarker_eq_some stripped with ⟨mark, marked, _⟩
  rw [marked, Text.lowerAscii, List.map_cons]
  simp [ofWord?]

theorem BlockId.readAlike_parse (rest : String) : Text.ReadAlike parse rest := by
  intro result
  rcases Text.exists_trim_marked rest with ⟨kept, lower, upper⟩
  simp only [parse, lower, upper, stripHexMarker_lower, stripHexMarker_upper,
    BlockTag.ofWord?_of_marker (stripHexMarker_lower kept),
    BlockTag.ofWord?_of_marker (stripHexMarker_upper kept), FixedBytes.ofHex_upper]
  split
  · cases FixedBytes.ofHex 32 ("0x" ++ kept) <;> simp
  · cases Numeral.read64 16 kept.toList <;> simp

/-! ## Digits of addresses -/

namespace Hex

theorem exists_decodePairs (position : Nat) :
    ∀ {codes : List UInt8}, codes.length % 2 = 0 →
      (∀ code ∈ codes, ∃ value, digitValue? code = some value) →
      ∃ bytes, decodePairs position codes = .ok bytes ∧ 2 * bytes.length = codes.length
  | [], _, _ => ⟨[], rfl, rfl⟩
  | [_], paired, _ => by simp at paired
  | high :: low :: rest, paired, digits => by
      simp only [List.forall_mem_cons] at digits
      rcases digits with ⟨⟨first, firstFound⟩, ⟨second, secondFound⟩, others⟩
      have restPaired : rest.length % 2 = 0 := by
        simp only [List.length_cons] at paired
        omega
      rcases exists_decodePairs (position + 2) restPaired others with ⟨bytes, read, count⟩
      refine ⟨UInt8.ofNat (16 * first + second) :: bytes, ?_, ?_⟩
      · simp only [decodePairs, firstFound, secondFound, read]
      · simp only [List.length_cons]
        omega

end Hex

theorem FixedBytes.exists_ofHex {size : Nat} {digits : String}
    (count : (Bytes.ofText digits).length = 2 * size)
    (hexadecimal : ∀ code ∈ Bytes.ofText digits, ∃ value, Hex.digitValue? code = some value) :
    ∃ fixed, ofHex size ("0x" ++ digits) = .ok fixed := by
  rcases Hex.exists_decodePairs 0 (by omega) hexadecimal with ⟨bytes, read, halved⟩
  have sized : bytes.length = size := by omega
  have paired : ¬ ((Bytes.ofText digits).length + 1 + 1) % 2 = 1 := by omega
  have half : (Bytes.ofText digits).length / 2 = size := by omega
  refine ⟨⟨bytes, sized⟩, ?_⟩
  simp only [ofHex, Bytes.ofText_lower, List.length_cons, if_neg paired, Hex.dropMarker,
    if_pos half, read, ofBytes?, dif_pos sized]

namespace Address

theorem codes_of_isHexDigit {digits : List Char}
    (hexadecimal : ∀ character ∈ digits, isHexDigit character = true) :
    ∀ code ∈ Bytes.ofText (String.ofList digits), ∃ value, Hex.digitValue? code = some value := by
  have ascii : ∀ character ∈ digits, character.toNat < 128 := fun character member =>
    Nat.lt_trans (toNat_lt_of_isHexDigit (hexadecimal character member)) (by decide)
  rw [Bytes.ofText_ofList_of_ascii ascii]
  intro code member
  rcases List.mem_map.mp member with ⟨character, inside, rfl⟩
  exact exists_valueOf_of_isHexDigit (hexadecimal character inside)

theorem validate_ne_unreadable (input text : String) (reason : HexError) :
    validate input ≠ .error (.unreadable text reason) := by
  intro failed
  simp only [validate] at failed
  split at failed
  · cases failed
  · split at failed
    · cases failed
    · next digits stripped =>
        split at failed
        · cases failed
        · next count =>
            split at failed
            · cases failed
            · next hexadecimal =>
                simp only [Bool.not_eq_true, Bool.not_eq_false', List.all_eq_true] at hexadecimal
                have enough : (Bytes.ofText (String.ofList digits)).length = 2 * 20 :=
                  not_not.mp count
                rcases FixedBytes.exists_ofHex enough (codes_of_isHexDigit hexadecimal) with
                  ⟨address, read⟩
                rw [FixedBytes.ofHex_of_marker stripped, read] at failed
                cases failed

end Address

/-! ## Identifiers -/

namespace Identifier

def spelled (text : String) : Identifier :=
  if text.toList.contains '(' then
    .signature (String.ofList (text.toList.filter fun character => character ≠ ' '))
  else .plain text

/-- What two texts are read as that differ in their markers only: as one selector or one topic,
or else as two names or two signatures, of which each keeps its own spelling. -/
inductive Counterparts (lower upper : String) : Identifier → Identifier → Prop
  | selector (bytes : Selector) : Counterparts lower upper (.selector bytes) (.selector bytes)
  | topic (word : Word) : Counterparts lower upper (.topic word) (.topic word)
  | spelled : Counterparts lower upper (spelled (Text.trim lower)) (spelled (Text.trim upper))

theorem counterparts_parse (rest : String) :
    Counterparts ("0x" ++ rest) ("0X" ++ rest) (parse ("0x" ++ rest)) (parse ("0X" ++ rest)) := by
  rcases Text.exists_trim_marked rest with ⟨kept, lower, upper⟩
  have otherwise : Counterparts ("0x" ++ rest) ("0X" ++ rest)
      (spelled (Text.trim ("0x" ++ rest))) (spelled (Text.trim ("0X" ++ rest))) := .spelled
  simp only [lower, upper] at otherwise
  simp only [parse, lower, upper, stripHexMarker_lower, stripHexMarker_upper,
    FixedBytes.ofHex_upper]
  by_cases short : (Bytes.ofText (String.ofList kept.toList)).length = 8
  · simp only [if_pos short]
    cases FixedBytes.ofHex 4 ("0x" ++ kept) with
    | ok bytes => exact .selector bytes
    | error reason => exact otherwise
  · simp only [if_neg short]
    by_cases long : (Bytes.ofText (String.ofList kept.toList)).length = 64
    · simp only [if_pos long]
      cases FixedBytes.ofHex 32 ("0x" ++ kept) with
      | ok word => exact .topic word
      | error reason => exact otherwise
    · simp only [if_neg long]
      exact otherwise

end Identifier

/-! ## Values -/

theorem Numeral.readUnsigned_upper (rest : List Char) :
    readUnsigned 16 ('0' :: 'X' :: rest) = none := by
  simp [readUnsigned, readDigits, digitValue?]

namespace Coercion

theorem readAlike_unsigned (rest : String) :
    Text.ReadAlike (fun text => unsigned (.string text)) rest := by
  intro number
  simp only [unsigned, stripHexMarker_lower, stripHexMarker_upper]
  cases Numeral.readUnsigned 16 rest.toList <;> simp

theorem readAlike_hexBytes (rest : String) :
    Text.ReadAlike (fun text => hexBytes (.string text)) rest := by
  intro content
  simp only [hexBytes, stripHexMarker_lower, stripHexMarker_upper]
  cases Hex.decode (Bytes.ofText (String.ofList rest.toList)) <;> simp

theorem readAlike_account (rest : String) :
    Text.ReadAlike (fun text => account (.string text)) rest := by
  intro address
  simp only [account, stripHexMarker_lower, stripHexMarker_upper, FixedBytes.ofHex_upper]
  split
  · simp
  · cases FixedBytes.ofHex 20 ("0x" ++ rest) <;> simp

theorem signed_upper (rest : String) :
    signed (.string ("0X" ++ rest)) = .error (.intText ("0X" ++ rest)) ∧
      signed (.string ("-0X" ++ rest)) = .error (.intText ("-0X" ++ rest)) := by
  have undigested := Numeral.readUnsigned_upper rest.toList
  have behindMinus : ("-0X" ++ rest).toList = '-' :: '0' :: 'X' :: rest.toList := by simp
  constructor
  · simp [signed, dropMinus, stripHexMarker, Numeral.readSignedHex, Numeral.splitSign, undigested]
  · simp [signed, behindMinus, dropMinus, stripHexMarker, Numeral.readSignedHex, Numeral.splitSign,
      undigested]

end Coercion

namespace AbiValue

theorem readAlike_ofJson {type : AbiType} (components : List Parameter) (rest : String)
    (marked : type ≠ .string) (unsigned : ∀ width, type ≠ .int width) :
    Text.ReadAlike (fun text => ofJson type components (.string text)) rest := by
  intro value
  cases type with
  | address =>
      simp only [ofJson_address_eq_ok_iff]
      exact exists_congr fun _ => and_congr_left' (Coercion.readAlike_account rest _)
  | uint width =>
      simp only [ofJson_uint_eq_ok_iff]
      exact exists_congr fun _ => and_congr_left' (Coercion.readAlike_unsigned rest _)
  | int width => exact absurd rfl (unsigned width)
  | fixedBytes size =>
      simp only [ofJson_fixedBytes_eq_ok_iff]
      exact exists_congr fun _ => and_congr_left' (Coercion.readAlike_hexBytes rest _)
  | bytes =>
      simp only [ofJson_bytes_eq_ok_iff]
      exact exists_congr fun _ => and_congr_left' (Coercion.readAlike_hexBytes rest _)
  | string => exact absurd rfl marked
  | function =>
      simp only [ofJson_function_eq_ok_iff]
      exact exists_congr fun _ => and_congr_left' (Coercion.readAlike_hexBytes rest _)
  | bool | array | fixedArray | tuple => exact Iff.rfl

theorem readAlike_int_iff (width : Nat) (components : List Parameter) (rest : String) :
    Text.ReadAlike (fun text => ofJson (.int width) components (.string text)) rest ↔
      ∀ value, ofJson (.int width) components (.string ("0x" ++ rest)) ≠ .ok value := by
  have upper : ofJson (.int width) components (.string ("0X" ++ rest)) =
      .error (.intText ("0X" ++ rest)) := by
    rw [ofJson, (Coercion.signed_upper rest).1]
  simp [Text.ReadAlike, upper]

end AbiValue

/-! ## Both markers -/

/-- Wherever a marker is taken off a text, both markers do: what is read behind one of them is read
behind the other, as an address, bytecode, an amount, a block, an identifier or a value. Texts that
are no selectors and no topics are identifiers that keep their markers. Only the signed integers
are not read behind the upper-case one. An address whose marker, length and digits are as they
should be is not refused after that. -/
theorem markers_interchangeable (rest : String) :
    Text.ReadAlike Address.validate rest ∧ Text.ReadAlike Bytecode.ofText rest ∧
      Text.ReadAlike Quantity.parse rest ∧ Text.ReadAlike BlockId.parse rest ∧
      Identifier.Counterparts ("0x" ++ rest) ("0X" ++ rest)
        (Identifier.parse ("0x" ++ rest)) (Identifier.parse ("0X" ++ rest)) ∧
      (∀ type components, type ≠ .string → (∀ width, type ≠ .int width) →
        Text.ReadAlike (fun text => AbiValue.ofJson type components (.string text)) rest) ∧
      (∀ width components,
        (Text.ReadAlike (fun text => AbiValue.ofJson (.int width) components (.string text)) rest ↔
          ∀ value, AbiValue.ofJson (.int width) components (.string ("0x" ++ rest)) ≠ .ok value) ∧
        AbiValue.ofJson (.int width) components (.string ("0X" ++ rest)) =
          .error (.intText ("0X" ++ rest)) ∧
        AbiValue.ofJson (.int width) components (.string ("-0X" ++ rest)) =
          .error (.intText ("-0X" ++ rest))) ∧
      ∀ text reason, Address.validate rest ≠ .error (.unreadable text reason) := by
  refine ⟨Address.readAlike_validate rest, Bytecode.readAlike_ofText rest,
    Quantity.readAlike_parse rest, BlockId.readAlike_parse rest, Identifier.counterparts_parse rest,
    ?_, ?_, Address.validate_ne_unreadable rest⟩
  · intro type components marked unsigned
    exact AbiValue.readAlike_ofJson components rest marked unsigned
  · intro width components
    rcases Coercion.signed_upper rest with ⟨plain, behindMinus⟩
    refine ⟨AbiValue.readAlike_int_iff width components rest, ?_, ?_⟩
    · rw [AbiValue.ofJson, plain]
    · rw [AbiValue.ofJson, behindMinus]

theorem markers_interchangeable_byte :
    AbiValue.ofJson (.uint 8) [] (.string ("0X" ++ "fF")) = .ok (.uint 255 8) ∧
      Quantity.parse ("0X" ++ "fF") = .ok 255 := by
  rcases markers_interchangeable "fF" with ⟨_, _, amounts, _, _, values, _, _⟩
  have value : AbiValue.ofJson (.uint 8) [] (.string ("0x" ++ "fF")) = .ok (.uint 255 8) := by rfl
  have amount : Quantity.parse ("0x" ++ "fF") = .ok 255 := by rfl
  exact ⟨(values (.uint 8) [] nofun nofun _).mp value, (amounts _).mp amount⟩

/-- Of two texts of one signed number only that with the lower-case marker is read. -/
theorem signed_upper_marker_refused :
    AbiValue.ofJson (.int 256) [] (.string "0x10") = .ok (.int 16 256) ∧
      AbiValue.ofJson (.int 256) [] (.string "0X10") = .error (.intText "0X10") := by
  have lower : Numeral.readSignedHex "0x10".toList = some 16 := by decide +kernel
  have upper : Numeral.readSignedHex "0X10".toList = none := by decide +kernel
  have readLower : Coercion.signed (.string "0x10") = .ok 16 := by
    rw [Coercion.signed, lower]
    rfl
  have readUpper : Coercion.signed (.string "0X10") = .error (.intText "0X10") := by
    rw [Coercion.signed, upper]
    rfl
  constructor
  · rw [AbiValue.ofJson, readLower]
    rfl
  · rw [AbiValue.ofJson, readUpper]

end ContractClient
