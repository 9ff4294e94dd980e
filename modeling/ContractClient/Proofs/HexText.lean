import ContractClient.Abi.Coercion

/-! Texts of byte strings read back as what they were written from. A text of
ASCII characters is one byte for each of them, so the readers, which work on the
bytes of a text, see exactly the digits that were written. -/

namespace ContractClient

theorem Text.forall_ascii {property : Char → Prop}
    (every : ∀ code : Fin 128, property (Char.ofNat code.val)) (character : Char)
    (ascii : character.toNat < 128) : property character := by
  have own := every ⟨character.toNat, ascii⟩
  rwa [Char.ofNat_toNat] at own

/-! ## Bytes of a text -/

namespace Bytes

private theorem toList_loop (data : ByteArray) (position : Nat) (read : List UInt8) :
    ByteArray.toList.loop data position read =
      read.reverse ++ data.data.toList.drop position := by
  fun_induction ByteArray.toList.loop data position read with
  | case1 position read inside induction =>
      have next : data.data.toList.drop position =
          data.get! position :: data.data.toList.drop (position + 1) := by
        rw [List.drop_eq_getElem_cons (by simpa using inside)]
        simp [ByteArray.get!, getElem!_pos data.data position inside]
      rw [induction, next]
      simp
  | case2 position read outside =>
      have ended : data.data.toList.length ≤ position := by
        simpa using Nat.le_of_not_lt outside
      simp [List.drop_eq_nil_of_le ended]

theorem ofText_eq_flatMap (text : String) :
    ofText text = text.toList.flatMap String.utf8EncodeChar := by
  have encoded : text.toByteArray = text.toList.utf8Encode := by
    rw [← String.toByteArray_ofList, String.ofList_toList]
  rw [ofText, String.toUTF8_eq_toByteArray, encoded, ByteArray.toList, toList_loop]
  simp [List.utf8Encode]

theorem utf8EncodeChar_of_ascii {character : Char} (ascii : character.toNat < 128) :
    String.utf8EncodeChar character = [character.toUInt8] := by
  have small : character.utf8Size = 1 := by
    rw [Char.utf8Size_eq_one_iff, UInt32.le_iff_toNat_le]
    exact Nat.le_of_lt_succ ascii
  rw [String.utf8EncodeChar_eq_singleton small]
  rfl

theorem ofText_ofList_of_ascii {characters : List Char}
    (ascii : ∀ character ∈ characters, character.toNat < 128) :
    ofText (String.ofList characters) = characters.map Char.toUInt8 := by
  rw [ofText_eq_flatMap, String.toList_ofList]
  induction characters with
  | nil => rfl
  | cons first rest induction =>
      rw [List.flatMap_cons, List.map_cons, utf8EncodeChar_of_ascii (ascii first (by simp)),
        induction fun character member => ascii character (by simp [member])]
      rfl

end Bytes

/-! ## Digits -/

namespace Hex

def valueOf (character : Char) : Option Nat :=
  digitValue? character.toUInt8

theorem valueOf_digit {value : Nat} (small : value < 16) :
    valueOf (digit value) = some value := by
  have every : ∀ value : Fin 16, valueOf (digit value.val) = some value.val := by decide
  exact every ⟨value, small⟩

theorem digit_ascii {value : Nat} (small : value < 16) : (digit value).toNat < 128 := by
  have every : ∀ value : Fin 16, (digit value.val).toNat < 128 := by decide
  exact every ⟨value, small⟩

def halves (bytes : Bytes) : List (Option Nat) :=
  bytes.flatMap fun byte => [some (byte.toNat / 16), some (byte.toNat % 16)]

theorem map_valueOf_encode (bytes : Bytes) : (encode bytes).map valueOf = halves bytes := by
  induction bytes with
  | nil => rfl
  | cons byte rest induction =>
      have bound := byte.toNat_lt
      have high : valueOf (digit (byte.toNat / 16)) = some (byte.toNat / 16) :=
        valueOf_digit (by omega)
      have low : valueOf (digit (byte.toNat % 16)) = some (byte.toNat % 16) :=
        valueOf_digit (by omega)
      simp only [encode, halves, List.flatMap_cons, List.map_append, List.map_cons, List.map_nil,
        high, low] at induction ⊢
      rw [induction]

theorem exists_digit_of_mem_encode {bytes : Bytes} {character : Char}
    (member : character ∈ encode bytes) : ∃ value < 16, character = digit value := by
  rcases List.mem_flatMap.mp member with ⟨byte, _, member⟩
  have bound := byte.toNat_lt
  simp only [List.mem_cons, List.not_mem_nil, or_false] at member
  rcases member with same | same
  · exact ⟨_, by omega, same⟩
  · exact ⟨_, by omega, same⟩

theorem encode_ascii (bytes : Bytes) :
    ∀ character ∈ encode bytes, character.toNat < 128 := by
  intro character member
  rcases exists_digit_of_mem_encode member with ⟨value, small, rfl⟩
  exact digit_ascii small

theorem length_encode (bytes : Bytes) : (encode bytes).length = 2 * bytes.length := by
  induction bytes with
  | nil => rfl
  | cons byte rest induction =>
      simp only [encode, List.flatMap_cons, List.length_append, List.length_cons,
        List.length_nil] at induction ⊢
      omega

theorem decodePairs_of_halves {bytes : Bytes} {codes : List UInt8} (position : Nat)
    (spelled : codes.map digitValue? = halves bytes) :
    decodePairs position codes = .ok bytes := by
  induction bytes generalizing codes position with
  | nil =>
      have none_left : codes = [] := by simpa [halves] using spelled
      rw [none_left]
      rfl
  | cons byte rest induction =>
      rcases codes with _ | ⟨high, _ | ⟨low, others⟩⟩
      · simp [halves] at spelled
      · simp [halves] at spelled
      · simp only [halves, List.map_cons, List.flatMap_cons, List.cons_append, List.nil_append,
          List.cons.injEq] at spelled
        rcases spelled with ⟨highValue, lowValue, othersSpelled⟩
        have whole : UInt8.ofNat (16 * (byte.toNat / 16) + byte.toNat % 16) = byte := by
          rw [Nat.div_add_mod, UInt8.ofNat_toNat]
        simp only [decodePairs, highValue, lowValue, induction (position + 2) othersSpelled, whole]

end Hex

/-! ## Texts of byte strings -/

theorem toList_toHex (bytes : Bytes) : bytes.toHex.toList = '0' :: 'x' :: Hex.encode bytes := by
  simp [Bytes.toHex]

theorem stripHexMarker_toHex (bytes : Bytes) :
    stripHexMarker bytes.toHex.toList = some (Hex.encode bytes) := by
  rw [toList_toHex, stripHexMarker]

theorem Hex.decode_encode (bytes : Bytes) :
    decode (Bytes.ofText (String.ofList (encode bytes))) = .ok bytes := by
  rw [Bytes.ofText_ofList_of_ascii (encode_ascii bytes), decode, if_neg]
  · apply decodePairs_of_halves
    rw [List.map_map]
    exact map_valueOf_encode bytes
  · rw [List.length_map, length_encode]
    omega

theorem Bytes.ofText_toHex (bytes : Bytes) :
    ofText bytes.toHex = 48 :: 120 :: (Hex.encode bytes).map Char.toUInt8 := by
  rw [← String.ofList_toList (s := bytes.toHex), toList_toHex, ofText_ofList_of_ascii]
  · rfl
  · intro character member
    simp only [List.mem_cons] at member
    rcases member with rfl | rfl | member
    · decide
    · decide
    · exact Hex.encode_ascii bytes character member

theorem Bytes.ofHex?_toHex (bytes : Bytes) : ofHex? bytes.toHex = .ok bytes := by
  rw [ofHex?, Hex.decodeMarked, ofText_toHex, if_neg, Hex.dropMarker]
  · apply Hex.decodePairs_of_halves
    rw [List.map_map]
    exact Hex.map_valueOf_encode bytes
  · simp only [List.length_cons, List.length_map, Hex.length_encode]
    omega

theorem Coercion.hexBytes_toHex (bytes : Bytes) :
    hexBytes (.string bytes.toHex) = .ok bytes := by
  simp only [hexBytes, stripHexMarker_toHex, Hex.decode_encode]

/-! ## Checksummed addresses -/

namespace Address

theorem valueOf_upperDigit (character : Char) :
    Hex.valueOf (upperDigit character) = Hex.valueOf character := by
  by_cases letter : 97 ≤ character.toNat ∧ character.toNat ≤ 102
  · have every : ∀ offset : Fin 6,
        Hex.valueOf (upperDigit (Char.ofNat (97 + offset.val))) =
          Hex.valueOf (Char.ofNat (97 + offset.val)) := by decide
    have shifted := every ⟨character.toNat - 97, by omega⟩
    have whole : 97 + (character.toNat - 97) = character.toNat := by omega
    simpa only [whole, Char.ofNat_toNat] using shifted
  · rw [upperDigit, if_neg letter]

theorem upperDigit_ascii {character : Char} (ascii : character.toNat < 128) :
    (upperDigit character).toNat < 128 := by
  by_cases letter : 97 ≤ character.toNat ∧ character.toNat ≤ 102
  · have every : ∀ offset : Fin 6, (upperDigit (Char.ofNat (97 + offset.val))).toNat < 128 := by
      decide
    have shifted := every ⟨character.toNat - 97, by omega⟩
    have whole : 97 + (character.toNat - 97) = character.toNat := by omega
    simpa only [whole, Char.ofNat_toNat] using shifted
  · rw [upperDigit, if_neg letter]
    exact ascii

theorem map_valueOf_markLetters {digits marks : List Char}
    (enough : digits.length ≤ marks.length) :
    (markLetters digits marks).map Hex.valueOf = digits.map Hex.valueOf := by
  induction digits generalizing marks with
  | nil => rfl
  | cons first rest induction =>
      rcases marks with _ | ⟨mark, others⟩
      · simp at enough
      · simp only [markLetters, List.zipWith_cons_cons, List.map_cons] at induction ⊢
        rw [induction (by simpa using enough)]
        congr 1
        split
        · split
          · exact valueOf_upperDigit first
          · rfl
        · rfl

theorem markLetters_ascii {digits marks : List Char}
    (ascii : ∀ character ∈ digits, character.toNat < 128) :
    ∀ character ∈ markLetters digits marks, character.toNat < 128 := by
  induction digits generalizing marks with
  | nil => simp [markLetters]
  | cons first rest induction =>
      rcases marks with _ | ⟨mark, others⟩
      · simp [markLetters]
      · intro character member
        have head := ascii first (by simp)
        rw [markLetters, List.zipWith_cons_cons, List.mem_cons] at member
        rcases member with rfl | member
        · split
          · split
            · exact upperDigit_ascii head
            · exact head
          · exact head
        · exact induction (fun other inside => ascii other (by simp [inside])) character member

def checksumDigits (address : Address) : List Char :=
  let digits := Hex.encode address.bytes
  markLetters digits
    (Hex.encode (keccak256 (Bytes.ofText (String.ofList digits))).bytes)

theorem toList_toChecksum (address : Address) :
    (toChecksum address).toList = '0' :: 'x' :: checksumDigits address := by
  simp [toChecksum, checksumDigits]

theorem length_checksumDigits (address : Address) : (checksumDigits address).length = 40 := by
  simp [checksumDigits, markLetters, Hex.length_encode, FixedBytes.length_bytes]

theorem checksumDigits_ascii (address : Address) :
    ∀ character ∈ checksumDigits address, character.toNat < 128 :=
  markLetters_ascii (Hex.encode_ascii address.bytes)

theorem ofText_checksumDigits (address : Address) :
    Bytes.ofText (String.ofList (checksumDigits address)) =
      (checksumDigits address).map Char.toUInt8 :=
  Bytes.ofText_ofList_of_ascii (checksumDigits_ascii address)

theorem ofText_toChecksum (address : Address) :
    Bytes.ofText (toChecksum address) =
      48 :: 120 :: (checksumDigits address).map Char.toUInt8 := by
  rw [← String.ofList_toList (s := toChecksum address), toList_toChecksum,
    Bytes.ofText_ofList_of_ascii]
  · rfl
  · intro character member
    simp only [List.mem_cons] at member
    rcases member with rfl | rfl | member
    · decide
    · decide
    · exact checksumDigits_ascii address character member

theorem decodePairs_checksumDigits (address : Address) :
    Hex.decodePairs 0 ((checksumDigits address).map Char.toUInt8) = .ok address.bytes := by
  apply Hex.decodePairs_of_halves
  rw [List.map_map]
  have spelled : (checksumDigits address).map Hex.valueOf =
      (Hex.encode address.bytes).map Hex.valueOf :=
    map_valueOf_markLetters (by simp [Hex.length_encode, FixedBytes.length_bytes])
  rw [Hex.map_valueOf_encode] at spelled
  exact spelled

end Address

theorem FixedBytes.ofHex_toChecksum (address : Address) :
    FixedBytes.ofHex 20 (Address.toChecksum address) = .ok address := by
  have count : ((Address.checksumDigits address).map Char.toUInt8).length = 40 := by
    rw [List.length_map, Address.length_checksumDigits]
  simp only [ofHex, Address.ofText_toChecksum, List.length_cons, count, Hex.dropMarker,
    Address.decodePairs_checksumDigits]
  simp [ofBytes?, address.length_bytes]

theorem Coercion.account_toChecksum (address : Address) :
    account (.string (Address.toChecksum address)) = .ok address := by
  have count :
      (Bytes.ofText (String.ofList (Address.checksumDigits address))).length = 40 := by
    rw [Address.ofText_checksumDigits, List.length_map, Address.length_checksumDigits]
  simp only [account, Address.toList_toChecksum, stripHexMarker, count,
    FixedBytes.ofHex_toChecksum, ne_eq, not_true_eq_false, if_false]

end ContractClient
