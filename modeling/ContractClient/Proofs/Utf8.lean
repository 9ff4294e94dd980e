import ContractClient.Proofs.HexText
import ContractClient.Text.Utf8

/-! Reading UTF-8 leniently gives back every text from its bytes: nothing in them
needs to be repaired. -/

namespace ContractClient.Text

/-! ## Bytes of one character -/

theorem nextByte_last {code low high : Nat} {byte : UInt8} (inside : low ≤ byte.toNat)
    (below : byte.toNat ≤ high) :
    nextByte ⟨code, 1, low, high⟩ byte =
      ⟨[Char.ofNat (code * 64 + (byte.toNat - 0x80))], none⟩ := by
  simp [nextByte, inside, below]

theorem nextByte_more {code missing low high : Nat} {byte : UInt8} (inside : low ≤ byte.toNat)
    (below : byte.toNat ≤ high) :
    nextByte ⟨code, missing + 2, low, high⟩ byte =
      ⟨[], some ⟨code * 64 + (byte.toNat - 0x80), missing + 1, 0x80, 0xBF⟩⟩ := by
  simp [nextByte, inside, below]

theorem decodeLossyFrom_none_cons (byte : UInt8) (rest : Bytes) :
    decodeLossyFrom none (byte :: rest) =
      (firstByte byte).complete ++ decodeLossyFrom (firstByte byte).pending rest := by
  rw [decodeLossyFrom]

theorem decodeLossyFrom_some_cons (unfinished : Unfinished) (byte : UInt8) (rest : Bytes) :
    decodeLossyFrom (some unfinished) (byte :: rest) =
      (nextByte unfinished byte).complete ++
        decodeLossyFrom (nextByte unfinished byte).pending rest := by
  rw [decodeLossyFrom]

/-! ## Characters by the number of their bytes -/

variable {character : Char} {rest : Bytes}

theorem toNat_lt (character : Char) : character.toNat < 0x110000 := by
  rcases character.valid with below | ⟨_, below⟩
  · exact Nat.lt_trans below (by decide)
  · exact below

theorem decodeLossyFrom_one {byte : UInt8} (code : byte.toNat = character.toNat)
    (small : character.toNat < 0x80) :
    decodeLossyFrom none (byte :: rest) = character :: decodeLossyFrom none rest := by
  have starts : firstByte byte = ⟨[character], none⟩ := by
    rw [firstByte, if_pos (by omega), code, Char.ofNat_toNat]
  rw [decodeLossyFrom_none_cons, starts]
  rfl

theorem decodeLossyFrom_two {first second : UInt8}
    (high : first.toNat = character.toNat / 64 + 0xC0)
    (low : second.toNat = character.toNat % 64 + 0x80)
    (least : 0x80 ≤ character.toNat) (small : character.toNat < 0x800) :
    decodeLossyFrom none (first :: second :: rest) =
      character :: decodeLossyFrom none rest := by
  have starts : firstByte first = ⟨[], some ⟨character.toNat / 64, 1, 0x80, 0xBF⟩⟩ := by
    rw [firstByte, if_neg (by omega), if_neg (by omega), if_pos (by omega), high]
    simp
  have code : character.toNat / 64 * 64 + (second.toNat - 0x80) = character.toNat := by omega
  rw [decodeLossyFrom_none_cons, starts, decodeLossyFrom_some_cons,
    nextByte_last (by omega) (by omega), code, Char.ofNat_toNat]
  rfl

theorem firstByte_of_three {byte : UInt8} (high : byte.toNat = character.toNat / 4096 + 0xE0)
    (least : 0x800 ≤ character.toNat) (small : character.toNat < 0x10000) :
    ∃ low top, firstByte byte = ⟨[], some ⟨character.toNat / 4096, 2, low, top⟩⟩ ∧
      low ≤ character.toNat / 64 % 64 + 0x80 ∧ character.toNat / 64 % 64 + 0x80 ≤ top := by
  have scalar : character.toNat < 0xD800 ∨ 0xDFFF < character.toNat :=
    character.valid.imp id And.left
  by_cases lead : character.toNat / 4096 = 0
  · refine ⟨0xA0, 0xBF, ?_, by omega, by omega⟩
    rw [firstByte, if_neg (by omega), if_neg (by omega), if_neg (by omega), if_pos (by omega),
      lead]
  · by_cases edge : character.toNat / 4096 = 13
    · refine ⟨0x80, 0x9F, ?_, by omega, by omega⟩
      rw [firstByte, if_neg (by omega), if_neg (by omega), if_neg (by omega),
        if_neg (by omega), if_pos (by omega), edge]
    · refine ⟨0x80, 0xBF, ?_, by omega, by omega⟩
      rw [firstByte, if_neg (by omega), if_neg (by omega), if_neg (by omega),
        if_neg (by omega), if_neg (by omega), if_pos (by omega), high, Nat.add_sub_cancel]

theorem decodeLossyFrom_three {first second third : UInt8}
    (high : first.toNat = character.toNat / 4096 + 0xE0)
    (middle : second.toNat = character.toNat / 64 % 64 + 0x80)
    (low : third.toNat = character.toNat % 64 + 0x80)
    (least : 0x800 ≤ character.toNat) (small : character.toNat < 0x10000) :
    decodeLossyFrom none (first :: second :: third :: rest) =
      character :: decodeLossyFrom none rest := by
  rcases firstByte_of_three high least small with ⟨bottom, top, starts, above, below⟩
  have code : (character.toNat / 4096 * 64 + (second.toNat - 0x80)) * 64 +
      (third.toNat - 0x80) = character.toNat := by omega
  rw [decodeLossyFrom_none_cons, starts, decodeLossyFrom_some_cons,
    nextByte_more (by omega) (by omega), decodeLossyFrom_some_cons,
    nextByte_last (by omega) (by omega), code, Char.ofNat_toNat]
  rfl

theorem firstByte_of_four {byte : UInt8} (high : byte.toNat = character.toNat / 262144 + 0xF0)
    (least : 0x10000 ≤ character.toNat) :
    ∃ low top, firstByte byte = ⟨[], some ⟨character.toNat / 262144, 3, low, top⟩⟩ ∧
      low ≤ character.toNat / 4096 % 64 + 0x80 ∧ character.toNat / 4096 % 64 + 0x80 ≤ top := by
  have last : character.toNat < 0x110000 := toNat_lt character
  by_cases lead : character.toNat / 262144 = 0
  · refine ⟨0x90, 0xBF, ?_, by omega, by omega⟩
    rw [firstByte, if_neg (by omega), if_neg (by omega), if_neg (by omega), if_neg (by omega),
      if_neg (by omega), if_neg (by omega), if_pos (by omega), lead]
  · by_cases edge : character.toNat / 262144 = 4
    · refine ⟨0x80, 0x8F, ?_, by omega, by omega⟩
      rw [firstByte, if_neg (by omega), if_neg (by omega), if_neg (by omega),
        if_neg (by omega), if_neg (by omega), if_neg (by omega), if_neg (by omega),
        if_neg (by omega), if_pos (by omega), edge]
    · refine ⟨0x80, 0xBF, ?_, by omega, by omega⟩
      rw [firstByte, if_neg (by omega), if_neg (by omega), if_neg (by omega),
        if_neg (by omega), if_neg (by omega), if_neg (by omega), if_neg (by omega),
        if_pos (by omega), high, Nat.add_sub_cancel]

theorem decodeLossyFrom_four {first second third fourth : UInt8}
    (high : first.toNat = character.toNat / 262144 + 0xF0)
    (upper : second.toNat = character.toNat / 4096 % 64 + 0x80)
    (lower : third.toNat = character.toNat / 64 % 64 + 0x80)
    (low : fourth.toNat = character.toNat % 64 + 0x80) (least : 0x10000 ≤ character.toNat) :
    decodeLossyFrom none (first :: second :: third :: fourth :: rest) =
      character :: decodeLossyFrom none rest := by
  rcases firstByte_of_four high least with ⟨bottom, top, starts, above, below⟩
  have code : ((character.toNat / 262144 * 64 + (second.toNat - 0x80)) * 64 +
      (third.toNat - 0x80)) * 64 + (fourth.toNat - 0x80) = character.toNat := by omega
  rw [decodeLossyFrom_none_cons, starts, decodeLossyFrom_some_cons,
    nextByte_more (by omega) (by omega), decodeLossyFrom_some_cons,
    nextByte_more (by omega) (by omega), decodeLossyFrom_some_cons,
    nextByte_last (by omega) (by omega), code, Char.ofNat_toNat]
  rfl

/-! ## Texts -/

theorem decodeLossyFrom_utf8EncodeChar (character : Char) (rest : Bytes) :
    decodeLossyFrom none (String.utf8EncodeChar character ++ rest) =
      character :: decodeLossyFrom none rest := by
  have last : character.toNat < 0x110000 := toNat_lt character
  have code : character.val.toNat = character.toNat := rfl
  unfold String.utf8EncodeChar
  simp only [code]
  split
  · next small => exact decodeLossyFrom_one (by rw [UInt8.toNat_ofNat']; omega) (by omega)
  · split
    · next large small =>
        exact decodeLossyFrom_two (by rw [UInt8.toNat_ofNat']; omega)
          (by rw [UInt8.toNat_ofNat']; omega) (by omega) (by omega)
    · split
      · next large small =>
          exact decodeLossyFrom_three (by rw [UInt8.toNat_ofNat']; omega)
            (by rw [UInt8.toNat_ofNat']; omega) (by rw [UInt8.toNat_ofNat']; omega)
            (by omega) (by omega)
      · next large =>
          exact decodeLossyFrom_four (by rw [UInt8.toNat_ofNat']; omega)
            (by rw [UInt8.toNat_ofNat']; omega) (by rw [UInt8.toNat_ofNat']; omega)
            (by rw [UInt8.toNat_ofNat']; omega) (by omega)

theorem decodeLossy_ofText (text : String) : decodeLossy (Bytes.ofText text) = text := by
  have read (characters : List Char) :
      decodeLossyFrom none (characters.flatMap String.utf8EncodeChar) = characters := by
    induction characters with
    | nil => rfl
    | cons first rest induction =>
        rw [List.flatMap_cons, decodeLossyFrom_utf8EncodeChar, induction]
  rw [decodeLossy, Bytes.ofText_eq_flatMap, read, String.ofList_toList]

end ContractClient.Text
