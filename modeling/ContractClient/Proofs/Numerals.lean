import ContractClient.Abi.Coercion

/-! Numbers written in decimal read back as what they were. The readers also take
hexadecimal digits and skip underscores; a written number has neither. -/

namespace ContractClient

namespace Numeral

/-! ## Decimal digits -/

theorem code_of_isDigit {character : Char} (digit : character.isDigit = true) :
    48 ≤ character.toNat ∧ character.toNat ≤ 57 := by
  simpa [Char.isDigit, UInt32.le_iff_toNat_le] using digit

theorem ne_underscore_of_isDigit {character : Char} (digit : character.isDigit = true) :
    character ≠ '_' := by
  rintro rfl
  exact absurd digit (by decide)

theorem digitValue?_of_isDigit {character : Char} (digit : character.isDigit = true) :
    digitValue? character = some (character.toNat - 48) := by
  have range := code_of_isDigit digit
  simp only [digitValue?, if_pos range]

theorem readDigits_of_isDigit {characters : List Char} (total : Nat)
    (digits : ∀ character ∈ characters, character.isDigit = true) :
    readDigits 10 total characters = some (Nat.ofDigitChars 10 characters total) := by
  induction characters generalizing total with
  | nil => simp [readDigits, Nat.ofDigitChars_nil]
  | cons first rest induction =>
      have digit := digits first (by simp)
      have range := code_of_isDigit digit
      have small : first.toNat - 48 < 10 := by omega
      simp only [readDigits, if_neg (ne_underscore_of_isDigit digit),
        digitValue?_of_isDigit digit, if_pos small, Nat.ofDigitChars_cons]
      exact induction _ fun character member => digits character (by simp [member])

theorem toList_toString (number : Nat) :
    (toString number).toList = Nat.toDigits 10 number := by
  rw [Nat.toString_eq_ofList_toDigits, String.toList_ofList]

theorem toString_injective {first second : Nat} (same : toString first = toString second) :
    first = second := by
  have digits := congrArg String.toList same
  rw [toList_toString, toList_toString] at digits
  rw [← Nat.ofDigitChars_ten_toDigits (n := first), ← Nat.ofDigitChars_ten_toDigits (n := second),
    digits]

theorem isDigit_toDigits (number : Nat) :
    ∀ character ∈ Nat.toDigits 10 number, character.isDigit = true :=
  fun _ member => Nat.isDigit_of_mem_toDigits (by decide) (by decide) member

theorem readUnsigned_toDigits {number : Nat} (fits : number < Width.limit 256) :
    readUnsigned 10 (Nat.toDigits 10 number) = some number := by
  rw [readUnsigned, readDigits_of_isDigit 0 (isDigit_toDigits number),
    Nat.ofDigitChars_ten_toDigits]
  exact if_pos fits

/-! ## Markers and signs -/

theorem stripHexMarker_of_isDigit {characters : List Char}
    (digits : ∀ character ∈ characters, character.isDigit = true) :
    stripHexMarker characters = none := by
  unfold stripHexMarker
  split
  · exact absurd (digits 'x' (by simp)) (by decide)
  · exact absurd (digits 'X' (by simp)) (by decide)
  · rfl

theorem splitSign_of_isDigit {characters : List Char}
    (digits : ∀ character ∈ characters, character.isDigit = true) :
    splitSign characters = (false, characters) := by
  unfold splitSign
  split
  · exact absurd (digits '+' (by simp)) (by decide)
  · exact absurd (digits '-' (by simp)) (by decide)
  · rfl

theorem toList_toString_int (number : Int) :
    (toString number).toList =
      if 0 ≤ number then Nat.toDigits 10 number.natAbs
      else '-' :: Nat.toDigits 10 number.natAbs := by
  rw [Int.toString_eq_repr, Int.repr_eq_if]
  split
  · next nonnegative =>
      rw [Nat.toList_repr]
      congr 1
      omega
  · next negative =>
      have magnitude : (-number).toNat = number.natAbs := by omega
      rw [magnitude, String.toList_append, Nat.toList_repr]
      rfl

theorem readSignedDecimal_toString {number : Int}
    (low : -(Width.limit 255 : Int) ≤ number) (high : number < Width.limit 255) :
    readSignedDecimal (toString number).toList = some number := by
  have limits : Width.limit 256 = Width.limit 255 * 2 := Width.limit_succ 255
  have fits : number.natAbs < Width.limit 256 := by
    have positive := Width.limit_pos 255
    omega
  have magnitude := readUnsigned_toDigits fits
  rw [toList_toString_int]
  split
  · next nonnegative =>
      rw [readSignedDecimal, splitSign_of_isDigit (isDigit_toDigits _)]
      simp only [magnitude, Option.bind_some, applySign, Bool.false_eq_true, if_false]
      rw [if_pos (by omega)]
      congr 1
      omega
  · next negative =>
      simp only [readSignedDecimal, splitSign, magnitude, Option.bind_some, applySign, if_true]
      rw [if_pos (by omega)]
      congr 1
      omega

end Numeral

/-! ## Numbers in JSON -/

namespace Coercion

theorem unsigned_toString {number : Nat} (fits : number < Width.limit 256) :
    unsigned (.string (toString number)) = .ok number := by
  simp only [unsigned, Numeral.toList_toString,
    Numeral.stripHexMarker_of_isDigit (Numeral.isDigit_toDigits number),
    Numeral.readUnsigned_toDigits fits]

theorem signed_toString {number : Int} (low : -(Width.limit 255 : Int) ≤ number)
    (high : number < Width.limit 255) :
    signed (.string (toString number)) = .ok number := by
  have unmarked : stripHexMarker (dropMinus (toString number).toList) = none := by
    have digits := Numeral.isDigit_toDigits number.natAbs
    rw [Numeral.toList_toString_int]
    split
    · unfold dropMinus
      split
      · next rest written =>
          exact absurd (digits '-' (by simp [written])) (by decide)
      · exact Numeral.stripHexMarker_of_isDigit digits
    · exact Numeral.stripHexMarker_of_isDigit digits
  simp only [signed, unmarked, Numeral.readSignedDecimal_toString low high]

end Coercion

end ContractClient
