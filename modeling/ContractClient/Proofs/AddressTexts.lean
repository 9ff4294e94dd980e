import ContractClient.Address.Validation
import ContractClient.Proofs.HexText
import ContractClient.Text.Lowercase

/-! Addresses in texts. A text that stands for an address has the digits of the address, in
either case, and no other digit but that of the marker; lowering a text changes none of
this. -/

namespace ContractClient

/-! ## Lower-case texts -/

namespace Text

/-- A reading of characters that passes over all but some ASCII characters, and does not tell
their cases apart. -/
structure CaseBlind (read : Char → Option α) : Prop where
  folds : ∀ character : Char, character.toNat < 128 → read character.toLower = read character
  high : ∀ character : Char, 103 ≤ character.toNat → read character = none
  zero : read (Char.ofNat 0) = none

theorem lowerRuns_high : ∀ run ∈ lowerRuns, 103 ≤ (run.1 : Int) + run.2.2.2 := by
  decide +kernel

variable {read : Char → Option α}

theorem CaseBlind.ofNat (blind : CaseBlind read) {code : Nat} (high : 103 ≤ code) :
    read (Char.ofNat code) = none := by
  by_cases valid : code.isValidChar
  · have own : (Char.ofNat code).toNat = code := by
      rw [Char.ofNat, dif_pos valid]
      rfl
    exact blind.high _ (own.symm ▸ high)
  · have zero : Char.ofNat code = Char.ofNat 0 := by
      rw [Char.ofNat, dif_neg valid]
      rfl
    rw [zero, blind.zero]

theorem CaseBlind.lowerCharacter (blind : CaseBlind read) (character : Char) :
    read (lowerCharacter character) = read character := by
  rw [Text.lowerCharacter]
  split
  · next ascii => exact blind.folds character ascii
  · next beyond =>
      rw [blind.high character (by omega)]
      split
      · next distance found =>
          rcases Option.map_eq_some_iff.mp found with ⟨run, sought, rfl⟩
          have bound := lowerRuns_high run (List.mem_of_find?_eq_some sought)
          have within := List.find?_some sought
          apply blind.ofNat
          simp only [Bool.and_eq_true, decide_eq_true_eq] at within
          omega
      · exact blind.high character (by omega)

theorem CaseBlind.filterMap_lowerLetters (blind : CaseBlind read) (character : Char) :
    (lowerLetters character).filterMap read = [character].filterMap read := by
  rw [lowerLetters]
  split
  · next dotted =>
      have dot : read (Char.ofNat 0x307) = none := blind.ofNat (by decide)
      simp [blind.high character (by omega), blind.high 'i' (by decide), dot]
  · rw [List.filterMap_cons, blind.lowerCharacter, List.filterMap_cons]

theorem CaseBlind.filterMap_lowerFrom (blind : CaseBlind read) (inWord : Bool)
    (characters : List Char) :
    (lowerFrom inWord characters).filterMap read = characters.filterMap read := by
  induction characters generalizing inWord with
  | nil => rfl
  | cons character rest induction =>
      simp only [lowerFrom, List.filterMap_append, induction]
      rw [show character :: rest = [character] ++ rest from rfl, List.filterMap_append]
      congr 1
      split
      · next final =>
          have sigma : character.toNat = 0x3A3 := by
            simp only [Bool.and_eq_true, decide_eq_true_eq] at final
            exact final.1.1
          have last : read (Char.ofNat 0x3C2) = none := blind.ofNat (by decide)
          simp [blind.high character (by omega), last]
      · exact blind.filterMap_lowerLetters character

theorem CaseBlind.filterMap_lower (blind : CaseBlind read) (text : String) :
    (lower text).toList.filterMap read = text.toList.filterMap read := by
  rw [lower, String.toList_ofList, blind.filterMap_lowerFrom]

theorem filterMap_dropBlanks (unread : ∀ character, isBlank character = true →
    read character = none) (characters : List Char) :
    (dropBlanks characters).filterMap read = characters.filterMap read := by
  induction characters with
  | nil => rfl
  | cons character rest induction =>
      rw [dropBlanks, List.dropWhile_cons]
      split
      · next blank =>
          rw [List.filterMap_cons, unread character blank]
          exact induction
      · rfl

theorem filterMap_trim (unread : ∀ character, isBlank character = true → read character = none)
    (text : String) : (trim text).toList.filterMap read = text.toList.filterMap read := by
  rw [trim, String.toList_ofList, trimBlanks, List.filterMap_reverse,
    filterMap_dropBlanks unread, List.filterMap_reverse, List.reverse_reverse,
    filterMap_dropBlanks unread]

end Text

/-! ## Digits -/

namespace Hex

theorem digitValue?_lt {code : UInt8} {value : Nat} (found : digitValue? code = some value) :
    value < 16 := by
  simp only [digitValue?] at found
  split at found
  · simp only [Option.some.injEq] at found
    omega
  · split at found
    · simp only [Option.some.injEq] at found
      omega
    · split at found
      · simp only [Option.some.injEq] at found
        omega
      · cases found

theorem halves_of_decodePairs {position : Nat} {codes : List UInt8} {bytes : Bytes}
    (read : decodePairs position codes = .ok bytes) : codes.map digitValue? = halves bytes := by
  fun_induction decodePairs position codes generalizing bytes with
  | case1 =>
      cases read
      rfl
  | case2 => cases read
  | case3 position high low rest first second firstFound secondFound others found induction =>
      cases read
      have firstBound := digitValue?_lt firstFound
      have secondBound := digitValue?_lt secondFound
      have whole : (UInt8.ofNat (16 * first + second)).toNat = 16 * first + second :=
        UInt8.toNat_ofNat_of_lt' (show 16 * first + second < 256 by omega)
      have upper : (16 * first + second) / 16 = first := by omega
      have lower : (16 * first + second) % 16 = second := by omega
      rw [List.map_cons, List.map_cons, induction found, firstFound, secondFound, halves, halves,
        List.flatMap_cons, whole, upper, lower]
      rfl
  | _ => cases read

theorem halves_injective {first second : Bytes} (same : halves first = halves second) :
    first = second := by
  have decoded : decodePairs 0 ((encode first).map Char.toUInt8) = .ok second := by
    apply decodePairs_of_halves
    rw [List.map_map, ← same]
    exact map_valueOf_encode first
  rw [decodePairs_of_halves 0 (by rw [List.map_map]; exact map_valueOf_encode first)] at decoded
  exact Except.ok.inj decoded

end Hex

namespace FixedBytes

theorem spelled_of_ofHex {size : Nat} {fixed : FixedBytes size} {text : String}
    (read : ofHex size text = .ok fixed) :
    (Hex.dropMarker (Bytes.ofText text)).map Hex.digitValue? = Hex.halves fixed.bytes := by
  simp only [ofHex] at read
  split at read
  · cases read
  · split at read
    · split at read
      · cases read
      · next bytes decoded =>
          rw [ofBytes?] at read
          split at read
          · next found built =>
              cases read
              split at built
              · cases built
                exact Hex.halves_of_decodePairs decoded
              · cases built
          · cases read
    · cases read

end FixedBytes

/-! ## Addresses -/

namespace Address

def digitOf (character : Char) : Option Nat :=
  if isHexDigit character then Hex.valueOf character else none

def separatorOf (character : Char) : Option Char :=
  if character = '_' ∨ character = '/' then some character else none

theorem toNat_lt_of_isHexDigit {character : Char} (digit : isHexDigit character = true) :
    character.toNat < 103 := by
  rw [isHexDigit] at digit
  split at digit
  · next value found =>
      simp only [Numeral.digitValue?] at found
      simp only [decide_eq_true_eq] at digit
      split at found
      · omega
      · split at found
        · simp only [Option.some.injEq] at found
          omega
        · split at found
          · omega
          · cases found
  · cases digit

theorem caseBlind_digitOf : Text.CaseBlind digitOf where
  folds := Text.forall_ascii (by decide)
  high := by
    intro character high
    rw [digitOf, if_neg]
    intro digit
    exact absurd (toNat_lt_of_isHexDigit digit) (by omega)
  zero := rfl

theorem caseBlind_separatorOf : Text.CaseBlind separatorOf where
  folds := Text.forall_ascii (by decide)
  high := by
    intro character high
    rw [separatorOf, if_neg]
    rintro (rfl | rfl) <;> exact absurd high (by decide)
  zero := rfl

theorem stripHexMarker_eq_some {text digits : List Char}
    (stripped : stripHexMarker text = some digits) :
    ∃ mark, text = '0' :: mark :: digits ∧ (mark = 'x' ∨ mark = 'X') := by
  rw [stripHexMarker.eq_def] at stripped
  split at stripped
  · cases stripped
    exact ⟨'x', rfl, .inl rfl⟩
  · cases stripped
    exact ⟨'X', rfl, .inr rfl⟩
  · cases stripped

theorem halves_of_ofHex {address : Address} {mark : Char} {digits : List Char}
    (marked : mark = 'x' ∨ mark = 'X')
    (hexadecimal : ∀ character ∈ digits, isHexDigit character = true)
    (read : FixedBytes.ofHex 20 (String.ofList ('0' :: mark :: digits)) = .ok address) :
    digits.map Hex.valueOf = Hex.halves address.bytes := by
  have ascii : ∀ character ∈ '0' :: mark :: digits, character.toNat < 128 := by
    simp only [List.forall_mem_cons]
    refine ⟨by decide, by rcases marked with rfl | rfl <;> decide, ?_⟩
    intro character member
    exact Nat.lt_trans (toNat_lt_of_isHexDigit (hexadecimal character member)) (by decide)
  have dropped : Hex.dropMarker (Bytes.ofText (String.ofList ('0' :: mark :: digits))) =
      digits.map Char.toUInt8 := by
    rw [Bytes.ofText_ofList_of_ascii ascii]
    rcases marked with rfl | rfl <;> rfl
  have spelled := FixedBytes.spelled_of_ofHex read
  rwa [dropped, List.map_map] at spelled

theorem digits_of_validate {text : String} {address : Address}
    (valid : validate text = .ok address) :
    ∃ mark digits, (Text.trim text).toList = '0' :: mark :: digits ∧ (mark = 'x' ∨ mark = 'X') ∧
      (∀ character ∈ digits, isHexDigit character = true) ∧
      digits.map Hex.valueOf = Hex.halves address.bytes := by
  simp only [validate] at valid
  split at valid
  · cases valid
  · split at valid
    · cases valid
    · next digits stripped =>
        rcases stripHexMarker_eq_some stripped with ⟨mark, same, marked⟩
        split at valid
        · cases valid
        · split at valid
          · cases valid
          · next hexadecimal =>
              split at valid
              · next read =>
                  cases valid
                  simp at hexadecimal
                  refine ⟨mark, digits, same, marked, hexadecimal, ?_⟩
                  apply halves_of_ofHex marked hexadecimal
                  rwa [← same, String.ofList_toList]
              · cases valid

theorem exists_valueOf_of_isHexDigit {character : Char} (digit : isHexDigit character = true) :
    ∃ value, Hex.valueOf character = some value := by
  have every : ∀ character : Char, character.toNat < 128 → isHexDigit character = true →
      (Hex.valueOf character).isSome = true := Text.forall_ascii (by decide)
  have bound := toNat_lt_of_isHexDigit digit
  exact Option.isSome_iff_exists.mp (every character (by omega) digit)

theorem filterMap_digitOf {digits : List Char}
    (hexadecimal : ∀ character ∈ digits, isHexDigit character = true) :
    (digits.filterMap digitOf).map some = digits.map Hex.valueOf := by
  induction digits with
  | nil => rfl
  | cons digit rest induction =>
      rcases List.forall_mem_cons.mp hexadecimal with ⟨first, others⟩
      rcases exists_valueOf_of_isHexDigit first with ⟨value, found⟩
      have own : digitOf digit = some value := by rw [digitOf, if_pos first, found]
      rw [List.filterMap_cons, own, List.map_cons, List.map_cons, induction others, found]

theorem isHexDigit_of_isBlank {character : Char} (blank : Text.isBlank character = true) :
    isHexDigit character = false := by
  rw [← Bool.not_eq_true]
  intro digit
  have every : ∀ character : Char, character.toNat < 128 → Text.isBlank character = true →
      isHexDigit character = false := Text.forall_ascii (by decide)
  have bound := toNat_lt_of_isHexDigit digit
  cases (every character (by omega) blank).symm.trans digit

section Validated

variable {text : String} {address : Address} (valid : validate text = .ok address)

include valid

theorem digits_lower_of_validate :
    ((Text.lower text).toList.filterMap digitOf).map some = some 0 :: Hex.halves address.bytes := by
  have unread (character : Char) (blank : Text.isBlank character = true) :
      digitOf character = none := by
    rw [digitOf, isHexDigit_of_isBlank blank]
    rfl
  rcases digits_of_validate valid with ⟨mark, digits, same, marked, hexadecimal, spelled⟩
  have unmarked : digitOf mark = none := by rcases marked with rfl | rfl <;> rfl
  rw [caseBlind_digitOf.filterMap_lower, ← Text.filterMap_trim unread, same, List.filterMap_cons,
    List.filterMap_cons, unmarked]
  rw [← spelled, ← filterMap_digitOf hexadecimal]
  rfl

theorem separators_lower_of_validate :
    (Text.lower text).toList.filterMap separatorOf = [] := by
  have unread (character : Char) (blank : Text.isBlank character = true) :
      separatorOf character = none := by
    rw [separatorOf, if_neg]
    rintro (rfl | rfl) <;> cases blank
  rcases digits_of_validate valid with ⟨mark, digits, same, marked, hexadecimal, _⟩
  rw [caseBlind_separatorOf.filterMap_lower, ← Text.filterMap_trim unread, same,
    List.filterMap_eq_nil_iff]
  simp only [List.forall_mem_cons]
  refine ⟨rfl, by rcases marked with rfl | rfl <;> rfl, ?_⟩
  intro character member
  rw [separatorOf, if_neg]
  rintro (rfl | rfl) <;> exact absurd (hexadecimal _ member) (by decide)

end Validated

theorem not_mem_lower_of_validate {text : String} {address : Address} {separator : Char}
    (valid : validate text = .ok address) (kind : separator = '_' ∨ separator = '/') :
    separator ∉ (Text.lower text).toList := by
  intro member
  have none := List.filterMap_eq_nil_iff.mp (separators_lower_of_validate valid) separator member
  rw [separatorOf, if_pos kind] at none
  cases none

/-- Texts of different addresses differ in more than case. -/
theorem eq_of_lower_eq {first second : String} {own other : Address}
    (valid : validate first = .ok own) (alsoValid : validate second = .ok other)
    (same : Text.lower first = Text.lower second) : own = other := by
  have former := digits_lower_of_validate valid
  have latter := digits_lower_of_validate alsoValid
  rw [same, latter, List.cons.injEq] at former
  have bytes := Hex.halves_injective former.2
  cases own
  cases other
  cases bytes
  rfl

end Address

end ContractClient
