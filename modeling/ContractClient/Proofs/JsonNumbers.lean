import ContractClient.Json.Number
import ContractClient.Proofs.Numerals

/-! Numbers in JSON texts. An integer is read back from its digits, wherever they stand before
something that does not go on with the number, and the reader makes no integers but those
that fit 64 bits. -/

namespace ContractClient

namespace Numeral

theorem le_ofDigitChars (characters : List Char) (total : Nat) :
    total ≤ Nat.ofDigitChars 10 characters total := by
  induction characters generalizing total with
  | nil => exact Nat.le_of_eq Nat.ofDigitChars_nil.symm
  | cons first rest induction =>
      rw [Nat.ofDigitChars_cons]
      exact Nat.le_trans (by omega) (induction _)

theorem toDigits_eq_cons {number : Nat} (positive : 0 < number) :
    ∃ first rest, Nat.toDigits 10 number = first :: rest ∧ first ≠ '0' := by
  -- The first digit of a number is that of its tenth, down to a single digit.
  induction number using Nat.strongRecOn with
  | ind number induction =>
      by_cases small : number < 10
      · have every : ∀ digit : Fin 10, 0 < digit.val → digit.val.digitChar ≠ '0' := by decide
        exact ⟨_, [], Nat.toDigits_of_lt_base small, every ⟨number, small⟩ positive⟩
      · have large : 10 ≤ number := by omega
        rcases induction (number / 10) (by omega) (by omega) with ⟨first, rest, written, nonzero⟩
        rw [Nat.toDigits_of_base_le (by decide) large, written]
        exact ⟨first, rest ++ [(number % 10).digitChar], rfl, nonzero⟩

end Numeral

namespace Number

/-! ## Writing and reading -/

def Stops (rest : List Char) : Prop :=
  ∀ first ∈ rest.head?, first.isDigit = false ∧ first ≠ '.' ∧ first ≠ 'e' ∧ first ≠ 'E'

theorem stops_nil : Stops [] := by simp [Stops]

theorem stops_cons {first : Char} {rest : List Char}
    (stops : first.isDigit = false ∧ first ≠ '.' ∧ first ≠ 'e' ∧ first ≠ 'E') :
    Stops (first :: rest) := by
  simpa [Stops] using stops

/-- The number is read back from its text, wherever the text stands. -/
def ReadsBack (number : Number) : Prop :=
  ∀ rest, Stops rest → read (number.toText.toList ++ rest) = some (number, rest)

theorem gatherWhole_of_isDigit {digits rest : List Char} {significand : Nat} (exponent : Int)
    (all : ∀ character ∈ digits, character.isDigit = true) (stops : Stops rest)
    (fits : Nat.ofDigitChars 10 digits significand < Width.limit 64) :
    gatherWhole false ⟨significand, exponent⟩ (digits ++ rest) =
      (false, ⟨Nat.ofDigitChars 10 digits significand, exponent⟩, rest) := by
  induction digits generalizing significand with
  | nil =>
      rw [Nat.ofDigitChars_nil, List.nil_append]
      rcases rest with _ | ⟨next, others⟩
      · rfl
      · have ended := (stops next rfl).1
        simp [gatherWhole, ended]
  | cons first others induction =>
      rw [Nat.ofDigitChars_cons] at fits ⊢
      have digit := all first List.mem_cons_self
      have extended : significand * 10 + (first.toNat - 48) =
          10 * significand + (first.toNat - '0'.toNat) := by
        rw [Nat.mul_comm]
        rfl
      have room := Nat.lt_of_le_of_lt (Numeral.le_ofDigitChars others _) fits
      simp only [List.cons_append, gatherWhole, digit, if_true, extended, room, decide_true,
        Bool.not_false, Bool.and_self]
      exact induction (fun character inside => all character (List.mem_cons_of_mem _ inside)) fits

theorem readTail_of_stops {gathered : Gathered} {rest : List Char} (minus : Bool)
    (stops : Stops rest) :
    readTail minus false gathered rest =
      if !minus then some (.natural gathered.significand, rest)
      else if gathered.significand = 0 ∨ Width.limit 63 < gathered.significand then
        some (.binary (-(UInt64.ofNat gathered.significand).toFloat).toBits, rest)
      else some (.negative gathered.significand, rest) := by
  unfold readTail
  split
  · exact absurd rfl (stops '.' rfl).2.1
  · exact absurd rfl (stops 'e' rfl).2.2.1
  · exact absurd rfl (stops 'E' rfl).2.2.2
  · rfl

def readMagnitude (minus : Bool) (unsigned : List Char) : Option (Number × List Char) :=
  match unsigned with
  | '0' :: next :: rest =>
      if next.isDigit then none else readTail minus false ⟨0, 0⟩ (next :: rest)
  | ['0'] => readTail minus false ⟨0, 0⟩ []
  | first :: rest =>
      if first.isDigit then
        let (full, gathered, tail) := gatherWhole false ⟨0, 0⟩ (first :: rest)
        readTail minus full gathered tail
      else none
  | [] => none

theorem read_minus (text : List Char) : read ('-' :: text) = readMagnitude true text := rfl

theorem read_of_unsigned {first : Char} (unsigned : first ≠ '-') (rest : List Char) :
    read (first :: rest) = readMagnitude false (first :: rest) := by
  unfold read
  split
  next minus text signed =>
    split at signed
    · next rest same => exact absurd (List.cons.inj same).1 unsigned
    · cases signed
      rfl

theorem exists_readMagnitude {text : List Char} {found : Number × List Char}
    (taken : read text = some found) :
    ∃ minus unsigned, (text = '-' :: unsigned ∨ text = unsigned) ∧
      readMagnitude minus unsigned = some found := by
  rcases text with _ | ⟨first, rest⟩
  · cases taken
  · by_cases minus : first = '-'
    · subst minus
      exact ⟨true, rest, .inl rfl, taken⟩
    · rw [read_of_unsigned minus] at taken
      exact ⟨false, first :: rest, .inr rfl, taken⟩

theorem readMagnitude_zero (minus : Bool) {rest : List Char} (stops : Stops rest) :
    readMagnitude minus ('0' :: rest) = readTail minus false ⟨0, 0⟩ rest := by
  rcases rest with _ | ⟨next, others⟩
  · rfl
  · have ended := (stops next rfl).1
    simp [readMagnitude, ended]

theorem readMagnitude_of_nonzero (minus : Bool) {first : Char} (digit : first.isDigit = true)
    (nonzero : first ≠ '0') (rest : List Char) :
    readMagnitude minus (first :: rest) =
      readTail minus (gatherWhole false ⟨0, 0⟩ (first :: rest)).1
        (gatherWhole false ⟨0, 0⟩ (first :: rest)).2.1
        (gatherWhole false ⟨0, 0⟩ (first :: rest)).2.2 := by
  simp [readMagnitude, digit, nonzero]

theorem readMagnitude_toDigits (minus : Bool) {magnitude : Nat} {rest : List Char}
    (fits : magnitude < Width.limit 64) (stops : Stops rest) :
    readMagnitude minus (Nat.toDigits 10 magnitude ++ rest) =
      readTail minus false ⟨magnitude, 0⟩ rest := by
  rcases Nat.eq_zero_or_pos magnitude with rfl | positive
  · exact readMagnitude_zero minus stops
  · rcases Numeral.toDigits_eq_cons positive with ⟨first, others, written, nonzero⟩
    have digits := Numeral.isDigit_toDigits magnitude
    have whole := Nat.ofDigitChars_ten_toDigits (n := magnitude)
    have gathered := gatherWhole_of_isDigit 0 digits stops (whole.symm ▸ fits)
    rw [whole, written] at gathered
    rw [written] at digits ⊢
    rw [List.cons_append, readMagnitude_of_nonzero minus (digits first List.mem_cons_self) nonzero,
      ← List.cons_append, gathered]

theorem natural_readsBack {value : Nat} (fits : value < Width.limit 64) :
    ReadsBack (.natural value) := by
  intro rest stops
  have read := readMagnitude_toDigits false fits stops
  have digits := Numeral.isDigit_toDigits value
  rw [toText, Numeral.toList_toString]
  rcases written : Nat.toDigits 10 value with _ | ⟨first, others⟩
  · exact absurd written Nat.toDigits_ne_nil
  · have digit := digits first (by simp [written])
    have unsigned : first ≠ '-' := fun minus => absurd (minus ▸ digit) (by decide)
    rw [written, List.cons_append] at read
    rw [List.cons_append, read_of_unsigned unsigned, read, readTail_of_stops false stops]
    rfl

theorem negative_readsBack {magnitude : Nat} (positive : 0 < magnitude)
    (fits : magnitude ≤ Width.limit 63) : ReadsBack (.negative magnitude) := by
  intro rest stops
  have half : Width.limit 64 = Width.limit 63 * 2 := Width.limit_succ 63
  have written : (Number.negative magnitude).toText.toList =
      '-' :: Nat.toDigits 10 magnitude := by
    rw [toText, String.toList_append, Numeral.toList_toString]
    rfl
  have integral : ¬ (magnitude = 0 ∨ Width.limit 63 < magnitude) := by omega
  rw [written, List.cons_append, read_minus, readMagnitude_toDigits true (by omega) stops,
    readTail_of_stops true stops, if_neg (by decide), if_neg integral]

/-! ## Characters of numbers -/

def IsWritten (text : List Char) : Prop :=
  ∀ character ∈ text, character.isDigit = true ∨ character ∈ ['-', '+', '.', 'e']

theorem isWritten_toDigits (number : Nat) : IsWritten (Nat.toDigits 10 number) :=
  fun character inside => .inl (Numeral.isDigit_toDigits number character inside)

theorem isWritten_zeros (count : Nat) : IsWritten (List.replicate count '0') := by
  intro character inside
  rw [List.eq_of_mem_replicate inside]
  exact .inl (by decide)

section IsWritten

variable {text rest : List Char}

theorem IsWritten.append (first : IsWritten text) (second : IsWritten rest) :
    IsWritten (text ++ rest) :=
  List.forall_mem_append.mpr ⟨first, second⟩

theorem IsWritten.of_subset (written : IsWritten rest) (within : text ⊆ rest) : IsWritten text :=
  fun character inside => written character (within inside)

end IsWritten

theorem isWritten_decimal (decimal : Decimal) : IsWritten decimal.toText.toList := by
  have digits := isWritten_toDigits decimal.digits
  have front (count : Nat) := digits.of_subset (List.take_subset count _)
  have back (count : Nat) := digits.of_subset (List.drop_subset count _)
  simp only [Decimal.toText]
  split
  · rw [String.toList_ofList]
    exact (digits.append (isWritten_zeros _)).append (by simp [IsWritten])
  split
  · rw [String.toList_ofList]
    exact ((front _).append (by simp [IsWritten])).append (back _)
  split
  · rw [String.toList_ofList]
    exact (IsWritten.append (by simp [IsWritten]) (isWritten_zeros _)).append digits
  · rw [String.toList_ofList]
    refine (((front 1).append ?_).append ?_).append (isWritten_toDigits _)
    · split
      · simp [IsWritten]
      · exact List.forall_mem_cons.mpr ⟨.inr (by decide), back 1⟩
    · split <;> simp [IsWritten]

theorem isWritten_toText (number : Number) : IsWritten number.toText.toList := by
  cases number with
  | natural value =>
      rw [toText, Numeral.toList_toString]
      exact isWritten_toDigits value
  | negative magnitude =>
      rw [toText, String.toList_append, Numeral.toList_toString]
      exact IsWritten.append (by simp [IsWritten]) (isWritten_toDigits magnitude)
  | binary bits =>
      have sign (condition : Prop) [Decidable condition] :
          IsWritten (if condition then "-" else "").toList := by
        split <;> simp [IsWritten]
      simp only [toText, Decimal.textOfBits]
      split
      · rw [String.toList_append]
        exact (sign _).append (by simp [IsWritten])
      · rw [String.toList_append]
        exact (sign _).append (isWritten_decimal _)

/-! ## Numbers that the reader makes -/

/-- An integer of 64 bits, or any binary number. -/
inductive Readable : Number → Prop
  | natural {value : Nat} (fits : value < Width.limit 64) : Readable (.natural value)
  | negative {magnitude : Nat} (positive : 0 < magnitude) (fits : magnitude ≤ Width.limit 63) :
      Readable (.negative magnitude)
  | binary (bits : UInt64) : Readable (.binary bits)

theorem Readable.readsBack {number : Number} (readable : number.Readable)
    (binaries : number.toInt? = none → number.ReadsBack) : number.ReadsBack := by
  cases readable with
  | natural fits => exact natural_readsBack fits
  | negative positive fits => exact negative_readsBack positive fits
  | binary bits => exact binaries rfl

theorem gatherWhole_fits {text tail : List Char} {full whole : Bool} {gathered found : Gathered}
    (fits : gathered.significand < Width.limit 64)
    (taken : gatherWhole full gathered text = (whole, found, tail)) :
    found.significand < Width.limit 64 := by
  fun_induction gatherWhole full gathered text with
  | case1 full gathered character rest digit extended room induction =>
      simp only [Bool.and_eq_true, decide_eq_true_eq] at room
      exact induction room.2 taken
  | case2 full gathered character rest digit extended room induction => exact induction fits taken
  | case3 full gathered character rest digit =>
      cases taken
      exact fits
  | case4 full gathered =>
      cases taken
      exact fits

theorem scaled_readable {negative : Bool} {significand : Nat} {exponent : Int}
    {left rest : List Char} {number : Number}
    (made : (ofScaled negative significand exponent).map (fun number => (number, left)) =
      some (number, rest)) : number.Readable := by
  simp only [ofScaled, Option.map_map, Option.map_eq_some_iff] at made
  rcases made with ⟨value, _, same⟩
  cases same
  exact .binary _

theorem readExponent_readable {negative : Bool} {gathered : Gathered} {text rest : List Char}
    {number : Number} (read : readExponent negative gathered text = some (number, rest)) :
    number.Readable := by
  unfold readExponent at read
  split at read
  next minus unsigned _ =>
    dsimp only [takeDigits] at read
    split at read
    · cases read
    · split at read
      · split at read
        · cases read
        · exact scaled_readable read
      · exact scaled_readable read

theorem readTail_readable {negative full : Bool} {gathered : Gathered} {text rest : List Char}
    {number : Number} (fits : gathered.significand < Width.limit 64)
    (read : readTail negative full gathered text = some (number, rest)) : number.Readable := by
  unfold readTail at read
  split at read
  · split at read
    · split at read
      · split at read
        · exact readExponent_readable read
        · exact readExponent_readable read
        · exact scaled_readable read
      · cases read
    · cases read
  · exact readExponent_readable read
  · exact readExponent_readable read
  · split at read
    · exact scaled_readable read
    · split at read
      · cases read
        exact .natural fits
      · split at read
        · cases read
          exact .binary _
        · next inside =>
            cases read
            exact .negative (by omega) (by omega)

theorem readMagnitude_readable {minus : Bool} {text rest : List Char} {number : Number}
    (read : readMagnitude minus text = some (number, rest)) : number.Readable := by
  have zero : 0 < Width.limit 64 := Width.limit_pos 64
  unfold readMagnitude at read
  split at read
  · split at read
    · cases read
    · exact readTail_readable zero read
  · exact readTail_readable zero read
  · split at read
    · split at read
      next taken => exact readTail_readable (gatherWhole_fits zero taken) read
    · cases read
  · cases read

theorem read_readable {text rest : List Char} {number : Number}
    (taken : read text = some (number, rest)) : number.Readable := by
  rcases exists_readMagnitude taken with ⟨minus, unsigned, _, read⟩
  exact readMagnitude_readable read

theorem readMagnitude_begins {minus : Bool} {text : List Char} {found : Number × List Char}
    (read : readMagnitude minus text = some found) :
    ∃ first rest, text = first :: rest ∧ first.isDigit = true := by
  unfold readMagnitude at read
  split at read
  · exact ⟨_, _, rfl, by decide⟩
  · exact ⟨_, _, rfl, by decide⟩
  · split at read
    · next digit => exact ⟨_, _, rfl, digit⟩
    · cases read
  · cases read

theorem read_begins {text : List Char} {found : Number × List Char}
    (taken : read text = some found) :
    ∃ first rest, text = first :: rest ∧
      ∀ character, character ≠ '-' → character.isDigit = false → first ≠ character := by
  rcases exists_readMagnitude taken with ⟨minus, unsigned, rfl | rfl, read⟩
  · exact ⟨'-', unsigned, rfl, fun character other _ => other.symm⟩
  · rcases readMagnitude_begins read with ⟨first, rest, same, digit⟩
    refine ⟨first, rest, same, ?_⟩
    rintro character _ foreign rfl
    exact Bool.noConfusion (foreign.symm.trans digit)

end Number

end ContractClient
