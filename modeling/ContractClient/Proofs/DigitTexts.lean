import ContractClient.Numeral
import ContractClient.Proofs.ConcreteIdentifiers
import Mathlib.Data.Nat.Digits.Defs

/-! Digits of numbers, and what the readers of digits take for them. One reader passes over
underscores and takes no digits at all for zero; the other takes nothing but digits, with a plus
before them or not. -/

namespace ContractClient

namespace Numeral

/-! ## Digits -/

/-- The character is the digit of the value in a base; letters are digits in either case. -/
def IsDigit (base : Nat) (character : Char) (value : Nat) : Prop :=
  value < base ∧ character.toLower = Nat.digitChar value

def Spells (base : Nat) (text : List Char) (number : Nat) : Prop :=
  ∃ values, List.Forall₂ (IsDigit base) text values ∧ Nat.ofDigits base values.reverse = number

/-- The text is a digit or more, of the number. -/
def Denotes (base : Nat) (text : List Char) (number : Nat) : Prop :=
  text ≠ [] ∧ Spells base text number

/-- The text is digits of the number with underscores anywhere, and may have no digits at all. -/
def LooselyDenotes (base : Nat) (text : List Char) (number : Nat) : Prop :=
  Spells base (text.filter fun character => character ≠ '_') number

/-- The text is a digit or more, of the number, with a plus before them or nothing. -/
def DenotesBehindPlus (base : Nat) (text : List Char) (number : Nat) : Prop :=
  ∃ digits, (text = digits ∨ text = '+' :: digits) ∧ Denotes base digits number

variable {base : Nat} {text : List Char} {number : Nat}

theorem IsDigit.ascii {character : Char} {value : Nat} (small : base ≤ 16)
    (digit : IsDigit base character value) : character.toNat < 128 := by
  have every : ∀ value : Fin 16, (Nat.digitChar value.val).toNat < 128 := by decide
  rcases digit with ⟨below, lowered⟩
  apply Hex.ascii_of_toLower
  rw [lowered]
  exact every ⟨value, by omega⟩

theorem Spells.exists_isDigit {character : Char} (spelled : Spells base text number)
    (member : character ∈ text) : ∃ value, IsDigit base character value := by
  rcases spelled with ⟨values, digits, _⟩
  rcases Traversal.exists_of_mem_left digits member with ⟨value, _, digit⟩
  exact ⟨value, digit⟩

theorem digitValue?_eq_some_iff {character : Char} {value : Nat} (small : base ≤ 16) :
    digitValue? character = some value ∧ value < base ↔ IsDigit base character value := by
  rw [IsDigit, and_comm, and_congr_right_iff]
  intro below
  -- The ASCII characters are gone through; of the others neither side holds.
  by_cases ascii : character.toNat < 128
  · have every : ∀ character : Char, character.toNat < 128 → ∀ value : Fin 16,
        digitValue? character = some value.val ↔ character.toLower = Nat.digitChar value.val :=
      Text.forall_ascii (by decide +kernel)
    exact every character ascii ⟨value, by omega⟩
  · have unread : digitValue? character = none := by
      simp only [digitValue?]
      rw [if_neg (by omega), if_neg (by omega), if_neg (by omega)]
    rw [unread]
    apply iff_of_false (Option.some_ne_none value ∘ Eq.symm)
    intro lowered
    exact ascii (IsDigit.ascii small ⟨below, lowered⟩)

theorem ofDigits_reverse (base : Nat) (values : List Nat) :
    Nat.ofDigits base values.reverse =
      values.foldl (fun total value => base * total + value) 0 := by
  rw [Nat.ofDigits_eq_foldr, List.foldr_reverse]
  simp only [Nat.cast_id, Nat.add_comm]

theorem readDigits_eq_some_iff (small : base ≤ 16) (total : Nat) :
    readDigits base total text = some number ↔
      ∃ values, List.Forall₂ (IsDigit base) (text.filter fun character => character ≠ '_') values ∧
        values.foldl (fun total value => base * total + value) total = number := by
  -- On the text, whatever was read before it. An underscore changes neither side.
  induction text generalizing total with
  | nil => simp [readDigits]
  | cons character rest induction =>
      rw [readDigits]
      split
      · next underscore =>
          rw [induction]
          simp [underscore]
      · next other =>
          have kept : ((character :: rest).filter fun character => character ≠ '_') =
              character :: rest.filter fun character => character ≠ '_' := by simp [other]
          rw [kept]
          simp only [List.forall₂_cons_left_iff]
          constructor
          · intro read
            split at read
            · next value found =>
                split at read
                · next below =>
                    rcases (induction _).mp read with ⟨values, digits, whole⟩
                    exact ⟨value :: values, ⟨value, values,
                      (digitValue?_eq_some_iff small).mp ⟨found, below⟩, digits, rfl⟩, whole⟩
                · cases read
            · cases read
          · intro spelled
            rcases spelled with ⟨_, ⟨value, values, digit, digits, rfl⟩, whole⟩
            rcases (digitValue?_eq_some_iff small).mpr digit with ⟨found, below⟩
            simp only [found, if_pos below]
            exact (induction _).mpr ⟨values, digits, whole⟩

theorem readDigits_zero_eq_some_iff (small : base ≤ 16) :
    readDigits base 0 text = some number ↔ LooselyDenotes base text number := by
  rw [readDigits_eq_some_iff small, LooselyDenotes, Spells]
  simp only [ofDigits_reverse]

def isForeign (base : Nat) (character : Char) : Bool :=
  (digitValue? character).all fun value => base ≤ value

theorem not_isDigit {character : Char} (small : base ≤ 16)
    (foreign : isForeign base character = true) (value : Nat) : ¬ IsDigit base character value := by
  intro digit
  rcases (digitValue?_eq_some_iff small).mpr digit with ⟨found, below⟩
  rw [isForeign, found, Option.all_some, decide_eq_true_iff] at foreign
  omega

theorem Spells.not_mem {character : Char} (spelled : Spells base text number) (small : base ≤ 16)
    (foreign : isForeign base character = true) : character ∉ text := by
  intro member
  rcases spelled.exists_isDigit member with ⟨value, digit⟩
  exact not_isDigit small foreign value digit

theorem spells_iff (small : base ≤ 16) :
    Spells base text number ↔ '_' ∉ text ∧ LooselyDenotes base text number := by
  have kept (plain : '_' ∉ text) : (text.filter fun character => character ≠ '_') = text := by
    rw [List.filter_eq_self]
    intro character member
    have other : character ≠ '_' := fun same => plain (same ▸ member)
    simpa using other
  constructor
  · intro spelled
    have plain : '_' ∉ text := spelled.not_mem small rfl
    exact ⟨plain, by rwa [LooselyDenotes, kept plain]⟩
  · intro loose
    rcases loose with ⟨plain, loose⟩
    rwa [LooselyDenotes, kept plain] at loose

theorem LooselyDenotes.not_mem {character : Char} (loose : LooselyDenotes base text number)
    (small : base ≤ 16) (other : character ≠ '_') (foreign : isForeign base character = true) :
    character ∉ text := by
  intro member
  have kept : character ∈ text.filter fun character => character ≠ '_' :=
    List.mem_filter.mpr ⟨member, by simpa using other⟩
  exact Spells.not_mem loose small foreign kept

/-! ## Digits in either case -/

theorem Spells.of_lowered {digits : List Char} (spelled : Spells base text number)
    (lowered : Text.lowerAscii digits = Text.lowerAscii text) : Spells base digits number := by
  rcases spelled with ⟨values, read, whole⟩
  refine ⟨values, ?_, whole⟩
  have onLowered (text : List Char) : List.Forall₂ (IsDigit base) text values ↔
      List.Forall₂ (fun character value => value < base ∧ character = Nat.digitChar value)
        (Text.lowerAscii text) values := by
    rw [Text.lowerAscii, List.forall₂_map_left_iff]
    rfl
  rwa [onLowered, lowered, ← onLowered]

theorem isDigit_digitChar {value : Nat} (small : base ≤ 16) (below : value < base) :
    IsDigit base (Nat.digitChar value) value := by
  have every : ∀ value : Fin 16, (Nat.digitChar value.val).toLower = Nat.digitChar value.val := by
    decide
  exact ⟨below, every ⟨value, by omega⟩⟩

theorem spells_toDigits (big : 1 < base) (small : base ≤ 16) (number : Nat) :
    Spells base (Nat.toDigits base number) number := by
  -- On the number: its digits are those of the quotient by the base, and the remainder behind them.
  induction number using Nat.strongRecOn with
  | ind number induction =>
      rw [Nat.toDigits_eq_if big]
      split
      · next below =>
          exact ⟨[number], .cons (isDigit_digitChar small below) .nil, by simp⟩
      · next more =>
          have less : number / base < number := Nat.div_lt_self (by omega) big
          rcases induction (number / base) less with ⟨values, read, whole⟩
          refine ⟨values ++ [number % base], ?_, ?_⟩
          · apply List.rel_append read
            exact .cons (isDigit_digitChar small (Nat.mod_lt _ (by omega))) .nil
          · rw [List.reverse_append, List.reverse_singleton, List.singleton_append,
              Nat.ofDigits_cons, whole]
            exact Nat.mod_add_div number base

/-! ## Readers of digits -/

theorem readUnsigned_eq_some_iff (small : base ≤ 16) :
    readUnsigned base text = some number ↔
      number < Width.limit 256 ∧ LooselyDenotes base text number := by
  rw [← readDigits_zero_eq_some_iff small, readUnsigned]
  cases read : readDigits base 0 text with
  | none => simp
  | some found =>
      simp only [Option.ite_none_right_eq_some, Option.some.injEq]
      exact and_congr_left fun same => by rw [same]

def takeDigit (base : Nat) (total : Option Nat) (character : Char) : Option Nat :=
  match total, digitValue? character with
  | some number, some value => if value < base then some (base * number + value) else none
  | _, _ => none

theorem foldl_takeDigit_none (base : Nat) (text : List Char) :
    text.foldl (takeDigit base) none = none := by
  induction text with
  | nil => rfl
  | cons _ _ induction => exact induction

theorem foldl_takeDigit (base total : Nat) (text : List Char) :
    text.foldl (takeDigit base) (some total) =
      if '_' ∈ text then none else readDigits base total text := by
  induction text generalizing total with
  | nil => rfl
  | cons character rest induction =>
      rw [List.foldl_cons, readDigits]
      by_cases underscore : character = '_'
      · rw [if_pos (by simp [underscore]), underscore]
        exact foldl_takeDigit_none base rest
      · have behind : '_' ∈ character :: rest ↔ '_' ∈ rest := by
          simp [eq_comm, underscore]
        simp only [takeDigit, behind, if_neg underscore]
        cases digitValue? character with
        | none => simp [foldl_takeDigit_none]
        | some value =>
            by_cases below : value < base
            · simp only [if_pos below, induction]
            · simp [below, foldl_takeDigit_none]

def behindPlus : List Char → List Char
  | '+' :: rest => rest
  | text => text

def keepBelow (bound : Nat) : Option Nat → Option Nat
  | some number => if number < bound then some number else none
  | none => none

theorem denotes_behindPlus_iff (small : base ≤ 16) :
    Denotes base (behindPlus text) number ↔ DenotesBehindPlus base text number := by
  constructor
  · intro denotes
    refine ⟨behindPlus text, ?_, denotes⟩
    unfold behindPlus
    split
    · exact .inr rfl
    · exact .inl rfl
  · intro signed
    rcases signed with ⟨digits, rfl | rfl, denotes⟩
    · have unsigned : '+' ∉ text := denotes.2.not_mem small rfl
      have whole : behindPlus text = text := by
        unfold behindPlus
        split
        · exact absurd (.head _) unsigned
        · rfl
      rwa [whole]
    · exact denotes

theorem readStrict_eq_some_iff (small : base ≤ 16) {bound : Nat} :
    readStrict base bound text = some number ↔
      number < bound ∧ DenotesBehindPlus base text number := by
  have opened : readStrict base bound text =
      if (behindPlus text).isEmpty then none
      else keepBelow bound ((behindPlus text).foldl (takeDigit base) (some 0)) := rfl
  rw [← denotes_behindPlus_iff small, Denotes, spells_iff small, opened, foldl_takeDigit,
    ← readDigits_zero_eq_some_iff small]
  by_cases empty : behindPlus text = []
  · simp [empty]
  · by_cases underscore : '_' ∈ behindPlus text
    · simp [underscore, keepBelow]
    · rw [if_neg (by simpa using empty), if_neg underscore]
      cases read : readDigits base 0 (behindPlus text) with
      | none => simp [keepBelow]
      | some found =>
          simp only [keepBelow, Option.ite_none_right_eq_some, Option.some.injEq, empty,
            underscore, ne_eq, not_false_eq_true, true_and]
          exact and_congr_left fun same => by rw [same]

end Numeral

end ContractClient
