import ContractClient.Block
import ContractClient.Proofs.Coercion
import ContractClient.Proofs.DigitTexts
import ContractClient.Proofs.HexMarkers
import ContractClient.Quantity

/-! Texts of numbers. A numeral is one or more decimal digits, or one or more hexadecimal digits
behind a marker. All readers of numbers take these, and some take more: the readers of 256-bit
numbers pass over underscores and take no digits at all for zero, amounts may also be octal or
binary, and heights of blocks may have a plus before their digits. -/

namespace ContractClient

namespace Numeral

variable {base : Nat} {text digits : List Char} {number : Nat}

/-! ## Whole texts -/

/-- A text is decimal digits, or a marker and hexadecimal digits behind it. -/
inductive Written (denotes : Nat → List Char → Nat → Prop) : List Char → Nat → Prop
  | decimal {text : List Char} {number : Nat} (own : denotes 10 text number) :
      Written denotes text number
  | hexadecimal {mark : Char} {digits : List Char} {number : Nat} (marker : mark = 'x' ∨ mark = 'X')
      (own : denotes 16 digits number) : Written denotes ('0' :: mark :: digits) number

theorem LooselyDenotes.unmarked (loose : LooselyDenotes 10 text number) :
    stripHexMarker text = none := by
  cases stripped : stripHexMarker text with
  | none => rfl
  | some digits =>
      rcases Address.stripHexMarker_eq_some stripped with ⟨mark, rfl, marker⟩
      have member : mark ∈ '0' :: mark :: digits := by simp
      rcases marker with rfl | rfl
      · exact absurd member (loose.not_mem (by decide) (by decide) rfl)
      · exact absurd member (loose.not_mem (by decide) (by decide) rfl)

theorem written_iff {denotes : Nat → List Char → Nat → Prop}
    (unmarked : ∀ text number, denotes 10 text number → stripHexMarker text = none) :
    Written denotes text number ↔
      match stripHexMarker text with
      | some digits => denotes 16 digits number
      | none => denotes 10 text number := by
  constructor
  · intro written
    cases written with
    | decimal own =>
        rw [unmarked _ _ own]
        exact own
    | hexadecimal marker own =>
        rcases marker with rfl | rfl
        · exact own
        · exact own
  · intro denoted
    split at denoted
    · next digits stripped =>
        rcases Address.stripHexMarker_eq_some stripped with ⟨mark, rfl, marker⟩
        exact .hexadecimal marker denoted
    · exact .decimal denoted

/-- The text has no underscore, and there is at least one digit where it should have digits. -/
def Plain (text : List Char) : Prop :=
  '_' ∉ text ∧ text ≠ [] ∧ stripHexMarker text ≠ some []

theorem written_denotes_iff :
    Written Denotes text number ↔ Written LooselyDenotes text number ∧ Plain text := by
  constructor
  · intro written
    cases written with
    | decimal own =>
        rcases (spells_iff (by decide)).mp own.2 with ⟨plain, loose⟩
        exact ⟨.decimal loose, plain, own.1, by simp [loose.unmarked]⟩
    | hexadecimal marker own =>
        rcases (spells_iff (by decide)).mp own.2 with ⟨plain, loose⟩
        refine ⟨.hexadecimal marker loose, ?_, List.cons_ne_nil _ _, ?_⟩
        · rcases marker with rfl | rfl <;> simpa using plain
        · rcases marker with rfl | rfl <;> simpa [stripHexMarker] using own.1
  · intro loosely
    rcases loosely with ⟨written, plain, filled, digited⟩
    cases written with
    | decimal loose => exact .decimal ⟨filled, (spells_iff (by decide)).mpr ⟨plain, loose⟩⟩
    | @hexadecimal mark digits _ marker loose =>
        have behind : '_' ∉ digits := fun member =>
          plain (List.mem_cons_of_mem _ (List.mem_cons_of_mem _ member))
        refine .hexadecimal marker ⟨?_, (spells_iff (by decide)).mpr ⟨behind, loose⟩⟩
        rcases marker with rfl | rfl <;> simpa [stripHexMarker] using digited

/-! ## Amounts -/

def announcedBase? : Char → Option Nat
  | 'o' | 'O' => some 8
  | 'b' | 'B' => some 2
  | _ => none

/-- The text announces octal or binary digits. -/
def Announced (text : List Char) : Prop :=
  ∃ mark digits base, text = '0' :: mark :: digits ∧ announcedBase? mark = some base

/-- A text with digits of any base that amounts may have. -/
inductive WrittenAmount : List Char → Nat → Prop
  | numeral {text : List Char} {number : Nat} (own : Written LooselyDenotes text number) :
      WrittenAmount text number
  | announced {mark : Char} {base : Nat} {digits : List Char} {number : Nat}
      (announces : announcedBase? mark = some base) (own : LooselyDenotes base digits number) :
      WrittenAmount ('0' :: mark :: digits) number

theorem cases_of_announcedBase? {mark : Char} (announces : announcedBase? mark = some base) :
    (mark = 'o' ∨ mark = 'O') ∧ base = 8 ∨ (mark = 'b' ∨ mark = 'B') ∧ base = 2 := by
  unfold announcedBase? at announces
  split at announces <;> simp_all

theorem not_announced_of_written (written : Written LooselyDenotes text number) :
    ¬ Announced text := by
  intro announced
  rcases announced with ⟨mark, digits, base, rfl, announces⟩
  cases written with
  | decimal own =>
      have member : mark ∈ '0' :: mark :: digits := by simp
      rcases cases_of_announcedBase? announces with ⟨rfl | rfl, _⟩ | ⟨rfl | rfl, _⟩ <;>
        exact absurd member (own.not_mem (by decide) (by decide) rfl)
  | hexadecimal marker own => rcases marker with rfl | rfl <;> cases announces

theorem writtenAmount_announced_iff {mark : Char} (announces : announcedBase? mark = some base) :
    WrittenAmount ('0' :: mark :: digits) number ↔ LooselyDenotes base digits number := by
  constructor
  · intro written
    cases written with
    | numeral own => exact absurd ⟨_, _, _, rfl, announces⟩ (not_announced_of_written own)
    | announced own loose =>
        cases own.symm.trans announces
        exact loose
  · intro loose
    exact .announced announces loose

theorem readAnnounced_eq_some_iff (unmarked : stripHexMarker text = none) :
    readAnnounced text = some number ↔ number < Width.limit 256 ∧ WrittenAmount text number := by
  unfold readAnnounced
  split
  · cases unmarked
  · cases unmarked
  · rw [readUnsigned_eq_some_iff (by decide), writtenAmount_announced_iff rfl]
  · rw [readUnsigned_eq_some_iff (by decide), writtenAmount_announced_iff rfl]
  · rw [readUnsigned_eq_some_iff (by decide), writtenAmount_announced_iff rfl]
  · rw [readUnsigned_eq_some_iff (by decide), writtenAmount_announced_iff rfl]
  · next noLowerOctal noUpperOctal noLowerBinary noUpperBinary =>
      rw [readUnsigned_eq_some_iff (by decide), and_congr_right_iff]
      intro _
      constructor
      · intro loose
        exact .numeral (.decimal loose)
      · intro written
        cases written with
        | numeral own =>
            cases own with
            | decimal own => exact own
            | hexadecimal marker own => rcases marker with rfl | rfl <;> cases unmarked
        | announced announces own =>
            rcases cases_of_announcedBase? announces with ⟨rfl | rfl, _⟩ | ⟨rfl | rfl, _⟩
            · exact absurd rfl (noLowerOctal _)
            · exact absurd rfl (noUpperOctal _)
            · exact absurd rfl (noLowerBinary _)
            · exact absurd rfl (noUpperBinary _)

theorem writtenAmount_of_marked (stripped : stripHexMarker text = some digits) :
    WrittenAmount text number ↔ LooselyDenotes 16 digits number := by
  constructor
  · intro written
    cases written with
    | numeral own =>
        rwa [written_iff fun _ _ own => own.unmarked, stripped] at own
    | announced announces own =>
        rcases cases_of_announcedBase? announces with ⟨rfl | rfl, _⟩ | ⟨rfl | rfl, _⟩ <;>
          cases stripped
  · intro loose
    apply WrittenAmount.numeral
    rwa [written_iff fun _ _ own => own.unmarked, stripped]

theorem written_denotes_iff_amount :
    Written Denotes text number ↔ WrittenAmount text number ∧ Plain text ∧ ¬ Announced text := by
  rw [written_denotes_iff]
  constructor
  · intro written
    exact ⟨.numeral written.1, written.2, not_announced_of_written written.1⟩
  · intro read
    rcases read with ⟨written, plain, unannounced⟩
    cases written with
    | numeral own => exact ⟨own, plain⟩
    | announced announces own => exact absurd ⟨_, _, _, rfl, announces⟩ unannounced

/-! ## Heights -/

theorem DenotesBehindPlus.cases_of_mem {character : Char}
    (denotes : DenotesBehindPlus base text number) (member : character ∈ text) :
    character = '+' ∨ ∃ value, IsDigit base character value := by
  rcases denotes with ⟨digits, rfl | rfl, own⟩
  · exact .inr (own.2.exists_isDigit member)
  · rcases List.mem_cons.mp member with plus | inside
    · exact .inl plus
    · exact .inr (own.2.exists_isDigit inside)

theorem DenotesBehindPlus.ascii (denotes : DenotesBehindPlus base text number) (small : base ≤ 16) :
    ∀ character ∈ text, character.toNat < 128 := by
  intro character member
  rcases denotes.cases_of_mem member with rfl | ⟨value, digit⟩
  · decide
  · exact digit.ascii small

theorem DenotesBehindPlus.unmarked (denotes : DenotesBehindPlus 10 text number) :
    stripHexMarker text = none := by
  rcases denotes with ⟨digits, rfl | rfl, own⟩
  · exact ((spells_iff (by decide)).mp own.2).2.unmarked
  · rfl

theorem written_denotes_iff_height :
    Written Denotes text number ↔ Written DenotesBehindPlus text number ∧ '+' ∉ text := by
  have digited {base : Nat} {digits : List Char} (small : base ≤ 16) :
      Denotes base digits number ↔ DenotesBehindPlus base digits number ∧ '+' ∉ digits := by
    constructor
    · intro own
      exact ⟨⟨digits, .inl rfl, own⟩, own.2.not_mem small rfl⟩
    · intro behind
      rcases behind with ⟨⟨own, rfl | rfl, denotes⟩, unsigned⟩
      · exact denotes
      · exact absurd (.head _) unsigned
  constructor
  · intro written
    cases written with
    | decimal own =>
        rcases (digited (by decide)).mp own with ⟨behind, unsigned⟩
        exact ⟨.decimal behind, unsigned⟩
    | hexadecimal marker own =>
        rcases (digited (by decide)).mp own with ⟨behind, unsigned⟩
        refine ⟨.hexadecimal marker behind, ?_⟩
        rcases marker with rfl | rfl <;> simpa using unsigned
  · intro read
    rcases read with ⟨written, unsigned⟩
    cases written with
    | decimal own => exact .decimal ((digited (by decide)).mpr ⟨own, unsigned⟩)
    | hexadecimal marker own =>
        refine .hexadecimal marker ((digited (by decide)).mpr ⟨own, ?_⟩)
        exact fun member => unsigned (List.mem_cons_of_mem _ (List.mem_cons_of_mem _ member))

/-! ## Signed numbers -/

inductive Signed (written : List Char → Nat → Prop) : List Char → Int → Prop
  | bare {text : List Char} {number : Nat} (own : written text number) :
      Signed written text number
  | plus {text : List Char} {number : Nat} (own : written text number) :
      Signed written ('+' :: text) number
  | minus {text : List Char} {number : Nat} (own : written text number) :
      Signed written ('-' :: text) (-number)

theorem splitSign_of_unsigned (plus : '+' ∉ text) (minus : '-' ∉ text) :
    splitSign text = (false, text) := by
  unfold splitSign
  split
  · exact absurd (.head _) plus
  · exact absurd (.head _) minus
  · rfl

theorem signed_iff {written : List Char → Nat → Prop} {number : Int}
    (unsigned : ∀ text number, written text number → '+' ∉ text ∧ '-' ∉ text) :
    Signed written text number ↔ ∃ magnitude, written (splitSign text).2 magnitude ∧
      number = if (splitSign text).1 then -(magnitude : Int) else magnitude := by
  constructor
  · intro signed
    cases signed with
    | @bare _ magnitude own =>
        rw [splitSign_of_unsigned (unsigned _ _ own).1 (unsigned _ _ own).2]
        exact ⟨magnitude, own, rfl⟩
    | @plus _ magnitude own => exact ⟨magnitude, own, rfl⟩
    | @minus _ magnitude own => exact ⟨magnitude, own, rfl⟩
  · intro split
    rcases split with ⟨magnitude, own, rfl⟩
    unfold splitSign at own ⊢
    split at own
    · exact .plus own
    · exact .minus own
    · exact .bare own

/-- The number is one that two's complement of the width holds. -/
def SignedFits (number : Int) (width : Nat) : Prop :=
  -(Width.limit (width - 1) : Int) ≤ number ∧ number < Width.limit (width - 1)

theorem bind_applySign_eq_some_iff {negative : Bool} {number : Int} (small : base ≤ 16) :
    (readUnsigned base text).bind (applySign negative) = some number ↔
      SignedFits number 256 ∧ ∃ magnitude, LooselyDenotes base text magnitude ∧
        number = if negative then -(magnitude : Int) else magnitude := by
  have double : Width.limit 256 = Width.limit 255 * 2 := Width.limit_succ 255
  have positive := Width.limit_pos 255
  simp only [Option.bind_eq_some_iff, readUnsigned_eq_some_iff small, applySign, SignedFits,
    Nat.reduceSub]
  constructor
  · intro read
    rcases read with ⟨magnitude, ⟨_, loose⟩, applied⟩
    cases negative <;>
      simp only [Bool.false_eq_true, if_true, if_false, Option.ite_none_right_eq_some,
        Option.some.injEq] at applied ⊢ <;>
      exact ⟨by omega, magnitude, loose, applied.2.symm⟩
  · intro signed
    rcases signed with ⟨fits, magnitude, loose, rfl⟩
    cases negative <;>
      simp only [Bool.false_eq_true, if_true, if_false] at fits ⊢ <;>
      exact ⟨magnitude, ⟨by omega, loose⟩, if_pos (by omega)⟩

/-- A text of a signed number. A marker is in lower case, with a minus before it or nothing, and
with no more than 64 bytes behind it. -/
inductive WrittenSigned : List Char → Int → Prop
  | decimal {text : List Char} {number : Int} (own : Signed (LooselyDenotes 10) text number) :
      WrittenSigned text number
  | hexadecimal {digits : List Char} {number : Nat}
      (short : (Bytes.ofText (String.ofList digits)).length ≤ 64)
      (own : LooselyDenotes 16 digits number) : WrittenSigned ('0' :: 'x' :: digits) number
  | negative {digits : List Char} {number : Nat}
      (short : (Bytes.ofText (String.ofList digits)).length ≤ 64)
      (own : LooselyDenotes 16 digits number) :
      WrittenSigned ('-' :: '0' :: 'x' :: digits) (-number)

theorem Signed.not_mem {character : Char} {number : Int}
    (signed : Signed (LooselyDenotes 10) text number)
    (other : character ≠ '_' ∧ character ≠ '+' ∧ character ≠ '-')
    (foreign : isForeign 10 character = true) : character ∉ text := by
  rcases other with ⟨underscore, plus, minus⟩
  cases signed with
  | bare own => exact own.not_mem (by decide) underscore foreign
  | plus own =>
      apply List.not_mem_cons_of_ne_of_not_mem plus
      exact own.not_mem (by decide) underscore foreign
  | minus own =>
      apply List.not_mem_cons_of_ne_of_not_mem minus
      exact own.not_mem (by decide) underscore foreign

theorem readSignedDecimal_eq_some_iff {number : Int} :
    readSignedDecimal text = some number ↔
      SignedFits number 256 ∧ Signed (LooselyDenotes 10) text number := by
  rw [signed_iff fun _ _ own => ⟨own.not_mem (by decide) (by decide) rfl,
    own.not_mem (by decide) (by decide) rfl⟩]
  exact bind_applySign_eq_some_iff (by decide)

theorem eq_of_dropMinus {rest : List Char} (dropped : Coercion.dropMinus text = '0' :: rest) :
    text = '0' :: rest ∨ text = '-' :: '0' :: rest := by
  unfold Coercion.dropMinus at dropped
  split at dropped
  · exact .inr (by rw [dropped])
  · exact .inl dropped

theorem writtenSigned_of_unmarked {number : Int}
    (unmarked : stripHexMarker (Coercion.dropMinus text) = none) :
    WrittenSigned text number ↔ Signed (LooselyDenotes 10) text number := by
  constructor
  · intro written
    cases written with
    | decimal own => exact own
    | hexadecimal | negative => cases unmarked
  · intro signed
    exact .decimal signed

theorem splitSign_of_dropMinus {rest : List Char}
    (dropped : Coercion.dropMinus text = '0' :: rest) : (splitSign text).2 = '0' :: rest := by
  rcases eq_of_dropMinus dropped with rfl | rfl
  · rfl
  · rfl

theorem readSignedHex_eq_some_iff {number : Int}
    (marked : (splitSign text).2 = '0' :: 'x' :: digits) :
    readSignedHex text = some number ↔
      SignedFits number 256 ∧ (Bytes.ofText (String.ofList digits)).length ≤ 64 ∧
        ∃ magnitude, LooselyDenotes 16 digits magnitude ∧
          number = if (splitSign text).1 then -(magnitude : Int) else magnitude := by
  simp only [readSignedHex, marked, Option.ite_none_right_eq_some,
    bind_applySign_eq_some_iff (Nat.le_refl 16)]
  tauto

theorem readSignedHex_upper (marked : (splitSign text).2 = '0' :: 'X' :: digits) :
    readSignedHex text = none := by
  simp only [readSignedHex, marked]
  change (if _ then (readUnsigned 16 ('0' :: 'X' :: digits)).bind _ else none) = none
  simp only [readUnsigned_upper, Option.bind_none, ite_self]

theorem not_signed_of_marked {mark : Char} {number : Int} (marker : mark = 'x' ∨ mark = 'X')
    (dropped : Coercion.dropMinus text = '0' :: mark :: digits) :
    ¬ Signed (LooselyDenotes 10) text number := by
  intro signed
  have member : mark ∈ text := by
    rcases eq_of_dropMinus dropped with rfl | rfl <;> simp
  rcases marker with rfl | rfl
  · exact signed.not_mem (by decide) rfl member
  · exact signed.not_mem (by decide) rfl member

theorem writtenSigned_of_lower {number : Int}
    (dropped : Coercion.dropMinus text = '0' :: 'x' :: digits) :
    WrittenSigned text number ↔ (Bytes.ofText (String.ofList digits)).length ≤ 64 ∧
      ∃ magnitude, LooselyDenotes 16 digits magnitude ∧
        number = if (splitSign text).1 then -(magnitude : Int) else magnitude := by
  constructor
  · intro written
    cases written with
    | decimal own => exact absurd own (not_signed_of_marked (.inl rfl) dropped)
    | hexadecimal short own =>
        cases dropped
        exact ⟨short, _, own, rfl⟩
    | negative short own =>
        cases dropped
        exact ⟨short, _, own, rfl⟩
  · intro marked
    rcases marked with ⟨short, magnitude, own, rfl⟩
    rcases eq_of_dropMinus dropped with rfl | rfl
    · exact .hexadecimal short own
    · exact .negative short own

theorem not_writtenSigned_of_upper {number : Int}
    (dropped : Coercion.dropMinus text = '0' :: 'X' :: digits) : ¬ WrittenSigned text number := by
  intro written
  cases written with
  | decimal own => exact not_signed_of_marked (.inr rfl) dropped own
  | hexadecimal | negative => simp [Coercion.dropMinus] at dropped

theorem readSignedHex_of_marked {number : Int}
    (stripped : stripHexMarker (Coercion.dropMinus text) = some digits) :
    readSignedHex text = some number ↔ SignedFits number 256 ∧ WrittenSigned text number := by
  rcases Address.stripHexMarker_eq_some stripped with ⟨mark, dropped, rfl | rfl⟩
  · rw [readSignedHex_eq_some_iff (splitSign_of_dropMinus dropped), writtenSigned_of_lower dropped]
  · rw [readSignedHex_upper (splitSign_of_dropMinus dropped)]
    exact iff_of_false nofun fun written => not_writtenSigned_of_upper dropped written.2

theorem not_mem_of_written {sign : Char} (written : Written Denotes text number)
    (signs : sign = '+' ∨ sign = '-') : sign ∉ text := by
  cases written with
  | decimal own => rcases signs with rfl | rfl <;> exact own.2.not_mem (by decide) rfl
  | hexadecimal marker own =>
      rcases signs with rfl | rfl
      · have behind := own.2.not_mem (by decide) (rfl : isForeign 16 '+' = true)
        rcases marker with rfl | rfl <;> simpa using behind
      · have behind := own.2.not_mem (by decide) (rfl : isForeign 16 '-' = true)
        rcases marker with rfl | rfl <;> simpa using behind

theorem signed_written_iff {number : Int} (written : WrittenSigned text number) :
    Signed (Written Denotes) text number ↔ Plain (splitSign text).2 := by
  constructor
  · intro signed
    cases signed with
    | bare own =>
        rw [splitSign_of_unsigned (not_mem_of_written own (.inl rfl))
          (not_mem_of_written own (.inr rfl))]
        exact (written_denotes_iff.mp own).2
    | plus own => exact (written_denotes_iff.mp own).2
    | minus own => exact (written_denotes_iff.mp own).2
  · intro plain
    cases written with
    | decimal own =>
        cases own with
        | bare own =>
            rw [splitSign_of_unsigned (own.not_mem (by decide) (by decide) rfl)
              (own.not_mem (by decide) (by decide) rfl)] at plain
            exact .bare (written_denotes_iff.mpr ⟨.decimal own, plain⟩)
        | plus own => exact .plus (written_denotes_iff.mpr ⟨.decimal own, plain⟩)
        | minus own => exact .minus (written_denotes_iff.mpr ⟨.decimal own, plain⟩)
    | hexadecimal _ own =>
        exact .bare (written_denotes_iff.mpr ⟨.hexadecimal (.inl rfl) own, plain⟩)
    | negative _ own => exact .minus (written_denotes_iff.mpr ⟨.hexadecimal (.inl rfl) own, plain⟩)

end Numeral

/-! ## Readers of texts -/

theorem Coercion.unsigned_eq_ok_iff {text : String} {number : Nat} :
    unsigned (.string text) = .ok number ↔
      number < Width.limit 256 ∧ Numeral.Written Numeral.LooselyDenotes text.toList number := by
  rw [Numeral.written_iff fun _ _ own => own.unmarked, unsigned]
  cases stripHexMarker text.toList with
  | none =>
      simp only
      rw [← Numeral.readUnsigned_eq_some_iff (by decide)]
      cases Numeral.readUnsigned 10 text.toList <;> simp
  | some digits =>
      simp only
      rw [← Numeral.readUnsigned_eq_some_iff (by decide)]
      cases Numeral.readUnsigned 16 digits <;> simp

theorem Coercion.signed_eq_ok_iff {text : String} {number : Int} :
    signed (.string text) = .ok number ↔
      Numeral.SignedFits number 256 ∧ Numeral.WrittenSigned text.toList number := by
  rw [signed]
  cases stripped : stripHexMarker (dropMinus text.toList) with
  | none =>
      simp only
      rw [Numeral.writtenSigned_of_unmarked stripped, ← Numeral.readSignedDecimal_eq_some_iff]
      cases Numeral.readSignedDecimal text.toList <;> simp
  | some digits =>
      simp only
      rw [← Numeral.readSignedHex_of_marked stripped]
      cases Numeral.readSignedHex text.toList <;> simp

theorem AbiValue.ofJson_uint_text_iff {width : Nat} {components : List Parameter} {text : String}
    {number : Nat} :
    ofJson (.uint width) components (.string text) = .ok (.uint number width) ↔
      number < Width.limit width ∧ number < Width.limit 256 ∧
        Numeral.Written Numeral.LooselyDenotes text.toList number := by
  simp only [ofJson_uint_eq_ok_iff, Coercion.unsigned_eq_ok_iff, uint.injEq, and_true]
  constructor
  · intro read
    rcases read with ⟨_, ⟨bound, written⟩, fits, rfl⟩
    exact ⟨fits, bound, written⟩
  · intro written
    exact ⟨number, written.2, written.1, rfl⟩

theorem AbiValue.ofJson_int_text_iff {width : Nat} {components : List Parameter} {text : String}
    {number : Int} :
    ofJson (.int width) components (.string text) = .ok (.int number width) ↔
      Numeral.SignedFits number width ∧ Numeral.SignedFits number 256 ∧
        Numeral.WrittenSigned text.toList number := by
  simp only [ofJson_int_eq_ok_iff, Coercion.signed_eq_ok_iff, int.injEq, and_true]
  constructor
  · intro read
    rcases read with ⟨_, ⟨bound, written⟩, low, high, rfl⟩
    exact ⟨⟨low, high⟩, bound, written⟩
  · intro written
    exact ⟨number, written.2, written.1.1, written.1.2, rfl⟩

namespace BlockTag

theorem mem_of_ofWord? {word : List Char} {tag : BlockTag} (found : ofWord? word = some tag) :
    'e' ∈ word ∧ ∀ height, tag ≠ .number height := by
  simp only [ofWord?] at found
  repeat' split at found
  all_goals cases found
  all_goals
    next same =>
      rw [same]
      exact ⟨by decide, fun _ numbered => BlockTag.noConfusion numbered⟩

theorem ofWord?_of_written {text : List Char} {height : Nat}
    (written : Numeral.Written Numeral.DenotesBehindPlus text height) :
    ofWord? (Text.lowerAscii text) = none := by
  cases written with
  | decimal own =>
      rw [Option.eq_none_iff_forall_ne_some]
      intro tag found
      rcases List.mem_map.mp (mem_of_ofWord? found).1 with ⟨character, member, lowered⟩
      rcases own.cases_of_mem member with rfl | ⟨value, below, digit⟩
      · exact absurd lowered (by decide)
      · have other : ∀ value : Fin 10, 'e' ≠ Nat.digitChar value.val := by decide
        exact other ⟨value, below⟩ (lowered.symm.trans digit)
  | hexadecimal marker own =>
      rcases marker with rfl | rfl
      · exact ofWord?_of_marker rfl
      · exact ofWord?_of_marker rfl

end BlockTag

theorem BlockId.parse_eq_number_iff {input : String} {height : Nat} :
    parse input = .ok (.atTag (.number height)) ↔
      height < Width.limit 64 ∧
        Numeral.Written Numeral.DenotesBehindPlus (Text.trim input).toList height ∧
        ∀ digits, stripHexMarker (Text.trim input).toList = some digits → digits.length ≠ 64 := by
  have strict {base : Nat} {text : List Char} (small : base ≤ 16) :
      Numeral.read64 base text = some height ↔
        height < Width.limit 64 ∧ Numeral.DenotesBehindPlus base text height :=
    Numeral.readStrict_eq_some_iff small
  rw [parse]
  cases tagged : BlockTag.ofWord? (Text.lowerAscii (Text.trim input).toList) with
  | some tag =>
      have unwritten :
          ¬ Numeral.Written Numeral.DenotesBehindPlus (Text.trim input).toList height := by
        intro written
        cases (BlockTag.ofWord?_of_written written).symm.trans tagged
      simp [unwritten, (BlockTag.mem_of_ofWord? tagged).2]
  | none =>
      rw [Numeral.written_iff fun _ _ own => own.unmarked]
      cases stripped : stripHexMarker (Text.trim input).toList with
      | none =>
          simp only
          cases read : Numeral.read64 10 (Text.trim input).toList <;>
            simp [← strict, read]
      | some digits =>
          have count (denotes : Numeral.DenotesBehindPlus 16 digits height) :
              (Bytes.ofText (String.ofList digits)).length = digits.length := by
            rw [Bytes.ofText_ofList_of_ascii (denotes.ascii (by decide)), List.length_map]
          simp only [Option.some.injEq, forall_eq']
          split
          · next hash =>
              have unread : ¬ (height < Width.limit 64 ∧
                  Numeral.DenotesBehindPlus 16 digits height ∧ digits.length ≠ 64) := by
                intro written
                exact written.2.2 (count written.2.1 ▸ hash)
              cases FixedBytes.ofHex 32 (Text.trim input) <;> simp [unread]
          · next short =>
              have sized : height < Width.limit 64 ∧ Numeral.DenotesBehindPlus 16 digits height ∧
                  digits.length ≠ 64 ↔ Numeral.read64 16 digits = some height := by
                rw [strict (by decide), and_congr_right_iff, and_iff_left_iff_imp]
                intro _ denotes
                rwa [count denotes] at short
              rw [sized]
              cases Numeral.read64 16 digits <;> simp

theorem Quantity.parse_eq_ok_iff {input : String} {amount : Nat} :
    parse input = .ok amount ↔
      Text.trim input ≠ "" ∧ amount < Width.limit 256 ∧
        Numeral.WrittenAmount (Text.trim input).toList amount := by
  rw [parse]
  by_cases empty : Text.trim input = ""
  · simp [empty]
  · simp only [String.isEmpty_iff, empty, if_false, ne_eq, not_false_iff, true_and]
    cases stripped : stripHexMarker (Text.trim input).toList with
    | none =>
        simp only
        rw [← Numeral.readAnnounced_eq_some_iff stripped]
        cases Numeral.readAnnounced (Text.trim input).toList <;> simp
    | some digits =>
        simp only
        rw [Numeral.writtenAmount_of_marked stripped,
          ← Numeral.readUnsigned_eq_some_iff (by decide)]
        cases Numeral.readUnsigned 16 digits <;> simp

/-! ## All texts of numbers -/

namespace Numeral

/-- As which number a text is read, and whether it is a numeral of that number: decimal digits, or a
marker and hexadecimal digits, with at most one sign before them where the number is signed. Amounts
may be octal or binary; amounts and values of both kinds of integers may have underscores anywhere
and need no digits; heights of blocks may have a plus before their digits. All other texts that are
read are numerals. -/
theorem number_texts (text : String) :
    (∀ amount,
      (Quantity.parse text = .ok amount ↔ Text.trim text ≠ "" ∧ amount < Width.limit 256 ∧
        WrittenAmount (Text.trim text).toList amount) ∧
      (Quantity.parse text = .ok amount → (Written Denotes (Text.trim text).toList amount ↔
        Plain (Text.trim text).toList ∧ ¬ Announced (Text.trim text).toList))) ∧
    (∀ width components number,
      (AbiValue.ofJson (.uint width) components (.string text) = .ok (.uint number width) ↔
        number < Width.limit width ∧ number < Width.limit 256 ∧
          Written LooselyDenotes text.toList number) ∧
      (AbiValue.ofJson (.uint width) components (.string text) = .ok (.uint number width) →
        (Written Denotes text.toList number ↔ Plain text.toList))) ∧
    (∀ width components number,
      (AbiValue.ofJson (.int width) components (.string text) = .ok (.int number width) ↔
        SignedFits number width ∧ SignedFits number 256 ∧ WrittenSigned text.toList number) ∧
      (AbiValue.ofJson (.int width) components (.string text) = .ok (.int number width) →
        (Signed (Written Denotes) text.toList number ↔ Plain (splitSign text.toList).2))) ∧
    ∀ height,
      (BlockId.parse text = .ok (.atTag (.number height)) ↔ height < Width.limit 64 ∧
        Written DenotesBehindPlus (Text.trim text).toList height ∧
        ∀ digits, stripHexMarker (Text.trim text).toList = some digits → digits.length ≠ 64) ∧
      (BlockId.parse text = .ok (.atTag (.number height)) →
        (Written Denotes (Text.trim text).toList height ↔ '+' ∉ (Text.trim text).toList)) := by
  refine ⟨?_, ?_, ?_, ?_⟩
  · intro amount
    refine ⟨Quantity.parse_eq_ok_iff, ?_⟩
    intro read
    rw [written_denotes_iff_amount]
    exact and_iff_right (Quantity.parse_eq_ok_iff.mp read).2.2
  · intro width components number
    refine ⟨AbiValue.ofJson_uint_text_iff, ?_⟩
    intro read
    rw [written_denotes_iff]
    exact and_iff_right (AbiValue.ofJson_uint_text_iff.mp read).2.2
  · intro width components number
    refine ⟨AbiValue.ofJson_int_text_iff, ?_⟩
    intro read
    exact signed_written_iff (AbiValue.ofJson_int_text_iff.mp read).2.2
  · intro height
    refine ⟨BlockId.parse_eq_number_iff, ?_⟩
    intro read
    rw [written_denotes_iff_height]
    exact and_iff_right (BlockId.parse_eq_number_iff.mp read).2.1

theorem number_texts_negative :
    AbiValue.ofJson (.int 8) [] (.string "-7") = .ok (.int (-7) 8) ∧
      Signed (Written Denotes) "-7".toList (-7) := by
  rcases number_texts "-7" with ⟨_, _, values, _⟩
  have read : AbiValue.ofJson (.int 8) [] (.string "-7") = .ok (.int (-7) 8) := rfl
  exact ⟨read, ((values 8 [] (-7)).2 read).mpr ⟨by decide, by decide, by decide⟩⟩

/-- Texts that are no numerals and are read as numbers: of an amount in binary digits, of a value
without any digit, and of a height with a plus behind its marker. -/
theorem lenient_texts_read :
    (Quantity.parse "0b11" = .ok 3 ∧ ∀ number, ¬ Written Denotes "0b11".toList number) ∧
      (AbiValue.ofJson (.uint 256) [] (.string "") = .ok (.uint 0 256) ∧
        ∀ number, ¬ Written Denotes "".toList number) ∧
      BlockId.parse "0x+5" = .ok (.atTag (.number 5)) ∧
        ∀ number, ¬ Written Denotes "0x+5".toList number := by
  refine ⟨⟨rfl, ?_⟩, ⟨rfl, ?_⟩, by decide +kernel, ?_⟩
  · intro number written
    exact (written_denotes_iff_amount.mp written).2.2 ⟨'b', ['1', '1'], 2, rfl, rfl⟩
  · intro number written
    exact (written_denotes_iff.mp written).2.2.1 rfl
  · intro number written
    exact (written_denotes_iff_height.mp written).2 (by decide)

end Numeral

end ContractClient
