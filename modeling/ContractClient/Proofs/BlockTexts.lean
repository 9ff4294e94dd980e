import ContractClient.Proofs.Members
import ContractClient.Proofs.NumeralTexts
import ContractClient.Proofs.RevertData

/-! References to blocks and their texts. What a request says of a block is read back as that
block, in any case and with blanks around it, and so is everything that is read once it is
written again. Heights may also be given in decimal digits. -/

namespace ContractClient

/-! ## Texts in any case -/

namespace Text

/-- The text is the other one in any case and with blanks around it. -/
def Respells (other text : String) : Prop :=
  ∃ before core after, text.toList = before ++ (core ++ after) ∧
    (∀ character ∈ before, isBlank character = true) ∧
    (∀ character ∈ after, isBlank character = true) ∧
    lowerAscii core = lowerAscii other.toList

theorem respells_self (text : String) : Respells text text :=
  ⟨[], text.toList, [], by simp, by simp, by simp, rfl⟩

def Printed (text : List Char) : Prop :=
  ∀ character ∈ text, character.toNat < 128 ∧ isBlank character = false

theorem printed_of_all {text : List Char}
    (all : (text.all fun character => character.toNat < 128 && !isBlank character) = true) :
    Printed text := by
  simpa [Printed] using all

theorem Printed.of_lowered {text other : List Char} (printed : Printed other)
    (lowered : lowerAscii text = lowerAscii other) : Printed text := by
  have every : ∀ character : Char, character.toNat < 128 → character.toLower.toNat < 128 ∧
      isBlank character.toLower = isBlank character := forall_ascii (by decide)
  intro character member
  have inside : character.toLower ∈ lowerAscii other := by
    rw [← lowered]
    exact List.mem_map_of_mem member
  rcases List.mem_map.mp inside with ⟨original, found, same⟩
  rcases printed original found with ⟨ascii, unblank⟩
  have ownAscii : character.toNat < 128 := by
    apply Hex.ascii_of_toLower
    rw [← same]
    exact (every original ascii).1
  refine ⟨ownAscii, ?_⟩
  rw [← (every character ownAscii).2, ← same, (every original ascii).2, unblank]

theorem Printed.marked {digits : String} (printed : Printed digits.toList) :
    Printed ("0x" ++ digits).toList := by
  rw [toList_lower, Printed, List.forall_mem_cons, List.forall_mem_cons]
  exact ⟨by decide, by decide, printed⟩

theorem Printed.trim_eq {text : String} (printed : Printed text.toList) : trim text = text :=
  trim_of_no_blank fun character member => (printed character member).2

theorem Respells.lowerAscii_trim {other text : String} (respells : Respells other text)
    (printed : Printed other.toList) (filled : other.toList ≠ []) :
    lowerAscii (trim text).toList = lowerAscii other.toList := by
  rcases respells with ⟨before, core, after, whole, blankBefore, blankAfter, lowered⟩
  have ownPrinted := printed.of_lowered lowered
  have ownFilled : core ≠ [] := by
    intro empty
    rw [empty] at lowered
    exact filled (List.map_eq_nil_iff.mp lowered.symm)
  rw [trim, String.toList_ofList, whole, trimBlanks_of_printed blankBefore
    (fun character first => (ownPrinted character (List.mem_of_mem_head? first)).2)
    (fun character last => (ownPrinted character (List.mem_of_mem_getLast? last)).2) ownFilled
    blankAfter, lowered]

theorem stripHexMarker_of_lowered {text rest : List Char}
    (lowered : lowerAscii text = '0' :: 'x' :: rest) :
    ∃ digits, stripHexMarker text = some digits ∧ lowerAscii digits = rest := by
  have every : ∀ character : Char, character.toNat < 128 →
      (character.toLower = '0' → character = '0') ∧
        (character.toLower = 'x' → character = 'x' ∨ character = 'X') := forall_ascii (by decide)
  rcases List.map_eq_cons_iff.mp lowered with ⟨zero, _, rfl, isZero, others⟩
  rcases List.map_eq_cons_iff.mp others with ⟨mark, digits, rfl, isMark, same⟩
  have zeroAscii : zero.toNat < 128 := Hex.ascii_of_toLower (by rw [isZero]; decide)
  have markAscii : mark.toNat < 128 := Hex.ascii_of_toLower (by rw [isMark]; decide)
  rcases (every zero zeroAscii).1 isZero with rfl
  rcases (every mark markAscii).2 isMark with rfl | rfl
  · exact ⟨digits, rfl, same⟩
  · exact ⟨digits, rfl, same⟩

end Text

/-! ## Digits of heights -/

namespace Numeral

variable {base : Nat}

theorem Spells.printed {text : List Char} {number : Nat} (small : base ≤ 16)
    (spelled : Spells base text number) : Text.Printed text := by
  have every : ∀ value : Fin 16, Text.isBlank (Nat.digitChar value.val) = false := by decide
  have lowered : ∀ character : Char, character.toNat < 128 →
      Text.isBlank character.toLower = Text.isBlank character := Text.forall_ascii (by decide)
  intro character member
  rcases spelled.exists_isDigit member with ⟨value, digit⟩
  have below := digit.1
  refine ⟨digit.ascii small, ?_⟩
  rw [← lowered character (digit.ascii small), digit.2]
  exact every ⟨value, by omega⟩

end Numeral

theorem Hex.lowerAscii_encode (bytes : Bytes) :
    Text.lowerAscii (encode bytes) = encode bytes := by
  have every : ∀ value : Fin 16, (digit value.val).toLower = digit value.val := by decide
  have same : ∀ character ∈ encode bytes, character.toLower = id character := by
    intro character member
    rcases exists_digit_of_mem_encode member with ⟨value, small, rfl⟩
    exact every ⟨value, small⟩
  rw [Text.lowerAscii, List.map_congr_left same, List.map_id]

/-! ## References to blocks -/

namespace BlockId

/-- Heights are numbers of 64 bits. -/
def Representable : BlockId → Prop
  | .atTag (.number height) => height < Width.limit 64
  | _ => True

/-- The text of a block in the parameters of a request. That of a hash is a member of an object. -/
def textOf? : Json → Option String
  | .string text => some text
  | .object members =>
      match Json.lookup "blockHash" members with
      | some (.string text) => some text
      | _ => none
  | _ => none

def rendered : BlockId → String
  | .atTag tag => tag.toText
  | .atHash hash => hash.toHex

theorem textOf?_toJson (block : BlockId) : textOf? block.toJson = some block.rendered := by
  cases block with
  | atTag tag => rfl
  | atHash hash => rfl

theorem printed_rendered (block : BlockId) : Text.Printed block.rendered.toList := by
  cases block with
  | atHash hash =>
      apply Text.Printed.marked
      rw [String.toList_ofList]
      exact fun character member =>
        ⟨Hex.encode_ascii _ character member, Hex.encode_printed _ character member⟩
  | atTag tag =>
      cases tag with
      | number height =>
          apply Text.Printed.marked
          rw [Numeral.toHexDigits, String.toList_ofList]
          exact (Numeral.spells_toDigits (by decide) (by decide) height).printed (by decide)
      | _ => exact Text.printed_of_all (by decide)

theorem rendered_ne_nil (block : BlockId) : block.rendered.toList ≠ [] := by
  have marked (digits : String) : ("0x" ++ digits).toList ≠ [] := by
    rw [Text.toList_lower]
    exact List.cons_ne_nil _ _
  cases block with
  | atHash hash => exact marked _
  | atTag tag =>
      cases tag with
      | number height => exact marked _
      | _ => decide

theorem parse_of_hexadecimal {input : String} {digits : List Char} {height : Nat}
    (bound : height < Width.limit 64)
    (stripped : stripHexMarker (Text.trim input).toList = some digits)
    (denotes : Numeral.Denotes 16 digits height) (short : digits.length ≠ 64) :
    parse input = .ok (.atTag (.number height)) := by
  rw [parse_eq_number_iff, Numeral.written_iff fun _ _ own => own.unmarked, stripped]
  refine ⟨bound, ⟨digits, .inl rfl, denotes⟩, ?_⟩
  intro others same
  cases same
  exact short

theorem parse_of_hash {input : String} {digits : List Char} {hash : Word}
    (stripped : stripHexMarker (Text.trim input).toList = some digits)
    (lowered : digits.map Char.toLower = Hex.encode hash.bytes) :
    parse input = .ok (.atHash hash) := by
  have spells : Hex.Spells ("0x" ++ String.ofList digits) hash.bytes :=
    ⟨digits, by rw [Text.toList_lower, String.toList_ofList], lowered⟩
  have count : (Bytes.ofText (String.ofList digits)).length = 64 := by
    rw [Bytes.ofText_ofList_of_ascii (Hex.ascii_of_lowered lowered), List.length_map,
      Hex.length_of_lowered lowered, hash.length_bytes]
  simp only [parse, BlockTag.ofWord?_of_marker stripped, stripped, if_pos count,
    FixedBytes.ofHex_of_marker stripped, FixedBytes.ofHex_of_spells spells]

theorem parse_of_lowered {block : BlockId} {text : String} (representable : block.Representable)
    (lowered : Text.lowerAscii (Text.trim text).toList = Text.lowerAscii block.rendered.toList) :
    parse text = .ok block := by
  cases block with
  | atHash hash =>
      have written : Text.lowerAscii (BlockId.atHash hash).rendered.toList =
          '0' :: 'x' :: Text.lowerAscii (Hex.encode hash.bytes) := by
        rw [rendered, FixedBytes.toHex, toList_toHex]
        rfl
      rcases Text.stripHexMarker_of_lowered (lowered.trans written) with ⟨digits, stripped, same⟩
      exact parse_of_hash stripped (same.trans (Hex.lowerAscii_encode _))
  | atTag tag =>
      cases tag with
      | number height =>
          have written : Text.lowerAscii (BlockId.atTag (.number height)).rendered.toList =
              '0' :: 'x' :: Text.lowerAscii (Nat.toDigits 16 height) := by
            rw [rendered, BlockTag.toText, Numeral.toQuantity, Text.toList_lower,
              Numeral.toHexDigits, String.toList_ofList]
            rfl
          rcases Text.stripHexMarker_of_lowered (lowered.trans written) with
            ⟨digits, stripped, same⟩
          have count : digits.length = (Nat.toDigits 16 height).length := by
            have lengths := congrArg List.length same
            rwa [Text.lowerAscii, Text.lowerAscii, List.length_map, List.length_map] at lengths
          have small : (Nat.toDigits 16 height).length ≤ 16 :=
            (Nat.length_toDigits_le_iff (by decide) (by decide)).mpr representable
          have spelled : Numeral.Spells 16 digits height :=
            (Numeral.spells_toDigits (by decide) (by decide) height).of_lowered same
          have filled : digits ≠ [] := by
            rw [← List.length_pos_iff, count]
            exact Nat.length_toDigits_pos
          exact parse_of_hexadecimal representable stripped ⟨filled, spelled⟩ (by omega)
      | _ =>
          rw [parse, lowered]
          rfl

theorem representable_of_parse {text : String} {block : BlockId} (read : parse text = .ok block) :
    block.Representable := by
  cases block with
  | atHash hash => trivial
  | atTag tag =>
      cases tag with
      | number height => exact (parse_eq_number_iff.mp read).1
      | _ => trivial

theorem parse_of_decimal {text : String} {height : Nat} (bound : height < Width.limit 64)
    (denotes : Numeral.Denotes 10 text.toList height) :
    parse text = .ok (.atTag (.number height)) := by
  have trimmed : Text.trim text = text := (denotes.2.printed (by decide)).trim_eq
  have behind : Numeral.DenotesBehindPlus 10 text.toList height := ⟨text.toList, .inl rfl, denotes⟩
  rw [parse_eq_number_iff, trimmed, behind.unmarked]
  exact ⟨bound, .decimal behind, nofun⟩

/-- Every tag, every height of 64 bits and every hash is read back from the text that requests have
for it, in any case and with blanks around it. Decimal digits of a height and hexadecimal ones are
read as one block, unless the latter are as many as those of a hash. What is read from any text is
read again from the text that requests have for it. -/
theorem texts_round_trip :
    (∀ block, Representable block → ∃ rendered, textOf? block.toJson = some rendered ∧
      ∀ text, Text.Respells rendered text → parse text = .ok block) ∧
    (∀ height decimal hexadecimal, height < Width.limit 64 →
      Numeral.Denotes 10 decimal.toList height → Numeral.Denotes 16 hexadecimal.toList height →
      hexadecimal.length ≠ 64 →
      parse decimal = .ok (.atTag (.number height)) ∧
        parse ("0x" ++ hexadecimal) = .ok (.atTag (.number height))) ∧
    ∀ text block, parse text = .ok block → Representable block ∧
      ∃ rendered, textOf? block.toJson = some rendered ∧ parse rendered = .ok block := by
  have back (block : BlockId) (representable : Representable block) {text : String}
      (respells : Text.Respells block.rendered text) : parse text = .ok block := by
    exact parse_of_lowered representable
      (respells.lowerAscii_trim (printed_rendered block) (rendered_ne_nil block))
  refine ⟨?_, ?_, ?_⟩
  · intro block representable
    exact ⟨block.rendered, textOf?_toJson block, fun text => back block representable⟩
  · intro height decimal hexadecimal bound decimals hexadecimals short
    have printed := (hexadecimals.2.printed (by decide)).marked
    have stripped :
        stripHexMarker (Text.trim ("0x" ++ hexadecimal)).toList = some hexadecimal.toList := by
      rw [printed.trim_eq, stripHexMarker_lower]
    exact ⟨parse_of_decimal bound decimals,
      parse_of_hexadecimal bound stripped hexadecimals (by rwa [String.length_toList])⟩
  · intro text block read
    have representable := representable_of_parse read
    exact ⟨representable, block.rendered, textOf?_toJson block,
      back block representable (Text.respells_self _)⟩

theorem texts_round_trip_seven :
    parse " LATEST" = .ok latest ∧ parse "007" = .ok (.atTag (.number 7)) ∧
      parse ("0x" ++ "7") = .ok (.atTag (.number 7)) := by
  rcases texts_round_trip with ⟨blocks, heights, _⟩
  have respells : Text.Respells "latest" " LATEST" :=
    ⟨[' '], "LATEST".toList, [], rfl, List.forall_mem_singleton.mpr rfl, List.forall_mem_nil _, rfl⟩
  have decimal : Numeral.Denotes 10 "007".toList 7 :=
    ⟨by decide, [0, 0, 7], .cons ⟨by decide, rfl⟩ (.cons ⟨by decide, rfl⟩
      (.cons ⟨by decide, rfl⟩ .nil)), rfl⟩
  have hexadecimal : Numeral.Denotes 16 "7".toList 7 :=
    ⟨by decide, [7], .cons ⟨by decide, rfl⟩ .nil, rfl⟩
  rcases blocks latest trivial with ⟨rendered, same, back⟩
  cases same
  exact ⟨back _ respells, heights 7 "007" "7" (by decide) decimal hexadecimal (by decide)⟩

end BlockId

end ContractClient
