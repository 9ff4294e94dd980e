import ContractClient.Offchain.Lookup
import ContractClient.Proofs.HexText
import ContractClient.Proofs.JsonTexts

/-! Data of failed calls. A node may report the data as bare hexadecimal digits with blanks
around them. These are no JSON value, whatever the blanks are, and trimming leaves the digits. -/

namespace ContractClient

/-! ## Blanks around a text -/

namespace Text

section Trimming

variable {before text after : List Char}

theorem dropBlanks_of_printed (blank : ∀ character ∈ before, isBlank character = true)
    (begins : ∀ character ∈ text.head?, isBlank character = false) (nonempty : text ≠ []) :
    dropBlanks (before ++ (text ++ after)) = text ++ after := by
  rw [dropBlanks, List.dropWhile_append_of_pos blank]
  rcases text with _ | ⟨first, rest⟩
  · exact absurd rfl nonempty
  · rw [List.cons_append, List.dropWhile_cons_of_neg (by simp [begins first rfl])]

theorem trimBlanks_of_printed (blankBefore : ∀ character ∈ before, isBlank character = true)
    (begins : ∀ character ∈ text.head?, isBlank character = false)
    (ends : ∀ character ∈ text.getLast?, isBlank character = false) (nonempty : text ≠ [])
    (blankAfter : ∀ character ∈ after, isBlank character = true) :
    trimBlanks (before ++ (text ++ after)) = text := by
  have front : dropBlanks (before ++ (text ++ after)) = text ++ after :=
    dropBlanks_of_printed blankBefore begins nonempty
  have back : dropBlanks (after.reverse ++ (text.reverse ++ [])) = text.reverse ++ [] :=
    dropBlanks_of_printed (by simpa using blankAfter) (by simpa using ends) (by simpa)
  rw [List.append_nil] at back
  rw [trimBlanks, front, List.reverse_append, back, List.reverse_reverse]

theorem trim_of_printed {text : String}
    (begins : ∀ character ∈ text.toList.head?, isBlank character = false)
    (ends : ∀ character ∈ text.toList.getLast?, isBlank character = false) : trim text = text := by
  by_cases empty : text.toList = []
  · rw [String.toList_eq_nil_iff.mp empty]
    rfl
  · have inner : trimBlanks ([] ++ (text.toList ++ [])) = text.toList :=
      trimBlanks_of_printed (by simp) begins ends empty (by simp)
    rw [List.nil_append, List.append_nil] at inner
    rw [trim, inner, String.ofList_toList]

theorem trim_of_no_blank {text : String}
    (printed : ∀ character ∈ text.toList, isBlank character = false) : trim text = text :=
  trim_of_printed (fun character first => printed character (List.mem_of_mem_head? first))
    fun character last => printed character (List.mem_of_mem_getLast? last)

theorem isBlank_of_isDigit {character : Char} (digit : character.isDigit = true) :
    isBlank character = false := by
  have range := Numeral.code_of_isDigit digit
  rw [← Bool.not_eq_true]
  intro blank
  simp only [isBlank, Bool.or_eq_true, Bool.and_eq_true, decide_eq_true_eq, beq_iff_eq] at blank
  omega

end Trimming

end Text

/-! ## Bare digits -/

theorem Hex.encode_printed (bytes : Bytes) :
    ∀ character ∈ encode bytes, Text.isBlank character = false := by
  have every : ∀ value : Fin 16, Text.isBlank (digit value.val) = false := by decide
  intro character member
  rcases exists_digit_of_mem_encode member with ⟨value, small, rfl⟩
  exact every ⟨value, small⟩

theorem Bytes.toHex_printed (bytes : Bytes) :
    ∀ character ∈ bytes.toHex.toList, Text.isBlank character = false := by
  intro character member
  rw [toList_toHex] at member
  simp only [List.mem_cons] at member
  rcases member with rfl | rfl | member
  · decide
  · decide
  · exact Hex.encode_printed bytes character member

namespace Json

theorem parse?_of_marked {before : List Char} (rest : List Char)
    (blank : ∀ character ∈ before, Text.isBlank character = true) :
    parse? (String.ofList (before ++ '0' :: 'x' :: rest)) = none := by
  have read : readValue maxDepth (before ++ '0' :: 'x' :: rest) = none ∨
      readValue maxDepth (before ++ '0' :: 'x' :: rest) =
        some (.number (.natural 0), 'x' :: rest) := by
    induction before with
    | nil => exact .inr rfl
    | cons first others induction =>
        by_cases skipped : isBlank first = true
        · have behind : readValue maxDepth (first :: (others ++ '0' :: 'x' :: rest)) =
              readValue maxDepth (others ++ '0' :: 'x' :: rest) := by
            rw [readValue, skipBlanks, List.dropWhile_cons_of_pos skipped, readValue, skipBlanks]
          rw [List.cons_append, behind]
          exact induction fun character inside => blank character (List.mem_cons_of_mem _ inside)
        · have other := blank first List.mem_cons_self
          have digit : first.isDigit = false := by
            rw [← Bool.not_eq_true]
            intro digit
            exact Bool.noConfusion (other.symm.trans (Text.isBlank_of_isDigit digit))
          have foreign : first ∉ ['n', 't', 'f', '"', '[', '{', '-'] := by
            have printed : ∀ first ∈ ['n', 't', 'f', '"', '[', '{', '-'],
                Text.isBlank first = false := by simp [Text.isBlank]
            exact fun begins => Bool.noConfusion (other.symm.trans (printed first begins))
          exact .inl (readValue_foreign maxDepth _ (by simpa using skipped) digit foreign)
  rw [parse?, String.toList_ofList]
  rcases read with none | number
  · rw [none]
  · rw [number]
    rfl

end Json

namespace OffchainLookup

theorem reportedData?_of_surrounded {before after : List Char} (data : Bytes)
    (blankBefore : ∀ character ∈ before, Text.isBlank character = true)
    (blankAfter : ∀ character ∈ after, Text.isBlank character = true) :
    reportedData? (String.ofList (before ++ (data.toHex.toList ++ after))) = some data := by
  have unparsed : Json.parse? (String.ofList (before ++ (data.toHex.toList ++ after))) = none := by
    rw [toList_toHex]
    exact Json.parse?_of_marked _ blankBefore
  have trimmed : Text.trim (String.ofList (before ++ (data.toHex.toList ++ after))) =
      data.toHex := by
    have printed := Bytes.toHex_printed data
    rw [Text.trim, String.toList_ofList, Text.trimBlanks_of_printed blankBefore
      (fun character first => printed character (List.mem_of_mem_head? first))
      (fun character last => printed character (List.mem_of_mem_getLast? last))
      (by simp [toList_toHex]) blankAfter, String.ofList_toList]
  simp only [reportedData?, unparsed, trimmed, Bytes.ofHex?_toHex]
  rfl

theorem reportedData?_toHex (data : Bytes) : reportedData? data.toHex = some data := by
  have bare : reportedData? (String.ofList ([] ++ (data.toHex.toList ++ []))) = some data :=
    reportedData?_of_surrounded data (by simp) (by simp)
  rwa [List.nil_append, List.append_nil, String.ofList_toList] at bare

theorem ofError?_toHex (code : Int) (reason : String) (data : Bytes) :
    ofError? (.rpc code reason (some data.toHex)) = decode? data := by
  rw [ofError?, reportedData?_toHex, Option.bind_some]

end OffchainLookup

end ContractClient
