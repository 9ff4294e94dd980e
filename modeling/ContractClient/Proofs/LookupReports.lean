import ContractClient.Proofs.AbiRoundTrip
import ContractClient.Proofs.RevertData

/-! Reports of offchain lookups. A node may hand out the data of a failed call as bare digits,
as a JSON string, or as such a string inside of objects; the lookup is found in each of them,
and in no error that does not hold one. -/

namespace ContractClient

/-! ## Lookups as data -/

namespace OffchainLookup

theorem textsOf?_map_string (texts : List String) :
    textsOf? (texts.map .string) = some texts := by
  induction texts with
  | nil => rfl
  | cons first rest induction => rw [List.map_cons, textsOf?, induction, Option.map_some]

theorem ofBytesPadded_ofBytesPadded (selector : Selector) :
    FixedBytes.ofBytesPadded 4 (FixedBytes.ofBytesPadded 32 selector.bytes).bytes = selector := by
  rcases selector with ⟨bytes, count⟩
  have taken : ((bytes ++ List.replicate 32 0).take 32 ++ List.replicate 4 0).take 4 = bytes := by
    simp [List.take_append, List.take_of_length_le, count]
  simp only [FixedBytes.ofBytesPadded, taken]

theorem ofValues?_values (lookup : OffchainLookup) : ofValues? lookup.values = some lookup := by
  simp only [values, ofValues?, textsOf?_map_string, Option.map_some, ofBytesPadded_ofBytesPadded]

theorem hasType_values (lookup : OffchainLookup) :
    List.Forall₂ AbiValue.HasType lookup.values types := by
  have callback : (FixedBytes.ofBytesPadded 32 lookup.callbackFunction.bytes).bytes.drop 4 =
      List.replicate (32 - 4) 0 := by
    have padded := AbiValue.drop_ofBytesPadded lookup.callbackFunction.bytes
    rwa [lookup.callbackFunction.length_bytes] at padded
  have urls : ∀ value ∈ lookup.urls.map AbiValue.string, AbiValue.HasType value .string := by
    intro value member
    rcases List.mem_map.mp member with ⟨url, _, rfl⟩
    exact .string
  exact .cons .address (.cons (.array urls) (.cons .bytes (.cons (.fixedBytes callback)
    (.cons .bytes .nil))))

theorem mostWindows_values (lookup : OffchainLookup) :
    AbiValue.mostWindows lookup.values ≤ AbiDecoding.maxDepth := by
  have flat : AbiValue.mostWindows (lookup.urls.map .string) ≤ 1 := by
    induction lookup.urls with
    | nil => simp [AbiValue.mostWindows]
    | cons first rest induction =>
        simp only [List.map_cons, AbiValue.mostWindows, AbiValue.windows]
        omega
  simp only [values, AbiValue.mostWindows, AbiValue.windows, AbiDecoding.maxDepth]
  omega

theorem decode?_encode {lookup : OffchainLookup}
    (small : (AbiValue.encodeSequence lookup.values).length < Width.limit 64) :
    decode? lookup.encode = some lookup := by
  have admitted : ∀ type ∈ types, type.Admitted := by
    simp only [types, List.forall_mem_cons]
    exact ⟨.address, .array .string, .bytes, .fixedBytes (by decide) (by decide), .bytes, by simp⟩
  have solid : ∀ type ∈ types, type.Solid := by
    simp only [types, List.forall_mem_cons]
    exact ⟨.word rfl, .array .string, .bytes, .word rfl, .bytes, by simp⟩
  have read := AbiValue.decodeSequence_encodeSequence lookup.hasType_values admitted solid small
    lookup.mostWindows_values
  have behind : lookup.encode.drop 4 = AbiValue.encodeSequence lookup.values := by
    rw [encode, List.drop_left' selector.length_bytes]
  rw [decode?, behind, read]
  simp only [ofValues?_values, Option.bind_some, if_pos]

theorem eq_encode_of_decode? {data : Bytes} {lookup : OffchainLookup}
    (read : decode? data = some lookup) : data = lookup.encode := by
  simp only [decode?] at read
  split at read
  · cases read
  · rcases Option.bind_eq_some_iff.mp read with ⟨found, _, checked⟩
    split at checked
    · next same =>
        cases checked
        exact same.symm
    · cases checked

/-! ## Values that hold data -/

/-- The value is a JSON string, or it is an object in which such a value stands under the name
`data`. -/
inductive Conveys (text : String) : Json → Prop
  | string : Conveys text (.string text)
  | member {members : List (String × Json)} {inner : Json}
      (held : Json.lookup "data" members = some inner) (conveys : Conveys text inner) :
      Conveys text (.object members)

theorem memberRevertData?_eq (members : List (String × Json)) :
    memberRevertData? members = (Json.lookup "data" members).bind revertData? := by
  induction members with
  | nil => rfl
  | cons member rest induction =>
      rcases member with ⟨name, value⟩
      by_cases own : name = "data"
      · rw [memberRevertData?, if_pos own, Json.lookup, if_pos own.symm, Option.bind_some]
      · rw [memberRevertData?, if_neg own, Json.lookup, if_neg (Ne.symm own), induction]

theorem Conveys.revertData? {data : Bytes} {value : Json} (conveys : Conveys data.toHex value) :
    revertData? value = some data := by
  induction conveys with
  | string =>
      rw [OffchainLookup.revertData?, Bytes.ofHex?_toHex]
      rfl
  | member held _ induction =>
      rw [OffchainLookup.revertData?, memberRevertData?_eq, held, Option.bind_some, induction]

theorem reportedData?_of_conveys {data : Bytes} {text : String} {value : Json}
    (read : Json.parse? text = some value) (conveys : Conveys data.toHex value) :
    reportedData? text = some data := by
  have found := conveys.revertData?
  cases conveys with
  | string =>
      simp only [reportedData?, read]
      exact found
  | member held inner =>
      simp only [reportedData?, read]
      exact found

/-! ## Writing and reading again -/

theorem trim_toText {value : Json} (unquoted : value.asText? = none)
    (bare : value.asMembers? = none) : Text.trim value.toText = value.toText := by
  cases value with
  | null =>
      apply Text.trim_of_printed <;>
        simp [Json.toText, Json.write, Text.isBlank]
  | boolean flag =>
      cases flag <;> apply Text.trim_of_printed <;>
        simp [Json.toText, Json.write, Text.isBlank]
  | number number =>
      apply Text.trim_of_no_blank
      intro character inside
      rw [Json.toText, String.toList_ofList, Json.write] at inside
      rcases Number.isWritten_toText number character inside with digit | symbol
      · exact Text.isBlank_of_isDigit digit
      · have printed : ∀ symbol ∈ ['-', '+', '.', 'e'], Text.isBlank symbol = false := by
          simp [Text.isBlank]
        exact printed character symbol
  | string text => cases unquoted
  | array items =>
      have written : (Json.array items).toText.toList = ['['] ++ Json.writeItems items ++ [']'] :=
        String.toList_ofList
      apply Text.trim_of_printed
      · rw [written, List.append_assoc, List.singleton_append, List.head?_cons]
        simp [Text.isBlank]
      · rw [written, List.getLast?_concat]
        simp [Text.isBlank]
  | object members => cases bare

theorem reportedData?_toText {value : Json} (read : Json.parse? value.toText = some value) :
    reportedData? value.toText = revertData? value := by
  cases value with
  | string text => simp only [reportedData?, read]
  | object members => simp only [reportedData?, read]
  | null | boolean | number | array =>
      simp only [reportedData?, read, revertData?]
      rw [trim_toText rfl rfl]

theorem reportedData?_unwrap {text : String} {members : List (String × Json)} {inner : Json}
    (read : Json.parse? text = some (.object members))
    (held : Json.lookup "data" members = some inner)
    (binaries : inner.Within (fun number => number.toInt? = none → number.ReadsBack)
      Json.maxDepth) :
    reportedData? text = reportedData? inner.toText := by
  have within : inner.Within Number.Readable (Json.maxDepth - 1) := by
    cases Json.within_of_parse? read with
    | object _ each => exact each _ (Json.mem_of_lookup held)
  have readsBack : inner.Within Number.ReadsBack Json.maxDepth :=
    (within.and binaries).imp (by decide) fun _ found => found.1.readsBack found.2
  rw [reportedData?_toText (Json.parse?_toText readsBack)]
  simp only [reportedData?, read, revertData?, memberRevertData?_eq, held, Option.bind_some]

/-! ## Errors -/

def carried? : TransportError → Option Bytes
  | .rpc _ _ (some text) => reportedData? text
  | _ => none

theorem ofError?_eq_bind (error : TransportError) :
    ofError? error = (carried? error).bind decode? := by
  cases error with
  | rpc code reason data => cases data <;> rfl
  | http | timeout | cancelled | deserialization => rfl

/-- Whatever else the node says, the lookup is found in an error with the text. -/
def IsReport (lookup : OffchainLookup) (text : String) : Prop :=
  ∀ code reason, ofError? (.rpc code reason (some text)) = some lookup

theorem isReport_of_reportedData? {lookup : OffchainLookup} {text : String}
    (inverts : decode? lookup.encode = some lookup)
    (reported : reportedData? text = some lookup.encode) : IsReport lookup text := by
  intro code reason
  rw [ofError?, reported, Option.bind_some, inverts]

theorem ofError?_of_foreign {error : TransportError}
    (foreign : ∀ data, carried? error = some data → ¬ selector.bytes <+: data) :
    ofError? error = none := by
  rw [ofError?_eq_bind, Option.bind_eq_none_iff]
  intro data carried
  cases read : decode? data with
  | none => rfl
  | some lookup =>
      have begins : selector.bytes <+: data := by
        rw [eq_encode_of_decode? read, encode]
        exact List.prefix_append _ _
      exact absurd begins (foreign data carried)

/-- A lookup is found wherever a node puts its data: in bare digits with any blanks around them,
in any JSON text of a string of them or of objects that hold such a string under the name
`data`, however many and whatever else they hold, and in the text that is written for such a
value, as deep as the reader goes. An object is read like the text of what it holds under that
name. An error that carries no data, or data that does not begin with the selector, holds no
lookup. -/
theorem found_in_reports {lookup : OffchainLookup}
    (inverts : decode? lookup.encode = some lookup) :
    (∀ before after, (∀ character ∈ before, Text.isBlank character = true) →
      (∀ character ∈ after, Text.isBlank character = true) →
      IsReport lookup (String.ofList (before ++ (lookup.encode.toHex.toList ++ after)))) ∧
    (∀ text value, Json.parse? text = some value → Conveys lookup.encode.toHex value →
      IsReport lookup text) ∧
    (∀ value : Json, value.Within Number.ReadsBack Json.maxDepth →
      Conveys lookup.encode.toHex value → IsReport lookup value.toText) ∧
    (∀ text members inner, Json.parse? text = some (.object members) →
      Json.lookup "data" members = some inner →
      inner.Within (fun number => number.toInt? = none → number.ReadsBack) Json.maxDepth →
      reportedData? text = reportedData? inner.toText) ∧
    (∀ error, (∀ data, carried? error = some data → ¬ selector.bytes <+: data) →
      ofError? error = none) := by
  have parsed (text : String) (value : Json) (read : Json.parse? text = some value)
      (conveys : Conveys lookup.encode.toHex value) : IsReport lookup text :=
    isReport_of_reportedData? inverts (reportedData?_of_conveys read conveys)
  refine ⟨?_, parsed, ?_, fun text members inner => reportedData?_unwrap,
    fun error => ofError?_of_foreign⟩
  · intro before after blankBefore blankAfter
    exact isReport_of_reportedData? inverts
      (reportedData?_of_surrounded lookup.encode blankBefore blankAfter)
  · intro value within conveys
    exact parsed value.toText value (Json.parse?_toText within) conveys

def quoteLookup : OffchainLookup :=
  ⟨FixedBytes.ofNat 20 7, ["https://quotes.example"], [1], FixedBytes.ofNat 4 9, [2]⟩

def nestedReport : Json :=
  .object [("code", .natural 3),
    ("data", .object [("data", .string quoteLookup.encode.toHex), ("reason", .null)])]

theorem found_in_reports_nested :
    IsReport quoteLookup nestedReport.toText ∧ ofError? (.timeout 30000) = none := by
  have inverts : decode? quoteLookup.encode = some quoteLookup :=
    decode?_encode (by decide +kernel)
  have within : nestedReport.Within Number.ReadsBack Json.maxDepth := by
    have inner : Json.Within Number.ReadsBack 1 (.object
        [("data", .string quoteLookup.encode.toHex), ("reason", .null)]) := by
      refine .object (by decide) ?_
      simp only [List.forall_mem_cons]
      exact ⟨.string _, .null, by simp⟩
    refine .object (by decide) ?_
    simp only [List.forall_mem_cons]
    exact ⟨.number (Number.natural_readsBack (by decide)),
      inner.imp (by decide) fun _ reads => reads, by simp⟩
  have conveys : Conveys quoteLookup.encode.toHex nestedReport :=
    .member rfl (.member rfl .string)
  rcases found_in_reports inverts with ⟨_, _, written, _, foreign⟩
  refine ⟨written nestedReport within conveys, foreign (.timeout 30000) ?_⟩
  intro data carried
  cases carried

end OffchainLookup

end ContractClient
