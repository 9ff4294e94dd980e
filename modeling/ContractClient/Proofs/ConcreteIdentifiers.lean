import ContractClient.Interface.Resolution
import ContractClient.Proofs.AddressTexts
import ContractClient.Proofs.ArgumentNames
import ContractClient.Proofs.RevertData

/-! Concrete identifiers. An entry of an interface is reached by its signature, however the
signature is spaced, and by its selector or topic, in digits of either case. -/

namespace ContractClient

/-! ## Spaced texts -/

namespace Text

/-- Spaces stand anywhere between the characters of a text. -/
inductive Spaced : List Char → List Char → Prop
  | nil : Spaced [] []
  | keep {text spaced : List Char} (character : Char) (rest : Spaced text spaced) :
      Spaced (character :: text) (character :: spaced)
  | space {text spaced : List Char} (rest : Spaced text spaced) : Spaced text (' ' :: spaced)

def Padded (text padded : String) : Prop :=
  ∃ before spaced after, padded.toList = before ++ (spaced ++ after) ∧
    Spaced text.toList spaced ∧ (∀ character ∈ before, isBlank character = true) ∧
    ∀ character ∈ after, isBlank character = true

section Spaced

variable {text spaced before after : List Char}

theorem Spaced.refl (text : List Char) : Spaced text text := by
  induction text with
  | nil => exact .nil
  | cons character rest induction => exact .keep character induction

theorem Spaced.append {other otherSpaced : List Char} (first : Spaced text spaced)
    (second : Spaced other otherSpaced) : Spaced (text ++ other) (spaced ++ otherSpaced) := by
  induction first with
  | nil => exact second
  | keep character _ induction => exact .keep character induction
  | space _ induction => exact .space induction

theorem Spaced.reverse (padded : Spaced text spaced) : Spaced text.reverse spaced.reverse := by
  induction padded with
  | nil => exact .nil
  | keep character _ induction =>
      rw [List.reverse_cons, List.reverse_cons]
      exact induction.append (.keep character .nil)
  | @space text spaced _ induction =>
      rw [List.reverse_cons, ← List.append_nil text.reverse]
      exact induction.append (.space .nil)

theorem Spaced.filter_eq (padded : Spaced text spaced) :
    (spaced.filter fun character => character ≠ ' ') =
      text.filter fun character => character ≠ ' ' := by
  induction padded with
  | nil => rfl
  | keep character _ induction => simp only [List.filter_cons, induction]
  | space _ induction => simpa using induction

theorem Spaced.mem {character : Char} (padded : Spaced text spaced) (member : character ∈ text) :
    character ∈ spaced := by
  induction padded with
  | nil => cases member
  | keep first _ induction =>
      rcases List.mem_cons.mp member with rfl | member
      · exact .head _
      · exact .tail _ (induction member)
  | space _ induction => exact .tail _ (induction member)

theorem Spaced.dropBlanks {first : Char} (padded : Spaced (first :: text) spaced)
    (printed : isBlank first = false) (blank : ∀ character ∈ before, isBlank character = true)
    (after : List Char) :
    ∃ kept, Spaced (first :: text) kept ∧
      Text.dropBlanks (before ++ (spaced ++ after)) = kept ++ after := by
  rw [Text.dropBlanks, List.dropWhile_append_of_pos blank]
  generalize whole : first :: text = characters at padded
  induction padded with
  | nil => cases whole
  | keep character rest =>
      cases whole
      refine ⟨_, .keep first rest, ?_⟩
      rw [List.cons_append, List.dropWhile_cons_of_neg (by simp [printed])]
  | space _ induction =>
      rw [List.cons_append, List.dropWhile_cons_of_pos (by decide)]
      exact induction whole

end Spaced

theorem Padded.trim {text padded : String} {first last : Char} {front rest : List Char}
    (around : Padded text padded) (begins : text.toList = first :: rest)
    (ends : text.toList = front ++ [last]) (firstPrinted : isBlank first = false)
    (lastPrinted : isBlank last = false) : Spaced text.toList (trim padded).toList := by
  rcases around with ⟨before, spaced, after, whole, inner, blankBefore, blankAfter⟩
  rw [begins] at inner
  rcases inner.dropBlanks firstPrinted blankBefore after with ⟨left, keptLeft, dropped⟩
  have backwards := keptLeft.reverse
  rw [← begins, ends, List.reverse_append, List.reverse_singleton, List.singleton_append]
    at backwards
  have blankReverse : ∀ character ∈ after.reverse, isBlank character = true := by
    simpa using blankAfter
  rcases backwards.dropBlanks lastPrinted blankReverse [] with ⟨right, keptRight, droppedRight⟩
  have trimmed : (Text.trim padded).toList = right.reverse := by
    rw [Text.trim, String.toList_ofList, trimBlanks, whole, dropped, List.reverse_append,
      ← List.append_nil left.reverse, droppedRight, List.append_nil]
  have forwards := keptRight.reverse
  rwa [← trimmed, List.reverse_cons, List.reverse_reverse, ← ends] at forwards

end Text

/-! ## Digits in either case -/

namespace Hex

/-- A marker and the digits of a byte string, in either case. -/
def Spells (text : String) (bytes : Bytes) : Prop :=
  ∃ digits, text.toList = '0' :: 'x' :: digits ∧ digits.map Char.toLower = encode bytes

theorem ascii_of_toLower {character : Char} (lowered : character.toLower.toNat < 128) :
    character.toNat < 128 := by
  unfold Char.toLower at lowered
  split at lowered
  · next upper =>
      have bound : character.toNat ≤ 90 := UInt32.le_iff_toNat_le.mp upper.2
      omega
  · exact lowered

theorem valueOf_toLower {character : Char} (ascii : character.toNat < 128) :
    valueOf character.toLower = valueOf character := by
  have every : ∀ character : Char, character.toNat < 128 →
      valueOf character.toLower = valueOf character := Text.forall_ascii (by decide)
  exact every character ascii

section Spells

variable {digits : List Char} {bytes : Bytes} (lowered : digits.map Char.toLower = encode bytes)

include lowered

theorem ascii_of_lowered : ∀ character ∈ digits, character.toNat < 128 := by
  intro character member
  apply ascii_of_toLower
  apply encode_ascii bytes
  rw [← lowered]
  exact List.mem_map_of_mem member

theorem halves_of_lowered : digits.map valueOf = halves bytes := by
  rw [← map_valueOf_encode, ← lowered, List.map_map, List.map_congr_left]
  intro character member
  exact (valueOf_toLower (ascii_of_lowered lowered character member)).symm

theorem length_of_lowered : digits.length = 2 * bytes.length := by
  rw [← length_encode, ← lowered, List.length_map]

theorem printed_of_lowered : ∀ character ∈ digits, Text.isBlank character = false := by
  intro character member
  have every : ∀ character : Char, character.toNat < 128 →
      Text.isBlank character.toLower = Text.isBlank character := Text.forall_ascii (by decide)
  rw [← every character (ascii_of_lowered lowered character member)]
  apply encode_printed bytes
  rw [← lowered]
  exact List.mem_map_of_mem member

end Spells

end Hex

namespace FixedBytes

theorem ofHex_of_spells {size : Nat} {fixed : FixedBytes size} {text : String}
    (spells : Hex.Spells text fixed.bytes) : ofHex size text = .ok fixed := by
  rcases spells with ⟨digits, marked, lowered⟩
  have codes : Bytes.ofText text = 48 :: 120 :: digits.map Char.toUInt8 := by
    rw [← String.ofList_toList (s := text), marked, Bytes.ofText_ofList_of_ascii]
    · rfl
    · simp only [List.forall_mem_cons]
      exact ⟨by decide, by decide, Hex.ascii_of_lowered lowered⟩
  have count : (digits.map Char.toUInt8).length = 2 * size := by
    rw [List.length_map, Hex.length_of_lowered lowered, fixed.length_bytes]
  have decoded : Hex.decodePairs 0 (digits.map Char.toUInt8) = .ok fixed.bytes := by
    apply Hex.decodePairs_of_halves
    rw [List.map_map]
    exact Hex.halves_of_lowered lowered
  have even : ¬ (48 :: 120 :: digits.map Char.toUInt8).length % 2 = 1 := by
    simp only [List.length_cons, count]
    omega
  have enough : (digits.map Char.toUInt8).length / 2 = size := by
    rw [count]
    omega
  simp only [ofHex, codes, if_neg even, Hex.dropMarker, if_pos enough, decoded]
  rw [ofBytes?, dif_pos fixed.length_bytes]

theorem not_mem_of_ofHex {size : Nat} {fixed : FixedBytes size} {text : String}
    (read : ofHex size text = .ok fixed) : '(' ∉ text.toList := by
  intro member
  have code : 40 ∈ Bytes.ofText text := by
    rw [Bytes.ofText_eq_flatMap]
    exact List.mem_flatMap.mpr ⟨'(', member, by decide⟩
  have behind : 40 ∈ Hex.dropMarker (Bytes.ofText text) := by
    generalize Bytes.ofText text = codes at code
    rw [Hex.dropMarker.eq_def]
    split <;> simpa using code
  have unread := List.mem_map_of_mem (f := Hex.digitValue?) behind
  rw [spelled_of_ofHex read, Hex.halves, List.mem_flatMap] at unread
  rcases unread with ⟨byte, _, none⟩
  simp [Hex.digitValue?] at none

end FixedBytes

/-! ## Reading identifiers -/

namespace Identifier

theorem parse_of_parenthesis {text : String} (member : '(' ∈ (Text.trim text).toList) :
    parse text = .signature
      (String.ofList ((Text.trim text).toList.filter fun character => character ≠ ' ')) := by
  have undigested (size : Nat) : ∃ reason,
      FixedBytes.ofHex size (Text.trim text) = .error reason := by
    cases read : FixedBytes.ofHex size (Text.trim text) with
    | error reason => exact ⟨reason, rfl⟩
    | ok fixed => exact absurd member (FixedBytes.not_mem_of_ofHex read)
  rcases undigested 4 with ⟨short, notSelector⟩
  rcases undigested 32 with ⟨long, notTopic⟩
  have parenthesis : (Text.trim text).toList.contains '(' = true := by simpa using member
  simp only [parse, notSelector, notTopic, parenthesis, ite_true, ite_self]
  split
  · next identifier concrete =>
      split at concrete <;> cases concrete
  · rfl

theorem parse_of_padded {signature text : String} {first last : Char} {front rest : List Char}
    (padded : Text.Padded signature text) (begins : signature.toList = first :: rest)
    (ends : signature.toList = front ++ [last]) (firstPrinted : Text.isBlank first = false)
    (lastPrinted : Text.isBlank last = false) (parenthesis : '(' ∈ signature.toList)
    (spaceless : ' ' ∉ signature.toList) : parse text = .signature signature := by
  have trimmed := padded.trim begins ends firstPrinted lastPrinted
  have kept : (signature.toList.filter fun character => character ≠ ' ') = signature.toList := by
    rw [List.filter_eq_self]
    intro character member
    have different : character ≠ ' ' := fun same => spaceless (same ▸ member)
    simpa using different
  rw [parse_of_parenthesis (trimmed.mem parenthesis), trimmed.filter_eq, kept,
    String.ofList_toList]

section Spells

variable {text : String}

theorem trim_of_spells {bytes : Bytes} (spells : Hex.Spells text bytes) :
    Text.trim text = text := by
  rcases spells with ⟨digits, marked, lowered⟩
  apply Text.trim_of_no_blank
  rw [marked]
  simp only [List.forall_mem_cons]
  exact ⟨by decide, by decide, Hex.printed_of_lowered lowered⟩

theorem count_of_spells {bytes : Bytes} (spells : Hex.Spells text bytes) :
    ∃ digits, stripHexMarker text.toList = some digits ∧
      (Bytes.ofText (String.ofList digits)).length = 2 * bytes.length := by
  rcases spells with ⟨digits, marked, lowered⟩
  refine ⟨digits, by rw [marked, stripHexMarker], ?_⟩
  rw [Bytes.ofText_ofList_of_ascii (Hex.ascii_of_lowered lowered), List.length_map,
    Hex.length_of_lowered lowered]

theorem parse_of_selector {selector : Selector} (spells : Hex.Spells text selector.bytes) :
    parse text = .selector selector := by
  rcases count_of_spells spells with ⟨digits, stripped, count⟩
  rw [selector.length_bytes] at count
  simp only [parse, trim_of_spells spells, stripped, count, FixedBytes.ofHex_of_spells spells,
    Nat.reduceMul, ite_true]

theorem parse_of_topic {topic : Word} (spells : Hex.Spells text topic.bytes) :
    parse text = .topic topic := by
  rcases count_of_spells spells with ⟨digits, stripped, count⟩
  rw [topic.length_bytes] at count
  simp only [parse, trim_of_spells spells, stripped, count, FixedBytes.ofHex_of_spells spells,
    Nat.reduceMul, Nat.reduceEqDiff, ite_true, ite_false]

end Spells

end Identifier

/-! ## Signatures -/

theorem TypeText.ascii_of_continuesName {character : Char}
    (continues : continuesName character = true) : character.toNat < 128 := by
  unfold continuesName startsName Char.isAlpha Char.isUpper Char.isLower Char.isDigit at continues
  simp only [Bool.or_eq_true, Bool.and_eq_true, decide_eq_true_eq, UInt32.le_iff_toNat_le]
    at continues
  rcases continues with ((rfl | rfl) | ⟨_, high⟩ | ⟨_, high⟩) | ⟨_, high⟩
  · decide
  · decide
  all_goals exact Nat.lt_of_le_of_lt high (by decide)

namespace Parameter

theorem printed_of_isValidName {name : String} (valid : isValidName name = true) :
    ∀ character ∈ name.toList, Text.isBlank character = false := by
  have every : ∀ character : Char, character.toNat < 128 →
      TypeText.continuesName character = true → Text.isBlank character = false :=
    Text.forall_ascii (by decide)
  have continues : ∀ character ∈ name.toList, TypeText.continuesName character = true := by
    rw [isValidName, Bool.or_eq_true, String.isEmpty_iff] at valid
    rcases valid with rfl | named
    · simp
    · cases characters : name.toList with
      | nil => simp
      | cons first rest =>
          rw [characters, TypeText.isName, Bool.and_eq_true] at named
          rw [List.forall_mem_cons]
          exact ⟨by rw [TypeText.continuesName, named.1, Bool.true_or],
            List.all_eq_true.mp named.2⟩
  intro character member
  have own := continues character member
  exact every character (TypeText.ascii_of_continuesName own) own

inductive Spaceless : Parameter → Prop
  | intro {parameter : Parameter} (type : ' ' ∉ parameter.type.toList)
      (components : ∀ component ∈ parameter.components, component.Spaceless) :
      Spaceless parameter

theorem not_mem_joinSignatureTypes {parameters : List Parameter}
    (each : ∀ parameter ∈ parameters, ' ' ∉ parameter.signatureType.toList) :
    ' ' ∉ (joinSignatureTypes parameters).toList := by
  induction parameters with
  | nil => simp [joinSignatureTypes]
  | cons parameter rest induction =>
      rw [List.forall_mem_cons] at each
      cases rest with
      | nil => exact each.1
      | cons next others =>
          have behind := induction each.2
          simp only [joinSignatureTypes, String.toList_append, List.mem_append, not_or]
          exact ⟨⟨each.1, by decide⟩, behind⟩

theorem Spaceless.not_mem_signatureType {parameter : Parameter} (spaceless : parameter.Spaceless) :
    ' ' ∉ parameter.signatureType.toList := by
  induction spaceless with
  | @intro parameter type _ each =>
      rcases parameter with ⟨name, text, internalType, components⟩
      cases components with
      | nil => exact type
      | cons first rest =>
          have inner := not_mem_joinSignatureTypes each
          simp only [signatureType, String.toList_append, List.mem_append, not_or]
          refine ⟨⟨⟨by decide, inner⟩, by decide⟩, ?_⟩
          split
          · next behind word =>
              change ' ' ∉ text.toList at type
              rw [word] at type
              rw [String.toList_ofList]
              exact fun member => type (by simp [member])
          · decide

theorem toList_signature (name : String) (parameters : List Parameter) :
    (signature name parameters).toList =
      name.toList ++ '(' :: ((joinSignatureTypes parameters).toList ++ [')']) := by
  simp [signature]

end Parameter

theorem Identifier.parse_signature {name text : String} {parameters : List Parameter}
    (valid : Parameter.isValidName name = true)
    (spaceless : ∀ parameter ∈ parameters, parameter.Spaceless)
    (padded : Text.Padded (Parameter.signature name parameters) text) :
    parse text = .signature (Parameter.signature name parameters) := by
  have shape := Parameter.toList_signature name parameters
  have printed := Parameter.printed_of_isValidName valid
  have parenthesis : '(' ∈ (Parameter.signature name parameters).toList := by
    rw [shape]
    simp
  have unspaced : ' ' ∉ (Parameter.signature name parameters).toList := by
    have types := Parameter.not_mem_joinSignatureTypes fun parameter member =>
      (spaceless parameter member).not_mem_signatureType
    rw [shape]
    simp only [List.mem_append, List.mem_cons, List.not_mem_nil, not_or, or_false]
    refine ⟨fun member => ?_, by decide, types, by decide⟩
    cases printed _ member
  have ends : (Parameter.signature name parameters).toList =
      (name.toList ++ '(' :: (Parameter.joinSignatureTypes parameters).toList) ++ [')'] := by
    rw [shape]
    simp
  cases characters : name.toList with
  | nil =>
      rw [characters] at shape
      exact parse_of_padded padded shape ends rfl rfl parenthesis unspaced
  | cons first rest =>
      rw [characters] at shape printed
      exact parse_of_padded padded shape ends (printed first (.head _)) rfl parenthesis unspaced

/-! ## Interfaces -/

namespace Interface

variable {interface extended : Interface}

/-- Functions and events are named by identifiers, or not named at all. -/
structure HasValidNames (interface : Interface) : Prop where
  functions : ∀ function ∈ interface.functions, Parameter.isValidName function.name = true
  events : ∀ event ∈ interface.events, Parameter.isValidName event.name = true

theorem hasValidNames_of_ofJson? {document : Json} (read : ofJson? document = some interface) :
    interface.HasValidNames :=
  ⟨forall_mem_functions_of_ofJson? (fun _ named => named) read,
    forall_mem_events_of_ofJson? (fun _ named _ => named) read⟩

end Interface

/-- An interface as its reader makes it: what it declares is validly named. -/
structure NamedInterface extends Interface where
  named : toInterface.HasValidNames

namespace NamedInterface

def ofJson? (document : Json) : Option NamedInterface :=
  match read : Interface.ofJson? document with
  | none => none
  | some interface => some ⟨interface, Interface.hasValidNames_of_ofJson? read⟩

/-- Every interface that is read is a named one. -/
theorem map_ofJson? (document : Json) :
    (ofJson? document).map toInterface = Interface.ofJson? document := by
  unfold ofJson?
  split
  · next missing => exact missing.symm
  · next interface read => exact read.symm

end NamedInterface

namespace Interface

variable {interface : Interface}

structure Spaceless (interface : Interface) : Prop where
  functions : ∀ function ∈ interface.functions, ∀ parameter ∈ function.inputs, parameter.Spaceless
  events : ∀ event ∈ interface.events, ∀ parameter ∈ event.inputs,
    parameter.toParameter.Spaceless

/-- A selector tells functions of different signature apart, and a topic the events that have
one. -/
structure Discerning (interface : Interface) : Prop where
  selectors : ∀ first ∈ interface.functions, ∀ second ∈ interface.functions,
    first.selector = second.selector → first.signature = second.signature
  topics : ∀ first ∈ interface.events, ∀ second ∈ interface.events, first.anonymous = false →
    second.anonymous = false → first.selector = second.selector →
      first.signature = second.signature

theorem find?_of_mem {entries : List α} {entry : α} (test : α → Bool) (member : entry ∈ entries)
    (passes : test entry = true) :
    ∃ found ∈ entries, entries.find? test = some found ∧ test found = true := by
  cases sought : entries.find? test with
  | none => exact absurd passes (List.find?_eq_none.mp sought entry member)
  | some found =>
      exact ⟨found, List.mem_of_find?_eq_some sought, rfl, List.find?_some sought⟩

section Lookups

variable {function : FunctionEntry} {event : EventEntry}

/-- The function has the signature of the one that is meant, and the identifier is resolved to it
for all arguments. -/
def ReachesFunction (interface : Interface) (identifier : Identifier) (signature : String) :
    Prop :=
  ∃ entry, entry.signature = signature ∧ ∀ positional keywords,
    interface.resolveFunction identifier positional keywords = .ok entry

def ReachesEvent (interface : Interface) (identifier : Identifier) (signature : String) : Prop :=
  ∃ entry, entry.signature = signature ∧ interface.resolveEvent identifier = .ok entry

theorem reachesFunction_signature (member : function ∈ interface.functions) :
    interface.ReachesFunction (.signature function.signature) function.signature := by
  rcases find?_of_mem (fun entry => entry.signature == function.signature) member
    (beq_self_eq_true _) with ⟨entry, _, found, same⟩
  refine ⟨entry, eq_of_beq same, fun positional keywords => ?_⟩
  simp only [resolveFunction, functionBySignature, found]

theorem reachesFunction_selector (discerning : interface.Discerning)
    (member : function ∈ interface.functions) :
    interface.ReachesFunction (.selector function.selector) function.signature := by
  rcases find?_of_mem (fun entry => entry.selector == function.selector) member
    (beq_self_eq_true _) with ⟨entry, declared, found, same⟩
  refine ⟨entry, discerning.selectors entry declared function member (eq_of_beq same),
    fun positional keywords => ?_⟩
  simp only [resolveFunction, functionBySelector, found]

theorem reachesEvent_signature (member : event ∈ interface.events) :
    interface.ReachesEvent (.signature event.signature) event.signature := by
  rcases find?_of_mem (fun entry => entry.signature == event.signature) member
    (beq_self_eq_true _) with ⟨entry, _, found, same⟩
  refine ⟨entry, eq_of_beq same, ?_⟩
  simp only [resolveEvent, eventBySignature, found]

theorem reachesEvent_topic (discerning : interface.Discerning)
    (member : event ∈ interface.events) (disclosed : event.anonymous = false) :
    interface.ReachesEvent (.topic event.selector) event.signature := by
  rcases find?_of_mem (fun entry => !entry.anonymous && entry.selector == event.selector)
    member (by simp [disclosed]) with ⟨entry, declared, found, same⟩
  rw [Bool.and_eq_true, Bool.not_eq_true', beq_iff_eq] at same
  refine ⟨entry, discerning.topics entry declared event member same.1 disclosed same.2, ?_⟩
  simp only [resolveEvent, eventByTopic, found]

end Lookups

/-- Every function is reached by its signature, with spaces in it and blanks around it, and by
its selector, in digits of either case; and every event by its signature and, unless it is
anonymous, by its topic. The entry that is reached has the signature of the one that is meant,
whatever the arguments are. -/
theorem concretely_reachable (interface : NamedInterface) (spaceless : interface.Spaceless)
    (discerning : interface.Discerning) :
    (∀ function ∈ interface.functions, ∀ text,
      Text.Padded function.signature text ∨ Hex.Spells text function.selector.bytes →
        (Identifier.parse text).isConcrete = true ∧
          interface.ReachesFunction (Identifier.parse text) function.signature) ∧
    ∀ event ∈ interface.events, ∀ text,
      Text.Padded event.signature text ∨
          event.anonymous = false ∧ Hex.Spells text event.selector.bytes →
        (Identifier.parse text).isConcrete = true ∧
          interface.ReachesEvent (Identifier.parse text) event.signature := by
  constructor
  · intro function member text written
    rcases written with padded | spells
    · have read : Identifier.parse text = .signature function.signature :=
        Identifier.parse_signature (interface.named.functions function member)
          (spaceless.functions function member) padded
      rw [read]
      exact ⟨rfl, reachesFunction_signature member⟩
    · rw [Identifier.parse_of_selector spells]
      exact ⟨rfl, reachesFunction_selector discerning member⟩
  · intro event member text written
    rcases written with padded | ⟨disclosed, spells⟩
    · have types : ∀ parameter ∈ event.inputs.map EventParameter.toParameter,
          parameter.Spaceless := by
        simpa using spaceless.events event member
      have read : Identifier.parse text = .signature event.signature :=
        Identifier.parse_signature (interface.named.events event member) types padded
      rw [read]
      exact ⟨rfl, reachesEvent_signature member⟩
    · rw [Identifier.parse_of_topic spells]
      exact ⟨rfl, reachesEvent_topic discerning member disclosed⟩

def transfer : FunctionEntry :=
  ⟨"transfer", [⟨"to", "address", none, []⟩, ⟨"amount", "uint256", none, []⟩], [], .nonpayable⟩

def transferAll : FunctionEntry :=
  ⟨"transfer", [⟨"to", "address", none, []⟩], [], .nonpayable⟩

def ledger : NamedInterface :=
  { empty with
    functions := [transferAll, transfer]
    events := [⟨"Transfer", [⟨⟨"to", "address", none, []⟩, true⟩], false⟩]
    named := ⟨by decide, by decide⟩ }

theorem concretely_reachable_transfer :
    ledger.ReachesFunction (Identifier.parse " transfer(address, uint256)\n")
        "transfer(address,uint256)" ∧
      ledger.ReachesFunction (Identifier.parse "0xA9059cbb") "transfer(address,uint256)" := by
  have plain (name type : String) (unspaced : ' ' ∉ type.toList) :
      Parameter.Spaceless ⟨name, type, none, []⟩ := .intro unspaced (by simp)
  have spaceless : ledger.Spaceless := by
    constructor
    · simp only [ledger, transferAll, transfer, List.forall_mem_cons, List.not_mem_nil,
        false_implies, implies_true, and_true]
      exact ⟨plain _ _ (by decide), plain _ _ (by decide), plain _ _ (by decide)⟩
    · simp only [ledger, List.forall_mem_cons, List.not_mem_nil, false_implies, implies_true,
        and_true]
      exact plain _ _ (by decide)
  have selector : transfer.selector.bytes = [0xa9, 0x05, 0x9c, 0xbb] := by decide +kernel
  have other : transferAll.selector.bytes = [0x1a, 0x69, 0x52, 0x30] := by decide +kernel
  have different : transferAll.selector ≠ transfer.selector := by
    intro same
    rw [same, selector] at other
    cases other
  have discerning : ledger.Discerning := by
    constructor
    · simp [ledger, different, different.symm]
    · simp [ledger]
  have reachable := (concretely_reachable ledger spaceless discerning).1 transfer
    (.tail _ (.head _))
  have padded : Text.Padded transfer.signature " transfer(address, uint256)\n" :=
    ⟨[' '], "transfer(address, uint256)".toList, ['\n'], rfl,
      (Text.Spaced.refl "transfer(address,".toList).append
        (.space (Text.Spaced.refl "uint256)".toList)), by simp [Text.isBlank],
      by simp [Text.isBlank]⟩
  have spells : Hex.Spells "0xA9059cbb" transfer.selector.bytes :=
    ⟨"A9059cbb".toList, rfl, by rw [selector]; decide⟩
  exact ⟨(reachable _ (.inl padded)).2, (reachable _ (.inr spells)).2⟩

end Interface

end ContractClient
