import ContractClient.Interface.Reader
import ContractClient.Proofs.HexText
import ContractClient.Proofs.LogDecoding
import ContractClient.Proofs.Numerals

/-! Names of decoded arguments. An argument is filed under the name of its parameter, or under
its position if the parameter has no name. The names in interfaces do not begin with a digit, so
that only parameters which share a name can be filed under the same one. -/

namespace ContractClient

/-! ## Positions are no names -/

theorem TypeText.startsName_of_isDigit {character : Char} (digit : character.isDigit = true) :
    startsName character = false := by
  have checked : ∀ character : Char, character.toNat < 128 → character.isDigit = true →
      startsName character = false := Text.forall_ascii (by decide)
  have range := Numeral.code_of_isDigit digit
  exact checked character (by omega) digit

theorem Parameter.isValidName_toString (number : Nat) : isValidName (toString number) = false := by
  have digits := Numeral.isDigit_toDigits number
  rw [← Numeral.toList_toString] at digits
  rw [isValidName]
  rcases text : (toString number).toList with _ | ⟨first, rest⟩
  · rw [Numeral.toList_toString] at text
    exact absurd text Nat.toDigits_ne_nil
  · rw [text] at digits
    have some : (toString number).isEmpty = false := by
      rw [← Bool.not_eq_true, String.isEmpty_iff]
      intro none
      rw [none] at text
      cases text
    rw [some, TypeText.isName, TypeText.startsName_of_isDigit (digits first (by simp))]
    rfl

namespace EventEntry

variable {parameters : List EventParameter} {position : Nat}

/-- No two parameters share a name. Any number of them may be without one. -/
def DifferentlyNamed (parameters : List EventParameter) : Prop :=
  parameters.Pairwise fun first second => first.name = second.name → first.name = ""

theorem differentlyNamed_cons_iff {parameter : EventParameter} :
    DifferentlyNamed (parameter :: parameters) ↔
      (∀ other ∈ parameters, parameter.name = other.name → parameter.name = "") ∧
        DifferentlyNamed parameters :=
  List.pairwise_cons

/-- The names of the parameters are such as may stand in an interface. -/
def ValidlyNamed (parameters : List EventParameter) : Prop :=
  ∀ parameter ∈ parameters, Parameter.isValidName parameter.name = true

instance (parameters : List EventParameter) : Decidable (ValidlyNamed parameters) :=
  inferInstanceAs (Decidable (∀ parameter ∈ parameters, _ = true))

theorem argumentNames_eq_mapIdx (parameters : List EventParameter) (position : Nat) :
    argumentNames position parameters =
      parameters.mapIdx fun index parameter => argumentName (position + index) parameter := by
  induction parameters generalizing position with
  | nil => rfl
  | cons parameter rest induction =>
      rw [argumentNames, List.mapIdx_cons, induction]
      simp [Nat.add_assoc, Nat.add_comm 1]

theorem argumentName_of_name {parameter : EventParameter} (named : parameter.name ≠ "") :
    argumentName position parameter = parameter.name := by
  rw [argumentName, if_neg (by simpa using named)]

theorem argumentName_of_no_name {parameter : EventParameter} (unnamed : parameter.name = "") :
    argumentName position parameter = toString position := by
  rw [argumentName, if_pos (by simpa using unnamed)]

theorem mem_argumentNames_iff {name : String} (valid : Parameter.isValidName name = true)
    (some : name ≠ "") :
    name ∈ argumentNames position parameters ↔ ∃ parameter ∈ parameters, parameter.name = name := by
  induction parameters generalizing position with
  | nil => simp [argumentNames]
  | cons parameter rest induction =>
      rw [argumentNames, List.mem_cons, induction]
      have here : name = argumentName position parameter ↔ parameter.name = name := by
        by_cases named : parameter.name = ""
        · rw [argumentName_of_no_name named, named]
          apply iff_of_false
          · intro same
            rw [same, Parameter.isValidName_toString] at valid
            cases valid
          · exact some.symm
        · rw [argumentName_of_name named, eq_comm]
      simp [here]

theorem toString_not_mem_argumentNames {earlier : Nat} (valid : ValidlyNamed parameters)
    (behind : earlier < position) : toString earlier ∉ argumentNames position parameters := by
  induction parameters generalizing position with
  | nil => simp [argumentNames]
  | cons parameter rest induction =>
      have parts := List.forall_mem_cons.mp valid
      rw [argumentNames, List.mem_cons, not_or]
      refine ⟨?_, induction parts.2 (Nat.lt_succ_of_lt behind)⟩
      intro same
      by_cases named : parameter.name = ""
      · rw [argumentName_of_no_name named] at same
        exact absurd (Numeral.toString_injective same) (Nat.ne_of_lt behind)
      · rw [argumentName_of_name named] at same
        have valid := parts.1
        rw [← same, Parameter.isValidName_toString] at valid
        cases valid

theorem nodup_argumentNames_iff (valid : ValidlyNamed parameters) :
    (argumentNames position parameters).Nodup ↔ DifferentlyNamed parameters := by
  induction parameters generalizing position with
  | nil => simp [argumentNames, DifferentlyNamed]
  | cons parameter rest induction =>
      have parts := List.forall_mem_cons.mp valid
      rw [argumentNames, List.nodup_cons, induction parts.2, differentlyNamed_cons_iff]
      apply and_congr_left
      intro _
      by_cases named : parameter.name = ""
      · rw [argumentName_of_no_name named]
        apply iff_of_true
        · exact toString_not_mem_argumentNames parts.2 (Nat.lt_succ_self position)
        · exact fun _ _ _ => named
      · rw [argumentName_of_name named, mem_argumentNames_iff parts.1 named]
        simp [named, eq_comm]

end EventEntry

/-! ## Names of events that are read -/

theorem Parameter.isValidName_of_readMembers {depth : Nat} {members : List (String × Json)}
    {parameter : Parameter} {mark : Option Bool}
    (read : readMembers depth members = some (parameter, mark)) :
    isValidName parameter.name = true := by
  cases depth with
  | zero => cases read
  | succ depth =>
      simp only [readMembers, Option.bind_eq_bind, Option.bind_eq_some_iff] at read
      rcases read with ⟨name, _, type, _, indexed, _, internalType, _, items, _, components, _, read⟩
      split at read
      · next valid =>
          cases read
          exact (Bool.and_eq_true_iff.mp valid).1
      · cases read

theorem EventParameter.isValidName_of_ofJson? {value : Json} {parameter : EventParameter}
    (read : ofJson? value = some parameter) : Parameter.isValidName parameter.name = true := by
  simp only [ofJson?, Option.bind_eq_bind, Option.bind_eq_some_iff, Option.some.injEq] at read
  rcases read with ⟨members, _, ⟨plain, mark⟩, read, rfl⟩
  exact Parameter.isValidName_of_readMembers read

namespace Interface

variable {interface extended : Interface}

theorem forall_mem_insertByName_iff {nameOf : α → String} {entry : α} {entries : List α}
    {property : α → Prop} :
    (∀ other ∈ insertByName nameOf entry entries, property other) ↔
      property entry ∧ ∀ other ∈ entries, property other := by
  induction entries with
  | nil => simp [insertByName]
  | cons first rest induction =>
      rw [insertByName]
      split
      · simp
      · rw [List.forall_mem_cons, induction, List.forall_mem_cons]
        exact and_left_comm

theorem isValidName_of_readName? {members : List (String × Json)} {name : String}
    (read : readName? members = some name) : Parameter.isValidName name = true := by
  simp only [readName?, Option.bind_eq_bind, Option.bind_eq_some_iff] at read
  rcases read with ⟨text, _, read⟩
  split at read
  · next valid =>
      cases read
      exact valid
  · cases read

theorem entries_of_added {value : Json} (added : addEntry? interface value = some extended) :
    (extended.functions = interface.functions ∧ extended.events = interface.events) ∨
    (∃ function : FunctionEntry, Parameter.isValidName function.name = true ∧
      extended.functions = insertByName FunctionEntry.name function interface.functions ∧
      extended.events = interface.events) ∨
    ∃ event : EventEntry, Parameter.isValidName event.name = true ∧
      EventEntry.ValidlyNamed event.inputs ∧ extended.functions = interface.functions ∧
      extended.events = insertByName EventEntry.name event interface.events := by
  simp only [Option.bind_eq_bind, addEntry?, Option.bind_eq_some_iff] at added
  rcases added with ⟨members, _, kind, _, added⟩
  split at added
  · simp only [Option.bind_eq_some_iff] at added
    rcases added with ⟨inputs, _, mutability, _, added⟩
    split at added <;> cases added
    exact .inl ⟨rfl, rfl⟩
  · simp only [Option.bind_eq_some_iff] at added
    rcases added with ⟨mutability, _, added⟩
    split at added <;> cases added
    exact .inl ⟨rfl, rfl⟩
  · simp only [Option.bind_eq_some_iff] at added
    rcases added with ⟨mutability, _, added⟩
    split at added <;> cases added
    exact .inl ⟨rfl, rfl⟩
  · simp only [Option.bind_eq_some_iff] at added
    rcases added with ⟨name, named, inputs, _, outputs, _, mutability, _, added⟩
    cases added
    exact .inr (.inl ⟨_, isValidName_of_readName? named, rfl, rfl⟩)
  · simp only [Option.bind_eq_some_iff] at added
    rcases added with ⟨name, named, items, _, inputs, read, anonymous, _, added⟩
    cases added
    refine .inr (.inr ⟨_, isValidName_of_readName? named, ?_, rfl, rfl⟩)
    intro parameter member
    rcases Traversal.exists_of_mem_right (Traversal.mapM_eq_some_iff.mp read) member with
      ⟨item, _, found⟩
    exact EventParameter.isValidName_of_ofJson? found
  · simp only [Option.bind_eq_some_iff] at added
    rcases added with ⟨name, _, inputs, _, added⟩
    cases added
    exact .inl ⟨rfl, rfl⟩
  · cases added

/-- What holds of no entries, and is kept by every entry that is added, holds of every interface
that is read. -/
theorem holds_of_ofJson? {document : Json} {property : Interface → Prop}
    (start : property empty)
    (kept : ∀ interface value extended, property interface →
      addEntry? interface value = some extended → property extended)
    (read : ofJson? document = some interface) : property interface := by
  simp only [ofJson?, Option.bind_eq_bind, Option.bind_eq_some_iff] at read
  rcases read with ⟨items, -, read⟩
  generalize empty = earlier at read start
  induction items generalizing earlier with
  | nil =>
      cases read
      exact start
  | cons item rest induction =>
      rw [List.foldlM_cons, Option.bind_eq_bind, Option.bind_eq_some_iff] at read
      rcases read with ⟨next, added, read⟩
      exact induction next read (kept earlier item next start added)

theorem forall_mem_functions_of_ofJson? {document : Json} {property : FunctionEntry → Prop}
    (declared : ∀ function : FunctionEntry, Parameter.isValidName function.name = true →
      property function)
    (read : ofJson? document = some interface) :
    ∀ function ∈ interface.functions, property function := by
  apply holds_of_ofJson? _ _ read
  · simp [empty]
  · intro earlier value later holds added
    rcases entries_of_added added with ⟨same, _⟩ | ⟨function, named, inserted, _⟩ |
      ⟨_, _, _, same, _⟩
    · rwa [same]
    · rw [inserted, forall_mem_insertByName_iff]
      exact ⟨declared function named, holds⟩
    · rwa [same]

/-- Whatever the validity of its names implies is true of every event that is read. -/
theorem forall_mem_events_of_ofJson? {document : Json} {property : EventEntry → Prop}
    (declared : ∀ event : EventEntry, Parameter.isValidName event.name = true →
      EventEntry.ValidlyNamed event.inputs → property event)
    (read : ofJson? document = some interface) : ∀ event ∈ interface.events, property event := by
  apply holds_of_ofJson? _ _ read
  · simp [empty]
  · intro earlier value later holds added
    rcases entries_of_added added with ⟨_, same⟩ | ⟨_, _, _, same⟩ |
      ⟨event, named, inputs, _, inserted⟩
    · rwa [same]
    · rwa [same]
    · rw [inserted, forall_mem_insertByName_iff]
      exact ⟨declared event named inputs, holds⟩

theorem validlyNamed_of_ofJson? {document : Json} (read : ofJson? document = some interface) :
    ∀ event ∈ interface.events, EventEntry.ValidlyNamed event.inputs :=
  forall_mem_events_of_ofJson? (fun _ _ inputs => inputs) read

end Interface

/-- An event as interfaces declare it: the names of its parameters are valid. -/
structure NamedEvent extends EventEntry where
  named : EventEntry.ValidlyNamed inputs

namespace NamedEvent

/-- The events of the interface that is read from a document, with the validity of their names. -/
def ofJson? (document : Json) : Option (List NamedEvent) :=
  match read : Interface.ofJson? document with
  | none => none
  | some interface => some (interface.events.pmap mk (Interface.validlyNamed_of_ofJson? read))

/-- The named events of a document are all the events that are read from it. -/
theorem map_ofJson? (document : Json) :
    (ofJson? document).map (List.map toEventEntry) =
      (Interface.ofJson? document).map Interface.events := by
  unfold ofJson?
  split
  · next missing =>
      rw [missing]
      rfl
  · next interface read =>
      refine .trans ?_ (congrArg (Option.map Interface.events) read.symm)
      simp [List.map_pmap]

end NamedEvent

end ContractClient
