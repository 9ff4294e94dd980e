import ContractClient.Contract.Event
import ContractClient.Proofs.BlockTexts
import ContractClient.Proofs.ConcreteIdentifiers
import ContractClient.Proofs.FunctionNaming

/-! Identifiers as they are shown. The text of an identifier is read as that identifier again. So
the text that a handle gives for a function, or that an error shows, names what the user named,
in whatever spaces, blanks and digits the user wrote it. -/

namespace ContractClient

open Traversal

/-! ## Trimmed texts -/

namespace Text

theorem not_isBlank_head_dropBlanks (text : List Char) :
    ∀ character ∈ (dropBlanks text).head?, isBlank character = false := by
  intro character first
  have stopped := List.head?_dropWhile_not isBlank text
  rw [dropBlanks] at first
  rwa [first] at stopped

theorem trimBlanks_prefix (text : List Char) : trimBlanks text <+: dropBlanks text := by
  rw [trimBlanks, ← List.reverse_suffix, List.reverse_reverse]
  exact List.dropWhile_suffix isBlank

theorem not_isBlank_head_trimBlanks (text : List Char) :
    ∀ character ∈ (trimBlanks text).head?, isBlank character = false := by
  intro character first
  apply not_isBlank_head_dropBlanks text
  rcases trimBlanks_prefix text with ⟨behind, whole⟩
  rw [← whole, List.head?_append, first]
  rfl

theorem not_isBlank_last_trimBlanks (text : List Char) :
    ∀ character ∈ (trimBlanks text).getLast?, isBlank character = false := by
  rw [trimBlanks, List.getLast?_reverse]
  exact not_isBlank_head_dropBlanks _

theorem trim_trim (text : String) : trim (trim text) = trim text := by
  apply trim_of_printed
  · rw [trim, String.toList_ofList]
    exact not_isBlank_head_trimBlanks text.toList
  · rw [trim, String.toList_ofList]
    exact not_isBlank_last_trimBlanks text.toList

/-! ## Spaces within a text -/

def withoutSpaces (text : List Char) : List Char :=
  text.filter fun character => character ≠ ' '

theorem head?_withoutSpaces {text : List Char}
    (begins : ∀ character ∈ text.head?, isBlank character = false) :
    (withoutSpaces text).head? = text.head? := by
  cases text with
  | nil => rfl
  | cons first rest =>
      have printed := begins first rfl
      have kept : first ≠ ' ' := by
        intro same
        rw [same] at printed
        cases printed
      rw [withoutSpaces, List.filter_cons_of_pos (by simpa using kept)]
      rfl

theorem reverse_withoutSpaces (text : List Char) :
    (withoutSpaces text).reverse = withoutSpaces text.reverse :=
  List.filter_reverse.symm

theorem trim_withoutSpaces (text : String) :
    trim (String.ofList (withoutSpaces (trim text).toList)) =
      String.ofList (withoutSpaces (trim text).toList) := by
  have begins := not_isBlank_head_trimBlanks text.toList
  have ends := not_isBlank_last_trimBlanks text.toList
  rw [← List.head?_reverse] at ends
  apply trim_of_printed
  · rw [String.toList_ofList, trim, String.toList_ofList, head?_withoutSpaces begins]
    exact begins
  · rw [String.toList_ofList, trim, String.toList_ofList, ← List.head?_reverse,
      reverse_withoutSpaces, head?_withoutSpaces ends]
    exact ends

end Text

/-! ## Reading again -/

theorem FixedBytes.spells_toHex {size : Nat} (fixed : FixedBytes size) :
    Hex.Spells fixed.toHex fixed.bytes :=
  ⟨Hex.encode fixed.bytes, toList_toHex fixed.bytes, Hex.lowerAscii_encode fixed.bytes⟩

namespace Identifier

theorem parse_trim (input : String) : parse (Text.trim input) = parse input := by
  rw [parse, parse, Text.trim_trim]

theorem parse_cases (input : String) :
    (∃ bytes, parse input = .selector bytes) ∨ (∃ word, parse input = .topic word) ∨
      parse input = spelled (Text.trim input) := by
  simp only [parse]
  split
  · next identifier concrete =>
      split at concrete
      · cases concrete
      · split at concrete
        · split at concrete <;> cases concrete
          exact .inl ⟨_, rfl⟩
        · split at concrete
          · split at concrete <;> cases concrete
            exact .inr (.inl ⟨_, rfl⟩)
          · cases concrete
  · exact .inr (.inr rfl)

theorem parse_toHex_selector (bytes : Selector) : parse bytes.toHex = .selector bytes :=
  parse_of_selector bytes.spells_toHex

theorem parse_toHex_topic (word : Word) : parse word.toHex = .topic word :=
  parse_of_topic word.spells_toHex

theorem parse_withoutSpaces {input : String} (parenthesis : '(' ∈ (Text.trim input).toList) :
    parse (String.ofList (Text.withoutSpaces (Text.trim input).toList)) =
      .signature (String.ofList (Text.withoutSpaces (Text.trim input).toList)) := by
  have kept : '(' ∈ Text.withoutSpaces (Text.trim input).toList :=
    List.mem_filter.mpr ⟨parenthesis, by decide⟩
  have unspaced : Text.withoutSpaces (Text.withoutSpaces (Text.trim input).toList) =
      Text.withoutSpaces (Text.trim input).toList := by
    rw [Text.withoutSpaces, Text.withoutSpaces, List.filter_filter]
    simp only [Bool.and_self]
  have trimmed := Text.trim_withoutSpaces input
  -- Reading the text again trims and unspaces it once more, and both leave it as it is.
  generalize Text.withoutSpaces (Text.trim input).toList = text at kept unspaced trimmed ⊢
  have inside : '(' ∈ (Text.trim (String.ofList text)).toList := by
    rwa [trimmed, String.toList_ofList]
  rw [parse_of_parenthesis inside, trimmed, String.toList_ofList]
  exact congrArg (fun characters => Identifier.signature (String.ofList characters)) unspaced

/-- How an identifier is read again from the text that shows it. -/
inductive Reread (input : String) : Identifier → Prop
  /-- A name is the text without the blanks around it. -/
  | plain (again : parse (Text.trim input) = .plain (Text.trim input)) :
      Reread input (.plain (Text.trim input))
  /-- A signature is the text without those blanks and without spaces. -/
  | signature {text : String} (kept : text.toList = Text.withoutSpaces (Text.trim input).toList)
      (again : parse text = .signature text) : Reread input (.signature text)
  | selector {bytes : Selector} (again : parse bytes.toHex = .selector bytes) :
      Reread input (.selector bytes)
  | topic {word : Word} (again : parse word.toHex = .topic word) : Reread input (.topic word)

theorem reread_parse (input : String) : Reread input (parse input) := by
  rcases parse_cases input with ⟨bytes, read⟩ | ⟨word, read⟩ | read
  · rw [read]
    exact .selector (parse_toHex_selector bytes)
  · rw [read]
    exact .topic (parse_toHex_topic word)
  · by_cases parenthesis : '(' ∈ (Text.trim input).toList
    · have unspaced : parse input =
          .signature (String.ofList (Text.withoutSpaces (Text.trim input).toList)) :=
        parse_of_parenthesis parenthesis
      rw [unspaced]
      exact .signature String.toList_ofList (parse_withoutSpaces parenthesis)
    · have named : spelled (Text.trim input) = .plain (Text.trim input) :=
        if_neg (by simpa using parenthesis)
      rw [read, named]
      exact .plain (by rw [parse_trim, read, named])

theorem Reread.parse_toText {input : String} {identifier : Identifier}
    (reread : Reread input identifier) : parse identifier.toText = identifier := by
  cases reread with
  | plain again | signature _ again | selector again | topic again => exact again

end Identifier

/-! ## Errors -/

/-- The text by which an error shows the identifier that it is about. -/
inductive ContractError.Shows : ContractError → String → Prop
  | notFound (kind : EntryKind) (text : String) : Shows (.notFound kind text) text
  | noMatchingOverload (text : String) (given : Nat) (candidates : List String) :
      Shows (.noMatchingOverload text given candidates) text
  | ambiguousOverload (text : String) (candidates : List String) :
      Shows (.ambiguousOverload text candidates) text
  | missingAddress (operation : BoundFunction.Operation) (text : String) :
      Shows (.missingAddress (operation.text ++ " " ++ text)) text

theorem ContractError.Shows.exists_message_eq {reason : ContractError} {text : String}
    (shows : reason.Shows text) : ∃ before after, reason.message = before ++ text ++ after := by
  cases shows with
  | notFound kind text => exact ⟨"No " ++ kind.text ++ " named '", "' in contract ABI", rfl⟩
  | noMatchingOverload text given candidates =>
      refine ⟨"No overload of '", "' accepts " ++ (toString given ++
        (" argument(s) of the given types. Candidates: " ++ String.intercalate ", " candidates)), ?_⟩
      change "No overload of '" ++ text ++ "' accepts " ++ toString given ++
        " argument(s) of the given types. Candidates: " ++ String.intercalate ", " candidates = _
      simp only [String.append_assoc]
  | ambiguousOverload text candidates =>
      refine ⟨"Call to '", "' is ambiguous, matching overloads: " ++
        String.intercalate ", " candidates, ?_⟩
      change "Call to '" ++ text ++ "' is ambiguous, matching overloads: " ++
        String.intercalate ", " candidates = _
      simp only [String.append_assoc]
  | missingAddress operation text =>
      refine ⟨"The address argument is required for '" ++ (operation.text ++ " "), "'", ?_⟩
      change "The address argument is required for '" ++ (operation.text ++ " " ++ text) ++ "'" = _
      simp only [String.append_assoc]

namespace Interface

variable {interface : Interface} {identifier : Identifier} {reason : ContractError}

theorem shows_of_resolveFunction {positional : List Json} {keywords : List (String × Json)}
    (unresolved : interface.resolveFunction identifier positional keywords = .error reason) :
    reason.Shows identifier.toText := by
  cases identifier with
  | plain name =>
      simp only [resolveFunction] at unresolved
      split at unresolved
      · cases unresolved
        exact .notFound _ _
      · cases unresolved
      · split at unresolved
        · cases unresolved
        · cases unresolved
          exact .noMatchingOverload _ _ _
        · cases unresolved
          exact .ambiguousOverload _ _
  | signature | selector =>
      simp only [resolveFunction] at unresolved
      split at unresolved <;> cases unresolved
      exact .notFound _ _
  | topic =>
      cases unresolved
      exact .notFound _ _

theorem shows_of_resolveEvent (unresolved : interface.resolveEvent identifier = .error reason) :
    reason.Shows identifier.toText := by
  cases identifier with
  | plain name =>
      simp only [resolveEvent] at unresolved
      split at unresolved <;> cases unresolved
      · exact .notFound _ _
      · exact .ambiguousOverload _ _
  | signature | topic =>
      simp only [resolveEvent] at unresolved
      split at unresolved <;> cases unresolved
      exact .notFound _ _
  | selector =>
      cases unresolved
      exact .notFound _ _

end Interface

theorem BoundFunction.shows_of_dispatch {function : ContractFunction} {positional : List Json}
    {keywords : List (String × Json)} {bound : BoundFunction}
    (binds : function.bind positional keywords = .ok bound) {options : TransactionOptions}
    {operation : Operation} {shown : String}
    (refused : bound.dispatch options operation = .error (.missingAddress shown)) :
    ContractError.Shows (.missingAddress shown) function.target.toText := by
  rw [(ContractFunction.eq_of_bind binds).1]
  rw [dispatch_eq_bind] at refused
  rcases bind_eq_error_iff.mp refused with unprepared | ⟨prepared, _, refused⟩
  -- What is bound is resolved already, so that preparing it fails for its arguments only.
  · rcases prepare_of_bind binds with ⟨signature, why, failed⟩ | ⟨data, prepared⟩
    · cases failed.symm.trans unprepared
    · cases prepared.symm.trans unprepared
  · rcases bind_eq_error_iff.mp refused with unstated | ⟨request, _, unconnected⟩
    · rw [transaction_eq_bind] at unstated
      rcases bind_eq_error_iff.mp unstated with conflicting | ⟨request, _, untargeted⟩
      · rw [TransactionOptions.merge] at conflicting
        split at conflicting
        · cases conflicting
        · split at conflicting <;> cases conflicting
      · split at untargeted <;> cases untargeted
        exact .missingAddress operation _
    · have failed := map_eq_error_iff.mp unconnected
      rw [Contract.node] at failed
      split at failed <;> cases failed

/-! ## Naming again -/

namespace Contract

/-- Two texts name the same function, the same declarations and the same event, or fail alike. -/
structure NamesAlike (contract : Contract) (text other : String) : Prop where
  function : contract.function text = contract.function other
  findFunction : ∀ positional keywords, contract.findFunction text positional keywords =
    contract.findFunction other positional keywords
  findEvent : contract.findEvent text = contract.findEvent other

theorem namesAlike_of_parse_eq (contract : Contract) {text other : String}
    (same : Identifier.parse text = Identifier.parse other) : contract.NamesAlike text other where
  function := by rw [Contract.function, Contract.function, same]
  findFunction := by
    intro positional keywords
    rw [Contract.findFunction, Contract.findFunction, same]
  findEvent := by rw [Contract.findEvent, Contract.findEvent, same]

/-- Ways in which a name that the user gives comes to nothing. -/
inductive FailsToName (contract : Contract) (input : String) : ContractError → Prop
  | function {reason : ContractError} (failed : contract.function input = .error reason) :
      FailsToName contract input reason
  | findFunction {positional : List Json} {keywords : List (String × Json)}
      {reason : ContractError}
      (failed : contract.findFunction input positional keywords = .error reason) :
      FailsToName contract input reason
  | findEvent {reason : ContractError} (failed : contract.findEvent input = .error reason) :
      FailsToName contract input reason
  | bind {function : ContractFunction} {positional : List Json} {keywords : List (String × Json)}
      {reason : ContractError} (named : contract.function input = .ok function)
      (failed : function.bind positional keywords = .error reason) :
      FailsToName contract input reason
  /-- The function is bound, but there is no address to send it to. -/
  | dispatch {function : ContractFunction} {positional : List Json}
      {keywords : List (String × Json)} {bound : BoundFunction} {options : TransactionOptions}
      {operation : BoundFunction.Operation} {shown : String}
      (named : contract.function input = .ok function)
      (binds : function.bind positional keywords = .ok bound)
      (failed : bound.dispatch options operation = .error (.missingAddress shown)) :
      FailsToName contract input (.missingAddress shown)

theorem eq_of_function {contract : Contract} {input : String} {function : ContractFunction}
    (named : contract.function input = .ok function) :
    function = ⟨contract, .function (Identifier.parse input)⟩ := by
  rw [Contract.function] at named
  split at named <;> cases named
  rfl

theorem FailsToName.shows {contract : Contract} {input : String} {reason : ContractError}
    (fails : contract.FailsToName input reason) :
    reason.Shows (Identifier.parse input).toText := by
  cases fails with
  | function failed =>
      rw [Contract.function] at failed
      split at failed <;> cases failed
      exact .notFound _ _
  | findFunction failed => exact Interface.shows_of_resolveFunction failed
  | findEvent failed => exact Interface.shows_of_resolveEvent failed
  | bind named failed =>
      cases eq_of_function named
      simp only [ContractFunction.bind] at failed
      split at failed <;> cases failed
      next unresolved => exact Interface.shows_of_resolveFunction unresolved
  | dispatch named binds failed =>
      have shows := BoundFunction.shows_of_dispatch binds failed
      rw [eq_of_function named] at shows
      exact shows

end Contract

/-- An identifier is read again from the text that shows it: a name stays the name, a signature
keeps its text without spaces, and selectors and topics keep their bytes. So the text that a
handle gives for a function that was named, and the text that shows what was named in an error,
name the same as the user did. -/
theorem Identifier.stable_when_shown (input : String) :
    Reread input (parse input) ∧ parse (parse input).toText = parse input ∧
    ∀ contract : Contract,
      (∀ function, contract.function input = .ok function →
        contract.NamesAlike function.target.toText input) ∧
      ∀ reason, contract.FailsToName input reason →
        ∃ text, reason.Shows text ∧ (∃ before after, reason.message = before ++ text ++ after) ∧
          contract.NamesAlike text input := by
  have again := (reread_parse input).parse_toText
  refine ⟨reread_parse input, again, fun contract => ⟨?_, ?_⟩⟩
  · intro function named
    apply contract.namesAlike_of_parse_eq
    rw [Contract.eq_of_function named]
    exact again
  · intro reason fails
    exact ⟨_, fails.shows, fails.shows.exists_message_eq, contract.namesAlike_of_parse_eq again⟩

theorem Identifier.stable_when_shown_setter :
    setterContract.NamesAlike "set(uint8)" " set ( uint8 )\n" ∧
      setterContract.NamesAlike "0xabcdef01" "0XABCdef01 " := by
  have signature : parse " set ( uint8 )\n" = .signature "set(uint8)" := by decide +kernel
  have found : setterContract.function " set ( uint8 )\n" =
      .ok ⟨setterContract, .function (.signature "set(uint8)")⟩ := by
    rw [Contract.function, signature]
    rfl
  have selector : parse "0XABCdef01 " = .selector ⟨[0xab, 0xcd, 0xef, 0x01], rfl⟩ := by
    decide +kernel
  have missing : setterContract.findEvent "0XABCdef01 " =
      .error (.notFound .event "0xabcdef01") := by
    rw [Contract.findEvent, selector]
    rfl
  rcases stable_when_shown " set ( uint8 )\n" with ⟨_, _, named⟩
  rcases stable_when_shown "0XABCdef01 " with ⟨_, _, unnamed⟩
  rcases (unnamed setterContract).2 _ (.findEvent missing) with ⟨text, shows, _, again⟩
  cases shows
  exact ⟨(named setterContract).1 _ found, again⟩

end ContractClient
