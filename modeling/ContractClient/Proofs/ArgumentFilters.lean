import ContractClient.Proofs.LogRoundTrip
import ContractClient.Proofs.NamedResults

/-! Names of decoded arguments in filters. Logs are decoded with unnamed parameters under their
positions and the last of several parameters of one name under that name. Filters know parameters
by their declared names only, and take a name for all indexed parameters that have it. What a user
sees in a decoded event can therefore be asked for where its parameter has a name of its own. -/

namespace ContractClient

namespace EventEntry

variable {event : EventEntry} {parameters before after : List EventParameter}
  {parameter : EventParameter} {key : String} {position : Nat}

/-! ## Keys of decoded arguments -/

/-- The key of a decoded argument stands for the parameter between the others: what is filed under
the key is its value, and not that of a parameter behind it. -/
structure StandsFor (event : EventEntry) (key : String) (before : List EventParameter)
    (parameter : EventParameter) (after : List EventParameter) : Prop where
  inputs : event.inputs = before ++ parameter :: after
  named : argumentName before.length parameter = key
  last : key ∉ argumentNames (before.length + 1) after

theorem argumentNames_append (position : Nat) (before after : List EventParameter) :
    argumentNames position (before ++ after) =
      argumentNames position before ++ argumentNames (position + before.length) after := by
  induction before generalizing position with
  | nil => rfl
  | cons first rest induction =>
      rw [List.cons_append, argumentNames, induction, argumentNames, List.length_cons,
        List.cons_append, Nat.add_assoc, Nat.add_comm 1]

theorem length_argumentNames (position : Nat) (parameters : List EventParameter) :
    (argumentNames position parameters).length = parameters.length := by
  rw [argumentNames_eq_mapIdx, List.length_mapIdx]

theorem exists_last_of_mem (member : key ∈ argumentNames position parameters) :
    ∃ before parameter after, parameters = before ++ parameter :: after ∧
      argumentName (position + before.length) parameter = key ∧
      key ∉ argumentNames (position + before.length + 1) after := by
  induction parameters generalizing position with
  | nil => cases member
  | cons first rest induction =>
      -- A key that comes up again behind the first parameter stands for a parameter there.
      by_cases later : key ∈ argumentNames (position + 1) rest
      · rcases induction later with ⟨before, parameter, after, rfl, named, last⟩
        refine ⟨first :: before, parameter, after, rfl, ?_, ?_⟩
        · rwa [List.length_cons, Nat.add_comm before.length 1, ← Nat.add_assoc]
        · rwa [List.length_cons, Nat.add_comm before.length 1, ← Nat.add_assoc]
      · rw [argumentNames, List.mem_cons] at member
        rcases member with same | member
        · exact ⟨[], first, rest, rfl, same.symm, later⟩
        · exact absurd member later

theorem exists_standsFor (member : key ∈ argumentNames 0 event.inputs) :
    ∃ before parameter after, event.StandsFor key before parameter after := by
  rcases exists_last_of_mem member with ⟨before, parameter, after, inputs, named, last⟩
  rw [Nat.zero_add] at named last
  exact ⟨before, parameter, after, inputs, named, last⟩

/-! ## The topic of a key -/

def indexedCount (parameters : List EventParameter) : Nat :=
  (parameters.filter EventParameter.indexed).length

/-- The position of a parameter's topic: behind the event's own and those of the indexed parameters
before it. -/
def topicPosition (event : EventEntry) (before : List EventParameter) : Nat :=
  event.topic?.toList.length + indexedCount before

theorem getElem?_select {α : Type} {beside : List α} (chosen : parameter.indexed = true) :
    (select true (before ++ parameter :: after) beside)[indexedCount before]? =
      beside[before.length]? := by
  induction before generalizing beside with
  | nil =>
      rcases beside with _ | ⟨first, rest⟩
      · rfl
      · rw [List.nil_append, select_cons, if_pos chosen]
        rfl
  | cons other before induction =>
      rcases beside with _ | ⟨first, rest⟩
      · simp [select]
      · rw [List.cons_append, select_cons, List.length_cons, List.getElem?_cons_succ]
        cases known : other.indexed with
        | true =>
            rw [if_pos rfl, indexedCount, List.filter_cons_of_pos known, List.length_cons,
              List.getElem?_cons_succ]
            exact induction
        | false =>
            rw [if_neg (by decide), indexedCount, List.filter_cons_of_neg (by simp [known])]
            exact induction

theorem Gives.topic_of_inputs {types : List AbiType} {topics : List Word} {data : Bytes}
    {values : List AbiValue} (gives : event.Gives types topics data values)
    (resolved : resolveTypes event.inputs = .ok types)
    (inputs : event.inputs = before ++ parameter :: after) (chosen : parameter.indexed = true) :
    ∃ type word, parameter.resolve = .ok type ∧
      topics[event.topicPosition before]? = some word ∧
      values[before.length]? = some (AbiDecoding.ofWord word type) := by
  rcases List.forall₂_iff_get.mp (resolveTypes_eq_ok_iff.mp resolved) with ⟨count, each⟩
  have inside : before.length < event.inputs.length := by
    rw [inputs, List.length_append, List.length_cons]
    omega
  have typed : before.length < types.length := by omega
  have valued : before.length < values.length := by
    rw [gives.count]
    exact inside
  have here : event.inputs[before.length] = parameter := by
    simp [inputs]
  have known := each before.length inside typed
  rw [List.get_eq_getElem, here] at known
  have type : (selectTypes true event.inputs types)[indexedCount before]? =
      some types[before.length] := by
    rw [inputs, ← List.getElem?_eq_getElem typed]
    exact getElem?_select chosen
  have value : (select true event.inputs values)[indexedCount before]? =
      some values[before.length] := by
    rw [inputs, ← List.getElem?_eq_getElem valued]
    exact getElem?_select chosen
  rw [gives.topics, List.getElem?_zipWith, type, List.getElem?_drop] at value
  cases found : topics[event.topicPosition before]? with
  | none =>
      rw [topicPosition] at found
      rw [found] at value
      cases value
  | some word =>
      rw [topicPosition] at found
      rw [found] at value
      refine ⟨types[before.length], word, known, rfl, ?_⟩
      rw [List.getElem?_eq_getElem valued, ← value]

end EventEntry

/-! ## Values under keys -/

theorem Json.lookup_append {α : Type} (name : String) (first second : List (String × α)) :
    lookup name (first ++ second) = (lookup name first).or (lookup name second) := by
  induction first with
  | nil => rfl
  | cons entry rest induction =>
      rw [List.cons_append, lookup, lookup, induction]
      split <;> rfl

theorem Json.lookup_reverse_zip {α : Type} {name : String} {front back : List String}
    {values : List α} {value : α} (found : values[front.length]? = some value)
    (last : name ∉ back) :
    lookup name ((front ++ name :: back).zip values).reverse = some value := by
  induction front generalizing values with
  | nil =>
      rcases values with _ | ⟨first, rest⟩
      · cases found
      · cases found
        -- Seen from behind, nothing comes before the pair that has the name.
        have absent : lookup name (back.zip rest).reverse = none := by
          rw [lookup_eq_none_iff, List.map_reverse, List.mem_reverse]
          intro member
          rcases List.mem_map.mp member with ⟨⟨other, held⟩, inside, rfl⟩
          exact last (List.of_mem_zip inside).1
        rw [List.nil_append, List.zip_cons_cons, List.reverse_cons, lookup_append, absent,
          Option.none_or, lookup, if_pos rfl]
  | cons other front induction =>
      rcases values with _ | ⟨first, rest⟩
      · cases found
      · rw [List.cons_append, List.zip_cons_cons, List.reverse_cons, lookup_append,
          induction (by simpa using found), Option.some_or]

namespace EventEntry

variable {event : EventEntry} {parameters before after : List EventParameter}
  {parameter : EventParameter} {key : String} {asked : Json} {wanted : Word}

theorem StandsFor.argumentNames_eq (stands : event.StandsFor key before parameter after) :
    argumentNames 0 event.inputs =
      argumentNames 0 before ++ key :: argumentNames (before.length + 1) after := by
  rw [stands.inputs, argumentNames_append, Nat.zero_add, argumentNames, stands.named]

theorem StandsFor.read {log : LogEntry} {decoded : DecodedEvent}
    (stands : event.StandsFor key before parameter after) (chosen : parameter.indexed = true)
    (decodes : event.decodeLog log = .ok decoded) :
    ∃ type word, parameter.resolve = .ok type ∧
      log.topics[event.topicPosition before]? = some word ∧
      (key, AbiDecoding.ofWord word type) ∈ decoded.arguments := by
  rcases files_of_decodeLog decodes with ⟨types, values, resolved, gives, files⟩
  rcases gives.topic_of_inputs resolved stands.inputs chosen with
    ⟨type, word, known, found, value⟩
  refine ⟨type, word, known, found, Json.mem_of_lookup ?_⟩
  rw [files.last, stands.argumentNames_eq]
  exact Json.lookup_reverse_zip (by rwa [length_argumentNames]) stands.last

/-! ## Filters for a key -/

def openTopics (parameters : List EventParameter) : List (Option TopicFilter) :=
  (parameters.filter EventParameter.indexed).map fun _ => none

/-- The topics of a filter that asks for the event's own topic and for one topic of the parameter
between the others; all other positions are open. -/
def soleTopic (event : EventEntry) (before after : List EventParameter) (wanted : Word) :
    List (Option TopicFilter) :=
  event.topic?.toList.map (fun topic => some (.exact topic)) ++
    (openTopics before ++ some (.exact wanted) :: openTopics after)

structure OwnName (before : List EventParameter) (parameter : EventParameter)
    (after : List EventParameter) : Prop where
  filled : parameter.name ≠ ""
  sole : ∀ other ∈ before ++ after, other.name ≠ parameter.name

theorem positionFilter_of_other (other : parameter.name ≠ key) :
    event.positionFilter [(key, asked)] parameter = .ok none := by
  rw [positionFilter, Json.given?, Json.member?, Json.lookup, if_neg other, Json.lookup]

theorem positionFilters_of_others (others : ∀ other ∈ parameters, other.name ≠ key) :
    List.Forall₂ (fun parameter filter =>
      event.positionFilter [(key, asked)] parameter = .ok filter)
      (parameters.filter EventParameter.indexed) (openTopics parameters) := by
  rw [openTopics, List.forall₂_map_right_iff, List.forall₂_same]
  intro parameter member
  exact positionFilter_of_other (others parameter (List.mem_filter.mp member).1)

theorem indexed_of_inputs (inputs : event.inputs = before ++ parameter :: after)
    (chosen : parameter.indexed = true) :
    event.indexed = before.filter EventParameter.indexed ++
      parameter :: after.filter EventParameter.indexed := by
  rw [indexed, inputs, List.filter_append, List.filter_cons_of_pos chosen]

theorem topicFilters_of_ownName (inputs : event.inputs = before ++ parameter :: after)
    (chosen : parameter.indexed = true) (own : OwnName before parameter after)
    (built : event.positionFilter [(parameter.name, asked)] parameter =
      .ok (some (.exact wanted))) :
    event.topicFilters [(parameter.name, asked)] = .ok (event.soleTopic before after wanted) := by
  rw [topicFilters_eq_ok_iff, checkArguments_eq_ok_iff]
  constructor
  · intro entry member
    cases List.mem_singleton.mp member
    refine ⟨parameter, ?_, chosen⟩
    have earlier : before.find? (fun other => other.name == parameter.name) = none := by
      rw [List.find?_eq_none]
      intro other member
      simpa using own.sole other (List.mem_append_left after member)
    rw [inputs, List.find?_append, earlier, Option.none_or]
    exact List.find?_cons_of_pos (by simp)
  · refine ⟨_, ?_, rfl⟩
    rw [parameterFilters_eq_ok_iff, indexed_of_inputs inputs chosen]
    apply List.rel_append
    · exact positionFilters_of_others fun other member =>
        own.sole other (List.mem_append_left after member)
    · refine .cons built (positionFilters_of_others fun other member => ?_)
      exact own.sole other (List.mem_append_right before member)

theorem given?_of_asked (given : asked ≠ .null) :
    Json.given? key (.object [(key, asked)]) = some asked := by
  rw [Json.given?, Json.member?, Json.lookup, if_pos rfl]
  cases asked with
  | null => exact absurd rfl given
  | _ => rfl

theorem positionFilter_ne_open (same : parameter.name = key) (given : asked ≠ .null) :
    event.positionFilter [(key, asked)] parameter ≠ .ok none := by
  rw [positionFilter, same, given?_of_asked given]
  intro built
  dsimp only at built
  split at built
  · cases built
  · cases built

theorem exists_before_of_checkArguments {other : EventParameter}
    (inputs : event.inputs = before ++ parameter :: after)
    (checked : event.checkArguments [(key, asked)] = .ok ()) (member : other ∈ before)
    (same : other.name = key) :
    ∃ first ∈ before.filter EventParameter.indexed, first.name = key := by
  rcases checkArguments_eq_ok_iff.mp checked (key, asked) (.head _) with ⟨first, found, chosen⟩
  have earlier : (before.find? fun other => other.name == key).isSome = true :=
    List.find?_isSome.mpr ⟨other, member, by simpa using same⟩
  rcases Option.isSome_iff_exists.mp earlier with ⟨known, here⟩
  rw [inputs, List.find?_append, here, Option.some_or] at found
  cases found
  exact ⟨first, List.mem_filter.mpr ⟨List.mem_of_find?_eq_some here, chosen⟩,
    by simpa using List.find?_some here⟩

theorem checkArguments_of_no_name (valid : ValidlyNamed event.inputs)
    (stands : event.StandsFor key before parameter after) (unnamed : parameter.name = "") :
    event.checkArguments [(key, asked)] = .error (.unknownArgument event.name key) := by
  have absent : event.inputs.find? (fun other => other.name == key) = none := by
    rw [List.find?_eq_none]
    intro other member same
    have declared := valid other member
    rw [beq_iff_eq.mp same, ← stands.named, argumentName_of_no_name unnamed,
      Parameter.isValidName_toString] at declared
    cases declared
  rw [checkArguments, absent]

theorem StandsFor.key_eq (stands : event.StandsFor key before parameter after)
    (named : parameter.name ≠ "") : key = parameter.name :=
  stands.named.symm.trans (argumentName_of_name named)

theorem StandsFor.not_mem_after (valid : ValidlyNamed event.inputs)
    (stands : event.StandsFor key before parameter after) (named : parameter.name ≠ "") :
    ∀ other ∈ after, other.name ≠ parameter.name := by
  intro other member same
  have declared : Parameter.isValidName parameter.name = true := by
    apply valid parameter
    rw [stands.inputs]
    simp
  apply stands.last
  rw [stands.key_eq named, mem_argumentNames_iff declared named]
  exact ⟨other, member, same⟩

theorem ownName_of_topicFilters (valid : ValidlyNamed event.inputs)
    (stands : event.StandsFor key before parameter after) (chosen : parameter.indexed = true)
    (given : asked ≠ .null)
    (built : event.topicFilters [(key, asked)] = .ok (event.soleTopic before after wanted)) :
    OwnName before parameter after := by
  rcases topicFilters_eq_ok_iff.mp built with ⟨checked, filters, found, same⟩
  cases List.append_cancel_left same
  rw [parameterFilters_eq_ok_iff, indexed_of_inputs stands.inputs chosen] at found
  have named : parameter.name ≠ "" := by
    intro unnamed
    rw [checkArguments_of_no_name valid stands unnamed] at checked
    cases checked
  refine ⟨named, ?_⟩
  intro other member sameName
  rcases List.mem_append.mp member with earlier | later
  · rcases exists_before_of_checkArguments stands.inputs checked earlier
      (sameName.trans (stands.key_eq named).symm) with ⟨first, inside, keyed⟩
    have count : (openTopics before).length = (before.filter EventParameter.indexed).length :=
      List.length_map _
    -- The position of the first parameter of the name would have to be open.
    have front := List.forall₂_take (before.filter EventParameter.indexed).length found
    rw [List.take_left, ← count, List.take_left] at front
    rcases Traversal.exists_of_mem_left front inside with ⟨filter, isOpen, builds⟩
    rcases List.mem_map.mp isOpen with ⟨_, _, rfl⟩
    exact positionFilter_ne_open keyed given builds
  · exact stands.not_mem_after valid named other later sameName

/-! ## Keys as names in filters -/

/-- The options ask for something under the key and for no other topic, and contradict neither
themselves nor the address of the contract. -/
structure AsksOnly (contract : Option Address) (options : FilterOptions) (key : String)
    (asked : Json) : Prop where
  arguments : options.arguments = [(key, asked)]
  implicit : options.topics = none
  free : (options.blockHash.isSome && (options.fromBlock.isSome || options.toBlock.isSome)) = false
  agreed : ∃ address, filterAddress contract options.address = .ok address

variable {contract : Option Address} {options : FilterOptions}

theorem AsksOnly.exists_filter_iff {topics : List (Option TopicFilter)}
    (asks : AsksOnly contract options key asked) :
    (∃ params, event.filter contract options = .ok params ∧ params.topics = topics) ↔
      event.topicFilters [(key, asked)] = .ok topics := by
  simp only [filter_eq_ok_iff, chosenTopics_of_none asks.implicit, asks.arguments]
  constructor
  · intro built
    rcases built with ⟨_, ⟨_, _, found, _, chosen, rfl⟩, rfl⟩
    exact chosen
  · intro chosen
    rcases asks.agreed with ⟨address, agreed⟩
    exact ⟨_, ⟨asks.free, address, topics, agreed, chosen, rfl⟩, rfl⟩

theorem AsksOnly.filter_eq_error {reason : FilterError}
    (asks : AsksOnly contract options key asked)
    (refused : event.checkArguments [(key, asked)] = .error reason) :
    event.filter contract options = .error reason := by
  rcases asks.agreed with ⟨address, agreed⟩
  rw [filter, if_neg (by simp [asks.free]), agreed]
  simp only [chosenTopics_of_none asks.implicit, asks.arguments, topicFilters, refused]

/-- Every key of a decoded event stands for a parameter; if that one is indexed, what is filed under
the key is read from the topic of the parameter. A filter that asks for a value under the key asks
for just that topic, beside the event's own, exactly if the parameter has a name that no other one
has. The position that an unnamed parameter has for a key is refused. -/
theorem keys_in_filters (event : NamedEvent) {log : LogEntry} {decoded : DecodedEvent}
    (single : ∀ parameter ∈ event.indexed, ∀ type, parameter.resolve = .ok type →
      type.isArray = false)
    (decodes : event.decodeLog log = .ok decoded) :
    (∀ key ∈ decoded.arguments.names, ∃ before parameter after,
      event.StandsFor key before parameter after) ∧
    ∀ key before parameter after, event.StandsFor key before parameter after →
      parameter.indexed = true →
      ∃ type word, parameter.resolve = .ok type ∧
        log.topics[event.topicPosition before]? = some word ∧
        (key, AbiDecoding.ofWord word type) ∈ decoded.arguments ∧
        ∀ contract options asked value, AsksOnly contract options key asked →
          AbiValue.ofJson type parameter.components asked = .ok value →
          ((∃ params, event.filter contract options = .ok params ∧
              params.topics = event.soleTopic before after value.topic) ↔
            OwnName before parameter after) ∧
          (parameter.name = "" →
            event.filter contract options = .error (.unknownArgument event.name key)) := by
  constructor
  · intro key member
    rcases files_of_decodeLog decodes with ⟨_, _, _, _, files⟩
    rw [files.names, List.mem_eraseDups] at member
    exact exists_standsFor member
  · intro key before parameter after stands chosen
    rcases stands.read chosen decodes with ⟨type, word, resolved, found, filed⟩
    refine ⟨type, word, resolved, found, filed, ?_⟩
    intro contract options asked value asks read
    have given : asked ≠ .null := fun null => AbiValue.ofJson_null (null ▸ read)
    have inside : parameter ∈ event.indexed := by
      rw [indexed_of_inputs stands.inputs chosen]
      simp
    have encoded := EventParameter.topicFilter_of_ofJson resolved
      (single parameter inside type resolved) read
    constructor
    · rw [asks.exists_filter_iff]
      constructor
      · exact ownName_of_topicFilters event.named stands chosen given
      · intro own
        rw [stands.key_eq own.filled]
        apply topicFilters_of_ownName stands.inputs chosen own
        rw [positionFilter, given?_of_asked given]
        simp only [encoded]
    · intro unnamed
      exact asks.filter_eq_error (checkArguments_of_no_name event.named stands unnamed)

theorem exists_decodeLog_switched : ∃ decoded, switched.decodeLog switchedLog = .ok decoded := by
  have given : dataValues [.bool] switchedLog.data = .ok [.bool true] := rfl
  have fits : switched.Matches [.bool, .bool, .string] switchedLog.topics switchedLog.data :=
    ⟨fun _ => rfl, rfl, _, given⟩
  rcases readArguments_of_matches rfl (by decide) fits with ⟨values, _, read⟩
  exact ⟨_, by rw [decodeLog, read]⟩

def memoOptions : FilterOptions :=
  { FilterOptions.empty with arguments := [("memo", .string "rent")] }

theorem keys_in_filters_switched :
    ∃ params, switched.filter none memoOptions = .ok params ∧
      params.topics = [some (.exact switched.selector), none,
        some (.exact (AbiValue.topic (.string "rent")))] := by
  rcases exists_decodeLog_switched with ⟨decoded, decodes⟩
  have single : ∀ parameter ∈ switched.indexed, ∀ type, parameter.resolve = .ok type →
      type.isArray = false := by
    intro parameter member type resolved
    have either : parameter ∈
        [⟨⟨"", "bool", none, []⟩, true⟩, ⟨⟨"memo", "string", none, []⟩, true⟩] := member
    simp only [List.mem_cons, List.not_mem_nil, or_false] at either
    rcases either with rfl | rfl
    · cases resolved
      rfl
    · cases resolved
      rfl
  have stands : switched.StandsFor "memo" (switched.inputs.take 2)
      ⟨⟨"memo", "string", none, []⟩, true⟩ [] := ⟨rfl, rfl, by decide⟩
  have asks : AsksOnly none memoOptions "memo" (.string "rent") := ⟨rfl, rfl, rfl, none, rfl⟩
  have own : OwnName (switched.inputs.take 2) ⟨⟨"memo", "string", none, []⟩, true⟩ [] :=
    ⟨by decide, by decide⟩
  rcases (keys_in_filters switchedNamed single decodes).2 _ _ _ _ stands rfl with
    ⟨type, word, resolved, _, _, asked⟩
  cases resolved
  exact (asked none memoOptions _ _ asks rfl).1.mpr own

def pinged : EventEntry :=
  ⟨"Ping", [⟨⟨"who", "bool", none, []⟩, true⟩, ⟨⟨"who", "bool", none, []⟩, true⟩], false⟩

/-- The flag that is decoded under its position is unknown to filters, and the name of two flags
asks for both of them. -/
theorem keys_refused_or_shared :
    (∃ decoded, switched.decodeLog switchedLog = .ok decoded ∧ "0" ∈ decoded.arguments.names) ∧
      switched.filter none { FilterOptions.empty with arguments := [("0", .boolean true)] } =
        .error (.unknownArgument "Switched" "0") ∧
      pinged.filter none { FilterOptions.empty with arguments := [("who", .boolean true)] } =
        .ok ⟨none, none, none, none, [some (.exact pinged.selector),
          some (.exact (AbiValue.topic (.bool true))),
          some (.exact (AbiValue.topic (.bool true)))]⟩ := by
  rcases exists_decodeLog_switched with ⟨decoded, decodes⟩
  rcases files_of_decodeLog decodes with ⟨_, _, _, _, files⟩
  refine ⟨⟨decoded, decodes, ?_⟩, rfl, rfl⟩
  rw [files.names, List.mem_eraseDups]
  decide

end EventEntry

end ContractClient
