import ContractClient.Filter.Building
import ContractClient.Proofs.ArgumentEncoding

/-! When filters are built, and which. Each step of the building has one
statement about its success: the topic of one value, the topics of alternatives,
the filters of all indexed parameters, and the filter as a whole. -/

namespace ContractClient

/-! ## One parameter -/

namespace EventParameter

variable {parameter : EventParameter} {type : AbiType} {json : Json}

theorem topicOf_eq_ok_iff {topic : Word} :
    parameter.topicOf type json = .ok topic ↔
      ∃ value, AbiValue.ofJson type parameter.components json = .ok value ∧
        topic = value.topic := by
  rw [topicOf]
  cases AbiValue.ofJson type parameter.components json <;> simp [eq_comm]

theorem topicsOf_eq_mapM (alternatives : List Json) :
    parameter.topicsOf type alternatives = alternatives.mapM (parameter.topicOf type) := by
  induction alternatives with
  | nil => rfl
  | cons first rest induction =>
      rw [topicsOf, List.mapM_cons, induction]
      cases parameter.topicOf type first with
      | error reason => rfl
      | ok topic => cases rest.mapM (parameter.topicOf type) <;> rfl

theorem topicsOf_eq_ok_iff {alternatives : List Json} {topics : List Word} :
    parameter.topicsOf type alternatives = .ok topics ↔
      List.Forall₂ (fun json topic => parameter.topicOf type json = .ok topic)
        alternatives topics := by
  rw [topicsOf_eq_mapM]
  exact Traversal.mapM_eq_ok_iff

theorem alternativesFilter_eq_ok_iff {given : List Json} {filter : TopicFilter} :
    parameter.alternativesFilter type given = .ok filter ↔
      ∃ first rest, parameter.topicsOf type given = .ok (first :: rest) ∧
        filter = if rest = [] then .exact first else .anyOf (first :: rest) := by
  rw [alternativesFilter]
  cases parameter.topicsOf type given with
  | error reason => simp
  | ok topics => rcases topics with _ | ⟨first, _ | ⟨second, rest⟩⟩ <;> simp [eq_comm]

theorem exactFilter_eq_alternativesFilter (json : Json) :
    parameter.exactFilter type json = parameter.alternativesFilter type [json] := by
  rw [exactFilter, alternativesFilter, topicsOf, topicsOf]
  cases parameter.topicOf type json <;> rfl

/-- What is given for a parameter of a type: the items of an array, unless the
type is itself a tuple. -/
def alternatives (type : AbiType) (asked : Json) : List Json :=
  match asked with
  | .array items => if type.isTuple then [asked] else items
  | _ => [asked]

theorem topicFilter_of_resolve (resolved : parameter.resolve = .ok type)
    (single : type.isArray = false) (asked : Json) :
    parameter.topicFilter asked =
      parameter.alternativesFilter type (alternatives type asked) := by
  have found := Parameter.resolveType_eq_ok_iff.mpr resolved
  cases asked with
  | array items =>
      cases tuple : type.isTuple with
      | true =>
          simp [topicFilter, found, single, alternatives, tuple,
            exactFilter_eq_alternativesFilter]
      | false => simp [topicFilter, found, single, alternatives, tuple]
  | null | boolean | number | string | object =>
      simp [topicFilter, found, single, alternatives, exactFilter_eq_alternativesFilter]

theorem topicFilter_eq_ok_iff {asked : Json} {filter : TopicFilter} :
    parameter.topicFilter asked = .ok filter ↔
      ∃ type, parameter.resolve = .ok type ∧ type.isArray = false ∧
        parameter.alternativesFilter type (alternatives type asked) = .ok filter := by
  constructor
  · intro built
    cases resolved : parameter.resolveType with
    | error reason => simp [topicFilter, resolved] at built
    | ok type =>
        have found := Parameter.resolveType_eq_ok_iff.mp resolved
        cases single : type.isArray with
        | true => simp [topicFilter, resolved, single] at built
        | false =>
            rw [topicFilter_of_resolve found single] at built
            exact ⟨type, found, single, built⟩
  · rintro ⟨type, found, single, built⟩
    rw [topicFilter_of_resolve found single, built]

end EventParameter

/-! ## All parameters -/

namespace EventEntry

variable {event : EventEntry} {arguments : List (String × Json)}

theorem checkArguments_eq_ok_iff :
    event.checkArguments arguments = .ok () ↔
      ∀ entry ∈ arguments, ∃ parameter,
        event.inputs.find? (fun parameter => parameter.name == entry.1) = some parameter ∧
          parameter.indexed = true := by
  induction arguments with
  | nil => simp [checkArguments]
  | cons entry rest induction =>
      rw [checkArguments, List.forall_mem_cons]
      cases event.inputs.find? fun parameter => parameter.name == entry.1 with
      | none => simp
      | some parameter => cases known : parameter.indexed <;> simp [known, induction]

def positionFilter (event : EventEntry) (arguments : List (String × Json))
    (parameter : EventParameter) : Except FilterError (Option TopicFilter) :=
  match Json.given? parameter.name (.object arguments) with
  | none => .ok none
  | some asked =>
      match parameter.topicFilter asked with
      | .ok filter => .ok (some filter)
      | .error reason => .error (.argument event.name parameter.name reason)

theorem parameterFilters_eq_mapM (parameters : List EventParameter) :
    event.parameterFilters arguments parameters =
      parameters.mapM (event.positionFilter arguments) := by
  induction parameters with
  | nil => rfl
  | cons parameter rest induction =>
      rw [parameterFilters, List.mapM_cons, induction, positionFilter, Json.given?,
        Json.member?]
      cases Json.lookup parameter.name arguments with
      | none => cases rest.mapM (event.positionFilter arguments) <;> rfl
      | some asked =>
          cases asked with
          | null => cases rest.mapM (event.positionFilter arguments) <;> rfl
          | boolean | number | string | array | object =>
              dsimp only
              cases parameter.topicFilter _ with
              | error reason => rfl
              | ok filter => cases rest.mapM (event.positionFilter arguments) <;> rfl

theorem parameterFilters_eq_ok_iff {parameters : List EventParameter}
    {filters : List (Option TopicFilter)} :
    event.parameterFilters arguments parameters = .ok filters ↔
      List.Forall₂ (fun parameter filter => event.positionFilter arguments parameter = .ok filter)
        parameters filters := by
  rw [parameterFilters_eq_mapM]
  exact Traversal.mapM_eq_ok_iff

theorem topicFilters_eq_ok_iff {topics : List (Option TopicFilter)} :
    event.topicFilters arguments = .ok topics ↔
      event.checkArguments arguments = .ok () ∧
        ∃ filters, event.parameterFilters arguments event.indexed = .ok filters ∧
          topics = event.topic?.toList.map (fun topic => some (.exact topic)) ++ filters := by
  rw [topicFilters]
  cases event.checkArguments arguments with
  | error reason => simp
  | ok known => cases event.parameterFilters arguments event.indexed <;> simp [eq_comm]

/-! ## The whole filter -/

theorem filter_eq_ok_iff {contract : Option Address} {options : FilterOptions}
    {params : FilterParams} :
    event.filter contract options = .ok params ↔
      (options.blockHash.isSome && (options.fromBlock.isSome || options.toBlock.isSome)) = false ∧
        ∃ address topics, filterAddress contract options.address = .ok address ∧
          event.chosenTopics options = .ok topics ∧
          params = ⟨address, options.fromBlock, options.toBlock, options.blockHash, topics⟩ := by
  rw [filter]
  split
  · next conflict => simp [conflict]
  · next free =>
      cases filterAddress contract options.address with
      | error reason => simp
      | ok address =>
          rw [Bool.not_eq_true] at free
          cases event.chosenTopics options <;> simp [free, eq_comm]

theorem chosenTopics_of_none {options : FilterOptions} (implicit : options.topics = none) :
    event.chosenTopics options = event.topicFilters options.arguments := by
  rw [chosenTopics, implicit]

end EventEntry

end ContractClient
