import ContractClient.Proofs.FilterBuilding
import ContractClient.Proofs.Words

/-! Which logs a filter lets through. A node compares the topics of a log with
those of a filter position by position. A filter built from arguments lets
through exactly the logs whose indexed values have the topics asked for. -/

namespace ContractClient

/-! ## Matching -/

def TopicFilter.Accepts (filter : TopicFilter) (topic : Word) : Prop :=
  match filter with
  | .exact wanted => topic = wanted
  | .anyOf wanted => topic ∈ wanted

/-- The log has a topic at every position of the filter, and one that the filter
there, if there is any, accepts. -/
def TopicsMatch (filters : List (Option TopicFilter)) (topics : List Word) : Prop :=
  ∀ (position : Nat) (filter : Option TopicFilter), filters[position]? = some filter →
    ∃ topic, topics[position]? = some topic ∧ ∀ wanted ∈ filter, wanted.Accepts topic

theorem topicsMatch_nil (topics : List Word) : TopicsMatch [] topics := by
  intro position filter found
  simp at found

theorem topicsMatch_cons_iff {filter : Option TopicFilter} {filters : List (Option TopicFilter)}
    {topic : Word} {topics : List Word} :
    TopicsMatch (filter :: filters) (topic :: topics) ↔
      (∀ wanted ∈ filter, wanted.Accepts topic) ∧ TopicsMatch filters topics := by
  constructor
  · intro holds
    constructor
    · rcases holds 0 filter rfl with ⟨found, here, accepts⟩
      cases here
      exact accepts
    · intro position other found
      exact holds (position + 1) other (by simpa using found)
  · rintro ⟨accepts, holds⟩ position other found
    cases position with
    | zero =>
        cases found
        exact ⟨topic, rfl, accepts⟩
    | succ position => exact holds position other (by simpa using found)

/-! ## Values asked for -/

namespace EventParameter

variable {parameter : EventParameter}

def Carries (parameter : EventParameter) (value : AbiValue) : Prop :=
  ∃ type, parameter.resolve = .ok type ∧ AbiValue.HasType value type

/-- The value is one of those that are given for the parameter. -/
def Wants (parameter : EventParameter) (asked : Json) (value : AbiValue) : Prop :=
  ∃ type, parameter.resolve = .ok type ∧ ∃ given ∈ alternatives type asked,
    AbiValue.ofJson type parameter.components given = .ok value

theorem accepts_iff_of_alternativesFilter {type : AbiType} {given : List Json}
    {filter : TopicFilter} {topic : Word}
    (built : parameter.alternativesFilter type given = .ok filter) :
    filter.Accepts topic ↔ ∃ json ∈ given, parameter.topicOf type json = .ok topic := by
  rcases alternativesFilter_eq_ok_iff.mp built with ⟨first, rest, found, rfl⟩
  have each := topicsOf_eq_ok_iff.mp found
  have accepts : TopicFilter.Accepts
      (if rest = [] then .exact first else .anyOf (first :: rest)) topic ↔
        topic ∈ first :: rest := by
    split
    · next alone => simp [TopicFilter.Accepts, alone]
    · rfl
  rw [accepts]
  constructor
  · intro member
    exact Traversal.exists_of_mem_right each member
  · rintro ⟨json, member, encoded⟩
    rcases Traversal.exists_of_mem_left each member with ⟨other, inside, same⟩
    rw [encoded] at same
    cases same
    exact inside

theorem accepts_iff_of_topicFilter {asked : Json} {filter : TopicFilter} {topic : Word}
    (built : parameter.topicFilter asked = .ok filter) :
    filter.Accepts topic ↔ ∃ wanted, parameter.Wants asked wanted ∧ topic = wanted.topic := by
  rcases topicFilter_eq_ok_iff.mp built with ⟨type, resolved, _, alternatives⟩
  rw [accepts_iff_of_alternativesFilter alternatives]
  simp only [topicOf_eq_ok_iff]
  constructor
  · rintro ⟨json, given, value, read, rfl⟩
    exact ⟨value, ⟨type, resolved, json, given, read⟩, rfl⟩
  · rintro ⟨value, ⟨other, found, json, given, read⟩, rfl⟩
    rw [resolved] at found
    cases found
    exact ⟨json, given, value, read, rfl⟩

theorem exists_wants_topic_iff {asked : Json} {value : AbiValue} {type : AbiType}
    (resolved : parameter.resolve = .ok type) (fits : type.fitsWord = true)
    (carried : parameter.Carries value) :
    (∃ wanted, parameter.Wants asked wanted ∧ value.topic = wanted.topic) ↔
      parameter.Wants asked value := by
  constructor
  · rintro ⟨wanted, ⟨other, found, given, member, read⟩, same⟩
    rcases carried with ⟨known, typing, typed⟩
    rw [resolved] at found typing
    cases found
    cases typing
    have equal := (AbiValue.topic_inj (Parameter.resolve_admitted resolved) fits typed
      (AbiValue.ofJson_hasType read)).mp same
    subst equal
    exact ⟨type, resolved, given, member, read⟩
  · intro wants
    exact ⟨value, wants, rfl⟩

end EventParameter

/-! ## Logs of an event -/

namespace EventEntry

variable {event : EventEntry} {arguments : List (String × Json)}

/-- The topics of a log that the event emits with the given indexed values. -/
def emittedTopics (event : EventEntry) (values : List AbiValue) : List Word :=
  event.topic?.toList ++ values.map AbiValue.topic

theorem accepts_of_positionFilter {parameter : EventParameter} {filter : Option TopicFilter}
    {topic : Word} (built : event.positionFilter arguments parameter = .ok filter) :
    (∀ wanted ∈ filter, wanted.Accepts topic) ↔
      ∀ asked, Json.given? parameter.name (.object arguments) = some asked →
        ∃ wanted, parameter.Wants asked wanted ∧ topic = wanted.topic := by
  rw [positionFilter] at built
  cases given : Json.given? parameter.name (.object arguments) with
  | none =>
      rw [given] at built
      cases built
      simp
  | some asked =>
      rw [given] at built
      cases found : parameter.topicFilter asked with
      | error reason => simp [found] at built
      | ok only =>
          simp only [found, Except.ok.injEq] at built
          subst built
          simp [EventParameter.accepts_iff_of_topicFilter found]

theorem topicsMatch_parameterFilters {parameters : List EventParameter}
    {filters : List (Option TopicFilter)} {values : List AbiValue}
    (built : event.parameterFilters arguments parameters = .ok filters)
    (count : parameters.length = values.length) :
    TopicsMatch filters (values.map AbiValue.topic) ↔
      ∀ parameter value, (parameter, value) ∈ parameters.zip values →
        ∀ asked, Json.given? parameter.name (.object arguments) = some asked →
          ∃ wanted, parameter.Wants asked wanted ∧ value.topic = wanted.topic := by
  have each := parameterFilters_eq_ok_iff.mp built
  clear built
  induction each generalizing values with
  | nil => simp [topicsMatch_nil]
  | @cons parameter filter parameters filters first _ induction =>
      rcases values with _ | ⟨value, values⟩
      · simp at count
      · have others : TopicsMatch filters (values.map AbiValue.topic) ↔ _ :=
          induction (by simpa using count)
        rw [List.map_cons, topicsMatch_cons_iff, accepts_of_positionFilter first, others]
        simp only [List.zip_cons_cons, List.mem_cons, Prod.mk.injEq]
        constructor
        · rintro ⟨head, tail⟩ other carried (⟨rfl, rfl⟩ | member)
          · exact head
          · exact tail other carried member
        · intro all
          exact ⟨all parameter value (.inl ⟨rfl, rfl⟩), fun other carried member =>
            all other carried (.inr member)⟩

theorem topicsMatch_topicFilters {topics : List (Option TopicFilter)} {values : List AbiValue}
    (built : event.topicFilters arguments = .ok topics)
    (count : event.indexed.length = values.length) :
    TopicsMatch topics (event.emittedTopics values) ↔
      ∀ parameter value, (parameter, value) ∈ event.indexed.zip values →
        ∀ asked, Json.given? parameter.name (.object arguments) = some asked →
          ∃ wanted, parameter.Wants asked wanted ∧ value.topic = wanted.topic := by
  rcases topicFilters_eq_ok_iff.mp built with ⟨_, filters, found, rfl⟩
  rw [← topicsMatch_parameterFilters found count, emittedTopics]
  cases event.topic? with
  | none => rfl
  | some own =>
      rw [Option.toList_some, List.map_cons, List.singleton_append, List.cons_append,
        topicsMatch_cons_iff]
      simp [TopicFilter.Accepts]

/-- A filter for an event lets through exactly those of the event's logs that
have, wherever a value is asked for, the topic of a value asked for; and at a type
that fits one word that is the value itself. -/
theorem filter_matches_iff {contract : Option Address} {options : FilterOptions}
    {params : FilterParams} {values : List AbiValue}
    (built : event.filter contract options = .ok params) (implicit : options.topics = none)
    (carried : List.Forall₂ EventParameter.Carries event.indexed values) :
    (TopicsMatch params.topics (event.emittedTopics values) ↔
      ∀ parameter value, (parameter, value) ∈ event.indexed.zip values →
        ∀ asked, Json.given? parameter.name (.object options.arguments) = some asked →
          ∃ wanted, parameter.Wants asked wanted ∧ value.topic = wanted.topic) ∧
    ∀ parameter value, (parameter, value) ∈ event.indexed.zip values →
      ∀ type, parameter.resolve = .ok type → type.fitsWord = true →
        ∀ asked, (∃ wanted, parameter.Wants asked wanted ∧ value.topic = wanted.topic) ↔
          parameter.Wants asked value := by
  rcases filter_eq_ok_iff.mp built with ⟨_, address, topics, _, chosen, rfl⟩
  rw [chosenTopics_of_none implicit] at chosen
  refine ⟨topicsMatch_topicFilters chosen carried.length_eq, ?_⟩
  intro parameter value member type resolved fits asked
  exact EventParameter.exists_wants_topic_iff resolved fits
    ((List.forall₂_iff_zip.mp carried).2 member)

def noted : EventEntry :=
  ⟨"Noted", [⟨⟨"flag", "bool", none, []⟩, true⟩, ⟨⟨"count", "uint256", none, []⟩, false⟩,
    ⟨⟨"note", "string", none, []⟩, true⟩], false⟩

def notedOptions : FilterOptions :=
  { FilterOptions.empty with
    arguments := [("flag", .boolean true), ("note", .array [.string "a", .string "b"])] }

def notedParams : FilterParams :=
  ⟨none, none, none, none,
    [some (.exact noted.selector), some (.exact (AbiValue.topic (.bool true))),
     some (.anyOf [AbiValue.topic (.string "a"), AbiValue.topic (.string "b")])]⟩

theorem filter_matches_noted :
    noted.filter none notedOptions = .ok notedParams ∧
      TopicsMatch notedParams.topics (noted.emittedTopics [.bool true, .string "b"]) := by
  have built : noted.filter none notedOptions = .ok notedParams := rfl
  have carried : List.Forall₂ EventParameter.Carries noted.indexed [.bool true, .string "b"] :=
    .cons ⟨.bool, rfl, .bool⟩ (.cons ⟨.string, rfl, .string⟩ .nil)
  refine ⟨built, (filter_matches_iff built rfl carried).1.mpr ?_⟩
  intro parameter value member asked given
  have pairs : (parameter, value) ∈
      [(⟨⟨"flag", "bool", none, []⟩, true⟩, AbiValue.bool true),
       (⟨⟨"note", "string", none, []⟩, true⟩, AbiValue.string "b")] := member
  simp only [List.mem_cons, Prod.mk.injEq, List.not_mem_nil, or_false] at pairs
  rcases pairs with ⟨rfl, rfl⟩ | ⟨rfl, rfl⟩
  · have found : some (Json.boolean true) = some asked := given
    cases found
    exact ⟨.bool true, ⟨.bool, rfl, .boolean true, List.mem_singleton.mpr rfl, rfl⟩, rfl⟩
  · have found : some (Json.array [.string "a", .string "b"]) = some asked := given
    cases found
    have listed : Json.string "b" ∈ EventParameter.alternatives .string
        (.array [.string "a", .string "b"]) := by
      simp [EventParameter.alternatives, AbiType.isTuple]
    exact ⟨.string "b", ⟨.string, rfl, .string "b", listed, rfl⟩, rfl⟩

end EventEntry

end ContractClient
