import ContractClient.Abi.Coercion
import ContractClient.Abi.Topic
import ContractClient.Error
import ContractClient.Filter.Options
import ContractClient.Interface.Arguments

namespace ContractClient

/-! Filters for the logs of one event. Each indexed parameter has a position in
the topics, behind the topic of the event itself; the argument asked for there is
encoded as the event would carry it. -/

namespace EventEntry

/-! ## Arguments -/

def checkArguments (event : EventEntry) : List (String × Json) → Except FilterError Unit
  | [] => .ok ()
  | (name, _) :: rest =>
      match event.inputs.find? fun parameter => parameter.name == name with
      | none => .error (.unknownArgument event.name name)
      | some parameter =>
          if parameter.indexed then event.checkArguments rest
          else .error (.notIndexed event.name name)

end EventEntry

namespace EventParameter

def topicOf (parameter : EventParameter) (type : AbiType) (value : Json) :
    Except CoercionError Word :=
  match AbiValue.ofJson type parameter.components value with
  | .ok found => .ok found.topic
  | .error reason => .error reason

def topicsOf (parameter : EventParameter) (type : AbiType) :
    List Json → Except CoercionError (List Word)
  | [] => .ok []
  | value :: rest =>
      match parameter.topicOf type value with
      | .error reason => .error reason
      | .ok topic =>
          match parameter.topicsOf type rest with
          | .error reason => .error reason
          | .ok topics => .ok (topic :: topics)

def exactFilter (parameter : EventParameter) (type : AbiType) (value : Json) :
    Except ArgumentFilterError TopicFilter :=
  match parameter.topicOf type value with
  | .ok topic => .ok (.exact topic)
  | .error reason => .error (.invalid reason)

/-- The filter for some alternatives; a single one is the same as a value. -/
def alternativesFilter (parameter : EventParameter) (type : AbiType) (values : List Json) :
    Except ArgumentFilterError TopicFilter :=
  match parameter.topicsOf type values with
  | .error reason => .error (.invalid reason)
  | .ok [] => .error .noAlternatives
  | .ok [topic] => .ok (.exact topic)
  | .ok topics => .ok (.anyOf topics)

/-- The filter for what is asked for of the parameter. An array stands for
alternatives, except where the parameter itself is a tuple. -/
def topicFilter (parameter : EventParameter) (asked : Json) :
    Except ArgumentFilterError TopicFilter :=
  match parameter.resolveType with
  | .error unsupported => .error (.unsupported unsupported)
  | .ok type =>
      if type.isArray then .error .arrayType
      else
        match asked with
        | .array values =>
            if type.isTuple then parameter.exactFilter type asked
            else parameter.alternativesFilter type values
        | _ => parameter.exactFilter type asked

end EventParameter

namespace EventEntry

/-- The filters at the positions of indexed parameters; null asks for nothing. -/
def parameterFilters (event : EventEntry) (asked : List (String × Json)) :
    List EventParameter → Except FilterError (List (Option TopicFilter))
  | [] => .ok []
  | parameter :: rest =>
      let filter : Except FilterError (Option TopicFilter) :=
        match Json.lookup parameter.name asked with
        | none | some .null => .ok none
        | some value =>
            match parameter.topicFilter value with
            | .ok found => .ok (some found)
            | .error reason => .error (.argument event.name parameter.name reason)
      match filter with
      | .error reason => .error reason
      | .ok found =>
          match event.parameterFilters asked rest with
          | .error reason => .error reason
          | .ok others => .ok (found :: others)

def topicFilters (event : EventEntry) (asked : List (String × Json)) :
    Except FilterError (List (Option TopicFilter)) :=
  match event.checkArguments asked with
  | .error reason => .error reason
  | .ok () =>
      match event.parameterFilters asked event.indexed with
      | .error reason => .error reason
      | .ok filters =>
          .ok (event.topic?.toList.map (fun topic => some (.exact topic)) ++ filters)

/-! ## The whole filter -/

/-- The address of a filter: that of the contract, with which an address asked
for must agree. -/
def filterAddress (contract asked : Option Address) : Except FilterError (Option Address) :=
  match contract, asked with
  | some own, some given =>
      if own = given then .ok (some own) else .error (.addressMismatch given own)
  | some own, none => .ok (some own)
  | none, given => .ok given

/-- The topics that a user asks for: explicit ones, or else those of arguments. -/
def chosenTopics (event : EventEntry) (options : FilterOptions) :
    Except FilterError (List (Option TopicFilter)) :=
  match options.topics with
  | some explicit =>
      if options.arguments.isEmpty then .ok explicit else .error .topicsWithArguments
  | none => event.topicFilters options.arguments

def filter (event : EventEntry) (contract : Option Address) (options : FilterOptions) :
    Except FilterError FilterParams :=
  if options.blockHash.isSome && (options.fromBlock.isSome || options.toBlock.isSome) then
    .error .blockHashWithRange
  else
    match filterAddress contract options.address with
    | .error reason => .error reason
    | .ok address =>
        match event.chosenTopics options with
        | .error reason => .error reason
        | .ok topics =>
            .ok ⟨address, options.fromBlock, options.toBlock, options.blockHash, topics⟩

end EventEntry

end ContractClient
