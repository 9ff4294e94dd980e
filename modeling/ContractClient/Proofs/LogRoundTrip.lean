import ContractClient.Proofs.AbiRoundTrip
import ContractClient.Proofs.FilterBuilding
import ContractClient.Proofs.LogDecoding

/-! From a filter to the logs it lets through and back. A filter that asks for one
value of every indexed parameter fixes all topics of a log, and decoding a log
with these topics gives the values that were asked for. -/

namespace ContractClient

/-! ## What is asked for -/

theorem AbiValue.ofJson_null {type : AbiType} {components : List Parameter} {value : AbiValue} :
    ofJson type components .null ≠ .ok value := by
  cases type <;>
    simp [ofJson, Coercion.account, Coercion.unsigned, Coercion.signed, Coercion.hexBytes,
      Coercion.tupleItems, Except.map]

namespace EventParameter

variable {parameter : EventParameter} {arguments : List (String × Json)} {value : AbiValue}

/-- The value is what coercion reads from the argument of the parameter. -/
def Reads (arguments : List (String × Json)) (parameter : EventParameter) (value : AbiValue) :
    Prop :=
  ∃ asked type, Json.lookup parameter.name arguments = some asked ∧
    parameter.resolve = .ok type ∧ AbiValue.ofJson type parameter.components asked = .ok value

theorem alternatives_of_ofJson {type : AbiType} {components : List Parameter} {asked : Json}
    (single : type.isArray = false)
    (read : AbiValue.ofJson type components asked = .ok value) :
    alternatives type asked = [asked] := by
  cases asked with
  | array items =>
      cases type with
      | tuple types => rfl
      | array | fixedArray => cases single
      | _ =>
          simp [AbiValue.ofJson, Coercion.account, Coercion.unsigned, Coercion.signed,
            Coercion.hexBytes, Except.map] at read
  | _ => rfl

theorem Reads.given (reads : parameter.Reads arguments value) :
    ∃ asked type, Json.given? parameter.name (.object arguments) = some asked ∧
      parameter.resolve = .ok type ∧
      AbiValue.ofJson type parameter.components asked = .ok value := by
  rcases reads with ⟨asked, type, found, resolved, read⟩
  refine ⟨asked, type, ?_, resolved, read⟩
  rw [Json.given?, Json.member?, found]
  cases asked with
  | null => exact absurd read AbiValue.ofJson_null
  | _ => rfl

theorem topicFilter_of_ofJson {type : AbiType} {asked : Json}
    (resolved : parameter.resolve = .ok type) (single : type.isArray = false)
    (read : AbiValue.ofJson type parameter.components asked = .ok value) :
    parameter.topicFilter asked = .ok (.exact value.topic) := by
  rw [topicFilter_of_resolve resolved single, alternatives_of_ofJson single read,
    ← exactFilter_eq_alternativesFilter, exactFilter, topicOf, read]

end EventParameter

namespace EventEntry

variable {event : EventEntry} {arguments : List (String × Json)} {types : List AbiType}
  {asked : List AbiValue}

/-- An event of which every indexed parameter can be asked for, and every value
can be told apart by its name. -/
structure Filterable (event : EventEntry) (types : List AbiType) : Prop where
  resolved : resolveTypes event.inputs = .ok types
  few : event.topicCount ≤ maxTopics
  named : ∀ parameter ∈ event.inputs, parameter.name ≠ ""
  distinct : (event.inputs.map fun parameter => parameter.name).Nodup
  single : ∀ parameter ∈ event.indexed, ∀ type, parameter.resolve = .ok type →
    type.isArray = false

/-- The options ask for one value of every indexed parameter, and for nothing else. -/
structure AsksFor (event : EventEntry) (options : FilterOptions) (values : List AbiValue) :
    Prop where
  implicit : options.topics = none
  known : ∀ entry ∈ options.arguments, ∃ parameter ∈ event.indexed, parameter.name = entry.1
  read : List.Forall₂ (EventParameter.Reads options.arguments) event.indexed values

theorem find?_of_nodup {parameters : List EventParameter} {parameter : EventParameter}
    (distinct : (parameters.map fun parameter => parameter.name).Nodup)
    (member : parameter ∈ parameters) :
    parameters.find? (fun other => other.name == parameter.name) = some parameter := by
  induction parameters with
  | nil => cases member
  | cons first rest induction =>
      rw [List.map_cons] at distinct
      have parts := List.nodup_cons.mp distinct
      rcases List.mem_cons.mp member with rfl | member
      · exact List.find?_cons_of_pos (by simp)
      · rw [List.find?_cons_of_neg, induction parts.2 member]
        have different : first.name ≠ parameter.name := fun same =>
          parts.1 (same ▸ List.mem_map_of_mem member)
        simpa using different

theorem checkArguments_of_known
    (distinct : (event.inputs.map fun parameter => parameter.name).Nodup)
    (known : ∀ entry ∈ arguments, ∃ parameter ∈ event.indexed, parameter.name = entry.1) :
    event.checkArguments arguments = .ok () := by
  rw [checkArguments_eq_ok_iff]
  intro entry member
  rcases known entry member with ⟨parameter, indexed, same⟩
  rcases List.mem_filter.mp indexed with ⟨inside, flagged⟩
  refine ⟨parameter, ?_, flagged⟩
  rw [← same]
  exact find?_of_nodup distinct inside

theorem parameterFilters_of_reads {parameters : List EventParameter}
    (single : ∀ parameter ∈ parameters, ∀ type, parameter.resolve = .ok type →
      type.isArray = false)
    (read : List.Forall₂ (EventParameter.Reads arguments) parameters asked) :
    event.parameterFilters arguments parameters =
      .ok ((asked.map AbiValue.topic).map fun topic => some (.exact topic)) := by
  rw [parameterFilters_eq_ok_iff, List.map_map, List.forall₂_map_right_iff]
  induction read with
  | nil => exact .nil
  | @cons parameter value parameters values first _ induction =>
      refine .cons ?_ (induction fun other member => single other (by simp [member]))
      rcases first.given with ⟨json, type, given, resolved, read⟩
      have plain := single parameter (by simp) type resolved
      rw [positionFilter, given]
      simp [EventParameter.topicFilter_of_ofJson resolved plain read]

theorem filter_of_asksFor {contract address : Option Address} {options : FilterOptions}
    (filterable : event.Filterable types) (asks : event.AsksFor options asked)
    (free : (options.blockHash.isSome &&
      (options.fromBlock.isSome || options.toBlock.isSome)) = false)
    (agreed : filterAddress contract options.address = .ok address) :
    event.filter contract options =
      .ok ⟨address, options.fromBlock, options.toBlock, options.blockHash,
        (event.topic?.toList ++ asked.map AbiValue.topic).map
          fun topic => some (.exact topic)⟩ := by
  refine filter_eq_ok_iff.mpr ⟨free, address, _, agreed, ?_, rfl⟩
  rw [chosenTopics_of_none asks.implicit, topicFilters_eq_ok_iff]
  exact ⟨checkArguments_of_known filterable.distinct asks.known, _,
    parameterFilters_of_reads filterable.single asks.read, List.map_append⟩

/-! ## What is read back -/

theorem mem_zip_ofWord {parameters : List EventParameter}
    (read : List.Forall₂ (EventParameter.Reads arguments) parameters asked)
    (resolved : List.Forall₂ (fun parameter type => parameter.resolve = .ok type)
      parameters types)
    {parameter : EventParameter} {value : AbiValue}
    (member : (parameter, value) ∈ parameters.zip asked) {type : AbiType}
    (typing : parameter.resolve = .ok type) :
    (parameter, if type.fitsWord then value else .fixedBytes value.topic 32) ∈
      parameters.zip (List.zipWith AbiDecoding.ofWord (asked.map AbiValue.topic) types) := by
  induction read generalizing types with
  | nil => cases member
  | @cons first wanted rest others reads _ induction =>
      cases resolved with
      | @cons _ known _ types head tail =>
          rw [List.zip_cons_cons, List.mem_cons, Prod.mk.injEq] at member
          rw [List.map_cons, List.zipWith_cons_cons, List.zip_cons_cons]
          rcases member with ⟨rfl, rfl⟩ | member
          · rcases reads with ⟨json, _, _, same, read⟩
            rw [typing] at head same
            cases head
            cases same
            rw [AbiDecoding.ofWord_topic_eq (Parameter.resolve_admitted typing)
              (AbiValue.ofJson_hasType read)]
            exact List.mem_cons_self
          · exact List.mem_cons_of_mem _ (induction tail member)

theorem dataValues_encodeSequence {values : List AbiValue}
    (typed : List.Forall₂ AbiValue.HasType values types)
    (admitted : ∀ type ∈ types, type.Admitted) (solid : ∀ type ∈ types, type.Solid)
    (small : (AbiValue.encodeSequence values).length < Width.limit 64)
    (shallow : AbiValue.mostWindows values ≤ AbiDecoding.maxDepth) :
    dataValues types (AbiValue.encodeSequence values) = .ok values := by
  have read := AbiValue.decodeSequence_encodeSequence typed admitted solid small shallow
  rcases types with _ | ⟨first, rest⟩
  · cases typed
    rfl
  · have some : AbiValue.ofNoData? (.tuple (first :: rest)) = none := by
      rw [AbiValue.ofNoData?, AbiValue.ofNoDataAll?, (solid first (by simp)).ofNoData?_eq_none]
      rfl
    rw [dataValues, some, read]

theorem decodeLog_of_parts {words : List Word} {unindexed : List AbiValue} {log : LogEntry}
    (filterable : event.Filterable types) (topicCount : words.length = event.indexed.length)
    (topics : log.topics = event.topic?.toList ++ words)
    (decoded : dataValues (selectTypes false event.inputs types) log.data = .ok unindexed)
    (dataCount : unindexed.length = event.unindexed.length) :
    ∃ found, event.decodeLog log = .ok found ∧
      found.arguments.names = event.inputs.map (fun parameter => parameter.name) ∧
      (∀ parameter value, (parameter, value) ∈ event.indexed.zip
          (List.zipWith AbiDecoding.ofWord words (selectTypes true event.inputs types)) →
        (parameter.name, value) ∈ found.arguments) ∧
      ∀ parameter value, (parameter, value) ∈ event.unindexed.zip unindexed →
        (parameter.name, value) ∈ found.arguments := by
  rcases readArguments_of_parts filterable.resolved filterable.few topicCount decoded dataCount with
    ⟨values, count, fromTopics, fromData, read⟩
  have names : argumentNames 0 event.inputs = _ := argumentNames_of_named filterable.named
  have filed : ((event.inputs.map fun parameter => parameter.name).zip values).map Prod.fst =
      event.inputs.map fun parameter => parameter.name :=
    List.map_fst_zip (by simp [count])
  have distinct := filterable.distinct
  rw [← filed] at distinct
  rw [← topics, names, NamedValues.ofPairs_of_nodup distinct] at read
  have decodes : event.decodeLog log =
      .ok ⟨event.name, (event.inputs.map fun parameter => parameter.name).zip values, log.address,
        log.blockNumber, log.blockHash, log.transactionHash, log.transactionIndex,
        log.logIndex⟩ := by
    rw [decodeLog, read]
  have beside {parameter : EventParameter} {value : AbiValue}
      (member : (parameter, value) ∈ event.inputs.zip values) :
      (parameter.name, value) ∈
        (event.inputs.map fun parameter => parameter.name).zip values := by
    rw [List.zip_map_left]
    exact List.mem_map_of_mem (f := Prod.map (fun parameter => parameter.name) id) member
  refine ⟨_, decodes, filed, ?_, ?_⟩
  · intro parameter value member
    rw [← fromTopics, indexed_eq_filter] at member
    exact beside (mem_zip_of_mem_zip_select member)
  · intro parameter value member
    rw [← fromData, unindexed_eq_filter] at member
    exact beside (mem_zip_of_mem_zip_select member)

/-- A filter that asks for one value of every indexed parameter has one topic at
each position. A log with these topics, and with the other values in its data, is
decoded to the values asked for, or their hashes, and the values of the data. -/
theorem decodeLog_filter {contract address : Option Address} {options : FilterOptions}
    {values : List AbiValue} (filterable : event.Filterable types)
    (asks : event.AsksFor options asked)
    (free : (options.blockHash.isSome &&
      (options.fromBlock.isSome || options.toBlock.isSome)) = false)
    (agreed : filterAddress contract options.address = .ok address)
    (typed : List.Forall₂ AbiValue.HasType values (selectTypes false event.inputs types))
    (inverts : dataValues (selectTypes false event.inputs types)
      (AbiValue.encodeSequence values) = .ok values) :
    ∃ params topics, event.filter contract options = .ok params ∧
      params.topics = topics.map (fun topic => some (.exact topic)) ∧
      ∀ log : LogEntry, log.topics = topics → log.data = AbiValue.encodeSequence values →
        ∃ found, event.decodeLog log = .ok found ∧
          found.arguments.names = event.inputs.map (fun parameter => parameter.name) ∧
          (∀ parameter value, (parameter, value) ∈ event.indexed.zip asked →
            ∀ type, parameter.resolve = .ok type →
              (parameter.name, if type.fitsWord then value else .fixedBytes value.topic 32) ∈
                found.arguments) ∧
          ∀ parameter value, (parameter, value) ∈ event.unindexed.zip values →
            (parameter.name, value) ∈ found.arguments := by
  refine ⟨_, _, filter_of_asksFor filterable asks free agreed, rfl, ?_⟩
  intro log topics data
  have each := resolveTypes_eq_ok_iff.mp filterable.resolved
  have topicCount : (asked.map AbiValue.topic).length = event.indexed.length := by
    rw [List.length_map, asks.read.length_eq]
  have dataCount : values.length = event.unindexed.length := by
    rw [typed.length_eq, unindexed_eq_filter]
    exact (forall₂_select each).length_eq.symm
  rcases decodeLog_of_parts filterable topicCount topics (by rw [data, inverts]) dataCount with
    ⟨found, decoded, names, fromTopics, fromData⟩
  refine ⟨found, decoded, names, ?_, fromData⟩
  intro parameter value member type typing
  apply fromTopics
  have indexedTypes : List.Forall₂ (fun parameter type => parameter.resolve = .ok type)
      event.indexed (selectTypes true event.inputs types) := by
    rw [indexed_eq_filter]
    exact forall₂_select each
  exact mem_zip_ofWord asks.read indexedTypes member typing

def paid : EventEntry :=
  ⟨"Paid", [⟨⟨"urgent", "bool", none, []⟩, true⟩, ⟨⟨"receipt", "bytes", none, []⟩, false⟩,
    ⟨⟨"memo", "string", none, []⟩, true⟩], false⟩

def paidOptions : FilterOptions :=
  { FilterOptions.empty with
    arguments := [("memo", .string "rent"), ("urgent", .boolean true)] }

theorem paid_filterable : paid.Filterable [.bool, .bytes, .string] := by
  refine ⟨rfl, by decide, by decide, by decide, ?_⟩
  intro parameter member type typing
  have listed : parameter ∈
      [⟨⟨"urgent", "bool", none, []⟩, true⟩, ⟨⟨"memo", "string", none, []⟩, true⟩] := member
  simp only [List.mem_cons, List.not_mem_nil, or_false] at listed
  rcases listed with rfl | rfl
  · have same : Except.ok AbiType.bool = Except.ok type := typing
    cases same
    rfl
  · have same : Except.ok AbiType.string = Except.ok type := typing
    cases same
    rfl

theorem paid_asksFor : paid.AsksFor paidOptions [.bool true, .string "rent"] := by
  have urgent : EventParameter.Reads paidOptions.arguments
      ⟨⟨"urgent", "bool", none, []⟩, true⟩ (.bool true) :=
    ⟨.boolean true, .bool, rfl, rfl, rfl⟩
  have memo : EventParameter.Reads paidOptions.arguments
      ⟨⟨"memo", "string", none, []⟩, true⟩ (.string "rent") :=
    ⟨.string "rent", .string, rfl, rfl, rfl⟩
  refine ⟨rfl, ?_, .cons urgent (.cons memo .nil)⟩
  intro entry member
  have listed : entry ∈ [("memo", Json.string "rent"), ("urgent", .boolean true)] := member
  simp only [List.mem_cons, List.not_mem_nil, or_false] at listed
  rcases listed with rfl | rfl
  · exact ⟨_, .tail _ (.head _), rfl⟩
  · exact ⟨_, .head _, rfl⟩

theorem decodeLog_filter_paid :
    ∃ params topics, paid.filter none paidOptions = .ok params ∧
      params.topics = topics.map (fun topic => some (.exact topic)) ∧
      ∀ log : LogEntry, log.topics = topics → log.data = AbiValue.encodeSequence [.bytes [1, 2]] →
        ∃ found, paid.decodeLog log = .ok found ∧
          found.arguments.names = ["urgent", "receipt", "memo"] ∧
          ("urgent", AbiValue.bool true) ∈ found.arguments ∧
          ("memo", AbiValue.fixedBytes (AbiValue.topic (.string "rent")) 32) ∈ found.arguments ∧
          ("receipt", AbiValue.bytes [1, 2]) ∈ found.arguments := by
  have agreed : filterAddress none paidOptions.address = .ok none := rfl
  have typed : List.Forall₂ AbiValue.HasType [.bytes [1, 2]]
      (selectTypes false paid.inputs [.bool, .bytes, .string]) :=
    .cons .bytes .nil
  have only : selectTypes false paid.inputs [.bool, .bytes, .string] = [.bytes] := rfl
  have inverts := dataValues_encodeSequence typed (by simp [only, AbiType.Admitted.bytes])
    (by simp [only, AbiType.Solid.bytes]) (by decide) (by decide)
  rcases decodeLog_filter paid_filterable paid_asksFor rfl agreed typed inverts with
    ⟨params, topics, built, exact, decodes⟩
  refine ⟨params, topics, built, exact, ?_⟩
  intro log sameTopics sameData
  rcases decodes log sameTopics sameData with ⟨found, decoded, names, indexed, unindexed⟩
  refine ⟨found, decoded, names, ?_, ?_, ?_⟩
  · exact indexed _ _ (.head _) .bool rfl
  · exact indexed _ _ (.tail _ (.head _)) .string rfl
  · exact unindexed _ _ (.head _)

end EventEntry

end ContractClient
