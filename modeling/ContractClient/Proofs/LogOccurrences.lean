import ContractClient.Proofs.ArgumentNames

/-! Which logs are decoded, and to what. An event decodes the logs whose topics are its own and one
for each indexed parameter, and whose data holds the other parameters; every parameter then
has the value of its own topic or of its own place in the data. All other logs fail whole. -/

namespace ContractClient

/-! ## Numbers of values -/

theorem AbiDecoding.length_of_takeEach {types : List AbiType} {cursor last : Cursor}
    {values : List AbiValue} (taken : takeEach types cursor = .ok (values, last)) :
    values.length = types.length := by
  induction types generalizing cursor values with
  | nil =>
      cases taken
      rfl
  | cons type rest induction =>
      rw [takeEach] at taken
      split at taken
      · cases taken
      · split at taken
        · cases taken
        · next others _ taken' =>
            cases taken
            rw [List.length_cons, induction taken', List.length_cons]

theorem AbiValue.length_of_ofNoDataAll? {types : List AbiType} {values : List AbiValue}
    (known : ofNoDataAll? types = some values) : values.length = types.length := by
  induction types generalizing values with
  | nil =>
      cases known
      rfl
  | cons type rest induction =>
      rw [ofNoDataAll?] at known
      split at known
      · next others _ known' =>
          cases known
          rw [List.length_cons, induction known', List.length_cons]
      · cases known

theorem AbiValue.length_of_decodeSequence {types : List AbiType} {data : Bytes}
    {values : List AbiValue} (decoded : decodeSequence types data = .ok values) :
    values.length = types.length := by
  rw [decodeSequence] at decoded
  split at decoded
  · next taken =>
      cases decoded
      exact AbiDecoding.length_of_takeEach taken
  · cases decoded

namespace EventEntry

variable {event : EventEntry} {types : List AbiType} {topics : List Word} {data : Bytes}
  {log : LogEntry} {decoded : DecodedEvent}

theorem length_of_dataValues {values : List AbiValue} (decoded : dataValues types data = .ok values) :
    values.length = types.length := by
  rw [dataValues] at decoded
  split at decoded
  · next known =>
      cases decoded
      rw [AbiValue.ofNoData?, Option.map_eq_some_iff] at known
      rcases known with ⟨_, known, same⟩
      cases same
      exact AbiValue.length_of_ofNoDataAll? known
  · split at decoded
    · next found =>
        cases decoded
        exact AbiValue.length_of_decodeSequence found
    · cases decoded

/-! ## Logs of an event -/

/-- The log is one of the event: it has the event's own topic, unless the event is anonymous, and
a topic for each indexed parameter, and its data can be decoded as the other parameters. -/
structure Matches (event : EventEntry) (types : List AbiType) (topics : List Word)
    (data : Bytes) : Prop where
  own : event.anonymous = false → topics.head? = some event.selector
  count : topics.length = event.indexed.length + if event.anonymous then 0 else 1
  data : ∃ values, dataValues (selectTypes false event.inputs types) data = .ok values

/-- The values of all parameters as a log gives them: those of the indexed parameters are the
topics behind the event's own, those of the others are in the data, each in order. -/
structure Gives (event : EventEntry) (types : List AbiType) (topics : List Word) (data : Bytes)
    (values : List AbiValue) : Prop where
  count : values.length = event.inputs.length
  topics : select true event.inputs values = List.zipWith AbiDecoding.ofWord
    (topics.drop event.topic?.toList.length) (selectTypes true event.inputs types)
  data : dataValues (selectTypes false event.inputs types) data =
    .ok (select false event.inputs values)

theorem exists_parameterTopics_iff :
    (∃ words, event.parameterTopics topics = .ok words) ↔
      (event.anonymous = false → topics.head? = some event.selector) ∧
        topics.length = event.indexed.length + if event.anonymous then 0 else 1 := by
  simp only [parameterTopics_eq_ok_iff, topic?]
  cases event.anonymous with
  | true => simp
  | false =>
      cases topics with
      | nil => simp
      | cons first rest =>
          simp only [Bool.false_eq_true, if_false, Option.toList_some, List.singleton_append,
            List.cons.injEq, List.head?_cons, Option.some.injEq, List.length_cons,
            Nat.add_right_cancel_iff, true_implies]
          constructor
          · intro parts
            rcases parts with ⟨words, ⟨same, rfl⟩, count⟩
            exact ⟨same, count⟩
          · intro parts
            exact ⟨rest, ⟨parts.1, rfl⟩, parts.2⟩

theorem matches_of_readArguments {arguments : NamedValues}
    (read : event.readArguments topics data = .ok arguments) :
    ∃ types, resolveTypes event.inputs = .ok types ∧ event.topicCount ≤ maxTopics ∧
      event.Matches types topics data := by
  simp only [readArguments, bind, Except.bind] at read
  split at read
  · cases read
  · next types resolved =>
      split at read
      · cases read
      · next few =>
          split at read
          · cases read
          · next words found =>
              split at read
              · cases read
              · next unindexed taken =>
                  have parts := exists_parameterTopics_iff.mp ⟨words, found⟩
                  exact ⟨types, resolved, Nat.not_lt.mp few, parts.1, parts.2, unindexed, taken⟩

theorem readArguments_of_matches (resolved : resolveTypes event.inputs = .ok types)
    (few : event.topicCount ≤ maxTopics) (fits : event.Matches types topics data) :
    ∃ values, event.Gives types topics data values ∧
      event.readArguments topics data =
        .ok (NamedValues.ofPairs ((argumentNames 0 event.inputs).zip values)) := by
  rcases exists_parameterTopics_iff.mpr ⟨fits.own, fits.count⟩ with ⟨words, found⟩
  rcases parameterTopics_eq_ok_iff.mp found with ⟨rfl, topicCount⟩
  rcases fits.data with ⟨unindexed, taken⟩
  have dataCount : unindexed.length = event.unindexed.length := by
    rw [length_of_dataValues taken, unindexed_eq_filter]
    exact (forall₂_select (resolveTypes_eq_ok_iff.mp resolved)).length_eq.symm
  rcases readArguments_of_parts resolved few topicCount taken dataCount with
    ⟨values, count, fromTopics, fromData, read⟩
  refine ⟨values, ⟨count, ?_, ?_⟩, read⟩
  · rw [List.drop_left, fromTopics]
  · rw [fromData, taken]

theorem gives_of_decodeLog (decodes : event.decodeLog log = .ok decoded) :
    ∃ types values, resolveTypes event.inputs = .ok types ∧
      event.Gives types log.topics log.data values ∧
      decoded = ⟨event.name,
        NamedValues.ofPairs ((argumentNames 0 event.inputs).zip values), log.address,
        log.blockNumber, log.blockHash, log.transactionHash, log.transactionIndex,
        log.logIndex⟩ := by
  rw [decodeLog] at decodes
  split at decodes
  · cases decodes
  · next arguments read =>
      cases decodes
      rcases matches_of_readArguments read with ⟨types, resolved, few, fits⟩
      rcases readArguments_of_matches resolved few fits with ⟨values, gives, again⟩
      cases read.symm.trans again
      exact ⟨types, values, resolved, gives, rfl⟩

end EventEntry

/-! ## Decoding -/

/-- The event as which a log is decoded: every parameter has one entry, in the order of
declaration and under its name or its position, and says what the log gives for it. -/
structure DecodedEvent.Records (event : EventEntry) (types : List AbiType) (log : LogEntry)
    (decoded : DecodedEvent) : Prop where
  kind : decoded.event = event.name
  names : decoded.arguments.names = event.inputs.mapIdx EventEntry.argumentName
  values : event.Gives types log.topics log.data (decoded.arguments.map Prod.snd)
  address : decoded.address = log.address
  blockNumber : decoded.blockNumber = log.blockNumber
  blockHash : decoded.blockHash = log.blockHash
  transactionHash : decoded.transactionHash = log.transactionHash
  transactionIndex : decoded.transactionIndex = log.transactionIndex
  logIndex : decoded.logIndex = log.logIndex

namespace EventEntry

variable {event : EventEntry} {types : List AbiType} {log : LogEntry} {decoded : DecodedEvent}

/-- An event that can be decoded, and whose parameters can be told apart by their names. -/
structure Decodable (event : EventEntry) (types : List AbiType) : Prop where
  resolved : resolveTypes event.inputs = .ok types
  few : event.topicCount ≤ maxTopics
  distinct : DifferentlyNamed event.inputs

theorem Decodable.exists_decodeLog_iff (decodable : event.Decodable types) (log : LogEntry) :
    (∃ decoded, event.decodeLog log = .ok decoded) ↔ event.Matches types log.topics log.data := by
  constructor
  · intro succeeds
    rcases succeeds with ⟨decoded, decodes⟩
    rw [decodeLog] at decodes
    split at decodes
    · cases decodes
    · next read =>
        rcases matches_of_readArguments read with ⟨others, resolved, _, fits⟩
        cases decodable.resolved.symm.trans resolved
        exact fits
  · intro fits
    rcases readArguments_of_matches decodable.resolved decodable.few fits with ⟨values, _, read⟩
    exact ⟨_, by rw [decodeLog, read]⟩

theorem Decodable.records {event : NamedEvent} (decodable : event.Decodable types)
    (decodes : event.decodeLog log = .ok decoded) :
    decoded.Records event.toEventEntry types log := by
  rcases gives_of_decodeLog decodes with ⟨others, values, resolved, gives, rfl⟩
  cases decodable.resolved.symm.trans resolved
  have names : argumentNames 0 event.inputs = event.inputs.mapIdx argumentName := by
    simp [argumentNames_eq_mapIdx]
  have counted : (argumentNames 0 event.inputs).length = values.length := by
    rw [names, List.length_mapIdx, gives.count]
  have filed := List.map_fst_zip (Nat.le_of_eq counted)
  have distinct : (argumentNames 0 event.inputs).Nodup :=
    (nodup_argumentNames_iff event.named).mpr decodable.distinct
  rw [← filed] at distinct
  rw [NamedValues.ofPairs_of_nodup distinct]
  refine ⟨rfl, filed.trans names, ?_, rfl, rfl, rfl, rfl, rfl, rfl⟩
  dsimp only
  rw [List.map_snd_zip (Nat.le_of_eq counted.symm)]
  exact gives

/-- A log is decoded exactly if it is one of the event, and any other log fails whole, with an
error that names the event by its signature. For an event as interfaces declare it, every parameter
then has the value of its own topic or of its own place in the data. -/
theorem decodes_exactly (types : List AbiType) (log : LogEntry) :
    (∀ event : EventEntry, event.Decodable types →
      ((∃ decoded, event.decodeLog log = .ok decoded) ↔
        event.Matches types log.topics log.data) ∧
      ∀ reason, event.decodeLog log = .error reason →
        ∃ why, reason = .logDecode event.signature log.describe why) ∧
    ∀ event : NamedEvent, event.Decodable types →
      ∀ decoded, event.decodeLog log = .ok decoded →
        decoded.Records event.toEventEntry types log := by
  constructor
  · intro event decodable
    exact ⟨decodable.exists_decodeLog_iff log, fun reason => logDecode_of_decodeLog⟩
  · intro event decodable decoded
    exact decodable.records

def switched : EventEntry :=
  ⟨"Switched", [⟨⟨"", "bool", none, []⟩, true⟩, ⟨⟨"", "bool", none, []⟩, false⟩,
    ⟨⟨"memo", "string", none, []⟩, true⟩], false⟩

def switchedLog : LogEntry :=
  ⟨FixedBytes.ofNat 20 7, [switched.selector, FixedBytes.ofNat 32 0, FixedBytes.ofNat 32 9],
    (FixedBytes.ofNat 32 1).bytes, some 12, none, none, none, none, false⟩

def switchedNamed : NamedEvent :=
  { switched with named := by decide }

theorem decodes_exactly_switched :
    switched.Decodable [.bool, .bool, .string] ∧
      ∃ decoded, switchedNamed.decodeLog switchedLog = .ok decoded ∧
        decoded.arguments.names = ["0", "1", "memo"] ∧
        select true switched.inputs (decoded.arguments.map Prod.snd) =
          [.bool false, .fixedBytes (FixedBytes.ofNat 32 9) 32] ∧
        decoded.blockNumber = some 12 := by
  have decodable : switched.Decodable [.bool, .bool, .string] := by
    refine ⟨rfl, by decide, ?_⟩
    simp [DifferentlyNamed, switched]
  have given : dataValues [.bool] switchedLog.data = .ok [.bool true] := rfl
  have fits : switched.Matches [.bool, .bool, .string] switchedLog.topics switchedLog.data :=
    ⟨fun _ => rfl, rfl, _, given⟩
  have exactly := decodes_exactly [.bool, .bool, .string] switchedLog
  rcases (exactly.1 switched decodable).1.mpr fits with ⟨decoded, decodes⟩
  have records := exactly.2 switchedNamed decodable decoded decodes
  refine ⟨decodable, decoded, decodes, records.names, records.values.topics.trans ?_,
    records.blockNumber⟩
  rfl

end EventEntry

end ContractClient
