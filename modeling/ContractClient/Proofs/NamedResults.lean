import ContractClient.Contract.Result
import ContractClient.Proofs.LogOccurrences
import ContractClient.Proofs.Members
import Mathlib.Data.List.Induction

/-! Results under names. Of the values that are filed under one name only the last is kept. What
a record of named outputs or of arguments holds is therefore every decoded value if the names are
different, and falls short of them if a name is repeated. Its JSON form neither adds to the loss
nor makes up for it. -/

namespace ContractClient

/-! ## Filing under names -/

namespace NamedValues

variable {named : NamedValues} {listed : List String} {values : List AbiValue}

theorem names_put (name : String) (value : AbiValue) (named : NamedValues) :
    (put name value named).names =
      if name ∈ named.names then named.names else named.names ++ [name] := by
  induction named with
  | nil => rfl
  | cons entry rest induction =>
      rcases entry with ⟨other, held⟩
      rw [put]
      by_cases same : name = other
      · simp [same, names]
      · have member : name ∈ NamedValues.names ((other, held) :: rest) ↔
            name ∈ NamedValues.names rest := by
          simp [names, same]
        rw [if_neg same]
        simp only [member]
        refine (congrArg (other :: ·) induction).trans ?_
        split <;> rfl

theorem lookup_put (name other : String) (value : AbiValue) (named : NamedValues) :
    Json.lookup name (put other value named) =
      if name = other then some value else Json.lookup name named := by
  induction named with
  | nil => rfl
  | cons entry rest induction =>
      rcases entry with ⟨held, old⟩
      rw [put]
      split
      · next same =>
          rw [Json.lookup, Json.lookup, ← same]
          split <;> rfl
      · next different =>
          rw [Json.lookup, induction]
          exact Json.lookup_swap different

theorem ofPairs_concat (pairs : List (String × AbiValue)) (pair : String × AbiValue) :
    ofPairs (pairs ++ [pair]) = put pair.1 pair.2 (ofPairs pairs) := by
  rw [ofPairs, List.foldl_append]
  rfl

theorem names_ofPairs (pairs : List (String × AbiValue)) :
    (ofPairs pairs).names = (pairs.map Prod.fst).eraseDups := by
  -- On the pair that is filed last: what is filed before it does not depend on it.
  induction pairs using List.reverseRecOn with
  | nil => rfl
  | append_singleton rest pair induction =>
      rw [ofPairs_concat, names_put, induction, List.map_append, List.eraseDups_append]
      simp only [List.mem_eraseDups]
      split
      · next filed => simp [List.removeAll, filed]
      · next new => simp [List.removeAll, new, List.eraseDups_cons]

theorem nodup_names_ofPairs (pairs : List (String × AbiValue)) :
    (ofPairs pairs).names.Nodup := by
  induction pairs using List.reverseRecOn with
  | nil => exact List.nodup_nil
  | append_singleton rest pair induction =>
      rw [ofPairs_concat, names_put]
      split
      · exact induction
      · next new =>
          rw [← List.concat_eq_append]
          exact induction.concat new

theorem lookup_ofPairs (name : String) (pairs : List (String × AbiValue)) :
    Json.lookup name (ofPairs pairs) = Json.lookup name pairs.reverse := by
  induction pairs using List.reverseRecOn with
  | nil => rfl
  | append_singleton rest pair induction =>
      rw [ofPairs_concat, lookup_put, induction, List.reverse_append]
      rfl

/-- What values that are filed under a list of names come to. Every name has one entry, with the
last of its values, and the entries stand in the order in which the names first come up. There is
an entry for each value if the names are different, and only then. -/
structure Files (listed : List String) (values : List AbiValue) (named : NamedValues) :
    Prop where
  distinct : named.names.Nodup
  names : named.names = listed.eraseDups
  last : ∀ name, Json.lookup name named = Json.lookup name (listed.zip values).reverse
  complete : named.length = listed.length ↔ listed.Nodup
  whole : listed.Nodup → named = listed.zip values

theorem files_ofPairs (count : listed.length = values.length) :
    Files listed values (ofPairs (listed.zip values)) := by
  have filed : (listed.zip values).map Prod.fst = listed :=
    List.map_fst_zip (Nat.le_of_eq count)
  have ordered := names_ofPairs (listed.zip values)
  have distinct := nodup_names_ofPairs (listed.zip values)
  rw [filed] at ordered
  have same : ∀ name, name ∈ listed ↔ name ∈ (ofPairs (listed.zip values)).names := by
    intro name
    rw [ordered, List.mem_eraseDups]
  refine ⟨distinct, ordered, fun name => lookup_ofPairs name _, ?_, ?_⟩
  · rw [nodup_iff_length_eq distinct same, NamedValues.names, List.length_map, eq_comm]
  · intro different
    exact ofPairs_of_nodup (filed.symm ▸ different)

theorem members_toJson (distinct : named.names.Nodup) :
    ∃ members, named.toJson = .object members ∧
      members.Perm (named.map fun entry => (entry.1, entry.2.toJson)) := by
  refine ⟨_, rfl, Json.perm_membersOf ?_⟩
  rw [List.map_map]
  exact distinct

end NamedValues

/-! ## Outputs -/

namespace FunctionEntry

variable {entry : FunctionEntry}

theorem length_of_takeOutputs {outputs : List Parameter} {cursor : AbiDecoding.Cursor}
    {values : List AbiValue} (taken : takeOutputs outputs cursor = .ok values) :
    values.length = outputs.length := by
  induction outputs generalizing cursor values with
  | nil =>
      cases taken
      rfl
  | cons parameter rest induction =>
      rw [takeOutputs] at taken
      split at taken
      · cases taken
      · split at taken
        · cases taken
        · split at taken
          · cases taken
          · next others taken' =>
              cases taken
              rw [List.length_cons, induction taken', List.length_cons]

theorem length_of_outputValues {output : Bytes} {values : List AbiValue}
    (taken : entry.outputValues output = .ok values) : values.length = entry.outputs.length := by
  rw [outputValues] at taken
  split at taken
  · cases taken
  · exact length_of_takeOutputs taken

end FunctionEntry

namespace ReturnValue

def values : ReturnValue → List AbiValue
  | .empty => []
  | .single value => [value]
  | .tuple values => values
  | .named entries => entries.map Prod.snd

/-- Results that present the values of outputs: by themselves up to one, in a list if some of
several outputs has no name, and otherwise filed under the names of the outputs. -/
inductive Presents : List Parameter → List AbiValue → ReturnValue → Prop
  | empty : Presents [] [] .empty
  | single {output : Parameter} {value : AbiValue} : Presents [output] [value] (.single value)
  | tuple {outputs : List Parameter} {values : List AbiValue} (several : 2 ≤ outputs.length)
      (unnamed : ∃ output ∈ outputs, output.name = "") : Presents outputs values (.tuple values)
  | named {outputs : List Parameter} {values : List AbiValue} {entries : NamedValues}
      (several : 2 ≤ outputs.length) (all : ∀ output ∈ outputs, output.name ≠ "")
      (files : NamedValues.Files (outputs.map Parameter.name) values entries) :
      Presents outputs values (.named entries)

inductive Renders : ReturnValue → Json → Prop
  | empty : Renders .empty .null
  | single {value : AbiValue} : Renders (.single value) value.toJson
  | tuple {values : List AbiValue} : Renders (.tuple values) (.array (values.map AbiValue.toJson))
  | named {entries : NamedValues} {members : List (String × Json)}
      (shown : members.Perm (entries.map fun entry => (entry.1, entry.2.toJson))) :
      Renders (.named entries) (.object members)

variable {outputs : List Parameter} {values : List AbiValue} {result : ReturnValue}

theorem presents_ofOutputs (count : values.length = outputs.length) :
    Presents outputs values (ofOutputs outputs values) := by
  rcases values with _ | ⟨first, _ | ⟨second, rest⟩⟩
  · cases List.eq_nil_of_length_eq_zero count.symm
    exact .empty
  · rcases List.length_eq_one_iff.mp count.symm with ⟨output, rfl⟩
    exact .single
  · have several : 2 ≤ outputs.length := by
      rw [← count, List.length_cons, List.length_cons]
      omega
    rw [ofOutputs]
    split
    · next all =>
        have named : ∀ output ∈ outputs, output.name ≠ "" := by simpa using all
        exact .named several named (NamedValues.files_ofPairs (by rw [List.length_map, count]))
    · next some =>
        exact .tuple several (by simpa using some)
    all_goals simp

theorem Presents.renders (presents : Presents outputs values result) :
    Renders result result.toJson := by
  cases presents with
  | empty => exact .empty
  | single => exact .single
  | tuple => exact .tuple
  | named several all files =>
      rcases NamedValues.members_toJson files.distinct with ⟨members, shown, perm⟩
      rw [toJson, shown]
      exact .named perm

theorem Presents.values_eq_iff (presents : Presents outputs values result)
    (count : values.length = outputs.length) :
    result.values = values ↔
      (2 ≤ outputs.length → (∀ output ∈ outputs, output.name ≠ "") →
        (outputs.map Parameter.name).Nodup) := by
  cases presents with
  | empty => simp [ReturnValue.values]
  | single => simp [ReturnValue.values]
  | tuple several unnamed =>
      rcases unnamed with ⟨output, member, none⟩
      exact iff_of_true rfl fun _ all => absurd none (all output member)
  | named several all files =>
      have listed : (outputs.map Parameter.name).length = values.length := by
        rw [List.length_map, count]
      rw [ReturnValue.values]
      constructor
      · intro held _ _
        have length := congrArg List.length held
        rw [List.length_map, ← listed] at length
        exact files.complete.mp length
      · intro different
        rw [files.whole (different several all), List.map_snd_zip (Nat.le_of_eq listed.symm)]

end ReturnValue

/-! ## Results and records -/

theorem FunctionEntry.presents_of_decodeOutput {entry : FunctionEntry} {output : Bytes}
    {result : ReturnValue} (decodes : entry.decodeOutput output = .ok result) :
    ∃ values, entry.outputValues output = .ok values ∧
      values.length = entry.outputs.length ∧ result.Presents entry.outputs values := by
  rw [decodeOutput] at decodes
  split at decodes
  · cases decodes
  · next values taken =>
      cases decodes
      have count := length_of_outputValues taken
      exact ⟨values, taken, count, ReturnValue.presents_ofOutputs count⟩

theorem EventEntry.files_of_decodeLog {event : EventEntry} {log : LogEntry}
    {decoded : DecodedEvent} (decodes : event.decodeLog log = .ok decoded) :
    ∃ types values, resolveTypes event.inputs = .ok types ∧
      event.Gives types log.topics log.data values ∧
      NamedValues.Files (argumentNames 0 event.inputs) values decoded.arguments := by
  rcases gives_of_decodeLog decodes with ⟨types, values, resolved, gives, rfl⟩
  refine ⟨types, values, resolved, gives, NamedValues.files_ofPairs ?_⟩
  rw [argumentNames_eq_mapIdx, List.length_mapIdx, gives.count]

theorem DecodedEvent.member_args (decoded : DecodedEvent) :
    decoded.toJson.member? "args" = some decoded.arguments.toJson := by
  simp [toJson, Json.ofPairs, Json.membersOf, Json.member?, Json.lookup_insertMember]

/-- A result has every decoded output once and in order, and a record of an event every argument,
unless names are repeated: if outputs that all have names share one, or inputs of the event do,
then the values before the last one of that name are lost. The JSON forms show what the results
and the records hold. -/
theorem decoded_values_kept (entry : FunctionEntry) (output : Bytes) (log : LogEntry) :
    (∀ result, entry.decodeOutput output = .ok result →
      ∃ values, entry.outputValues output = .ok values ∧
        values.length = entry.outputs.length ∧
        result.Presents entry.outputs values ∧ result.Renders result.toJson ∧
        (result.values = values ↔
          (2 ≤ entry.outputs.length → (∀ output ∈ entry.outputs, output.name ≠ "") →
            (entry.outputs.map Parameter.name).Nodup))) ∧
    (∀ (event : EventEntry) decoded, event.decodeLog log = .ok decoded →
      ∃ types values, EventEntry.resolveTypes event.inputs = .ok types ∧
        event.Gives types log.topics log.data values ∧
        NamedValues.Files (EventEntry.argumentNames 0 event.inputs) values decoded.arguments ∧
        ∃ members, decoded.toJson.member? "args" = some (.object members) ∧
          members.Perm (decoded.arguments.map fun entry => (entry.1, entry.2.toJson))) ∧
    ∀ (event : NamedEvent) decoded, event.decodeLog log = .ok decoded →
      (decoded.arguments.length = event.inputs.length ↔
        EventEntry.DifferentlyNamed event.inputs) := by
  refine ⟨?_, ?_, ?_⟩
  · intro result decodes
    rcases entry.presents_of_decodeOutput decodes with ⟨values, taken, count, presents⟩
    exact ⟨values, taken, count, presents, presents.renders, presents.values_eq_iff count⟩
  · intro event decoded decodes
    rcases event.files_of_decodeLog decodes with ⟨types, values, resolved, gives, files⟩
    rcases NamedValues.members_toJson files.distinct with ⟨members, shown, perm⟩
    refine ⟨types, values, resolved, gives, files, members, ?_, perm⟩
    rw [DecodedEvent.member_args, shown]
  · intro event decoded decodes
    rcases EventEntry.files_of_decodeLog decodes with ⟨_, _, _, _, files⟩
    have length : (EventEntry.argumentNames 0 event.inputs).length = event.inputs.length := by
      rw [EventEntry.argumentNames_eq_mapIdx, List.length_mapIdx]
    rw [← length, files.complete, EventEntry.nodup_argumentNames_iff event.named]

def doors (first second : String) : FunctionEntry :=
  ⟨"doors", [], [⟨first, "bool", none, []⟩, ⟨second, "bool", none, []⟩], .view⟩

def doorsMoved (first second : String) : EventEntry :=
  ⟨"DoorsMoved", [⟨⟨first, "bool", none, []⟩, false⟩, ⟨⟨second, "bool", none, []⟩, false⟩], true⟩

def doorsData : Bytes :=
  (FixedBytes.ofNat 32 0).bytes ++ (FixedBytes.ofNat 32 1).bytes

def doorsLog : LogEntry :=
  ⟨FixedBytes.ofNat 20 7, [], doorsData, none, none, none, none, none, false⟩

theorem decoded_values_kept_doors :
    (∃ result, (doors "front" "back").decodeOutput doorsData = .ok result ∧
      result.values = [.bool false, .bool true]) ∧
    ∃ decoded, (doorsMoved "front" "back").decodeLog doorsLog = .ok decoded ∧
      decoded.arguments.length = 2 := by
  have outputs : (doors "front" "back").decodeOutput doorsData =
      .ok (.named [("front", .bool false), ("back", .bool true)]) := by rfl
  have taken : (doors "front" "back").outputValues doorsData =
      .ok [.bool false, .bool true] := by rfl
  have kept := decoded_values_kept (doors "front" "back") doorsData doorsLog
  constructor
  · rcases kept.1 _ outputs with ⟨values, taken', _, _, _, all⟩
    cases taken.symm.trans taken'
    refine ⟨_, outputs, all.mpr ?_⟩
    intro _ _
    decide
  · have read : (doorsMoved "front" "back").readArguments [] doorsData =
        .ok [("front", .bool false), ("back", .bool true)] := by rfl
    have decodes : (doorsMoved "front" "back").decodeLog doorsLog =
        .ok ⟨"DoorsMoved", [("front", .bool false), ("back", .bool true)], doorsLog.address, none,
          none, none, none, none⟩ := by
      rw [EventEntry.decodeLog, doorsLog, read]
      rfl
    let moved : NamedEvent := { doorsMoved "front" "back" with named := by decide }
    refine ⟨_, decodes, (kept.2.2 moved _ decodes).mpr ?_⟩
    simp [EventEntry.DifferentlyNamed, moved, doorsMoved]

/-- What is known of the first of two doors of one name is lost. -/
theorem repeated_name_dropped :
    (doors "open" "open").outputValues doorsData = .ok [.bool false, .bool true] ∧
      (doors "open" "open").decodeOutput doorsData = .ok (.named [("open", .bool true)]) ∧
      ∃ decoded, (doorsMoved "open" "open").decodeLog doorsLog = .ok decoded ∧
        decoded.arguments.length ≠ (doorsMoved "open" "open").inputs.length := by
  have read : (doorsMoved "open" "open").readArguments [] doorsData =
      .ok [("open", .bool true)] := by rfl
  refine ⟨by rfl, by rfl, ⟨"DoorsMoved", [("open", .bool true)], doorsLog.address, none, none,
    none, none, none⟩, ?_, by decide⟩
  rw [EventEntry.decodeLog, doorsLog, read]
  rfl

end ContractClient
