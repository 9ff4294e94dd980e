import ContractClient.Log.Decoding
import ContractClient.Proofs.Types

/-! How a log is taken apart. The values of an event's parameters come from two
lists, the topics and the data; `select` says which of the values of all
parameters come from which, and reading puts both back into one order. -/

namespace ContractClient

namespace EventEntry

/-! ## Values of indexed parameters and of the others -/

section Select

variable {α : Type} {indexed : Bool}

def select (indexed : Bool) (parameters : List EventParameter) (beside : List α) : List α :=
  ((parameters.zip beside).filter fun pair => pair.1.indexed == indexed).map Prod.snd

theorem select_cons (parameter : EventParameter) (parameters : List EventParameter) (first : α)
    (rest : List α) :
    select indexed (parameter :: parameters) (first :: rest) =
      if parameter.indexed = indexed then first :: select indexed parameters rest
      else select indexed parameters rest := by
  by_cases chosen : parameter.indexed = indexed
  · simp [select, chosen]
  · simp [select, chosen]

theorem forall₂_select {Related : EventParameter → α → Prop} {parameters : List EventParameter}
    {beside : List α} (related : List.Forall₂ Related parameters beside) :
    List.Forall₂ Related (parameters.filter fun parameter => parameter.indexed == indexed)
      (select indexed parameters beside) := by
  induction related with
  | nil => exact .nil
  | @cons parameter first parameters rest head _ induction =>
      rw [select_cons]
      by_cases chosen : parameter.indexed = indexed
      · rw [if_pos chosen, List.filter_cons_of_pos (by simpa using chosen)]
        exact .cons head induction
      · rw [if_neg chosen, List.filter_cons_of_neg (by simpa using chosen)]
        exact induction

theorem mem_zip_of_mem_zip_select {parameters : List EventParameter} {beside : List α}
    {pair : EventParameter × α}
    (member : pair ∈ (parameters.filter fun parameter => parameter.indexed == indexed).zip
      (select indexed parameters beside)) :
    pair ∈ parameters.zip beside := by
  induction parameters generalizing beside with
  | nil => cases member
  | cons parameter parameters induction =>
      rcases beside with _ | ⟨first, rest⟩
      · simp [select] at member
      · rw [select_cons] at member
        by_cases chosen : parameter.indexed = indexed
        · rw [if_pos chosen, List.filter_cons_of_pos (by simpa using chosen),
            List.zip_cons_cons, List.mem_cons] at member
          rcases member with rfl | member
          · simp
          · simp [induction member]
        · rw [if_neg chosen, List.filter_cons_of_neg (by simpa using chosen)] at member
          simp [induction member]

/-! The lists of an event's parameters are those that `select` goes by. -/

theorem indexed_eq_filter (event : EventEntry) :
    event.indexed = event.inputs.filter fun parameter => parameter.indexed == true := by
  simp [EventEntry.indexed]

theorem unindexed_eq_filter (event : EventEntry) :
    event.unindexed = event.inputs.filter fun parameter => parameter.indexed == false := by
  simp [unindexed]

end Select

/-! ## Arguments -/

/-- The names under which the values of parameters are filed, the first of which
stands at `position`. -/
def argumentNames (position : Nat) : List EventParameter → List String
  | [] => []
  | parameter :: rest => argumentName position parameter :: argumentNames (position + 1) rest

theorem argumentNames_of_named {parameters : List EventParameter} {position : Nat}
    (named : ∀ parameter ∈ parameters, parameter.name ≠ "") :
    argumentNames position parameters = parameters.map fun parameter => parameter.name := by
  induction parameters generalizing position with
  | nil => rfl
  | cons parameter rest induction =>
      have first : parameter.name.isEmpty = false := by
        simpa using named parameter (by simp)
      rw [argumentNames, argumentName, first,
        induction fun other member => named other (by simp [member])]
      rfl

theorem assign_of_lengths {parameters : List EventParameter} (position : Nat)
    {topics data : List AbiValue}
    (topicCount : (parameters.filter fun parameter => parameter.indexed == true).length =
      topics.length)
    (dataCount : (parameters.filter fun parameter => parameter.indexed == false).length =
      data.length) :
    ∃ values, values.length = parameters.length ∧ select true parameters values = topics ∧
      select false parameters values = data ∧
      assign position parameters topics data =
        .ok ((argumentNames position parameters).zip values) := by
  induction parameters generalizing position topics data with
  | nil =>
      have noTopics : topics = [] := List.eq_nil_of_length_eq_zero topicCount.symm
      have noData : data = [] := List.eq_nil_of_length_eq_zero dataCount.symm
      subst noTopics noData
      exact ⟨[], rfl, rfl, rfl, rfl⟩
  | cons parameter rest induction =>
      cases source : parameter.indexed with
      | true =>
          rw [List.filter_cons_of_pos (by simp [source])] at topicCount
          rw [List.filter_cons_of_neg (by simp [source])] at dataCount
          rcases topics with _ | ⟨topic, topics⟩
          · simp at topicCount
          · rcases induction (position + 1) (by simpa using topicCount) dataCount with
              ⟨values, count, fromTopics, fromData, assigned⟩
            refine ⟨topic :: values, by simp [count], ?_, ?_, ?_⟩
            · simp [select_cons, source, fromTopics]
            · simp [select_cons, source, fromData]
            · simp [assign, source, assigned, argumentNames]
      | false =>
          rw [List.filter_cons_of_neg (by simp [source])] at topicCount
          rw [List.filter_cons_of_pos (by simp [source])] at dataCount
          rcases data with _ | ⟨item, data⟩
          · simp at dataCount
          · rcases induction (position + 1) topicCount (by simpa using dataCount) with
              ⟨values, count, fromTopics, fromData, assigned⟩
            refine ⟨item :: values, by simp [count], ?_, ?_, ?_⟩
            · simp [select_cons, source, fromTopics]
            · simp [select_cons, source, fromData]
            · simp [assign, source, assigned, argumentNames]

/-! ## Logs -/

variable {event : EventEntry} {topics words : List Word}

theorem parameterTopics_eq_ok_iff :
    event.parameterTopics topics = .ok words ↔
      topics = event.topic?.toList ++ words ∧ words.length = event.indexed.length := by
  unfold parameterTopics
  cases own : event.topic? with
  | none =>
      have count : event.topicCount = event.indexed.length := by simp [topicCount, own]
      rw [count, Option.toList_none, List.nil_append]
      by_cases all : topics.length = event.indexed.length
      · rw [if_neg (by simpa using all), Except.ok.injEq]
        constructor
        · rintro rfl
          exact ⟨rfl, all⟩
        · exact And.left
      · rw [if_pos all]
        simp only [reduceCtorEq, false_iff]
        rintro ⟨rfl, count⟩
        exact all count
  | some expected =>
      have count : event.topicCount = event.indexed.length + 1 := by simp [topicCount, own]
      rw [count, Option.toList_some, List.singleton_append]
      cases topics with
      | nil => simp
      | cons found rest =>
          rw [List.length_cons, List.cons.injEq]
          by_cases all : rest.length = event.indexed.length
          · rw [if_neg (by simpa using all)]
            dsimp only
            by_cases same : found = expected
            · simp only [same, if_true, Except.ok.injEq, true_and]
              constructor
              · rintro rfl
                exact ⟨rfl, all⟩
              · exact And.left
            · simp [same]
          · rw [if_pos (by simpa using all)]
            simp only [reduceCtorEq, false_iff]
            rintro ⟨⟨_, rfl⟩, count⟩
            exact all count

theorem resolveTypes_eq_ok_iff {parameters : List EventParameter} {types : List AbiType} :
    resolveTypes parameters = .ok types ↔
      List.Forall₂ (fun parameter type => parameter.resolve = .ok type) parameters types := by
  rw [resolveTypes]
  cases found : Parameter.resolveAll (parameters.map EventParameter.toParameter) with
  | error reason =>
      simp only [reduceCtorEq, false_iff]
      intro each
      have all := Parameter.resolveAll_eq_ok_iff.mpr (List.forall₂_map_left_iff.mpr each)
      rw [found] at all
      cases all
  | ok others =>
      have each := List.forall₂_map_left_iff.mp (Parameter.resolveAll_eq_ok_iff.mp found)
      rw [Except.ok.injEq]
      constructor
      · rintro rfl
        exact each
      · intro all
        have same := Parameter.resolveAll_eq_ok_iff.mpr (List.forall₂_map_left_iff.mpr all)
        rw [found] at same
        exact Except.ok.inj same

theorem readArguments_of_parts {types : List AbiType} {data : Bytes} {unindexed : List AbiValue}
    (resolved : resolveTypes event.inputs = .ok types) (few : event.topicCount ≤ maxTopics)
    (topicCount : words.length = event.indexed.length)
    (decoded : dataValues (selectTypes false event.inputs types) data = .ok unindexed)
    (dataCount : unindexed.length = event.unindexed.length) :
    ∃ values, values.length = event.inputs.length ∧
      select true event.inputs values =
        List.zipWith AbiDecoding.ofWord words (selectTypes true event.inputs types) ∧
      select false event.inputs values = unindexed ∧
      event.readArguments (event.topic?.toList ++ words) data =
        .ok (NamedValues.ofPairs ((argumentNames 0 event.inputs).zip values)) := by
  have topics := parameterTopics_eq_ok_iff.mpr ⟨rfl, topicCount⟩
  have typeCount : (selectTypes true event.inputs types).length = event.indexed.length := by
    rw [indexed_eq_filter]
    exact (forall₂_select (resolveTypes_eq_ok_iff.mp resolved)).length_eq.symm
  have valueCount : (event.inputs.filter fun parameter => parameter.indexed == true).length =
      (List.zipWith AbiDecoding.ofWord words (selectTypes true event.inputs types)).length := by
    rw [← indexed_eq_filter, List.length_zipWith, topicCount, typeCount, Nat.min_self]
  have restCount : (event.inputs.filter fun parameter => parameter.indexed == false).length =
      unindexed.length := by
    rw [← unindexed_eq_filter, dataCount]
  rcases assign_of_lengths 0 valueCount restCount with
    ⟨values, count, fromTopics, fromData, assigned⟩
  refine ⟨values, count, fromTopics, fromData, ?_⟩
  rw [readArguments]
  simp only [resolved, topics, decoded, assigned, bind, Except.bind, if_neg (Nat.not_lt.mpr few)]

theorem logDecode_of_decodeLog {log : LogEntry} {reason : ContractError}
    (failed : event.decodeLog log = .error reason) :
    ∃ why, reason = .logDecode event.signature log.describe why := by
  rw [decodeLog] at failed
  split at failed
  · next why _ =>
      cases failed
      exact ⟨why, rfl⟩
  · cases failed

end EventEntry

namespace NamedValues

theorem put_of_not_mem {name : String} {value : AbiValue} {named : NamedValues}
    (new : name ∉ named.names) : put name value named = named ++ [(name, value)] := by
  induction named with
  | nil => rfl
  | cons first rest induction =>
      rcases first with ⟨other, held⟩
      simp only [names, List.map_cons, List.mem_cons, not_or] at new
      rw [put, if_neg new.1, induction new.2]
      rfl

theorem foldl_put_of_nodup (named : NamedValues) {pairs : NamedValues}
    (distinct : (named ++ pairs).names.Nodup) :
    pairs.foldl (fun named pair => put pair.1 pair.2 named) named = named ++ pairs := by
  induction pairs generalizing named with
  | nil => simp
  | cons pair rest induction =>
      have new : pair.1 ∉ NamedValues.names named := by
        intro member
        rw [names, List.map_append, List.map_cons] at distinct
        exact (List.nodup_append.mp distinct).2.2 _ member _ (by simp) rfl
      rw [List.foldl_cons, put_of_not_mem new, induction]
      · simp
      · simpa [names] using distinct

theorem ofPairs_of_nodup {pairs : List (String × AbiValue)}
    (distinct : (pairs.map Prod.fst).Nodup) : ofPairs pairs = pairs :=
  foldl_put_of_nodup [] distinct

end NamedValues

end ContractClient
