import ContractClient.Contract.Event
import ContractClient.Proofs.Conversations
import ContractClient.Proofs.Dispatching
import ContractClient.Proofs.LogDecoding
import ContractClient.Proofs.Traversal

/-! Past and future logs. Asking for logs once and installing a filter state the same filter
to a node, and what a node replies is read in the same way. -/

namespace ContractClient

open Dialogue Traversal

/-! ## Reading replies -/

namespace EventEntry

variable {event : EventEntry} {reply : Json} {items : List Json} {logs : List LogEntry}

def Decodes (event : EventEntry) (item : Json) (decoded : DecodedEvent) : Prop :=
  ∃ log, LogEntry.ofJson? item = some log ∧ event.decodeLog log = .ok decoded

theorem decodeLogs_eq_mapM (event : EventEntry) (logs : List LogEntry) :
    event.decodeLogs logs = logs.mapM event.decodeLog := by
  induction logs with
  | nil => rfl
  | cons log rest induction =>
      rw [decodeLogs, List.mapM_cons, induction]
      cases event.decodeLog log with
      | error reason => rfl
      | ok decoded => cases rest.mapM event.decodeLog <;> rfl

theorem ofReply?_eq_some_iff :
    LogEntry.ofReply? reply = some logs ↔ ∃ items, reply = .array items ∧
      List.Forall₂ (fun item log => LogEntry.ofJson? item = some log) items logs := by
  cases reply with
  | array items =>
      have read : LogEntry.ofReply? (.array items) = items.mapM LogEntry.ofJson? := rfl
      rw [read, mapM_eq_some_iff]
      simp
  | null | boolean | number | string | object => simp [LogEntry.ofReply?, Json.asItems?]

theorem forall₂_decodes_iff {decoded : List DecodedEvent} :
    (∃ logs, List.Forall₂ (fun item log => LogEntry.ofJson? item = some log) items logs ∧
      event.decodeLogs logs = .ok decoded) ↔ List.Forall₂ event.Decodes items decoded := by
  simp only [decodeLogs_eq_mapM, mapM_eq_ok_iff]
  constructor
  · rintro ⟨logs, read, decodes⟩
    induction read generalizing decoded with
    | nil =>
        cases decodes
        exact .nil
    | cons head _ induction =>
        cases decodes with
        | cons first rest => exact .cons ⟨_, head, first⟩ (induction rest)
  · intro decodes
    induction decodes with
    | nil => exact ⟨[], .nil, .nil⟩
    | cons head _ induction =>
        rcases head with ⟨log, read, first⟩
        rcases induction with ⟨logs, others, rest⟩
        exact ⟨log :: logs, .cons read others, .cons first rest⟩

/-- The result of a reading that decodes the logs of a reply, and that has no events if a reply
does not consist of logs. -/
structure Interprets (event : EventEntry) (reply : Json)
    (result : Except ContractError (List DecodedEvent)) : Prop where
  logs : ∀ logs, LogEntry.ofReply? reply = some logs → result = event.decodeLogs logs
  other : LogEntry.ofReply? reply = none → ∀ events, result ≠ .ok events

theorem interprets_decodeReply (event : EventEntry) (reply : Json) :
    event.Interprets reply (event.decodeReply reply) where
  logs := by
    intro logs found
    rw [decodeReply, found]
  other := by
    intro none events succeeded
    rw [decodeReply, none] at succeeded
    cases succeeded

section Interprets

variable {result : Except ContractError (List DecodedEvent)}

theorem Interprets.eq_ok_iff (interprets : event.Interprets reply result)
    {events : List DecodedEvent} :
    result = .ok events ↔
      ∃ items, reply = .array items ∧ List.Forall₂ event.Decodes items events := by
  simp only [← forall₂_decodes_iff]
  constructor
  · intro succeeded
    cases found : LogEntry.ofReply? reply with
    | none => exact absurd succeeded (interprets.other found events)
    | some logs =>
        rcases ofReply?_eq_some_iff.mp found with ⟨items, listed, read⟩
        exact ⟨items, listed, logs, read, (interprets.logs logs found).symm.trans succeeded⟩
  · rintro ⟨items, listed, logs, read, decodes⟩
    have found := ofReply?_eq_some_iff.mpr ⟨items, listed, read⟩
    exact (interprets.logs logs found).trans decodes

end Interprets

/-- The first of the logs that is not decoded, and why. -/
structure FailsAt (event : EventEntry) (logs : List LogEntry) (log : LogEntry) (why : LogError) :
    Prop where
  first : ∃ before after decoded, logs = before ++ log :: after ∧
    List.Forall₂ (fun earlier found => event.decodeLog earlier = .ok found) before decoded
  failure : event.decodeLog log = .error (.logDecode event.signature log.describe why)

theorem failsAt_of_undecoded (undecoded : ∃ log ∈ logs, ∀ found, event.decodeLog log ≠ .ok found) :
    ∃ log why, event.FailsAt logs log why ∧
      event.decodeLogs logs = .error (.logDecode event.signature log.describe why) := by
  rw [decodeLogs_eq_mapM]
  cases taken : logs.mapM event.decodeLog with
  | ok events =>
      rcases undecoded with ⟨log, member, undecoded⟩
      rcases exists_of_mem_left (mapM_eq_ok_iff.mp taken) member with ⟨found, _, decoded⟩
      exact absurd decoded (undecoded found)
  | error reason =>
      rcases mapM_eq_error_iff.mp taken with ⟨before, log, after, decoded, split, earlier, failed⟩
      rcases logDecode_of_decodeLog failed with ⟨why, rfl⟩
      exact ⟨log, why, ⟨⟨before, after, decoded, split, earlier⟩, failed⟩, rfl⟩

/-- Two readings of a reply. They give the same events, one for each item of the reply and
in the order of the items. If all items are logs, but not all are decoded, both fail as the
first log does that is not decoded. -/
structure ReadAlike (event : EventEntry) (reply : Json)
    (first second : Except ContractError (List DecodedEvent)) : Prop where
  same : ∀ events, first = .ok events ↔ second = .ok events
  each : ∀ events, first = .ok events ↔
    ∃ items, reply = .array items ∧ List.Forall₂ event.Decodes items events
  failure : ∀ items logs, reply = .array items →
    List.Forall₂ (fun item log => LogEntry.ofJson? item = some log) items logs →
    (∃ log ∈ logs, ∀ found, event.decodeLog log ≠ .ok found) →
    ∃ log why, event.FailsAt logs log why ∧
      first = .error (.logDecode event.signature log.describe why) ∧
      second = .error (.logDecode event.signature log.describe why)

theorem Interprets.readAlike {first second : Except ContractError (List DecodedEvent)}
    (former : event.Interprets reply first) (latter : event.Interprets reply second) :
    event.ReadAlike reply first second where
  same := fun events => former.eq_ok_iff.trans latter.eq_ok_iff.symm
  each := fun events => former.eq_ok_iff
  failure := by
    intro items logs listed read undecoded
    have found := ofReply?_eq_some_iff.mpr ⟨items, listed, read⟩
    rcases failsAt_of_undecoded undecoded with ⟨log, why, fails, failed⟩
    exact ⟨log, why, fails, (former.logs logs found).trans failed,
      (latter.logs logs found).trans failed⟩

end EventEntry

/-! ## Asking a node -/

namespace ContractEvent

variable {handle : ContractEvent} {options : FilterOptions}

/-- A filter with the options is not refused before the node is asked for it. -/
def Accepts (handle : ContractEvent) (options : FilterOptions) : Prop :=
  ∀ reason, handle.createFilter options ≠ .done (.error reason)

theorem createFilter_of_accepts (accepts : handle.Accepts options) :
    ∃ endpoint params, handle.contract.endpoint = some endpoint ∧
      handle.filterParams options = .ok params ∧
      handle.createFilter options =
        Dialogue.request endpoint .newFilter [params.toJson] fun reply =>
          reply.asText?.map fun id => ⟨id, params, handle.filterBuilder.withOptions options⟩ := by
  rw [Accepts, createFilter] at accepts
  rw [createFilter]
  split at accepts
  · exact absurd rfl (accepts _)
  · next begins =>
      rw [if_neg begins]
      cases connected : handle.contract.node with
      | error reason =>
          simp only [connected] at accepts
          exact absurd rfl (accepts reason)
      | ok endpoint =>
          simp only [connected, FilterBuilder.deploy] at accepts ⊢
          cases built : (handle.filterBuilder.withOptions options).build with
          | error reason =>
              simp only [built] at accepts
              exact absurd rfl (accepts reason)
          | ok params =>
              exact ⟨endpoint, params, Contract.node_eq_ok_iff.mp connected, built, rfl⟩

section Asked

variable {endpoint : Endpoint} {params : FilterParams}
  (connected : handle.contract.endpoint = some endpoint)
  (stated : handle.filterParams options = .ok params)

include connected stated

theorem getLogs_of_params :
    handle.getLogs options =
      (Dialogue.request endpoint .getLogs [params.toJson] LogEntry.ofReply?).andThen
        fun logs => .done (handle.event.decodeLogs logs) := by
  rw [getLogs, stated]
  dsimp only
  rw [Contract.node_eq_ok_iff.mpr connected]

theorem questions_getLogs (respondent : Respondent σ) (state : σ) :
    (handle.getLogs options).questions respondent state =
      [.node endpoint .getLogs [params.toJson]] := by
  rw [getLogs_of_params connected stated, questions_eq_map, exchanges_andThen_done,
    ← questions_eq_map, questions_request]

theorem interprets_getLogs {respondent : Respondent σ} {state after : σ} {reply : Json}
    (answered : respondent (.node endpoint .getLogs [params.toJson]) state =
      (.ok reply, after)) :
    handle.event.Interprets reply ((handle.getLogs options).run respondent state).1 := by
  rw [getLogs_of_params connected stated, run_andThen_done, Dialogue.request,
    run_ask answered]
  constructor
  · intro logs found
    simp only [found, run, Except.bind]
  · intro none events succeeded
    simp only [none, run, Except.bind] at succeeded
    cases succeeded

end Asked

/-- Options with which a filter can be installed state one filter, whether logs are asked for
once or a filter is installed; and whatever a node replies with is read alike by the
query and by every filter that was installed. -/
theorem queries_agree (accepts : handle.Accepts options) :
    ∃ endpoint, ∃ params : FilterParams, handle.contract.endpoint = some endpoint ∧
      (∀ {σ : Type} (respondent : Respondent σ) (state : σ),
        (handle.createFilter options).questions respondent state =
          [.node endpoint .newFilter [params.toJson]] ∧
        (handle.getLogs options).questions respondent state =
          [.node endpoint .getLogs [params.toJson]]) ∧
      ∀ {σ τ : Type} {installer : Respondent σ} {start installed : σ} {filter : LiveFilter}
        {respondent : Respondent τ} {state after : τ} {reply : Json},
        (handle.createFilter options).run installer start = (.ok filter, installed) →
        respondent (.node endpoint .getLogs [params.toJson]) state = (.ok reply, after) →
        handle.event.ReadAlike reply ((handle.getLogs options).run respondent state).1
          (filter.formatEntries reply) := by
  rcases createFilter_of_accepts accepts with ⟨endpoint, params, connected, stated, installing⟩
  refine ⟨endpoint, params, connected, ?_, ?_⟩
  · intro σ respondent state
    have asked := questions_getLogs connected stated respondent state
    exact ⟨by rw [installing, questions_request], asked⟩
  · intro σ τ installer start installed filter respondent state after reply created answered
    rw [installing] at created
    rcases run_request_eq_ok created with ⟨identifier, read⟩
    rcases Option.map_eq_some_iff.mp read with ⟨id, _, rfl⟩
    have once := interprets_getLogs connected stated answered
    exact once.readAlike (handle.event.interprets_decodeReply reply)

def pulse : ContractEvent :=
  ⟨⟨.empty, none, none, some ⟨"http://localhost:8545", 30000⟩, none⟩, ⟨"Pulse", [], true⟩⟩

def pulseOptions : FilterOptions := { FilterOptions.empty with fromBlock := some .latest }

def pulseLog (topics : List Json) : Json :=
  .object [("address", .string "0x0000000000000000000000000000000000000007"),
    ("data", .string "0x"), ("topics", .array topics)]

def pulseTopic : Json :=
  .string "0x0000000000000000000000000000000000000000000000000000000000000001"

def pulseEntry (topics : List Word) : LogEntry :=
  ⟨FixedBytes.ofNat 20 7, topics, [], none, none, none, none, none, false⟩

def pulsing : Respondent Unit :=
  .ofNodes fun
    | _, .newFilter => .ok (.string "0x1")
    | _, _ => .ok (.array [pulseLog [], pulseLog [pulseTopic]])

theorem queries_agree_pulses :
    pulse.Accepts pulseOptions ∧
    ∃ filter, (pulse.createFilter pulseOptions).run pulsing () = (.ok filter, ()) ∧
      ∃ log why, pulse.event.FailsAt [pulseEntry [], pulseEntry [FixedBytes.ofNat 32 1]] log why ∧
        ((pulse.getLogs pulseOptions).run pulsing ()).1 =
          .error (.logDecode "Pulse()" log.describe why) ∧
        filter.formatEntries (.array [pulseLog [], pulseLog [pulseTopic]]) =
          .error (.logDecode "Pulse()" log.describe why) := by
  have accepts : pulse.Accepts pulseOptions := nofun
  have first : LogEntry.ofJson? (pulseLog []) = some (pulseEntry []) := by decide +kernel
  have second : LogEntry.ofJson? (pulseLog [pulseTopic]) =
      some (pulseEntry [FixedBytes.ofNat 32 1]) := by decide +kernel
  have undecoded : ∀ found,
      pulse.event.decodeLog (pulseEntry [FixedBytes.ofNat 32 1]) ≠ .ok found := nofun
  have installed : (pulse.createFilter pulseOptions).run pulsing () = (.ok _, ()) := rfl
  rcases queries_agree accepts with ⟨endpoint, params, connected, sent, alike⟩
  cases connected
  have answered : pulsing (.node ⟨"http://localhost:8545", 30000⟩ .getLogs [params.toJson]) () =
      (.ok (.array [pulseLog [], pulseLog [pulseTopic]]), ()) := rfl
  have readAlike := alike installed answered
  exact ⟨accepts, _, installed, readAlike.failure _ _ rfl (.cons first (.cons second .nil))
    ⟨_, .tail _ (.head _), undecoded⟩⟩

end ContractEvent

end ContractClient
