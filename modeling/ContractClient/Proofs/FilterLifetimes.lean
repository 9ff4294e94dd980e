import ContractClient.Proofs.LogQueries
import ContractClient.Proofs.Members
import ContractClient.Proofs.Sessions

/-! The lives of filters. A filter of a server stands from the call that is answered with its
network and its name until a call uninstalls it. Calls about a filter that stands reach the node
of its network, and those about any other filter reach none. -/

namespace ContractClient

open Dialogue

/-! ## Creations -/

theorem ContractEvent.event_of_createFilter {respondent : Respondent σ} {handle : ContractEvent}
    {options : FilterOptions} {state : σ} {filter : LiveFilter}
    (created : ((handle.createFilter options).run respondent state).1 = .ok filter) :
    filter.builder.event = handle.event := by
  have accepts : handle.Accepts options := by
    intro reason refused
    rw [refused] at created
    cases created
  rcases createFilter_of_accepts accepts with ⟨endpoint, params, _, _, installing⟩
  rw [installing] at created
  rcases run_request_eq_ok (Prod.ext created rfl) with ⟨reply, read⟩
  rcases Option.map_eq_some_iff.mp read with ⟨id, _, rfl⟩
  rfl

theorem Server.findEvent_of_prepareEvent {located : Located} {request : EventRequest}
    {handle : ContractEvent} {options : FilterOptions}
    (prepared : prepareEvent located request = .ok (handle, options)) :
    located.contract.findEvent request.event = .ok handle.event := by
  rw [prepareEvent, Contract.event] at prepared
  cases found : located.contract.findEvent request.event with
  | error reason =>
      rw [found] at prepared
      cases prepared
  | ok event =>
      rw [found] at prepared
      cases stated : request.options with
      | error reason =>
          rw [stated] at prepared
          cases prepared
      | ok options =>
          rw [stated] at prepared
          cases prepared
          rfl

theorem Server.member?_created (network id : String) (params : Json) :
    let answer := Json.ofPairs [("filter_id", .string id), ("network", .string network),
      ("params", params)]
    answer.member? "network" = some (.string network) ∧
      answer.member? "filter_id" = some (.string id) := by
  constructor <;> simp [Json.member?, Json.ofPairs, Json.membersOf, Json.lookup_insertMember]

namespace Turn

def Creates (respondent : Respondent σ) (turn : Turn σ) (key : FilterKey) : Prop :=
  (∃ request, turn.call = .createFilter request) ∧
    ∃ answer, turn.result respondent = .ok answer ∧
      answer.member? "network" = some (.string key.network) ∧
      answer.member? "filter_id" = some (.string key.filter)

def Uninstalls (turn : Turn σ) (key : FilterKey) : Prop :=
  (∃ request, turn.call = .uninstallFilter request) ∧
    turn.call.key? turn.server.config.defaultNetwork = some key

def IsAbout (respondent : Respondent σ) (turn : Turn σ) (event : EventEntry) : Prop :=
  ∃ request located, turn.call = .createFilter request ∧
    ((turn.server.locate request.target).run respondent turn.state).1.1 = .ok located ∧
    located.contract.findEvent request.event = .ok event

def Installs (respondent : Respondent σ) (turn : Turn σ) (filter : LiveFilter) : Prop :=
  ∃ request located after between handle options, turn.call = .createFilter request ∧
    (turn.server.locate request.target).run respondent turn.state =
      ((.ok located, after), between) ∧
    Server.prepareEvent located request = .ok (handle, options) ∧
    ((handle.createFilter options).run respondent between).1 = .ok filter

theorem Installs.isAbout {respondent : Respondent σ} {turn : Turn σ} {filter : LiveFilter}
    (installs : turn.Installs respondent filter) :
    turn.IsAbout respondent filter.builder.event := by
  rcases installs with ⟨request, located, _, _, handle, _, called, found, prepared, created⟩
  refine ⟨request, located, called, congrArg (·.1.1) found, ?_⟩
  rw [ContractEvent.event_of_createFilter created]
  exact Server.findEvent_of_prepareEvent prepared

section Keys

variable {respondent : Respondent σ} {turn : Turn σ} (key : FilterKey)

theorem not_creates_of_error {reason : ToolError}
    (failed : turn.result respondent = .error reason) : ¬ turn.Creates respondent key := by
  rintro ⟨_, answer, succeeded, _⟩
  cases failed.symm.trans succeeded

theorem not_creates_of_call (other : ∀ request, turn.call ≠ .createFilter request) :
    ¬ turn.Creates respondent key := by
  rintro ⟨⟨request, same⟩, _⟩
  exact other request same

theorem not_uninstalls_of_call (other : ∀ request, turn.call ≠ .uninstallFilter request) :
    ¬ turn.Uninstalls key := by
  rintro ⟨⟨request, same⟩, _⟩
  exact other request same

theorem creates_iff {request : EventRequest} {network id : String} {answer : Json}
    (called : turn.call = .createFilter request) (answered : turn.result respondent = .ok answer)
    (placed : answer.member? "network" = some (.string network))
    (named : answer.member? "filter_id" = some (.string id)) :
    turn.Creates respondent key ↔ key = ⟨network, id⟩ := by
  constructor
  · rintro ⟨_, other, succeeded, place, name⟩
    cases answered.symm.trans succeeded
    cases placed.symm.trans place
    cases named.symm.trans name
    rfl
  · intro same
    subst same
    exact ⟨⟨request, called⟩, answer, answered, placed, named⟩

theorem uninstalls_iff {request : UninstallRequest} {other : FilterKey}
    (called : turn.call = .uninstallFilter request)
    (named : turn.call.key? turn.server.config.defaultNetwork = some other) :
    turn.Uninstalls key ↔ key = other := by
  constructor
  · rintro ⟨_, alike⟩
    exact Option.some.inj (alike.symm.trans named)
  · intro same
    exact ⟨⟨request, called⟩, by rw [same, named]⟩

end Keys

inductive Leaves (respondent : Respondent σ) (turn : Turn σ) (key : FilterKey) :
    Option LiveFilter → Prop
  | created {filter : LiveFilter} {endpoint : Endpoint} (creates : turn.Creates respondent key)
      (installs : turn.Installs respondent filter)
      (connected : turn.server.networks.endpoint (some key.network) = .ok endpoint) :
      Leaves respondent turn key (some filter)
  | uninstalled (uncreated : ¬ turn.Creates respondent key) (uninstalls : turn.Uninstalls key) :
      Leaves respondent turn key none
  | kept (uncreated : ¬ turn.Creates respondent key) (standing : ¬ turn.Uninstalls key) :
      Leaves respondent turn key (turn.server.filters.find? key)

section Leaves

variable {respondent : Respondent σ} {turn : Turn σ} (key : FilterKey)

theorem leaves_of_installed {request : EventRequest} {network : String} {filter : LiveFilter}
    {endpoint : Endpoint} (called : turn.call = .createFilter request)
    (answered : turn.result respondent = .ok (Json.ofPairs [("filter_id", .string filter.id),
      ("network", .string network), ("params", filter.params.toJson)]))
    (installs : turn.Installs respondent filter)
    (connected : turn.server.networks.endpoint (some network) = .ok endpoint) :
    turn.Leaves respondent key
      ((turn.server.filters.insert ⟨network, filter.id⟩ filter).find? key) := by
  rcases Server.member?_created network filter.id filter.params.toJson with ⟨placed, named⟩
  have creates := creates_iff key called answered placed named
  rw [FilterTable.find?_insert]
  split
  · next same =>
      subst same
      exact .created (creates.mpr rfl) installs connected
  · next other =>
      apply Leaves.kept
      · intro created
        exact other (creates.mp created)
      · exact not_uninstalls_of_call key (by simp [called])

theorem leaves_of_uninstalled {request : UninstallRequest} {other : FilterKey}
    (called : turn.call = .uninstallFilter request)
    (named : turn.call.key? turn.server.config.defaultNetwork = some other) :
    turn.Leaves respondent key ((turn.server.filters.erase other).find? key) := by
  have uncreated : ¬ turn.Creates respondent key := not_creates_of_call key (by simp [called])
  have uninstalls := uninstalls_iff key called named
  rw [FilterTable.find?_erase]
  split
  · next same => exact .uninstalled uncreated (uninstalls.mpr same)
  · next different =>
      apply Leaves.kept uncreated
      intro uninstalled
      exact different (uninstalls.mp uninstalled)

theorem leaves_of_missing {reason : ToolError} {other : FilterKey}
    (answered : turn.result respondent = .error reason)
    (named : turn.call.key? turn.server.config.defaultNetwork = some other)
    (missing : turn.server.filters.find? other = none) :
    turn.Leaves respondent key (turn.server.filters.find? key) := by
  have uncreated : ¬ turn.Creates respondent key := not_creates_of_error key answered
  by_cases uninstalls : turn.Uninstalls key
  · have same := uninstalls.2.symm.trans named
    cases same
    rw [missing]
    exact .uninstalled uncreated uninstalls
  · exact .kept uncreated uninstalls

end Leaves

theorem leaves_after (respondent : Respondent σ) (turn : Turn σ) (key : FilterKey)
    (rooted : turn.server.networks.default = turn.server.config.defaultNetwork) :
    turn.Leaves respondent key ((turn.after respondent).filters.find? key) := by
  have serving := turn.serving respondent
  generalize called : turn.call = call at serving
  generalize answered : turn.result respondent = result at serving
  generalize turn.exchanges respondent = exchanges at serving
  generalize turn.after respondent = after at serving ⊢
  -- Only an installation and an uninstallation of this very key make a difference to it.
  cases serving with
  | refused contractual unasked =>
      apply Leaves.kept (not_creates_of_error key answered)
      intro uninstalls
      have named := uninstalls.2
      rw [← rooted, called, contractual] at named
      cases named
  | worked undertakes permitted unasked going =>
      apply Leaves.kept
      · apply not_creates_of_call
        intro request same
        rwa [← called, same] at undertakes
      · apply not_uninstalls_of_call
        intro request same
        rwa [← called, same] at undertakes
  | denied unasked going =>
      have standing : ¬ turn.Uninstalls key := not_uninstalls_of_call key (by simp [called])
      exact .kept (not_creates_of_error key answered) standing
  | installed found connected prepared created unasked going =>
      have installs : turn.Installs respondent _ :=
        ⟨_, _, _, _, _, _, called, found, prepared, created⟩
      exact leaves_of_installed key called answered installs connected
  | unknown named missing =>
      rw [rooted, ← called] at named
      exact leaves_of_missing key answered named missing
  | polled named stored asking =>
      have uncreated : ¬ turn.Creates respondent key := not_creates_of_call key (by simp [called])
      exact .kept uncreated (not_uninstalls_of_call key (by simp [called]))
  | uninstalled named stored asking =>
      rw [rooted, ← called] at named
      exact leaves_of_uninstalled key called named

end Turn

/-! ## Lives -/

/-- The filter of the key stands since a turn: it was created then, and in no later turn one
was created or uninstalled under the key. -/
def StandsSince (respondent : Respondent σ) (key : FilterKey) (creation : Turn σ)
    (turns : List (Turn σ)) : Prop :=
  ∃ earlier later, turns = earlier ++ creation :: later ∧ creation.Creates respondent key ∧
    ∀ turn ∈ later, ¬ turn.Creates respondent key ∧ ¬ turn.Uninstalls key

section Stands

variable {respondent : Respondent σ} {key : FilterKey} {creation turn : Turn σ}
  {turns : List (Turn σ)}

theorem standsSince_concat_iff :
    StandsSince respondent key creation (turns ++ [turn]) ↔
      (turn.Creates respondent key ∧ creation = turn) ∨
        (¬ turn.Creates respondent key ∧ ¬ turn.Uninstalls key ∧
          StandsSince respondent key creation turns) := by
  constructor
  · -- The last turn is the creation itself, or it is one of the turns that came later.
    rintro ⟨earlier, later, split, creates, quiet⟩
    rcases List.eq_nil_or_concat later with rfl | ⟨before, last, rfl⟩
    · rcases List.append_inj' split rfl with ⟨_, same⟩
      cases same
      exact .inl ⟨creates, rfl⟩
    · rw [List.concat_eq_append, ← List.cons_append, ← List.append_assoc] at split
      rcases List.append_inj' split rfl with ⟨front, same⟩
      cases same
      rw [List.concat_eq_append] at quiet
      rcases quiet turn (by simp) with ⟨uncreated, standing⟩
      have still := fun other member => quiet other (List.mem_append_left _ member)
      exact .inr ⟨uncreated, standing, earlier, before, front, creates, still⟩
  · rintro (⟨creates, rfl⟩ | ⟨uncreated, standing, earlier, later, rfl, creates, quiet⟩)
    · exact ⟨turns, [], rfl, creates, by simp⟩
    · refine ⟨earlier, later ++ [turn], by simp, creates, ?_⟩
      intro other member
      rcases List.mem_append.mp member with member | member
      · exact quiet other member
      · rw [List.mem_singleton.mp member]
        exact ⟨uncreated, standing⟩

theorem not_standsSince_nil : ¬ StandsSince respondent key creation [] := by
  rintro ⟨earlier, later, split, _⟩
  cases (List.append_eq_nil_iff.mp split.symm).2

end Stands

/-- What is filed under a key, as the calls so far have left it: the filter that stands, just
as it was created. -/
structure Tracked (respondent : Respondent σ) (networks : Networks) (key : FilterKey)
    (turns : List (Turn σ)) (filed : Option LiveFilter) : Prop where
  standing : ∀ creation, StandsSince respondent key creation turns →
    ∃ filter endpoint, filed = some filter ∧ creation.Installs respondent filter ∧
      networks.endpoint (some key.network) = .ok endpoint
  fallen : (∀ creation, ¬ StandsSince respondent key creation turns) → filed = none

theorem Tracked.concat {respondent : Respondent σ} {key : FilterKey} {turns : List (Turn σ)}
    {turn : Turn σ} {filed : Option LiveFilter}
    (tracked : Tracked respondent turn.server.networks key turns (turn.server.filters.find? key))
    (leaves : turn.Leaves respondent key filed) :
    Tracked respondent turn.server.networks key (turns ++ [turn]) filed := by
  cases leaves with
  | created creates installs connected =>
      constructor
      · intro creation stands
        rcases standsSince_concat_iff.mp stands with ⟨_, rfl⟩ | ⟨uncreated, _⟩
        · exact ⟨_, _, rfl, installs, connected⟩
        · exact absurd creates uncreated
      · intro fallen
        exact absurd (standsSince_concat_iff.mpr (.inl ⟨creates, rfl⟩)) (fallen turn)
  | uninstalled uncreated uninstalls =>
      constructor
      · intro creation stands
        rcases standsSince_concat_iff.mp stands with ⟨creates, _⟩ | ⟨_, standing, _⟩
        · exact absurd creates uncreated
        · exact absurd uninstalls standing
      · intro _
        rfl
  | kept uncreated standing =>
      constructor
      · intro creation stands
        rcases standsSince_concat_iff.mp stands with ⟨creates, _⟩ | ⟨_, _, since⟩
        · exact absurd creates uncreated
        · exact tracked.standing creation since
      · intro fallen
        apply tracked.fallen
        intro creation since
        exact fallen creation (standsSince_concat_iff.mpr (.inr ⟨uncreated, standing, since⟩))

/-! ## Calls about filters -/

namespace Turn

/-- A poll asks the node of the network for the filter, once and for nothing else, and reads
the reply as logs of the event. -/
def Polls (respondent : Respondent σ) (key : FilterKey) (event : EventEntry) (all : Bool)
    (turn : Turn σ) : Prop :=
  ∃ endpoint reply after, turn.server.networks.endpoint (some key.network) = .ok endpoint ∧
    turn.exchanges respondent =
      [⟨.node endpoint (if all then .getFilterLogs else .getFilterChanges) [.string key.filter],
        reply, after⟩] ∧
    turn.result respondent =
      ((reply.mapError ContractError.transport).bind fun logs =>
        (event.decodeReply logs).map Server.eventsJson).mapError .contract

theorem polls_of_asking {respondent : Respondent σ} {turn : Turn σ} {key : FilterKey}
    {filter : LiveFilter} {all : Bool} {endpoint : Endpoint}
    (connected : turn.server.networks.endpoint (some key.network) = .ok endpoint)
    (asking : key.Asking turn.server.networks
      (if all then .getFilterLogs else .getFilterChanges)
      (fun reply => (filter.formatEntries reply).map Server.eventsJson)
      (turn.exchanges respondent) (turn.result respondent)) :
    turn.Polls respondent key filter.builder.event all := by
  rw [Polls]
  generalize turn.exchanges respondent = exchanges at asking ⊢
  generalize turn.result respondent = result at asking ⊢
  cases asking with
  | unreachable unknown => cases unknown.symm.trans connected
  | asked known => exact ⟨_, _, _, known, rfl, rfl⟩

end Turn

/-! ## Sessions -/

/-- A server that is about to begin: no filters are installed, and the default network is that
of the configuration. -/
structure Server.Fresh (server : Server) : Prop where
  filters : server.filters = .empty
  network : server.networks.default = server.config.defaultNetwork

theorem Server.Fresh.of_ofConfig {config : Config} {store : InterfaceStore} {server : Server}
    (started : Server.ofConfig config store = .ok server) : server.Fresh := by
  rw [ofConfig, Networks.ofConfig] at started
  split at started
  · cases started
  · next networks connected =>
      split at started
      · cases started
      · cases started
        refine ⟨rfl, ?_⟩
        split at connected
        · cases connected
          rfl
        · cases connected

namespace Session

structure Tracks (respondent : Respondent σ) (server : Server) (key : FilterKey)
    (session : Session σ) : Prop where
  alike : server.Alike session.server
  tracked : Tracked respondent server.networks key session.turns
    (session.server.filters.find? key)

theorem tracks_serve (respondent : Respondent σ) {server : Server} (fresh : server.Fresh)
    (state : σ) (calls : List ToolCall) (key : FilterKey) :
    ((opened server state).serve respondent calls).Tracks respondent server key := by
  apply invariant_serve
  · intro session call tracks
    have alike := tracks.alike
    have served := ((session.turn call).serving respondent).alike
    have rooted : session.server.networks.default = session.server.config.defaultNetwork := by
      rw [alike.networks, alike.config, fresh.network]
    have tracked := tracks.tracked
    rw [← alike.networks] at tracked
    have next := tracked.concat ((session.turn call).leaves_after respondent key rooted)
    refine ⟨alike.trans served, ?_⟩
    rw [← alike.networks]
    exact next
  · refine ⟨⟨rfl, rfl⟩, ?_, ?_⟩
    · intro creation stands
      exact absurd stands not_standsSince_nil
    · intro _
      rw [opened, fresh.filters, FilterTable.find?_empty]

/-- After any calls, what is filed under a key is the filter that stands, just as its call has
installed it, and nothing if none stands. A poll of a filter that stands reaches the node of its
network once and is read with the event of the latest creation. Where no filter stands, calls
about it ask nothing and end in an error. -/
theorem filters_stand (respondent : Respondent σ) {server : Server} (fresh : server.Fresh)
    (state : σ) (calls : List ToolCall) (key : FilterKey) :
    let session := (opened server state).serve respondent calls
    session.turns.map Turn.call = calls ∧
    (∀ creation, StandsSince respondent key creation session.turns →
      ∃ filter event, session.server.filters.find? key = some filter ∧
        creation.Installs respondent filter ∧ creation.IsAbout respondent event ∧
        ∀ request, (ToolCall.pollFilter request).key? server.config.defaultNetwork = some key →
          (session.turn (.pollFilter request)).Polls respondent key event request.all) ∧
    ((∀ creation, ¬ StandsSince respondent key creation session.turns) →
      session.server.filters.find? key = none ∧
        ∀ call, call.key? server.config.defaultNetwork = some key →
          (session.turn call).exchanges respondent = [] ∧
            (session.turn call).result respondent =
              .error (.unknownFilter key.filter key.network)) := by
  intro session
  have tracks := tracks_serve respondent fresh state calls key
  have tracked := tracks.tracked
  have default : session.server.networks.default = server.config.defaultNetwork := by
    rw [tracks.alike.networks, fresh.network]
  refine ⟨calls_serve respondent (opened server state) calls, ?_, ?_⟩
  · intro creation since
    rcases tracked.standing creation since with ⟨filter, endpoint, stored, installs, connected⟩
    refine ⟨filter, filter.builder.event, stored, installs, installs.isAbout, ?_⟩
    intro request named
    rw [← tracks.alike.networks] at connected
    rw [← default] at named
    have serving := (session.turn (.pollFilter request)).serving respondent
    exact Turn.polls_of_asking connected (serving.asking_of_stored named stored)
  · intro fallen
    have missing := tracked.fallen fallen
    refine ⟨missing, ?_⟩
    intro call named
    rw [← default] at named
    have serving := (session.turn call).serving respondent
    exact serving.eq_of_missing named missing

def twinConfig : Config where
  defaultNetwork := "local"
  networks := [("local", ⟨"http://localhost:8545", 0, 30000⟩),
    ("sepolia", ⟨"http://localhost:8546", 0, 30000⟩)]
  contracts := []
  security := .default
  transport := Config.defaultTransport

def twin : Server where
  config := twinConfig
  networks :=
    ⟨twinConfig.networks.map fun (name, settings) =>
      (name, ⟨settings, ⟨settings.url, settings.timeout⟩⟩), "local"⟩
  store := .opened "cache" none
  filters := .empty

theorem twin_started : Server.ofConfig twinConfig (.opened "cache" none) = .ok twin := by
  have connected : Networks.ofConfig twinConfig = .ok twin.networks := by decide +kernel
  rw [Server.ofConfig, connected]
  rfl

def pulseTarget (network : Option String) : ContractTarget where
  contract := none
  address := none
  interface := some (.array [.object [("type", .string "event"), ("name", .string "Pulse"),
    ("inputs", .array []), ("anonymous", .boolean true)]])
  network

def installation (network : Option String) : ToolCall :=
  .createFilter ⟨pulseTarget network, "Pulse", [], some "latest", none, none⟩

def naming : Respondent Unit :=
  .ofNodes fun _ _ => .ok (.string "0x1")

theorem filters_stand_twin :
    let session := (opened twin ()).serve naming
      [installation none, installation (some "sepolia"), .uninstallFilter ⟨"0x1", none⟩]
    (∃ event, (session.turn (.pollFilter ⟨"0x1", some "sepolia", true⟩)).Polls naming
      ⟨"sepolia", "0x1"⟩ event true) ∧
    (session.turn (.pollFilter ⟨"0x1", none, false⟩)).exchanges naming = [] := by
  intro session
  have fresh : twin.Fresh := .of_ofConfig twin_started
  constructor
  · have stands : ∃ creation, StandsSince naming ⟨"sepolia", "0x1"⟩ creation session.turns := by
      refine ⟨_, [_], [_], rfl, ⟨⟨_, rfl⟩, _, rfl, rfl, rfl⟩, ?_⟩
      intro turn member
      rw [List.mem_singleton.mp member]
      constructor
      · rintro ⟨⟨_, created⟩, _⟩
        cases created
      · rintro ⟨_, named⟩
        exact absurd named (by decide +kernel)
    rcases stands with ⟨creation, since⟩
    rcases (filters_stand naming fresh () _ ⟨"sepolia", "0x1"⟩).2.1 creation since with
      ⟨_, event, _, _, _, polls⟩
    exact ⟨event, polls _ rfl⟩
  · have fallen : ∀ creation, ¬ StandsSince naming ⟨"local", "0x1"⟩ creation session.turns := by
      intro creation since
      have last : session.turns = [_, _] ++ [_] := rfl
      rw [last, standsSince_concat_iff] at since
      rcases since with ⟨⟨⟨_, created⟩, _⟩, _⟩ | ⟨_, standing, _⟩
      · cases created
      · exact standing ⟨⟨_, rfl⟩, by decide +kernel⟩
    have nothing := (filters_stand naming fresh () _ ⟨"local", "0x1"⟩).2.2 fallen
    exact (nothing.2 _ rfl).1

end Session

end ContractClient
