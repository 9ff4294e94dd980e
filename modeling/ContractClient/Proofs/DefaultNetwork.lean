import ContractClient.Proofs.Conversations
import ContractClient.Proofs.Members
import ContractClient.Service.CommandLine

/-! The default network. Its name is free text in a file and on the command line, and a network
may be pointed at another URL before anything is connected; a server that has been started
nevertheless reaches a node where no network is named. -/

namespace ContractClient

/-! ## Selecting a network -/

namespace Config

def pointed (config : Config) (network : String) (url : Option String) : Config :=
  (url.map (config.pointAt network)).getD config

variable {config selected : Config} {network : String} {url : Option String}

theorem lookup_pointAt (config : Config) (network url other : String) :
    Json.lookup other (config.pointAt network url).networks =
      if other = network then
        some (((Json.lookup network config.networks).map fun settings =>
          { settings with url }).getD ⟨url, 0, NetworkSettings.defaultTimeout⟩)
      else Json.lookup other config.networks := by
  rw [pointAt, Json.lookup_insertMember]
  cases Json.lookup network config.networks <;> rfl

theorem select_eq_ok (chosen : config.select network url = (.ok (), selected)) :
    selected = { config.pointed network url with defaultNetwork := network } ∧
      (url = none → ∃ settings, Json.lookup network config.networks = some settings) := by
  cases url with
  | some url =>
      cases chosen
      exact ⟨rfl, nofun⟩
  | none =>
      rw [select] at chosen
      cases found : Json.lookup network config.networks with
      | none => simp [found] at chosen
      | some settings =>
          rw [found] at chosen
          cases chosen
          exact ⟨rfl, fun _ => ⟨settings, rfl⟩⟩

/-- A selection fails only without a URL, and then it leaves the configuration as it was. -/
theorem select_eq_error {reason : ConfigError}
    (failed : config.select network url = (.error reason, selected)) :
    url = none ∧ Json.lookup network config.networks = none ∧ selected = config := by
  cases url with
  | some url => cases failed
  | none =>
      rw [select] at failed
      cases found : Json.lookup network config.networks with
      | some settings => simp [found] at failed
      | none =>
          rw [found] at failed
          cases failed
          exact ⟨rfl, rfl, rfl⟩

/-- What is served as a network that is loaded with some settings, or is not loaded. -/
structure ServedAs (loaded : Option NetworkSettings) (url : Option String)
    (settings : NetworkSettings) : Prop where
  given : ∀ other, url = some other → settings.url = other
  kept : url = none → loaded = some settings
  configured : ∀ former, loaded = some former →
    settings.chainId = former.chainId ∧ settings.timeout = former.timeout
  introduced : loaded = none → settings.chainId = 0

theorem networks_of_select (chosen : config.select network url = (.ok (), selected)) :
    (∃ settings, Json.lookup network selected.networks = some settings ∧
      ServedAs (Json.lookup network config.networks) url settings) ∧
    ∀ other, other ≠ network →
      Json.lookup other selected.networks = Json.lookup other config.networks := by
  rcases select_eq_ok chosen with ⟨rfl, known⟩
  cases url with
  | none =>
      rcases known rfl with ⟨settings, found⟩
      refine ⟨⟨settings, found, nofun, fun _ => found, ?_, ?_⟩, fun _ _ => rfl⟩
      · intro former alike
        cases alike.symm.trans found
        exact ⟨rfl, rfl⟩
      · intro missing
        cases missing.symm.trans found
  | some url =>
      have looked := lookup_pointAt config network url
      refine ⟨⟨_, (looked network).trans (if_pos rfl), ?_⟩, ?_⟩
      · cases Json.lookup network config.networks with
        | none =>
            constructor
            · intro other same
              exact Option.some.inj same
            · nofun
            · nofun
            · exact fun _ => rfl
        | some settings =>
            constructor
            · intro other same
              exact Option.some.inj same
            · nofun
            · intro former same
              cases same
              exact ⟨rfl, rfl⟩
            · nofun
      · intro other different
        exact (looked other).trans (if_neg different)

end Config

/-! ## Connecting networks -/

def NetworkSettings.connection (settings : NetworkSettings) : Connection :=
  ⟨settings, ⟨settings.url, settings.timeout⟩⟩

theorem Endpoint.connect_eq_ok {url : String} {timeout : Nat} {endpoint : Endpoint}
    (connected : connect url timeout = .ok endpoint) : endpoint = ⟨url, timeout⟩ := by
  rw [connect] at connected
  split at connected
  · cases connected
    rfl
  · cases connected

namespace Networks

theorem connectAll_eq_ok {members : List (String × NetworkSettings)}
    {connections : List (String × Connection)} (connected : connectAll members = .ok connections) :
    connections = members.map fun member => (member.1, member.2.connection) := by
  induction members generalizing connections with
  | nil =>
      cases connected
      rfl
  | cons member rest induction =>
      rcases member with ⟨name, settings⟩
      rw [connectAll] at connected
      cases reached : Endpoint.connect settings.url settings.timeout with
      | error reason => simp [reached] at connected
      | ok endpoint =>
          cases others : connectAll rest with
          | error reason => simp [reached, others] at connected
          | ok found =>
              simp only [reached, others] at connected
              cases connected
              rw [List.map_cons, ← induction others, Endpoint.connect_eq_ok reached]
              rfl

theorem ofConfig_eq_ok {config : Config} {networks : Networks}
    (connected : ofConfig config = .ok networks) :
    networks = ⟨config.networks.map fun member => (member.1, member.2.connection),
      config.defaultNetwork⟩ := by
  rw [ofConfig] at connected
  split at connected
  · next connections reached =>
      cases connected
      rw [connectAll_eq_ok reached]
  · cases connected

section Connected

variable {config : Config} {networks : Networks} {settings : NetworkSettings}
  (connected : ofConfig config = .ok networks)

include connected

theorem names_of_ofConfig : networks.names = config.networkNames := by
  rw [ofConfig_eq_ok connected, names, Config.networkNames, List.map_map]
  rfl

theorem lookup_of_ofConfig (network : String) :
    Json.lookup network networks.connections =
      (Json.lookup network config.networks).map NetworkSettings.connection := by
  rw [ofConfig_eq_ok connected]
  exact Json.lookup_map network NetworkSettings.connection config.networks

theorem default_of_lookup
    (found : Json.lookup config.defaultNetwork config.networks = some settings) :
    networks.settings none = .ok settings ∧
      networks.endpoint none = .ok ⟨settings.url, settings.timeout⟩ := by
  have held : Json.lookup networks.default networks.connections = some settings.connection := by
    rw [lookup_of_ofConfig connected, ofConfig_eq_ok connected, found]
    rfl
  constructor
  · simp only [Networks.settings, resolve, Option.getD_none, held]
    rfl
  · simp only [endpoint, resolve, Option.getD_none, held]
    rfl

end Connected

end Networks

theorem Server.ofConfig_eq_ok {config : Config} {store : InterfaceStore} {server : Server}
    (started : ofConfig config store = .ok server) :
    server.config = config ∧ Networks.ofConfig config = .ok server.networks := by
  rw [ofConfig] at started
  cases connected : Networks.ofConfig config with
  | error reason => simp [connected] at started
  | ok networks =>
      cases sender : config.defaultSender with
      | error reason => simp [connected, sender] at started
      | ok account =>
          simp only [connected, sender] at started
          cases started
          exact ⟨rfl, rfl⟩

/-! ## Starting -/

namespace CommandLine

def Options.networkOr (options : Options) (config : Config) : String :=
  options.network.getD config.defaultNetwork

theorem chooseConfig_eq_ok {options : Options} {config chosen : Config}
    (settled : chooseConfig options config = .ok chosen) :
    ∃ selected, config.select (options.networkOr config) options.url = (.ok (), selected) ∧
      chosen.defaultNetwork = selected.defaultNetwork ∧ chosen.networks = selected.networks := by
  rw [chooseConfig, ← Options.networkOr] at settled
  rcases found : config.select (options.networkOr config) options.url with ⟨_ | _, selected⟩
  · simp [found] at settled
  · rw [found] at settled
    refine ⟨selected, rfl, ?_⟩
    cases allowed : options.allowWrites with
    | true =>
        cases (if_pos allowed).symm.trans settled
        exact ⟨rfl, rfl⟩
    | false =>
        cases (if_neg (Bool.not_eq_true _ ▸ allowed)).symm.trans settled
        exact ⟨rfl, rfl⟩

/-- A server that was started with a configuration and options of the command line. -/
structure Started (loaded : Config) (options : Options) (server : Server) : Prop where
  named : server.config.defaultNetwork = options.networkOr loaded
  listed : server.config.defaultNetwork ∈ server.config.networkNames
  usable : ∃ settings, server.networks.settings none = .ok settings ∧
    server.networks.endpoint none = .ok ⟨settings.url, settings.timeout⟩ ∧
    Config.ServedAs (Json.lookup (options.networkOr loaded) loaded.networks) options.url settings
  available : server.networks.names = server.config.networkNames
  others : ∀ other, other ≠ server.config.defaultNetwork →
    Json.lookup other server.config.networks = Json.lookup other loaded.networks ∧
    Json.lookup other server.networks.connections =
      (Json.lookup other loaded.networks).map NetworkSettings.connection

theorem started_of_ofConfig {options : Options} {loaded chosen : Config} {store : InterfaceStore}
    {server : Server} (settled : chooseConfig options loaded = .ok chosen)
    (started : Server.ofConfig chosen store = .ok server) : Started loaded options server := by
  rcases chooseConfig_eq_ok settled with ⟨selected, chosenFrom, sameDefault, sameNetworks⟩
  rcases Server.ofConfig_eq_ok started with ⟨rfl, connected⟩
  have named : server.config.defaultNetwork = options.networkOr loaded := by
    rw [sameDefault, (Config.select_eq_ok chosenFrom).1]
  rcases Config.networks_of_select chosenFrom with ⟨⟨settings, found, served⟩, others⟩
  rw [← sameNetworks, ← named] at found
  have listed : server.config.defaultNetwork ∈ server.config.networkNames :=
    Decidable.of_not_not fun absent =>
      nomatch (Json.lookup_eq_none_iff.mpr absent).symm.trans found
  have reached := Networks.default_of_lookup connected found
  exact
    { named
      listed
      usable := ⟨settings, reached.1, reached.2, served⟩
      available := Networks.names_of_ofConfig connected
      others := by
        intro other different
        have same := others other (named ▸ different)
        rw [Networks.lookup_of_ofConfig connected, sameNetworks, same]
        exact ⟨rfl, rfl⟩ }

/-- The configuration that is in a file, or else the default one. -/
def configured (environment : Environment) (options : Options) : Dialogue Config :=
  Config.loadOrDefault (options.config.or environment.defaultConfigPath) none

/-- The configuration with the key for the node provider in its URLs, if there is one. -/
def Environment.keyed (environment : Environment) (config : Config) : Config :=
  (environment.nodeKey.map config.substituteKey).getD config

theorem run_prepare (environment : Environment) (options : Options)
    (respondent : Dialogue.Respondent σ) (state : σ) :
    ((prepare environment options).run respondent state).1 =
      match chooseConfig options
        (environment.keyed ((configured environment options).run respondent state).1) with
      | .error reason => .error (.config reason)
      | .ok chosen => Server.ofConfig chosen environment.interfaceStore := by
  have loaded : ((Config.loadOrDefault (options.config.or environment.defaultConfigPath)
      environment.nodeKey).run respondent state).1 =
      environment.keyed ((configured environment options).run respondent state).1 := by
    simp only [configured, Config.loadOrDefault, Dialogue.run_map, Environment.keyed]
    cases environment.nodeKey <;> rfl
  rw [← loaded]
  exact congrArg Prod.fst (Dialogue.run_map _ _ state)

/-- Whatever configuration is read: a server that is started with it has a default network
that is configured and reached, at the URL that is given or else at the configured one; no other
network is changed. If the network cannot be selected, then no URL was given, no server is
started, and the configuration that the selection leaves behind is the one that was loaded. -/
theorem default_usable (environment : Environment) (options : Options)
    (respondent : Dialogue.Respondent σ) (state : σ) :
    let loaded := environment.keyed ((configured environment options).run respondent state).1
    let outcome := ((prepare environment options).run respondent state).1
    (∀ server, outcome = .ok server → Started loaded options server) ∧
    ∀ reason remaining,
      loaded.select (options.networkOr loaded) options.url = (.error reason, remaining) →
        outcome = .error (.config reason) ∧ options.url = none ∧
          options.networkOr loaded ∉ loaded.networkNames ∧ remaining = loaded := by
  intro loaded outcome
  have prepared : outcome =
      match chooseConfig options loaded with
      | .error reason => .error (.config reason)
      | .ok chosen => Server.ofConfig chosen environment.interfaceStore :=
    run_prepare environment options respondent state
  rw [prepared]
  constructor
  · intro server started
    cases settled : chooseConfig options loaded with
    | error reason => simp [settled] at started
    | ok chosen =>
        rw [settled] at started
        exact started_of_ofConfig settled started
  · intro reason remaining failed
    have refused : chooseConfig options loaded = .error reason := by
      rw [chooseConfig, ← Options.networkOr, failed]
    rcases Config.select_eq_error failed with ⟨noUrl, absent, same⟩
    rw [refused]
    exact ⟨rfl, noUrl, Json.lookup_eq_none_iff.mp absent, same⟩

def keyedEnvironment : Environment := ⟨none, "cache", some "secret", none⟩

def introduced (url : Option String) : Options :=
  { Options.none with network := some "mine", url }

theorem default_usable_introduced :
    let outcome (url : Option String) :=
      ((prepare keyedEnvironment (introduced url)).run (.ofNodes fun _ _ => .ok .null) ()).1
    (∃ server settings, outcome (some "http://localhost:8545") = .ok server ∧
      server.config.defaultNetwork = "mine" ∧ "mine" ∈ server.config.networkNames ∧
      server.networks.settings none = .ok settings ∧ settings.chainId = 0 ∧
      server.networks.endpoint none = .ok ⟨"http://localhost:8545", settings.timeout⟩) ∧
    ∃ reason, outcome none = .error (.config reason) := by
  intro outcome
  constructor
  · have usable := default_usable keyedEnvironment (introduced (some "http://localhost:8545"))
      (.ofNodes fun _ _ => .ok .null) ()
    have ready : (outcome (some "http://localhost:8545")).isOk = true := by decide +kernel
    cases reached : outcome (some "http://localhost:8545") with
    | error reason =>
        rw [reached] at ready
        cases ready
    | ok server =>
        have started := usable.1 server reached
        have named : server.config.defaultNetwork = "mine" := started.named
        rcases started.usable with ⟨settings, found, connected, served⟩
        refine ⟨server, settings, rfl, named, ?_, found, ?_, ?_⟩
        · exact named ▸ started.listed
        · exact served.introduced (by decide +kernel)
        · rw [connected, served.given _ rfl]
  · have usable := default_usable keyedEnvironment (introduced none)
      (.ofNodes fun _ _ => .ok .null) ()
    exact ⟨_, (usable.2 _ _ rfl).1⟩

end CommandLine

end ContractClient
