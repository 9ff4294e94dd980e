import ContractClient.Contract.Event
import ContractClient.Contract.Function
import ContractClient.Interface.Artifact
import ContractClient.Interface.Store
import ContractClient.Service.Networks
import ContractClient.Service.Request

namespace ContractClient

/-! The server: tools for calls, transactions and logs of contracts. Between the
calls of its tools it keeps the interfaces that it has found and the filters that
it has installed. -/

inductive ToolError where
  | unknownContract (name : String)
  | request (error : RequestError)
  | artifact (error : ArtifactError)
  | artifactFile (error : ArtifactFileError)
  | noTarget
  | interface (address : Address) (error : ExplorerError)
  | network (error : NetworkError)
  | config (error : ConfigError)
  | contract (error : ContractError)
  | writesDisabled
  | unknownFilter (filter network : String)
deriving DecidableEq

/-- What is told of a failure. A failure of a node is explained. -/
def ToolError.message : ToolError → String
  | .unknownContract name => "Contract '" ++ name ++ "' is not configured"
  | .request error => error.message
  | .artifact error => error.message
  | .artifactFile error => error.message
  | .noTarget => "Either 'address', 'contract' or 'abi' is required"
  | .interface address error =>
      Explanation.ofInterfaceReport error.message (Address.toChecksum address)
  | .network error => error.message
  | .config error => error.message
  | .contract (.transport error) => Explanation.ofNodeReport error.message
  | .contract error => error.message
  | .writesDisabled =>
      "Write operations are disabled. Use --allow-writes flag to enable transaction sending."
  | .unknownFilter filter place =>
      "Unknown filter '" ++ filter ++ "' on network '" ++ place ++ "'"

/-- An installed filter is known by its network and the name its node gave it. -/
structure FilterKey where
  network : String
  filter : String
deriving DecidableEq, Repr

/-- The filters that are installed, at most one for a key. -/
structure FilterTable where
  entries : List (FilterKey × LiveFilter)

namespace FilterTable

def empty : FilterTable := ⟨[]⟩

def find? (table : FilterTable) (key : FilterKey) : Option LiveFilter :=
  (table.entries.find? fun entry => entry.1 = key).map Prod.snd

def erase (table : FilterTable) (key : FilterKey) : FilterTable :=
  ⟨table.entries.filter fun entry => entry.1 ≠ key⟩

def insert (table : FilterTable) (key : FilterKey) (filter : LiveFilter) : FilterTable :=
  ⟨(key, filter) :: (table.erase key).entries⟩

@[simp] theorem find?_empty (key : FilterKey) : empty.find? key = none := rfl

theorem find?_erase (table : FilterTable) (key other : FilterKey) :
    (table.erase key).find? other = if other = key then none else table.find? other := by
  unfold find? erase
  induction table.entries with
  | nil => simp
  | cons entry rest induction =>
      by_cases same : entry.1 = key <;> by_cases wanted : entry.1 = other <;> grind

theorem find?_insert (table : FilterTable) (key other : FilterKey) (filter : LiveFilter) :
    (table.insert key filter).find? other =
      if other = key then some filter else table.find? other := by
  by_cases same : other = key
  · simp [find?, insert, same]
  · have kept := find?_erase table key other
    rw [if_neg same] at kept ⊢
    rw [← kept]
    have different : key ≠ other := fun equal => same equal.symm
    simp [find?, insert, different]

end FilterTable

structure Server where
  config : Config
  networks : Networks
  store : InterfaceStore
  filters : FilterTable

namespace Server

def ofConfig (config : Config) (store : InterfaceStore) : Except ToolError Server :=
  match Networks.ofConfig config with
  | .error reason => .error (.network reason)
  | .ok networks =>
      match config.defaultSender with
      | .error reason => .error (.config reason)
      | .ok _ => .ok ⟨config, networks, store, .empty⟩

/-! ## Contracts -/

def configured (server : Server) (target : ContractTarget) :
    Except ToolError (Option ContractSettings) :=
  match target.contract with
  | none => .ok none
  | some name =>
      match server.config.contract? name with
      | some settings => .ok (some settings)
      | none => .error (.unknownContract name)

/-- The network of a target: its own, that of the configured contract, or the
default one. -/
def networkOf (server : Server) (target : ContractTarget)
    (configured : Option ContractSettings) : String :=
  (target.network.or (configured.bind ContractSettings.network)).getD server.config.defaultNetwork

def addressOf (target : ContractTarget) (configured : Option ContractSettings) :
    Except ToolError (Option Address) :=
  (readGiven FunctionRequest.readSender
    (target.address.or (configured.map ContractSettings.address))).mapError .request

def findArtifact (server : Server) (network : String) (address : Option Address) :
    Dialogue (Except ToolError Artifact × InterfaceStore) :=
  match address with
  | none => .done (.error .noTarget, server.store)
  | some address =>
      (server.store.find (Address.toChecksum address) (some network)).map fun
        | (.ok interface, store) => (.ok ⟨interface, none⟩, store)
        | (.error reason, store) => (.error (.interface address reason), store)

/-- The artifact of a target: given with the request, in the file of the
configured contract, or looked for. -/
def artifactOf (server : Server) (target : ContractTarget)
    (configured : Option ContractSettings) (network : String) (address : Option Address) :
    Dialogue (Except ToolError Artifact × InterfaceStore) :=
  match target.interface, configured.bind ContractSettings.interfacePath with
  | some document, _ => .done ((Artifact.ofJson document).mapError .artifact, server.store)
  | none, some path =>
      (Artifact.load path).map fun result => (result.mapError .artifactFile, server.store)
  | none, none => server.findArtifact network address

structure Located where
  network : String
  contract : Contract

def handle (server : Server) (network : String) (address : Option Address)
    (artifact : Artifact) : Except ToolError Located :=
  match server.networks.endpoint (some network) with
  | .error reason => .error (.network reason)
  | .ok endpoint =>
      match server.config.defaultSender with
      | .error reason => .error (.config reason)
      | .ok sender =>
          .ok ⟨network, ⟨artifact.interface, address, artifact.bytecode, some endpoint, sender⟩⟩

def locate (server : Server) (target : ContractTarget) :
    Dialogue (Except ToolError Located × Server) :=
  match server.configured target with
  | .error reason => .done (.error reason, server)
  | .ok configured =>
      let network := server.networkOf target configured
      match addressOf target configured with
      | .error reason => .done (.error reason, server)
      | .ok address =>
          (server.artifactOf target configured network address).map fun (result, store) =>
            (match result with
              | .error reason => .error reason
              | .ok artifact => server.handle network address artifact,
             { server with store })

/-! ## Tools -/

abbrev Reply := Dialogue (Except ToolError Json × Server)

/-- Go on with the contract of a target; a failure to find it is the end. -/
def withContract (server : Server) (target : ContractTarget)
    (step : Server → Located → Reply) : Reply :=
  (server.locate target).bind fun
    | (.error reason, after) => .done (.error reason, after)
    | (.ok located, after) => step after located

/-- What is left to do once everything of a request is read. The server stays
as it is. -/
def finish (server : Server) (prepared : Except ToolError α)
    (run : α → Dialogue (Except ContractError Json)) : Reply :=
  match prepared with
  | .error reason => .done (.error reason, server)
  | .ok value => (run value).map fun result => (result.mapError .contract, server)

def bindFunction (located : Located) (request : FunctionRequest) :
    Except ToolError BoundFunction :=
  match located.contract.function request.function with
  | .error reason => .error (.contract reason)
  | .ok function =>
      (function.bind request.positional request.keywords).mapError .contract

def functionAnswer (bound : BoundFunction) (name : String) (value : Json) : Json :=
  Json.ofPairs [("function", .string bound.signature), (name, value)]

def answering (dialogue : Dialogue (Except ContractError α)) (render : α → Json) :
    Dialogue (Except ContractError Json) :=
  dialogue.map fun
    | .ok value => .ok (render value)
    | .error reason => .error reason

def callFunction (server : Server) (request : FunctionRequest) : Reply :=
  server.withContract request.target fun server located =>
    let prepared : Except ToolError (BoundFunction × CallOptions) := do
      let bound ← bindFunction located request
      let transaction ← request.transaction.mapError ToolError.request
      let block ← request.blockId.mapError ToolError.request
      .ok (bound, { CallOptions.default with
        transaction, block := block.getD .latest, offchain := request.offchain.getD true })
    server.finish prepared fun (bound, options) =>
      answering (bound.call options) fun value => functionAnswer bound "result" value.toJson

def estimateGas (server : Server) (request : FunctionRequest) : Reply :=
  server.withContract request.target fun server located =>
    let prepared : Except ToolError (BoundFunction × TransactionOptions × Option BlockId) := do
      let bound ← bindFunction located request
      let transaction ← request.transaction.mapError ToolError.request
      let block ← request.blockId.mapError ToolError.request
      .ok (bound, transaction, block)
    server.finish prepared fun (bound, transaction, block) =>
      answering (bound.estimateGas transaction block) fun gas =>
        functionAnswer bound "gas" (Json.natural gas)

def prepareTransaction (located : Located) (request : FunctionRequest) :
    Except ToolError (BoundFunction × TransactionOptions) := do
  let bound ← bindFunction located request
  let transaction ← request.transaction.mapError ToolError.request
  .ok (bound, transaction)

def buildTransaction (server : Server) (request : FunctionRequest) : Reply :=
  server.withContract request.target fun server located =>
    server.finish (prepareTransaction located request) fun (bound, transaction) =>
      answering (bound.buildTransaction transaction) fun built =>
        functionAnswer bound "transaction" built.toJson

/-- Nothing is looked at before the configuration allows writing. -/
def sendTransaction (server : Server) (request : FunctionRequest) : Reply :=
  if server.config.security.allowWrites then
    server.withContract request.target fun server located =>
      server.finish (prepareTransaction located request) fun (bound, transaction) =>
        answering (bound.transact transaction) fun hash =>
          functionAnswer bound "transaction_hash" (.string hash.toHex)
  else .done (.error .writesDisabled, server)

def prepareEvent (located : Located) (request : EventRequest) :
    Except ToolError (ContractEvent × FilterOptions) := do
  let event ← (located.contract.event request.event).mapError ToolError.contract
  let options ← request.options.mapError ToolError.request
  .ok (event, options)

def eventsJson (events : List DecodedEvent) : Json :=
  .array (events.map DecodedEvent.toJson)

def getLogs (server : Server) (request : EventRequest) : Reply :=
  server.withContract request.target fun server located =>
    server.finish (prepareEvent located request) fun (event, options) =>
      answering (event.getLogs options) eventsJson

def createFilter (server : Server) (request : EventRequest) : Reply :=
  server.withContract request.target fun server located =>
    match prepareEvent located request with
    | .error reason => .done (.error reason, server)
    | .ok (event, options) =>
        (event.createFilter options).map fun
          | .error reason => (.error (.contract reason), server)
          | .ok filter =>
              (.ok (Json.ofPairs [("filter_id", .string filter.id),
                ("network", .string located.network), ("params", filter.params.toJson)]),
               { server with filters := server.filters.insert ⟨located.network, filter.id⟩ filter })

/-- The key of a filter; without a network the default one is meant. -/
def filterKey (server : Server) (network : Option String) (filter : String) : FilterKey :=
  ⟨server.networks.resolve network, filter⟩

def unknownFilter (key : FilterKey) : ToolError :=
  .unknownFilter key.filter key.network

def askAboutFilter (server : Server) (key : FilterKey) (method : Method)
    (read : Json → Except ContractError Json) : Reply :=
  server.finish ((server.networks.endpoint (some key.network)).mapError ToolError.network)
    fun endpoint =>
      .ask (.node endpoint method [.string key.filter]) fun
        | .error error => .done (.error (.transport error))
        | .ok reply => .done (read reply)

def pollFilter (server : Server) (request : PollRequest) : Reply :=
  let key := server.filterKey request.network request.filter
  match server.filters.find? key with
  | none => .done (.error (unknownFilter key), server)
  | some filter =>
      server.askAboutFilter key (if request.all then .getFilterLogs else .getFilterChanges)
        fun reply => (filter.formatEntries reply).map eventsJson

/-- The filter is forgotten whatever its node makes of the request. -/
def uninstallFilter (server : Server) (request : UninstallRequest) : Reply :=
  let key := server.filterKey request.network request.filter
  match server.filters.find? key with
  | none => .done (.error (unknownFilter key), server)
  | some _ =>
      { server with filters := server.filters.erase key }.askAboutFilter key .uninstallFilter
        fun reply => .ok (Json.ofPairs [("filter_id", .string key.filter),
          ("network", .string key.network), ("uninstalled", reply)])

def perform (server : Server) : ToolCall → Reply
  | .callFunction request => server.callFunction request
  | .estimateGas request => server.estimateGas request
  | .buildTransaction request => server.buildTransaction request
  | .sendTransaction request => server.sendTransaction request
  | .getLogs request => server.getLogs request
  | .createFilter request => server.createFilter request
  | .pollFilter request => server.pollFilter request
  | .uninstallFilter request => server.uninstallFilter request

def replyText : Except ToolError Json → String
  | .ok value => value.toPrettyText
  | .error reason => "Error: " ++ reason.message

/-! ## Introduction -/

def instructions : String :=
  "MCP server for Ethereum contract interaction over JSON-RPC. Supports read-only calls, gas " ++
    "estimation, transaction building, sending from node-managed accounts, and event log " ++
    "queries and filters that can be polled and uninstalled. Functions accept overloaded " ++
    "names, canonical signatures or selectors."

end Server

end ContractClient
