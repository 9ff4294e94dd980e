import ContractClient.Config.Basic
import ContractClient.Dialogue
import ContractClient.Explanation
import ContractClient.Http.Url
import ContractClient.Node.Reply

namespace ContractClient

/-! The networks that requests can be sent to, each with the endpoint of a node. -/

inductive NetworkError where
  | url (error : Http.UrlError)
  | configuredUrl (network : String) (error : Http.UrlError)
  | unknown (network : String) (available : List String)
  | notConfigured (network : String)
  | unreachable (network : String) (error : TransportError)
  | malformedChain (network : String)
  | otherChain (network : String) (expected found : Nat)
deriving DecidableEq, Repr

def NetworkError.message : NetworkError → String
  | .url error => error.message
  | .configuredUrl network error =>
      "Invalid RPC URL for network '" ++ network ++ "': " ++ error.message
  | .unknown network available =>
      "Network '" ++ network ++ "' not found. Available networks: " ++
        String.intercalate ", " available
  | .notConfigured network => "Network '" ++ network ++ "' not configured"
  | .unreachable network error =>
      "Cannot connect to network '" ++ network ++ "': " ++
        Explanation.ofNodeReport error.message ++
        ". Please check your RPC endpoint configuration and network connectivity."
  | .malformedChain network =>
      "Unexpected eth_chainId response from '" ++ network ++ "'"
  | .otherChain network expected found =>
      "Network '" ++ network ++ "' is configured for chain " ++ toString expected ++
        " but the node reports chain " ++ toString found

def Endpoint.connect (url : String) (timeout : Nat) : Except Http.UrlError Endpoint :=
  match Http.Url.parse url with
  | .ok _ => .ok ⟨url, timeout⟩
  | .error reason => .error reason

structure Connection where
  settings : NetworkSettings
  endpoint : Endpoint
deriving DecidableEq, Repr

/-- The networks in the order of their names, and the one that is meant when
none is named. -/
structure Networks where
  connections : List (String × Connection)
  default : String
deriving DecidableEq, Repr

namespace Networks

/-! ## Building -/

def connectAll : List (String × NetworkSettings) →
    Except NetworkError (List (String × Connection))
  | [] => .ok []
  | (name, settings) :: rest =>
      match Endpoint.connect settings.url settings.timeout with
      | .error reason => .error (.configuredUrl name reason)
      | .ok endpoint =>
          match connectAll rest with
          | .error reason => .error reason
          | .ok connections => .ok ((name, ⟨settings, endpoint⟩) :: connections)

def ofConfig (config : Config) : Except NetworkError Networks :=
  match connectAll config.networks with
  | .ok connections => .ok ⟨connections, config.defaultNetwork⟩
  | .error reason => .error reason

/-- Add a network, or replace the one of that name. The endpoint keeps its own
timeout, and the settings show none. -/
def insert (networks : Networks) (name : String) (chainId : Nat) (endpoint : Endpoint) :
    Networks :=
  { networks with
    connections :=
      Json.insertMember name ⟨⟨endpoint.url, chainId, 0⟩, endpoint⟩ networks.connections }

/-! ## Looking up -/

def names (networks : Networks) : List String :=
  networks.connections.map Prod.fst

def resolve (networks : Networks) (network : Option String) : String :=
  network.getD networks.default

def endpoint (networks : Networks) (network : Option String) : Except NetworkError Endpoint :=
  let name := networks.resolve network
  match Json.lookup name networks.connections with
  | some connection => .ok connection.endpoint
  | none => .error (.unknown name networks.names)

def settings (networks : Networks) (network : Option String) :
    Except NetworkError NetworkSettings :=
  let name := networks.resolve network
  match Json.lookup name networks.connections with
  | some connection => .ok connection.settings
  | none => .error (.notConfigured name)

/-- A line that tells collections of networks apart in messages for developers. -/
def summary (networks : Networks) : String :=
  "ProviderManager \x7b networks: [" ++
    String.intercalate ", " (networks.names.map Text.Quoted.text) ++ "], default_network: " ++
    Text.Quoted.text networks.default ++ " \x7d"

/-! ## Checking -/

/-- Ask a network for its chain and compare it with the configured one. The
answer is the number of the chain. -/
def validate (networks : Networks) (network : Option String) :
    Dialogue (Except NetworkError Nat) :=
  let name := networks.resolve network
  match networks.endpoint network, networks.settings network with
  | .error reason, _ | .ok _, .error reason => .done (.error reason)
  | .ok endpoint, .ok settings =>
      .ask (.node endpoint .chainId []) fun
        | .error error => .done (.error (.unreachable name error))
        | .ok reply =>
            match reply.asQuantity64? with
            | none => .done (.error (.malformedChain name))
            | some chain =>
                if settings.chainId ≠ 0 ∧ chain ≠ settings.chainId then
                  .done (.error (.otherChain name settings.chainId chain))
                else .done (.ok chain)

def isUsable (networks : Networks) (network : Option String) : Dialogue Bool :=
  (networks.validate network).map fun
    | .ok _ => true
    | .error _ => false

end Networks

end ContractClient
