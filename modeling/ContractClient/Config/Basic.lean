import ContractClient.Address.Validation
import ContractClient.Json.Basic
import ContractClient.Text.Search

namespace ContractClient

/-! Configurations: the networks and contracts that can be named in requests, and
what requests may do. -/

/-- How a network is reached. The chain number zero stands for any chain, and the
timeout counts milliseconds. -/
structure NetworkSettings where
  url : String
  chainId : Nat
  timeout : Nat
deriving DecidableEq, Repr

/-- A contract that goes by a name. Without a file of its interface, the interface
is looked for elsewhere. -/
structure ContractSettings where
  address : String
  interfacePath : Option String
  network : Option String
deriving DecidableEq, Repr

structure SecuritySettings where
  allowWrites : Bool
  /-- The account that sends when a request names none. -/
  defaultSender : Option String
deriving DecidableEq, Repr

/-- A configuration. Networks and contracts stand in the order of their names. -/
structure Config where
  defaultNetwork : String
  networks : List (String × NetworkSettings)
  contracts : List (String × ContractSettings)
  security : SecuritySettings
  transport : String
deriving DecidableEq, Repr

inductive ConfigError where
  | unreadable (path reason : String)
  | malformed (path : String)
  | unknownNetwork (network : String) (available : List String)
  | sender (error : AddressError)
deriving DecidableEq, Repr

def ConfigError.message : ConfigError → String
  | .unreadable path reason =>
      "Failed to read config file " ++ Text.Quoted.text path ++ ": " ++ reason
  | .malformed path => "Failed to parse config file " ++ Text.Quoted.text path
  | .unknownNetwork network available =>
      "Network '" ++ network ++ "' is not configured. Available networks: " ++
        String.intercalate ", " available
  | .sender error => "Invalid security.default_from: " ++ error.message

def NetworkSettings.defaultTimeout : Nat := 30000

def SecuritySettings.default : SecuritySettings := ⟨false, none⟩

namespace Config

def defaultTransport : String := "stdio"

def wellKnownNetworks : List (String × NetworkSettings) :=
  Json.membersOf
    ([("ethereum", "https://eth-mainnet.g.alchemy.com/v2/demo", 1),
      ("sepolia", "https://eth-sepolia.g.alchemy.com/v2/demo", 11155111),
      ("polygon", "https://polygon-mainnet.g.alchemy.com/v2/demo", 137),
      ("arbitrum", "https://arb-mainnet.g.alchemy.com/v2/demo", 42161),
      ("local", "http://127.0.0.1:8545", 31337)].map
        fun (name, url, chainId) => (name, ⟨url, chainId, NetworkSettings.defaultTimeout⟩))

def default : Config :=
  ⟨"ethereum", wellKnownNetworks, [], .default, defaultTransport⟩

/-! ## Looking up -/

def networkNames (config : Config) : List String :=
  config.networks.map Prod.fst

def contract? (config : Config) (name : String) : Option ContractSettings :=
  Json.lookup name config.contracts

def defaultSender (config : Config) : Except ConfigError (Option Address) :=
  match config.security.defaultSender with
  | none => .ok none
  | some text =>
      match Address.validate text with
      | .ok address => .ok (some address)
      | .error reason => .error (.sender reason)

/-! ## Changing -/

/-- Point a network at another URL. A network that is not configured is added and
may be any chain. -/
def pointAt (config : Config) (network url : String) : Config :=
  let settings : NetworkSettings :=
    match Json.lookup network config.networks with
    | some settings => { settings with url }
    | none => ⟨url, 0, NetworkSettings.defaultTimeout⟩
  { config with networks := Json.insertMember network settings config.networks }

/-- Make a network the default, and point it at another URL if one is given. A
network that is not configured needs one, or else nothing changes. -/
def select (config : Config) (network : String) (url : Option String) :
    Except ConfigError Unit × Config :=
  match url with
  | some url => (.ok (), { config.pointAt network url with defaultNetwork := network })
  | none =>
      match Json.lookup network config.networks with
      | some _ => (.ok (), { config with defaultNetwork := network })
      | none => (.error (.unknownNetwork network config.networkNames), config)

/-! ## Keys of node providers -/

/-- The part of a URL that is served without a key of one's own. -/
def demoMark : String := "alchemy.com/v2/demo"

def keyPlace : String := "YOUR_API_KEY_HERE"

def withKey (key url : String) : String :=
  if Text.contains url demoMark then Text.replace url "/demo" ("/" ++ key)
  else if Text.contains url keyPlace then Text.replace url keyPlace key
  else url

def substituteKey (config : Config) (key : String) : Config :=
  { config with
    networks := config.networks.map fun (name, settings) =>
      (name, { settings with url := withKey key settings.url }) }

end Config

end ContractClient
