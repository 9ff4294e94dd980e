import ContractClient.Config.Record
import ContractClient.Dialogue
import ContractClient.Toml.Writer

namespace ContractClient.Config

/-! Files of configurations. -/

/-! ## Texts -/

def parse? (text : String) : Option Config :=
  (Toml.parse? text).bind fun table => ofJson? table.toJson

def givenTexts (pairs : List (String × Option String)) : List (String × Toml) :=
  pairs.filterMap fun (name, held) => held.map fun text => (name, .string text)

def toMembers (config : Config) : List (String × Toml) :=
  let network (settings : NetworkSettings) : Toml :=
    .table .header [("rpc_url", .string settings.url), ("chain_id", .integer settings.chainId),
      ("request_timeout_ms", .integer settings.timeout)]
  let contract (settings : ContractSettings) : Toml :=
    .table .header (("address", .string settings.address) ::
      givenTexts [("abi_path", settings.interfacePath), ("network", settings.network)])
  [("default_network", .string config.defaultNetwork),
   ("networks", .table .header (config.networks.map fun (name, held) => (name, network held))),
   ("contracts", .table .header (config.contracts.map fun (name, held) => (name, contract held))),
   ("security", .table .header (("allow_write_operations", .boolean config.security.allowWrites) ::
     givenTexts [("default_from", config.security.defaultSender)])),
   ("server", .table .header [("transport", .string config.transport)])]

def toText (config : Config) : String :=
  Toml.documentText config.toMembers

/-! ## Files -/

def load (path : String) : Dialogue (Except ConfigError Config) :=
  .ask (.load path) fun
    | .error error => .done (.error (.unreadable path error.reason))
    | .ok text =>
        match parse? text with
        | some config => .done (.ok config)
        | none => .done (.error (.malformed path))

def save (config : Config) (path : String) : Dialogue Unit :=
  .ask (.store path config.toText) fun _ => .done ()

/-- Read the configuration in a file, or take the default one if there is no such
file or nothing usable in it; then put the key in, if there is one. -/
def loadOrDefault (path : Option String) (key : Option String) : Dialogue Config :=
  let loaded : Dialogue Config :=
    match path with
    | some path =>
        (load path).map fun
          | .ok config => config
          | .error _ => default
    | none => .done default
  loaded.map fun config =>
    match key with
    | some key => config.substituteKey key
    | none => config

/-! ## A sample -/

def sampleLines : List String :=
  ["# contract-rpc configuration file",
   "",
   "# Default network to use when none is specified",
   "default_network = \"ethereum\"",
   "",
   "[networks.ethereum]",
   "rpc_url = \"https://eth-mainnet.g.alchemy.com/v2/YOUR_API_KEY_HERE\"",
   "chain_id = 1",
   "request_timeout_ms = 30000",
   "",
   "[networks.sepolia]",
   "rpc_url = \"https://eth-sepolia.g.alchemy.com/v2/YOUR_API_KEY_HERE\"",
   "chain_id = 11155111",
   "",
   "[networks.local]",
   "rpc_url = \"http://127.0.0.1:8545\"",
   "chain_id = 31337",
   "request_timeout_ms = 5000",
   "",
   "# Contracts addressable by name. Without abi_path the ABI is fetched from",
   "# Etherscan and cached on disk.",
   "[contracts.usdc]",
   "address = \"0xA0b86991c6218b36c1d19D4a2e9Eb0cE3606eB48\"",
   "network = \"ethereum\"",
   "",
   "# [contracts.token]",
   "# address = \"0x5FbDB2315678afecb367f032d93F642f64180aa3\"",
   "# abi_path = \"out/Token.sol/Token.json\"",
   "# network = \"local\"",
   "",
   "[security]",
   "allow_write_operations = false",
   "# Node-managed account used as `from` when a request names none",
   "# default_from = \"0xf39Fd6e51aad88F6F4ce6aB8827279cffFb92266\"",
   "",
   "[server]",
   "transport = \"stdio\"",
   "",
   "# Environment variables that can be used:",
   "# ETHERSCAN_API_KEY - Your Etherscan API key for ABI resolution",
   "# ALCHEMY_API_KEY - Your Alchemy API key (replaces YOUR_API_KEY_HERE above)"]

def sample : String :=
  String.join (sampleLines.map (· ++ "\n"))

end ContractClient.Config
