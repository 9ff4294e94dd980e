import ContractClient.Config.Basic
import ContractClient.Json.Record

namespace ContractClient

/-! Configurations as records: reading them from JSON and writing them. Members
that a configuration does not have are passed over. -/

def Json.asEntries? (read : Json → Option α) (value : Json) : Option (List (String × α)) := do
  let members ← value.asMembers?
  members.mapM fun (name, held) => (read held).map fun entry => (name, entry)

namespace NetworkSettings

def ofJson? (value : Json) : Option NetworkSettings := do
  let fields ← value.fieldsFrom? 2 ["rpc_url", "chain_id", "request_timeout_ms"]
  let url ← Json.requiredMember? "rpc_url" Json.asText? fields
  let chainId ← Json.requiredMember? "chain_id" Json.asNat? fields
  let timeout ← Json.optionalMember? "request_timeout_ms" Json.asNat? defaultTimeout fields
  some ⟨url, chainId, timeout⟩

def toJson (settings : NetworkSettings) : Json :=
  Json.ofPairs [("rpc_url", .string settings.url), ("chain_id", Json.natural settings.chainId),
    ("request_timeout_ms", Json.natural settings.timeout)]

end NetworkSettings

namespace ContractSettings

def ofJson? (value : Json) : Option ContractSettings := do
  let fields ← value.fieldsFrom? 3 ["address", "abi_path", "network"]
  let address ← Json.requiredMember? "address" Json.asText? fields
  let interfacePath ← Json.nullableMember? "abi_path" Json.asText? fields
  let network ← Json.nullableMember? "network" Json.asText? fields
  some ⟨address, interfacePath, network⟩

def toJson (settings : ContractSettings) : Json :=
  Json.ofPairs [("address", .string settings.address),
    ("abi_path", Json.ofOption .string settings.interfacePath),
    ("network", Json.ofOption .string settings.network)]

end ContractSettings

namespace SecuritySettings

def ofJson? (value : Json) : Option SecuritySettings := do
  let fields ← value.fieldsFrom? 2 ["allow_write_operations", "default_from"]
  let allowWrites ← Json.optionalMember? "allow_write_operations" Json.asBool? false fields
  let defaultSender ← Json.nullableMember? "default_from" Json.asText? fields
  some ⟨allowWrites, defaultSender⟩

def toJson (settings : SecuritySettings) : Json :=
  Json.ofPairs [("allow_write_operations", .boolean settings.allowWrites),
    ("default_from", Json.ofOption .string settings.defaultSender)]

end SecuritySettings

namespace Config

def readTransport? (value : Json) : Option String := do
  let fields ← value.fieldsFrom? 1 ["transport"]
  Json.requiredMember? "transport" Json.asText? fields

/-- Read a configuration. Only the default network and the networks must be
there. -/
def ofJson? (value : Json) : Option Config := do
  let fields ←
    value.fieldsFrom? 2 ["default_network", "networks", "contracts", "security", "server"]
  let defaultNetwork ← Json.requiredMember? "default_network" Json.asText? fields
  let networks ← Json.requiredMember? "networks" (Json.asEntries? NetworkSettings.ofJson?) fields
  let contracts ←
    Json.optionalMember? "contracts" (Json.asEntries? ContractSettings.ofJson?) [] fields
  let security ←
    Json.optionalMember? "security" SecuritySettings.ofJson? SecuritySettings.default fields
  let transport ← Json.optionalMember? "server" readTransport? defaultTransport fields
  some ⟨defaultNetwork, networks, contracts, security, transport⟩

def toJson (config : Config) : Json :=
  Json.ofPairs [("default_network", .string config.defaultNetwork),
    ("networks", .object (config.networks.map fun (name, held) => (name, held.toJson))),
    ("contracts", .object (config.contracts.map fun (name, held) => (name, held.toJson))),
    ("security", config.security.toJson),
    ("server", Json.ofPairs [("transport", .string config.transport)])]

end Config

end ContractClient
