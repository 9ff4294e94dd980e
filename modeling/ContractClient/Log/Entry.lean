import ContractClient.Address
import ContractClient.Json.Record
import ContractClient.Node.Reply

namespace ContractClient

/-! Log entries as nodes report them. -/

/-- A log entry. Where it lies in the chain is missing while it is pending. -/
structure LogEntry where
  address : Address
  topics : List Word
  data : Bytes
  blockNumber : Option Nat
  blockHash : Option Word
  transactionHash : Option Word
  transactionIndex : Option Nat
  logIndex : Option Nat
  removed : Bool
deriving DecidableEq

namespace LogEntry

/-- How messages refer to a log: by its transaction, and its position if known,
or else by the contract that wrote it. -/
def describe (log : LogEntry) : String :=
  match log.transactionHash, log.logIndex with
  | some hash, some index => hash.toHex ++ "#" ++ toString index
  | some hash, none => hash.toHex
  | none, _ => "from " ++ Address.toChecksum log.address

/-! ## Reading -/

def fieldNames : List String :=
  ["address", "topics", "data", "blockNumber", "blockHash", "transactionHash",
    "transactionIndex", "logIndex", "removed"]

/-- Read a log; fields that logs do not have are passed over. -/
def ofJson? (value : Json) : Option LogEntry := do
  let fields ← value.fields? fieldNames
  let address ← Json.requiredMember? "address" (Json.asFixedBytes? 20) fields
  let topicItems ← Json.requiredMember? "topics" Json.asItems? fields
  let topics ← topicItems.mapM (Json.asFixedBytes? 32)
  let data ← Json.requiredMember? "data" Json.asBytes? fields
  let blockNumber ← Json.nullableMember? "blockNumber" Json.asQuantity64? fields
  let blockHash ← Json.nullableMember? "blockHash" (Json.asFixedBytes? 32) fields
  let transactionHash ← Json.nullableMember? "transactionHash" (Json.asFixedBytes? 32) fields
  let transactionIndex ← Json.nullableMember? "transactionIndex" Json.asQuantity64? fields
  let logIndex ← Json.nullableMember? "logIndex" Json.asQuantity64? fields
  let removed ← Json.optionalMember? "removed" Json.asBool? false fields
  some ⟨address, topics, data, blockNumber, blockHash, transactionHash, transactionIndex,
    logIndex, removed⟩

/-- Read the logs of a reply. One log that cannot be read spoils them all. -/
def ofReply? (reply : Json) : Option (List LogEntry) := do
  let items ← reply.asItems?
  items.mapM ofJson?

end LogEntry

end ContractClient
