import ContractClient.Contract.Handle
import ContractClient.Filter.Live

namespace ContractClient

/-! Events of a contract handle: decoding their logs, asking for past ones, and
installing filters for new ones. -/

structure ContractEvent where
  contract : Contract
  event : EventEntry

def Contract.event (contract : Contract) (identifier : String) :
    Except ContractError ContractEvent :=
  match contract.findEvent identifier with
  | .ok event => .ok ⟨contract, event⟩
  | .error reason => .error reason

namespace ContractEvent

def summary (handle : ContractEvent) : String :=
  "ContractEvent \x7b address: " ++
    Contract.optionText FixedBytes.toHex handle.contract.address ++
    ", event: " ++ Text.Quoted.text handle.event.signature ++ " \x7d"

def filterBuilder (handle : ContractEvent) : FilterBuilder :=
  ⟨handle.event, handle.contract.address, .empty⟩

def filterParams (handle : ContractEvent) (options : FilterOptions) :
    Except ContractError FilterParams :=
  (handle.filterBuilder.withOptions options).build

def processLog (handle : ContractEvent) (log : LogEntry) : Except ContractError DecodedEvent :=
  handle.event.decodeLog log

def getLogs (handle : ContractEvent) (options : FilterOptions) :
    Dialogue (Except ContractError (List DecodedEvent)) :=
  match handle.filterParams options with
  | .error reason => .done (.error reason)
  | .ok params =>
      match handle.contract.node with
      | .error reason => .done (.error reason)
      | .ok endpoint =>
          (Dialogue.request endpoint .getLogs [params.toJson] LogEntry.ofReply?).andThen
            fun logs => .done (handle.event.decodeLogs logs)

/-- Install a filter on a node. It must say where it begins. -/
def createFilter (handle : ContractEvent) (options : FilterOptions) :
    Dialogue (Except ContractError LiveFilter) :=
  if options.fromBlock.isNone && options.blockHash.isNone then
    .done (.error (.invalidFilter .needsFromBlock))
  else
    match handle.contract.node with
    | .error reason => .done (.error reason)
    | .ok endpoint => (handle.filterBuilder.withOptions options).deploy endpoint

end ContractEvent

end ContractClient
