import ContractClient.Dialogue
import ContractClient.Filter.Building
import ContractClient.Log.Decoding

namespace ContractClient

/-! Filters that are installed on a node and polled there. -/

structure FilterBuilder where
  event : EventEntry
  contractAddress : Option Address
  options : FilterOptions

namespace FilterBuilder

def withOptions (builder : FilterBuilder) (options : FilterOptions) : FilterBuilder :=
  { builder with options }

def fromBlock (builder : FilterBuilder) (block : BlockTag) : FilterBuilder :=
  { builder with options.fromBlock := some block }

def toBlock (builder : FilterBuilder) (block : BlockTag) : FilterBuilder :=
  { builder with options.toBlock := some block }

def blockHash (builder : FilterBuilder) (hash : Word) : FilterBuilder :=
  { builder with options.blockHash := some hash }

def matchSingle (builder : FilterBuilder) (name : String) (value : Json) : FilterBuilder :=
  { builder with options := builder.options.withArgument name value }

def matchAny (builder : FilterBuilder) (name : String) (values : List Json) : FilterBuilder :=
  { builder with options := builder.options.withArgument name (.array values) }

def build (builder : FilterBuilder) : Except ContractError FilterParams :=
  match builder.event.filter builder.contractAddress builder.options with
  | .ok params => .ok params
  | .error reason => .error (.invalidFilter reason)

end FilterBuilder

structure LiveFilter where
  id : String
  params : FilterParams
  builder : FilterBuilder

namespace LiveFilter

def formatEntry (filter : LiveFilter) (log : LogEntry) : Except ContractError DecodedEvent :=
  filter.builder.event.decodeLog log

def formatEntries (filter : LiveFilter) (reply : Json) :
    Except ContractError (List DecodedEvent) :=
  filter.builder.event.decodeReply reply

end LiveFilter

def FilterBuilder.deploy (builder : FilterBuilder) (endpoint : Endpoint) :
    Dialogue (Except ContractError LiveFilter) :=
  match builder.build with
  | .error reason => .done (.error reason)
  | .ok params =>
      Dialogue.request endpoint .newFilter [params.toJson] fun reply =>
        reply.asText?.map fun id => ⟨id, params, builder⟩

end ContractClient
