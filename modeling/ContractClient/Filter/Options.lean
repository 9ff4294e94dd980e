import ContractClient.Block

namespace ContractClient

/-! Filters for logs: what a user asks for, and what a node is told. -/

inductive TopicFilter where
  | exact (topic : Word)
  | anyOf (topics : List Word)
deriving DecidableEq

def TopicFilter.toJson : TopicFilter → Json
  | .exact topic => .string topic.toHex
  | .anyOf topics => Json.strings (topics.map FixedBytes.toHex)

structure FilterOptions where
  /-- For an indexed argument a value, a list of alternatives, or null for any value. -/
  arguments : List (String × Json)
  fromBlock : Option BlockTag
  toBlock : Option BlockTag
  blockHash : Option Word
  address : Option Address
  /-- Topics to be used as they are, in place of arguments. -/
  topics : Option (List (Option TopicFilter))

namespace FilterOptions

def empty : FilterOptions :=
  ⟨[], none, none, none, none, none⟩

def range (first last : Nat) : FilterOptions :=
  { empty with fromBlock := some (.number first), toBlock := some (.number last) }

def withArgument (options : FilterOptions) (name : String) (value : Json) : FilterOptions :=
  { options with arguments := Json.insertMember name value options.arguments }

end FilterOptions

/-- What a node is told. A position of the topics without a filter matches any
topic. -/
structure FilterParams where
  address : Option Address
  fromBlock : Option BlockTag
  toBlock : Option BlockTag
  blockHash : Option Word
  topics : List (Option TopicFilter)
deriving DecidableEq

def FilterParams.toJson (params : FilterParams) : Json :=
  Json.ofPairs
    (params.address.toList.map (fun address => ("address", .string address.toHex)) ++
      params.fromBlock.toList.map (fun block => ("fromBlock", .string block.toText)) ++
      params.toBlock.toList.map (fun block => ("toBlock", .string block.toText)) ++
      params.blockHash.toList.map (fun hash => ("blockHash", .string hash.toHex)) ++
      [("topics", .array (params.topics.map (Json.ofOption TopicFilter.toJson)))])

end ContractClient
