import ContractClient.Abi.Decoding
import ContractClient.Abi.Named
import ContractClient.Error
import ContractClient.Interface.Entry
import ContractClient.Log.Entry

namespace ContractClient

/-! Logs decoded as occurrences of an event. The topics behind the one of the
event hold the indexed parameters in order, the data holds the others. -/

structure DecodedEvent where
  event : String
  arguments : NamedValues
  address : Address
  blockNumber : Option Nat
  blockHash : Option Word
  transactionHash : Option Word
  transactionIndex : Option Nat
  logIndex : Option Nat

def DecodedEvent.toJson (decoded : DecodedEvent) : Json :=
  Json.ofPairs
    [("event", .string decoded.event),
     ("args", decoded.arguments.toJson),
     ("address", .string (Address.toChecksum decoded.address)),
     ("blockNumber", Json.ofOption Json.natural decoded.blockNumber),
     ("blockHash", Json.ofOption (fun hash => .string hash.toHex) decoded.blockHash),
     ("transactionHash", Json.ofOption (fun hash => .string hash.toHex) decoded.transactionHash),
     ("transactionIndex", Json.ofOption Json.natural decoded.transactionIndex),
     ("logIndex", Json.ofOption Json.natural decoded.logIndex)]

namespace EventEntry

/-! ## Topics and data -/

def maxTopics : Nat := 4

def topicCount (event : EventEntry) : Nat :=
  event.indexed.length + event.topic?.toList.length

/-- The topics that hold parameters, if they are as many as the event's logs have
and the first is the event's own. Anonymous events have no topic of their own. -/
def parameterTopics (event : EventEntry) (topics : List Word) : Except LogError (List Word) :=
  if topics.length ≠ event.topicCount then
    .error (.topicCount event.topicCount topics.length)
  else
    match event.topic?, topics with
    | none, _ => .ok topics
    | some expected, found :: rest =>
        if found = expected then .ok rest else .error (.signature expected found)
    | some _, [] => .error (.topicCount event.topicCount 0)

def resolveTypes (parameters : List EventParameter) : Except LogError (List AbiType) :=
  match Parameter.resolveAll (parameters.map EventParameter.toParameter) with
  | .ok types => .ok types
  | .error reason => .error (.type reason)

/-- The values of the data. Types that take up no bytes need no data at all. -/
def dataValues (types : List AbiType) (data : Bytes) : Except LogError (List AbiValue) :=
  match AbiValue.ofNoData? (.tuple types) with
  | some (.tuple values) => .ok values
  | _ =>
      match AbiValue.decodeSequence types data with
      | .ok values => .ok values
      | .error reason => .error (.data reason)

/-! ## Arguments -/

/-- The name under which a parameter's value is filed: an unnamed parameter has
its position for a name. -/
def argumentName (position : Nat) (parameter : EventParameter) : String :=
  if parameter.name.isEmpty then toString position else parameter.name

/-- Give each parameter its value: an indexed one the next topic, any other the
next value of the data. The first parameter stands at `position`. -/
def assign (position : Nat) :
    List EventParameter → (topics data : List AbiValue) →
      Except LogError (List (String × AbiValue))
  | [], _, _ => .ok []
  | parameter :: rest, topics, data =>
      if parameter.indexed then
        match topics with
        | [] => .error (.missingValue parameter.name)
        | value :: others =>
            match assign (position + 1) rest others data with
            | .error reason => .error reason
            | .ok pairs => .ok ((argumentName position parameter, value) :: pairs)
      else
        match data with
        | [] => .error (.missingValue parameter.name)
        | value :: others =>
            match assign (position + 1) rest topics others with
            | .error reason => .error reason
            | .ok pairs => .ok ((argumentName position parameter, value) :: pairs)

def selectTypes (indexed : Bool) (parameters : List EventParameter) (types : List AbiType) :
    List AbiType :=
  ((parameters.zip types).filter fun typed => typed.1.indexed == indexed).map Prod.snd

def readArguments (event : EventEntry) (topics : List Word) (data : Bytes) :
    Except LogError NamedValues := do
  let types ← resolveTypes event.inputs
  if maxTopics < event.topicCount then
    .error (.topicCount maxTopics event.topicCount)
  let words ← event.parameterTopics topics
  let indexed := List.zipWith AbiDecoding.ofWord words (selectTypes true event.inputs types)
  let unindexed ← dataValues (selectTypes false event.inputs types) data
  let pairs ← assign 0 event.inputs indexed unindexed
  .ok (NamedValues.ofPairs pairs)

/-- Decode a log as an occurrence of the event. Any mismatch fails the whole log. -/
def decodeLog (event : EventEntry) (log : LogEntry) : Except ContractError DecodedEvent :=
  match event.readArguments log.topics log.data with
  | .error reason => .error (.logDecode event.signature log.describe reason)
  | .ok arguments =>
      .ok ⟨event.name, arguments, log.address, log.blockNumber, log.blockHash,
        log.transactionHash, log.transactionIndex, log.logIndex⟩

def decodeLogs (event : EventEntry) : List LogEntry → Except ContractError (List DecodedEvent)
  | [] => .ok []
  | log :: rest =>
      match event.decodeLog log with
      | .error reason => .error reason
      | .ok decoded =>
          match event.decodeLogs rest with
          | .error reason => .error reason
          | .ok others => .ok (decoded :: others)

def decodeReply (event : EventEntry) (reply : Json) : Except ContractError (List DecodedEvent) :=
  match LogEntry.ofReply? reply with
  | some logs => event.decodeLogs logs
  | none => .error (.malformedLogs event.signature)

end EventEntry

end ContractClient
