import ContractClient.Abi.Decoding
import ContractClient.Abi.Encoding
import ContractClient.Error
import ContractClient.Json.Reader
import ContractClient.Json.Writer
import ContractClient.Text.Blank

namespace ContractClient

/-! Offchain lookups. A read-only call that cannot be answered on the chain fails
with an error that names gateways, what to ask them, and the function that takes
their response. -/

structure OffchainLookup where
  /-- The contract that asks. -/
  sender : Address
  urls : List String
  callData : Bytes
  callbackFunction : Selector
  /-- Handed back to the contract together with the response. -/
  extraData : Bytes
deriving DecidableEq

namespace OffchainLookup

/-! ## The form of a lookup in a failed call -/

def signature : String :=
  "OffchainLookup(address,string[],bytes,bytes4,bytes)"

def selector : Selector :=
  ⟨[0x55, 0x6f, 0x18, 0x30], rfl⟩

def types : List AbiType :=
  [.address, .array .string, .bytes, .fixedBytes 4, .bytes]

def values (lookup : OffchainLookup) : List AbiValue :=
  [.address lookup.sender, .array (lookup.urls.map .string), .bytes lookup.callData,
   .fixedBytes (FixedBytes.ofBytesPadded 32 lookup.callbackFunction.bytes) 4,
   .bytes lookup.extraData]

def encode (lookup : OffchainLookup) : Bytes :=
  selector.bytes ++ AbiValue.encodeSequence lookup.values

def textsOf? : List AbiValue → Option (List String)
  | [] => some []
  | .string text :: rest => (textsOf? rest).map (text :: ·)
  | _ => none

def ofValues? : List AbiValue → Option OffchainLookup
  | [.address sender, .array urls, .bytes callData, .fixedBytes callback _, .bytes extraData] =>
      (textsOf? urls).map fun texts =>
        ⟨sender, texts, callData, FixedBytes.ofBytesPadded 4 callback.bytes, extraData⟩
  | _ => none

/-- The lookup that data stands for. Only data that is exactly the encoding of a
lookup counts; bytes left over or in the wrong place do not. -/
def decode? (data : Bytes) : Option OffchainLookup :=
  match AbiValue.decodeSequence types (data.drop 4) with
  | .error _ => none
  | .ok found =>
      (ofValues? found).bind fun lookup => if lookup.encode = data then some lookup else none

/-! ## How nodes report the data of a failed call -/

mutual
/-- The data in a JSON value: hexadecimal digits, possibly under the name `data`
of an object, and so on inwards. -/
def revertData? : Json → Option Bytes
  | .string text => (Bytes.ofHex? text).toOption
  | .object members => memberRevertData? members
  | value => (Bytes.ofHex? value.toText).toOption

def memberRevertData? : List (String × Json) → Option Bytes
  | [] => none
  | (name, value) :: rest =>
      if name = "data" then revertData? value else memberRevertData? rest
end

/-- The data in the text that a node adds to an error: a JSON value, or digits
with blanks around them. -/
def reportedData? (text : String) : Option Bytes :=
  let digits := (Bytes.ofHex? (Text.trim text)).toOption
  match Json.parse? text with
  | some (.string inner) => revertData? (.string inner)
  | some (.object members) => revertData? (.object members)
  | _ => digits

def ofError? : TransportError → Option OffchainLookup
  | .rpc _ _ (some text) => (reportedData? text).bind decode?
  | _ => none

end OffchainLookup

end ContractClient
