import ContractClient.Abi.Coercion
import ContractClient.Abi.Decoding
import ContractClient.Address

namespace ContractClient

/-! Everything that can go wrong between a request and its answer. Each failure
is named by its cause, and every cause has one wording. -/

/-! ## Nodes -/

inductive TransportError where
  /-- The request could not be sent, or its answer was no answer of a node. -/
  | http (reason : String)
  /-- The node reported an error; reverted executions are reported so. -/
  | rpc (code : Int) (reason : String) (data : Option String)
  | timeout (milliseconds : Nat)
  | cancelled (reason : String)
  | deserialization
deriving DecidableEq, Repr

namespace TransportError

def message : TransportError → String
  | .http reason => "HTTP error: " ++ reason
  | .rpc code reason _ => "RPC error " ++ toString code ++ ": " ++ reason
  | .timeout milliseconds => "Request timed out after " ++ toString milliseconds ++ "ms"
  | .cancelled reason => "Request cancelled: " ++ reason
  | .deserialization => "Deserialization error"

def isExecutionError : TransportError → Bool
  | .rpc .. => true
  | _ => false

def isInterrupted : TransportError → Bool
  | .timeout _ | .cancelled _ => true
  | _ => false

end TransportError

/-! ## Arguments -/

inductive MergeError where
  | tooMany (limit given : Nat)
  | unknownKeyword (name : String)
  | givenTwice (name : String)
  | missing (name : String)
deriving DecidableEq, Repr

def MergeError.message : MergeError → String
  | .tooMany limit given =>
      "expected at most " ++ toString limit ++ " argument(s), got " ++ toString given
  | .unknownKeyword name => "unknown keyword argument '" ++ name ++ "'"
  | .givenTwice name => "argument '" ++ name ++ "' given both by position and keyword"
  | .missing name => "missing argument '" ++ name ++ "'"

structure UnsupportedType where
  type : String
  reason : Parameter.ResolveError
deriving DecidableEq, Repr

def UnsupportedType.message (unsupported : UnsupportedType) : String :=
  "unsupported type '" ++ unsupported.type ++ "': " ++ unsupported.reason.message

/-- Why arguments are not values of the declared parameters. Positions count
from one. -/
inductive ArgumentError where
  | count (expected given : Nat)
  | unsupported (type : UnsupportedType)
  | invalid (position : Nat) (name type : String) (reason : CoercionError)
deriving DecidableEq, Repr

def ArgumentError.message : ArgumentError → String
  | .count expected given =>
      "expected " ++ toString expected ++ " argument(s), got " ++ toString given
  | .unsupported type => type.message
  | .invalid position name type reason =>
      "invalid argument #" ++ toString position ++ " ('" ++ name ++ "' of type '" ++ type ++
        "'): " ++ reason.message

inductive EncodingError where
  | merge (error : MergeError)
  | argument (error : ArgumentError)
  | typeMismatch
  | takesNoArguments
  | noConstructorArguments
deriving DecidableEq, Repr

def EncodingError.message : EncodingError → String
  | .merge error => error.message
  | .argument error => error.message
  | .typeMismatch => "type mismatch"
  | .takesNoArguments => "takes no arguments"
  | .noConstructorArguments => "the ABI declares no constructor arguments"

/-! ## Results and logs -/

inductive OutputError where
  | noData
  | type (reason : Parameter.ResolveError)
  | data (reason : DecodeError)
deriving DecidableEq, Repr

def OutputError.message : OutputError → String
  | .noData => "call returned no data; is the contract deployed and the chain synced?"
  | .type reason => reason.message
  | .data reason => reason.message

inductive LogError where
  | type (reason : Parameter.ResolveError)
  | topicCount (expected found : Nat)
  | signature (expected found : Word)
  | data (reason : DecodeError)
  | missingValue (name : String)
deriving DecidableEq

def LogError.message : LogError → String
  | .type reason => reason.message
  | .topicCount expected found =>
      "invalid log topic list length: expected " ++ toString expected ++ " topics, got " ++
        toString found
  | .signature expected found =>
      "invalid event signature: expected " ++ expected.toHex ++ ", got " ++ found.toHex
  | .data reason => reason.message
  | .missingValue name => "missing value for parameter '" ++ name ++ "'"

/-! ## Filters -/

inductive ArgumentFilterError where
  | unsupported (type : UnsupportedType)
  | arrayType
  | invalid (reason : CoercionError)
  | noAlternatives
deriving DecidableEq, Repr

def ArgumentFilterError.message : ArgumentFilterError → String
  | .unsupported type => type.message
  | .arrayType => "array-typed arguments cannot be filtered"
  | .invalid reason => reason.message
  | .noAlternatives => "empty list of alternatives"

inductive FilterError where
  | blockHashWithRange
  | addressMismatch (given contract : Address)
  | topicsWithArguments
  | unknownArgument (event name : String)
  | notIndexed (event name : String)
  | argument (event name : String) (reason : ArgumentFilterError)
  | needsFromBlock
deriving DecidableEq

def FilterError.message : FilterError → String
  | .blockHashWithRange => "blockHash cannot be combined with fromBlock or toBlock"
  | .addressMismatch given contract =>
      "address " ++ Address.toChecksum given ++ " does not match contract address " ++
        Address.toChecksum contract
  | .topicsWithArguments => "explicit topics cannot be combined with argument filters"
  | .unknownArgument event name =>
      "event '" ++ event ++ "' has no argument named '" ++ name ++ "'"
  | .notIndexed event name =>
      "argument '" ++ name ++ "' of '" ++ event ++
        "' is not indexed and cannot be filtered by topic"
  | .argument event name reason =>
      "argument '" ++ name ++ "' of '" ++ event ++ "': " ++ reason.message
  | .needsFromBlock => "create_filter requires fromBlock"

/-! ## Offchain lookups -/

inductive LookupError where
  | gateway (reason : String)
  | noUrls
  | foreignSender (sender : Address)
  | tooManyRedirects (limit : Nat)
deriving DecidableEq

def LookupError.message : LookupError → String
  | .gateway reason => reason
  | .noUrls => "lookup names no gateway URLs"
  | .foreignSender sender =>
      "lookup sender " ++ Address.toChecksum sender ++ " is not the called contract"
  | .tooManyRedirects limit => "more than " ++ toString limit ++ " redirects"

/-! ## Contracts -/

inductive EntryKind where
  | function
  | event
  | fallback
  | receive
deriving DecidableEq, Repr

def EntryKind.text : EntryKind → String
  | .function => "function"
  | .event => "event"
  | .fallback => "fallback"
  | .receive => "receive"

inductive DerivedField where
  | target
  | data
deriving DecidableEq, Repr

def DerivedField.text : DerivedField → String
  | .target => "to"
  | .data => "data"

inductive ContractError where
  | notInitialized
  | missingAddress (operation : String)
  | noBytecode
  | notFound (kind : EntryKind) (identifier : String)
  | noMatchingOverload (name : String) (given : Nat) (candidates : List String)
  | ambiguousOverload (name : String) (candidates : List String)
  | encoding (signature : String) (reason : EncodingError)
  | decoding (signature : String) (reason : OutputError)
  | conflictingParams (field : DerivedField)
  | invalidFilter (reason : FilterError)
  | logDecode (event log : String) (reason : LogError)
  | malformedLogs (event : String)
  | offchainLookup (reason : LookupError)
  | transport (error : TransportError)
deriving DecidableEq

namespace ContractError

def message : ContractError → String
  | .notInitialized => "Contract handle is not bound to a transport"
  | .missingAddress operation =>
      "The address argument is required for '" ++ operation ++ "'"
  | .noBytecode =>
      "Cannot call constructor on a contract that does not have bytecode associated with it"
  | .notFound kind identifier =>
      "No " ++ kind.text ++ " named '" ++ identifier ++ "' in contract ABI"
  | .noMatchingOverload name given candidates =>
      "No overload of '" ++ name ++ "' accepts " ++ toString given ++
        " argument(s) of the given types. Candidates: " ++ String.intercalate ", " candidates
  | .ambiguousOverload name candidates =>
      "Call to '" ++ name ++ "' is ambiguous, matching overloads: " ++
        String.intercalate ", " candidates
  | .encoding signature reason =>
      "Failed to encode arguments for '" ++ signature ++ "': " ++ reason.message
  | .decoding signature reason =>
      "Failed to decode output of '" ++ signature ++ "': " ++ reason.message
  | .conflictingParams field =>
      "Transaction parameter '" ++ field.text ++
        "' conflicts with the value derived from the contract"
  | .invalidFilter reason => "Invalid filter parameters: " ++ reason.message
  | .logDecode event log reason =>
      "Failed to decode log " ++ log ++ " as event '" ++ event ++ "': " ++ reason.message
  | .malformedLogs event => "Failed to decode log <rpc result> as event '" ++ event ++ "'"
  | .offchainLookup reason => "Offchain lookup failed: " ++ reason.message
  | .transport error => error.message

end ContractError

end ContractClient
