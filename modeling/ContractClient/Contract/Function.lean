import ContractClient.Block
import ContractClient.Contract.Handle
import ContractClient.Contract.Result
import ContractClient.Interface.Resolution
import ContractClient.Offchain.Following
import ContractClient.Transaction.Defaults

namespace ContractClient

/-! Functions of a contract handle: naming one, binding arguments to it, and the
four things to do with a bound function. -/

/-- What a call is directed at: a function, or one of the entries without a name. -/
inductive CallTarget where
  | function (identifier : Identifier)
  | fallback
  | receive
deriving DecidableEq

def CallTarget.toText : CallTarget → String
  | .function identifier => identifier.toText
  | .fallback => "fallback()"
  | .receive => "receive()"

structure CallOptions where
  transaction : TransactionOptions
  block : BlockId
  /-- Passed on to the node as it is. -/
  stateOverride : Option Json
  /-- Whether offchain lookups are answered. -/
  offchain : Bool

def CallOptions.default : CallOptions :=
  ⟨.empty, .latest, none, true⟩

/-! ## Naming -/

structure ContractFunction where
  contract : Contract
  target : CallTarget

namespace Interface

def declares (interface : Interface) : Identifier → Bool
  | .plain name => !(interface.functionsNamed name).isEmpty
  | .signature signature => (interface.functionBySignature signature).isSome
  | .selector selector => (interface.functionBySelector selector).isSome
  | .topic _ => false

end Interface

namespace Contract

def function (contract : Contract) (identifier : String) :
    Except ContractError ContractFunction :=
  let parsed := Identifier.parse identifier
  if contract.interface.declares parsed then .ok ⟨contract, .function parsed⟩
  else .error (.notFound .function parsed.toText)

def fallback (contract : Contract) : Except ContractError ContractFunction :=
  if contract.interface.fallback.isSome then .ok ⟨contract, .fallback⟩
  else .error (.notFound .fallback CallTarget.fallback.toText)

def receive (contract : Contract) : Except ContractError ContractFunction :=
  if contract.interface.receive.isSome then .ok ⟨contract, .receive⟩
  else .error (.notFound .receive CallTarget.receive.toText)

end Contract

/-! ## Binding -/

structure BoundFunction where
  contract : Contract
  target : CallTarget
  positional : List Json
  keywords : List (String × Json)
  /-- The declaration that the arguments were bound to. -/
  entry : Option FunctionEntry

/-- Bind arguments, choosing among the declarations of a shared name. -/
def ContractFunction.bind (function : ContractFunction) (positional : List Json)
    (keywords : List (String × Json)) : Except ContractError BoundFunction :=
  match function.target with
  | .function identifier =>
      match function.contract.interface.resolveFunction identifier positional keywords with
      | .ok entry =>
          .ok ⟨function.contract, function.target, positional, keywords, some entry⟩
      | .error reason => .error reason
  | target =>
      if positional.isEmpty && keywords.isEmpty then
        .ok ⟨function.contract, target, positional, keywords, none⟩
      else .error (.encoding target.toText .takesNoArguments)

namespace BoundFunction

def signature (bound : BoundFunction) : String :=
  match bound.entry with
  | some entry => entry.signature
  | none => bound.target.toText

def rebind (bound : BoundFunction) (positional : List Json) (keywords : List (String × Json)) :
    Except ContractError BoundFunction :=
  ContractFunction.bind ⟨bound.contract, bound.target⟩ positional keywords

/-! ## Call data -/

def prepare (bound : BoundFunction) : Except ContractError (Option FunctionEntry × Bytes) :=
  match bound.target with
  | .function identifier =>
      match bound.contract.interface.resolveFunction identifier bound.positional
          bound.keywords with
      | .error reason => .error reason
      | .ok entry =>
          match entry.encodeCall bound.positional bound.keywords with
          | .error reason => .error reason
          | .ok data => .ok (some entry, data)
  | .fallback | .receive => .ok (none, [])

def callData (bound : BoundFunction) : Except ContractError Bytes :=
  match bound.prepare with
  | .error reason => .error reason
  | .ok (_, data) => .ok data

inductive Operation where
  | call
  | transact
  | estimateGas
  | buildTransaction
deriving DecidableEq, Repr

def Operation.text : Operation → String
  | .call => "call"
  | .transact => "transact"
  | .estimateGas => "estimate_gas"
  | .buildTransaction => "build_transaction"

/-- The transaction of an operation. It must have a target. -/
def transaction (bound : BoundFunction) (options : TransactionOptions) (data : Bytes)
    (operation : Operation) : Except ContractError TransactionRequest :=
  match options.merge bound.contract.address data bound.contract.defaultAccount with
  | .error reason => .error reason
  | .ok request =>
      if request.target.isNone then
        .error (.missingAddress (operation.text ++ " " ++ bound.target.toText))
      else .ok request

structure Dispatch where
  entry : Option FunctionEntry
  request : TransactionRequest
  endpoint : Endpoint

/-- Prepare an operation. Whatever fails here fails before any request is sent. -/
def dispatch (bound : BoundFunction) (options : TransactionOptions) (operation : Operation) :
    Except ContractError Dispatch :=
  match bound.prepare with
  | .error reason => .error reason
  | .ok (entry, data) =>
      match bound.transaction options data operation with
      | .error reason => .error reason
      | .ok request =>
          match bound.contract.node with
          | .error reason => .error reason
          | .ok endpoint => .ok ⟨entry, request, endpoint⟩

/-! ## Operations -/

def readOutput (entry : Option FunctionEntry) (reply : Json) : Except ContractError ReturnValue :=
  match reply.asBytes? with
  | none => .error (.transport .deserialization)
  | some output =>
      match entry with
      | some declared => declared.decodeOutput output
      | none => .ok .empty

def CallOptions.context (options : CallOptions) : List Json :=
  options.block.toJson :: options.stateOverride.toList

def call (bound : BoundFunction) (options : CallOptions) :
    Dialogue (Except ContractError ReturnValue) :=
  match bound.dispatch options.transaction .call with
  | .error reason => .done (.error reason)
  | .ok ready =>
      let context := CallOptions.context options
      .ask (.node ready.endpoint .call (ready.request.toJson :: context)) fun
        | .ok reply => .done (readOutput ready.entry reply)
        | .error error =>
            let lookup := if options.offchain then OffchainLookup.ofError? error else none
            match lookup with
            | none => .done (.error (.transport error))
            | some found =>
                (OffchainLookup.follow ready.endpoint context OffchainLookup.maxRedirects
                  ready.request found).andThen fun reply => .done (readOutput ready.entry reply)

/-- Send the function as a transaction. The hash is known before the transaction
is part of the chain. -/
def transact (bound : BoundFunction) (options : TransactionOptions) :
    Dialogue (Except ContractError Word) :=
  match bound.dispatch options .transact with
  | .error reason => .done (.error reason)
  | .ok ready =>
      Dialogue.request ready.endpoint .sendTransaction [ready.request.toJson]
        (Json.asFixedBytes? 32)

def estimateGas (bound : BoundFunction) (options : TransactionOptions)
    (block : Option BlockId) : Dialogue (Except ContractError Nat) :=
  match bound.dispatch options .estimateGas with
  | .error reason => .done (.error reason)
  | .ok ready =>
      Dialogue.request ready.endpoint .estimateGas
        (ready.request.toJson :: block.toList.map BlockId.toJson) Json.asQuantity64?

def buildTransaction (bound : BoundFunction) (options : TransactionOptions) :
    Dialogue (Except ContractError TransactionRequest) :=
  match bound.dispatch options .buildTransaction with
  | .error reason => .done (.error reason)
  | .ok ready => ready.request.fill ready.endpoint

end BoundFunction

/-! ## Calling at once -/

def Contract.callFunction (contract : Contract) (options : CallOptions) (identifier : String)
    (positional : List Json) (keywords : List (String × Json)) :
    Dialogue (Except ContractError ReturnValue) :=
  match contract.function identifier with
  | .error reason => .done (.error reason)
  | .ok function =>
      match function.bind positional keywords with
      | .error reason => .done (.error reason)
      | .ok bound => bound.call options

end ContractClient
