import ContractClient.Dialogue
import ContractClient.Offchain.Lookup
import ContractClient.Transaction.Request

namespace ContractClient.OffchainLookup

/-! Answering offchain lookups. The gateways of a lookup are asked one after the
other, and the response is handed to the contract, whose answer may be another
lookup. -/

/-- How many lookups are answered for one call. -/
def maxRedirects : Nat := 4

def callbackData (lookup : OffchainLookup) (response : Bytes) : Bytes :=
  lookup.callbackFunction.bytes ++
    AbiValue.encodeSequence [.bytes response, .bytes lookup.extraData]

/-- Ask gateways in order until one answers or refuses; `failure` is why the last
of them gave no answer. -/
def askGateways (lookup : OffchainLookup) (failure : Option String) :
    List String → Dialogue (Except ContractError Bytes)
  | [] =>
      match failure with
      | some reason => .done (.error (.offchainLookup (.gateway reason)))
      | none => .done (.error (.offchainLookup .noUrls))
  | url :: rest =>
      .ask (.gateway url lookup.sender lookup.callData) fun
        | .ok response => .done (.ok response)
        | .error (.rejected reason) => .done (.error (.offchainLookup (.gateway reason)))
        | .error (.unavailable reason) => lookup.askGateways (some reason) rest

/-- Answer a lookup and repeat the call through the contract's callback, as long
as redirects are left. Of the transaction only the call data changes, and
`context` follows it in every request. A lookup of another contract is refused. -/
def follow (endpoint : Endpoint) (context : List Json) :
    (redirects : Nat) → TransactionRequest → OffchainLookup →
      Dialogue (Except ContractError Json)
  | 0, _, _ => .done (.error (.offchainLookup (.tooManyRedirects maxRedirects)))
  | redirects + 1, request, lookup =>
      if request.target = some lookup.sender then
        (lookup.askGateways none lookup.urls).andThen fun response =>
          let callback := { request with input := lookup.callbackData response }
          .ask (.node endpoint .call (callback.toJson :: context)) fun
            | .ok reply => .done (.ok reply)
            | .error error =>
                match ofError? error with
                | some next => follow endpoint context redirects callback next
                | none => .done (.error (.transport error))
      else .done (.error (.offchainLookup (.foreignSender lookup.sender)))

end ContractClient.OffchainLookup
