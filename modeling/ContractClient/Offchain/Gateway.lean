import ContractClient.Dialogue
import ContractClient.Http.Exchange
import ContractClient.Json.Reader
import ContractClient.Json.Record
import ContractClient.Node.Reply
import ContractClient.Text.Search

namespace ContractClient.Gateway

/-! Gateways of offchain lookups over the web. A lookup names a gateway by a
template with places for the sender and the call data. If the template has a
place for the data, the gateway is asked by that address alone; otherwise the
data is sent along. -/

def senderPlace : String := "\x7bsender\x7d"

def dataPlace : String := "\x7bdata\x7d"

def target (template : String) (sender : Address) (callData : Bytes) : String :=
  Text.replace (Text.replace template senderPlace sender.toHex) dataPlace (Bytes.toHex callData)

def webRequest (template : String) (sender : Address) (callData : Bytes) : Http.Request :=
  let url := target template sender callData
  if Text.contains template dataPlace then ⟨.get, url, none, none⟩
  else
    ⟨.post, url,
     some (Json.ofPairs
       [("data", .string (Bytes.toHex callData)), ("sender", .string sender.toHex)]),
     none⟩

def readBody? (body : String) : Option Bytes := do
  let reply ← Json.parse? body
  let fields ← reply.fields? ["data"]
  Json.requiredMember? "data" Json.asBytes? fields

/-- What the outcome of a web request means. A gateway that blames the request
rejects the lookup; every other failure makes it unavailable. -/
def readOutcome (target : String) : Http.Outcome → Except GatewayError Bytes
  | .answered status body =>
      let returned := target ++ " returned " ++ Http.statusText status
      if 400 ≤ status ∧ status < 500 then .error (.rejected returned)
      else if status < 200 ∨ 300 ≤ status then .error (.unavailable returned)
      else
        match readBody? body with
        | some data => .ok data
        | none =>
            .error (.unavailable
              (target ++ ": invalid response: error decoding response body"))
  | .failed reason => .error (.unavailable (target ++ ": " ++ reason))
  | .overdue => .error (.unavailable (target ++ ": operation timed out"))

end ContractClient.Gateway
