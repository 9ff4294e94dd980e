import ContractClient.Dialogue
import ContractClient.Http.Exchange
import ContractClient.Interface.Reader

namespace ContractClient

/-! Block explorers: services that know the interfaces of verified contracts. -/

inductive ExplorerError where
  | unsupportedNetwork (network : String)
  | fetch (error : FetchError)
  | noResult
  | reported (reason result : String)
  | unverified
  | malformed
deriving DecidableEq, Repr

def ExplorerError.message : ExplorerError → String
  | .unsupportedNetwork network => "Unsupported network for Etherscan: " ++ network
  | .fetch (.unsent reason) => "Failed to fetch from Etherscan: " ++ reason
  | .fetch (.unreadable reason) => "Failed to parse Etherscan response: " ++ reason
  | .noResult => "No ABI found in response"
  | .reported reason result => "Etherscan API error: " ++ reason ++ " (" ++ result ++ ")"
  | .unverified => "Contract source code is not verified on Etherscan"
  | .malformed => "Failed to parse ABI JSON"

namespace Explorer

def baseUrl? : String → Option String
  | "mainnet" | "ethereum" => some "https://api.etherscan.io"
  | "sepolia" => some "https://api-sepolia.etherscan.io"
  | "holesky" => some "https://api-holesky.etherscan.io"
  | "polygon" => some "https://api.polygonscan.com"
  | "arbitrum" => some "https://api.arbiscan.io"
  | "optimism" => some "https://api-optimistic.etherscan.io"
  | "base" => some "https://api.basescan.org"
  | _ => none

def requestUrl (base address : String) (apiKey : Option String) : String :=
  base ++ "/api?module=contract&action=getabi&address=" ++ address ++ "&format=json" ++
    (apiKey.map ("&apikey=" ++ ·)).getD ""

/-- The result that explorers give for a contract whose source they do not have. -/
def unverifiedResult : String := "Contract source code not verified"

/-- The interface in a reply. It is a text within the JSON document. -/
def readReply (reply : Json) : Except ExplorerError Interface :=
  match (reply.member? "result").bind Json.asText? with
  | none => .error .noResult
  | some result =>
      if (reply.member? "status").bind Json.asText? ≠ some "1" then
        .error (.reported
          (((reply.member? "message").bind Json.asText?).getD "Unknown error") result)
      else if result = unverifiedResult then .error .unverified
      else
        match Interface.parse? result with
        | some interface => .ok interface
        | none => .error .malformed

def fetch (network address : String) (apiKey : Option String) :
    Dialogue (Except ExplorerError Interface) :=
  match baseUrl? network with
  | none => .done (.error (.unsupportedNetwork network))
  | some base =>
      .ask (.fetch (requestUrl base address apiKey)) fun
        | .error error => .done (.error (.fetch error))
        | .ok reply => .done (readReply reply)

/-! ## Over the web -/

def webRequest (url : String) : Http.Request :=
  ⟨.get, url, none, none⟩

def readOutcome : Http.Outcome → Except FetchError Json
  | .answered _ body =>
      match Json.parse? body with
      | some document => .ok document
      | none => .error (.unreadable "error decoding response body")
  | .failed reason => .error (.unsent reason)
  | .overdue => .error (.unsent "operation timed out")

end Explorer

end ContractClient
