import ContractClient.Interface.Explorer
import ContractClient.Node.Exchange
import ContractClient.Offchain.Gateway
import ContractClient.Path

namespace ContractClient

/-! Work without a network. Whatever goes over the web fails to be sent, and files
are kept in memory. -/

/-- Files by their paths. Their directories are there with them. -/
abbrev Files := List (String × String)

namespace Files

def isDirectory (files : Files) (place : Place) : Bool :=
  place.isEmpty || files.any fun file =>
    match Path.place file.1 with
    | some found => place.isPrefixOf found && place ≠ found
    | none => false

def locate (files : Files) (path : String) : Option Place :=
  Path.follow files.isDirectory [] (Path.parts path)

def contentAt (files : Files) (place : Place) : Option String :=
  (files.find? fun file => Path.place file.1 = some place).map Prod.snd

/-- Write a file, in place of the one that was there by this or another path. -/
def write (files : Files) (path content : String) : Files :=
  Json.insertMember path content
    (files.filter fun file => Path.place file.1 ≠ Path.place path)

end Files

namespace Offline

def node (endpoint : Endpoint) (method : String) (parameters : Json) :
    Except TransportError Json :=
  endpoint.readOutcome (Http.unreachable (endpoint.webRequest method parameters))

def gateway (template : String) (sender : Address) (callData : Bytes) :
    Except GatewayError Bytes :=
  Gateway.readOutcome (Gateway.target template sender callData)
    (Http.unreachable (Gateway.webRequest template sender callData))

def fetch (url : String) : Except FetchError Json :=
  Explorer.readOutcome (Http.unreachable (Explorer.webRequest url))

def load (path : String) (files : Files) : Except FileError String :=
  match (files.locate path).bind files.contentAt with
  | some content => .ok content
  | none => .error .missing

def respondent : Dialogue.Respondent Files := fun question files =>
  match question with
  | .node endpoint method parameters => (node endpoint method.text (.array parameters), files)
  | .gateway template sender callData => (gateway template sender callData, files)
  | .fetch url => (fetch url, files)
  | .load path => (load path files, files)
  | .store path content => ((), files.write path content)

end Offline

end ContractClient
