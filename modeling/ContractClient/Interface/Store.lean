import ContractClient.Interface.Explorer
import ContractClient.Interface.Writer
import ContractClient.Path
import ContractClient.Text.Lowercase

namespace ContractClient

/-! A store of interfaces. An interface is looked for in memory, then in a file,
and then it is fetched from an explorer and kept in both. -/

structure InterfaceStore where
  directory : String
  apiKey : Option String
  held : List (String × Interface)

namespace InterfaceStore

def opened (directory : String) (apiKey : Option String) : InterfaceStore :=
  ⟨directory, apiKey, []⟩

def defaultNetwork : String := "mainnet"

/-- Networks and addresses in either case have one key. -/
def key (address : String) (network : Option String) : String :=
  network.getD defaultNetwork ++ "_" ++ Text.lower address

def path (store : InterfaceStore) (key : String) : String :=
  Path.join store.directory (key ++ ".json")

def hold (store : InterfaceStore) (key : String) (interface : Interface) : InterfaceStore :=
  { store with held := Json.insertMember key interface store.held }

def loadFile (store : InterfaceStore) (key : String) : Dialogue (Option Interface) :=
  .ask (.load (store.path key)) fun
    | .ok text => .done (Interface.parse? text)
    | .error _ => .done none

def fetch (store : InterfaceStore) (key address : String) (network : Option String) :
    Dialogue (Except ExplorerError Interface) :=
  (Explorer.fetch (network.getD defaultNetwork) (Text.lower address) store.apiKey).andThen
    fun interface =>
      .ask (.store (store.path key) interface.toJson.toPrettyText) fun _ =>
        .done (.ok interface)

/-- Find the interface of the contract at an address. What is found is held from
then on; a failure leaves the store as it was. -/
def find (store : InterfaceStore) (address : String) (network : Option String) :
    Dialogue (Except ExplorerError Interface × InterfaceStore) :=
  let key := key address network
  match Json.lookup key store.held with
  | some interface => .done (.ok interface, store)
  | none =>
      (store.loadFile key).bind fun
        | some interface => .done (.ok interface, store.hold key interface)
        | none =>
            (store.fetch key address network).map fun
              | .ok interface => (.ok interface, store.hold key interface)
              | .error reason => (.error reason, store)

end InterfaceStore

end ContractClient
