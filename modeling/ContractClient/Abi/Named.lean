import ContractClient.Abi.Value

namespace ContractClient

/-! Values filed under names. The names stand in the order in which they were
first filed; filing under a name again replaces its value. -/

abbrev NamedValues := List (String × AbiValue)

namespace NamedValues

def put (name : String) (value : AbiValue) : NamedValues → NamedValues
  | [] => [(name, value)]
  | (other, held) :: rest =>
      if name = other then (name, value) :: rest else (other, held) :: put name value rest

def ofPairs (pairs : List (String × AbiValue)) : NamedValues :=
  pairs.foldl (fun named pair => put pair.1 pair.2 named) []

def names (named : NamedValues) : List String :=
  named.map Prod.fst

def toJson (named : NamedValues) : Json :=
  Json.ofPairs (named.map fun (name, value) => (name, value.toJson))

end NamedValues

end ContractClient
