namespace ContractClient

/-! The requests that nodes serve, and the endpoints where they do. -/

inductive Method where
  | call
  | sendTransaction
  | estimateGas
  | getLogs
  | newFilter
  | getFilterChanges
  | getFilterLogs
  | uninstallFilter
  | chainId
  | gasPrice
deriving DecidableEq, Repr

def Method.text : Method → String
  | .call => "eth_call"
  | .sendTransaction => "eth_sendTransaction"
  | .estimateGas => "eth_estimateGas"
  | .getLogs => "eth_getLogs"
  | .newFilter => "eth_newFilter"
  | .getFilterChanges => "eth_getFilterChanges"
  | .getFilterLogs => "eth_getFilterLogs"
  | .uninstallFilter => "eth_uninstallFilter"
  | .chainId => "eth_chainId"
  | .gasPrice => "eth_gasPrice"

/-- Where a node is reached, and how many milliseconds its answer may take. -/
structure Endpoint where
  url : String
  timeout : Nat
deriving DecidableEq, Repr

end ContractClient
