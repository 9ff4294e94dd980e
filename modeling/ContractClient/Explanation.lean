import ContractClient.Text.Search

namespace ContractClient.Explanation

/-! Explanations of failures in the words of a user. A failure is recognised by
a phrase in its report; the first phrase that occurs decides. -/

structure Rule where
  phrases : List String
  explain : (report : String) → String

/-- Apply the first rule that fits; otherwise the report follows an opening. -/
def apply (rules : List Rule) (opening report : String) : String :=
  match rules.find? fun rule => rule.phrases.any (Text.contains report) with
  | some rule => rule.explain report
  | none => opening ++ report

def nodeRules : List Rule :=
  [⟨["execution reverted"], fun report =>
      "The contract function reverted execution. This usually means the function's " ++
        "requirements were not met. (" ++ report ++ ")"⟩,
   ⟨["insufficient funds"], fun _ =>
      "Insufficient funds to cover value and gas costs for the sending account."⟩,
   ⟨["gas required exceeds allowance"], fun _ =>
      "Gas limit too low. Try increasing the gas limit for this transaction."⟩,
   ⟨["nonce too low"], fun _ =>
      "Nonce too low. Another transaction was already mined with this nonce."⟩,
   ⟨["query returned more than", "block range"], fun report =>
      "The node rejected the log query range. Narrow fromBlock/toBlock and try again. (" ++
        report ++ ")"⟩,
   ⟨["filter not found"], fun _ =>
      "Filter not found. The node may have expired it after a period without polling."⟩,
   ⟨["connection refused", "network unreachable"], fun _ =>
      "Network error: Cannot connect to RPC endpoint. Check your RPC URL configuration."⟩,
   ⟨["timed out", "timeout"], fun _ =>
      "Network error: Request timed out. The RPC endpoint may be overloaded or unreachable."⟩,
   ⟨["method not found"], fun _ =>
      "The requested method is not supported by this RPC endpoint."⟩]

def ofNodeReport (report : String) : String :=
  apply nodeRules "RPC error: " report

def interfaceRules (address : String) : List Rule :=
  [⟨["not verified", "not found"], fun _ =>
      "No ABI available for " ++ address ++ ": the contract is not verified. " ++
        "Provide an abi_path for it in the configuration."⟩,
   ⟨["rate limit", "429"], fun _ =>
      "Etherscan rate limit reached. Try again later or set ETHERSCAN_API_KEY."⟩,
   ⟨["invalid API key", "403"], fun _ =>
      "Invalid Etherscan API key. Check the ETHERSCAN_API_KEY environment variable."⟩]

def ofInterfaceReport (report address : String) : String :=
  apply (interfaceRules address) "ABI resolution error: " report

end ContractClient.Explanation
