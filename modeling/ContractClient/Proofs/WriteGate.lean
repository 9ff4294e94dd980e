import ContractClient.Proofs.Sessions

/-! Writing is gated. A node is asked to send a transaction only by the tool that is there for
it, at most once in each of its calls, and only if the configuration allows writing. -/

namespace ContractClient

open Dialogue

/-! ## Operations -/

theorem OffchainLookup.Following.eq_call_of_mem {respondent : Respondent σ}
    {endpoint : Endpoint} {context : List Json} {redirects : Nat} {request : TransactionRequest}
    {lookup : OffchainLookup} {state : σ} {exchanges : List (Exchange σ)}
    {result : Except ContractError Json} {method : Method}
    (following : Following respondent endpoint context redirects request lookup state exchanges
      result)
    (member : method ∈ exchanges.filterMap Exchange.method?) : method = .call := by
  induction following with
  | exhausted | foreign => cases member
  | unanswered own asking =>
      rw [asking.filterMap_method] at member
      cases member
  | replied own asking answered | failed own asking answered plain =>
      rw [List.filterMap_append, asking.filterMap_method] at member
      exact List.mem_singleton.mp member
  | redirected own asking answered another rest induction =>
      rw [List.filterMap_append, asking.filterMap_method, List.nil_append] at member
      rcases List.mem_cons.mp member with called | member
      · exact called
      · exact induction member

theorem BoundFunction.Calling.eq_call_of_mem {respondent : Respondent σ} {bound : BoundFunction}
    {options : CallOptions} {state : σ} {exchanges : List (Exchange σ)}
    {result : Except ContractError ReturnValue} {method : Method}
    (calling : bound.Calling respondent options state exchanges result)
    (member : method ∈ exchanges.filterMap Exchange.method?) : method = .call := by
  cases calling with
  | refused => cases member
  | replied | failed => exact List.mem_singleton.mp member
  | followed _ _ _ _ following =>
      rcases List.mem_cons.mp member with called | member
      · exact called
      · exact following.eq_call_of_mem member

theorem Requesting.filterMap_method {methods : List Method} {exchanges : List (Exchange σ)}
    {result : Except ContractError α} (requesting : Requesting methods exchanges result) :
    exchanges.filterMap Exchange.method? <+: methods := by
  rcases requesting.asked with ⟨asked, same, due, _, _⟩
  have whole : exchanges.filterMap Exchange.method? = asked := by
    calc exchanges.filterMap Exchange.method?
        = (exchanges.map Exchange.method?).filterMap id := by
          rw [List.filterMap_map]
          rfl
      _ = asked := by
          rw [same, List.filterMap_map]
          exact List.filterMap_some
  rwa [whole]

theorem ContractWork.Going.count_le {respondent : Respondent σ} {state : σ} {work : ContractWork}
    {exchanges : List (Exchange σ)} {result : Except ContractError work.Result}
    (going : work.Going respondent state exchanges result) :
    (exchanges.filterMap Exchange.method?).count .sendTransaction ≤
      work.methods.count .sendTransaction := by
  cases going with
  | refused => exact Nat.zero_le _
  | called calling =>
      have unsent : Method.sendTransaction ∉ exchanges.filterMap Exchange.method? := by
        intro member
        cases calling.eq_call_of_mem member
      rw [List.count_eq_zero.mpr unsent]
      exact Nat.zero_le _
  | requested requesting => exact requesting.filterMap_method.sublist.count_le _

theorem TransactionRequest.count_openMethods (request : TransactionRequest) :
    request.openMethods.count .sendTransaction = 0 := by
  rw [openMethods]
  cases request.chainId.isNone <;> cases request.hasFee <;> cases request.gas.isNone <;> rfl

/-! ## Tool calls -/

/-- How many transactions a tool call may send. -/
def Server.allowance (server : Server) : ToolCall → Nat
  | .sendTransaction _ => if server.config.security.allowWrites then 1 else 0
  | _ => 0

theorem Server.allowance_le_one (server : Server) (call : ToolCall) :
    server.allowance call ≤ 1 := by
  cases call with
  | sendTransaction request =>
      rw [allowance]
      split <;> decide
  | _ => exact Nat.zero_le 1

theorem Server.allowance_pos_iff {server : Server} {call : ToolCall} :
    0 < server.allowance call ↔
      server.config.security.allowWrites = true ∧ ∃ request, call = .sendTransaction request := by
  cases call with
  | sendTransaction request =>
      by_cases allowed : server.config.security.allowWrites = true <;> simp [allowance, allowed]
  | _ => simp [allowance]

theorem Server.count_le_allowance {server : Server} {call : ToolCall} {work : ContractWork}
    (undertakes : call.Undertakes work) (permitted : server.Permits call) :
    work.methods.count .sendTransaction ≤ server.allowance call := by
  cases call with
  | sendTransaction request =>
      have allowed : server.config.security.allowWrites = true := permitted
      rw [allowance, if_pos allowed]
      cases work with
      | transact => exact Nat.le_refl 1
      | _ => cases undertakes
  | buildTransaction request =>
      cases work with
      | buildTransaction bound options =>
          exact Nat.le_of_eq (TransactionRequest.count_openMethods _)
      | _ => cases undertakes
  | callFunction | estimateGas | getLogs | createFilter | pollFilter | uninstallFilter =>
      cases work with
      | call | estimateGas | getLogs => exact Nat.le_refl 0
      | _ => cases undertakes

section Serving

variable {respondent : Respondent σ} {server after : Server} {state : σ} {call : ToolCall}
  {exchanges : List (Exchange σ)} {result : Except ToolError Json}

theorem FilterKey.Asking.count_eq_zero {networks : Networks} {key : FilterKey} {method : Method}
    {read : Json → Except ContractError Json}
    (asking : key.Asking networks method read exchanges result)
    (other : method ≠ .sendTransaction) :
    (exchanges.filterMap Exchange.method?).count .sendTransaction = 0 := by
  cases asking with
  | unreachable => rfl
  | asked => exact List.count_singleton.trans (if_neg (by simpa using other))

theorem Server.Serving.count_le
    (serving : server.Serving respondent state call exchanges result after) :
    (exchanges.filterMap Exchange.method?).count .sendTransaction ≤ server.allowance call := by
  cases serving with
  | refused contractual unasked =>
      rw [unasked]
      exact Nat.zero_le _
  | unknown => exact Nat.zero_le _
  | worked undertakes permitted unasked going =>
      rw [List.filterMap_append, unasked]
      exact Nat.le_trans going.count_le (count_le_allowance undertakes permitted)
  | denied unasked going | installed _ _ _ _ unasked going =>
      rw [List.filterMap_append, unasked]
      exact going.count_le
  | polled named stored asking =>
      refine Nat.le_of_eq (asking.count_eq_zero ?_)
      split <;> exact nofun
  | uninstalled named stored asking => exact Nat.le_of_eq (asking.count_eq_zero nofun)

end Serving

/-! ## Sessions -/

/-- What a turn may write. -/
structure Turn.Gated (respondent : Respondent σ) (allowed : Bool) (turn : Turn σ) : Prop where
  once : (turn.methods respondent).count .sendTransaction ≤ 1
  only : .sendTransaction ∈ turn.methods respondent →
    allowed = true ∧ ∃ request, turn.call = .sendTransaction request
  refused : allowed = false → ∀ request, turn.call = .sendTransaction request →
    turn.exchanges respondent = [] ∧ turn.result respondent = .error .writesDisabled

theorem Turn.gated (respondent : Respondent σ) (turn : Turn σ) :
    turn.Gated respondent turn.server.config.security.allowWrites where
  once := Nat.le_trans (turn.serving respondent).count_le (turn.server.allowance_le_one turn.call)
  only := by
    intro member
    have sent := List.count_pos_iff.mpr member
    have spared := Nat.lt_of_lt_of_le sent (turn.serving respondent).count_le
    exact Server.allowance_pos_iff.mp spared
  refused := by
    intro disallowed request same
    have ended : turn.server.perform turn.call = .done (.error .writesDisabled, turn.server) := by
      rw [same, Server.perform, Server.sendTransaction, disallowed]
      rfl
    rw [exchanges, result, ended]
    exact ⟨rfl, rfl⟩

/-- Whatever calls a server gets and whatever is answered, each of the calls has its turn and
writes only what the configuration of the server allows. -/
theorem Session.writes_gated (respondent : Respondent σ) (server : Server) (state : σ)
    (calls : List ToolCall) :
    let session := (opened server state).serve respondent calls
    session.turns.map Turn.call = calls ∧
      ∀ turn ∈ session.turns, turn.Gated respondent server.config.security.allowWrites := by
  intro session
  refine ⟨calls_serve respondent (opened server state) calls, ?_⟩
  intro turn member
  have alike := (steady_serve respondent server state calls).before turn member
  rw [← alike.config]
  exact turn.gated respondent

def pokeInterface : Json :=
  .array [.object [("type", .string "function"), ("name", .string "poke"), ("inputs", .array []),
    ("outputs", .array []), ("stateMutability", .string "nonpayable")]]

def poke : ToolCall :=
  .sendTransaction ⟨⟨none, some "0x0000000000000000000000000000000000000007",
    some pokeInterface, none⟩, "poke", [], [], none, none, none, none, none, none⟩

def Server.local (allowWrites : Bool) : Server where
  config := ⟨"local", [], [], ⟨allowWrites, none⟩, Config.defaultTransport⟩
  networks := ⟨[("local", ⟨⟨"http://localhost:8545", 0, 30000⟩,
    ⟨"http://localhost:8545", 30000⟩⟩)], "local"⟩
  store := .opened "cache" none
  filters := .empty

def silent : Respondent Unit :=
  .ofNodes fun _ _ => .ok .null

theorem Session.writes_gated_poke :
    (∃ turn ∈ ((opened (.local true) ()).serve silent [poke]).turns,
      turn.methods silent = [.sendTransaction] ∧ turn.Gated silent true) ∧
    ∃ turn ∈ ((opened (.local false) ()).serve silent [poke]).turns,
      turn.exchanges silent = [] ∧ turn.result silent = .error .writesDisabled := by
  constructor
  · have sent : (Turn.mk (.local true) () poke).methods silent = [.sendTransaction] := by
      decide +kernel
    rcases writes_gated silent (.local true) () [poke] with ⟨_, gated⟩
    exact ⟨_, .head _, sent, gated _ (.head _)⟩
  · rcases writes_gated silent (.local false) () [poke] with ⟨_, gated⟩
    exact ⟨_, .head _, (gated _ (.head _)).refused rfl _ rfl⟩

end ContractClient
