import ContractClient.Proofs.FailingFast
import ContractClient.Service.Server

/-! Tool calls. A tool call on a contract looks for the contract, without a node, and then
does the one piece of work that the tool is there for; a tool call on a filter looks it up.
`Serving` lists the ways in which tool calls go, with the questions that are asked, the
result, and the server as it is then. -/

namespace ContractClient

open Dialogue

/-! ## Looking for a contract -/

def Question.IsOutside : Question → Prop
  | .node .. => False
  | .gateway .. | .fetch _ | .load _ | .store .. => True

theorem Exchange.method?_of_isOutside {exchange : Exchange σ}
    (outside : exchange.question.IsOutside) : exchange.method? = none := by
  rcases exchange with ⟨question, answer, after⟩
  cases question with
  | node => cases outside
  | gateway | fetch | load | store => rfl

theorem InterfaceStore.asks_find (store : InterfaceStore) (address : String)
    (network : Option String) : (store.find address network).Asks Question.IsOutside := by
  rw [find]
  split
  · trivial
  · apply Asks.bind
    · refine ⟨trivial, fun answer => ?_⟩
      cases answer <;> trivial
    · intro held
      cases held with
      | some interface => trivial
      | none =>
          apply Asks.map
          rw [fetch, andThen]
          apply Asks.bind
          · rw [Explorer.fetch]
            split
            · trivial
            · refine ⟨trivial, fun answer => ?_⟩
              cases answer <;> trivial
          · intro found
            cases found with
            | error reason => trivial
            | ok interface => exact ⟨trivial, fun _ => trivial⟩

theorem Artifact.asks_load (path : String) : (load path).Asks Question.IsOutside := by
  refine ⟨trivial, fun answer => ?_⟩
  cases answer with
  | error reason => trivial
  | ok text =>
      dsimp only
      split <;> trivial

namespace Server

theorem asks_locate (server : Server) (target : ContractTarget) :
    (server.locate target).Asks Question.IsOutside := by
  rw [locate]
  split
  · trivial
  · next configured _ =>
      dsimp only
      split
      · trivial
      · next address _ =>
          apply Asks.map
          rw [artifactOf]
          split
          · trivial
          · apply Asks.map
            exact Artifact.asks_load _
          · cases address with
            | none => trivial
            | some address =>
                apply Asks.map
                exact InterfaceStore.asks_find _ _ _

theorem filterMap_method_locate (respondent : Respondent σ) (server : Server)
    (target : ContractTarget) (state : σ) :
    ((server.locate target).exchanges respondent state).filterMap Exchange.method? = [] := by
  rw [List.filterMap_eq_nil_iff]
  intro exchange member
  exact Exchange.method?_of_isOutside ((server.asks_locate target).question_of_mem member)

/-- How looking for a contract ends. It changes nothing but the store, and what is found is
connected to the network that is named with it. -/
inductive Locating (server : Server) : Except ToolError Located → Server → Prop
  | failed {reason : ToolError} {store : InterfaceStore} :
      Locating server (.error reason) { server with store }
  | found {located : Located} {store : InterfaceStore} {endpoint : Endpoint}
      (connected : server.networks.endpoint (some located.network) = .ok endpoint) :
      Locating server (.ok located) { server with store }

theorem locating_handle (server : Server) (network : String) (address : Option Address)
    (artifact : Artifact) (store : InterfaceStore) :
    server.Locating (server.handle network address artifact) { server with store } := by
  rw [handle]
  split
  · exact .failed
  · next endpoint connected =>
      split
      · exact .failed
      · exact .found connected

theorem locating_locate (respondent : Respondent σ) (server : Server) (target : ContractTarget)
    (state : σ) :
    server.Locating ((server.locate target).run respondent state).1.1
      ((server.locate target).run respondent state).1.2 := by
  rw [locate]
  split
  · exact .failed
  · next configured _ =>
      dsimp only
      split
      · exact .failed
      · next address _ =>
          rw [run_map]
          dsimp only
          split
          · exact .failed
          · next artifact _ => exact server.locating_handle _ address artifact _

/-! ## Work -/

section Work

variable {respondent : Respondent σ} {server after : Server} {target : ContractTarget}
  {state between : σ} {step : Server → Located → Reply}

theorem run_withContract_error {reason : ToolError}
    (sought : (server.locate target).run respondent state = ((.error reason, after), between)) :
    (server.withContract target step).run respondent state = ((.error reason, after), between) := by
  rw [withContract, run_bind, sought]
  rfl

theorem run_withContract_ok {located : Located}
    (sought : (server.locate target).run respondent state = ((.ok located, after), between)) :
    (server.withContract target step).run respondent state =
      (step after located).run respondent between := by
  rw [withContract, run_bind, sought]

theorem exchanges_withContract_error {reason : ToolError}
    (sought : (server.locate target).run respondent state = ((.error reason, after), between)) :
    (server.withContract target step).exchanges respondent state =
      (server.locate target).exchanges respondent state := by
  rw [withContract, exchanges_bind, sought]
  exact List.append_nil _

theorem exchanges_withContract_ok {located : Located}
    (sought : (server.locate target).run respondent state = ((.ok located, after), between)) :
    (server.withContract target step).exchanges respondent state =
      (server.locate target).exchanges respondent state ++
        (step after located).exchanges respondent between := by
  rw [withContract, exchanges_bind, sought]

theorem answering_eq_map (dialogue : Dialogue (Except ContractError α)) (render : α → Json) :
    answering dialogue render = dialogue.map fun result => result.map render := by
  rw [answering]
  congr 1
  funext result
  cases result <;> rfl

end Work

end Server

/-! ## Questions about filters -/

inductive FilterKey.Asking (networks : Networks) (key : FilterKey) (method : Method)
    (read : Json → Except ContractError Json) :
    List (Exchange σ) → Except ToolError Json → Prop
  | unreachable {reason : NetworkError}
      (unknown : networks.endpoint (some key.network) = .error reason) :
      Asking networks key method read [] (.error (.network reason))
  | asked {endpoint : Endpoint} {reply : Except TransportError Json} {after : σ}
      (connected : networks.endpoint (some key.network) = .ok endpoint) :
      Asking networks key method read [⟨.node endpoint method [.string key.filter], reply, after⟩]
        (((reply.mapError ContractError.transport).bind read).mapError .contract)

namespace Server

theorem run_askAboutFilter (server : Server) (key : FilterKey) (method : Method)
    (read : Json → Except ContractError Json) (respondent : Respondent σ) (state : σ) :
    ((server.askAboutFilter key method read).run respondent state).1.2 = server := by
  rw [askAboutFilter]
  cases server.networks.endpoint (some key.network) with
  | error reason => rfl
  | ok endpoint =>
      dsimp only [Except.mapError, finish]
      rw [run_map]

theorem asking_askAboutFilter (server : Server) (key : FilterKey) (method : Method)
    (read : Json → Except ContractError Json) (respondent : Respondent σ) (state : σ) :
    key.Asking server.networks method read
      ((server.askAboutFilter key method read).exchanges respondent state)
      ((server.askAboutFilter key method read).run respondent state).1.1 := by
  rw [askAboutFilter]
  cases connected : server.networks.endpoint (some key.network) with
  | error reason => exact .unreachable connected
  | ok endpoint =>
      dsimp only [Except.mapError, finish]
      rcases answered : respondent (.node endpoint method [.string key.filter]) state with
        ⟨error | reply, after⟩
      · rw [run_map, exchanges_map, run_ask answered, exchanges_ask answered]
        exact .asked connected
      · rw [run_map, exchanges_map, run_ask answered, exchanges_ask answered]
        exact .asked connected

end Server

/-! ## Tool calls -/

/-- What a tool does with the contract that it finds. -/
def ToolCall.Undertakes : ToolCall → ContractWork → Prop
  | .callFunction _, .call .. => True
  | .estimateGas _, .estimateGas .. => True
  | .buildTransaction _, .buildTransaction .. => True
  | .sendTransaction _, .transact .. => True
  | .getLogs _, .getLogs .. => True
  | _, _ => False

def ToolCall.key? (defaultNetwork : String) : ToolCall → Option FilterKey
  | .pollFilter request => some ⟨request.network.getD defaultNetwork, request.filter⟩
  | .uninstallFilter request => some ⟨request.network.getD defaultNetwork, request.filter⟩
  | _ => none

def Server.Permits (server : Server) : ToolCall → Prop
  | .sendTransaction _ => server.config.security.allowWrites = true
  | _ => True

namespace Server

/-- The ways in which tool calls go, with the exchanges, the result, and the server as it is
then. -/
inductive Serving (respondent : Respondent σ) (server : Server) (state : σ) :
    ToolCall → List (Exchange σ) → Except ToolError Json → Server → Prop
  /-- The end comes before a node is asked. -/
  | refused {call : ToolCall} {exchanges : List (Exchange σ)} {reason : ToolError}
      {store : InterfaceStore} (contractual : call.key? server.networks.default = none)
      (unasked : exchanges.filterMap Exchange.method? = []) :
      Serving respondent server state call exchanges (.error reason) { server with store }
  /-- The work on a contract leaves nothing behind. -/
  | worked {call : ToolCall} {work : ContractWork} {sought done : List (Exchange σ)}
      {between : σ} {result : Except ContractError work.Result} {store : InterfaceStore}
      {render : work.Result → Json} (undertakes : call.Undertakes work)
      (permitted : server.Permits call) (unasked : sought.filterMap Exchange.method? = [])
      (going : work.Going respondent between done result) :
      Serving respondent server state call (sought ++ done)
        ((result.map render).mapError .contract) { server with store }
  /-- No filter comes of the request for one. -/
  | denied {request : EventRequest} {event : ContractEvent} {options : FilterOptions}
      {sought done : List (Exchange σ)} {between : σ} {reason : ContractError}
      {store : InterfaceStore} (unasked : sought.filterMap Exchange.method? = [])
      (going : (ContractWork.createFilter event options).Going respondent between done
        (.error reason)) :
      Serving respondent server state (.createFilter request) (sought ++ done)
        (.error (.contract reason)) { server with store }
  | installed {request : EventRequest} {located : Located} {event : ContractEvent}
      {options : FilterOptions} {filter : LiveFilter} {endpoint : Endpoint}
      {sought done : List (Exchange σ)} {after : Server} {between : σ} {store : InterfaceStore}
      (found : (server.locate request.target).run respondent state =
        ((.ok located, after), between))
      (connected : server.networks.endpoint (some located.network) = .ok endpoint)
      (prepared : prepareEvent located request = .ok (event, options))
      (created : ((event.createFilter options).run respondent between).1 = .ok filter)
      (unasked : sought.filterMap Exchange.method? = [])
      (going : (ContractWork.createFilter event options).Going respondent between done
        (.ok filter)) :
      Serving respondent server state (.createFilter request) (sought ++ done)
        (.ok (Json.ofPairs [("filter_id", .string filter.id),
          ("network", .string located.network), ("params", filter.params.toJson)]))
        { server with store, filters := server.filters.insert ⟨located.network, filter.id⟩ filter }
  /-- The filter that the call is about is not installed. -/
  | unknown {call : ToolCall} {key : FilterKey}
      (named : call.key? server.networks.default = some key)
      (missing : server.filters.find? key = none) :
      Serving respondent server state call [] (.error (.unknownFilter key.filter key.network))
        server
  | polled {request : PollRequest} {key : FilterKey} {filter : LiveFilter}
      {exchanges : List (Exchange σ)} {result : Except ToolError Json}
      (named : (ToolCall.pollFilter request).key? server.networks.default = some key)
      (stored : server.filters.find? key = some filter)
      (asking : key.Asking server.networks
        (if request.all then .getFilterLogs else .getFilterChanges)
        (fun reply => (filter.formatEntries reply).map eventsJson) exchanges result) :
      Serving respondent server state (.pollFilter request) exchanges result server
  | uninstalled {request : UninstallRequest} {key : FilterKey} {filter : LiveFilter}
      {exchanges : List (Exchange σ)} {result : Except ToolError Json}
      (named : (ToolCall.uninstallFilter request).key? server.networks.default = some key)
      (stored : server.filters.find? key = some filter)
      (asking : key.Asking server.networks .uninstallFilter
        (fun reply => .ok (Json.ofPairs [("filter_id", .string key.filter),
          ("network", .string key.network), ("uninstalled", reply)])) exchanges result) :
      Serving respondent server state (.uninstallFilter request) exchanges result
        { server with filters := server.filters.erase key }

section Serving

variable {respondent : Respondent σ} {server : Server} {state : σ} {call : ToolCall}

theorem serving_withContract {target : ContractTarget} {step : Server → Located → Reply}
    (contractual : call.key? server.networks.default = none)
    (later : ∀ located store endpoint between,
      (server.locate target).run respondent state =
        ((.ok located, { server with store }), between) →
      server.networks.endpoint (some located.network) = .ok endpoint →
      Serving respondent server state call
        ((server.locate target).exchanges respondent state ++
          (step { server with store } located).exchanges respondent between)
        ((step { server with store } located).run respondent between).1.1
        ((step { server with store } located).run respondent between).1.2) :
    Serving respondent server state call
      ((server.withContract target step).exchanges respondent state)
      ((server.withContract target step).run respondent state).1.1
      ((server.withContract target step).run respondent state).1.2 := by
  have locating := locating_locate respondent server target state
  rcases sought : (server.locate target).run respondent state with ⟨⟨found, after⟩, between⟩
  rw [sought] at locating
  cases locating with
  | failed =>
      rw [run_withContract_error sought, exchanges_withContract_error sought]
      exact .refused contractual (filterMap_method_locate respondent server target state)
  | found connected =>
      rw [run_withContract_ok sought, exchanges_withContract_ok sought]
      exact later _ _ _ _ sought connected

/-- What is left of a call once its contract is found: an end, or work and its answer. -/
inductive Finishing (call : ToolCall) (server : Server) : Reply → Prop
  | ended {reason : ToolError} : Finishing call server (.done (.error reason, server))
  | works {work : ContractWork} (render : work.Result → Json)
      (undertakes : call.Undertakes work) :
      Finishing call server ((answering work.perform render).map fun result =>
        (result.mapError .contract, server))

theorem finishing_finish {run : α → Dialogue (Except ContractError Json)}
    (prepared : Except ToolError α)
    (works : ∀ value, ∃ work : ContractWork, ∃ render, call.Undertakes work ∧
      run value = answering work.perform render) :
    Finishing call server (server.finish prepared run) := by
  cases prepared with
  | error reason => exact .ended
  | ok value =>
      rcases works value with ⟨work, render, undertakes, same⟩
      rw [finish, same]
      exact .works render undertakes

theorem serving_of_finishing {target : ContractTarget} {step : Server → Located → Reply}
    (contractual : call.key? server.networks.default = none) (permitted : server.Permits call)
    (finishing : ∀ after located, Finishing call after (step after located)) :
    Serving respondent server state call
      ((server.withContract target step).exchanges respondent state)
      ((server.withContract target step).run respondent state).1.1
      ((server.withContract target step).run respondent state).1.2 := by
  apply serving_withContract contractual
  intro located store endpoint between sought connected
  have unasked := filterMap_method_locate respondent server target state
  have finishing := finishing { server with store } located
  generalize step { server with store } located = reply at finishing
  cases finishing with
  | ended =>
      apply Serving.refused contractual
      rwa [exchanges, List.append_nil]
  | @works work render undertakes =>
      have going := work.going_perform respondent between
      rw [answering_eq_map, exchanges_map, exchanges_map, run_map, run_map]
      exact .worked undertakes permitted unasked going

theorem serving_createFilter (request : EventRequest) :
    Serving respondent server state (.createFilter request)
      ((server.createFilter request).exchanges respondent state)
      ((server.createFilter request).run respondent state).1.1
      ((server.createFilter request).run respondent state).1.2 := by
  apply serving_withContract rfl
  intro located store endpoint between sought connected
  have unasked := filterMap_method_locate respondent server request.target state
  cases prepared : prepareEvent located request with
  | error reason =>
      apply Serving.refused rfl
      rwa [exchanges, List.append_nil]
  | ok value =>
      rcases value with ⟨event, options⟩
      have going := (ContractWork.createFilter event options).going_perform respondent between
      dsimp only
      rw [exchanges_map, run_map]
      cases created : ((event.createFilter options).run respondent between).1 with
      | error reason =>
          rw [ContractWork.perform, created] at going
          exact .denied unasked going
      | ok filter =>
          rw [ContractWork.perform, created] at going
          exact .installed sought connected prepared created unasked going

theorem serving_pollFilter (request : PollRequest) :
    Serving respondent server state (.pollFilter request)
      ((server.pollFilter request).exchanges respondent state)
      ((server.pollFilter request).run respondent state).1.1
      ((server.pollFilter request).run respondent state).1.2 := by
  rw [pollFilter]
  split
  · next missing => exact .unknown rfl missing
  · next filter stored =>
      rw [run_askAboutFilter]
      exact .polled rfl stored (asking_askAboutFilter ..)

theorem serving_uninstallFilter (request : UninstallRequest) :
    Serving respondent server state (.uninstallFilter request)
      ((server.uninstallFilter request).exchanges respondent state)
      ((server.uninstallFilter request).run respondent state).1.1
      ((server.uninstallFilter request).run respondent state).1.2 := by
  rw [uninstallFilter]
  split
  · next missing => exact .unknown rfl missing
  · next filter stored =>
      rw [run_askAboutFilter]
      refine .uninstalled rfl stored ?_
      exact asking_askAboutFilter { server with filters := server.filters.erase _ } ..

end Serving

/-- Every tool call goes in one of these ways. -/
theorem serving_perform (respondent : Respondent σ) (server : Server) (state : σ)
    (call : ToolCall) :
    Serving respondent server state call ((server.perform call).exchanges respondent state)
      ((server.perform call).run respondent state).1.1
      ((server.perform call).run respondent state).1.2 := by
  cases call with
  | callFunction request =>
      have permitted : server.Permits (.callFunction request) := trivial
      apply serving_of_finishing rfl permitted
      intro after located
      apply finishing_finish
      intro (bound, options)
      exact ⟨.call bound options, _, trivial, rfl⟩
  | estimateGas request =>
      have permitted : server.Permits (.estimateGas request) := trivial
      apply serving_of_finishing rfl permitted
      intro after located
      apply finishing_finish
      intro (bound, transaction, block)
      exact ⟨.estimateGas bound transaction block, _, trivial, rfl⟩
  | buildTransaction request =>
      have permitted : server.Permits (.buildTransaction request) := trivial
      apply serving_of_finishing rfl permitted
      intro after located
      apply finishing_finish
      intro (bound, transaction)
      exact ⟨.buildTransaction bound transaction, _, trivial, rfl⟩
  | sendTransaction request =>
      rw [perform, sendTransaction]
      split
      · next allowed =>
          have permitted : server.Permits (.sendTransaction request) := allowed
          apply serving_of_finishing rfl permitted
          intro after located
          apply finishing_finish
          intro (bound, transaction)
          exact ⟨.transact bound transaction, _, trivial, rfl⟩
      · exact .refused rfl rfl
  | getLogs request =>
      have permitted : server.Permits (.getLogs request) := trivial
      apply serving_of_finishing rfl permitted
      intro after located
      apply finishing_finish
      intro (event, options)
      exact ⟨.getLogs event options, _, trivial, rfl⟩
  | createFilter request => exact serving_createFilter request
  | pollFilter request => exact serving_pollFilter request
  | uninstallFilter request => exact serving_uninstallFilter request

/-! ## Calls about filters -/

section Filters

variable {respondent : Respondent σ} {server after : Server} {state : σ} {key : FilterKey}
  {exchanges : List (Exchange σ)} {result : Except ToolError Json}

theorem Serving.eq_of_missing {call : ToolCall}
    (serving : server.Serving respondent state call exchanges result after)
    (named : call.key? server.networks.default = some key)
    (missing : server.filters.find? key = none) :
    exchanges = [] ∧ result = .error (.unknownFilter key.filter key.network) := by
  cases serving with
  | refused contractual unasked => cases contractual.symm.trans named
  | worked undertakes permitted unasked going =>
      cases call with
      | pollFilter | uninstallFilter => exact undertakes.elim
      | _ => cases named
  | denied | installed => cases named
  | unknown alike =>
      cases alike.symm.trans named
      exact ⟨rfl, rfl⟩
  | polled alike stored | uninstalled alike stored =>
      cases alike.symm.trans named
      cases missing.symm.trans stored

theorem Serving.asking_of_stored {request : PollRequest} {filter : LiveFilter}
    (serving : server.Serving respondent state (.pollFilter request) exchanges result after)
    (named : (ToolCall.pollFilter request).key? server.networks.default = some key)
    (stored : server.filters.find? key = some filter) :
    key.Asking server.networks (if request.all then .getFilterLogs else .getFilterChanges)
      (fun reply => (filter.formatEntries reply).map eventsJson) exchanges result := by
  cases serving with
  | refused contractual => cases contractual
  | worked undertakes => exact undertakes.elim
  | unknown alike missing =>
      cases alike.symm.trans named
      cases missing.symm.trans stored
  | polled alike found asking =>
      cases alike.symm.trans named
      cases found.symm.trans stored
      exact asking

end Filters

end Server

end ContractClient
