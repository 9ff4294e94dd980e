import ContractClient.Proofs.FailingFast
import ContractClient.Proofs.FilterBuilding
import ContractClient.Proofs.LogQueries
import ContractClient.Proofs.TransactionObject

/-! Filters that reach a node. What a filter asks for is put together by any number of calls,
and later ones take back what earlier ones asked for; but it is checked as a whole, and only
then sent. -/

namespace ContractClient

open Dialogue

/-! ## Calls of a builder -/

namespace FilterBuilder

inductive Step where
  | withOptions (options : FilterOptions)
  | fromBlock (block : BlockTag)
  | toBlock (block : BlockTag)
  | blockHash (hash : Word)
  | matchSingle (name : String) (value : Json)
  | matchAny (name : String) (values : List Json)

def refine (builder : FilterBuilder) : Step → FilterBuilder
  | .withOptions options => builder.withOptions options
  | .fromBlock block => builder.fromBlock block
  | .toBlock block => builder.toBlock block
  | .blockHash hash => builder.blockHash hash
  | .matchSingle name value => builder.matchSingle name value
  | .matchAny name values => builder.matchAny name values

def refineAll (builder : FilterBuilder) (steps : List Step) : FilterBuilder :=
  steps.foldl refine builder

theorem subject_refine (builder : FilterBuilder) (step : Step) :
    (builder.refine step).event = builder.event ∧
      (builder.refine step).contractAddress = builder.contractAddress := by
  cases step <;> exact ⟨rfl, rfl⟩

theorem subject_refineAll (builder : FilterBuilder) (steps : List Step) :
    (builder.refineAll steps).event = builder.event ∧
      (builder.refineAll steps).contractAddress = builder.contractAddress := by
  induction steps generalizing builder with
  | nil => exact ⟨rfl, rfl⟩
  | cons step rest induction =>
      have first := subject_refine builder step
      have others := induction (builder.refine step)
      exact ⟨others.1.trans first.1, others.2.trans first.2⟩

end FilterBuilder

/-! ## Legal options -/

namespace EventEntry

variable {event : EventEntry} {contract : Option Address} {options : FilterOptions}

/-- The options state a filter for logs of the event, from the contract if that has an
address. -/
structure Admits (event : EventEntry) (contract : Option Address) (options : FilterOptions) :
    Prop where
  blocks : options.blockHash = none ∨ options.fromBlock = none ∧ options.toBlock = none
  address : ∀ own given, contract = some own → options.address = some given → own = given
  explicit : options.topics ≠ none → options.arguments = []
  known : options.topics = none → ∀ entry ∈ options.arguments, ∃ parameter,
    event.inputs.find? (fun parameter => parameter.name == entry.1) = some parameter ∧
      parameter.indexed = true
  encoded : options.topics = none → ∀ parameter ∈ event.indexed, ∃ filter,
    event.positionFilter options.arguments parameter = .ok filter

/-- The entries of topics for the indexed parameters, one for each and in their order. -/
def Positions (event : EventEntry) (arguments : List (String × Json)) (entries : List Json) :
    Prop :=
  List.Forall₂ (fun parameter entry => ∃ filter,
    event.positionFilter arguments parameter = .ok filter ∧
      entry = Json.ofOption TopicFilter.toJson filter) event.indexed entries

/-- The object is a legal filter, and it asks for what the options ask for. -/
structure States (event : EventEntry) (contract : Option Address) (options : FilterOptions)
    (object : Json) : Prop where
  exclusive : object.member? "blockHash" = none ∨
    object.member? "fromBlock" = none ∧ object.member? "toBlock" = none
  fromBlock : object.member? "fromBlock" = options.fromBlock.map fun block => .string block.toText
  toBlock : object.member? "toBlock" = options.toBlock.map fun block => .string block.toText
  blockHash : object.member? "blockHash" = options.blockHash.map fun hash => .string hash.toHex
  address : ∀ own, contract = some own → object.member? "address" = some (.string own.toHex)
  explicit : ∀ topics, options.topics = some topics → options.arguments = [] ∧
    object.member? "topics" = some (.array (topics.map (Json.ofOption TopicFilter.toJson)))
  selected : options.topics = none → event.anonymous = false → ∃ entries,
    event.Positions options.arguments entries ∧
      object.member? "topics" = some (.array (.string event.selector.toHex :: entries))
  anonymous : options.topics = none → event.anonymous = true → ∃ entries,
    event.Positions options.arguments entries ∧ object.member? "topics" = some (.array entries)

theorem filterAddress_eq_ok_iff {asked address : Option Address} :
    filterAddress contract asked = .ok address ↔
      (∀ own given, contract = some own → asked = some given → own = given) ∧
        address = contract.or asked := by
  rcases contract with _ | own <;> rcases asked with _ | given
  · simp [filterAddress, eq_comm]
  · simp [filterAddress, eq_comm]
  · simp [filterAddress, eq_comm]
  · by_cases same : own = given <;> simp [filterAddress, same, eq_comm]

theorem chosenTopics_of_explicit {topics chosen : List (Option TopicFilter)}
    (explicit : options.topics = some topics) :
    event.chosenTopics options = .ok chosen ↔ options.arguments = [] ∧ chosen = topics := by
  rw [chosenTopics, explicit]
  cases options.arguments <;> simp [eq_comm]

theorem exists_parameterFilters_iff {arguments : List (String × Json)}
    {parameters : List EventParameter} :
    (∃ filters, event.parameterFilters arguments parameters = .ok filters) ↔
      ∀ parameter ∈ parameters, ∃ filter, event.positionFilter arguments parameter = .ok filter := by
  simp only [parameterFilters_eq_ok_iff]
  induction parameters with
  | nil => simp
  | cons parameter rest induction =>
      rw [List.forall_mem_cons, ← induction]
      simp only [List.forall₂_cons_left_iff]
      constructor
      · rintro ⟨_, filter, filters, first, others, _⟩
        exact ⟨⟨filter, first⟩, filters, others⟩
      · rintro ⟨⟨filter, first⟩, filters, others⟩
        exact ⟨_, filter, filters, first, others, rfl⟩

theorem exists_chosenTopics_iff :
    (∃ topics, event.chosenTopics options = .ok topics) ↔
      (options.topics ≠ none → options.arguments = []) ∧
        (options.topics = none → event.checkArguments options.arguments = .ok () ∧
          ∀ parameter ∈ event.indexed, ∃ filter,
            event.positionFilter options.arguments parameter = .ok filter) := by
  cases chosen : options.topics with
  | some explicit => simp [chosenTopics_of_explicit chosen]
  | none =>
      rw [← exists_parameterFilters_iff]
      simp [chosenTopics_of_none chosen, topicFilters_eq_ok_iff]

theorem admits_iff :
    event.Admits contract options ↔ ∃ params, event.filter contract options = .ok params := by
  have accepted : (∃ params, event.filter contract options = .ok params) ↔
      (options.blockHash.isSome && (options.fromBlock.isSome || options.toBlock.isSome)) = false ∧
        (∃ address, filterAddress contract options.address = .ok address) ∧
          ∃ topics, event.chosenTopics options = .ok topics := by
    simp only [filter_eq_ok_iff]
    constructor
    · rintro ⟨_, free, address, topics, own, chosen, _⟩
      exact ⟨free, ⟨address, own⟩, topics, chosen⟩
    · rintro ⟨free, ⟨address, own⟩, topics, chosen⟩
      exact ⟨_, free, address, topics, own, chosen, rfl⟩
  have blocks : (options.blockHash.isSome &&
      (options.fromBlock.isSome || options.toBlock.isSome)) = false ↔
      options.blockHash = none ∨ options.fromBlock = none ∧ options.toBlock = none := by
    cases options.blockHash <;> simp
  rw [accepted, blocks, exists_chosenTopics_iff, checkArguments_eq_ok_iff]
  simp only [filterAddress_eq_ok_iff]
  constructor
  · intro admits
    exact ⟨admits.blocks, ⟨_, admits.address, rfl⟩, admits.explicit,
      fun implicit => ⟨admits.known implicit, admits.encoded implicit⟩⟩
  · rintro ⟨blocks, ⟨_, address, _⟩, explicit, implicit⟩
    exact ⟨blocks, address, explicit, fun none => (implicit none).1, fun none => (implicit none).2⟩

theorem positions_of_parameterFilters {arguments : List (String × Json)}
    {filters : List (Option TopicFilter)}
    (built : event.parameterFilters arguments event.indexed = .ok filters) :
    event.Positions arguments (filters.map (Json.ofOption TopicFilter.toJson)) := by
  rw [Positions, List.forall₂_map_right_iff]
  exact (parameterFilters_eq_ok_iff.mp built).imp fun _ filter found => ⟨filter, found, rfl⟩

end EventEntry

/-! ## Objects -/

namespace FilterParams

open TransactionRequest (optionalMember lookup_optionalMember)

structure StatedBy (params : FilterParams) (object : Json) : Prop where
  address : object.member? "address" = params.address.map fun account => .string account.toHex
  fromBlock : object.member? "fromBlock" = params.fromBlock.map fun block => .string block.toText
  toBlock : object.member? "toBlock" = params.toBlock.map fun block => .string block.toText
  blockHash : object.member? "blockHash" = params.blockHash.map fun hash => .string hash.toHex
  topics : object.member? "topics" =
    some (.array (params.topics.map (Json.ofOption TopicFilter.toJson)))

theorem statedBy_toJson (params : FilterParams) : params.StatedBy params.toJson := by
  have members : params.toJson = Json.ofPairs
      (optionalMember "address" (fun account => .string account.toHex) params.address ++
        optionalMember "fromBlock" (fun block => .string block.toText) params.fromBlock ++
        optionalMember "toBlock" (fun block => .string block.toText) params.toBlock ++
        optionalMember "blockHash" (fun hash => .string hash.toHex) params.blockHash ++
        [("topics", .array (params.topics.map (Json.ofOption TopicFilter.toJson)))]) := rfl
  rw [members]
  constructor <;>
    simp [Json.ofPairs, Json.membersOf, Json.member?, lookup_optionalMember,
      Json.lookup_insertMember, Json.lookup]

end FilterParams

namespace EventEntry

variable {event : EventEntry} {contract : Option Address} {options : FilterOptions}

theorem states_of_filter {params : FilterParams}
    (built : event.filter contract options = .ok params) :
    event.States contract options params.toJson := by
  have blocks := (admits_iff.mpr ⟨params, built⟩).blocks
  rcases filter_eq_ok_iff.mp built with ⟨_, address, topics, found, chosen, rfl⟩
  have stated := FilterParams.statedBy_toJson
    ⟨address, options.fromBlock, options.toBlock, options.blockHash, topics⟩
  have implicit (none : options.topics = none) :=
    topicFilters_eq_ok_iff.mp (chosenTopics_of_none none ▸ chosen)
  exact
    { exclusive := by
        rw [stated.blockHash, stated.fromBlock, stated.toBlock]
        exact blocks.imp (congrArg _) fun none => ⟨congrArg _ none.1, congrArg _ none.2⟩
      fromBlock := stated.fromBlock
      toBlock := stated.toBlock
      blockHash := stated.blockHash
      address := by
        rintro own rfl
        rw [stated.address, (filterAddress_eq_ok_iff.mp found).2]
        rfl
      explicit := by
        intro explicit given
        rcases (chosenTopics_of_explicit given).mp chosen with ⟨none, rfl⟩
        exact ⟨none, stated.topics⟩
      selected := by
        intro none named
        rcases implicit none with ⟨_, filters, positions, rfl⟩
        refine ⟨_, positions_of_parameterFilters positions, ?_⟩
        simpa [topic?, named, Json.ofOption, TopicFilter.toJson] using stated.topics
      anonymous := by
        intro none unnamed
        rcases implicit none with ⟨_, filters, positions, rfl⟩
        refine ⟨_, positions_of_parameterFilters positions, ?_⟩
        simpa [topic?, unnamed] using stated.topics }

end EventEntry

/-! ## What is sent -/

/-- The ways in which the handle of an event comes to send a filter. -/
inductive FilterUse where
  | getLogs (options : FilterOptions)
  | createFilter (options : FilterOptions)
  | deploy (steps : List FilterBuilder.Step) (endpoint : Endpoint)

namespace FilterUse

def work (handle : ContractEvent) : FilterUse → ContractWork
  | getLogs options => .getLogs handle options
  | createFilter options => .createFilter handle options
  | deploy steps endpoint => .deployFilter (handle.filterBuilder.refineAll steps) endpoint

def options (handle : ContractEvent) : FilterUse → FilterOptions
  | getLogs options | createFilter options => options
  | deploy steps _ => (handle.filterBuilder.refineAll steps).options

def endpoint? (handle : ContractEvent) : FilterUse → Option Endpoint
  | getLogs _ | createFilter _ => handle.contract.endpoint
  | deploy _ endpoint => some endpoint

def method : FilterUse → Method
  | getLogs _ => .getLogs
  | createFilter _ | deploy .. => .newFilter

def Begins : FilterUse → Prop
  | createFilter options => options.fromBlock ≠ none ∨ options.blockHash ≠ none
  | getLogs _ | deploy .. => True

def Legal (handle : ContractEvent) (use : FilterUse) : Prop :=
  use.Begins ∧ handle.event.Admits handle.contract.address (use.options handle)

/-- There is no node to ask, and this is found before anything that is wrong with the options:
where a filter is installed, all but its beginning is looked at later. -/
def Unbound (handle : ContractEvent) : FilterUse → Prop
  | getLogs options => handle.contract.endpoint = none ∧ (getLogs options).Legal handle
  | createFilter options => handle.contract.endpoint = none ∧ (createFilter options).Begins
  | deploy .. => False

/-- What is asked and what comes of it: a legal filter is sent to a node, or nothing is. -/
inductive Sends (handle : ContractEvent) (use : FilterUse) :
    List Question → Except ContractError (use.work handle).Result → Prop
  | sent {endpoint : Endpoint} {object : Json}
      {result : Except ContractError (use.work handle).Result}
      (legal : use.Legal handle) (reached : use.endpoint? handle = some endpoint)
      (states : handle.event.States handle.contract.address (use.options handle) object) :
      Sends handle use [.node endpoint use.method [object]] result
  | unbound (unbound : use.Unbound handle) : Sends handle use [] (.error .notInitialized)
  | refused {reason : FilterError} (illegal : ¬ use.Legal handle) (bound : ¬ use.Unbound handle) :
      Sends handle use [] (.error (.invalidFilter reason))

end FilterUse

theorem Contract.node_of_unconnected {contract : Contract}
    (unconnected : contract.endpoint = none) : contract.node = .error .notInitialized := by
  rw [node, unconnected]

theorem FilterBuilder.build_cases (builder : FilterBuilder) :
    (∃ params, builder.build = .ok params ∧
      builder.event.Admits builder.contractAddress builder.options ∧
      builder.event.States builder.contractAddress builder.options params.toJson) ∨
    ∃ reason, builder.build = .error (.invalidFilter reason) ∧
      ¬ builder.event.Admits builder.contractAddress builder.options := by
  rw [build, EventEntry.admits_iff]
  cases built : builder.event.filter builder.contractAddress builder.options with
  | ok params => exact .inl ⟨params, rfl, ⟨params, rfl⟩, EventEntry.states_of_filter built⟩
  | error reason => exact .inr ⟨reason, rfl, by simp⟩

theorem FilterBuilder.deploy_cases (builder : FilterBuilder) (endpoint : Endpoint)
    (respondent : Respondent σ) (state : σ) :
    (∃ params : FilterParams, (builder.deploy endpoint).questions respondent state =
        [.node endpoint .newFilter [params.toJson]] ∧
      builder.event.Admits builder.contractAddress builder.options ∧
      builder.event.States builder.contractAddress builder.options params.toJson) ∨
    ∃ reason, builder.deploy endpoint = .done (.error (.invalidFilter reason)) ∧
      ¬ builder.event.Admits builder.contractAddress builder.options := by
  rw [deploy]
  rcases builder.build_cases with ⟨params, built, admits, states⟩ | ⟨reason, refused, inadmissible⟩
  · rw [built]
    exact .inl ⟨params, questions_request .., admits, states⟩
  · rw [refused]
    exact .inr ⟨reason, rfl, inadmissible⟩

namespace FilterUse

variable (handle : ContractEvent) (respondent : Respondent σ) (state : σ)

theorem sends_getLogs (options : FilterOptions) :
    Sends handle (getLogs options) ((handle.getLogs options).questions respondent state)
      ((handle.getLogs options).run respondent state).1 := by
  rcases (handle.filterBuilder.withOptions options).build_cases with
    ⟨params, built, admits, states⟩ | ⟨reason, refused, inadmissible⟩
  · cases connected : handle.contract.endpoint with
    | none =>
        rw [ContractEvent.getLogs, ContractEvent.filterParams, built]
        simp only [Contract.node_of_unconnected connected]
        exact .unbound ⟨connected, trivial, admits⟩
    | some endpoint =>
        rw [ContractEvent.questions_getLogs connected built]
        exact .sent ⟨trivial, admits⟩ connected states
  · rw [ContractEvent.getLogs, ContractEvent.filterParams, refused]
    exact .refused (fun legal => inadmissible legal.2) fun unbound => inadmissible unbound.2.2

theorem sends_deploy (steps : List FilterBuilder.Step) (endpoint : Endpoint) :
    Sends handle (deploy steps endpoint)
      (((handle.filterBuilder.refineAll steps).deploy endpoint).questions respondent state)
      (((handle.filterBuilder.refineAll steps).deploy endpoint).run respondent state).1 := by
  have subject := handle.filterBuilder.subject_refineAll steps
  have built := (handle.filterBuilder.refineAll steps).deploy_cases endpoint respondent state
  rw [subject.1, subject.2] at built
  rcases built with ⟨params, asked, admits, states⟩ | ⟨reason, refused, inadmissible⟩
  · rw [asked]
    exact .sent ⟨trivial, admits⟩ rfl states
  · rw [refused]
    exact .refused (fun legal => inadmissible legal.2) id

theorem sends_createFilter (options : FilterOptions) :
    Sends handle (createFilter options) ((handle.createFilter options).questions respondent state)
      ((handle.createFilter options).run respondent state).1 := by
  have begins : (createFilter options).Begins ↔
      ¬ (options.fromBlock.isNone && options.blockHash.isNone) = true := by
    rw [Begins]
    cases options.fromBlock <;> simp
  rw [ContractEvent.createFilter]
  by_cases unbegun : (options.fromBlock.isNone && options.blockHash.isNone) = true
  · rw [if_pos unbegun]
    exact .refused (fun legal => begins.mp legal.1 unbegun) fun unbound => begins.mp unbound.2 unbegun
  · rw [if_neg unbegun]
    cases connected : handle.contract.endpoint with
    | none =>
        simp only [Contract.node_of_unconnected connected]
        exact .unbound ⟨connected, begins.mpr unbegun⟩
    | some endpoint =>
        simp only [Contract.node_eq_ok_iff.mpr connected]
        rcases (handle.filterBuilder.withOptions options).deploy_cases endpoint respondent state with
          ⟨params, asked, admits, states⟩ | ⟨reason, refused, inadmissible⟩
        · rw [asked]
          exact .sent ⟨begins.mpr unbegun, admits⟩ connected states
        · rw [refused]
          refine .refused (fun legal => inadmissible legal.2) fun unbound => ?_
          cases connected.symm.trans unbound.1

theorem sends_perform (use : FilterUse) :
    Sends handle use ((use.work handle).perform.questions respondent state)
      ((use.work handle).perform.run respondent state).1 := by
  cases use with
  | getLogs options => exact sends_getLogs handle respondent state options
  | createFilter options => exact sends_createFilter handle respondent state options
  | deploy steps endpoint => exact sends_deploy handle respondent state steps endpoint

/-- Whatever is asked of a node states a legal filter. Options that are not legal are refused as
such and nothing is asked, except that a handle without a node says so first where a filter
is installed that has a beginning; legal options are sent, if there is a node. -/
theorem filters_legal (use : FilterUse) :
    let asked := (use.work handle).perform.questions respondent state
    let result := ((use.work handle).perform.run respondent state).1
    (∀ question ∈ asked, ∃ endpoint object, question = .node endpoint use.method [object] ∧
      use.endpoint? handle = some endpoint ∧
      handle.event.States handle.contract.address (use.options handle) object) ∧
    (¬ use.Legal handle → ¬ use.Unbound handle →
      asked = [] ∧ ∃ reason, result = .error (.invalidFilter reason)) ∧
    (use.Unbound handle → asked = [] ∧ result = .error .notInitialized) ∧
    (use.Legal handle → ¬ use.Unbound handle → asked.length = 1) := by
  intro asked result
  have sends : Sends handle use asked result := sends_perform handle respondent state use
  clear_value asked result
  cases sends with
  | sent legal reached states =>
      refine ⟨?_, fun illegal => absurd legal illegal, ?_, fun _ _ => rfl⟩
      · intro question member
        cases List.mem_singleton.mp member
        exact ⟨_, _, rfl, reached, states⟩
      · intro unbound
        cases use with
        | getLogs | createFilter => cases reached.symm.trans unbound.1
        | deploy => exact unbound.elim
  | unbound unbound => exact ⟨nofun, fun _ bound => absurd unbound bound, fun _ => ⟨rfl, rfl⟩,
      fun _ bound => absurd unbound bound⟩
  | refused illegal bound => exact ⟨nofun, fun _ _ => ⟨rfl, _, rfl⟩,
      fun unbound => absurd unbound bound, fun legal => absurd legal illegal⟩

def ping : ContractEvent :=
  ⟨⟨.empty, some (FixedBytes.ofNat 20 7), none, none, none⟩, ⟨"Ping", [], false⟩⟩

def localNode : Endpoint := ⟨"http://localhost:8545", 30000⟩

def silent : Respondent Unit := .ofNodes fun _ _ => .ok .null

def clashing : FilterOptions :=
  { FilterOptions.empty with fromBlock := some .latest, blockHash := some (FixedBytes.ofNat 32 1) }

theorem not_legal_clashing (handle : ContractEvent) :
    ¬ (createFilter clashing).Legal handle := by
  rintro ⟨_, admits⟩
  rcases admits.blocks with none | ⟨none, _⟩ <;> cases none

theorem filters_legal_ping :
    let hash := FixedBytes.ofNat 32 1
    let latest : FilterOptions := { FilterOptions.empty with fromBlock := some .latest }
    (((deploy [.blockHash hash, .withOptions latest] localNode).work ping).perform.questions
      silent ()).length = 1 ∧
    ((deploy [.withOptions latest, .blockHash hash] localNode).work ping).perform.questions
      silent () = [] := by
  intro hash latest
  have legal : (deploy [.blockHash hash, .withOptions latest] localNode).Legal ping :=
    ⟨trivial, EventEntry.admits_iff.mpr ⟨_, rfl⟩⟩
  have illegal : ¬ (deploy [.withOptions latest, .blockHash hash] localNode).Legal ping :=
    fun legal => not_legal_clashing ping ⟨.inl nofun, legal.2⟩
  exact ⟨(filters_legal ping silent () (deploy _ localNode)).2.2.2 legal id,
    ((filters_legal ping silent () (deploy _ localNode)).2.1 illegal id).1⟩

/-- Without a node, options that are not legal are not found out. -/
theorem clashing_unbound :
    let work := (createFilter clashing).work ping
    ¬ (createFilter clashing).Legal ping ∧
      (work.perform.run silent ()).1 = .error .notInitialized ∧
      ∀ reason, (work.perform.run silent ()).1 ≠ .error (.invalidFilter reason) :=
  ⟨not_legal_clashing ping, rfl, nofun⟩

end FilterUse

end ContractClient
