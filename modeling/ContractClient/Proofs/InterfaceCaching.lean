import ContractClient.Interface.Store
import ContractClient.Proofs.AddressTexts
import ContractClient.Proofs.Conversations
import ContractClient.Proofs.Members
import ContractClient.Proofs.Paths
import ContractClient.Service.Offline

/-! Interfaces that are kept. A store remembers what it has found, and nothing else: searches for
one contract are answered alike from then on, a search that fails leaves no trace, and contracts
do not get in each other's way. The last is true of the memory; files of different contracts are
apart only if the names of their networks are names of files. -/

namespace ContractClient

open Dialogue

/-! ## Without memory -/

theorem Dialogue.map_bind (dialogue : Dialogue α) (step : α → Dialogue β) (change : β → γ) :
    (dialogue.bind step).map change = dialogue.bind fun result => (step result).map change := by
  induction dialogue with
  | done result => rfl
  | ask question next induction => exact congrArg (ask question) (funext induction)

theorem Dialogue.exchanges_ask_ne_nil (respondent : Respondent σ) (question : Question)
    (next : question.Answer → Dialogue α) (state : σ) :
    (ask question next).exchanges respondent state ≠ [] :=
  List.cons_ne_nil _ _

/-- An answer about a file that gives no interface: there is no file, it cannot be read, or there
is something else in it. -/
def Unusable (answer : Except FileError String) : Prop :=
  ∀ text, answer = .ok text → Interface.parse? text = none

namespace InterfaceStore

def seek (store : InterfaceStore) (address : String) (network : Option String) :
    Dialogue (Except ExplorerError Interface) :=
  let key := key address network
  (store.loadFile key).bind fun
    | some interface => .done (.ok interface)
    | none => store.fetch key address network

def keeping (store : InterfaceStore) (key : String) :
    Except ExplorerError Interface → InterfaceStore
  | .ok interface => store.hold key interface
  | .error _ => store

variable {store : InterfaceStore} {address : String} {network : Option String}

theorem find_of_held {interface : Interface}
    (held : Json.lookup (key address network) store.held = some interface) :
    store.find address network = .done (.ok interface, store) := by
  rw [find]
  simp only [held]

theorem find_of_missing (missing : Json.lookup (key address network) store.held = none) :
    store.find address network =
      (store.seek address network).map fun found =>
        (found, store.keeping (key address network) found) := by
  rw [find, seek, map_bind]
  simp only [missing]
  congr 1
  funext loaded
  cases loaded with
  | some interface => rfl
  | none =>
      refine congrArg ((store.fetch (key address network) address network).map ·) ?_
      funext found
      cases found <;> rfl

theorem lookup_hold (store : InterfaceStore) (key other : String) (interface : Interface) :
    Json.lookup other (store.hold key interface).held =
      if other = key then some interface else Json.lookup other store.held :=
  Json.lookup_insertMember other key interface store.held

section Files

variable {respondent : Respondent σ} {state after : σ}

theorem seek_of_file {text : String} {interface : Interface}
    (answered : respondent (.load (store.path (key address network))) state = (.ok text, after))
    (read : Interface.parse? text = some interface) :
    (store.seek address network).exchanges respondent state =
        [⟨.load (store.path (key address network)), .ok text, after⟩] ∧
      (store.seek address network).run respondent state = (.ok interface, after) := by
  rw [seek, loadFile, ask_bind, exchanges_ask answered, run_ask answered]
  simp only [read, done_bind]
  exact ⟨rfl, rfl⟩

theorem seek_of_unusable {answer : Except FileError String}
    (answered : respondent (.load (store.path (key address network))) state = (answer, after))
    (unusable : Unusable answer) :
    (store.seek address network).exchanges respondent state =
        ⟨.load (store.path (key address network)), answer, after⟩ ::
          (store.fetch (key address network) address network).exchanges respondent after ∧
      (store.seek address network).run respondent state =
        (store.fetch (key address network) address network).run respondent after := by
  rw [seek, loadFile, ask_bind, exchanges_ask answered, run_ask answered]
  cases answer with
  | error reason => exact ⟨rfl, rfl⟩
  | ok text =>
      simp only [unusable text rfl, done_bind, and_self]

end Files

end InterfaceStore

/-! ## Inquiries -/

theorem Text.divided_inj {separator : Char} {front other back last : List Char}
    (same : front ++ separator :: back = other ++ separator :: last)
    (absent : separator ∉ back) (alsoAbsent : separator ∉ last) : front = other ∧ back = last := by
  rcases List.append_eq_append_iff.mp same with ⟨rest, rfl, split⟩ | ⟨rest, rfl, split⟩
  · cases rest with
    | nil =>
        cases split
        exact ⟨(List.append_nil front).symm, rfl⟩
    | cons first rest =>
        cases split
        exact absurd (by simp) absent
  · cases rest with
    | nil =>
        cases split
        exact ⟨List.append_nil other, rfl⟩
    | cons first rest =>
        cases split
        exact absurd (by simp) alsoAbsent

structure Inquiry where
  address : String
  network : Option String

namespace Inquiry

def networkName (inquiry : Inquiry) : String :=
  inquiry.network.getD InterfaceStore.defaultNetwork

def key (inquiry : Inquiry) : String :=
  InterfaceStore.key inquiry.address inquiry.network

def Alike (first second : Inquiry) : Prop :=
  first.networkName = second.networkName ∧ Text.lower first.address = Text.lower second.address

theorem Alike.key_eq {first second : Inquiry} (alike : first.Alike second) :
    first.key = second.key := by
  have networks := alike.1
  rw [networkName, networkName] at networks
  rw [key, key, InterfaceStore.key, InterfaceStore.key, networks, alike.2]

def Names (inquiry : Inquiry) (address : Address) : Prop :=
  Address.validate inquiry.address = .ok address

theorem toList_key (inquiry : Inquiry) :
    inquiry.key.toList =
      inquiry.networkName.toList ++ '_' :: (Text.lower inquiry.address).toList := by
  simp [key, InterfaceStore.key, networkName]

section Named

variable {first second : Inquiry} {own other : Address}

/-- A key tells what network and what address it is for, whatever underscores are in it: the last
of them is the one before the address. -/
theorem key_inj (named : first.Names own) (alsoNamed : second.Names other)
    (same : first.key = second.key) : first.networkName = second.networkName ∧ own = other := by
  have keys := congrArg String.toList same
  rw [toList_key, toList_key] at keys
  have divided := Text.divided_inj keys (Address.not_mem_lower_of_validate named (.inl rfl))
    (Address.not_mem_lower_of_validate alsoNamed (.inl rfl))
  exact ⟨String.toList_injective divided.1,
    Address.eq_of_lower_eq named alsoNamed (String.toList_injective divided.2)⟩

theorem isName_key (named : first.Names own) (plain : '/' ∉ first.networkName.toList) :
    Path.IsName (first.key ++ ".json") where
  single := by
    have address := Address.not_mem_lower_of_validate named (.inr rfl)
    simp [toList_key, plain, address]
  proper := by
    have long : 2 < (first.key ++ ".json").toList.length := by simp
    refine ⟨?_, ?_, ?_⟩ <;> intro same <;> rw [same] at long <;> exact absurd long (by decide)

def Distinct (first second : Inquiry) : Prop :=
  ∃ own other, first.Names own ∧ second.Names other ∧
    (first.networkName ≠ second.networkName ∨ own ≠ other)

theorem Distinct.key_ne (distinct : first.Distinct second) : first.key ≠ second.key := by
  rcases distinct with ⟨own, other, named, alsoNamed, different⟩
  intro same
  rcases key_inj named alsoNamed same with ⟨networks, addresses⟩
  exact different.elim (absurd networks) (absurd addresses)

theorem apart_path (store : InterfaceStore) (distinct : first.Distinct second)
    (plain : '/' ∉ first.networkName.toList) (alsoPlain : '/' ∉ second.networkName.toList) :
    Path.Apart (store.path first.key) (store.path second.key) := by
  rcases distinct with ⟨own, other, named, alsoNamed, different⟩
  have keys := Distinct.key_ne ⟨own, other, named, alsoNamed, different⟩
  apply Path.apart_join store.directory (isName_key named plain) (isName_key alsoNamed alsoPlain)
  intro same
  have names := congrArg String.toList same
  rw [String.toList_append, String.toList_append] at names
  exact keys (String.toList_injective (List.append_cancel_right names))

end Named

end Inquiry

/-- The question is about the contract of the inquiry: about its file, or to an explorer of its
network about its address. -/
def Inquiry.Concerns (inquiry : Inquiry) (store : InterfaceStore) : Question → Prop
  | .load path | .store path _ => path = store.path inquiry.key
  | .fetch url => ∃ base, Explorer.baseUrl? inquiry.networkName = some base ∧
      url = Explorer.requestUrl base (Text.lower inquiry.address) store.apiKey
  | .node .. | .gateway .. => False

theorem InterfaceStore.concerns_seek (store : InterfaceStore) (inquiry : Inquiry) :
    (store.seek inquiry.address inquiry.network).Asks (inquiry.Concerns store) := by
  apply Asks.bind
  · refine ⟨rfl, fun answer => ?_⟩
    cases answer <;> trivial
  · intro loaded
    cases loaded with
    | some interface => trivial
    | none =>
        apply Asks.bind
        · rw [Explorer.fetch]
          split
          · trivial
          · next base supported =>
              refine ⟨⟨base, supported, rfl⟩, fun answer => ?_⟩
              cases answer <;> trivial
        · intro fetched
          cases fetched with
          | error reason => trivial
          | ok interface => exact ⟨rfl, fun _ => trivial⟩

/-! ## Searches -/

structure Search (σ : Type) where
  store : InterfaceStore
  state : σ
  inquiry : Inquiry

namespace Search

def path (search : Search σ) : String :=
  search.store.path search.inquiry.key

def held? (search : Search σ) : Option Interface :=
  Json.lookup search.inquiry.key search.store.held

def seeking (search : Search σ) : Dialogue (Except ExplorerError Interface) :=
  search.store.seek search.inquiry.address search.inquiry.network

def fetching (search : Search σ) : Dialogue (Except ExplorerError Interface) :=
  search.store.fetch search.inquiry.key search.inquiry.address search.inquiry.network

section Outcome

variable (respondent : Respondent σ) (search : Search σ)

def exchanges : List (Exchange σ) :=
  (search.store.find search.inquiry.address search.inquiry.network).exchanges respondent
    search.state

def result : Except ExplorerError Interface :=
  ((search.store.find search.inquiry.address search.inquiry.network).run respondent
    search.state).1.1

def after : InterfaceStore :=
  ((search.store.find search.inquiry.address search.inquiry.network).run respondent
    search.state).1.2

def left : σ :=
  ((search.store.find search.inquiry.address search.inquiry.network).run respondent
    search.state).2

/-- The search starts at the file. An interface in it is the result; any other answer leads to
the fetching that follows where there is no file. -/
structure Afresh : Prop where
  file : ∀ text after interface, respondent (.load search.path) search.state = (.ok text, after) →
    Interface.parse? text = some interface →
    search.exchanges respondent = [⟨.load search.path, .ok text, after⟩] ∧
      search.result respondent = .ok interface
  absent : ∀ answer after, respondent (.load search.path) search.state = (answer, after) →
    Unusable answer →
    search.exchanges respondent =
        ⟨.load search.path, answer, after⟩ :: search.fetching.exchanges respondent after ∧
      search.result respondent = (search.fetching.run respondent after).1

end Outcome

variable {respondent : Respondent σ} {search : Search σ}

theorem of_held {interface : Interface} (held : search.held? = some interface) :
    search.exchanges respondent = [] ∧ search.result respondent = .ok interface ∧
      search.after respondent = search.store := by
  rw [exchanges, result, after, InterfaceStore.find_of_held held]
  exact ⟨rfl, rfl, rfl⟩

theorem of_missing (missing : search.held? = none) :
    search.exchanges respondent = search.seeking.exchanges respondent search.state ∧
      search.result respondent = (search.seeking.run respondent search.state).1 ∧
      search.after respondent =
        search.store.keeping search.inquiry.key (search.result respondent) := by
  rw [exchanges, result, after, InterfaceStore.find_of_missing missing, exchanges_map, run_map]
  exact ⟨rfl, rfl, rfl⟩

theorem afresh_of_missing (missing : search.held? = none) : search.Afresh respondent where
  file := by
    intro text after interface answered read
    rcases of_missing missing with ⟨asked, found, _⟩
    rcases InterfaceStore.seek_of_file answered read with ⟨loading, loaded⟩
    exact ⟨asked.trans loading, found.trans (congrArg Prod.fst loaded)⟩
  absent := by
    intro answer after answered unusable
    rcases of_missing missing with ⟨asked, found, _⟩
    rcases InterfaceStore.seek_of_unusable answered unusable with ⟨loading, fetched⟩
    exact ⟨asked.trans loading, found.trans (congrArg Prod.fst fetched)⟩

theorem held_of_exchanges (unasked : search.exchanges respondent = []) :
    ∃ interface, search.held? = some interface ∧ search.result respondent = .ok interface := by
  cases held : search.held? with
  | some interface => exact ⟨interface, rfl, (of_held held).2.1⟩
  | none =>
      rw [(of_missing held).1] at unasked
      exact absurd unasked (exchanges_ask_ne_nil _ _ _ _)

theorem after_of_error {reason : ExplorerError}
    (failed : search.result respondent = .error reason) :
    search.after respondent = search.store := by
  cases held : search.held? with
  | some interface => exact (of_held held).2.2
  | none =>
      rw [(of_missing held).2.2, failed]
      rfl

theorem concerns_of_mem {exchange : Exchange σ} (member : exchange ∈ search.exchanges respondent) :
    search.inquiry.Concerns search.store exchange.question := by
  cases held : search.held? with
  | some interface =>
      rw [(of_held held).1] at member
      cases member
  | none =>
      rw [(of_missing held).1] at member
      exact (search.store.concerns_seek search.inquiry).question_of_mem member

theorem lookup_after (respondent : Respondent σ) (search : Search σ) (key : String)
    (interface : Interface) :
    Json.lookup key (search.after respondent).held = some interface ↔
      Json.lookup key search.store.held = some interface ∨
        key = search.inquiry.key ∧ search.result respondent = .ok interface := by
  cases held : search.held? with
  | some known =>
      have own : Json.lookup search.inquiry.key search.store.held = some known := held
      rcases of_held held with ⟨_, found, same⟩
      rw [same, found]
      constructor
      · exact .inl
      · rintro (before | ⟨rfl, alike⟩)
        · exact before
        · cases alike
          exact own
  | none =>
      have own : Json.lookup search.inquiry.key search.store.held = none := held
      rw [(of_missing held).2.2]
      cases search.result respondent with
      | error reason => simp [InterfaceStore.keeping]
      | ok found =>
          rw [InterfaceStore.keeping, InterfaceStore.lookup_hold]
          by_cases same : key = search.inquiry.key
          · simp [same, own]
          · simp [same]

theorem directory_after (respondent : Respondent σ) (search : Search σ) :
    (search.after respondent).directory = search.store.directory := by
  cases held : search.held? with
  | some interface => rw [(of_held held).2.2]
  | none =>
      rw [(of_missing held).2.2]
      cases search.result respondent <;> rfl

end Search

/-! ## Many searches -/

/-- The searches in a store, in their order, and what they have left. -/
structure SearchHistory (σ : Type) where
  searches : List (Search σ)
  store : InterfaceStore
  state : σ

namespace SearchHistory

def opened (directory : String) (apiKey : Option String) (state : σ) : SearchHistory σ :=
  ⟨[], .opened directory apiKey, state⟩

def search (history : SearchHistory σ) (inquiry : Inquiry) : Search σ :=
  ⟨history.store, history.state, inquiry⟩

def next (respondent : Respondent σ) (history : SearchHistory σ) (inquiry : Inquiry) :
    SearchHistory σ :=
  ⟨history.searches ++ [history.search inquiry], (history.search inquiry).after respondent,
    (history.search inquiry).left respondent⟩

def explore (respondent : Respondent σ) (history : SearchHistory σ) (inquiries : List Inquiry) :
    SearchHistory σ :=
  inquiries.foldl (next respondent) history

/-- The store holds what the searches have found, each under its key, and nothing else; the files
are where they were for all of them. -/
structure Kept (respondent : Respondent σ) (history : SearchHistory σ) : Prop where
  held : ∀ key interface, Json.lookup key history.store.held = some interface ↔
    ∃ search ∈ history.searches, search.inquiry.key = key ∧
      search.result respondent = .ok interface
  directory : ∀ search ∈ history.searches, search.store.directory = history.store.directory

variable {respondent : Respondent σ} {history : SearchHistory σ}

theorem kept_next (kept : history.Kept respondent) (inquiry : Inquiry) :
    (history.next respondent inquiry).Kept respondent where
  held := by
    intro key interface
    have after := (history.search inquiry).lookup_after respondent key interface
    rw [next, after]
    simp only [List.mem_append, List.mem_singleton, or_and_right, exists_or, exists_eq_left]
    exact or_congr (kept.held key interface) (and_congr_left fun _ => eq_comm)
  directory := by
    intro search member
    have same := (history.search inquiry).directory_after respondent
    rw [next, same]
    rcases List.mem_append.mp member with member | member
    · exact kept.directory search member
    · rw [List.mem_singleton.mp member]

theorem kept_explore (respondent : Respondent σ) (directory : String) (apiKey : Option String)
    (state : σ) (inquiries : List Inquiry) :
    ((opened directory apiKey state).explore respondent inquiries).Kept respondent := by
  have start : (opened directory apiKey state).Kept respondent :=
    ⟨fun _ _ => ⟨nofun, nofun⟩, nofun⟩
  generalize opened directory apiKey state = history at start
  induction inquiries generalizing history with
  | nil => exact start
  | cons inquiry later induction => exact induction _ (kept_next start inquiry)

/-- Searches that come next are consistent with those before. Contracts are told apart by the
names of their networks, whatever these are, and by their addresses; only for their files the
names have to be names of files. -/
structure Coherent (respondent : Respondent σ) (history : SearchHistory σ) : Prop where
  /-- What was found once is found again, and nothing is asked for it. -/
  remembers : ∀ search ∈ history.searches, ∀ interface,
    search.result respondent = .ok interface → ∀ inquiry, inquiry.Alike search.inquiry →
    (history.search inquiry).exchanges respondent = [] ∧
      (history.search inquiry).result respondent = .ok interface
  /-- A search that fails leaves no trace. -/
  unchanged : ∀ inquiry reason, (history.search inquiry).result respondent = .error reason →
    (history.search inquiry).after respondent = history.store
  /-- What was not found is looked for as if for the first time. -/
  retries : ∀ inquiry, (∀ search ∈ history.searches, search.inquiry.key = inquiry.key →
      ∃ reason, search.result respondent = .error reason) →
    (history.search inquiry).Afresh respondent
  concerns : ∀ inquiry, ∀ exchange ∈ (history.search inquiry).exchanges respondent,
    inquiry.Concerns history.store exchange.question
  /-- What is answered from memory was found for the same network and address. -/
  recalls : ∀ inquiry own, inquiry.Names own →
    (∀ search ∈ history.searches, ∃ other, search.inquiry.Names other) →
    (history.search inquiry).exchanges respondent = [] →
    ∃ search ∈ history.searches, search.inquiry.networkName = inquiry.networkName ∧
      search.inquiry.Names own ∧
      search.result respondent = (history.search inquiry).result respondent
  /-- What is held for one contract is left as it is by searches for others. -/
  undisturbed : ∀ first second : Inquiry, first.Distinct second →
    Json.lookup second.key ((history.search first).after respondent).held =
      Json.lookup second.key history.store.held
  /-- Files of different contracts are different files. -/
  apart : ∀ search ∈ history.searches, ∀ inquiry, search.inquiry.Distinct inquiry →
    '/' ∉ search.inquiry.networkName.toList → '/' ∉ inquiry.networkName.toList →
    Path.Apart search.path (history.search inquiry).path

theorem inquiries_explore (respondent : Respondent σ) (history : SearchHistory σ)
    (inquiries : List Inquiry) :
    (history.explore respondent inquiries).searches.map Search.inquiry =
      history.searches.map Search.inquiry ++ inquiries := by
  induction inquiries generalizing history with
  | nil => exact (List.append_nil _).symm
  | cons inquiry later induction =>
      have rest := induction (history.next respondent inquiry)
      rwa [next, List.map_append, List.append_assoc] at rest

theorem coherent_of_kept (kept : history.Kept respondent) : history.Coherent respondent where
  remembers := by
    intro search member interface found inquiry alike
    have held : (history.search inquiry).held? = some interface :=
      (kept.held inquiry.key interface).mpr ⟨search, member, alike.key_eq.symm, found⟩
    exact ⟨(Search.of_held held).1, (Search.of_held held).2.1⟩
  unchanged := fun inquiry reason => Search.after_of_error
  retries := by
    intro inquiry failed
    apply Search.afresh_of_missing
    cases held : (history.search inquiry).held? with
    | none => rfl
    | some interface =>
        rcases (kept.held inquiry.key interface).mp held with ⟨search, member, same, found⟩
        rcases failed search member same with ⟨reason, refused⟩
        cases refused.symm.trans found
  concerns := fun inquiry exchange => Search.concerns_of_mem
  recalls := by
    intro inquiry own named valid unasked
    rcases Search.held_of_exchanges unasked with ⟨interface, held, answered⟩
    rcases (kept.held inquiry.key interface).mp held with ⟨search, member, same, found⟩
    rcases valid search member with ⟨other, alsoNamed⟩
    rcases Inquiry.key_inj alsoNamed named same with ⟨networks, rfl⟩
    exact ⟨search, member, networks, alsoNamed, found.trans answered.symm⟩
  undisturbed := by
    intro first second distinct
    apply Option.ext
    intro interface
    rw [Search.lookup_after, or_iff_left]
    · rfl
    · exact fun found => distinct.key_ne found.1.symm
  apart := by
    intro search member inquiry distinct plain alsoPlain
    have path : search.path = history.store.path search.inquiry.key := by
      rw [Search.path, InterfaceStore.path, InterfaceStore.path, kept.directory search member]
    rw [path]
    exact Inquiry.apart_path history.store distinct plain alsoPlain

/-- Any number of searches, whatever is in files and whatever explorers answer, are consistent
with each other. -/
theorem coherent_explore (respondent : Respondent σ) (directory : String)
    (apiKey : Option String) (state : σ) (inquiries : List Inquiry) :
    let history := (opened directory apiKey state).explore respondent inquiries
    history.searches.map Search.inquiry = inquiries ∧ history.Coherent respondent :=
  ⟨inquiries_explore respondent (opened directory apiKey state) inquiries,
    coherent_of_kept (kept_explore respondent directory apiKey state inquiries)⟩

def mainnetFile : Files :=
  [("cache/mainnet_0x00000000000000000000000000000000000000ab.json", "[]")]

def inquiryOn (network : Option String) : Inquiry :=
  ⟨"0x00000000000000000000000000000000000000AB", network⟩

theorem names_inquiryOn (network : Option String) :
    (inquiryOn network).Names (FixedBytes.ofNat 20 0xAB) := by
  have valid : (Address.validate "0x00000000000000000000000000000000000000AB").toOption =
      some (FixedBytes.ofNat 20 0xAB) := by decide +kernel
  rw [Inquiry.Names, inquiryOn]
  cases read : Address.validate "0x00000000000000000000000000000000000000AB" with
  | error reason => simp [read, Except.toOption] at valid
  | ok address => simpa [read, Except.toOption] using valid

theorem result_of_stored (files : Files) (network : Option String)
    (stored : (files.locate ((opened "cache" none files).search (inquiryOn network)).path).bind
      files.contentAt = some "[]") :
    ((opened "cache" none files).search (inquiryOn network)).result Offline.respondent =
      .ok .empty := by
  have afresh : ((opened "cache" none files).search (inquiryOn network)).Afresh
      Offline.respondent := Search.afresh_of_missing rfl
  refine (afresh.file "[]" files .empty ?_ rfl).2
  change (Offline.load _ files, files) = _
  rw [Offline.load, stored]

theorem coherent_explore_mainnet :
    let history := (opened "cache" none mainnetFile).explore Offline.respondent [inquiryOn none]
    let later : Inquiry := ⟨"0x00000000000000000000000000000000000000ab", some "mainnet"⟩
    (history.search later).exchanges Offline.respondent = [] ∧
      (history.search later).result Offline.respondent = .ok .empty := by
  intro history later
  have coherent := coherent_explore Offline.respondent "cache" none mainnetFile [inquiryOn none]
  have found := result_of_stored mainnetFile none (by decide +kernel)
  have alike : later.Alike (inquiryOn none) := ⟨rfl, by decide +kernel⟩
  exact coherent.2.remembers _ (.head _) _ found later alike

/-- A network whose name leads to the file of another one is answered with what is there, although
explorers do not know it. -/
theorem dotted_network_read :
    let answer (files : Files) (network : Option String) :=
      ((opened "cache" none files).search (inquiryOn network)).result Offline.respondent
    (inquiryOn none).Distinct (inquiryOn (some "./mainnet")) ∧
      answer mainnetFile none = .ok .empty ∧
      answer mainnetFile (some "./mainnet") = .ok .empty ∧
      answer [] (some "./mainnet") = .error (.unsupportedNetwork "./mainnet") := by
  intro answer
  refine ⟨⟨_, _, names_inquiryOn _, names_inquiryOn _, .inl (by decide +kernel)⟩, ?_, ?_, ?_⟩
  · exact result_of_stored mainnetFile none (by decide +kernel)
  · exact result_of_stored mainnetFile (some "./mainnet") (by decide +kernel)
  · have afresh : ((opened "cache" none []).search (inquiryOn (some "./mainnet"))).Afresh
        Offline.respondent := Search.afresh_of_missing rfl
    have unstored : Files.locate [] ((opened "cache" none ([] : Files)).search
        (inquiryOn (some "./mainnet"))).path = none := by decide +kernel
    refine ((afresh.absent (.error .missing) [] ?_ nofun).2).trans rfl
    change (Offline.load _ [], []) = _
    rw [Offline.load, unstored]
    rfl

end SearchHistory

end ContractClient
