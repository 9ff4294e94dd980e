import ContractClient.Proofs.FilterLifetimes

/-! Failed calls. A call that ends in an error has installed no filter. It has forgotten none
either, unless it is to uninstall one: a filter is forgotten before its node is asked to
uninstall it, and stays forgotten if the node fails. -/

namespace ContractClient

open Dialogue

namespace Server

section Serving

variable {respondent : Respondent σ} {server after : Server} {state : σ} {key : FilterKey}
  {call : ToolCall} {exchanges : List (Exchange σ)} {result : Except ToolError Json}

/-- The call is to uninstall the filter of the key, which is installed. -/
def Forgets (server : Server) (call : ToolCall) (key : FilterKey) : Prop :=
  (∃ request, call = .uninstallFilter request) ∧ call.key? server.networks.default = some key ∧
    ∃ filter, server.filters.find? key = some filter

theorem Serving.filters_of_forgets
    (serving : server.Serving respondent state call exchanges result after)
    (forgets : server.Forgets call key) : after.filters = server.filters.erase key := by
  rcases forgets with ⟨⟨request, rfl⟩, named, filter, stored⟩
  cases serving with
  | refused contractual => cases contractual
  | worked undertakes => exact undertakes.elim
  | unknown alike missing =>
      cases alike.symm.trans named
      cases missing.symm.trans stored
  | uninstalled alike =>
      cases alike.symm.trans named
      rfl

theorem Serving.filters_of_error {reason : ToolError}
    (serving : server.Serving respondent state call exchanges result after)
    (failed : result = .error reason) (kept : ∀ key, ¬ server.Forgets call key) :
    after.filters = server.filters := by
  cases serving with
  | refused | worked | denied | unknown | polled => rfl
  | installed => cases failed
  | uninstalled named stored => exact absurd ⟨⟨_, rfl⟩, named, _, stored⟩ (kept _)

theorem Serving.asking_of_forgets
    (serving : server.Serving respondent state call exchanges result after)
    (forgets : server.Forgets call key) :
    key.Asking server.networks .uninstallFilter
      (fun reply => .ok (Json.ofPairs [("filter_id", .string key.filter),
        ("network", .string key.network), ("uninstalled", reply)])) exchanges result := by
  rcases forgets with ⟨⟨request, rfl⟩, named, filter, stored⟩
  cases serving with
  | refused contractual => cases contractual
  | worked undertakes => exact undertakes.elim
  | unknown alike missing =>
      cases alike.symm.trans named
      cases missing.symm.trans stored
  | uninstalled alike found asking =>
      cases alike.symm.trans named
      exact asking

end Serving

/-- Calls about the filter of a key go to the node of its network: polls are read with the filter
that is filed there, and the filter can be uninstalled. -/
structure Offers (respondent : Respondent σ) (server : Server) (key : FilterKey)
    (filter : LiveFilter) : Prop where
  stored : server.filters.find? key = some filter
  polls : ∀ state request, (ToolCall.pollFilter request).key? server.networks.default = some key →
    key.Asking server.networks (if request.all then .getFilterLogs else .getFilterChanges)
      (fun reply => (filter.formatEntries reply).map eventsJson)
      ((Turn.mk server state (.pollFilter request)).exchanges respondent)
      ((Turn.mk server state (.pollFilter request)).result respondent)
  uninstalls : ∀ state request,
    (ToolCall.uninstallFilter request).key? server.networks.default = some key →
    key.Asking server.networks .uninstallFilter
      (fun reply => .ok (Json.ofPairs [("filter_id", .string key.filter),
        ("network", .string key.network), ("uninstalled", reply)]))
      ((Turn.mk server state (.uninstallFilter request)).exchanges respondent)
      ((Turn.mk server state (.uninstallFilter request)).result respondent)

theorem offers_of_stored (respondent : Respondent σ) {server : Server} {key : FilterKey}
    {filter : LiveFilter} (stored : server.filters.find? key = some filter) :
    server.Offers respondent key filter where
  stored := stored
  polls := by
    intro state request named
    have serving := (Turn.mk server state (.pollFilter request)).serving respondent
    exact serving.asking_of_stored named stored
  uninstalls := by
    intro state request named
    have serving := (Turn.mk server state (.uninstallFilter request)).serving respondent
    exact serving.asking_of_forgets ⟨⟨request, rfl⟩, named, filter, stored⟩

def Ignores (respondent : Respondent σ) (server : Server) (key : FilterKey) : Prop :=
  ∀ state call, call.key? server.networks.default = some key →
    (Turn.mk server state call).exchanges respondent = [] ∧
      (Turn.mk server state call).result respondent =
        .error (.unknownFilter key.filter key.network)

theorem ignores_of_missing (respondent : Respondent σ) {server : Server} {key : FilterKey}
    (missing : server.filters.find? key = none) : server.Ignores respondent key := by
  intro state call named
  exact ((Turn.mk server state call).serving respondent).eq_of_missing named missing

end Server

namespace Turn

variable {respondent : Respondent σ} {turn : Turn σ} {reason : ToolError}

theorem find?_of_failure (failed : turn.result respondent = .error reason) {key : FilterKey}
    (unnamed : ¬ turn.server.Forgets turn.call key) :
    (turn.after respondent).filters.find? key = turn.server.filters.find? key := by
  have serving := turn.serving respondent
  by_cases other : ∃ forgotten, turn.server.Forgets turn.call forgotten
  · rcases other with ⟨forgotten, forgets⟩
    have different : key ≠ forgotten := fun same => unnamed (same ▸ forgets)
    rw [serving.filters_of_forgets forgets, FilterTable.find?_erase, if_neg different]
  · have kept := serving.filters_of_error failed fun forgotten forgets => other ⟨_, forgets⟩
    rw [kept]

/-- A failed call leaves the filters as they are, unless it is to uninstall one that is installed:
then exactly that one is forgotten, and no later call reaches it. All others are still polled
and uninstalled. -/
theorem failure_keeps_filters (failed : turn.result respondent = .error reason) :
    ((∀ key, ¬ turn.server.Forgets turn.call key) →
      (turn.after respondent).filters = turn.server.filters) ∧
    (∀ key, turn.server.Forgets turn.call key →
      (turn.after respondent).filters = turn.server.filters.erase key ∧
        (turn.after respondent).Ignores respondent key) ∧
    ∀ key filter, turn.server.filters.find? key = some filter →
      ¬ turn.server.Forgets turn.call key →
      (turn.after respondent).Offers respondent key filter := by
  have serving := turn.serving respondent
  refine ⟨serving.filters_of_error failed, ?_, ?_⟩
  · intro key forgets
    have erased := serving.filters_of_forgets forgets
    refine ⟨erased, Server.ignores_of_missing respondent ?_⟩
    rw [erased, FilterTable.find?_erase, if_pos rfl]
  · intro key filter stored unnamed
    exact Server.offers_of_stored respondent ((find?_of_failure failed unnamed).trans stored)

end Turn

namespace Session

def clinging : Respondent Unit :=
  .ofNodes fun
    | _, .uninstallFilter => .error (.timeout 30000)
    | _, _ => .ok (.string "0x1")

def twinFilters : Session Unit :=
  (opened twin ()).serve clinging [installation none, installation (some "sepolia")]

theorem failure_keeps_filters_twin :
    let uninstallation := twinFilters.turn (.uninstallFilter ⟨"0x1", none⟩)
    (uninstallation.after clinging).Ignores clinging ⟨"local", "0x1"⟩ ∧
      ∃ filter, (uninstallation.after clinging).Offers clinging ⟨"sepolia", "0x1"⟩ filter := by
  intro uninstallation
  have failed : uninstallation.result clinging =
      .error (.contract (.transport (.timeout 30000))) := rfl
  have forgets : uninstallation.server.Forgets uninstallation.call ⟨"local", "0x1"⟩ :=
    ⟨⟨_, rfl⟩, rfl, _, rfl⟩
  have unnamed : ¬ uninstallation.server.Forgets uninstallation.call ⟨"sepolia", "0x1"⟩ := by
    rintro ⟨_, named, _⟩
    exact absurd named (by decide +kernel)
  have keeps := Turn.failure_keeps_filters failed
  exact ⟨(keeps.2.1 _ forgets).2, _, keeps.2.2 _ _ rfl unnamed⟩

/-- The filter cannot be polled once its node has failed to uninstall it. -/
theorem uninstallation_forgets :
    let uninstallation := twinFilters.turn (.uninstallFilter ⟨"0x1", none⟩)
    let poll := (twinFilters.next clinging uninstallation.call).turn
      (.pollFilter ⟨"0x1", none, false⟩)
    uninstallation.result clinging = .error (.contract (.transport (.timeout 30000))) ∧
      (uninstallation.after clinging).filters ≠ uninstallation.server.filters ∧
      poll.result clinging = .error (.unknownFilter "0x1" "local") := by
  intro uninstallation poll
  refine ⟨rfl, ?_, rfl⟩
  intro same
  have missing : (uninstallation.after clinging).filters.find? ⟨"local", "0x1"⟩ = none := rfl
  rw [same] at missing
  cases missing

def Retains (respondent : Respondent σ) (server : Server) (key : FilterKey)
    (session : Session σ) : Prop :=
  (∀ turn ∈ session.turns, (∃ reason, turn.result respondent = .error reason) ∧
    ¬ turn.server.Forgets turn.call key) →
  session.server.filters.find? key = server.filters.find? key

/-- However many calls fail, a filter that none of them is to uninstall stays. -/
theorem retains_serve (respondent : Respondent σ) (server : Server) (state : σ)
    (calls : List ToolCall) (key : FilterKey) :
    ((opened server state).serve respondent calls).Retains respondent server key := by
  apply invariant_serve
  · intro session call kept failures
    rw [next, List.forall_mem_append, List.forall_mem_singleton] at failures
    rcases failures with ⟨earlier, ⟨reason, failed⟩, unnamed⟩
    exact (Turn.find?_of_failure failed unnamed).trans (kept earlier)
  · exact fun _ => rfl

end Session

end ContractClient
