import ContractClient.Contract.Function
import ContractClient.Proofs.OffchainFollowing
import ContractClient.Proofs.RevertData

/-! Read-only calls. A call sends one request and, while lookups are followed, a
bounded number of callbacks, each of which repeats the call with other call data. -/

namespace ContractClient.BoundFunction

open Dialogue OffchainLookup

/-- The ways in which a call goes, with the exchanges and the result of each. -/
inductive Calling (respondent : Respondent σ) (bound : BoundFunction) (options : CallOptions)
    (state : σ) : List (Exchange σ) → Except ContractError ReturnValue → Prop
  | refused {reason : ContractError}
      (dispatched : bound.dispatch options.transaction .call = .error reason) :
      Calling respondent bound options state [] (.error reason)
  | replied {ready : Dispatch} {reply : Json} {after : σ}
      (dispatched : bound.dispatch options.transaction .call = .ok ready)
      (answered : respondent
        (callQuestion ready.endpoint (CallOptions.context options) ready.request) state =
          (.ok reply, after)) :
      Calling respondent bound options state
        [⟨callQuestion ready.endpoint (CallOptions.context options) ready.request,
          .ok reply, after⟩]
        (readOutput ready.entry reply)
  | failed {ready : Dispatch} {error : TransportError} {after : σ}
      (dispatched : bound.dispatch options.transaction .call = .ok ready)
      (answered : respondent
        (callQuestion ready.endpoint (CallOptions.context options) ready.request) state =
          (.error error, after))
      (plain : options.offchain = true → ofError? error = none) :
      Calling respondent bound options state
        [⟨callQuestion ready.endpoint (CallOptions.context options) ready.request,
          .error error, after⟩]
        (.error (.transport error))
  | followed {ready : Dispatch} {error : TransportError} {lookup : OffchainLookup} {after : σ}
      {later : List (Exchange σ)} {reply : Except ContractError Json}
      (dispatched : bound.dispatch options.transaction .call = .ok ready)
      (answered : respondent
        (callQuestion ready.endpoint (CallOptions.context options) ready.request) state =
          (.error error, after))
      (enabled : options.offchain = true) (carried : ofError? error = some lookup)
      (following : Following respondent ready.endpoint (CallOptions.context options)
        maxRedirects ready.request lookup after later reply) :
      Calling respondent bound options state
        (⟨callQuestion ready.endpoint (CallOptions.context options) ready.request,
          .error error, after⟩ :: later)
        (reply.bind (readOutput ready.entry))

theorem calling_call (respondent : Respondent σ) (bound : BoundFunction) (options : CallOptions)
    (state : σ) :
    Calling respondent bound options state ((bound.call options).exchanges respondent state)
      ((bound.call options).run respondent state).1 := by
  cases dispatched : bound.dispatch options.transaction .call with
  | error reason =>
      simp only [call, dispatched]
      exact .refused dispatched
  | ok ready =>
      simp only [call, dispatched]
      rcases answered : respondent
          (callQuestion ready.endpoint (CallOptions.context options) ready.request) state with
        ⟨error | reply, after⟩
      · rw [run_ask answered, exchanges_ask answered]
        cases carried : (if options.offchain then ofError? error else none) with
        | none =>
            simp only [carried]
            refine .failed dispatched answered fun enabled => ?_
            rwa [if_pos enabled] at carried
        | some lookup =>
            simp only [carried]
            rw [exchanges_andThen_done, run_andThen_done]
            by_cases enabled : options.offchain = true
            · rw [if_pos enabled] at carried
              exact .followed dispatched answered enabled carried
                (following_follow respondent _ _ _ _ lookup after)
            · rw [if_neg enabled] at carried
              cases carried
      · rw [run_ask answered, exchanges_ask answered]
        exact .replied dispatched answered

section Calling

variable {respondent : Respondent σ} {bound : BoundFunction} {options : CallOptions} {state : σ}
  {exchanges : List (Exchange σ)} {result : Except ContractError ReturnValue} {ready : Dispatch}

theorem Calling.justified
    (calling : Calling respondent bound options state exchanges result)
    (dispatched : bound.dispatch options.transaction .call = .ok ready) :
    Exchange.Justified
      (CallStep ready.endpoint (CallOptions.context options) ready.request options.offchain)
      [] exchanges := by
  cases calling with
  | refused known => cases known.symm.trans dispatched
  | replied known answered | failed known answered plain =>
      cases known.symm.trans dispatched
      exact ⟨.first rfl, trivial⟩
  | followed known answered enabled carried following =>
      cases known.symm.trans dispatched
      refine ⟨.first rfl, ?_⟩
      rw [enabled]
      exact following.justified rfl carried

theorem Calling.length_methods_le
    (calling : Calling respondent bound options state exchanges result) :
    (exchanges.filterMap Exchange.method?).length ≤ 1 + maxRedirects := by
  cases calling with
  | refused => simp
  | replied | failed => simp [Exchange.method?]
  | followed _ _ _ _ following =>
      rw [List.filterMap_cons, Nat.add_comm]
      exact Nat.succ_le_succ following.length_methods_le

theorem Calling.exhausts
    (calling : Calling respondent bound options state exchanges result)
    (dispatched : bound.dispatch options.transaction .call = .ok ready)
    (enabled : options.offchain = true)
    (redirect : ∀ exchange ∈ exchanges, exchange.method?.isSome = true →
      Redirects respondent ready.request.target exchange) :
    (exchanges.filterMap Exchange.method?).length = 1 + maxRedirects ∧
      result = .error (.offchainLookup (.tooManyRedirects maxRedirects)) := by
  cases calling with
  | refused known => cases known.symm.trans dispatched
  | replied =>
      rcases redirect _ (.head _) rfl with ⟨lookup, found, _⟩
      cases found
  | failed _ answered plain =>
      rcases redirect _ (.head _) rfl with ⟨lookup, found, _⟩
      rw [Exchange.lookup?_failed, plain enabled] at found
      cases found
  | followed known answered _ carried following =>
      cases known.symm.trans dispatched
      rcases redirect _ (.head _) rfl with ⟨lookup, found, own, answerable⟩
      rw [Exchange.lookup?_failed, carried] at found
      cases found
      rcases following.exhausts own answerable
        (fun exchange member => redirect exchange (.tail _ member)) with ⟨count, failed⟩
      refine ⟨?_, by rw [failed]; rfl⟩
      rw [List.filterMap_cons, Nat.add_comm]
      exact congrArg Nat.succ count

end Calling

/-- A call that is not refused at once sends at most one request more than there are
redirects. Each of its questions is the call itself, a question to a gateway of a
lookup of the called contract, or the callback with that gateway's response, which
differs from the call in its data only. If every request fails with a lookup that is
followed and answered, the call fails after exactly so many requests. -/
theorem call_confined (bound : BoundFunction) (options : CallOptions)
    (respondent : Respondent σ) (state : σ) :
    (∃ reason, bound.dispatch options.transaction .call = .error reason ∧
      (bound.call options).exchanges respondent state = [] ∧
      ((bound.call options).run respondent state).1 = .error reason) ∨
    ∃ ready, bound.dispatch options.transaction .call = .ok ready ∧
      ((bound.call options).methods respondent state).length ≤ 1 + maxRedirects ∧
      (∀ before exchange after,
        (bound.call options).exchanges respondent state = before ++ exchange :: after →
          CallStep ready.endpoint (CallOptions.context options) ready.request
            options.offchain before exchange.question) ∧
      (options.offchain = true →
        (∀ exchange ∈ (bound.call options).exchanges respondent state,
          exchange.method?.isSome = true → Redirects respondent ready.request.target exchange) →
        ((bound.call options).methods respondent state).length = 1 + maxRedirects ∧
          ((bound.call options).run respondent state).1 =
            .error (.offchainLookup (.tooManyRedirects maxRedirects))) := by
  have calling := calling_call respondent bound options state
  rw [methods]
  generalize (bound.call options).exchanges respondent state = exchanges at calling ⊢
  generalize ((bound.call options).run respondent state).1 = result at calling ⊢
  cases dispatched : bound.dispatch options.transaction .call with
  | error reason =>
      left
      cases calling with
      | refused known =>
          cases known.symm.trans dispatched
          exact ⟨reason, rfl, rfl, rfl⟩
      | replied known | failed known | followed known =>
          cases known.symm.trans dispatched
  | ok ready =>
      right
      refine ⟨ready, rfl, calling.length_methods_le, ?_, calling.exhausts dispatched⟩
      intro before exchange after split
      have justified := calling.justified dispatched
      rw [split] at justified
      exact justified.allowed

def relayAddress : Address := FixedBytes.ofNat 20 7

def relay : BoundFunction :=
  ⟨⟨.empty, some relayAddress, none, some ⟨"http://localhost:8545", 30000⟩, none⟩,
    .fallback, [], [], none⟩

def relayLookup : OffchainLookup :=
  ⟨relayAddress, ["https://gateway.example"], [1], FixedBytes.ofNat 4 9, [2]⟩

def redirecting : Respondent Unit
  | .node .., state =>
      (.error (.rpc 3 "execution reverted" (some (Bytes.toHex relayLookup.encode))), state)
  | .gateway .., state => (.ok [3], state)
  | .fetch _, state => (.error (.unsent "offline"), state)
  | .load _, state => (.error .missing, state)
  | .store .., state => ((), state)

theorem call_confined_redirected :
    ((relay.call .default).methods redirecting ()).length = 5 ∧
      ((relay.call .default).run redirecting ()).1 =
        .error (.offchainLookup (.tooManyRedirects 4)) := by
  have decoded : decode? relayLookup.encode = some relayLookup := by decide +kernel
  have carried := (ofError?_toHex 3 "execution reverted" relayLookup.encode).trans decoded
  rcases call_confined relay .default redirecting () with
    ⟨reason, refused, _⟩ | ⟨ready, dispatched, _, _, exhausts⟩
  · cases refused
  · cases dispatched
    apply exhausts rfl
    intro exchange member request
    rcases answer_of_mem member with ⟨before, answered⟩
    rcases exchange with ⟨question, answer, after⟩
    cases question with
    | node endpoint method parameters =>
        cases answered
        refine ⟨relayLookup, ?_, rfl, trivial⟩
        rw [Exchange.lookup?_failed]
        exact carried
    | gateway | fetch | load | store => cases request

end ContractClient.BoundFunction
