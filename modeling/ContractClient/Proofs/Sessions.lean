import ContractClient.Proofs.ToolCalls

/-! Sessions. A server serves tool calls one after the other. Each call finds the server and
the respondent as the calls before it have left them. -/

namespace ContractClient

open Dialogue

/-- A tool call, with the server and the state of the respondent before it. -/
structure Turn (σ : Type) where
  server : Server
  state : σ
  call : ToolCall

namespace Turn

/-! ## One call -/

section Outcome

variable (respondent : Respondent σ) (turn : Turn σ)

def exchanges : List (Exchange σ) :=
  (turn.server.perform turn.call).exchanges respondent turn.state

def result : Except ToolError Json :=
  ((turn.server.perform turn.call).run respondent turn.state).1.1

def after : Server :=
  ((turn.server.perform turn.call).run respondent turn.state).1.2

def left : σ :=
  ((turn.server.perform turn.call).run respondent turn.state).2

def methods : List Method :=
  (turn.exchanges respondent).filterMap Exchange.method?

theorem serving :
    turn.server.Serving respondent turn.state turn.call (turn.exchanges respondent)
      (turn.result respondent) (turn.after respondent) :=
  Server.serving_perform respondent turn.server turn.state turn.call

end Outcome

end Turn

/-- The calls that a server has served, in their order, and what they have left. -/
structure Session (σ : Type) where
  turns : List (Turn σ)
  server : Server
  state : σ

namespace Session

/-! ## Many calls -/

def opened (server : Server) (state : σ) : Session σ :=
  ⟨[], server, state⟩

def turn (session : Session σ) (call : ToolCall) : Turn σ :=
  ⟨session.server, session.state, call⟩

def next (respondent : Respondent σ) (session : Session σ) (call : ToolCall) : Session σ :=
  ⟨session.turns ++ [session.turn call], (session.turn call).after respondent,
    (session.turn call).left respondent⟩

def serve (respondent : Respondent σ) (session : Session σ) (calls : List ToolCall) :
    Session σ :=
  calls.foldl (next respondent) session

variable {respondent : Respondent σ} {session : Session σ}

/-- What one more call keeps holds after any number of calls. -/
theorem invariant_serve {invariant : Session σ → Prop}
    (kept : ∀ session call, invariant session → invariant (session.next respondent call))
    (start : invariant session) (calls : List ToolCall) :
    invariant (session.serve respondent calls) := by
  induction calls generalizing session with
  | nil => exact start
  | cons call later induction => exact induction (kept session call start)

theorem calls_serve (respondent : Respondent σ) (session : Session σ) (calls : List ToolCall) :
    (session.serve respondent calls).turns.map Turn.call =
      session.turns.map Turn.call ++ calls := by
  induction calls generalizing session with
  | nil => exact (List.append_nil _).symm
  | cons call later induction =>
      have rest := induction (session.next respondent call)
      rwa [next, List.map_append, List.append_assoc] at rest

end Session

/-! ## What calls leave as it is -/

structure Server.Alike (first second : Server) : Prop where
  config : second.config = first.config
  networks : second.networks = first.networks

theorem Server.Alike.trans {first second third : Server} (former : first.Alike second)
    (latter : second.Alike third) : first.Alike third where
  config := latter.config.trans former.config
  networks := latter.networks.trans former.networks

theorem Server.Serving.alike {respondent : Respondent σ} {server after : Server} {state : σ}
    {call : ToolCall} {exchanges : List (Exchange σ)} {result : Except ToolError Json}
    (serving : server.Serving respondent state call exchanges result after) :
    server.Alike after := by
  cases serving with
  | refused | worked | denied | installed | unknown | polled | uninstalled => exact ⟨rfl, rfl⟩

namespace Session

structure Steady (server : Server) (session : Session σ) : Prop where
  now : server.Alike session.server
  before : ∀ turn ∈ session.turns, server.Alike turn.server

theorem steady_serve (respondent : Respondent σ) (server : Server) (state : σ)
    (calls : List ToolCall) : ((opened server state).serve respondent calls).Steady server := by
  apply invariant_serve
  · intro session call steady
    have served := ((session.turn call).serving respondent).alike
    refine ⟨steady.now.trans served, ?_⟩
    intro turn member
    rcases List.mem_append.mp member with member | member
    · exact steady.before turn member
    · rw [List.mem_singleton.mp member]
      exact steady.now
  · refine ⟨⟨rfl, rfl⟩, ?_⟩
    intro turn member
    cases member

end Session

end ContractClient
