import ContractClient.Error
import ContractClient.Http.Exchange
import ContractClient.Json.Reader
import ContractClient.Node.Method

namespace ContractClient.Endpoint

/-! Requests to nodes over the web. A request is one JSON object with the name of
the method and its parameters; the answer is one with a result or an error. -/

def webRequest (endpoint : Endpoint) (method : String) (parameters : Json) : Http.Request :=
  { verb := .post
    url := endpoint.url
    body := some (Json.ofPairs [("jsonrpc", .string "2.0"), ("id", Json.natural 0),
      ("method", .string method), ("params", parameters)])
    timeout := some endpoint.timeout }

def readReportedError (error : Json) : TransportError :=
  let code := match error.member? "code" with
    | some (.number value) => value.toInt?
    | _ => none
  match code, (error.member? "message").bind Json.asText? with
  | some code, some reason => .rpc code reason ((error.member? "data").map Json.toText)
  | _, _ => .deserialization

def readBody (body : String) : Except TransportError Json :=
  match Json.parse? body with
  | none => .error .deserialization
  | some reply =>
      match reply.member? "error", reply.member? "result" with
      | some error, none => .error (readReportedError error)
      | none, some result => .ok result
      | _, _ => .error .deserialization

def readOutcome (endpoint : Endpoint) : Http.Outcome → Except TransportError Json
  | .answered status body =>
      if status = 200 then readBody body
      else .error (.http ("HTTP error " ++ toString status ++ " with body: " ++ body))
  | .failed reason => .error (.http reason)
  | .overdue => .error (.timeout endpoint.timeout)

end ContractClient.Endpoint
