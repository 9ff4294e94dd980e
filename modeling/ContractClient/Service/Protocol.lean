import ContractClient.Json.Reader
import ContractClient.Service.Server

namespace ContractClient

/-! The server as a partner in a conversation of JSON messages. A message is a
request, which is answered under its own identifier, or a notification, which is
not answered. -/

namespace Server

/-! ## Calls of tools -/

/-- Call a tool by its name. There is no result at all if no tool has the name or
the arguments have not the shape that the tool asks for. -/
def callTool (server : Server) (name : String) (arguments : List (String × Json)) :
    Dialogue (Option (Except ToolError Json) × Server) :=
  match (Tool.named? name).bind fun tool => tool.call? arguments with
  | none => .done (none, server)
  | some call =>
      (server.perform call).map fun (result, after) => (some result, after)

/-! ## Messages -/

/-- The number of the error that a request has not the shape it should have. -/
def invalidParameters : Int := -32602

/-- The number of the error that a request is of no known kind. -/
def unknownMethod : Int := -32601

def success (identifier result : Json) : Json :=
  Json.ofPairs [("jsonrpc", .string "2.0"), ("id", identifier), ("result", result)]

def failure (identifier : Json) (code : Int) (reason : String) : Json :=
  Json.ofPairs [("jsonrpc", .string "2.0"), ("id", identifier),
    ("error", Json.ofPairs [("code", .number (Number.ofInt code)), ("message", .string reason)])]

def capabilities : Json :=
  Json.ofPairs [("tools", .object [])]

def greeting : Json :=
  Json.ofPairs [("protocolVersion", .string "2024-11-05"), ("capabilities", capabilities),
    ("serverInfo",
      Json.ofPairs [("name", .string "contract-rpc"), ("version", .string "0.1.0")]),
    ("instructions", .string instructions)]

def toolList : Json :=
  Json.ofPairs [("tools", .array (Tool.all.map fun tool =>
    Json.ofPairs [("name", .string tool.name), ("description", .string tool.description),
      ("inputSchema", Json.ofPairs [("type", .string "object")])]))]

def toolContent (result : Except ToolError Json) : Json :=
  Json.ofPairs [("content", .array [Json.ofPairs
    [("type", .string "text"), ("text", .string (replyText result))]]),
    ("isError", .boolean false)]

def answerCall (server : Server) (identifier parameters : Json) : Dialogue (Json × Server) :=
  let refused := failure identifier invalidParameters "invalid parameters"
  let arguments := match parameters.given? "arguments" with
    | none => some []
    | some value => value.asMembers?
  match (parameters.member? "name").bind Json.asText?, arguments with
  | some name, some arguments =>
      (server.callTool name arguments).map fun
        | (some result, after) => (success identifier (toolContent result), after)
        | (none, after) => (refused, after)
  | _, _ => .done (refused, server)

def respond (server : Server) (message : Json) : Dialogue (Option Json × Server) :=
  match message.member? "id", (message.member? "method").bind Json.asText? with
  | some identifier, some "initialize" => .done (some (success identifier greeting), server)
  | some identifier, some "ping" => .done (some (success identifier (.object [])), server)
  | some identifier, some "tools/list" => .done (some (success identifier toolList), server)
  | some identifier, some "tools/call" =>
      (server.answerCall identifier ((message.member? "params").getD .null)).map
        fun (answer, after) => (some answer, after)
  | some identifier, some _ =>
      .done (some (failure identifier unknownMethod "unknown method"), server)
  | _, _ => .done (none, server)

end Server

end ContractClient
