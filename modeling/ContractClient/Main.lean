import ContractClient.Service.CommandLine
import ContractClient.Service.Offline
import ContractClient.Service.Protocol

namespace ContractClient

/-! The program. Everything that is decided is decided elsewhere; here questions
are answered and messages are passed on, one on a line. -/

namespace Program

def fileError : IO.Error → FileError
  | .noFileOrDirectory .. => .missing
  | .permissionDenied .. => ⟨"Permission denied (os error 13)"⟩
  | error => ⟨toString error⟩

def loadFile (path : String) : IO (Except FileError String) := do
  try
    return .ok (← IO.FS.readFile path)
  catch error =>
    return .error (fileError error)

/-- Write a file and the directory that it is in; it does not matter if that
fails. -/
def storeFile (path content : String) : IO Unit := do
  try
    let parts := Text.splitOn '/' path.toList
    IO.FS.createDirAll (String.ofList (List.intercalate ['/'] parts.dropLast))
    IO.FS.writeFile path content
  catch _ => return

def answer : (question : Question) → IO question.Answer
  | .node endpoint method parameters =>
      return Offline.node endpoint method.text (.array parameters)
  | .gateway template sender callData => return Offline.gateway template sender callData
  | .fetch url => return Offline.fetch url
  | .load path => loadFile path
  | .store path content => storeFile path content

def converse : Dialogue α → IO α
  | .done result => return result
  | .ask question next => do converse (next (← answer question))

def environment : IO CommandLine.Environment := do
  let home ← IO.getEnv "HOME"
  let absolute (text : Option String) : Option String :=
    text.bind fun path => if path.toList.head? = some '/' then some path else none
  let configHome := absolute (← IO.getEnv "XDG_CONFIG_HOME")
  let cacheHome := absolute (← IO.getEnv "XDG_CACHE_HOME")
  return {
    configDirectory := configHome.or (home.map (· ++ "/.config"))
    cacheDirectory := (cacheHome.or (home.map (· ++ "/.cache"))).getD "."
    nodeKey := ← IO.getEnv "ALCHEMY_API_KEY"
    explorerKey := ← IO.getEnv "ETHERSCAN_API_KEY" }

/-- Answer messages until there are no more. It is a failure if there are none. -/
partial def serve (server : Server) (greeted : Bool) : IO UInt32 := do
  let line ← (← IO.getStdin).getLine
  if line.isEmpty then return if greeted then 0 else 1
  match Json.parse? line with
  | none => serve server greeted
  | some message =>
      let (reply, after) ← converse (server.respond message)
      if let some answer := reply then
        let output ← IO.getStdout
        output.putStrLn answer.toText
        output.flush
      serve after true

end Program

end ContractClient

open ContractClient

def main (arguments : List String) : IO UInt32 := do
  let environment ← Program.environment
  match ← Program.converse (CommandLine.act environment (CommandLine.read arguments)) with
  | .print text =>
      IO.print text
      return 0
  | .fail status reason =>
      IO.eprintln reason
      return status.toUInt32
  | .serve server =>
      if !(← Program.converse (server.networks.isUsable none)) then
        IO.eprintln ("Default network '" ++ server.networks.default ++ "' is not reachable")
      Program.serve server false
