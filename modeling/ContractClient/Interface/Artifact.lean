import ContractClient.Bytecode
import ContractClient.Dialogue
import ContractClient.Interface.Reader

namespace ContractClient

/-! Artifacts: what a compiler leaves of a contract. An artifact is an interface,
or an object with the interface and the creation bytecode; the bytecode is a text
of digits, or an object that holds the text. -/

structure Artifact where
  interface : Interface
  bytecode : Option Bytes

inductive ArtifactError where
  /-- The document is no JSON, or its interface is none. -/
  | malformed
  | noInterface
  | shape
  | bytecode (error : BytecodeError)
deriving DecidableEq, Repr

def ArtifactError.message : ArtifactError → String
  | .malformed => "Failed to parse ABI JSON"
  | .noInterface => "Artifact has no 'abi' field"
  | .shape => "Expected an ABI array or an artifact object"
  | .bytecode error => error.message

inductive ArtifactFileError where
  | unreadable (path : String) (error : FileError)
  | invalid (path : String) (error : ArtifactError)
deriving DecidableEq, Repr

def ArtifactFileError.message : ArtifactFileError → String
  | .unreadable path error =>
      "Failed to read ABI file " ++ Text.Quoted.text path ++ ": " ++ error.reason
  | .invalid path error => Text.Quoted.text path ++ ": " ++ error.message

namespace Artifact

def bytecodeText? (members : List (String × Json)) : Option String :=
  match Json.lookup "bytecode" members with
  | some (.string text) => some text
  | some (.object inner) => (Json.lookup "object" inner).bind Json.asText?
  | _ => none

/-- Read bytecode. Interfaces have an empty one, which counts as none. -/
def readBytecode : Option String → Except ArtifactError (Option Bytes)
  | none => .ok none
  | some text =>
      let trimmed := Text.trim text
      if trimmed = "" ∨ trimmed = "0x" then .ok none
      else
        match Bytecode.ofText trimmed with
        | .ok code => .ok (some code)
        | .error reason => .error (.bytecode reason)

def build (document : Json) (bytecode : Option String) : Except ArtifactError Artifact :=
  match Interface.ofJson? document with
  | none => .error .malformed
  | some interface =>
      match readBytecode bytecode with
      | .ok code => .ok ⟨interface, code⟩
      | .error reason => .error reason

def ofJson : Json → Except ArtifactError Artifact
  | .array items => build (.array items) none
  | .object members =>
      match Json.lookup "abi" members with
      | some document => build document (bytecodeText? members)
      | none => .error .noInterface
  | _ => .error .shape

def parse (text : String) : Except ArtifactError Artifact :=
  match Json.parse? text with
  | some document => ofJson document
  | none => .error .malformed

def load (path : String) : Dialogue (Except ArtifactFileError Artifact) :=
  .ask (.load path) fun
    | .error error => .done (.error (.unreadable path error))
    | .ok text =>
        match parse text with
        | .ok artifact => .done (.ok artifact)
        | .error error => .done (.error (.invalid path error))

end Artifact

end ContractClient
