import ContractClient.Interface.Entry
import ContractClient.Json.Reader
import ContractClient.Json.Record

namespace ContractClient

/-! Reading interfaces from JSON documents. A document is an array of entries;
one entry that is not well formed spoils the whole document. -/

namespace Parameter

/-- An identifier, or no name at all. -/
def isValidName (name : String) : Bool :=
  name.isEmpty || TypeText.isName name.toList

/-- A type text must be well formed; beside components it must begin with the
word `tuple`. -/
def isValidType (type : String) (hasComponents : Bool) : Bool :=
  if hasComponents then ['t', 'u', 'p', 'l', 'e'].isPrefixOf type.toList
  else (TypeText.parse? type).isSome

/-- Read the members that parameters of functions and events share. The number
bounds how deep components nest; `indexed` is the mark of an event parameter. -/
def readMembers : (depth : Nat) → List (String × Json) → Option (Parameter × Option Bool)
  | 0, _ => none
  | depth + 1, members => do
      let name ← Json.optionalMember? "name" Json.asText? "" members
      let type ← Json.requiredMember? "type" Json.asText? members
      let indexed ← Json.nullableMember? "indexed" Json.asBool? members
      let internalType ← Json.nullableMember? "internalType" Json.asText? members
      let items ← Json.optionalMember? "components" Json.asItems? [] members
      let components ← items.mapM fun item => do
        let inner ← item.asMembers?
        let (component, mark) ← readMembers depth inner
        if mark.isSome then none else some component
      if isValidName name && isValidType type (!components.isEmpty) then
        some (⟨name, type, internalType, components⟩, indexed)
      else none

def maxDepth : Nat := 128

/-- Read a parameter that may not be marked as indexed or not. -/
def ofJson? (value : Json) : Option Parameter := do
  let members ← value.asMembers?
  let (parameter, mark) ← readMembers maxDepth members
  if mark.isSome then none else some parameter

end Parameter

/-- Read an event parameter; without a mark it is not indexed. -/
def EventParameter.ofJson? (value : Json) : Option EventParameter := do
  let members ← value.asMembers?
  let (parameter, mark) ← Parameter.readMembers Parameter.maxDepth members
  some { parameter with indexed := mark.getD false }

namespace Mutability

def ofText? : String → Option Mutability
  | "pure" => some .pure
  | "view" => some .view
  | "nonpayable" => some .nonpayable
  | "payable" => some .payable
  | _ => none

/-- Read the mutability of an entry. Without one, the older marks `payable` and
`constant` stand for it, and without them the entry is not payable. -/
def ofMembers? (members : List (String × Json)) : Option Mutability := do
  let stated ←
    Json.nullableMember? "stateMutability" (fun value => value.asText?.bind ofText?) members
  let payable ← Json.nullableMember? "payable" Json.asBool? members
  let constant ← Json.nullableMember? "constant" Json.asBool? members
  match stated with
  | some mutability => some mutability
  | none =>
      if payable = some true then some .payable
      else if constant = some true then some .view
      else some .nonpayable

end Mutability

namespace Interface

def insertByName (nameOf : α → String) (entry : α) : List α → List α
  | [] => [entry]
  | other :: rest =>
      if Json.nameBefore (nameOf entry) (nameOf other) then entry :: other :: rest
      else other :: insertByName nameOf entry rest

def readParameters? (members : List (String × Json)) (name : String) : Option (List Parameter) := do
  let items ← Json.requiredMember? name Json.asItems? members
  items.mapM Parameter.ofJson?

def readName? (members : List (String × Json)) : Option String := do
  let name ← Json.requiredMember? "name" Json.asText? members
  if Parameter.isValidName name then some name else none

/-- Add the entry of a JSON value. A second constructor, fallback or receive
entry is refused. -/
def addEntry? (interface : Interface) (value : Json) : Option Interface := do
  let members ← value.asMembers?
  match ← Json.requiredMember? "type" Json.asText? members with
  | "constructor" =>
      let inputs ← readParameters? members "inputs"
      let mutability ← Mutability.ofMembers? members
      if interface.constructor.isSome then none
      else some { interface with constructor := some ⟨inputs, mutability⟩ }
  | "fallback" =>
      let mutability ← Mutability.ofMembers? members
      if interface.fallback.isSome then none
      else some { interface with fallback := some mutability }
  | "receive" =>
      let mutability ← Mutability.ofMembers? members
      if interface.receive.isSome then none
      else some { interface with receive := some mutability }
  | "function" =>
      let name ← readName? members
      let inputs ← readParameters? members "inputs"
      let outputs ← readParameters? members "outputs"
      let mutability ← Mutability.ofMembers? members
      let entry : FunctionEntry := ⟨name, inputs, outputs, mutability⟩
      some { interface with
        functions := insertByName FunctionEntry.name entry interface.functions }
  | "event" =>
      let name ← readName? members
      let items ← Json.requiredMember? "inputs" Json.asItems? members
      let inputs ← items.mapM EventParameter.ofJson?
      let anonymous ← Json.requiredMember? "anonymous" Json.asBool? members
      let entry : EventEntry := ⟨name, inputs, anonymous⟩
      some { interface with events := insertByName EventEntry.name entry interface.events }
  | "error" =>
      let name ← readName? members
      let inputs ← readParameters? members "inputs"
      let entry : ErrorEntry := ⟨name, inputs⟩
      some { interface with errors := insertByName ErrorEntry.name entry interface.errors }
  | _ => none

def ofJson? (document : Json) : Option Interface := do
  let items ← document.asItems?
  items.foldlM addEntry? empty

def parse? (text : String) : Option Interface :=
  (Json.parse? text).bind ofJson?

end Interface

def EventEntry.ofJson? (value : Json) : Option EventEntry := do
  let interface ← Interface.addEntry? Interface.empty value
  interface.events.head?

end ContractClient
