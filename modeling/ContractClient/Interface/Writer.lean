import ContractClient.Interface.Entry
import ContractClient.Json.Writer

namespace ContractClient

/-! Writing interfaces as JSON documents. -/

namespace Parameter

mutual
def toMembers : Parameter → List (String × Json)
  | { name, type, internalType, components } =>
      [("name", .string name), ("type", .string type)] ++
        internalType.toList.map (fun text => ("internalType", .string text)) ++
        match components with
        | [] => []
        | first :: rest => [("components", .array (toJsonList (first :: rest)))]

def toJsonList : List Parameter → List Json
  | [] => []
  | parameter :: rest => Json.ofPairs parameter.toMembers :: toJsonList rest
end

end Parameter

def EventParameter.toJson (parameter : EventParameter) : Json :=
  Json.ofPairs (("indexed", .boolean parameter.indexed) :: parameter.toMembers)

def Mutability.text : Mutability → String
  | .pure => "pure"
  | .view => "view"
  | .nonpayable => "nonpayable"
  | .payable => "payable"

namespace Interface

def entryJson (kind : String) (members : List (String × Json)) : Json :=
  Json.ofPairs (("type", .string kind) :: members)

def mutabilityMember (mutability : Mutability) : String × Json :=
  ("stateMutability", .string mutability.text)

/-- The entries without a name first, then functions, events and errors. -/
def toJson (interface : Interface) : Json :=
  let parameters (list : List Parameter) : Json := .array (Parameter.toJsonList list)
  .array
    (interface.constructor.toList.map (fun entry => entryJson "constructor"
        [("inputs", parameters entry.inputs), mutabilityMember entry.mutability]) ++
      interface.fallback.toList.map (fun mutability =>
        entryJson "fallback" [mutabilityMember mutability]) ++
      interface.receive.toList.map (fun mutability =>
        entryJson "receive" [mutabilityMember mutability]) ++
      interface.functions.map (fun entry => entryJson "function"
        [("name", .string entry.name), ("inputs", parameters entry.inputs),
         ("outputs", parameters entry.outputs), mutabilityMember entry.mutability]) ++
      interface.events.map (fun entry => entryJson "event"
        [("name", .string entry.name),
         ("inputs", .array (entry.inputs.map EventParameter.toJson)),
         ("anonymous", .boolean entry.anonymous)]) ++
      interface.errors.map (fun entry => entryJson "error"
        [("name", .string entry.name), ("inputs", parameters entry.inputs)]))

end Interface

end ContractClient
