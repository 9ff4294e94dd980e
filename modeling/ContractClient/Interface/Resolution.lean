import ContractClient.Interface.Arguments
import ContractClient.Interface.Identifier

namespace ContractClient

/-! Resolution of identifiers to the one entry of an interface that is meant. -/

namespace FunctionEntry

/-- The function takes as many arguments as are given, and each of them can be
coerced to its declared type. -/
def accepts (positional : List Json) (keywords : List (String × Json))
    (entry : FunctionEntry) : Bool :=
  entry.inputs.length == positional.length + keywords.length &&
    match Arguments.merge entry.inputs positional keywords with
    | .ok merged => Arguments.isEncodable entry.inputs merged
    | .error _ => false

end FunctionEntry

namespace Interface

/-- The function that an identifier means for the given arguments. A name with
one declaration means that one; of several, exactly one must accept the
arguments. -/
def resolveFunction (interface : Interface) (identifier : Identifier)
    (positional : List Json) (keywords : List (String × Json)) :
    Except ContractError FunctionEntry :=
  let notFound : ContractError := .notFound .function identifier.toText
  let orNotFound : Option FunctionEntry → Except ContractError FunctionEntry
    | some entry => .ok entry
    | none => .error notFound
  match identifier with
  | .selector selector => orNotFound (interface.functionBySelector selector)
  | .signature signature => orNotFound (interface.functionBySignature signature)
  | .topic _ => .error notFound
  | .plain name =>
      match interface.functionsNamed name with
      | [] => .error notFound
      | [only] => .ok only
      | candidates =>
          match candidates.filter (FunctionEntry.accepts positional keywords) with
          | [chosen] => .ok chosen
          | [] =>
              .error (.noMatchingOverload name (positional.length + keywords.length)
                (candidates.map FunctionEntry.signature))
          | survivors =>
              .error (.ambiguousOverload name (survivors.map FunctionEntry.signature))

/-- The event that an identifier means. Nothing tells events of one name apart,
so a shared name is ambiguous. -/
def resolveEvent (interface : Interface) (identifier : Identifier) :
    Except ContractError EventEntry :=
  let notFound : ContractError := .notFound .event identifier.toText
  let orNotFound : Option EventEntry → Except ContractError EventEntry
    | some entry => .ok entry
    | none => .error notFound
  match identifier with
  | .topic topic => orNotFound (interface.eventByTopic topic)
  | .signature signature => orNotFound (interface.eventBySignature signature)
  | .selector _ => .error notFound
  | .plain name =>
      match interface.eventsNamed name with
      | [] => .error notFound
      | [only] => .ok only
      | candidates => .error (.ambiguousOverload name (candidates.map EventEntry.signature))

end Interface

end ContractClient
