import ContractClient.Abi.TypeText

namespace ContractClient

/-! Parameters of interface entries: a name, a type text and, for tuples, the
parameters that are its components. -/

/-- A parameter as the interface declares it. `internalType` is the compiler's
name of the type. -/
structure Parameter where
  name : String
  type : String
  internalType : Option String
  components : List Parameter
deriving Inhabited, Repr

namespace Parameter

mutual
/-- The type text of a parameter in a signature: components stand in
parentheses in place of the word `tuple`. -/
def signatureType : Parameter → String
  | { type, components, .. } =>
      match components with
      | [] => type
      | first :: rest =>
          let suffix := match type.toList with
            | 't' :: 'u' :: 'p' :: 'l' :: 'e' :: behind => String.ofList behind
            | _ => ""
          "(" ++ joinSignatureTypes (first :: rest) ++ ")" ++ suffix

def joinSignatureTypes : List Parameter → String
  | [] => ""
  | [parameter] => parameter.signatureType
  | parameter :: rest => parameter.signatureType ++ "," ++ joinSignatureTypes rest
end

def signature (name : String) (parameters : List Parameter) : String :=
  name ++ "(" ++ joinSignatureTypes parameters ++ ")"

inductive ResolveError where
  | malformed (text : String)
  | type (error : TypeError)
deriving DecidableEq, Repr

def ResolveError.message : ResolveError → String
  | .malformed text => "invalid type string: " ++ text
  | .type error => error.message

mutual
/-- The type of a parameter. Components make a tuple, and of the type text
only the array brackets count then. -/
def resolve : Parameter → Except ResolveError AbiType
  | { type, components, .. } =>
      match TypeText.parse? type with
      | none => .error (.malformed type)
      | some parsed =>
          match components with
          | [] =>
              match parsed.resolve with
              | .ok resolved => .ok resolved
              | .error reason => .error (.type reason)
          | first :: rest =>
              match resolveAll (first :: rest) with
              | .ok types => .ok (TypeText.wrap (.tuple types) parsed.sizes)
              | .error reason => .error reason

def resolveAll : List Parameter → Except ResolveError (List AbiType)
  | [] => .ok []
  | parameter :: rest =>
      match parameter.resolve with
      | .error reason => .error reason
      | .ok type =>
          match resolveAll rest with
          | .error reason => .error reason
          | .ok types => .ok (type :: types)
end

end Parameter

structure EventParameter extends Parameter where
  indexed : Bool
deriving Inhabited, Repr

end ContractClient
