import ContractClient.Abi.Encoding
import ContractClient.Error
import ContractClient.Interface.Entry

namespace ContractClient

/-! Arguments of calls: merging keywords into the declared order, coercing them
to the declared types, and encoding them. -/

namespace Parameter

def resolveType (parameter : Parameter) : Except UnsupportedType AbiType :=
  match parameter.resolve with
  | .ok type => .ok type
  | .error reason => .error ⟨parameter.type, reason⟩

end Parameter

namespace Arguments

/-! ## Merging -/

def positionOf? (name : String) : List Parameter → Option Nat
  | [] => none
  | parameter :: rest =>
      if parameter.name = name then some 0 else (positionOf? name rest).map (· + 1)

def checkKeywords (inputs : List Parameter) (taken : Nat) :
    List (String × Json) → Except MergeError Unit
  | [] => .ok ()
  | (name, _) :: rest =>
      match positionOf? name inputs with
      | none => .error (.unknownKeyword name)
      | some position =>
          if position < taken then .error (.givenTwice name)
          else checkKeywords inputs taken rest

def fillIn (keywords : List (String × Json)) : List Parameter → Except MergeError (List Json)
  | [] => .ok []
  | parameter :: rest =>
      match Json.lookup parameter.name keywords with
      | none => .error (.missing parameter.name)
      | some value =>
          match fillIn keywords rest with
          | .error reason => .error reason
          | .ok values => .ok (value :: values)

/-- Positional arguments followed by the keyword values of the other parameters.
Without keywords the positional arguments are taken as they are. -/
def merge (inputs : List Parameter) (positional : List Json) (keywords : List (String × Json)) :
    Except MergeError (List Json) :=
  if keywords.isEmpty then .ok positional
  else if inputs.length < positional.length then
    .error (.tooMany inputs.length positional.length)
  else
    match checkKeywords inputs positional.length keywords with
    | .error reason => .error reason
    | .ok () =>
        match fillIn keywords (inputs.drop positional.length) with
        | .error reason => .error reason
        | .ok values => .ok (positional ++ values)

/-! ## Coercing -/

/-- Coerce arguments to the types of parameters, the first of which stands at
`position`. -/
def coerceFrom (position : Nat) :
    List Parameter → List Json → Except ArgumentError (List AbiValue)
  | parameter :: inputs, argument :: arguments =>
      match parameter.resolveType with
      | .error unsupported => .error (.unsupported unsupported)
      | .ok type =>
          match AbiValue.ofJson type parameter.components argument with
          | .error reason => .error (.invalid position parameter.name parameter.type reason)
          | .ok value =>
              match coerceFrom (position + 1) inputs arguments with
              | .error reason => .error reason
              | .ok values => .ok (value :: values)
  | _, _ => .ok []

def coerce (inputs : List Parameter) (arguments : List Json) :
    Except ArgumentError (List AbiValue) :=
  if inputs.length ≠ arguments.length then .error (.count inputs.length arguments.length)
  else coerceFrom 1 inputs arguments

def isEncodable (inputs : List Parameter) (arguments : List Json) : Bool :=
  match coerce inputs arguments with
  | .ok _ => true
  | .error _ => false

/-! ## Encoding -/

def matchParameters : List Parameter → List AbiValue → Bool
  | [], [] => true
  | parameter :: inputs, value :: values =>
      match parameter.resolve with
      | .ok type => value.matchesType type && matchParameters inputs values
      | .error _ => false
  | _, _ => false

def encodeTyped (inputs : List Parameter) (values : List AbiValue) :
    Except EncodingError Bytes :=
  if matchParameters inputs values then .ok (AbiValue.encodeSequence values)
  else .error .typeMismatch

def encode (inputs : List Parameter) (positional : List Json) (keywords : List (String × Json)) :
    Except EncodingError Bytes :=
  match merge inputs positional keywords with
  | .error reason => .error (.merge reason)
  | .ok merged =>
      match coerce inputs merged with
      | .error reason => .error (.argument reason)
      | .ok values => encodeTyped inputs values

end Arguments

namespace FunctionEntry

def encodeCall (entry : FunctionEntry) (positional : List Json)
    (keywords : List (String × Json)) : Except ContractError Bytes :=
  match Arguments.encode entry.inputs positional keywords with
  | .ok encoded => .ok (entry.selector.bytes ++ encoded)
  | .error reason => .error (.encoding entry.signature reason)

end FunctionEntry

end ContractClient
