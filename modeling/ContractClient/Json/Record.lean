import ContractClient.Json.Basic

namespace ContractClient.Json

/-! Records in JSON. A record is an object, and members that it does not know are
passed over; or it is an array that states its fields in order. -/

def fields? (names : List String) : Json → Option (List (String × Json))
  | .object members => some members
  | .array values => if values.length ≤ names.length then some (names.zip values) else none
  | _ => none

/-- The members of a record; a list of fields must state the first `least` ones. -/
def fieldsFrom? (least : Nat) (names : List String) : Json → Option (List (String × Json))
  | .array values => if values.length < least then none else (Json.array values).fields? names
  | value => value.fields? names

def requiredMember? (name : String) (read : Json → Option α) (members : List (String × Json)) :
    Option α :=
  (lookup name members).bind read

/-- A member that may be missing but not of another kind. -/
def optionalMember? (name : String) (read : Json → Option α) (otherwise : α)
    (members : List (String × Json)) : Option α :=
  match lookup name members with
  | some value => read value
  | none => some otherwise

def nullable (read : Json → Option α) : Json → Option (Option α)
  | .null => some none
  | value => (read value).map some

def nullableMember? (name : String) (read : Json → Option α) (members : List (String × Json)) :
    Option (Option α) :=
  optionalMember? name (nullable read) none members

end ContractClient.Json
