import ContractClient.Json.Number

namespace ContractClient

/-! JSON values. The members of an object are kept in the order of their names,
and a name occurs once. -/

inductive Json where
  | null
  | boolean (flag : Bool)
  | number (value : Number)
  | string (text : String)
  | array (items : List Json)
  | object (members : List (String × Json))
deriving Inhabited, Repr

namespace Json

/-! ## Members of objects -/

/-- The order of names: by code points, a shorter name before its extensions. -/
def comesBefore : List Char → List Char → Bool
  | _, [] => false
  | [], _ :: _ => true
  | left :: leftRest, right :: rightRest =>
      left.toNat < right.toNat || (left = right && comesBefore leftRest rightRest)

def nameBefore (left right : String) : Bool :=
  comesBefore left.toList right.toList

/-- File a value under a name, in place of an earlier value of that name. -/
def insertMember (name : String) (value : α) : List (String × α) → List (String × α)
  | [] => [(name, value)]
  | (other, held) :: rest =>
      if name = other then (name, value) :: rest
      else if nameBefore name other then (name, value) :: (other, held) :: rest
      else (other, held) :: insertMember name value rest

def lookup (name : String) : List (String × α) → Option α
  | [] => none
  | (other, held) :: rest => if name = other then some held else lookup name rest

def removeMember (name : String) (members : List (String × α)) : List (String × α) :=
  members.filter fun member => member.1 ≠ name

/-- The members of a list of pairs, the last value of a name taking the place of
earlier ones. -/
def membersOf (pairs : List (String × α)) : List (String × α) :=
  pairs.foldl (fun members pair => insertMember pair.1 pair.2 members) []

def ofPairs (pairs : List (String × Json)) : Json :=
  .object (membersOf pairs)

example : membersOf [("b", 1), ("a", 2), ("b", 3)] = [("a", 2), ("b", 3)] := by decide

/-! ## Views -/

def natural (value : Nat) : Json :=
  .number (.natural value)

def ofOption (render : α → Json) : Option α → Json
  | some value => render value
  | none => .null

def strings (texts : List String) : Json :=
  .array (texts.map .string)

def asText? : Json → Option String
  | .string text => some text
  | _ => none

def asBool? : Json → Option Bool
  | .boolean flag => some flag
  | _ => none

def asItems? : Json → Option (List Json)
  | .array items => some items
  | _ => none

def asMembers? : Json → Option (List (String × Json))
  | .object members => some members
  | _ => none

def asNat? : Json → Option Nat
  | .number value => value.toNat?
  | _ => none

def member? (name : String) : Json → Option Json
  | .object members => lookup name members
  | _ => none

/-- A member that is given: present and not null. -/
def given? (name : String) (value : Json) : Option Json :=
  match value.member? name with
  | some .null => none
  | found => found

end Json

end ContractClient
