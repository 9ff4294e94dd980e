import ContractClient.Json.Basic

namespace ContractClient

/-! Values of TOML documents. What a table was made by is kept, because it
decides what may be added to the table later on. -/

/-- What a table was made by. -/
inductive TableOrigin where
  /-- A header of its own. -/
  | header
  /-- A header of a table inside it. -/
  | path
  /-- A dotted key. -/
  | dotted
  /-- A value in braces, which is complete. -/
  | inline
deriving DecidableEq, Repr

inductive Toml where
  | string (value : String)
  | integer (value : Int)
  | float (value : Number)
  | boolean (flag : Bool)
  /-- A date, a time, or both, as it is written. -/
  | moment (written : String)
  | array (items : List Toml)
  | table (origin : TableOrigin) (members : List (String × Toml))
  /-- Tables that share a header in double brackets. -/
  | tables (elements : List Toml)
deriving Inhabited, Repr

namespace Toml

/-- The name under which a moment is handed to a reader of records. -/
def momentName : String := "$__toml_private_datetime"

mutual
def toJson : Toml → Json
  | .string value => .string value
  | .integer value => .number (Number.ofInt value)
  | .float value => .number value
  | .boolean flag => .boolean flag
  | .moment written => .object [(momentName, .string written)]
  | .array items | .tables items => .array (toJsonList items)
  | .table _ members => Json.ofPairs (toJsonMembers members)

def toJsonList : List Toml → List Json
  | [] => []
  | item :: rest => item.toJson :: toJsonList rest

def toJsonMembers : List (String × Toml) → List (String × Json)
  | [] => []
  | (name, value) :: rest => (name, value.toJson) :: toJsonMembers rest
end

end Toml

end ContractClient
