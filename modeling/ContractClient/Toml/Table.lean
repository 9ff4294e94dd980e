import ContractClient.Toml.Basic

namespace ContractClient.Toml

/-! How the tables of a document grow. Headers and dotted keys make the tables
they lead through. A table has one header at most, a table of dotted keys has
none, and a value in braces is complete. -/

abbrev Members := List (String × Toml)

def changeLast (change : α → Option α) : List α → Option (List α)
  | [] => none
  | [last] => (change last).map fun changed => [changed]
  | first :: rest => (changeLast change rest).map fun changed => first :: changed

def throughHeader (change : Members → Option Members) : Toml → Option Toml
  | .table .inline _ => none
  | .table origin members => (change members).map (Toml.table origin)
  | _ => none

/-- Change the table that a path of headers leads to. Of tables that share a
header, the last one is meant. -/
def along : List String → (Members → Option Members) → Members → Option Members
  | [], change, members => change members
  | name :: rest, change, members =>
      let inner := along rest change
      let changed :=
        match Json.lookup name members with
        | none => (inner []).map (Toml.table .path)
        | some (.tables elements) =>
            (changeLast (throughHeader inner) elements).map Toml.tables
        | some value => throughHeader inner value
      changed.map fun value => Json.insertMember name value members

def openTable (name : String) (members : Members) : Option Members :=
  match Json.lookup name members with
  | none => some (Json.insertMember name (.table .header []) members)
  | some (.table .path inner) => some (Json.insertMember name (.table .header inner) members)
  | some _ => none

def openElement (name : String) (members : Members) : Option Members :=
  match Json.lookup name members with
  | none => some (Json.insertMember name (.tables [.table .header []]) members)
  | some (.tables elements) =>
      some (Json.insertMember name (.tables (elements ++ [.table .header []])) members)
  | some _ => none

/-- Change the members of a table that a dotted key leads through. A key that
ends in the table may do so only if dotted keys have made it. -/
def throughKey (ends : Bool) (change : Members → Option Members) : Toml → Option Toml
  | .table .dotted members => (change members).map (Toml.table .dotted)
  | .table .path members => if ends then none else (change members).map (Toml.table .path)
  | _ => none

def throughElement (ends : Bool) (change : Members → Option Members) : Toml → Option Toml
  | .table origin members => if ends then none else (change members).map (Toml.table origin)
  | _ => none

/-- Give a value to a key of a table; a key has one value at most. -/
def assign : List String → Toml → Members → Option Members
  | [], _, _ => none
  | [name], value, members =>
      match Json.lookup name members with
      | none => some (Json.insertMember name value members)
      | some _ => none
  | name :: rest, value, members =>
      let inner := assign rest value
      let ends := rest.length = 1
      let changed :=
        match Json.lookup name members with
        | none => (inner []).map (Toml.table .dotted)
        | some (.tables elements) =>
            (changeLast (throughElement ends inner) elements).map Toml.tables
        | some held => throughKey ends inner held
      changed.map fun held => Json.insertMember name held members

def ofPairs (pairs : List (List String × Toml)) : Option Members :=
  pairs.foldlM (fun members (key, value) => assign key value members) []

/-! ## Documents -/

inductive Statement where
  | header (path : List String)
  | element (path : List String)
  | pair (key : List String) (value : Toml)

/-- A document as far as it is read: its tables, and the path of the last
header. -/
structure Document where
  members : Members
  current : List String

namespace Document

def empty : Document := ⟨[], []⟩

def openAt (document : Document) (path : List String)
    (change : String → Members → Option Members) : Option Document := do
  let name ← path.getLast?
  let members ← along path.dropLast (change name) document.members
  some ⟨members, path⟩

def extend (document : Document) : Statement → Option Document
  | .header path => document.openAt path openTable
  | .element path => document.openAt path openElement
  | .pair key value =>
      (along document.current (assign key value) document.members).map fun members =>
        { document with members }

end Document

end ContractClient.Toml
