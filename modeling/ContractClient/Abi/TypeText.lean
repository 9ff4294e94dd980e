import ContractClient.Abi.Type
import ContractClient.Text.Search
import ContractClient.Width

namespace ContractClient

/-! Texts of ABI types as interfaces write them: a name or a tuple in
parentheses, followed by array brackets. Reading checks the form only; resolving
then gives the names their meaning. -/

/-- A type text taken apart. A size of `none` is a bracket pair without a length. -/
inductive TypeText where
  | named (name : String) (sizes : List (Option Nat))
  | tuple (parts : List TypeText) (sizes : List (Option Nat))
deriving Inhabited, Repr

inductive TypeError where
  | unknownName (name : String)
  | invalidSize (name : String)
deriving DecidableEq, Repr

def TypeError.message : TypeError → String
  | .unknownName name => "invalid type string: " ++ name
  | .invalidSize name => "invalid size for type: " ++ name

namespace TypeText

def sizes : TypeText → List (Option Nat)
  | .named _ sizes | .tuple _ sizes => sizes

/-! ## Names -/

def startsName (character : Char) : Bool :=
  character = '_' || character = '$' || character.isAlpha

def continuesName (character : Char) : Bool :=
  startsName character || character.isDigit

def isName : List Char → Bool
  | [] => false
  | first :: rest => startsName first && rest.all continuesName

/-! ## Reading -/

abbrev Take (α : Type) := List Char → Option (α × List Char)

/-- Read array brackets. A length is a number that is not zero and fits 64 bits;
the bound limits how many brackets there can be. -/
def readSizes : (bound : Nat) → Take (List (Option Nat))
  | 0, text => some ([], text)
  | bound + 1, '[' :: rest =>
      let digits := rest.takeWhile Char.isDigit
      match rest.dropWhile Char.isDigit with
      | ']' :: tail =>
          let size : Option (Option Nat) :=
            if digits.isEmpty then some none
            else
              let length := digits.foldl (fun total digit => total * 10 + (digit.toNat - 48)) 0
              if length = 0 ∨ Width.limit 64 ≤ length then none else some (some length)
          match size, readSizes bound tail with
          | some size, some (sizes, left) => some (size :: sizes, left)
          | _, _ => none
      | _ => none
  | _, text => some ([], text)

def skipSpaces (text : List Char) : List Char :=
  text.dropWhile fun character => character = ' ' || character = '\t'

/-- Read the parts of a tuple up to its closing parenthesis. Spaces may stand
behind a comma and before the parenthesis, and one comma may end the list. -/
def readParts (part : Take TypeText) : (bound : Nat) → Take (List TypeText)
  | 0, _ => none
  | bound + 1, text =>
      match part text with
      | none => none
      | some (first, ',' :: rest) =>
          match readParts part bound (skipSpaces rest) with
          | some (parts, left) => some (first :: parts, left)
          | none =>
              match skipSpaces rest with
              | ')' :: left => some ([first], left)
              | _ => none
      | some (first, rest) =>
          match skipSpaces rest with
          | ')' :: left => some ([first], left)
          | _ => none

def dropTupleWord : List Char → List Char
  | 't' :: 'u' :: 'p' :: 'l' :: 'e' :: '(' :: rest => '(' :: rest
  | text => text

def isDotted (character : Char) : Bool :=
  character = '.' || continuesName character

/-- Read a type. Tuples nest at most `depth` deep. A name with dots belongs to
an enumeration of another contract, which is a `uint8`. -/
def read : (depth : Nat) → Take TypeText
  | depth, text =>
      match dropTupleWord text with
      | '(' :: rest =>
          match depth with
          | 0 => none
          | depth + 1 =>
              let inner : Option (List TypeText × List Char) :=
                match skipSpaces rest with
                | ')' :: left => some ([], left)
                | tail => readParts (read depth) (tail.length + 1) tail
              match inner with
              | none => none
              | some (parts, left) =>
                  (readSizes (left.length + 1) left).map
                    fun (sizes, tail) => (.tuple parts sizes, tail)
      | tail =>
          let name := tail.takeWhile continuesName
          if isName name then
            let (stem, left) := match tail.dropWhile continuesName with
              | '.' :: behind => (['u', 'i', 'n', 't', '8'], behind.dropWhile isDotted)
              | left => (name, left)
            (readSizes (left.length + 1) left).map
              fun (sizes, tail) => (.named (String.ofList stem) sizes, tail)
          else none

def maxDepth : Nat := 128

def parse? (text : String) : Option TypeText :=
  match read maxDepth text.toList with
  | some (parsed, []) => some parsed
  | _ => none

/-! ## Resolving -/

def readNumber? (digits : List Char) : Option Nat :=
  if digits.isEmpty || !digits.all Char.isDigit then none
  else
    let number := digits.foldl (fun total digit => total * 10 + (digit.toNat - 48)) 0
    if number < Width.limit 64 then some number else none

def widthOf? (digits : List Char) : Option Nat :=
  match readNumber? digits with
  | some width => if width ≠ 0 ∧ width ≤ 256 ∧ width % 8 = 0 then some width else none
  | none => none

def resolveName (name : String) : Except TypeError AbiType :=
  match name.toList with
  | ['a', 'd', 'd', 'r', 'e', 's', 's'] => .ok .address
  | ['b', 'o', 'o', 'l'] => .ok .bool
  | ['s', 't', 'r', 'i', 'n', 'g'] => .ok .string
  | ['b', 'y', 't', 'e', 's'] => .ok .bytes
  | ['u', 'i', 'n', 't'] => .ok (.uint 256)
  | ['i', 'n', 't'] => .ok (.int 256)
  | ['f', 'u', 'n', 'c', 't', 'i', 'o', 'n'] => .ok .function
  | 'b' :: 'y' :: 't' :: 'e' :: 's' :: digits =>
      match readNumber? digits with
      | some size =>
          if size ≠ 0 ∧ size ≤ 32 then .ok (.fixedBytes size) else .error (.invalidSize name)
      | none => .error (.invalidSize name)
  | 'u' :: 'i' :: 'n' :: 't' :: digits =>
      match widthOf? digits with
      | some width => .ok (.uint width)
      | none => .error (.invalidSize name)
  | 'i' :: 'n' :: 't' :: digits =>
      match widthOf? digits with
      | some width => .ok (.int width)
      | none => .error (.invalidSize name)
  | _ => .error (.unknownName name)

def wrap (type : AbiType) (sizes : List (Option Nat)) : AbiType :=
  sizes.foldl
    (fun inner size =>
      match size with
      | some length => .fixedArray inner length
      | none => .array inner)
    type

mutual
def resolve : TypeText → Except TypeError AbiType
  | .named name sizes => (resolveName name).map fun type => wrap type sizes
  | .tuple parts sizes => (resolveAll parts).map fun types => wrap (.tuple types) sizes

def resolveAll : List TypeText → Except TypeError (List AbiType)
  | [] => .ok []
  | part :: rest =>
      match part.resolve with
      | .error reason => .error reason
      | .ok type =>
          match resolveAll rest with
          | .error reason => .error reason
          | .ok types => .ok (type :: types)
end

end TypeText

def AbiType.parse? (text : String) : Option AbiType :=
  match TypeText.parse? text with
  | some parsed =>
      match parsed.resolve with
      | .ok type => some type
      | .error _ => none
  | none => none

end ContractClient
