import ContractClient.Bytes
import ContractClient.Text.Lowercase
import ContractClient.Text.Search
import ContractClient.Text.Utf8

namespace ContractClient.Http

/-! Hosts of URLs: domain names, and addresses of the two versions of the
internet protocol. A name that ends in a number must be an address of version
four, and a host in brackets one of version six. -/

inductive UrlError where
  | noScheme
  | emptyHost
  | domainName
  | domainCharacter
  | port
  | addressFour
  | addressSix
deriving DecidableEq, Repr

def UrlError.message : UrlError → String
  | .noScheme => "relative URL without a base"
  | .emptyHost => "empty host"
  | .domainName => "invalid international domain name"
  | .domainCharacter => "invalid domain character"
  | .port => "invalid port number"
  | .addressFour => "invalid IPv4 address"
  | .addressSix => "invalid IPv6 address"

/-! ## Percent encoding -/

def graveAccent : Char := Char.ofNat 96

def percentByte (byte : UInt8) : List Char :=
  let digit (value : Nat) : Char :=
    if value < 10 then Char.ofNat (48 + value) else Char.ofNat (55 + value)
  ['%', digit (byte.toNat / 16), digit (byte.toNat % 16)]

/-- Encode the characters that may not stand for themselves: controls, those
outside ASCII, and the given others. -/
def percentEncode (others : List Char) (text : List Char) : List Char :=
  text.flatMap fun character =>
    if character.toNat < 0x20 ∨ 0x7F ≤ character.toNat ∨ others.contains character then
      (Bytes.ofText (String.singleton character)).flatMap percentByte
    else [character]

example : percentByte 0x7B = ['%', '7', 'B'] := by decide

def percentDecode : Bytes → Bytes
  | 37 :: high :: low :: rest =>
      match Hex.digitValue? high, Hex.digitValue? low with
      | some first, some second => UInt8.ofNat (16 * first + second) :: percentDecode rest
      | _, _ => 37 :: percentDecode (high :: low :: rest)
  | byte :: rest => byte :: percentDecode rest
  | [] => []

/-! ## Domain names -/

/-- Divide a delta until it is small; each division moves the bias by a whole turn. -/
def shrinkDelta : (fuel : Nat) → (delta bias : Nat) → Nat
  | 0, _, bias => bias
  | fuel + 1, delta, bias =>
      if 455 < delta then shrinkDelta fuel (delta / 35) (bias + 36)
      else bias + 36 * delta / (delta + 38)

/-- How far the deltas of encoded characters are bent towards the ones before. A
delta has far fewer than 64 digits. -/
def adaptBias (delta points : Nat) (first : Bool) : Nat :=
  let damped := if first then delta / 700 else delta / 2
  shrinkDelta 64 (damped + damped / points) 0

def variableDigits (bias : Nat) : (fuel : Nat) → (position number : Nat) → List Char
  | 0, _, _ => []
  | fuel + 1, position, number =>
      let digit (value : Nat) : Char :=
        if value < 26 then Char.ofNat (97 + value) else Char.ofNat (22 + value)
      let threshold := min 26 (max 1 (position - bias))
      if number < threshold then [digit number]
      else
        digit (threshold + (number - threshold) % (36 - threshold)) ::
          variableDigits bias fuel (position + 36) ((number - threshold) / (36 - threshold))

/-- How far the encoding of a label has come: the code and the position that are
counted up to, the characters that are placed, and the digits so far. -/
structure LabelState where
  delta : Nat
  bias : Nat
  placed : Nat
  first : Bool
  digits : List Char

def placeCode (code : Nat) (state : LabelState) (label : List Char) : LabelState :=
  label.foldl
    (fun state character =>
      if character.toNat < code then { state with delta := state.delta + 1 }
      else if character.toNat = code then
        { delta := 0
          bias := adaptBias state.delta (state.placed + 1) state.first
          placed := state.placed + 1
          first := false
          digits := state.digits ++ variableDigits state.bias 64 36 state.delta }
      else state)
    state

/-- Encode a label codes upwards from `code`, each code once. -/
def placeCodes (label : List Char) : (codes : List Nat) → (code : Nat) → LabelState → LabelState
  | [], _, state => state
  | next :: rest, code, state =>
      let reached := { state with delta := state.delta + (next - code) * (state.placed + 1) }
      let placed := placeCode next reached label
      placeCodes label rest (next + 1) { placed with delta := placed.delta + 1 }

def foreignCodes (label : List Char) : List Nat :=
  let codes := (label.map Char.toNat).filter fun code => 0x80 ≤ code
  codes.eraseDups.mergeSort fun left right => left ≤ right

/-- A label in ASCII. Its other characters are described behind its ASCII
characters by code and place. -/
def asciiLabel (label : List Char) : List Char :=
  match foreignCodes label with
  | [] => label
  | codes =>
      let plain := label.filter fun character => character.toNat < 0x80
      let start : LabelState := ⟨0, 72, plain.length, true, []⟩
      let separator := if plain.isEmpty then [] else ['-']
      "xn--".toList ++ plain ++ separator ++ (placeCodes label codes 0x80 start).digits

def forbiddenInDomain : List Char :=
  ['%', '#', '/', ':', '<', '>', '?', '@', '[', '\\', ']', '^', '|']

def asciiDomain (name : List Char) : Except UrlError (List Char) :=
  let lowered := name.flatMap Text.lowerLetters
  let refused (character : Char) : Bool :=
    character.toNat ≤ 0x20 || character.toNat = 0x7F || forbiddenInDomain.contains character
  if lowered.any refused then .error .domainName
  else
    .ok (List.intercalate ['.'] ((Text.splitOn '.' lowered).map asciiLabel))

/-! ## Addresses -/

/-- The labels of a name; an empty one at the end does not count. -/
def significantLabels (name : List Char) : List (List Char) :=
  let labels := Text.splitOn '.' name
  if 1 < labels.length ∧ labels.getLast? = some [] then labels.dropLast else labels

def readBase (base : Nat) (digits : List Char) : Option Nat :=
  digits.foldl
    (fun total character =>
      match total, Hex.digitValue? (UInt8.ofNat character.toNat) with
      | some number, some value =>
          if character.toNat < 0x80 ∧ value < base then some (base * number + value) else none
      | _, _ => none)
    (some 0)

/-- A part of an address: hexadecimal behind `0x`, octal behind a zero, or
decimal. A marker alone is zero. -/
def readAddressPart : List Char → Option Nat
  | [] => none
  | '0' :: 'x' :: digits | '0' :: 'X' :: digits => readBase 16 digits
  | '0' :: digits => readBase 8 digits
  | digits => readBase 10 digits

def endsInNumber (name : List Char) : Bool :=
  match (significantLabels name).getLast? with
  | none => false
  | some last =>
      (!last.isEmpty && last.all Char.isDigit) ||
        match last with
        | '0' :: 'x' :: digits | '0' :: 'X' :: digits => (readBase 16 digits).isSome
        | _ => false

/-- The number of an address. The last of at most four parts fills all the bytes
that the others leave. -/
def readAddressFour (name : List Char) : Option Nat := do
  let labels := significantLabels name
  if 4 < labels.length then none
  let parts ← labels.mapM readAddressPart
  let last ← parts.getLast?
  let leading := parts.dropLast
  if leading.any fun part => 255 < part then none
  else if Nat.pow 256 (4 - leading.length) ≤ last then none
  else
    let high := leading.foldl (fun total part => 256 * total + part) 0
    some (high * Nat.pow 256 (4 - leading.length) + last)

def addressFourText (address : Nat) : String :=
  String.intercalate "." ((Bytes.ofNat 4 address).map fun byte => toString byte.toNat)

/-- The groups of one side of an address of version six; an address of version
four may take the place of the last two. -/
def readGroups : List (List Char) → Option (List Nat)
  | [] => some []
  | [last] =>
      if last.contains '.' then do
        let parts := Text.splitOn '.' last
        let decimal (part : List Char) : Bool :=
          !part.isEmpty && part.all Char.isDigit && (part.length = 1 || part.head? ≠ some '0')
        if parts.length = 4 ∧ parts.all decimal then
          let address ← readAddressFour last
          some [address / 65536, address % 65536]
        else none
      else if last.isEmpty ∨ 4 < last.length then none
      else (readBase 16 last).map fun group => [group]
  | group :: rest => do
      if group.isEmpty ∨ 4 < group.length then none
      let value ← readBase 16 group
      let values ← readGroups rest
      some (value :: values)

def cutAtGap : List Char → Option (List Char × List Char)
  | ':' :: ':' :: rest => some ([], rest)
  | character :: rest => (cutAtGap rest).map fun (before, behind) => (character :: before, behind)
  | [] => none

/-- The eight groups of an address of version six. A pair of colons stands for
the zeros that are missing, at least one group. -/
def readAddressSix (text : List Char) : Option (List Nat) :=
  let side (part : List Char) : Option (List Nat) :=
    if part.isEmpty then some [] else readGroups (Text.splitOn ':' part)
  match cutAtGap text with
  | none => do
      let groups ← side text
      if groups.length = 8 then some groups else none
  | some (before, behind) => do
      if before.contains '.' then none
      let left ← side before
      let right ← side behind
      if left.length + right.length < 8 then
        some (left ++ List.replicate (8 - left.length - right.length) 0 ++ right)
      else none

/-- Where the first longest run of zero groups starts, and its length; a single
zero is no run. -/
def longestZeros (groups : List Nat) : Option (Nat × Nat) :=
  let runs := (List.range groups.length).map fun start =>
    (start, ((groups.drop start).takeWhile fun group => group = 0).length)
  runs.foldl
    (fun best run =>
      match best with
      | some (_, length) => if length < run.2 then some run else best
      | none => if 2 ≤ run.2 then some run else none)
    none

def addressSixText (groups : List Nat) : String :=
  let join (part : List Nat) : String :=
    String.intercalate ":" (part.map fun group => String.ofList (Nat.toDigits 16 group))
  match longestZeros groups with
  | none => join groups
  | some (start, length) => join (groups.take start) ++ "::" ++ join (groups.drop (start + length))

/-! ## Hosts -/

def readHost (text : List Char) : Except UrlError String :=
  match text with
  | '[' :: inside =>
      if inside.getLast? = some ']' then
        match readAddressSix inside.dropLast with
        | some groups => .ok ("[" ++ addressSixText groups ++ "]")
        | none => .error .addressSix
      else .error .addressSix
  | _ =>
      let decoded := Text.decodeLossy (percentDecode (Bytes.ofText (String.ofList text)))
      match asciiDomain decoded.toList with
      | .error reason => .error reason
      | .ok name =>
          if name.isEmpty then .error .emptyHost
          else if endsInNumber name then
            match readAddressFour name with
            | some address => .ok (addressFourText address)
            | none => .error .addressFour
          else .ok (String.ofList name)

def forbiddenInHost : List Char :=
  [' ', '#', '/', ':', '<', '>', '?', '@', '[', '\\', ']', '^', '|', '\t', '\n', '\r']

def readForeignHost (text : List Char) : Except UrlError String :=
  match text with
  | '[' :: _ => readHost text
  | _ =>
      if text.any fun character => character.toNat = 0 || forbiddenInHost.contains character then
        .error .domainCharacter
      else .ok (String.ofList (percentEncode [] text))

end ContractClient.Http
