import ContractClient.Http.Host

namespace ContractClient.Http

/-! URLs in their one written form. Schemes and hosts are written in lower case,
a port that the scheme implies is left out, a path begins with a slash and has
no dot segments, and characters that may not stand for themselves are encoded.
Credentials before a host are sent on their own and are no part of the URL. -/

structure Url where
  scheme : String
  /-- The host and the port; some URLs have none. -/
  authority : Option String
  path : String
  query : Option String
  fragment : Option String
deriving DecidableEq, Repr

namespace Url

def toText (url : Url) : String :=
  url.scheme ++ ":" ++ (url.authority.map ("//" ++ ·)).getD "" ++ url.path ++
    (url.query.map ("?" ++ ·)).getD "" ++ (url.fragment.map ("#" ++ ·)).getD ""

/-- Requests can be sent to the URL: its scheme is that of the web, and its host
has no character that a request line cannot carry. -/
def isSendable (url : Url) : Bool :=
  (url.scheme == "http" || url.scheme == "https") &&
    !((url.authority.getD "").toList.any fun character => ['"', graveAccent, '{', '}'].contains character)

/-! ## Reading -/

/-- Drop controls and blanks at both ends, and tabs and line breaks everywhere. -/
def clean (text : List Char) : List Char :=
  let outside (character : Char) : Bool := character.toNat ≤ 0x20
  let trimmed := ((text.dropWhile outside).reverse.dropWhile outside).reverse
  trimmed.filter fun character => character ≠ '\t' && character ≠ '\n' && character ≠ '\r'

/-- Split the scheme off a text: a letter, then letters, digits, plus, minus and
dots, up to a colon. -/
def splitScheme (text : List Char) : Option (String × List Char) :=
  let inScheme (character : Char) : Bool :=
    character.isAlphanum || character = '+' || character = '-' || character = '.'
  match text with
  | first :: _ =>
      match first.isAlpha, text.dropWhile inScheme with
      | true, ':' :: rest =>
          some (String.ofList (Text.lowerAscii (text.takeWhile inScheme)), rest)
      | _, _ => none
  | [] => none

def isKnownScheme (scheme : String) : Bool :=
  ["http", "https", "ws", "wss", "ftp", "file"].contains scheme

def impliedPort? : String → Option Nat
  | "http" | "ws" => some 80
  | "https" | "wss" => some 443
  | "ftp" => some 21
  | _ => none

def dropCredentials (authority : List Char) : List Char :=
  if authority.contains '@' then
    (authority.reverse.takeWhile fun character => character ≠ '@').reverse
  else authority

/-- Cut the port off a host. A colon inside brackets belongs to the host. -/
def splitPort (inBrackets : Bool) : List Char → List Char × Option (List Char)
  | [] => ([], none)
  | character :: rest =>
      if character = ':' ∧ !inBrackets then ([], some rest)
      else
        let inside := character = '[' || (inBrackets && character ≠ ']')
        let (host, port) := splitPort inside rest
        (character :: host, port)

def readPort (scheme : String) (digits : List Char) : Except UrlError (Option Nat) :=
  if digits.isEmpty then .ok none
  else if digits.all Char.isDigit then
    let port := digits.foldl (fun total digit => 10 * total + (digit.toNat - 48)) 0
    if 65535 < port then .error .port
    else if impliedPort? scheme = some port then .ok none
    else .ok (some port)
  else .error .port

def readAuthority (scheme : String) (authority : List Char) : Except UrlError String :=
  let (host, port) := splitPort false (dropCredentials authority)
  if host.isEmpty then
    if scheme = "file" ∧ authority.isEmpty then .ok ""
    else if isKnownScheme scheme ∨ port.isSome ∨ !authority.isEmpty then .error .emptyHost
    else .ok ""
  else
    match if isKnownScheme scheme then readHost host else readForeignHost host with
    | .error reason => .error reason
    | .ok name =>
        match readPort scheme (port.getD []) with
        | .error reason => .error reason
        | .ok none => .ok name
        | .ok (some number) => .ok (name ++ ":" ++ toString number)

/-- A segment that means the same place, or the place above. -/
def dots? (segment : List Char) : Option Nat :=
  let plain := Text.replaceAll ['%', '2', 'e'] ['.'] (Text.lowerAscii segment)
  if plain = ['.'] then some 1 else if plain = ['.', '.'] then some 2 else none

/-- Follow the segments of a path. A dot segment at the end leaves an empty one;
`passed` holds the segments before, the last one first. -/
def followSegments (passed : List (List Char)) : List (List Char) → List (List Char)
  | [] => passed.reverse
  | segment :: rest =>
      let ended (above : List (List Char)) : List (List Char) :=
        if rest.isEmpty then [] :: above else above
      match dots? segment with
      | some 1 => followSegments (ended passed) rest
      | some _ => followSegments (ended passed.tail) rest
      | none => followSegments (segment :: passed) rest

def encodedInPath : List Char := [' ', '"', '<', '>', graveAccent, '#', '?', '{', '}']

def readPath (known : Bool) (text : List Char) : String :=
  let slashed := if known then text.map fun character => if character = '\\' then '/' else character
    else text
  let segments := Text.splitOn '/' (if slashed.head? = some '/' then slashed.tail else slashed)
  let encoded := (followSegments [] segments).map (percentEncode encodedInPath)
  String.ofList ('/' :: List.intercalate ['/'] encoded)

/-- Cut a text at the first character of a kind; the character itself is lost. -/
def cutAt (mark : Char) (text : List Char) : List Char × Option (List Char) :=
  match text.dropWhile fun character => character ≠ mark with
  | _ :: behind => (text.takeWhile fun character => character ≠ mark, some behind)
  | [] => (text, none)

def parse (input : String) : Except UrlError Url :=
  match splitScheme (clean input.toList) with
  | none => .error .noScheme
  | some (scheme, rest) =>
      let known := isKnownScheme scheme
      let isSlash (character : Char) : Bool := character = '/' || (known && character = '\\')
      let (body, fragment) := cutAt '#' rest
      let (address, query) := cutAt '?' body
      let finish (authority : Option String) (path : String) : Url :=
        { scheme, authority, path
          query := query.map fun text => String.ofList
            (percentEncode (([' ', '"', '#', '<', '>'] : List Char) ++
              if known then [Text.Quoted.apostrophe] else []) text)
          fragment := fragment.map fun text =>
            String.ofList (percentEncode [' ', '"', '<', '>', graveAccent] text) }
      let located (behind : List Char) : Except UrlError Url :=
        let path := behind.dropWhile fun character => !isSlash character
        match readAuthority scheme (behind.takeWhile fun character => !isSlash character) with
        | .error reason => .error reason
        | .ok authority =>
            .ok (finish (some authority) (if path.isEmpty ∧ !known then "" else readPath known path))
      if scheme = "file" then
        match address with
        | first :: second :: behind =>
            if isSlash first && isSlash second then located behind
            else .ok (finish (some "") (readPath known address))
        | _ => .ok (finish (some "") (readPath known address))
      else if known then located (address.dropWhile isSlash)
      else
        match address with
        | '/' :: '/' :: behind => located behind
        | '/' :: _ => .ok (finish none (readPath known address))
        | _ => .ok (finish none (String.ofList (percentEncode [] address)))

end Url

end ContractClient.Http
