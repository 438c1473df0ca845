import InventoryQuery.Url.Host
import InventoryQuery.Url.Path
/-! # Reading URLs

A URL is read without a base, so it must begin with a scheme. The special schemes have a host
whatever the number of slashes before it, and take backslashes for slashes; a `file` URL may leave
its host out; any other scheme has a host only after two slashes.
-/

namespace InventoryQuery.Url

/-- The schemes that are read by rules of their own. -/
inductive Kind where
  | special
  | file
  | other
  deriving DecidableEq, Repr

/-- The kind of a scheme. -/
def Kind.ofScheme (scheme : String) : Kind :=
  if scheme = "file" then file
  else if ["http", "https", "ws", "wss", "ftp"].contains scheme then special
  else other

/-- The port that a scheme implies. -/
def defaultPort? (scheme : String) : Option Nat :=
  if scheme = "http" ∨ scheme = "ws" then some 80
  else if scheme = "https" ∨ scheme = "wss" then some 443
  else if scheme = "ftp" then some 21
  else none

/-- Drops controls and spaces at both ends. -/
def trim (text : List Char) : List Char :=
  let isOuter (c : Char) := c.toNat ≤ 0x20
  ((text.dropWhile isOuter).reverse.dropWhile isOuter).reverse

/-- The characters of a scheme after its first letter. -/
def isSchemeChar (c : Char) : Bool :=
  c.isAlphanum || c == '+' || c == '-' || c == '.'

/-- Takes a scheme and its colon. -/
def scheme? (text : List Char) : Option (String × List Char) :=
  match text.takeWhile isSchemeChar, text.dropWhile isSchemeChar with
  | first :: more, ':' :: rest =>
    if first.isAlpha then some (String.ofList ((first :: more).map Char.toLower), rest) else none
  | _, _ => none

/-- Whether a character ends the authority. -/
def endsAuthority (special : Bool) (c : Char) : Bool :=
  c == '/' || c == '?' || c == '#' || (special && c == '\\')

/-- Takes the user name and password: all up to the last at sign before the authority ends. -/
def readUserinfo (special : Bool) (text : List Char) :
    Except Fault (String × String × List Char) :=
  let front := text.takeWhile (!endsAuthority special ·)
  if '@' ∈ front then
    let host := (front.reverse.takeWhile (· ≠ '@')).reverse
    let info := front.take (front.length - host.length - 1)
    let rest := text.drop (info.length + 1)
    match info, rest with
    | [], c :: _ =>
      if endsAuthority special c then .error .emptyHost else .ok ("", "", rest)
    | _, _ =>
      let encode (part : List Char) := String.ofList (percentEncode inUserinfoSet part)
      .ok (encode (info.takeWhile (· ≠ ':')), encode ((info.dropWhile (· ≠ ':')).drop 1), rest)
  else .ok ("", "", text)

/-- Takes the text of a host: all up to a colon outside brackets or the end of the authority. -/
def takeHost (special inBrackets : Bool) : List Char → List Char × List Char
  | [] => ([], [])
  | c :: rest =>
    if endsAuthority special c || (c == ':' && !inBrackets) then ([], c :: rest)
    else
      let inBrackets := if c == '[' then true else if c == ']' then false else inBrackets
      let (host, rest) := takeHost special inBrackets rest
      (c :: host, rest)

/-- Reads a port after its colon; the port that the scheme implies is not kept. -/
def readPort (scheme : String) (text : List Char) : Except Fault (Option Nat × List Char) :=
  let digits := text.takeWhile Char.isDigit
  let rest := text.dropWhile Char.isDigit
  let port := (numberIn? 10 digits).getD 0
  let ended : Bool := match rest with
    | [] => true
    | c :: _ => endsAuthority true c
  if 65535 < port ∨ !ended then .error .invalidPort
  else if digits.isEmpty ∨ defaultPort? scheme = some port then .ok (none, rest)
  else .ok (some port, rest)

/-- Reads an authority after its slashes. -/
def readAuthority (scheme : String) (special : Bool) (text : List Char) :
    Except Fault (Authority × List Char) := do
  let (username, password, text) ← readUserinfo special text
  let (hostText, text) := takeHost special false text
  if special ∧ hostText = [] then throw .emptyHost
  let host ← if special then Host.parseDomain hostText else Host.parseOpen hostText
  let empty := host = .domain ""
  let (port, text) ← match text with
    | ':' :: rest => if empty then throw .emptyHost else readPort scheme rest
    | _ => pure (none, text)
  if empty ∧ ¬ (username = "" ∧ password = "") then throw .emptyHost
  return (⟨username, password, host, port⟩, text)

/-- Splits off the query and the fragment. -/
def splitPath (text : List Char) : List Char × List Char :=
  let inPath (c : Char) := c != '?' && c != '#'
  (text.takeWhile inPath, text.dropWhile inPath)

/-- Adds the query and the fragment to a URL. -/
def withSuffix (special : Bool) (url : Url) (suffix : List Char) : Url :=
  let (beforeFragment, fragment) := (suffix.takeWhile (· ≠ '#'), suffix.dropWhile (· ≠ '#'))
  let query := match beforeFragment with
    | '?' :: query => some (String.ofList (percentEncode (inQuerySet special) query))
    | _ => none
  let fragment := match fragment with
    | '#' :: fragment => some (String.ofList (percentEncode inFragmentSet fragment))
    | _ => none
  { url with query, fragment }

/-- Drops one separator at the front. -/
def dropSeparator (special : Bool) (text : List Char) : List Char :=
  match text with
  | c :: rest => if Path.isSeparator special c then rest else text
  | [] => []

/-- Reads what follows the colon of a special scheme. -/
def readSpecial (scheme : String) (text : List Char) : Except Fault Url := do
  let (authority, text) ← readAuthority scheme true (text.dropWhile (Path.isSeparator true))
  let (path, suffix) := splitPath text
  let segments := Path.segments true (dropSeparator true path)
  return withSuffix true ⟨scheme, some authority, String.ofList (Path.join segments), none, none⟩
    suffix

/-- Reads what follows the colon of a scheme that is not special. -/
def readOther (scheme : String) (text : List Char) : Except Fault Url := do
  match text with
  | '/' :: '/' :: text =>
    let (authority, text) ← readAuthority scheme false text
    let (path, suffix) := splitPath text
    let path := if path.isEmpty then []
      else Path.join (Path.segments false (dropSeparator false path))
    return withSuffix false ⟨scheme, some authority, String.ofList path, none, none⟩ suffix
  | '/' :: text =>
    let (path, suffix) := splitPath text
    let path := Path.join (Path.segments false path)
    return withSuffix false ⟨scheme, none, String.ofList path, none, none⟩ suffix
  | text =>
    let (path, suffix) := splitPath text
    let path := percentEncode isControl path
    return withSuffix false ⟨scheme, none, String.ofList path, none, none⟩ suffix

/-- Reads the host of a `file` URL, and tells whether it was left out; the local host is the same as
none, and the letter of a drive is no host. -/
def readFileHost (text : List Char) : Except Fault (Host × Bool × List Char) :=
  let front := text.takeWhile (!endsAuthority true ·)
  let rest := text.dropWhile (!endsAuthority true ·)
  if Path.isDrive front then .ok (.domain "", false, text)
  else if front.isEmpty then .ok (.domain "", true, rest)
  else do
    let host ← Host.parseDomain front
    let isLocal := host = .domain "localhost"
    return (if isLocal then .domain "" else host, isLocal, rest)

/-- Reads what follows the colon of a `file` URL, given without breaks and as it was written. A path
that begins on a drive has no host. Where the host was left out, the slash before the path is an
empty segment; slashes at the front of the path count as one in the end. -/
def readFile (text written : List Char) : Except Fault Url := do
  let (host, leftOut, path) ← match text with
    | a :: b :: rest =>
      if Path.isSeparator true a && Path.isSeparator true b then readFileHost rest
      else pure (Host.domain "", false, text)
    | _ => pure (Host.domain "", false, text)
  let slashed := path.head?.any (Path.isSeparator true)
  let passed := text.length - path.length + if slashed then 1 else 0
  let start : Path.Walk := { segments := if leftOut && slashed then [[]] else [] }
  let (pathWritten, _) := splitPath (dropBeyondBreaks passed written)
  let walk := start.addAll true (Text.split (Path.isSeparator true) pathWritten)
  let host := if walk.onDrive then .domain "" else host
  let whole := '/' :: (Path.join walk.segments).dropWhile (· == '/')
  return withSuffix true ⟨"file", some { host }, String.ofList whole, none, none⟩ (splitPath path).2

/-- Reads a URL. -/
def parse (text : String) : Except Fault Url :=
  let written := trim text.toList
  let text := withoutBreaks written
  match scheme? text with
  | none => .error .noScheme
  | some (scheme, rest) =>
    match Kind.ofScheme scheme with
    | .special => readSpecial scheme rest
    | .file => readFile rest (dropBeyondBreaks (text.length - rest.length) written)
    | .other => readOther scheme rest

end InventoryQuery.Url
