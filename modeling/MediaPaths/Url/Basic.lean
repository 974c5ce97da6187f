import MediaPaths.Url.Host

/-!
# URLs

A URL is a scheme, an authority with credentials, host and port, a path, a query and a fragment. The
schemes of the web are special: they need a host, a backslash separates segments like a slash, and
each has a port of its own that is not written. `Url.parse` reads a text as browsers do, mending what
can be mended, and `Url.write` gives the one form of what was read.
-/

namespace MediaPaths

open Url

/-- A URL, with its parts in the form in which they are written. -/
structure Url where
  /-- The scheme, in lower case. -/
  scheme : List Char
  /-- The user name, encoded; empty if there is none. -/
  username : List Char
  /-- The password, encoded; empty if there is none. -/
  password : List Char
  /-- The host; without a host there is no authority at all. -/
  host : Option Host
  /-- The port, if it is not the one of the scheme. -/
  port : Option Nat
  /-- The path, encoded. -/
  path : List Char
  /-- The query, encoded. -/
  query : Option (List Char)
  /-- The fragment, encoded. -/
  fragment : Option (List Char)
  deriving DecidableEq, Repr

namespace Url

/-! ## Schemes -/

/-- The special schemes that need a host, with their ports. -/
def specialPorts : List (List Char × Nat) :=
  [("http".toList, 80), ("https".toList, 443), ("ws".toList, 80), ("wss".toList, 443),
    ("ftp".toList, 21)]

/-- Whether a scheme is special. -/
def isSpecial (scheme : List Char) : Bool := specialPorts.any (·.1 == scheme)

/-- The port of a scheme. -/
def defaultPort? (scheme : List Char) : Option Nat := specialPorts.lookup scheme

/-- Whether a character may stand in a scheme. -/
def isSchemeChar (c : Char) : Bool := c.isAlphanum || c == '+' || c == '-' || c == '.'

/-- The text without what does not count: controls and spaces at the ends, tabs and line ends
anywhere. -/
def clean (s : List Char) : List Char :=
  let blank (c : Char) : Bool := c.toNat ≤ 0x20
  ((s.dropWhile blank).reverse.dropWhile blank).reverse.filter fun c =>
    c != '\t' && c != '\n' && c != '\r'

/-- The scheme of a text, in lower case, and what follows its colon. -/
def splitScheme? (s : List Char) : Option (List Char × List Char) :=
  match s.takeWhile isSchemeChar, s.dropWhile isSchemeChar with
  | c :: cs, ':' :: rest => if c.isAlpha then some ((c :: cs).map Char.toLower, rest) else none
  | _, _ => none

/-! ## Authorities -/

/-- Whether a character ends an authority. -/
def endsAuthority (special : Bool) (c : Char) : Bool :=
  c == '/' || c == '?' || c == '#' || (special && c == '\\')

/-- Splits a text at the last occurrence of `@`: what stands before, if there is one, and after. -/
def splitUserinfo : List Char → Option (List Char) × List Char
  | [] => (none, [])
  | c :: s =>
    match splitUserinfo s with
    | (some info, rest) => (some (c :: info), rest)
    | (none, rest) => if c == '@' then (some [], rest) else (none, c :: s)

/-- The encoded user name and password of a user information, cut at the first colon. -/
def credentials (info : List Char) : List Char × List Char :=
  (percentEncode inUserinfoSet (info.takeWhile (· != ':')),
    percentEncode inUserinfoSet ((info.dropWhile (· != ':')).drop 1))

/-- Splits a host from its port, at the first colon outside brackets. -/
def splitHost : (inBrackets : Bool) → List Char → List Char × List Char
  | _, [] => ([], [])
  | inside, c :: s =>
    if c == ':' && !inside then ([], c :: s)
    else
      let (host, rest) := splitHost (if c == '[' then true else if c == ']' then false else inside) s
      (c :: host, rest)

/-- Reads a port with its colon: the port if it is not the one of the scheme, and what is left. Under
schemes that are not special a backslash ends a port. -/
def readPort (scheme : List Char) : List Char → Except UrlError (Option Nat × List Char)
  | ':' :: s =>
    let digits := s.takeWhile Char.isDigit
    let rest := s.dropWhile Char.isDigit
    let port := digits.foldl (fun n d => n * 10 + (d.toNat - '0'.toNat)) 0
    if 65535 < port then .error .invalidPort
    else if rest.head?.any (· != '\\') then .error .invalidPort
    else if digits.isEmpty || defaultPort? scheme == some port then .ok (none, rest)
    else .ok (some port, rest)
  | s => .ok (none, s)

/-- An authority as it was read. -/
structure Authority where
  /-- The user name, encoded. -/
  username : List Char
  /-- The password, encoded. -/
  password : List Char
  /-- The host. -/
  host : Host
  /-- The port, if it is not the one of the scheme. -/
  port : Option Nat
  /-- What has to be read as part of the path. -/
  rest : List Char

/-- Reads an authority, given whether anything follows it. -/
def readAuthority (scheme : List Char) (more : Bool) (s : List Char) :
    Except UrlError Authority := do
  let special := isSpecial scheme
  let (info, hostPort) := splitUserinfo s
  if info == some [] && hostPort.isEmpty && more then throw .emptyHost
  let (username, password) := credentials (info.getD [])
  let (text, afterHost) := splitHost false hostPort
  if special && text.isEmpty then throw .emptyHost
  let host ← Host.read special text
  if host.isEmpty && afterHost.head? == some ':' then throw .emptyHost
  let (port, rest) ← readPort scheme afterHost
  if host.isEmpty && !(username.isEmpty && password.isEmpty) then throw .emptyHost
  return ⟨username, password, host, port, rest⟩

/-! ## Paths -/

/-- Whether a character separates the segments of a path. -/
def isSeparator (special : Bool) (c : Char) : Bool := c == '/' || (special && c == '\\')

/-- Whether a segment stands for the one before the last. -/
def isDoubleDot (segment : List Char) : Bool :=
  ["..", "%2e%2e", ".%2e", "%2e."].contains (String.ofList (segment.map Char.toLower))

/-- Whether a segment stands for the last one. -/
def isSingleDot (segment : List Char) : Bool :=
  [".", "%2e"].contains (String.ofList (segment.map Char.toLower))

/-- The text up to its last slash, which is kept. -/
def upToSlash (path : List Char) : List Char := (path.reverse.dropWhile (· != '/')).reverse

/-- Whether a text is a letter with a colon or a bar, the name of a drive. -/
def isDrive : List Char → Bool
  | [a, b] => a.isAlpha && (b == ':' || b == '|')
  | _ => false

/-- Whether a segment is the name of a drive, or begins with one and a backslash. -/
def namesDrive (segment : List Char) : Bool :=
  isDrive (segment.take 2) && (segment.drop 2).head?.all (· == '\\')

/-- A path without its last segment. The path ends in a slash; a drive is not taken away. -/
def parent (path : List Char) : List Char :=
  let inner := path.dropLast
  let last := (inner.reverse.takeWhile (· != '/')).reverse
  if inner.contains '/' && !namesDrive last then upToSlash inner else upToSlash path

/-- Reads segments behind the path read so far: the whole path and the rest from a question mark or
number sign on. Every round takes at least one character. -/
def readPathFrom (special : Bool) :
    (fuel : Nat) → (path : List Char) → List Char → List Char × List Char
  | 0, path, s => (path, s)
  | fuel + 1, path, s =>
    let stop (c : Char) : Bool := isSeparator special c || c == '?' || c == '#'
    let segment := s.takeWhile (!stop ·)
    let rest := s.dropWhile (!stop ·)
    let more := rest.head?.any (isSeparator special)
    let path :=
      if isDoubleDot segment then parent path
      else if isSingleDot segment then path
      else path ++ percentEncode inPathSet segment ++ (if more then ['/'] else [])
    if more then readPathFrom special fuel path (rest.drop 1) else (path, rest)

/-- Reads segments behind the path read so far. -/
def readPath (special : Bool) (path s : List Char) : List Char × List Char :=
  readPathFrom special (s.length + 1) path s

/-- Reads the path after an authority. Under a special scheme it begins with a slash in any case. -/
def readPathAfterAuthority (special : Bool) : List Char → List Char × List Char
  | [] => if special then (['/'], []) else ([], [])
  | c :: s =>
    if isSeparator special c then readPath special ['/'] s
    else if special || (c != '?' && c != '#') then readPath special ['/'] (c :: s)
    else ([], c :: s)

/-! ## Whole URLs -/

/-- The query and the fragment that the rest of a URL holds. -/
def readTail (special : Bool) (s : List Char) : Option (List Char) × Option (List Char) :=
  let query := s.takeWhile (· != '#')
  let fragment := match s.dropWhile (· != '#') with
    | '#' :: rest => some (percentEncode inFragmentSet rest)
    | _ => none
  match query with
  | '?' :: query => (some (percentEncode (inQuerySet special) query), fragment)
  | _ => (none, fragment)

/-- Reads what follows the slashes in front of an authority. -/
def parseAfterSlashes (scheme s : List Char) : Except UrlError Url :=
  let special := isSpecial scheme
  let rest := s.dropWhile (!endsAuthority special ·)
  match readAuthority scheme (!rest.isEmpty) (s.takeWhile (!endsAuthority special ·)) with
  | .error e => .error e
  | .ok a =>
    let (path, rest) := readPathAfterAuthority special (a.rest ++ rest)
    let (query, fragment) := readTail special rest
    .ok ⟨scheme, a.username, a.password, some a.host, a.port, path, query, fragment⟩

/-- Reads what follows the colon of a URL without authority. If no slash begins it, it is not divided
into segments. -/
def parsePathOnly (scheme s : List Char) : Url :=
  let (path, rest) := match s with
    | '/' :: s => readPath false ['/'] s
    | s =>
      let tail (c : Char) : Bool := c == '?' || c == '#'
      (percentEncode isControl (s.takeWhile (!tail ·)), s.dropWhile (!tail ·))
  let (query, fragment) := readTail false rest
  ⟨scheme, [], [], none, none, path, query, fragment⟩

/-- Reads what follows the colon of the URL of a file. Files have no credentials and no port, and their
URLs are of use here only as texts that are well formed: the host is checked, and what follows is kept
as a path. -/
def parseFile (scheme s : List Char) : Except UrlError Url :=
  let plain (path : List Char) : Url := ⟨scheme, [], [], none, none, path, none, none⟩
  match s with
  | a :: b :: rest =>
    if isSeparator true a && isSeparator true b then
      let host := rest.takeWhile (!endsAuthority true ·)
      if host.isEmpty || isDrive host then .ok (plain rest)
      else
        match Host.special host with
        | .ok _ => .ok (plain (rest.dropWhile (!endsAuthority true ·)))
        | .error e => .error e
    else .ok (plain s)
  | _ => .ok (plain s)

/-- Reads a URL. -/
def parseChars (s : List Char) : Except UrlError Url :=
  match splitScheme? (clean s) with
  | none => .error .noScheme
  | some (scheme, rest) =>
    if scheme == "file".toList then parseFile scheme rest
    else if isSpecial scheme then
      parseAfterSlashes scheme (rest.dropWhile (isSeparator true))
    else
      match rest with
      | '/' :: '/' :: rest => parseAfterSlashes scheme rest
      | rest => .ok (parsePathOnly scheme rest)

/-- Reads a URL from a string. -/
def parse (s : String) : Except UrlError Url := parseChars s.toList

/-- The credentials as they are written, with `@`; nothing if both are empty. -/
def writeCredentials (u : Url) : List Char :=
  if u.username.isEmpty && u.password.isEmpty then []
  else u.username ++ (if u.password.isEmpty then [] else ':' :: u.password) ++ ['@']

/-- An optional part behind its sign. -/
def writeOptional (sign : Char) : Option (List Char) → List Char
  | none => []
  | some s => sign :: s

/-- What stands between the colon of the scheme and the path. -/
def writeAuthority (u : Url) : List Char :=
  match u.host with
  | some host =>
    ['/', '/'] ++ u.writeCredentials ++ host.write ++ writeOptional ':' (u.port.map (Nat.toDigits 10))
  | none => if ['/', '/'].isPrefixOf u.path then ['/', '.'] else []

/-- The one form of a URL. -/
def write (u : Url) : List Char :=
  u.scheme ++ ':' :: u.writeAuthority ++ u.path ++ writeOptional '?' u.query ++
    writeOptional '#' u.fragment

/-- Whether a URL has a host that is not empty. -/
def hasHost (u : Url) : Bool := u.host.any (!·.isEmpty)

/-- The URL with other credentials, which only a URL with a host can carry. -/
def withCredentials? (u : Url) (username password : String) : Option Url :=
  if u.hasHost then
    some { u with
      username := percentEncode inUserinfoSet username.toList
      password := percentEncode inUserinfoSet password.toList }
  else none

end Url

end MediaPaths
