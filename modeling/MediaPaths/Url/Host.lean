import MediaPaths.Url.Domain

/-!
# Hosts

Under the special schemes a host is a domain name or an IP address. Under all others it is a text of
its own, or an IPv6 address in brackets.
-/

namespace MediaPaths.Url

/-- What stands in the host's place. -/
inductive Host where
  /-- A domain name, or any text under schemes that are not special. -/
  | name (text : List Char)
  /-- An IPv4 address. -/
  | ipv4 (address : Nat)
  /-- An IPv6 address, by its eight pieces. -/
  | ipv6 (pieces : List Nat)
  deriving DecidableEq, Repr

namespace Host

/-- Whether there is no host at all. -/
def isEmpty : Host → Bool
  | name [] => true
  | _ => false

/-- How a host is written. -/
def write : Host → List Char
  | name s => s
  | ipv4 n => writeIpv4 n
  | ipv6 ps => writeIpv6 ps

/-- An address in brackets, after the opening one. -/
def bracketed (s : List Char) : Except UrlError Host :=
  match s.reverse with
  | ']' :: inner =>
    match ipv6? inner.reverse with
    | some ps => .ok (.ipv6 ps)
    | none => .error .invalidIpv6
  | _ => .error .invalidIpv6

/-- The host of a special scheme. -/
def special : List Char → Except UrlError Host
  | '[' :: s => bracketed s
  | s =>
    match (Utf8.decode? (percentDecode s)).bind Domain.toAscii? with
    | none => .error .invalidDomain
    | some [] => .error .emptyHost
    | some host =>
      if endsInNumber host then
        match ipv4? host with
        | some n => .ok (.ipv4 n)
        | none => .error .invalidIpv4
      else .ok (.name host)

/-- Whether a character is forbidden in hosts. -/
def isForbidden (c : Char) : Bool :=
  ['\x00', '\t', '\n', '\r', ' ', '#', '/', ':', '<', '>', '?', '@', '[', '\\', ']', '^',
    '|'].contains c

/-- The host of a scheme that is not special. -/
def plain : List Char → Except UrlError Host
  | '[' :: s => bracketed s
  | s =>
    if s.any isForbidden then .error .invalidHost else .ok (.name (percentEncode isControl s))

/-- Reads a host under a scheme that is special or not. -/
def read (special : Bool) (s : List Char) : Except UrlError Host :=
  if special then Host.special s else plain s

end Host

end MediaPaths.Url
