/-!
# What can be wrong with a URL
-/

namespace MediaPaths

/-- Why a text is no URL. -/
inductive UrlError where
  /-- It has no scheme. -/
  | noScheme
  /-- A host is missing. -/
  | emptyHost
  /-- A port is no number of 16 bits. -/
  | invalidPort
  /-- A host that ends in a number is no IPv4 address. -/
  | invalidIpv4
  /-- A host in brackets is no IPv6 address. -/
  | invalidIpv6
  /-- A host has a character that is not allowed. -/
  | invalidHost
  /-- A host is no domain name. -/
  | invalidDomain
  deriving DecidableEq, Repr

namespace UrlError

/-- The message of an error. -/
def message : UrlError → String
  | noScheme => "relative URL without a base"
  | emptyHost => "empty host"
  | invalidPort => "invalid port number"
  | invalidIpv4 => "invalid IPv4 address"
  | invalidIpv6 => "invalid IPv6 address"
  | invalidHost => "invalid domain character"
  | invalidDomain => "invalid international domain name"

end UrlError

end MediaPaths
