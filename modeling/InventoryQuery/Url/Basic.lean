import InventoryQuery.Url.Address
/-! # URLs

A URL is kept by its parts, each in the form in which it is written; `Url.text` puts them together.
A part that is absent is not written, a part that is present and empty is.
-/

namespace InventoryQuery

/-- A host as a URL names it. -/
inductive Url.Host where
  | domain (name : String)
  | ipv4 (address : UInt32)
  | ipv6 (pieces : List UInt16)
  deriving DecidableEq, Repr

/-- What stands between the two slashes and the path. An empty user name and an empty password are
not written, nor is the port that the scheme implies. -/
structure Url.Authority where
  username : String := ""
  password : String := ""
  host : Url.Host
  port : Option Nat := none
  deriving DecidableEq, Repr

/-- A URL by its parts. -/
structure Url where
  scheme : String
  authority : Option Url.Authority
  path : String
  query : Option String := none
  fragment : Option String := none
  deriving DecidableEq, Repr

namespace Url

/-- Why a text is no URL. -/
inductive Fault where
  | emptyHost
  | invalidPort
  | invalidIpv4
  | invalidIpv6
  | invalidDomainCharacter
  | invalidDomainName
  | noScheme
  deriving DecidableEq, Repr

/-- The reason in a message. -/
def Fault.message : Fault → String
  | emptyHost => "empty host"
  | invalidPort => "invalid port number"
  | invalidIpv4 => "invalid IPv4 address"
  | invalidIpv6 => "invalid IPv6 address"
  | invalidDomainCharacter => "invalid domain character"
  | invalidDomainName => "invalid international domain name"
  | noScheme => "relative URL without a base"

/-- The text of a host. -/
def Host.text : Host → String
  | domain name => name
  | ipv4 address => Ipv4.text address
  | ipv6 pieces => "[" ++ Ipv6.text pieces ++ "]"

/-- The user name and password with the sign after them. -/
def Authority.userinfo (authority : Authority) : String :=
  if authority.username = "" ∧ authority.password = "" then ""
  else if authority.password = "" then authority.username ++ "@"
  else authority.username ++ ":" ++ authority.password ++ "@"

/-- The text of an authority with the slashes before it. -/
def Authority.text (authority : Authority) : String :=
  let port := match authority.port with
    | none => ""
    | some port => ":" ++ toString port
  "//" ++ authority.userinfo ++ authority.host.text ++ port

/-- What stands between the scheme and the path. Where there is no authority, a path that begins
with two slashes is kept apart from them by a dot segment. -/
def beforePath (url : Url) : String :=
  match url.authority with
  | some authority => authority.text
  | none => if ['/', '/'].isPrefixOf url.path.toList then "/." else ""

/-- The text of a URL. -/
def text (url : Url) : String :=
  let query := match url.query with
    | none => ""
    | some query => "?" ++ query
  let fragment := match url.fragment with
    | none => ""
    | some fragment => "#" ++ fragment
  url.scheme ++ ":" ++ url.beforePath ++ url.path ++ query ++ fragment

end Url

end InventoryQuery
