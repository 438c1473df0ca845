import InventoryQuery.Url.Basic
import InventoryQuery.Url.Domain.Label
import InventoryQuery.Url.Percent
/-! # Hosts of URLs

A special scheme has a domain or a numeric address as its host: percent signs are decoded, the
domain is put into the form in which it is kept, and one whose last part is a number must be an IPv4
address. Any other scheme keeps its host as it is written, but for what has to be encoded.
-/

namespace InventoryQuery.Url.Host

/-- The characters that no host of a scheme that is not special holds. -/
def isForbidden (c : Char) : Bool :=
  ['\x00', '\t', '\n', '\r', ' ', '#', '/', ':', '<', '>', '?', '@', '[', '\\', ']', '^',
    '|'].contains c

/-- Reads an address in brackets; none if the host does not begin with a bracket. -/
def bracketed? (host : List Char) : Option (Except Fault Host) :=
  match host with
  | '[' :: inner =>
    if inner.getLast? = some ']' then
      match Ipv6.parse? inner.dropLast with
      | some pieces => some (.ok (.ipv6 pieces))
      | none => some (.error .invalidIpv6)
    else some (.error .invalidIpv6)
  | _ => none

/-- Reads the host of a special scheme. -/
def parseDomain (host : List Char) : Except Fault Host :=
  match bracketed? host with
  | some result => result
  | none =>
    match (Text.ofBytes? (percentDecode (Text.bytes host))).bind Domain.toAscii? with
    | none => .error .invalidDomainName
    | some name =>
      if name.isEmpty then .error .emptyHost
      else if Ipv4.isNumeric name then
        match Ipv4.parse? name with
        | some address => .ok (.ipv4 address)
        | none => .error .invalidIpv4
      else .ok (.domain (String.ofList name))

/-- Reads the host of a scheme that is not special. -/
def parseOpen (host : List Char) : Except Fault Host :=
  match bracketed? host with
  | some result => result
  | none =>
    if host.any isForbidden then .error .invalidDomainCharacter
    else .ok (.domain (String.ofList (percentEncode isControl host)))

end InventoryQuery.Url.Host
