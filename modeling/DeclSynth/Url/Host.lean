import DeclSynth.Url.Address
import DeclSynth.Url.Domain
import DeclSynth.Url.Error
import DeclSynth.Url.Escape

/-!
# Hosts

A host is a name or an address. The schemes of the web read a name as a domain name, and
one that ends in a number as an address; other schemes keep the name they are given.
-/

namespace DeclSynth.Url

/-- A host; the empty name is no host at all. -/
inductive Host where
  | name (text : String)
  | ipv4 (address : IPv4)
  | ipv6 (address : IPv6)
deriving DecidableEq, Repr

/-- The host as it is written. -/
def Host.render : Host → String
  | .name text => text
  | .ipv4 address => address.render
  | .ipv6 address => "[" ++ address.render ++ "]"

/-- Whether nothing is written for the host. -/
def Host.isEmpty : Host → Bool
  | .name text => text == ""
  | _ => false

/-- Reads what starts with a square bracket: an address of eight groups up to the closing one. -/
def Host.bracketed (body : List Char) : Except UrlError Host :=
  match (if body.getLast? = some ']' then IPv6.parse? body.dropLast else none) with
  | some address => .ok (.ipv6 address)
  | none => .error .invalidIPv6

/-- Reads a host of a special scheme. -/
def Host.ofDomain (cs : List Char) : Except UrlError Host :=
  match cs with
  | '[' :: body => Host.bracketed body
  | _ =>
    match (decodeBytes? (unescape cs)).bind Domain.toAscii? with
    | none => .error .invalidDomainName
    | some [] => .error .emptyHost
    | some domain =>
      if IPv4.isClaimed domain then
        match IPv4.parse? domain with
        | some address => .ok (.ipv4 address)
        | none => .error .invalidIPv4
      else .ok (.name (String.ofList domain))

/-- Whether a character is barred from the hosts of all schemes. -/
def isForbiddenInHost (c : Char) : Bool :=
  c ∈ ['\x00', '\t', '\n', '\x0d', ' ', '#', '/', ':', '<', '>', '?', '@', '[', '\\', ']', '^', '|']

/-- Reads a host of a scheme without rules of its own. -/
def Host.ofText (cs : List Char) : Except UrlError Host :=
  match cs with
  | '[' :: body => Host.bracketed body
  | _ =>
    if cs.any isForbiddenInHost then .error .invalidDomainCharacter
    else .ok (.name (String.ofList (escape isControl cs)))

end DeclSynth.Url
