/-!
# Refusals of a URL

Why a text is not a URL, and how that is said.
-/

namespace DeclSynth

/-- Why a text is not a URL. -/
inductive UrlError where
  /-- There is no scheme, and nothing to resolve the text against. -/
  | relative
  | emptyHost
  | invalidPortNumber
  | invalidIPv4
  | invalidIPv6
  /-- The host of a scheme without rules of its own holds a character that no host may hold. -/
  | invalidDomainCharacter
  /-- The host has no ASCII form as a domain name. -/
  | invalidDomainName
deriving DecidableEq, Repr

/-- The wording of the refusal. -/
def UrlError.message : UrlError → String
  | .relative => "relative URL without a base"
  | .emptyHost => "empty host"
  | .invalidPortNumber => "invalid port number"
  | .invalidIPv4 => "invalid IPv4 address"
  | .invalidIPv6 => "invalid IPv6 address"
  | .invalidDomainCharacter => "invalid domain character"
  | .invalidDomainName => "invalid international domain name"

end DeclSynth
