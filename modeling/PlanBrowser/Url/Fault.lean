/-!
# Faults of URLs

* `Fault` — why a text is no URL;
* `Fault.message` — the same in words.
-/

namespace PlanBrowser.Url

/-- Why a text is no URL. -/
inductive Fault where
  /-- There is no scheme. -/
  | noScheme
  /-- A host is needed and there is none. -/
  | emptyHost
  /-- The host is no domain name. -/
  | badDomain
  /-- The host of a URL that is not special holds a character that no host may hold. -/
  | badHostCharacter
  /-- The host ends in a number, but is no address of four bytes. -/
  | badIpv4
  /-- The host in brackets is no address of eight groups. -/
  | badIpv6
  /-- The port is no number of sixteen bits. -/
  | badPort
  deriving Repr, DecidableEq, Inhabited

/-- A fault in words. -/
def Fault.message : Fault → String
  | noScheme => "relative URL without a base"
  | emptyHost => "empty host"
  | badDomain => "invalid international domain name"
  | badHostCharacter => "invalid domain character"
  | badIpv4 => "invalid IPv4 address"
  | badIpv6 => "invalid IPv6 address"
  | badPort => "invalid port number"

end PlanBrowser.Url
