/-! # Faults of a URL -/

namespace ReplicaWatch.Url

/-- Why a text is no URL. -/
inductive Fault where
  | emptyHost
  | invalidPort
  | invalidIpv4Address
  | invalidIpv6Address
  | invalidDomainCharacter
  | invalidInternationalDomainName
  /-- A relative reference whose base has no path to go on from. -/
  | baseWithoutPath
  deriving DecidableEq

/-- The wording of a fault. -/
def Fault.message : Fault → String
  | .emptyHost => "empty host"
  | .invalidPort => "invalid port number"
  | .invalidIpv4Address => "invalid IPv4 address"
  | .invalidIpv6Address => "invalid IPv6 address"
  | .invalidDomainCharacter => "invalid domain character"
  | .invalidInternationalDomainName => "invalid international domain name"
  | .baseWithoutPath => "relative URL with a cannot-be-a-base base"

end ReplicaWatch.Url
