/-! Why a text is not an absolute URI. -/

set_option autoImplicit false

namespace Credential

inductive UriFlaw where
  | noScheme
  | emptyHost
  | domainName
  | domainCharacter
  | port
  | ipv4
  | ipv6
  deriving DecidableEq

def UriFlaw.message : UriFlaw → String
  | noScheme => "relative URL without a base"
  | emptyHost => "empty host"
  | domainName => "invalid international domain name"
  | domainCharacter => "invalid domain character"
  | port => "invalid port number"
  | ipv4 => "invalid IPv4 address"
  | ipv6 => "invalid IPv6 address"

inductive UriFault where
  | blank
  | invalid (text : String) (flaw : UriFlaw)
  deriving DecidableEq

def UriFault.message : UriFault → String
  | blank => "uri must not be empty"
  | invalid text flaw => "invalid uri '" ++ text ++ "': " ++ flaw.message

end Credential
