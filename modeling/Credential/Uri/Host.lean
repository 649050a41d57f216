import Credential.Uri.Address
import Credential.Uri.Domain

/-! The host of a URI.

Special schemes name hosts by domain or address. The host of any other scheme
is taken as it is, apart from a few forbidden characters.
-/

set_option autoImplicit false

namespace Credential.Host

/-- Bytes of a host with percent escapes undone. A percent sign without two digits stays. -/
def percentDecode : List UInt8 → List UInt8
  | [] => []
  | 0x25 :: high :: low :: rest =>
    match Json.hexDigit? (Char.ofNat high.toNat), Json.hexDigit? (Char.ofNat low.toNat) with
    | some h, some l => UInt8.ofNat (16 * h + l) :: percentDecode rest
    | _, _ => 0x25 :: percentDecode (high :: low :: rest)
  | byte :: rest => byte :: percentDecode rest

def unescape? (host : List Char) : Option (List Char) :=
  let bytes := percentDecode (String.ofList host).toByteArray.toList
  (String.fromUTF8? ⟨bytes.toArray⟩).map String.toList

def bracketed (host : List Char) : Except UriFlaw Unit :=
  if host.getLast? = some ']' ∧ Ipv6.isAddress (host.tail.dropLast) then .ok () else .error .ipv6

/-- The host of a special scheme. A name that ends in a number has to be an address. -/
def special (host : List Char) : Except UriFlaw Unit :=
  if host.head? = some '[' then bracketed host
  else
    match (unescape? host).bind Domain.read? with
    | none => .error .domainName
    | some [] => .error .emptyHost
    | some name =>
      if Ipv4.endsInNumber name then
        if Ipv4.isAddress name then .ok () else .error .ipv4
      else .ok ()

def forbidden : List Char :=
  ['\x00', '\t', '\n', '\r', ' ', '#', '/', ':', '<', '>', '?', '@', '[', '\\', ']', '^', '|']

def verbatim (host : List Char) : Except UriFlaw Unit :=
  if host.head? = some '[' then bracketed host
  else if host.any forbidden.contains then .error .domainCharacter
  else .ok ()

end Credential.Host
